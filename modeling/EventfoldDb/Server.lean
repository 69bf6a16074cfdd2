import EventfoldDb.CallProgress
import EventfoldDb.Config
import EventfoldDb.FanOut
import EventfoldDb.Lifecycle
import EventfoldDb.ServiceReads

/-! The server process: how it starts, the check of tokens in front of the service, the requests it
serves at the same time, and how it stops. -/

namespace EventfoldDb
open Outcome

/-! ### Tokens -/

inductive Authorization where
  | absent
  /-- Not visible ASCII. -/
  | binary
  | text (value : String)
  deriving DecidableEq, Repr

structure Validation where
  algorithm : String
  validateExp : Bool
  leeway : Nat
  requiredSpecClaims : List String
  deriving DecidableEq, Repr

/-- `jsonwebtoken::decode` at a time: the claims are not used, the text of the error is. -/
abbrev Decoder := Nat → String → Validation → String → Except String Unit

structure JwtInterceptor where
  decodingKey : String
  validation : Validation
  deriving DecidableEq, Repr

namespace JwtInterceptor

def new (secret : String) : JwtInterceptor where
  decodingKey := secret
  validation := { algorithm := "HS256", validateExp := true, leeway := 0, requiredSpecClaims := ["exp", "sub"] }

/-- The message is that of an `UNAUTHENTICATED` status. -/
def call (interceptor : JwtInterceptor) (decode : Decoder) (now : Nat) (authorization : Authorization) :
    Except String Unit :=
  match authorization with
  | .absent => .error "missing authorization header"
  | .binary => .error "missing authorization header"
  | .text value =>
      match value.toList.dropPrefix? "Bearer ".toList with
      | none => .error "invalid authorization header format"
      | some token => decode now interceptor.decodingKey interceptor.validation (String.ofList token)

theorem call_eq_ok {interceptor : JwtInterceptor} {decode : Decoder} {now : Nat} {authorization : Authorization} :
    interceptor.call decode now authorization = .ok () ↔
      ∃ token, authorization = .text ("Bearer " ++ token) ∧
        decode now interceptor.decodingKey interceptor.validation token = .ok () := by
  cases authorization with
  | absent => simp [call]
  | binary => simp [call]
  | text value =>
    have strips : ∀ token, value.toList.dropPrefix? "Bearer ".toList = some token ↔
        value = "Bearer " ++ String.ofList token := by
      intro token
      rw [List.dropPrefix?_eq_some_iff, ← String.toList_inj, String.toList_append, String.toList_ofList]
      simp
    rw [call]
    cases stripped : value.toList.dropPrefix? "Bearer ".toList with
    | none =>
      simp only [reduceCtorEq, Authorization.text.injEq, false_iff, not_exists, not_and]
      intro token same
      have found := (strips token.toList).mpr (by rw [String.ofList_toList, same])
      rw [stripped] at found
      cases found
    | some token =>
      have same := (strips token).mp stripped
      constructor
      · intro decoded
        exact ⟨String.ofList token, by rw [same], decoded⟩
      · rintro ⟨other, isText, decoded⟩
        have equal : String.ofList token = other := by
          rw [Authorization.text.injEq, same, ← String.toList_inj, String.toList_append, String.toList_append] at isText
          exact String.toList_inj.mp (List.append_cancel_left isText)
        rw [← equal] at decoded
        exact decoded

end JwtInterceptor

/-! ### Requests -/

namespace Server

inductive Rpc where
  | append (message : Proto.AppendRequest)
  | readStream (request : Proto.ReadStreamRequest)
  | readAll (request : Proto.ReadAllRequest)
  | listStreams
  | subscribeAll (fromPosition : UInt64)
  | subscribeStream (streamId : String) (fromVersion : UInt64)
  /-- To the health service, which answers a watch with a stream that stays open. -/
  | health (watches : Bool)

/-- The interceptor is in front of the event store and not of the health service. -/
def Rpc.guarded : Rpc → Bool
  | .health _ => false
  | _ => true

inductive Reply where
  /-- From the interceptor. -/
  | unauthenticated (message : String)
  | append (result : Outcome Status Proto.AppendResponse)
  | readStream (result : Outcome Status Proto.ReadStreamResponse)
  | readAll (result : Outcome Status Proto.ReadAllResponse)
  | listStreams (response : Proto.ListStreamsResponse)
  /-- In place of a stream. -/
  | refused (status : Status)
  | health

inductive Progress where
  | replied (reply : Reply)
  /-- In `writer.append`, by the index of the call. -/
  | appending (call : Nat)
  /-- A stream that has not been polled. -/
  | opened (target : Target) (start : UInt64)
  /-- A stream with a subscription inside, by the index of the subscriber. -/
  | streaming (subscriber : Nat)
  /-- A stream of the health service. -/
  | watching
  /-- The client went away first. -/
  | cancelled

structure Exchange where
  authorization : Authorization
  receivedAt : Nat
  rpc : Rpc
  progress : Progress

inductive Stage where
  | listening
  /-- A signal has come. -/
  | draining
  /-- The server has returned, and the writer task is awaited. -/
  | joining
  | stopped
  /-- The `expect` on the join handle. -/
  | panicked
  deriving DecidableEq, Repr

/-- The writer with its callers, the broker with its subscriptions, and all requests up to now. -/
structure Process where
  interceptor : Option JwtInterceptor
  system : WriterSystem
  broker : Broker
  subscribers : List Subscriber
  published : List RecordedEvent
  exchanges : List Exchange
  /-- The gauge `eventfold_subscriptions_active`. -/
  subscriptionsActive : Int
  stage : Stage

namespace Process

def log (process : Process) : EventLog := process.system.task.writer.store.log

def hub (process : Process) : Hub := ⟨process.system.task, process.broker, process.subscribers, process.published⟩

/-- Without a secret there is no interceptor. -/
def admits (decode : Decoder) (now : Nat) (authorization : Authorization) (rpc : Rpc) (process : Process) :
    Except String Unit :=
  match process.interceptor with
  | some interceptor => if rpc.guarded then interceptor.call decode now authorization else .ok ()
  | none => .ok ()

/-- A handler up to its end or up to where it first waits. -/
def handle (crc : Crc32fast) (parser : UuidParser) (iteration : List (Uuid × List UInt64)) (rpc : Rpc)
    (process : Process) : Option (Progress × WriterSystem) :=
  match rpc with
  | .append message =>
      match EventfoldService.request parser message with
      | .error status => some (.replied (.append (err status)), process.system)
      | .ok asked =>
          (WriterSystem.next crc (.append asked) process.system).map fun system =>
            (.appending process.system.calls.length, system)
  | .readStream request =>
      some (.replied (.readStream (EventfoldService.readStream parser process.log request)), process.system)
  | .readAll request => some (.replied (.readAll (EventfoldService.readAll process.log request)), process.system)
  | .listStreams => some (.replied (.listStreams (EventfoldService.listStreams iteration)), process.system)
  | .subscribeAll fromPosition => some (.opened .all fromPosition, process.system)
  | .subscribeStream streamId fromVersion =>
      match parseUuid parser streamId "stream_id" with
      | .error status => some (.replied (.refused status), process.system)
      | .ok streamId => some (.opened (.stream streamId) fromVersion, process.system)
  | .health watches => some (if watches then .watching else .replied .health, process.system)

def answer : Except Error (List RecordedEvent) → Reply
  | .error error => .append (err (errorToStatus error))
  | .ok recorded => .append (EventfoldService.respond recorded)

def put (process : Process) (index : Nat) (exchange : Exchange) (progress : Progress) : Process :=
  { process with exchanges := process.exchanges.set index { exchange with progress } }

/-- After a step of the subscription with this index; its guard is dropped with it. -/
def withHub (process : Process) (subscriber : Nat) (hub : Hub) : Process :=
  { process with
    broker := hub.broker
    subscribers := hub.subscribers
    subscriptionsActive :=
      if (hub.subscribers[subscriber]?.elim false Subscriber.alive) then process.subscriptionsActive
      else process.subscriptionsActive - 1 }

/-- The server waits for this request before it returns. -/
def inFlight (process : Process) (exchange : Exchange) : Bool :=
  match exchange.progress with
  | .replied _ => false
  | .appending _ => true
  | .opened _ _ => true
  | .streaming subscriber => process.subscribers[subscriber]?.elim false Subscriber.alive
  | .watching => true
  | .cancelled => false

inductive Step where
  /-- With the order in which the hash map would hand out its entries. -/
  | request (authorization : Authorization) (now : Nat) (rpc : Rpc) (iteration : List (Uuid × List UInt64))
  /-- A step of the writer task or of a call that waits for it. -/
  | writer (step : WriterSystem.Step)
  | reply (index : Nat)
  | poll (index : Nat)
  /-- The client goes away, and what serves it is dropped. -/
  | disconnect (index : Nat)
  | signal
  /-- Nothing is left to serve; the service and then the last handle are dropped. -/
  | release
  | join

/-- The steps of the writer task, also its abort, and of the calls that wait for it. -/
def working : WriterSystem.Step → Bool
  | .abort => true
  | step => CallProgress.internal step

def next (crc : Crc32fast) (parser : UuidParser) (decode : Decoder) : Step → Process → Option Process
  | .request authorization now rpc iteration, process =>
      if process.stage = .listening then
        match process.admits decode now authorization rpc with
        | .error message => some { process with
            exchanges := process.exchanges ++ [⟨authorization, now, rpc, .replied (.unauthenticated message)⟩] }
        | .ok () =>
            (process.handle crc parser iteration rpc).map fun handled => { process with
              system := handled.2
              exchanges := process.exchanges ++ [⟨authorization, now, rpc, handled.1⟩] }
      else none
  | .writer step, process =>
      if working step then
        (WriterSystem.next crc step process.system).map fun system =>
          match step with
          | .publish => { process with
              system
              broker := process.broker.publish (Task.sends .publish process.system.task)
              published := process.published ++ Task.sends .publish process.system.task }
          | _ => { process with system }
      else none
  | .reply index, process =>
      match process.exchanges[index]? with
      | some ⟨authorization, receivedAt, rpc, .appending call⟩ =>
          match process.system.calls[call]? with
          | some ⟨_, _, .returned result⟩ =>
              some (process.put index ⟨authorization, receivedAt, rpc, .appending call⟩ (.replied (answer result)))
          | _ => none
      | _ => none
  | .poll index, process =>
      match process.exchanges[index]? with
      | some ⟨authorization, receivedAt, rpc, .opened target start⟩ =>
          -- the guard and the receiver are made when the stream is first polled
          (Hub.next crc (.subscribe target start) process.hub).map fun hub =>
            { process with
              broker := hub.broker
              subscribers := hub.subscribers
              subscriptionsActive := process.subscriptionsActive + 1 }.put index
                ⟨authorization, receivedAt, rpc, .opened target start⟩ (.streaming process.subscribers.length)
      | some ⟨_, _, _, .streaming subscriber⟩ =>
          (Hub.next crc (.poll subscriber) process.hub).map (process.withHub subscriber)
      | _ => none
  | .disconnect index, process =>
      match process.exchanges[index]? with
      | some exchange =>
          if process.inFlight exchange then
            match exchange.progress with
            | .appending call =>
                match WriterSystem.next crc (.cancel call) process.system with
                | some system => some ({ process with system }.put index exchange .cancelled)
                -- the call has returned
                | none => some (process.put index exchange .cancelled)
            | .streaming subscriber =>
                (Hub.next crc (.drop subscriber) process.hub).map fun hub =>
                  (process.withHub subscriber hub).put index exchange .cancelled
            | _ => some (process.put index exchange .cancelled)
          else none
      | none => none
  | .signal, process => if process.stage = .listening then some { process with stage := .draining } else none
  | .release, process =>
      if process.stage = .draining ∧ process.exchanges.all (fun exchange => !process.inFlight exchange) then
        ((WriterSystem.next crc .drop process.system).bind (WriterSystem.next crc .drop)).map fun system =>
          { process with system, stage := .joining }
      else none
  | .join, process =>
      if process.stage = .joining then
        match process.system.status with
        | .running => none
        | .finished => some { process with stage := .stopped }
        | .panicked => some { process with stage := .panicked }
      else none

/-- The hash map hands out each of its entries once. -/
def Permitted (process : Process) : Step → Prop
  | .request _ _ _ iteration => Iterates process.log.streams iteration
  | _ => True

end Process

/-! ### The start -/

/-- What the process finds when it starts. -/
structure Host (Addr : Type) where
  platform : Platform
  env : Env
  files : String → Option File
  /-- Whether the directory that `Path::parent` gives for a path can be opened and synced. For a bare
  name it gives the empty path, which cannot be opened. -/
  syncsParent : String → Bool
  bareName : ∀ path, '/' ∉ path.toList → syncsParent path = false
  /-- The content of a file, if it can be read. -/
  pem : String → Option Bytes
  /-- Whether certificate, key and authority can be used. -/
  tlsConfig : Bytes → Bytes → Option Bytes → Bool
  /-- Whether the address can be listened on. -/
  binds : Addr → Bool

inductive Exit where
  | config (message : String)
  | store (error : Error)
  | certificate
  | privateKey
  | authority
  | tls
  | listener

section
variable {Addr : Type}

/-- The PEM files are read in this order. -/
def secure (host : Host Addr) (tls : TlsConfig) : Outcome Exit Unit :=
  match host.pem tls.certPath with
  | none => err .certificate
  | some cert =>
      match host.pem tls.keyPath with
      | none => err .privateKey
      | some key =>
          match tls.caPath with
          | none => if host.tlsConfig cert key none then ok () else err .tls
          | some caPath =>
              match host.pem caPath with
              | none => err .authority
              | some ca => if host.tlsConfig cert key (some ca) then ok () else err .tls

def transport (host : Host Addr) (config : Config Addr) : Outcome Exit Unit :=
  match config.tls with
  | some tls => secure host tls
  | none => ok ()

def infallible {α : Type} : Outcome Error α → Outcome Exit α
  | .ok value => ok value
  | _ => panic

def channelCapacity : Nat := 64

/-- From the open store to the bound listener. The handle is cloned for the service. -/
def serve (host : Host Addr) (config : Config Addr) (store : Store) : Outcome Exit Process := do
  let broker ← infallible (Broker.new host.platform config.brokerCapacity.toNat)
  let system ← infallible (spawnWriter host.platform store channelCapacity config.dedupCapacity.val.toNat)
  transport host config
  if host.binds config.listenAddr then
    return {
      interceptor := config.jwtSecret.map JwtInterceptor.new
      system := { system with handles := system.handles + 1 }
      broker
      subscribers := []
      published := []
      exchanges := []
      subscriptionsActive := 0
      stage := .listening }
  else err .listener

def openData (crc : Crc32fast) (host : Host Addr) (path : String) : Outcome Error Store × Option File :=
  Store.openOn host.platform crc (host.syncsParent path) (host.files path)

/-- `main` up to where it serves, with the files afterwards. -/
def launch (crc : Crc32fast) (parsers : Parsers Addr) (host : Host Addr) :
    Outcome Exit Process × (String → Option File) :=
  match Config.fromEnv parsers host.env with
  | .err message => (err (.config message), host.files)
  | .panic => (panic, host.files)
  | .ok config =>
      match openData crc host config.dataPath with
      | (.ok store, after) =>
          (serve host config store, fun path => if path = config.dataPath then after else host.files path)
      | (.err error, after) =>
          (err (.store error), fun path => if path = config.dataPath then after else host.files path)
      | (.panic, after) => (panic, fun path => if path = config.dataPath then after else host.files path)

end

end Server

end EventfoldDb
