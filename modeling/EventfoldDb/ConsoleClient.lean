import EventfoldDb.Console
import EventfoldDb.ServiceReads
import EventfoldDb.Subscription

/-! The console connected to a server: its gRPC client, the task that feeds the live tail, the channel
between the task and the event loop, and the loop. -/

namespace EventfoldConsole
open EventfoldDb Outcome

def protoToEventRecord (proto : Proto.RecordedEvent) : EventRecord where
  eventId := proto.eventId
  streamId := proto.streamId
  streamVersion := proto.streamVersion
  globalPosition := proto.globalPosition
  recordedAt := proto.recordedAt
  eventType := proto.eventType
  metadata := proto.metadata
  payload := proto.payload

def eventRecord (event : RecordedEvent) : EventRecord := protoToEventRecord (recordedToProto event)

namespace Client

def readAll (log : EventLog) (fromPosition maxCount : UInt64) : Outcome Status (List EventRecord) := do
  let response ← EventfoldService.readAll log ⟨fromPosition, maxCount⟩
  return response.events.map protoToEventRecord

def readStream (parser : UuidParser) (log : EventLog) (streamId : String) (fromVersion maxCount : UInt64) :
    Outcome Status (List EventRecord) := do
  let response ← EventfoldService.readStream parser log ⟨streamId, fromVersion, maxCount⟩
  return response.events.map protoToEventRecord

def listStreams (iteration : List (Uuid × List UInt64)) : List StreamInfo :=
  (EventfoldService.listStreams iteration).streams.map fun info =>
    { streamId := info.streamId, eventCount := info.eventCount, latestVersion := info.latestVersion }

end Client

def readPageSize : UInt64 := 1000

def subChannelCapacity : Nat := 1024

/-- An answer that is not a success is only logged. -/
def arrived {α : Type} : Outcome Status α → Option α
  | .ok value => some value
  | _ => none

inductive TailTask where
  | connecting
  | reading
  /-- Waiting for room in the channel. -/
  | sending (message : SubscriptionMsg)
  /-- The same with the error of the failed subscription, before it returns. -/
  | reporting (detail : String)
  | panicked
  | returned
  deriving DecidableEq, Repr

/-- The server with the console's subscription, how many of its items have arrived, and the console. -/
structure Session where
  server : System
  taken : Nat
  tail : TailTask
  channel : List SubscriptionMsg
  state : AppState

namespace Session

def log (session : Session) : EventLog := session.server.log

def out (session : Session) : List (Except Error SubscriptionMessage) := session.server.subscription.out

def start (writer : Writer) (serverAddr : String) : Session where
  server := System.start writer
  taken := 0
  tail := .connecting
  channel := []
  state := AppState.start serverAddr

inductive Step where
  | server (step : System.Step)
  /-- `subscribe_all` returns, with the text of its error if it fails. -/
  | connect (failure : Option String)
  /-- The next item of the stream arrives. -/
  | message
  /-- The connection breaks. -/
  | broken
  /-- The stream has ended. -/
  | finish
  | send
  | receive
  /-- The answer, with the order in which the hash map hands out its entries, or a failed call. -/
  | fetchStreams (iteration : Option (List (Uuid × List UInt64)))
  | fetchDetail (fails : Bool)
  | fetchGlobal (fails : Bool)
  | press (key : KeyEvent)

def handle (response : Proto.SubscribeResponse) : TailTask :=
  match response.content with
  | some (.event event) => .sending (.event (protoToEventRecord event))
  | some .caughtUp => .sending .caughtUp
  | none => .reading

/-- A send waits for room, and it fails once the loop has dropped the receiver. -/
def send (message : SubscriptionMsg) (behind : TailTask) (session : Session) : Option Session :=
  if session.state.shouldQuit then some { session with tail := .returned }
  else if session.channel.length < subChannelCapacity then
    some { session with channel := session.channel ++ [message], tail := behind }
  else none

def loop (update : AppState → AppState) (session : Session) : Option Session :=
  if session.state.shouldQuit then none else some { session with state := update session.state }

def next (crc : Crc32fast) (parser : UuidParser) : Step → Session → Option Session
  | .server step, session =>
      (System.next crc subscribeAll 0 step session.server).map fun server => { session with server }
  | .connect failure, session =>
      match session.tail with
      | .connecting =>
          match failure with
          | none => some { session with tail := .reading }
          | some detail => some { session with tail := .reporting detail }
      | _ => none
  | .message, session =>
      match session.tail, session.out[session.taken]? with
      | .reading, some item =>
          match EventfoldService.relay item with
          | .ok response => some { session with taken := session.taken + 1, tail := handle response }
          -- `blocking_send` panics inside the runtime, so nothing is reported
          | .error _ => some { session with tail := .panicked }
      | _, _ => none
  | .broken, session =>
      match session.tail with
      | .reading => some { session with tail := .panicked }
      | _ => none
  | .finish, session =>
      match session.tail, session.server.subscription.phase with
      | .reading, .ended =>
          if session.out.length ≤ session.taken then some { session with tail := .returned } else none
      | _, _ => none
  | .send, session =>
      match session.tail with
      | .sending message => send message .reading session
      | .reporting detail => send (.error detail) .returned session
      | _ => none
  | .receive, session =>
      match session.channel with
      | [] => none
      | message :: channel => loop (AppState.receive · message) { session with channel }
  | .fetchStreams iteration, session =>
      loop (fetchStreams ⟨iteration.map Client.listStreams, fun _ => none, none⟩) session
  | .fetchDetail fails, session =>
      loop (fetchDetail ⟨none, fun streamId =>
        if fails then none else arrived (Client.readStream parser session.log streamId 0 readPageSize), none⟩) session
  | .fetchGlobal fails, session =>
      loop (fetchGlobal ⟨none, fun _ => none,
        if fails then none else arrived (Client.readAll session.log 0 readPageSize)⟩) session
  | .press key, session => loop (pressKey (some key)) session

/-- Requests have events, and a map is iterated in some order. -/
def Permitted (session : Session) : Step → Prop
  | .server (.writer step) => session.server.task.Filled step
  | .fetchStreams (some iteration) => Iterates session.log.streams iteration
  | _ => True

end Session

end EventfoldConsole
