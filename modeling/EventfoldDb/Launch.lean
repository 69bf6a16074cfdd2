import EventfoldDb.Server

/-! When the server starts, what it exits with if it does not, and what a start does to the files. -/

namespace EventfoldDb.Launch
open Outcome Recovery RecoveryLoop DiskInvariant GreedyRecovery Server

/-! ### Opening the store -/

section
variable {crc : Crc32fast}

theorem decodeHeader_ne_panic {bytes : List UInt8} (size : bytes.length = 8) : decodeHeader bytes ≠ panic := by
  have magicPart : (slice bytes 0 4 : Outcome Error (List UInt8)) = ok (bytes.take 4) :=
    slice_ok bytes 0 4 (by omega) (by omega)
  have versionPart : (slice bytes 4 8 : Outcome Error (List UInt8)) = ok ((bytes.take 8).drop 4) :=
    slice_ok bytes 4 8 (by omega) (by omega)
  rw [decodeHeader, magicPart, ok_bind]
  split_ifs with wrongMagic
  · simp
  · rw [versionPart, ok_bind]
    dsimp only
    split_ifs with wrongVersion
    · simp
    · simp

theorem recover_ne_panic (data : List UInt8) : recover crc data ≠ panic := by
  unfold recover recoverOn
  split_ifs with short
  · simp
  · have long : headerSize ≤ data.length := Nat.le_of_not_lt short
    rw [slice_ok data 0 headerSize (Nat.zero_le _) long, ok_bind, List.drop_zero]
    intro panicked
    rcases bind_eq_panic.mp panicked with header | ⟨version, _, loop⟩
    · refine decodeHeader_ne_panic ?_ header
      rw [List.length_take]
      exact Nat.min_eq_left long
    · have ranOut : recoverLoop crc data headerSize EventLog.empty = panic := loop
      rcases recoverLoop_ends crc data headerSize EventLog.empty long with
        ⟨recovered, ends⟩ | ⟨recovered, cut, ends, _⟩ | ⟨position, detail, ends⟩ <;> rw [ranOut] at ends <;> cases ends

theorem open_ne_panic (file : File) : (Store.open crc (some file)).1 ≠ panic := by
  rw [Store.open_some]
  split
  next => simp
  next => simp
  next => simp
  next panicked => exact absurd panicked (recover_ne_panic file.bytes)

theorem open_reopens {path after : Option File} {store : Store} (opened : Store.open crc path = (ok store, after)) :
    after = some store.file ∧ Store.open crc (some store.file) = (ok store, some store.file) := by
  cases path with
  | none =>
    cases opened
    exact ⟨rfl, @open_clean crc [] (fun _ member => absurd member List.not_mem_nil) Store.create.file (holds_create crc).bytes⟩
  | some file =>
    obtain ⟨cut, recovered⟩ := recover_of_open opened
    obtain ⟨count, batches, rest, events, bytes, frames, committed, leaves⟩ := recover_parses recovered
    obtain ⟨same, openedAgain, kept, log⟩ := open_leaves bytes leaves recovered
    rw [openedAgain] at opened
    cases opened
    exact ⟨rfl, open_again frames _ kept committed⟩

end

section
variable {crc : Crc32fast} {platform : Platform} {syncsParent : Bool} {path after : Option File} {store : Store}

/-- The process ends in the middle of recovery exactly if some batch header asks for too much memory. -/
theorem openOn_panics : (Store.openOn platform crc syncsParent path).1 = panic ↔
    ∃ file, path = some file ∧ ¬Affordable platform crc file.bytes := by
  cases path with
  | none => cases syncsParent <;> simp [Store.openOn]
  | some file =>
    by_cases affordable : Affordable platform crc file.bytes
    · rw [openOn_affordable syncsParent affordable]
      simp [open_ne_panic, affordable]
    · rw [openOn_refused syncsParent affordable]
      simp [affordable]

theorem open_of_openOn (opened : Store.openOn platform crc syncsParent path = (ok store, after)) :
    Store.open crc path = (ok store, after) := by
  cases path with
  | none =>
    cases syncsParent with
    | false => cases opened
    | true => exact opened
  | some file =>
    by_cases affordable : Affordable platform crc file.bytes
    · rw [← openOn_affordable syncsParent affordable]
      exact opened
    · rw [openOn_refused syncsParent affordable] at opened
      cases opened

theorem open_shortens {file : File} (opened : Store.open crc (some file) = (ok store, after)) :
    store.file.bytes <+: file.bytes := by
  obtain ⟨cut, recovered⟩ := recover_of_open opened
  rcases open_longest crc file (header_of_recover recovered) with ⟨other, same, longest, _⟩ | ⟨error, failed⟩
  · rw [opened] at same
    cases same
    exact longest.isPrefix
  · rw [opened] at failed
    cases failed

theorem affordable_opened (opened : Store.openOn platform crc syncsParent path = (ok store, after)) :
    Affordable platform crc store.file.bytes := by
  cases path with
  | none =>
    cases syncsParent with
    | false => cases opened
    | true =>
      cases opened
      exact affordable_of_short platform crc _ (by decide)
  | some file =>
    have affordable : Affordable platform crc file.bytes := by
      by_contra short
      rw [openOn_refused syncsParent short] at opened
      cases opened
    obtain ⟨tail, bytes⟩ := open_shortens (open_of_openOn opened)
    rw [← bytes] at affordable
    exact affordable.shorter

theorem openOn_reopens (opened : Store.openOn platform crc syncsParent path = (ok store, after)) (again : Bool) :
    after = some store.file ∧
      Store.openOn platform crc again (some store.file) = (ok store, some store.file) := by
  obtain ⟨file, reopened⟩ := open_reopens (open_of_openOn opened)
  exact ⟨file, by rw [openOn_affordable again (affordable_opened opened), reopened]⟩

theorem openOn_create (platform : Platform) (crc : Crc32fast) (syncsParent : Bool) :
    Store.openOn platform crc syncsParent (some Store.create.file) = (ok Store.create, some Store.create.file) :=
  (@openOn_reopens crc platform true none _ _ rfl syncsParent).2

/-- A failed open leaves the file, or a new one whose directory could not be synced. -/
theorem openOn_failed (failed : ∀ store, (Store.openOn platform crc syncsParent path).1 ≠ ok store) :
    (Store.openOn platform crc syncsParent path).2 = path ∨ path = none ∧ syncsParent = false := by
  cases path with
  | none =>
    cases syncsParent with
    | false => exact .inr ⟨rfl, rfl⟩
    | true => exact absurd rfl (failed Store.create)
  | some file =>
    refine .inl ?_
    rw [Store.openOn] at failed ⊢
    split at failed
    next => exact absurd rfl (failed _)
    next => exact absurd rfl (failed _)
    next => rfl
    next => rfl

end

/-! ### From the open store to the listener -/

section
variable {Addr : Type} {host : Host Addr} {config : Config Addr} {store : Store}

def Secured (host : Host Addr) (tls : TlsConfig) : Prop :=
  ∃ cert key, host.pem tls.certPath = some cert ∧ host.pem tls.keyPath = some key ∧
    (∀ caPath, tls.caPath = some caPath → (host.pem caPath).isSome) ∧
    host.tlsConfig cert key (tls.caPath.bind host.pem) = true

theorem secure_eq_ok {tls : TlsConfig} : secure host tls = ok () ↔ Secured host tls := by
  unfold secure Secured
  cases cert : host.pem tls.certPath with
  | none => simp
  | some certBytes =>
    cases key : host.pem tls.keyPath with
    | none => simp
    | some keyBytes =>
      cases path : tls.caPath with
      | none => simp
      | some caPath => cases ca : host.pem caPath <;> simp [ca]

def Late (exit : Exit) : Prop := ∀ message, exit ≠ .config message

theorem secure_ends (host : Host Addr) (tls : TlsConfig) : Ends (secure host tls) (fun _ => True) Late := by
  unfold secure
  cases host.pem tls.certPath with
  | none => simp [Ends, Late]
  | some cert =>
    cases host.pem tls.keyPath with
    | none => simp [Ends, Late]
    | some key =>
      cases path : tls.caPath with
      | none => cases accepted : host.tlsConfig cert key none <;> simp [Ends, Late, accepted]
      | some caPath =>
        cases ca : host.pem caPath with
        | none => simp [Ends, Late, ca]
        | some bytes => cases accepted : host.tlsConfig cert key (some bytes) <;> simp [Ends, Late, ca, accepted]

structure Equipped (host : Host Addr) (config : Config Addr) : Prop where
  broker : 0 < config.brokerCapacity.toNat ∧ config.brokerCapacity.toNat ≤ maxBrokerCapacity
  ring : host.platform.grants (.ring config.brokerCapacity.toNat) = true
  dedup : host.platform.grants (.dedup config.dedupCapacity.val.toNat) = true

structure Ready (host : Host Addr) (config : Config Addr) : Prop where
  equipped : Equipped host config
  secured : ∀ tls, config.tls = some tls → Secured host tls
  binds : host.binds config.listenAddr = true

structure Started (platform : Platform) (config : Config Addr) (store : Store) (process : Process) : Prop where
  interceptor : process.interceptor = config.jwtSecret.map JwtInterceptor.new
  /-- One handle in `main` and its clone in the service. -/
  system : ∃ spawned, spawnWriter platform store channelCapacity config.dedupCapacity.val.toNat = ok spawned ∧
    process.system = { spawned with handles := spawned.handles + 1 }
  broker : Broker.new platform config.brokerCapacity.toNat = ok process.broker
  subscribers : process.subscribers = []
  published : process.published = []
  exchanges : process.exchanges = []
  subscriptionsActive : process.subscriptionsActive = 0
  stage : process.stage = .listening

theorem Equipped.channel (equipped : Equipped host config) :
    ∃ broker, Broker.new host.platform config.brokerCapacity.toNat = ok broker :=
  ⟨_, if_pos ⟨equipped.broker, equipped.ring⟩⟩

theorem Equipped.writer (equipped : Equipped host config) (store : Store) :
    ∃ system, spawnWriter host.platform store channelCapacity config.dedupCapacity.val.toNat = ok system :=
  ⟨_, if_pos ⟨equipped.dedup, by decide, by decide⟩⟩

theorem unequipped (short : ¬Equipped host config) (store : Store) :
    Broker.new host.platform config.brokerCapacity.toNat = panic ∨
      spawnWriter host.platform store channelCapacity config.dedupCapacity.val.toNat = panic := by
  by_cases channel : (0 < config.brokerCapacity.toNat ∧ config.brokerCapacity.toNat ≤ maxBrokerCapacity) ∧
      host.platform.grants (.ring config.brokerCapacity.toNat) = true
  · exact .inr (if_neg fun granted => short ⟨channel.1, channel.2, granted.1⟩)
  · exact .inl (dif_neg channel)

theorem transport_eq_ok : transport host config = ok () ↔ ∀ tls, config.tls = some tls → Secured host tls := by
  unfold transport
  cases config.tls with
  | none => simp
  | some given => simp [secure_eq_ok]

theorem transport_ends (host : Host Addr) (config : Config Addr) :
    Ends (transport host config) (fun _ => True) Late := by
  unfold transport
  cases config.tls with
  | none => trivial
  | some given => exact secure_ends host given

theorem serve_ends (equipped : Equipped host config) : Ends (serve host config store) (fun _ => True) Late := by
  obtain ⟨broker, created⟩ := equipped.channel
  obtain ⟨system, spawned⟩ := equipped.writer store
  rw [serve, created, spawned]
  refine (transport_ends host config).bind ?_
  intro _ _
  split_ifs with binds
  · trivial
  · simp [Ends, Late]

theorem serve_panics : serve host config store = panic ↔ ¬Equipped host config := by
  constructor
  · intro panicked equipped
    have ends := @serve_ends _ host config store equipped
    rw [panicked] at ends
    exact ends
  · intro short
    rcases unequipped short store with channel | writer
    · rw [serve, channel]
      rfl
    · rw [serve, writer]
      cases Broker.new host.platform config.brokerCapacity.toNat <;> rfl

theorem serve_ne_config {message : String} : serve host config store ≠ err (.config message) := by
  intro failed
  by_cases equipped : Equipped host config
  · have ends := @serve_ends _ host config store equipped
    rw [failed] at ends
    exact ends message rfl
  · rw [serve_panics.mpr equipped] at failed
    cases failed

theorem serve_ready (ready : Ready host config) : ∃ process, serve host config store = ok process := by
  obtain ⟨broker, created⟩ := ready.equipped.channel
  obtain ⟨system, spawned⟩ := ready.equipped.writer store
  rw [serve, created, spawned]
  simp only [infallible, ok_bind, transport_eq_ok.mpr ready.secured, ready.binds, if_true]
  exact ⟨_, rfl⟩

theorem serve_started {process : Process} (served : serve host config store = ok process) :
    Ready host config ∧ Started host.platform config store process := by
  have equipped : Equipped host config := by
    by_contra short
    rw [serve_panics.mpr short] at served
    cases served
  obtain ⟨broker, created⟩ := equipped.channel
  obtain ⟨system, spawned⟩ := equipped.writer store
  rw [serve, created, spawned] at served
  simp only [infallible, ok_bind] at served
  obtain ⟨_, secured, bound⟩ := bind_eq_ok.mp served
  split_ifs at bound with binds
  cases bound
  exact ⟨⟨equipped, transport_eq_ok.mp secured, binds⟩,
    ⟨rfl, ⟨system, spawned, rfl⟩, created, rfl, rfl, rfl, rfl, rfl⟩⟩

end

/-! ### The start -/

structure Outcomes {Addr : Type} (crc : Crc32fast) (parsers : Parsers Addr) (host : Host Addr)
    (result : Outcome Exit Process) (files : String → Option File) : Prop where
  /-- The server runs exactly if every variable can be used, the store opens, there is memory for what
  the variables ask for, and TLS and the address can be had. -/
  serves : (∃ process, result = ok process) ↔
    ∃ config store, Config.Describes parsers host.env config ∧
      (openData crc host config.dataPath).1 = ok store ∧ Ready host config
  /-- It then has the recovered log, whose index is that of its events, and has served nobody. -/
  started : ∀ process, result = ok process → ∃ config store, Config.Describes parsers host.env config ∧
    (openData crc host config.dataPath).1 = ok store ∧ Started host.platform config store process ∧
    process.log = store.log ∧ Canonical process.log
  /-- The data file announces more records than there is memory for, or the configuration lets through
  a capacity that is too large. -/
  panics : result = panic ↔ ∃ config, Config.Describes parsers host.env config ∧
    ((∃ file, host.files config.dataPath = some file ∧ ¬Affordable host.platform crc file.bytes) ∨
      ∃ store, (openData crc host config.dataPath).1 = ok store ∧ ¬Equipped host config)
  /-- A message about a variable is true of it, and no file was opened. -/
  complains : ∀ message, result = err (.config message) → Config.Complaint parsers host.env message ∧ files = host.files
  /-- At most the data file is changed: by a successful recovery, or where there was none by a new
  file that is left behind. -/
  changes : ∀ path, files path ≠ host.files path → ∃ config, Config.Describes parsers host.env config ∧
    config.dataPath = path ∧ ((∃ store, (openData crc host path).1 = ok store ∧ files path = some store.file) ∨
      host.files path = none ∧ host.syncsParent path = false ∧ files path = some Store.create.file)
  /-- Whatever this start came to, the next one finds the same store. -/
  again : ∀ config store, Config.Describes parsers host.env config →
    (openData crc host config.dataPath).1 = ok store →
    openData crc { host with files } config.dataPath = (ok store, some store.file)
  /-- A new data file under a bare name: this start gives up, and the next one opens what it left. -/
  bareName : ∀ config, Config.Describes parsers host.env config → host.files config.dataPath = none →
    '/' ∉ config.dataPath.toList → result = err (.store .io) ∧
      openData crc { host with files } config.dataPath = (ok Store.create, some Store.create.file)

theorem started_log {Addr : Type} {platform : Platform} {config : Config Addr} {store : Store} {process : Process}
    (started : Started platform config store process) : process.log = store.log := by
  obtain ⟨spawned, isSpawned, cloned⟩ := started.system
  unfold spawnWriter at isSpawned
  split_ifs at isSpawned
  cases isSpawned
  rw [Process.log, cloned]
  rfl

section
variable {Addr : Type} {crc : Crc32fast} {parsers : Parsers Addr} {host : Host Addr}

theorem outcomes_refused {message : String} (read : Config.fromEnv parsers host.env = err message) :
    Outcomes crc parsers host (err (.config message)) host.files := by
  have refused : ∀ config, ¬Config.Describes parsers host.env config := by
    intro config described
    rw [Config.fromEnv_eq_ok.mpr described] at read
    cases read
  constructor
  case serves =>
    constructor
    · rintro ⟨process, impossible⟩
      cases impossible
    · rintro ⟨config, store, described, -⟩
      exact absurd described (refused config)
  case started =>
    intro process impossible
    cases impossible
  case panics =>
    constructor
    · intro impossible
      cases impossible
    · rintro ⟨config, described, -⟩
      exact absurd described (refused config)
  case complains =>
    intro other same
    cases same
    exact ⟨Config.complaint_of_fromEnv read, rfl⟩
  case changes => exact fun path changed => absurd rfl changed
  case again => exact fun config store described => absurd described (refused config)
  case bareName => exact fun config described => absurd described (refused config)

theorem describes_unique {config other : Config Addr} (described : Config.Describes parsers host.env config)
    (again : Config.Describes parsers host.env other) : other = config := by
  have same := Config.fromEnv_eq_ok.mpr described
  rw [Config.fromEnv_eq_ok.mpr again] at same
  exact ok.inj same

def opened (crc : Crc32fast) (host : Host Addr) (dataPath path : String) : Option File :=
  if path = dataPath then (openData crc host dataPath).2 else host.files path

theorem opened_self (dataPath : String) :
    opened crc host dataPath dataPath = (openData crc host dataPath).2 := if_pos rfl

theorem openData_opened (dataPath : String) :
    openData crc { host with files := opened crc host dataPath } dataPath =
      Store.openOn host.platform crc (host.syncsParent dataPath) (openData crc host dataPath).2 := by
  rw [← opened_self]
  rfl

theorem opened_changes {dataPath path : String} (changed : opened crc host dataPath path ≠ host.files path) :
    path = dataPath := by
  by_contra other
  exact changed (if_neg other)

theorem outcomes_closed {config : Config Addr} {result : Outcome Exit Process}
    (described : Config.Describes parsers host.env config)
    (closed : ∀ store, (openData crc host config.dataPath).1 ≠ ok store)
    (fails : ∀ error, (openData crc host config.dataPath).1 = err error → result = err (.store error))
    (aborts : (openData crc host config.dataPath).1 = panic → result = panic) :
    Outcomes crc parsers host result (opened crc host config.dataPath) := by
  have shut : ∀ other store, Config.Describes parsers host.env other →
      (openData crc host other.dataPath).1 ≠ ok store := by
    intro other store again
    rw [describes_unique described again]
    exact closed store
  have ends : (∃ error, (openData crc host config.dataPath).1 = err error ∧ result = err (.store error)) ∨
      (openData crc host config.dataPath).1 = panic ∧ result = panic := by
    cases came : (openData crc host config.dataPath).1 with
    | ok store => exact absurd came (closed store)
    | err error => exact .inl ⟨error, rfl, fails error came⟩
    | panic => exact .inr ⟨rfl, aborts came⟩
  constructor
  case serves =>
    constructor
    · rintro ⟨process, served⟩
      rcases ends with ⟨error, _, failed⟩ | ⟨_, failed⟩ <;> rw [served] at failed <;> cases failed
    · rintro ⟨other, store, again, opens, -⟩
      exact absurd opens (shut other store again)
  case started =>
    intro process served
    rcases ends with ⟨error, _, failed⟩ | ⟨_, failed⟩ <;> rw [served] at failed <;> cases failed
  case panics =>
    constructor
    · intro panicked
      rcases ends with ⟨error, _, failed⟩ | ⟨came, _⟩
      · rw [panicked] at failed
        cases failed
      · exact ⟨config, described, .inl (openOn_panics.mp came)⟩
    · rintro ⟨other, again, announced | ⟨store, opens, _⟩⟩
      · rw [describes_unique described again] at announced
        exact aborts (openOn_panics.mpr announced)
      · exact absurd opens (shut other store again)
  case complains =>
    intro message complained
    rcases ends with ⟨error, _, failed⟩ | ⟨_, failed⟩ <;> rw [complained] at failed <;> cases failed
  case changes =>
    intro path changed
    have data := opened_changes changed
    subst data
    rw [opened_self] at changed ⊢
    rcases openOn_failed closed with same | ⟨missing, unsynced⟩
    · exact absurd same changed
    · refine ⟨config, described, rfl, .inr ⟨missing, unsynced, ?_⟩⟩
      rw [openData, missing]
      rfl
  case again => exact fun other store again opens => absurd opens (shut other store again)
  case bareName =>
    intro other again missing bare
    rw [describes_unique described again] at missing bare ⊢
    have created : openData crc host config.dataPath = (err .io, some Store.create.file) := by
      rw [openData, missing, host.bareName _ bare]
      rfl
    refine ⟨fails .io (by rw [created]), ?_⟩
    rw [openData_opened, created]
    exact openOn_create ..

theorem outcomes_opened {config : Config Addr} {store : Store} (described : Config.Describes parsers host.env config)
    (opens : (openData crc host config.dataPath).1 = ok store) :
    Outcomes crc parsers host (serve host config store) (opened crc host config.dataPath) := by
  have onDisk : openData crc host config.dataPath = (ok store, (openData crc host config.dataPath).2) := by
    rw [← opens]
  have same : ∀ other another, Config.Describes parsers host.env other →
      (openData crc host other.dataPath).1 = ok another → other = config ∧ another = store := by
    intro other another again openedAgain
    have equal := describes_unique described again
    rw [equal, opens] at openedAgain
    exact ⟨equal, (ok.inj openedAgain).symm⟩
  constructor
  case serves =>
    constructor
    · rintro ⟨process, served⟩
      exact ⟨config, store, described, opens, (serve_started served).1⟩
    · rintro ⟨other, another, again, openedAgain, ready⟩
      obtain ⟨rfl, rfl⟩ := same other another again openedAgain
      exact serve_ready ready
  case started =>
    intro process served
    have started := (serve_started served).2
    have log := started_log started
    refine ⟨config, store, described, opens, started, log, ?_⟩
    rw [log]
    exact Lifecycle.canonical_of_open (open_of_openOn onDisk)
  case panics =>
    constructor
    · intro panicked
      exact ⟨config, described, .inr ⟨store, opens, serve_panics.mp panicked⟩⟩
    · rintro ⟨other, again, announced | ⟨another, openedAgain, short⟩⟩
      · rw [describes_unique described again] at announced
        have panicked : (openData crc host config.dataPath).1 = panic := openOn_panics.mpr announced
        rw [opens] at panicked
        cases panicked
      · obtain ⟨rfl, rfl⟩ := same other another again openedAgain
        exact serve_panics.mpr short
  case complains =>
    intro message complained
    exact absurd complained serve_ne_config
  case changes =>
    intro path changed
    have data := opened_changes changed
    subst data
    refine ⟨config, described, rfl, .inl ⟨store, opens, ?_⟩⟩
    rw [opened_self]
    exact (openOn_reopens onDisk true).1
  case again =>
    intro other another again openedAgain
    obtain ⟨rfl, rfl⟩ := same other another again openedAgain
    obtain ⟨file, reopens⟩ := openOn_reopens onDisk (host.syncsParent other.dataPath)
    rw [openData_opened, file]
    exact reopens
  case bareName =>
    intro other again missing bare
    rw [describes_unique described again] at missing bare
    rw [openData, missing, host.bareName _ bare] at opens
    cases opens

theorem launch_opened {config : Config Addr} (read : Config.fromEnv parsers host.env = ok config) :
    (launch crc parsers host).2 = opened crc host config.dataPath := by
  rw [launch, read]
  dsimp only
  split <;> next came =>
    funext path
    rw [opened, came]

end

theorem started_of_launch {Addr : Type} {crc : Crc32fast} {parsers : Parsers Addr} {host : Host Addr}
    {process : Process}
    {files : String → Option File} (launched : launch crc parsers host = (ok process, files)) :
    ∃ config store, Config.Describes parsers host.env config ∧
      Store.open crc (host.files config.dataPath) = (ok store, files config.dataPath) ∧
      Started host.platform config store process := by
  rw [launch] at launched
  split at launched
  next => cases launched
  next => cases launched
  next config read =>
    split at launched
    next store after opened =>
      obtain ⟨served, same⟩ := Prod.mk.inj launched
      refine ⟨config, store, Config.fromEnv_eq_ok.mp read, ?_, (serve_started served).2⟩
      rw [← same, open_of_openOn opened]
      dsimp only
      rw [if_pos rfl]
    next => cases (Prod.mk.inj launched).1
    next => cases (Prod.mk.inj launched).1

/-- Whatever comes of a start, a data file that can be opened stays one, with the same store. -/
theorem open_of_launch {Addr : Type} {crc : Crc32fast} {parsers : Parsers Addr} {host : Host Addr} {path : String}
    (isData : host.env "EVENTFOLD_DATA" = some path) {store : Store}
    (opens : (Store.open crc (host.files path)).1 = ok store) :
    (Store.open crc ((launch crc parsers host).2 path)).1 = ok store := by
  cases read : Config.fromEnv parsers host.env with
  | panic => exact absurd read Config.fromEnv_ne_panic
  | err message =>
    rw [launch, read]
    exact opens
  | ok config =>
    have described := Config.fromEnv_eq_ok.mp read
    have samePath : config.dataPath = path := by
      rw [described.dataPath] at isData
      exact Option.some.inj isData
    rw [launch_opened read, samePath, opened_self]
    by_cases came : ∃ other, (openData crc host path).1 = ok other
    · obtain ⟨other, came⟩ := came
      have onDisk : openData crc host path = (ok other, (openData crc host path).2) := by rw [← came]
      have opened := open_of_openOn onDisk
      rw [opened] at opens
      cases opens
      rw [(open_reopens opened).1, (open_reopens opened).2]
    · rcases openOn_failed (not_exists.mp came) with same | ⟨missing, unsynced⟩
      · rw [openData, same]
        exact opens
      · rw [missing] at opens
        cases opens
        rw [openData, missing]
        exact congrArg Prod.fst (openOn_create .ample crc true)

theorem launch_outcomes {Addr : Type} (crc : Crc32fast) (parsers : Parsers Addr) (host : Host Addr) :
    Outcomes crc parsers host (launch crc parsers host).1 (launch crc parsers host).2 := by
  cases read : Config.fromEnv parsers host.env with
  | panic => exact absurd read Config.fromEnv_ne_panic
  | err message =>
    rw [launch, read]
    exact outcomes_refused read
  | ok config =>
    have described := Config.fromEnv_eq_ok.mp read
    rw [launch_opened read, launch, read]
    dsimp only
    split
    next store after came => exact outcomes_opened described (by rw [came])
    next error after came =>
      exact outcomes_closed described (by simp [came]) (by simp [came]) (by simp [came])
    next after came =>
      exact outcomes_closed described (by simp [came]) (by simp [came]) (by simp [came])

end EventfoldDb.Launch
