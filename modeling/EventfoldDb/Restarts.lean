import EventfoldDb.EndToEnd
import EventfoldDb.IoFaults
import EventfoldDb.RetryAfterRestart

/-! The server is started, killed and started again over its data file, any number of times and at any
moment. What one life of it has acknowledged holds in every later one. -/

namespace EventfoldDb.Restarts
open Outcome Recovery AppendSpec LogInvariant DiskInvariant WriterSpec WriterHandle AnswerSegments ServiceReads
  Launch Server Server.Process ServerRuns EndToEnd Machine

/-! ### Lives of a server -/

/-- The data file alone, or a server that runs over it. -/
inductive Installation where
  | down (file : Option File)
  | up (process : Process)

inductive Step (Addr : Type) where
  /-- With the environment and the addresses of that moment. -/
  | start (host : Host Addr)
  | serve (step : Process.Step)
  /-- The process ends, by itself or not, between two file operations. -/
  | kill
  /-- The process is killed while a request is served, with what has reached the file. -/
  | killServing (fault : Fault)

section
variable {Addr : Type} (crc : Crc32fast) (parsers : Parsers Addr) (parser : UuidParser) (decode : Decoder)
  (dataPath : String)

def next : Step Addr → Installation → Option Installation
  | .start host, .down file =>
      match launch crc parsers { host with files := fun path => if path = dataPath then file else host.files path } with
      | (.ok process, _) => some (.up process)
      | (_, files) => some (.down (files dataPath))
  | .serve step, .up process => (Process.next crc parser decode step process).map .up
  | .kill, .up process => some (.down (some process.system.task.writer.store.file))
  | .killServing fault, .up process =>
      if process.system.status = .running then
        (Task.next crc (.serve fault) process.system.task).map fun task => .down (some task.writer.store.file)
      else none
  | _, _ => none

/-- No file operation fails as long as the process lives. -/
def Permitted : Installation → Step Addr → Prop
  | _, .start host => host.env "EVENTFOLD_DATA" = some dataPath
  | .up process, .serve step => Undisturbed process step
  | .up process, .killServing fault => ∀ task, Task.next crc (.serve fault) process.system.task = some task →
      task.writer.store.file.bytes.length ≤ isizeMax
  | _, _ => True

end

/-! ### One life -/

def Counted (process : Process) : Prop := ∀ call ∈ process.system.calls, call.request.events.length < 2 ^ 32

section
variable {crc : Crc32fast} {parser : UuidParser} {decode : Decoder} {process after : Process} {step : Process.Step}

theorem length_of_request {message : Proto.AppendRequest} {request : AppendRequest}
    (passed : EventfoldService.request parser message = .ok request) :
    request.events.length = message.events.length := by
  obtain ⟨_, converted⟩ := request_ok passed
  have same := mapIdx_converted converted (fun _ _ => ()) (fun _ _ => ()) (fun _ _ _ _ => rfl)
  simpa using (congrArg List.length same).symm

theorem Counted.moved (counted : Counted process) {inner : WriterSystem.Step}
    (moved : WriterSystem.next crc inner process.system = some after.system)
    (old : ∀ request, inner ≠ .append request) :
    Counted after := by
  obtain ⟨carried, length⟩ := calls_carried (WriterHandle.moves_of_next moved) old
  intro call member
  obtain ⟨index, here⟩ := List.mem_iff_getElem?.mp member
  obtain ⟨earlier, found, same, _⟩ := carried.back length here
  rw [same]
  exact counted earlier (List.mem_of_getElem? found)

theorem Counted.next (counted : Counted process) (smooth : Smooth step)
    (moves : Moves crc parser decode process step after) : Counted after := by
  cases moves with
  | rejected | served | opened | watched | answered | subscribed | polled | missed | closed | unwatched | dropped | signalled
  | joined => exact counted
  | called authorization now rpc iteration request system listening admitted asks moved =>
    obtain ⟨message, isAppend, passed⟩ := asks
    rw [isAppend] at smooth
    cases WriterHandle.moves_of_next moved with
    | own _ _ _ same => cases same
    | append _ handle =>
      intro call member
      rcases List.mem_append.mp member with old | new
      · exact counted call old
      · rw [List.mem_singleton.mp new]
        show request.events.length < 2 ^ 32
        rw [length_of_request passed]
        exact smooth
  | worked step system own quiet moved => exact counted.moved moved (old_of_working own)
  | published system moved => exact counted.moved moved (fun _ impossible => by cases impossible)
  | withdrawn index place exchange system here progress moved =>
    exact counted.moved moved (fun _ impossible => by cases impossible)
  | released half system draining idle first second =>
    have halfway : Counted { process with system := half } :=
      counted.moved first (fun _ impossible => by cases impossible)
    exact halfway.moved second (fun _ impossible => by cases impossible)

theorem sound_next (sound : RetryAfterRestart.Sound crc process.system.task) (counted : Counted process)
    (smooth : Smooth step) (moves : Moves crc parser decode process step after) :
    RetryAfterRestart.Sound crc after.system.task := by
  rcases task_step moves with same | ⟨inner, moved, submits, serves⟩
  · rw [same]
    exact sound
  · rcases serve_or_quiet inner with ⟨fault, isServe⟩ | quiet
    · rw [serves fault isServe] at smooth
      rw [isServe, show fault = .none from smooth] at moved
      exact sound.serve moved
    · refine sound.quiet ?_ quiet moved
      cases inner with
      | submit request =>
        obtain ⟨call, member, same⟩ := submits request rfl
        show request.events.length < 2 ^ 32
        rw [← same]
        exact counted call member
      | serve fault => exact absurd rfl (quiet fault)
      | drain | publish | respond => trivial

end

theorem writer_of_serve {crc : Crc32fast} {fault : Fault} {task after : Task}
    (moved : Task.next crc (.serve fault) task = some after) :
    ∃ ticket rest, task.batch = ticket :: rest ∧
      after.writer = (task.writer.serve crc fault task.recordedAt ticket.request).writer ∧
      (task.writer.serve crc fault task.recordedAt ticket.request).result ≠ .panic := by
  rw [Task.next] at moved
  split at moved
  next ticket rest batch unsent reply =>
    dsimp only at moved
    split at moved
    next recorded answer =>
      cases moved
      exact ⟨ticket, rest, batch, rfl, by rw [answer]; simp⟩
    next error answer =>
      cases moved
      exact ⟨ticket, rest, batch, rfl, by rw [answer]; simp⟩
    next => cases moved
  next => cases moved

theorem pending_of_serve {crc : Crc32fast} {fault : Fault} {recordedAt : UInt64} {writer : Writer}
    {request : AppendRequest}
    (small : request.events.length < 2 ^ 32) (alive : (writer.serve crc fault recordedAt request).result ≠ .panic) :
    ∃ tail, (writer.serve crc fault recordedAt request).writer.store.file.bytes = writer.store.file.bytes ++ tail ∧
      Pending crc writer.store.log tail := by
  have untouched : ∃ tail, writer.store.file.bytes = writer.store.file.bytes ++ tail ∧ Pending crc writer.store.log tail :=
    ⟨[], (List.append_nil _).symm, .inl rfl⟩
  rw [Writer.serve] at alive ⊢
  cases unique : validateBatchUniqueIds request.events with
  | error error => exact untouched
  | ok _ =>
    rw [unique] at alive
    dsimp only at alive ⊢
    cases checked : writer.dedup.check request.events with
    | mk hit dedup =>
      rw [checked] at alive
      cases hit with
      | some recorded => exact untouched
      | none =>
        dsimp only at alive ⊢
        cases called : runCall crc fault writer.store (request.call recordedAt) with
        | mk result store =>
          rw [called] at alive
          have counted : ∀ batch, Accepts writer.store.log (request.call recordedAt) batch → batch.Small := by
            intro batch accepts
            rw [Batch.Small, accepts.length_events]
            exact small
          rcases append_cases crc fault writer.store store (request.call recordedAt) result called with
            ⟨error, _, answer, same⟩ | ⟨batch, accepts, _, answer, storeEq⟩ |
            ⟨batch, accepts, _, answer, _, storeEq⟩ | answer
          · rw [answer, same]
            exact untouched
          · rw [answer, storeEq]
            exact ⟨_, rfl, .inr ⟨_, batch, accepts, counted batch accepts, IoFaults.leftover_inside fault _⟩⟩
          · rw [answer, storeEq]
            exact ⟨_, rfl, .inr ⟨_, batch, accepts, counted batch accepts, List.prefix_refl _⟩⟩
          · rw [answer] at alive
            exact absurd rfl alive

/-! ### All lives -/

def Retains (crc : Crc32fast) (seen : List RecordedEvent) (file : Option File) : Prop :=
  ∃ batches store, (Store.open crc file).1 = ok store ∧ Holds crc batches store ∧ seen <+: store.log.events

structure Alive (Addr : Type) (crc : Crc32fast) (parser : UuidParser) (decode : Decoder) (process : Process) : Prop where
  run : ∃ (platform : Platform) (config : Config Addr) (store : Store) (start : Process),
    Started platform config store start ∧ Canonical store.log ∧ WellFormed store.log ∧
    Reaches (Process.next crc parser decode) Process.Permitted start process
  sound : RetryAfterRestart.Sound crc process.system.task
  counted : Counted process

/-- These events are not lost, and those that were settled stay so. -/
def Keeps (Addr : Type) (crc : Crc32fast) (parser : UuidParser) (decode : Decoder) (seen recorded : List RecordedEvent) :
    Installation → Prop
  | .down file => Retains crc seen file
  | .up process => Alive Addr crc parser decode process ∧ seen <+: process.log.events ∧
      Settles recorded process.system.task

section
variable {Addr : Type} {crc : Crc32fast} {parsers : Parsers Addr} {parser : UuidParser} {decode : Decoder}
  {dataPath : String} {seen recorded : List RecordedEvent}

theorem alive_of_started {platform : Platform} {config : Config Addr} {store : Store} {start : Process}
    {batches : List Batch}
    (started : Started platform config store start) (canonical : Canonical store.log)
    (holds : Holds crc batches store) :
    Alive Addr crc parser decode start := by
  obtain ⟨task, calls, _⟩ := started_task started
  refine ⟨⟨platform, config, store, start, started, canonical, holds.wellFormed, .refl⟩, ?_, ?_⟩
  · rw [task]
    exact RetryAfterRestart.sound_start holds _
  · intro call member
    rw [calls] at member
    cases member

theorem Alive.next {process after : Process} {step : Process.Step} (alive : Alive Addr crc parser decode process)
    (undisturbed : Undisturbed process step) (moved : Process.next crc parser decode step process = some after) :
    Alive Addr crc parser decode after := by
  obtain ⟨permitted, smooth⟩ := undisturbed
  obtain ⟨⟨platform, config, store, start, started, canonical, wellFormed, run⟩, sound, counted⟩ := alive
  have moves := ServerRuns.moves_of_next moved
  exact ⟨⟨platform, config, store, start, started, canonical, wellFormed, run.tail ⟨step, permitted, moved⟩⟩,
    sound_next sound counted smooth moves, counted.next smooth moves⟩

theorem settles_next {process after : Process} {step : Process.Step} (settles : Settles recorded process.system.task)
    (moves : Moves crc parser decode process step after) : Settles recorded after.system.task := by
  rcases task_step moves with same | ⟨inner, moved, _⟩
  · rw [same]
    exact settles
  · exact settles.next moved

theorem log_next {process after : Process} {step : Process.Step} (moves : Moves crc parser decode process step after) :
    process.log.events <+: after.log.events := by
  rw [Process.log, Process.log]
  rcases task_step moves with same | ⟨inner, moved, _⟩
  · rw [same]
  · obtain ⟨more, grown⟩ := (next_grows moved).1
    exact ⟨more, grown.symm⟩

theorem Alive.retains {process : Process} (alive : Alive Addr crc parser decode process)
    (kept : seen <+: process.log.events) : Retains crc seen (some process.system.task.writer.store.file) := by
  obtain ⟨batches, holds⟩ := alive.sound.holds
  have opened := open_clean holds.small holds.bytes
  refine ⟨batches, _, congrArg Prod.fst opened, ⟨holds.toIndexes.recovered, holds.bytes⟩, ?_⟩
  rw [holds.toIndexes.recovered.events, ← holds.events]
  exact kept

/-- The file of a process that is killed within them. -/
theorem Alive.retains_serving {process : Process} (alive : Alive Addr crc parser decode process)
    (kept : seen <+: process.log.events) {fault : Fault} {task : Task}
    (moved : Task.next crc (.serve fault) process.system.task = some task)
    (fits : task.writer.store.file.bytes.length ≤ isizeMax) : Retains crc seen (some task.writer.store.file) := by
  obtain ⟨batches, holds⟩ := alive.sound.holds
  obtain ⟨ticket, rest, batch, written, lives⟩ := writer_of_serve moved
  have small := alive.sound.queued ticket (by
    rw [batch]
    exact List.mem_append_right _ (List.mem_cons_self ..))
  obtain ⟨tail, bytes, pending⟩ := pending_of_serve small lives
  rw [← written, holds.bytes] at bytes
  obtain ⟨recovered, whole, opened, held, grown, _⟩ := holds.toIndexes.open_pending bytes pending fits
  exact ⟨whole, recovered, by rw [opened], held, kept.trans grown⟩

theorem keeps_start {host : Host Addr} {file : Option File} {after : Installation} (inside : recorded ⊆ seen)
    (retains : Retains crc seen file) (isData : host.env "EVENTFOLD_DATA" = some dataPath)
    (moved : next crc parsers parser decode dataPath (.start host) (.down file) = some after) :
    Keeps Addr crc parser decode seen recorded after := by
  obtain ⟨batches, store, opens, holds, kept⟩ := retains
  rw [next] at moved
  generalize same : { host with files := fun path => if path = dataPath then file else host.files path } = here at moved
  have onDisk : here.files dataPath = file := by
    rw [← same]
    exact if_pos rfl
  have data : here.env "EVENTFOLD_DATA" = some dataPath := by
    rw [← same]
    exact isData
  split at moved
  next process files launched =>
    cases moved
    obtain ⟨config, other, described, opened, started⟩ := started_of_launch launched
    rw [described.dataPath] at data
    rw [Option.some.inj data, onDisk] at opened
    rw [opened] at opens
    cases opens
    have log := started_log started
    have events : recorded ⊆ process.log.events := by
      rw [log]
      exact List.Subset.trans inside kept.subset
    refine ⟨alive_of_started started (Lifecycle.canonical_of_open opened) holds, by rw [log]; exact kept, ?_⟩
    apply settles_of_unsent _ events
    rw [(started_task started).1]
    rfl
  next result files failed launched =>
    cases moved
    rw [← onDisk] at opens
    have again := @open_of_launch Addr crc parsers here dataPath data store opens
    rw [launched] at again
    exact ⟨batches, store, again, holds, kept⟩

theorem keeps_next (inside : recorded ⊆ seen) (before : Installation) (step : Step Addr) (after : Installation)
    (keeps : Keeps Addr crc parser decode seen recorded before) (permitted : Permitted crc dataPath before step)
    (moved : next crc parsers parser decode dataPath step before = some after) :
    Keeps Addr crc parser decode seen recorded after := by
  cases before with
  | down file =>
    cases step with
    | start host => exact keeps_start inside keeps permitted moved
    | serve | kill | killServing => cases moved
  | up process =>
    obtain ⟨alive, kept, settles⟩ := keeps
    cases step with
    | start host => cases moved
    | serve step =>
      obtain ⟨later, processMoved, same⟩ := Option.map_eq_some_iff.mp moved
      rw [← same]
      have moves := ServerRuns.moves_of_next processMoved
      exact ⟨alive.next permitted processMoved, kept.trans (log_next moves), settles_next settles moves⟩
    | kill =>
      cases moved
      exact alive.retains kept
    | killServing fault =>
      rw [next] at moved
      split_ifs at moved
      obtain ⟨task, taskMoved, same⟩ := Option.map_eq_some_iff.mp moved
      rw [← same]
      exact alive.retains_serving kept taskMoved (permitted task taskMoved)

theorem keeps_of_run (inside : recorded ⊆ seen) {before after : Installation}
    (keeps : Keeps Addr crc parser decode seen recorded before)
    (run : Reaches (next crc parsers parser decode dataPath) (Permitted crc dataPath) before after) :
    Keeps Addr crc parser decode seen recorded after :=
  run.invariant (Keeps Addr crc parser decode seen recorded) keeps (keeps_next inside)

theorem alive_of_run {process : Process}
    (run : Reaches (next crc parsers parser decode dataPath) (Permitted crc dataPath) (.down none) (.up process)) :
    Alive Addr crc parser decode process := by
  have nothing : Retains crc [] none := ⟨[], Store.create, rfl, holds_create crc, List.nil_prefix⟩
  exact (keeps_of_run (List.Subset.refl []) (show Keeps Addr crc parser decode [] [] (.down none) from nothing) run).1

end

/-! ### A first restart -/

theorem reaches_up {Addr : Type} {crc : Crc32fast} (parsers : Parsers Addr) {parser : UuidParser} {decode : Decoder}
    (dataPath : String) {start process : Process}
    (run : Reaches (Process.next crc parser decode) Undisturbed start process) :
    Reaches (next crc parsers parser decode dataPath) (Permitted crc dataPath) (.up start) (.up process) := by
  induction run with
  | refl => exact .refl
  | tail _ step ih =>
    obtain ⟨label, undisturbed, moved⟩ := step
    refine ih.tail ⟨.serve label, undisturbed, ?_⟩
    rw [next, moved]
    rfl

theorem start_plain (crc : Crc32fast) {file after : Option File} {store : Store}
    (opened : Store.open crc file = (ok store, after)) : ∃ process, process.exchanges = [] ∧
    next crc plainParsers plainParser plainDecode "data/log" (.start (plainHost "k")) (.down file) = some (.up process) := by
  obtain ⟨process, served⟩ := @serve_ready Unit
    { plainHost "k" with files := fun path => if path = "data/log" then file else none } (plainConfig "k") store
    ⟨⟨by decide, rfl, rfl⟩, (fun _ impossible => by cases impossible), rfl⟩
  have described := plainConfig_describes (show "k" ≠ "" by decide)
  refine ⟨process, (serve_started served).2.exchanges, ?_⟩
  have onDisk : openData crc { plainHost "k" with files := fun path => if path = "data/log" then file else none }
      (plainConfig "k").dataPath = (ok store, after) := by
    rw [openData, show (plainConfig "k").dataPath = "data/log" from rfl]
    dsimp only
    rw [plainHost_synced, if_pos rfl]
    exact opened
  have env : Config.fromEnv plainParsers (plainHost "k").env = ok (plainConfig "k") := Config.fromEnv_eq_ok.mpr described
  have elsewhere : (plainHost "k").files = fun _ => none := rfl
  rw [next, launch]
  dsimp only
  rw [env, elsewhere]
  dsimp only
  rw [onDisk]
  dsimp only
  rw [served]

/-! ### Across all lives -/

/-- An append that one server has acknowledged, seen by every server that runs over the file later: it is
read there under the positions of the response, and streamed. -/
theorem acknowledged_forever {Addr : Type} (crc : Crc32fast) (parsers : Parsers Addr) (parser : UuidParser)
    (decode : Decoder) (dataPath : String) (process later : Process)
    (run : Reaches (next crc parsers parser decode dataPath) (Permitted crc dataPath) (.down none) (.up process))
    (further : Reaches (next crc parsers parser decode dataPath) (Permitted crc dataPath) (.up process) (.up later))
    (exchange : Exchange) (member : exchange ∈ process.exchanges) (response : Proto.AppendResponse)
    (success : exchange.progress = .replied (.append (ok response))) :
    ∃ message recorded, exchange.rpc = .append message ∧ Acknowledged parser later message response recorded := by
  have alive := alive_of_run run
  obtain ⟨_, config, store, start, started, canonical, wellFormed, life⟩ := alive.run
  obtain ⟨filed, acked⟩ := filed_of_run started wellFormed canonical life
  obtain ⟨answer, sent, recorded, ⟨message, isAppend, passed⟩, isOk, responded⟩ :=
    ((kept_of_run started life).traced.exchanges exchange member).acknowledged response success
  have given : answer ∈ answered process.system.task := List.mem_append_left _ sent
  have segment : Segment process.log.events recorded := filed.segmented.answers answer given recorded isOk
  have explained : Explained process.log.events answer recorded := filed.explained answer given recorded isOk
  -- the whole log of that moment stays the first part of every later one
  obtain ⟨aliveLater, ⟨more, grown⟩, settles⟩ := keeps_of_run segment.contiguous.subset
    (show Keeps Addr crc parser decode process.log.events recorded (.up process) from
      ⟨alive, List.prefix_refl _, acked answer sent recorded isOk⟩) further
  obtain ⟨_, config', store', start', started', canonical', wellFormed', life'⟩ := aliveLater.run
  refine ⟨message, recorded, isAppend, acknowledged_of_explained (kept_of_run started' life') wellFormed'
    (filed_of_run started' wellFormed' canonical' life').1 ?_ ?_ settles passed responded⟩
  · rw [← grown]
    exact segment.grow more
  · rw [← grown]
    exact explained.grow more

theorem acknowledged_forever_killed :
    ∃ process later exchange response message recorded,
      Reaches (next Crc32fast.ieee plainParsers plainParser plainDecode "data/log") (Permitted Crc32fast.ieee "data/log")
        (.down none) (.up process) ∧
      Reaches (next Crc32fast.ieee plainParsers plainParser plainDecode "data/log") (Permitted Crc32fast.ieee "data/log")
        (.up process) (.up later) ∧
      exchange ∈ process.exchanges ∧ exchange.progress = .replied (.append (ok response)) ∧ later.exchanges = [] ∧
      Acknowledged plainParser later message response recorded := by
  have comesUp : next Crc32fast.ieee plainParsers plainParser plainDecode "data/log" (.start (plainHost "k")) (.down none) =
      some (.up (plainServer "k" newSystem [] [])) := by
    have same : { plainHost "k" with files := fun path => if path = "data/log" then none else (plainHost "k").files path } =
        plainHost "k" := by
      simp [plainHost]
    rw [next, same, launch_plain Crc32fast.ieee (show "k" ≠ "" by decide)]
  have run := Relation.ReflTransGen.head
    (⟨.start (plainHost "k"), rfl, comesUp⟩ : StepsTo (next Crc32fast.ieee plainParsers plainParser plainDecode "data/log")
      (Permitted Crc32fast.ieee "data/log") (.down none) (.up (plainServer "k" newSystem [] [])))
    (reaches_up plainParsers "data/log" (reaches_replied Crc32fast.ieee "k"))
  obtain ⟨batches, holds⟩ := (alive_of_run run).sound.holds
  obtain ⟨later, fresh, again⟩ := start_plain Crc32fast.ieee (open_clean holds.small holds.bytes)
  have further : Reaches (next Crc32fast.ieee plainParsers plainParser plainDecode "data/log")
      (Permitted Crc32fast.ieee "data/log")
      (.up (visited "k" (firstAnswered Crc32fast.ieee) (some 0) (.returned (.ok firstBatch.events)) firstBatch.events
        (.replied (Process.answer (.ok firstBatch.events))))) (.up later) :=
    .tail (.single ⟨.kill, trivial, rfl⟩) ⟨.start (plainHost "k"), rfl, again⟩
  have member : friend (.replied (Process.answer (.ok firstBatch.events))) ∈
      [stranger, friend (.replied (Process.answer (.ok firstBatch.events)))] := List.mem_cons_of_mem _ (List.mem_cons_self ..)
  obtain ⟨message, recorded, _, acknowledged⟩ := acknowledged_forever Crc32fast.ieee plainParsers plainParser plainDecode
    "data/log" _ later run further _ member _ rfl
  exact ⟨_, later, _, _, message, recorded, run, further, member, rfl, fresh, acknowledged⟩

end EventfoldDb.Restarts
