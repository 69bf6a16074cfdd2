import EventfoldDb.WriterSpec

/-! The loop of `run_writer` taken apart into its single operations: the lookup, each `write` of the
batch, `sync_all`, the index update, the dedup record, each message to the broker, the answer. The
task of `Writer` takes all of them up to the index update in one step; this one is a refinement. -/

namespace EventfoldDb.WriterSteps
open Outcome Recovery AppendSpec DiskInvariant WriterSpec Machine

/-- Where the loop stands with the request it has taken out of the drained ones. -/
inductive LoopPhase where
  | between
  /-- The ids are distinct and the first one is not in the dedup index. -/
  | checked (ticket : Ticket)
  /-- Inside `append`, with these bytes of the batch still to be written. -/
  | writing (ticket : Ticket) (recorded : List RecordedEvent) (rest : List UInt8)
  /-- Inside `append`, after `sync_all` and before the index update. -/
  | flushed (ticket : Ticket) (recorded : List RecordedEvent)
  | indexed (ticket : Ticket) (recorded : List RecordedEvent)
  /-- The batch is in the dedup index, and these events are still to be sent to the broker. -/
  | publishing (ticket : Ticket) (recorded unsent : List RecordedEvent)
  | answering (answer : Answer)

structure Loop where
  writer : Writer
  inbox : List Ticket
  batch : List Ticket
  recordedAt : UInt64
  phase : LoopPhase
  /-- Everything sent to the broker. -/
  published : List RecordedEvent
  answers : List Answer
  submitted : Nat

inductive Step where
  | submit (request : AppendRequest)
  | drain (count : Nat) (recordedAt : UInt64)
  /-- Steps 0 and 1 of the loop body. -/
  | check
  /-- What `append` computes before it touches the file. -/
  | prepare
  | write (count : Nat)
  | sync
  /-- `seek`, `write_all` or `sync_all` fails. -/
  | fail
  | index
  | record
  | publish
  | respond

def start (writer : Writer) : Loop where
  writer := writer
  inbox := []
  batch := []
  recordedAt := 0
  phase := .between
  published := []
  answers := []
  submitted := 0

def Loop.withFile (loop : Loop) (file : File) : Loop :=
  { loop with writer := { loop.writer with store := { loop.writer.store with file } } }

def next (crc : Crc32fast) : Step → Loop → Option Loop
  | .submit request, loop =>
      some { loop with inbox := loop.inbox ++ [⟨loop.submitted, request⟩], submitted := loop.submitted + 1 }
  | .drain count recordedAt, loop =>
      match loop.phase, loop.batch with
      | .between, [] =>
          if 0 < count ∧ count ≤ loop.inbox.length then
            some { loop with batch := loop.inbox.take count, inbox := loop.inbox.drop count, recordedAt }
          else none
      | _, _ => none
  | .check, loop =>
      match loop.phase, loop.batch with
      | .between, ticket :: batch =>
          match validateBatchUniqueIds ticket.request.events with
          | .error error => some { loop with batch, phase := .answering ⟨ticket, .invalid, .error error⟩ }
          | .ok () =>
              match loop.writer.dedup.check ticket.request.events with
              | (some cached, dedup) =>
                  some { loop with
                    batch, writer := { loop.writer with dedup }, phase := .answering ⟨ticket, .cached, .ok cached⟩ }
              | (none, dedup) =>
                  some { loop with batch, writer := { loop.writer with dedup }, phase := .checked ticket }
      | _, _ => none
  | .prepare, loop =>
      match loop.phase with
      | .checked ticket =>
          match prepareCall crc loop.writer.store.log (ticket.request.call loop.recordedAt) with
          | .error error => some { loop with phase := .answering ⟨ticket, .appended, .error error⟩ }
          | .ok (recorded, encodedBatch) => some { loop with phase := .writing ticket recorded encodedBatch }
      | _ => none
  | .write count, loop =>
      match loop.phase with
      | .writing ticket recorded rest =>
          if 0 < count ∧ count ≤ rest.length then
            some { loop.withFile (loop.writer.store.file.write (rest.take count)) with
              phase := .writing ticket recorded (rest.drop count) }
          else none
      | _ => none
  | .sync, loop =>
      match loop.phase with
      | .writing ticket recorded [] =>
          some { loop.withFile loop.writer.store.file.syncAll with phase := .flushed ticket recorded }
      | _ => none
  | .fail, loop =>
      match loop.phase with
      | .writing ticket _ _ => some { loop with phase := .answering ⟨ticket, .appended, .error .io⟩ }
      | _ => none
  | .index, loop =>
      match loop.phase with
      | .flushed ticket recorded =>
          match loop.writer.store.log.extend ticket.request.streamId recorded with
          | .ok log =>
              some { loop with
                writer := { loop.writer with store := { loop.writer.store with log } }
                phase := .indexed ticket recorded }
          | _ => none
      | _ => none
  | .record, loop =>
      match loop.phase with
      | .indexed ticket recorded =>
          some { loop with
            writer := { loop.writer with dedup := loop.writer.dedup.record recorded }
            phase := .publishing ticket recorded recorded }
      | _ => none
  | .publish, loop =>
      match loop.phase with
      | .publishing ticket recorded (event :: unsent) =>
          some { loop with published := loop.published ++ [event], phase := .publishing ticket recorded unsent }
      | _ => none
  | .respond, loop =>
      match loop.phase with
      | .publishing ticket recorded [] =>
          some { loop with answers := loop.answers ++ [⟨ticket, .appended, .ok recorded⟩], phase := .between }
      | .answering answer => some { loop with answers := loop.answers ++ [answer], phase := .between }
      | _ => none

/-! ### What a step does -/

inductive Moves (crc : Crc32fast) (loop : Loop) : Step → Loop → Prop
  | submit (request : AppendRequest) :
      Moves crc loop (.submit request)
        { loop with inbox := loop.inbox ++ [⟨loop.submitted, request⟩], submitted := loop.submitted + 1 }
  | drain (count : Nat) (recordedAt : UInt64) (phase : loop.phase = .between) (idle : loop.batch = [])
      (positive : 0 < count) (inside : count ≤ loop.inbox.length) :
      Moves crc loop (.drain count recordedAt)
        { loop with batch := loop.inbox.take count, inbox := loop.inbox.drop count, recordedAt }
  | invalid (ticket : Ticket) (batch : List Ticket) (error : Error) (phase : loop.phase = .between)
      (drained : loop.batch = ticket :: batch) (refused : validateBatchUniqueIds ticket.request.events = .error error) :
      Moves crc loop .check { loop with batch, phase := .answering ⟨ticket, .invalid, .error error⟩ }
  | cached (ticket : Ticket) (batch : List Ticket) (recorded : List RecordedEvent) (phase : loop.phase = .between)
      (drained : loop.batch = ticket :: batch) (unique : validateBatchUniqueIds ticket.request.events = .ok ())
      (hit : (loop.writer.dedup.check ticket.request.events).1 = some recorded) :
      Moves crc loop .check
        { loop with
          batch
          writer := { loop.writer with dedup := (loop.writer.dedup.check ticket.request.events).2 }
          phase := .answering ⟨ticket, .cached, .ok recorded⟩ }
  | missed (ticket : Ticket) (batch : List Ticket) (phase : loop.phase = .between)
      (drained : loop.batch = ticket :: batch) (unique : validateBatchUniqueIds ticket.request.events = .ok ())
      (missed : (loop.writer.dedup.check ticket.request.events).1 = none) :
      Moves crc loop .check { loop with batch, phase := .checked ticket }
  | refused (ticket : Ticket) (error : Error) (phase : loop.phase = .checked ticket)
      (refused : prepareCall crc loop.writer.store.log (ticket.request.call loop.recordedAt) = .error error) :
      Moves crc loop .prepare { loop with phase := .answering ⟨ticket, .appended, .error error⟩ }
  | prepared (ticket : Ticket) (built : Batch) (phase : loop.phase = .checked ticket)
      (accepts : Accepts loop.writer.store.log (ticket.request.call loop.recordedAt) built) :
      Moves crc loop .prepare { loop with phase := .writing ticket built.events (built.encode crc) }
  | write (ticket : Ticket) (recorded : List RecordedEvent) (rest : List UInt8) (count : Nat)
      (phase : loop.phase = .writing ticket recorded rest) (positive : 0 < count) (inside : count ≤ rest.length) :
      Moves crc loop (.write count)
        { loop.withFile (loop.writer.store.file.write (rest.take count)) with
          phase := .writing ticket recorded (rest.drop count) }
  | sync (ticket : Ticket) (recorded : List RecordedEvent) (phase : loop.phase = .writing ticket recorded []) :
      Moves crc loop .sync { loop.withFile loop.writer.store.file.syncAll with phase := .flushed ticket recorded }
  | fail (ticket : Ticket) (recorded : List RecordedEvent) (rest : List UInt8)
      (phase : loop.phase = .writing ticket recorded rest) :
      Moves crc loop .fail { loop with phase := .answering ⟨ticket, .appended, .error .io⟩ }
  | index (ticket : Ticket) (recorded : List RecordedEvent) (phase : loop.phase = .flushed ticket recorded)
      (fits : loop.writer.store.log.events.length + recorded.length ≤ isizeMax) :
      Moves crc loop .index
        { loop with
          writer := { loop.writer with
            store := { loop.writer.store with log := extended loop.writer.store.log ticket.request.streamId recorded } }
          phase := .indexed ticket recorded }
  | record (ticket : Ticket) (recorded : List RecordedEvent) (phase : loop.phase = .indexed ticket recorded) :
      Moves crc loop .record
        { loop with
          writer := { loop.writer with dedup := loop.writer.dedup.record recorded }
          phase := .publishing ticket recorded recorded }
  | publish (ticket : Ticket) (recorded : List RecordedEvent) (event : RecordedEvent) (unsent : List RecordedEvent)
      (phase : loop.phase = .publishing ticket recorded (event :: unsent)) :
      Moves crc loop .publish
        { loop with published := loop.published ++ [event], phase := .publishing ticket recorded unsent }
  | respond (ticket : Ticket) (recorded : List RecordedEvent) (phase : loop.phase = .publishing ticket recorded []) :
      Moves crc loop .respond
        { loop with answers := loop.answers ++ [⟨ticket, .appended, .ok recorded⟩], phase := .between }
  | answer (answer : Answer) (phase : loop.phase = .answering answer) :
      Moves crc loop .respond { loop with answers := loop.answers ++ [answer], phase := .between }

theorem moves_of_next {crc : Crc32fast} {step : Step} {loop after : Loop} (moved : next crc step loop = some after) :
    Moves crc loop step after := by
  cases step with
  | submit request =>
    cases moved
    exact .submit request
  | drain count recordedAt =>
    rw [next] at moved
    split at moved
    next phase idle =>
      split_ifs at moved with inside
      cases moved
      exact .drain count recordedAt phase idle inside.1 inside.2
    next => cases moved
  | check =>
    rw [next] at moved
    split at moved
    next ticket batch phase drained =>
      cases unique : validateBatchUniqueIds ticket.request.events with
      | error error =>
        rw [unique] at moved
        cases moved
        exact .invalid ticket batch error phase drained unique
      | ok _ =>
        rw [unique] at moved
        dsimp only at moved
        split at moved
        next cached dedup checked =>
          cases moved
          have dedupEq : dedup = (loop.writer.dedup.check ticket.request.events).2 := by rw [checked]
          rw [dedupEq]
          exact .cached ticket batch cached phase drained unique (by rw [checked])
        next dedup checked =>
          cases moved
          have missed : (loop.writer.dedup.check ticket.request.events).1 = none := by rw [checked]
          have dedupEq : dedup = loop.writer.dedup := by
            rw [← check_missed missed, checked]
          rw [dedupEq]
          exact .missed ticket batch phase drained unique missed
    next => cases moved
  | prepare =>
    rw [next] at moved
    split at moved
    next ticket phase =>
      split at moved
      next error refused =>
        cases moved
        exact .refused ticket error phase refused
      next recorded encodedBatch prepared =>
        cases moved
        obtain ⟨built, accepts, recordedEq, bytesEq⟩ := prepareCall_ok crc _ _ recorded encodedBatch prepared
        rw [recordedEq, bytesEq]
        exact .prepared ticket built phase accepts
    next => cases moved
  | write count =>
    rw [next] at moved
    split at moved
    next ticket recorded rest phase =>
      split_ifs at moved with inside
      cases moved
      exact .write ticket recorded rest count phase inside.1 inside.2
    next => cases moved
  | sync =>
    rw [next] at moved
    split at moved
    next ticket recorded phase =>
      cases moved
      exact .sync ticket recorded phase
    next => cases moved
  | fail =>
    rw [next] at moved
    split at moved
    next ticket recorded rest phase =>
      cases moved
      exact .fail ticket recorded rest phase
    next => cases moved
  | index =>
    rw [next] at moved
    split at moved
    next ticket recorded phase =>
      rw [EventLog.extend] at moved
      by_cases fits : loop.writer.store.log.events.length + recorded.length ≤ isizeMax
      · rw [if_pos fits] at moved
        cases moved
        exact .index ticket recorded phase fits
      · rw [if_neg fits] at moved
        cases moved
    next => cases moved
  | record =>
    rw [next] at moved
    split at moved
    next ticket recorded phase =>
      cases moved
      exact .record ticket recorded phase
    next => cases moved
  | publish =>
    rw [next] at moved
    split at moved
    next ticket recorded event unsent phase =>
      cases moved
      exact .publish ticket recorded event unsent phase
    next => cases moved
  | respond =>
    rw [next] at moved
    split at moved
    next ticket recorded phase =>
      cases moved
      exact .respond ticket recorded phase
    next answer phase =>
      cases moved
      exact .answer answer phase
    next => cases moved

/-! ### Refinement -/

def waiting (loop : Loop) (writer : Writer) (batch : List Ticket) : Task where
  writer := writer
  inbox := loop.inbox
  batch := batch
  recordedAt := loop.recordedAt
  unsent := []
  reply := none
  answers := loop.answers
  submitted := loop.submitted

def replying (loop : Loop) (writer : Writer) (unsent : List RecordedEvent) (answer : Answer) : Task :=
  { waiting loop writer loop.batch with unsent, reply := some answer }

def Unknown (writer : Writer) (ticket : Ticket) : Prop :=
  validateBatchUniqueIds ticket.request.events = .ok () ∧ (writer.dedup.check ticket.request.events).1 = none

/-- Until the index update the task has not served the request, and its file is the one from before. -/
structure Appending (loop : Loop) (ticket : Ticket) (recorded : List RecordedEvent) (file : File)
    (built : Batch) (task : Task) : Prop where
  task : task = waiting loop ⟨⟨file, loop.writer.store.log⟩, loop.writer.dedup⟩ (ticket :: loop.batch)
  unknown : Unknown loop.writer ticket
  accepts : Accepts loop.writer.store.log (ticket.request.call loop.recordedAt) built
  recorded : recorded = built.events

def Implements (crc : Crc32fast) (loop : Loop) (task : Task) : Prop :=
  match loop.phase with
  | .between => task = waiting loop loop.writer loop.batch
  | .checked ticket => task = waiting loop loop.writer (ticket :: loop.batch) ∧ Unknown loop.writer ticket
  | .writing ticket recorded rest => ∃ file built written, Appending loop ticket recorded file built task ∧
      built.encode crc = written ++ rest ∧ loop.writer.store.file = file.write written
  | .flushed ticket recorded => ∃ file built, Appending loop ticket recorded file built task ∧
      loop.writer.store.file = (file.write (built.encode crc)).syncAll
  | .indexed ticket recorded =>
      task = replying loop { loop.writer with dedup := loop.writer.dedup.record recorded } recorded
        ⟨ticket, .appended, .ok recorded⟩
  | .publishing ticket recorded unsent => task = replying loop loop.writer unsent ⟨ticket, .appended, .ok recorded⟩
  | .answering answer => task = replying loop loop.writer [] answer

section
variable {crc : Crc32fast} {loop after : Loop} {task : Task} {step : Step}

theorem next_waiting {fault : Fault} {writer written : Writer} {ticket : Ticket} {batch : List Ticket} {route : Route}
    {publishes : List RecordedEvent} (result : Except Error (List RecordedEvent))
    (served : writer.serve crc fault loop.recordedAt ticket.request = ⟨returned result, route, written, publishes⟩) :
    Task.next crc (.serve fault) (waiting loop writer (ticket :: batch)) =
      some { waiting loop written batch with unsent := publishes, reply := some ⟨ticket, route, result⟩ } := by
  rw [Task.next]
  dsimp only [waiting]
  rw [served]
  cases result with
  | ok recorded => rfl
  | error error => rfl

theorem serve_invalid {fault : Fault} {recordedAt : UInt64} {writer : Writer} {request : AppendRequest} {error : Error}
    (refused : validateBatchUniqueIds request.events = .error error) :
    writer.serve crc fault recordedAt request = ⟨.err error, .invalid, writer, []⟩ := by
  rw [Writer.serve, refused]

theorem serve_unknown {fault : Fault} {recordedAt : UInt64} {writer : Writer} {ticket : Ticket} {error : Error}
    {store : Store} (unknown : Unknown writer ticket)
    (called : runCall crc fault writer.store (ticket.request.call recordedAt) = (.err error, store)) :
    writer.serve crc fault recordedAt ticket.request = ⟨.err error, .appended, { writer with store }, []⟩ := by
  obtain ⟨unique, missed⟩ := unknown
  rw [Writer.serve, unique]
  dsimp only
  rw [check_eq_of_missed missed]
  dsimp only
  rw [called]

theorem runCall_refused {store : Store} {call : AppendCall} {error : Error}
    (refused : prepareCall crc store.log call = .error error) (fault : Fault) :
    runCall crc fault store call = (.err error, store) := by
  unfold prepareCall at refused
  rw [runCall, Store.append, refused]

theorem Implements.submit (implements : Implements crc loop task) (request : AppendRequest) :
    ∃ after, Task.next crc (.submit request) task = some after ∧
      Implements crc
        { loop with inbox := loop.inbox ++ [⟨loop.submitted, request⟩], submitted := loop.submitted + 1 } after := by
  refine ⟨_, rfl, ?_⟩
  unfold Implements at implements ⊢
  dsimp only
  split at implements
  next => rw [implements]; rfl
  next =>
    obtain ⟨taskEq, unknown⟩ := implements
    exact ⟨by rw [taskEq]; rfl, unknown⟩
  next =>
    obtain ⟨file, built, written, ⟨taskEq, unknown, accepts, recorded⟩, bytes⟩ := implements
    exact ⟨file, built, written, ⟨by rw [taskEq]; rfl, unknown, accepts, recorded⟩, bytes⟩
  next =>
    obtain ⟨file, built, ⟨taskEq, unknown, accepts, recorded⟩, bytes⟩ := implements
    exact ⟨file, built, ⟨by rw [taskEq]; rfl, unknown, accepts, recorded⟩, bytes⟩
  next => rw [implements]; rfl
  next => rw [implements]; rfl
  next => rw [implements]; rfl

/-- A step of the loop is one step of the task or none. -/
theorem Implements.simulates (implements : Implements crc loop task) (moves : Moves crc loop step after) :
    ∃ next, Reaches (Task.next crc) always task next ∧ Implements crc after next := by
  cases moves with
  | submit request =>
    obtain ⟨next, moved, implemented⟩ := implements.submit request
    exact ⟨next, .single ⟨.submit request, trivial, moved⟩, implemented⟩
  | drain count recordedAt phase idle positive inside =>
    rw [Implements, phase] at implements
    dsimp only at implements
    rw [implements]
    have moved : Task.next crc (.drain count recordedAt) (waiting loop loop.writer loop.batch) = some _ :=
      if_pos ⟨idle, rfl, rfl, positive, inside⟩
    refine ⟨_, .single ⟨.drain count recordedAt, trivial, moved⟩, ?_⟩
    rw [Implements]
    dsimp only
    rw [phase]
    rfl
  | invalid ticket batch error phase drained refused =>
    rw [Implements, phase, drained] at implements
    dsimp only at implements
    rw [implements]
    exact ⟨_, .single ⟨.serve .none, trivial, next_waiting (.error error) (serve_invalid refused)⟩, rfl⟩
  | cached ticket batch recorded phase drained unique hit =>
    rw [Implements, phase, drained] at implements
    dsimp only at implements
    rw [implements]
    have served := serve_cached crc .none loop.recordedAt unique hit
    exact ⟨_, .single ⟨.serve .none, trivial, next_waiting (.ok recorded) served⟩, rfl⟩
  | missed ticket batch phase drained unique missed =>
    rw [Implements, phase, drained] at implements
    exact ⟨task, .refl, implements, unique, missed⟩
  | refused ticket error phase refused =>
    rw [Implements, phase] at implements
    obtain ⟨taskEq, unknown⟩ := implements
    rw [taskEq]
    have served := serve_unknown unknown (runCall_refused refused .none)
    exact ⟨_, .single ⟨.serve .none, trivial, next_waiting (.error error) served⟩, rfl⟩
  | prepared ticket built phase accepts =>
    rw [Implements, phase] at implements
    obtain ⟨taskEq, unknown⟩ := implements
    exact ⟨task, .refl, loop.writer.store.file, built, [], ⟨taskEq, unknown, accepts, rfl⟩, rfl, (write_nil _).symm⟩
  | write ticket recorded rest count phase positive inside =>
    rw [Implements, phase] at implements
    obtain ⟨file, built, written, ⟨taskEq, unknown, accepts, recordedEq⟩, bytes, fileEq⟩ := implements
    refine ⟨task, .refl, file, built, written ++ rest.take count, ⟨taskEq, unknown, accepts, recordedEq⟩, ?_, ?_⟩
    · rw [List.append_assoc, List.take_append_drop]
      exact bytes
    · show loop.writer.store.file.write (rest.take count) = _
      rw [fileEq, write_write]
  | sync ticket recorded phase =>
    rw [Implements, phase] at implements
    obtain ⟨file, built, written, ⟨taskEq, unknown, accepts, recordedEq⟩, bytes, fileEq⟩ := implements
    refine ⟨task, .refl, file, built, ⟨taskEq, unknown, accepts, recordedEq⟩, ?_⟩
    show loop.writer.store.file.syncAll = _
    rw [bytes, List.append_nil, fileEq]
  | fail ticket recorded rest phase =>
    rw [Implements, phase] at implements
    obtain ⟨file, built, written, ⟨taskEq, unknown, accepts, recordedEq⟩, bytes, fileEq⟩ := implements
    rw [taskEq]
    have called := runCall_faulty crc (.write written.length) ⟨file, loop.writer.store.log⟩ _ built accepts (by simp)
    have leftover : Fault.leftover (.write written.length) (built.encode crc) = written := by
      rw [Fault.leftover, bytes, List.take_left]
    rw [leftover, ← fileEq] at called
    have served : Writer.serve crc (.write written.length) loop.recordedAt
        ⟨⟨file, loop.writer.store.log⟩, loop.writer.dedup⟩ ticket.request = _ := serve_unknown unknown called
    exact ⟨_, .single ⟨.serve (.write written.length), trivial, next_waiting (.error .io) served⟩, rfl⟩
  | index ticket recorded phase fits =>
    rw [Implements, phase] at implements
    obtain ⟨file, built, ⟨taskEq, ⟨unique, missed⟩, accepts, recordedEq⟩, fileEq⟩ := implements
    rw [taskEq]
    rw [recordedEq] at fits ⊢
    have served : Writer.serve crc .none loop.recordedAt ⟨⟨file, loop.writer.store.log⟩, loop.writer.dedup⟩
        ticket.request = _ := serve_accepted crc unique (check_eq_of_missed missed) accepts fits
    refine ⟨_, .single ⟨.serve .none, trivial, next_waiting (.ok built.events) served⟩, ?_⟩
    rw [Implements]
    dsimp only
    rw [fileEq]
    rfl
  | record ticket recorded phase =>
    rw [Implements, phase] at implements
    exact ⟨task, .refl, implements⟩
  | publish ticket recorded event unsent phase =>
    rw [Implements, phase] at implements
    dsimp only at implements
    rw [implements]
    exact ⟨_, .single ⟨.publish, trivial, rfl⟩, rfl⟩
  | respond ticket recorded phase =>
    rw [Implements, phase] at implements
    dsimp only at implements
    rw [implements]
    exact ⟨_, .single ⟨.respond, trivial, rfl⟩, rfl⟩
  | answer answer phase =>
    rw [Implements, phase] at implements
    dsimp only at implements
    rw [implements]
    exact ⟨_, .single ⟨.respond, trivial, rfl⟩, rfl⟩

/-- Every state of the loop implements a state that the task reaches. -/
theorem loop_implements_task {writer : Writer} (run : Reaches (next crc) always (start writer) loop) :
    ∃ task, Reaches (Task.next crc) always (Task.start writer) task ∧ Implements crc loop task := by
  apply run.invariant (fun loop => ∃ task, Reaches (Task.next crc) always (Task.start writer) task ∧ Implements crc loop task)
  · exact ⟨Task.start writer, .refl, rfl⟩
  · intro before step after reached _ moved
    cases reached with
    | intro task behind =>
      obtain ⟨next, more, implemented⟩ := Implements.simulates behind.2 (moves_of_next moved)
      exact ⟨next, behind.1.trans more, implemented⟩

end

end EventfoldDb.WriterSteps
