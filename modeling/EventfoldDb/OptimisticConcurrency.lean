import EventfoldDb.WriterSpec
import EventfoldDb.Lib.SerialLog

/-! Any number of clients, the writer task and clean restarts. The requests that were written are
conditional appends to a log divided by stream, let in one after another. -/

namespace EventfoldDb.OptimisticConcurrency
open Outcome Recovery AppendSpec LogInvariant DiskInvariant WriterSpec Numbering Window SerialLog Machine

inductive Step where
  | task (step : Task.Step)
  /-- The writer task ends with nothing left to do, and the log is opened again. -/
  | restart (dedupCapacity : Nat)

/-- Answers, and the numbers of the response channels, outlive a restart. -/
def next (crc : Crc32fast) : Step → Task → Option Task
  | .task step, task => Task.next crc step task
  | .restart dedupCapacity, task =>
      if task.inbox = [] ∧ task.batch = [] ∧ task.unsent = [] ∧ task.reply.isNone then
        match Store.open crc (some task.writer.store.file) with
        | (.ok store, _) => some (idle (Writer.spawn store dedupCapacity) task.answers task.submitted task.recordedAt)
        | _ => none
      else none

/-- Requests are not empty and no I/O fails. -/
def Faultless (task : Task) : Step → Prop
  | .task step => task.Filled step ∧ task.Faultless step
  | .restart _ => True

/-- And every request fits the record count of a batch header. -/
def Counted (task : Task) (step : Step) : Prop :=
  Faultless task step ∧ ∀ inner, step = .task inner → task.Counted inner

def baseOf : ExpectedVersion → Option Nat
  | .any => none
  | .noStream => some 0
  | .exact version => some (version.toNat + 1)

/-- What the answers say about the log. A request counts when it was answered `Ok` and not from
the dedup index. -/
structure NoLostUpdate (log : EventLog) (answers : List Answer) : Prop where
  once : ∀ (i j : Nat) (first second : Answer), answers[i]? = some first → answers[j]? = some second →
    (written first).isSome → (written second).isSome →
    first.ticket.request.streamId = second.ticket.request.streamId →
    first.ticket.request.expectedVersion = second.ticket.request.expectedVersion →
    first.ticket.request.expectedVersion ≠ .any → i = j
  placed : ∀ answer ∈ answers, ∀ recorded base, written answer = some recorded →
    baseOf answer.ticket.request.expectedVersion = some base →
    recorded ≠ [] ∧ Numbered (·.streamVersion.toNat) base recorded ∧
      window base (base + recorded.length) (streamEvents answer.ticket.request.streamId log.events) = recorded
  apart : ∀ (i j : Nat) (first second : Answer), i ≠ j → answers[i]? = some first → answers[j]? = some second →
    ∀ recorded others base, written first = some recorded → written second = some others →
    baseOf first.ticket.request.expectedVersion = some base →
    ∀ event ∈ others, event.streamId = first.ticket.request.streamId →
      event.streamVersion.toNat < base ∨ base + recorded.length ≤ event.streamVersion.toNat

/-! ### The abstract history -/

def writeOf (answer : Answer) : Option (Write RecordedEvent Uuid) :=
  (written answer).map fun recorded =>
    { target := answer.ticket.request.streamId
      base := baseOf answer.ticket.request.expectedVersion
      items := recorded }

def writesOf (answers : List Answer) : List (Write RecordedEvent Uuid) := answers.filterMap writeOf

/-- The log is the serial history of what was written since the start. -/
structure Refines (initial : List RecordedEvent) (log : EventLog) (answers : List Answer) : Prop where
  serial : Serial RecordedEvent.streamId initial (writesOf answers)
  events : log.events = initial ++ itemsOf (writesOf answers)

theorem writesOf_snoc_none {answer : Answer} (nothing : written answer = none) (answers : List Answer) :
    writesOf (answers ++ [answer]) = writesOf answers := by
  have none : writeOf answer = none := by rw [writeOf, nothing, Option.map_none]
  rw [writesOf, writesOf, List.filterMap_append, List.filterMap_cons_none none, List.filterMap_nil, List.append_nil]

theorem writeOf_eq {answer : Answer} {recorded : List RecordedEvent} (wrote : written answer = some recorded) :
    writeOf answer =
      some ⟨answer.ticket.request.streamId, baseOf answer.ticket.request.expectedVersion, recorded⟩ := by
  rw [writeOf, wrote, Option.map_some]

theorem writesOf_snoc {answer : Answer} {recorded : List RecordedEvent} (wrote : written answer = some recorded)
    (answers : List Answer) :
    writesOf (answers ++ [answer]) = writesOf answers ++
      [⟨answer.ticket.request.streamId, baseOf answer.ticket.request.expectedVersion, recorded⟩] := by
  rw [writesOf, writesOf, List.filterMap_append, List.filterMap_cons_some (writeOf_eq wrote), List.filterMap_nil]

theorem base_of_check {log : EventLog} (wellFormed : WellFormed log) (canonical : Canonical log) {streamId : Uuid}
    {expected : ExpectedVersion} (versionOk : log.checkExpectedVersion streamId expected = .ok ()) {base : Nat}
    (expects : baseOf expected = some base) : base = (streamEvents streamId log.events).length := by
  cases expected with
  | any => cases expects
  | noStream =>
    cases expects
    cases found : log.streams.lookup streamId with
    | none => rw [wellFormed.streamEvents_of_unlisted found, List.length_nil]
    | some listed =>
      rw [EventLog.checkExpectedVersion, found] at versionOk
      cases versionOk
  | exact version =>
    cases expects
    cases found : log.streams.lookup streamId with
    | none =>
      rw [EventLog.checkExpectedVersion, found] at versionOk
      cases versionOk
    | some listed =>
      -- A canonical index lists no stream without events, so the subtraction does not wrap.
      have rebuilt := canonical.lookup streamId
      rw [found] at rebuilt
      split_ifs at rebuilt with empty
      have some := List.length_pos_of_ne_nil empty
      have bound := wellFormed.length_streamEvents_le streamId
      unfold isizeMax at bound
      rw [EventLog.checkExpectedVersion, found] at versionOk
      dsimp only at versionOk
      rw [wellFormed.length_listed found] at versionOk
      split_ifs at versionOk with different
      rw [← not_not.mp different, UInt64.toNat_sub_of_le _ _ ?_, UInt64.toNat_ofNat', Nat.mod_eq_of_lt (by omega)]
      · exact Nat.sub_add_cancel some
      · rw [UInt64.le_iff_toNat_le, UInt64.toNat_ofNat', Nat.mod_eq_of_lt (by omega)]
        exact some

section
variable {initial : List RecordedEvent} {log : EventLog} {answers : List Answer}

variable (wellFormed : WellFormed log) (refines : Refines initial log answers)
include wellFormed refines

theorem Refines.precedes {i j : Nat} (earlier : i < j) {first second : Answer} (atFirst : answers[i]? = some first)
    (atSecond : answers[j]? = some second) {recorded others : List RecordedEvent}
    (firstWrote : written first = some recorded) (secondWrote : written second = some others) :
    Precedes (·.streamVersion.toNat) RecordedEvent.streamId
      ⟨first.ticket.request.streamId, baseOf first.ticket.request.expectedVersion, recorded⟩
      ⟨second.ticket.request.streamId, baseOf second.ticket.request.expectedVersion, others⟩ := by
  have numbered : ∀ target, Numbered (·.streamVersion.toNat) 0
      (under RecordedEvent.streamId target (initial ++ itemsOf (writesOf answers))) := by
    rw [← refines.events]
    exact wellFormed.versions
  have pairwise := List.pairwise_filterMap.mp (refines.serial.pairwise numbered)
  obtain ⟨iInside, iSame⟩ := List.getElem?_eq_some_iff.mp atFirst
  obtain ⟨jInside, jSame⟩ := List.getElem?_eq_some_iff.mp atSecond
  have related := List.pairwise_iff_getElem.mp pairwise i j iInside jInside earlier
  rw [iSame, jSame] at related
  exact related _ (writeOf_eq firstWrote) _ (writeOf_eq secondWrote)

theorem Refines.placed {answer : Answer} (member : answer ∈ answers) {recorded : List RecordedEvent} {base : Nat}
    (wrote : written answer = some recorded) (expects : baseOf answer.ticket.request.expectedVersion = some base) :
    recorded ≠ [] ∧ Numbered (·.streamVersion.toNat) base recorded ∧
      window base (base + recorded.length) (streamEvents answer.ticket.request.streamId log.events) = recorded := by
  have isWrite := List.mem_filterMap.mpr ⟨answer, member, writeOf_eq wrote⟩
  obtain ⟨_, admitted⟩ := refines.serial.admitted isWrite
  have occupied :
      window base (base + recorded.length) (streamEvents answer.ticket.request.streamId log.events) = recorded := by
    rw [refines.events]
    exact refines.serial.occupies isWrite expects
  have numbered := Numbered.window (wellFormed.versions answer.ticket.request.streamId) base (base + recorded.length)
  rw [occupied] at numbered
  exact ⟨admitted.present, numbered, occupied⟩

theorem Refines.not_twice {i j : Nat} (earlier : i < j) {first second : Answer} (atFirst : answers[i]? = some first)
    (atSecond : answers[j]? = some second) (firstWrote : (written first).isSome) (secondWrote : (written second).isSome)
    (sameStream : first.ticket.request.streamId = second.ticket.request.streamId)
    (sameVersion : first.ticket.request.expectedVersion = second.ticket.request.expectedVersion)
    (cares : first.ticket.request.expectedVersion ≠ .any) : False := by
  obtain ⟨recorded, firstWrote⟩ := Option.isSome_iff_exists.mp firstWrote
  obtain ⟨others, secondWrote⟩ := Option.isSome_iff_exists.mp secondWrote
  obtain ⟨base, expects⟩ : ∃ base, baseOf first.ticket.request.expectedVersion = some base := by
    cases expected : first.ticket.request.expectedVersion with
    | any => exact absurd expected cares
    | noStream => exact ⟨_, rfl⟩
    | exact version => exact ⟨_, rfl⟩
  obtain ⟨present, _, _⟩ := refines.placed wellFormed (List.mem_of_getElem? atFirst) firstWrote expects
  rw [sameVersion] at expects
  have isWrite := List.mem_filterMap.mpr ⟨second, List.mem_of_getElem? atSecond, writeOf_eq secondWrote⟩
  obtain ⟨_, admitted⟩ := refines.serial.admitted isWrite
  obtain ⟨nonempty, numbered, _⟩ := refines.placed wellFormed (List.mem_of_getElem? atSecond) secondWrote expects
  obtain ⟨event, rest, othersEq⟩ := List.exists_cons_of_ne_nil nonempty
  have member : event ∈ others := by
    rw [othersEq]
    exact List.mem_cons_self ..
  rw [othersEq, numbered_cons] at numbered
  have behind := (refines.precedes wellFormed earlier atFirst atSecond firstWrote secondWrote).1 base
    (by rw [sameVersion]; exact expects) event member (by rw [admitted.keyed event member]; exact sameStream.symm)
  have some := List.length_pos_of_ne_nil present
  dsimp only at behind
  rw [numbered.1] at behind
  omega

theorem Refines.noLostUpdate : NoLostUpdate log answers where
  once := by
    intro i j first second atFirst atSecond firstWrote secondWrote sameStream sameVersion cares
    rcases Nat.lt_trichotomy i j with earlier | same | later
    · exact (refines.not_twice wellFormed earlier atFirst atSecond firstWrote secondWrote sameStream sameVersion
        cares).elim
    · exact same
    · exact (refines.not_twice wellFormed later atSecond atFirst secondWrote firstWrote sameStream.symm
        sameVersion.symm (by rw [← sameVersion]; exact cares)).elim
  placed := fun answer member recorded base wrote expects => refines.placed wellFormed member wrote expects
  apart := by
    intro i j first second different atFirst atSecond recorded others base firstWrote secondWrote expects event member
      sameStream
    rcases Nat.lt_or_gt_of_ne different with earlier | later
    · right
      exact (refines.precedes wellFormed earlier atFirst atSecond firstWrote secondWrote).1 base expects event member
        sameStream
    · left
      exact (refines.precedes wellFormed later atSecond atFirst secondWrote firstWrote).2 base expects event member
        sameStream

end

/-! ### Runs with restarts -/

def Writable (ticket : Ticket) : Prop :=
  ticket.request.events ≠ [] ∧ ticket.request.events.length < 2 ^ 32

structure Consistent (crc : Crc32fast) (initial : List RecordedEvent) (task : Task) : Prop where
  holds : ∃ batches, Holds crc batches task.writer.store
  canonical : Canonical task.writer.store.log
  refines : Refines initial task.writer.store.log (answered task)
  queued : ∀ ticket ∈ task.inbox ++ task.batch, Writable ticket

section
variable {crc : Crc32fast} {initial : List RecordedEvent} {task after : Task}

theorem consistent_start {batches : List Batch} {store : Store} (holds : Holds crc batches store)
    (canonical : Canonical store.log) (dedupCapacity : Nat) :
    Consistent crc store.log.events (Task.start (Writer.spawn store dedupCapacity)) where
  holds := ⟨batches, holds⟩
  canonical := canonical
  refines := ⟨trivial, (List.append_nil _).symm⟩
  queued := fun _ member => nomatch member

theorem admitted_of_wrote {answer : Answer} {batch : Batch} {dedup : DedupIndex}
    (wellFormed : WellFormed task.writer.store.log) (canonical : Canonical task.writer.store.log)
    (wrote : Wrote crc task after answer batch dedup) (present : answer.ticket.request.events ≠ []) :
    Admitted RecordedEvent.streamId task.writer.store.log.events
      ⟨answer.ticket.request.streamId, baseOf answer.ticket.request.expectedVersion, batch.events⟩ where
  present := by
    apply List.ne_nil_of_length_pos
    rw [wrote.accepts.length_events]
    exact List.length_pos_of_ne_nil present
  keyed := wrote.accepts.stream
  counted := fun base expects => base_of_check wellFormed canonical wrote.accepts.versionOk expects

theorem Refines.wrote {answer : Answer} {batch : Batch} {dedup : DedupIndex}
    (refines : Refines initial task.writer.store.log (answered task))
    (answers : answered after = answered task ++ [answer]) (wrote : Wrote crc task after answer batch dedup)
    (admitted : Admitted RecordedEvent.streamId task.writer.store.log.events
      ⟨answer.ticket.request.streamId, baseOf answer.ticket.request.expectedVersion, batch.events⟩) :
    Refines initial after.writer.store.log (answered after) := by
  have writes := writesOf_snoc wrote.recorded (answered task)
  rw [← answers] at writes
  constructor
  · rw [writes, serial_append, ← refines.events]
    exact ⟨refines.serial, admitted, trivial⟩
  · have logEq : after.writer.store.log.events = task.writer.store.log.events ++ batch.events := by
      rw [wrote.writer]
      rfl
    rw [logEq, writes, refines.events, itemsOf, itemsOf, List.flatMap_append, List.flatMap_singleton, List.append_assoc]

theorem consistent_serve (consistent : Consistent crc initial task)
    (moved : Task.next crc (.serve .none) task = some after) : Consistent crc initial after := by
  obtain ⟨answer, batchEq, inboxEq, _, answers, how⟩ := next_answered moved
  have queued : ∀ ticket ∈ after.inbox ++ after.batch, Writable ticket :=
    fun ticket member => consistent.queued ticket (queued_subset batchEq inboxEq member)
  rcases how with unwritten | ⟨batch, dedup, wrote⟩
  · obtain ⟨holds, canonical, refines, _⟩ := consistent
    rw [← unwritten.store rfl] at holds canonical refines
    refine ⟨holds, canonical, ?_, queued⟩
    obtain ⟨serial, events⟩ := refines
    rw [← writesOf_snoc_none unwritten.nothing, ← answers] at serial events
    exact ⟨serial, events⟩
  · obtain ⟨batches, holds⟩ := consistent.holds
    obtain ⟨present, counted⟩ := consistent.queued answer.ticket (by
      rw [batchEq]
      exact List.mem_append_right _ (List.mem_cons_self ..))
    have admitted := admitted_of_wrote holds.wellFormed consistent.canonical wrote present
    have small : batch.Small := by
      rw [Batch.Small, wrote.accepts.length_events]
      exact counted
    refine ⟨⟨batches ++ [batch], ?_⟩, ?_, consistent.refines.wrote answers wrote admitted, queued⟩
    · rw [wrote.writer]
      exact holds.append wrote.accepts wrote.fits small
    · rw [wrote.writer]
      exact consistent.canonical.extended admitted.present admitted.keyed

theorem consistent_restart {dedupCapacity : Nat} (consistent : Consistent crc initial task)
    (moved : next crc (.restart dedupCapacity) task = some after) : Consistent crc initial after := by
  obtain ⟨batches, holds⟩ := consistent.holds
  rw [next, open_clean holds.small holds.bytes] at moved
  split_ifs at moved with quiet
  obtain ⟨_, _, _, replied⟩ := quiet
  have answers : answered task = task.answers := by
    rw [answered, Option.isNone_iff_eq_none.mp replied, Option.toList_none, List.append_nil]
  have sameLog : EventLog.empty.commit (eventsOf batches) = task.writer.store.log := by
    rw [← holds.events]
    exact consistent.canonical.symm
  rw [sameLog] at moved
  cases moved
  refine ⟨⟨batches, holds.toIndexes, holds.bytes⟩, consistent.canonical, ?_, fun _ member => absurd member List.not_mem_nil⟩
  have refines := consistent.refines
  rw [answers] at refines
  rw [answered]
  dsimp only [idle, Task.start, Option.toList_none, Writer.spawn]
  rw [List.append_nil]
  exact refines

theorem consistent_quiet {step : Task.Step} (consistent : Consistent crc initial task)
    (counted : Counted task (.task step)) (quiet : ∀ fault, step ≠ .serve fault)
    (moved : Task.next crc step task = some after) : Consistent crc initial after := by
  obtain ⟨writer, answers, tickets⟩ := next_quiet moved quiet
  obtain ⟨holds, canonical, refines, queued⟩ := consistent
  rw [← writer] at holds canonical refines
  rw [← answers] at refines
  refine ⟨holds, canonical, refines, ?_⟩
  intro ticket member
  rcases tickets ticket member with known | ⟨request, isSubmit, new⟩
  · exact queued ticket known
  · rw [isSubmit] at counted
    obtain ⟨⟨filled, _⟩, small⟩ := counted
    rw [new]
    exact ⟨filled, small _ rfl⟩

theorem consistent_next {step : Step} (consistent : Consistent crc initial task) (counted : Counted task step)
    (moved : next crc step task = some after) : Consistent crc initial after := by
  cases step with
  | restart dedupCapacity => exact consistent_restart consistent moved
  | task step =>
    rcases serve_or_quiet step with ⟨fault, isServe⟩ | quiet
    · rw [isServe] at counted moved
      obtain ⟨⟨_, faultless⟩, _⟩ := counted
      rw [show fault = .none from faultless] at moved
      exact consistent_serve consistent moved
    · exact consistent_quiet consistent counted quiet moved

end

theorem NoLostUpdate.front {log : EventLog} {answers more : List Answer} (whole : NoLostUpdate log (answers ++ more)) :
    NoLostUpdate log answers := by
  have extend : ∀ {i : Nat} {answer : Answer}, answers[i]? = some answer → (answers ++ more)[i]? = some answer := by
    intro i answer here
    rw [List.getElem?_append_left (List.getElem?_eq_some_iff.mp here).1]
    exact here
  constructor
  · exact fun i j first second atFirst atSecond => whole.once i j first second (extend atFirst) (extend atSecond)
  · exact fun answer member => whole.placed answer (List.mem_append_left _ member)
  · exact fun i j first second different atFirst atSecond =>
      whole.apart i j first second different (extend atFirst) (extend atSecond)

/-! ### Concrete runs -/

theorem reaches_task {crc : Crc32fast} {allowed : Task → Step → Prop} {before after : Task}
    (run : Reaches (Task.next crc) (fun task step => allowed task (.task step)) before after) :
    Reaches (next crc) allowed before after :=
  Relation.ReflTransGen.mono (fun _ _ ⟨step, permitted, moved⟩ => ⟨.task step, permitted, moved⟩) _ _ run

theorem next_restart {crc : Crc32fast} {writer : Writer} {store : Store} {file : Option File}
    (opened : Store.open crc (some writer.store.file) = (ok store, file)) {answers : List Answer} {submitted : Nat}
    {recordedAt : UInt64} {dedupCapacity : Nat} :
    next crc (.restart dedupCapacity) (idle writer answers submitted recordedAt) =
      some (idle (Writer.spawn store dedupCapacity) answers submitted recordedAt) := by
  rw [next, if_pos ⟨rfl, rfl, rfl, rfl⟩]
  dsimp only [idle, Task.start]
  rw [opened]

theorem faultless_of_calm {request : AppendRequest} (present : request.events ≠ []) (task : Task) {step : Task.Step}
    (calm : Calm request step) : Faultless task (.task step) := ⟨calm.filled task present, calm.faultless task⟩

theorem counted_of_calm {request : AppendRequest} (present : request.events ≠ [])
    (small : request.events.length < 2 ^ 32) (task : Task) {step : Task.Step} (calm : Calm request step) :
    Counted task (.task step) := by
  refine ⟨faultless_of_calm present task calm, ?_⟩
  intro inner same
  cases same
  exact calm.counted task small

theorem idOf_injective {x y : Nat} (xFits : x < 256 ^ 16) (yFits : y < 256 ^ 16) (same : idOf x = idOf y) : x = y :=
  LittleEndian.toBytes_injective 16 x y xFits yFits (congrArg Uuid.bytes same)

theorem check_spawn {store : Store} (empty : store.log.events = []) (dedupCapacity : Nat)
    (proposed : List ProposedEvent) :
    (Writer.spawn store dedupCapacity).dedup.check proposed = (none, (Writer.spawn store dedupCapacity).dedup) := by
  rw [Writer.spawn, empty]
  cases proposed with
  | nil => rfl
  | cons first rest => rfl

theorem serve_noStream (crc : Crc32fast) {store : Store} (empty : store.log = EventLog.empty) (dedupCapacity : Nat)
    {ids : List Nat} (distinct : (ids.map idOf).Nodup) (fits : ids.length ≤ isizeMax) :
    (Writer.spawn store dedupCapacity).serve crc .none 0 (plainRequest 0 .noStream ids) =
      ⟨.ok (plainBatch EventLog.empty 0 .noStream ids).events, .appended,
        ⟨Store.withBatch crc store (idOf 0) (plainBatch EventLog.empty 0 .noStream ids),
          (Writer.spawn store dedupCapacity).dedup.record (plainBatch EventLog.empty 0 .noStream ids).events⟩,
        (plainBatch EventLog.empty 0 .noStream ids).events⟩ := by
  have unique : validateBatchUniqueIds (plainRequest 0 .noStream ids).events = .ok () := by
    apply validateBatchUniqueIds_eq_ok.mpr
    rw [plainRequest, List.map_map]
    exact distinct
  have accepts : Accepts store.log (plainCall 0 .noStream ids) (plainBatch EventLog.empty 0 .noStream ids) := by
    rw [empty]
    exact accepts_batchOf EventLog.empty _ (plainCall_valid 0 .noStream ids) rfl
  have room : store.log.events.length + (plainBatch EventLog.empty 0 .noStream ids).events.length ≤ isizeMax := by
    rw [empty, length_plainBatch, EventLog.empty, List.length_nil, Nat.zero_add]
    exact fits
  exact serve_accepted crc unique (check_spawn (by rw [empty]; rfl) dedupCapacity _) accepts room

/-- In every interleaving, with any grouping of the requests and any clean restarts, two requests
with the same expectation are never both written, and what is written stands where it expected. -/
theorem no_lost_update (crc : Crc32fast) (batches : List Batch) (store : Store) (holds : Holds crc batches store)
    (canonical : Canonical store.log) (dedupCapacity : Nat) (task : Task)
    (run : Reaches (next crc) Counted (Task.start (Writer.spawn store dedupCapacity)) task) :
    NoLostUpdate task.writer.store.log task.answers := by
  have consistent := run.invariant (Consistent crc store.log.events) (consistent_start holds canonical dedupCapacity)
    (fun before step after invariant counted moved => consistent_next invariant counted moved)
  obtain ⟨batches, holds⟩ := consistent.holds
  exact (consistent.refines.noLostUpdate holds.wellFormed).front

theorem no_lost_update_two_clients :
    ∃ task, Reaches (next Crc32fast.ieee) Counted (Task.start freshWriter) task ∧
      task.answers.map (fun answer => (answer.ticket.request.expectedVersion, (written answer).isSome)) =
        [(.noStream, true), (.exact 0, true)] ∧
      NoLostUpdate task.writer.store.log task.answers := by
  let created := plainBatch EventLog.empty 0 .noStream [1]
  let store := Store.withBatch Crc32fast.ieee Store.create (idOf 0) created
  let writer : Writer := ⟨store, freshWriter.dedup.record created.events⟩
  let once := idle writer [⟨⟨0, plainRequest 0 .noStream [1]⟩, .appended, .ok created.events⟩] 1 0
  let followed := plainBatch store.log 0 (.exact 0) [2]
  let twice := idle
    ⟨Store.withBatch Crc32fast.ieee store (idOf 0) followed, writer.dedup.record followed.events⟩
    (once.answers ++ [⟨⟨1, plainRequest 0 (.exact 0) [2]⟩, .appended, .ok followed.events⟩]) 2 0
  have createdOk : Accepts EventLog.empty (plainCall 0 .noStream [1]) created :=
    accepts_batchOf EventLog.empty _ (plainCall_valid 0 .noStream [1]) rfl
  have followedOk : Accepts store.log (plainCall 0 (.exact 0) [2]) followed :=
    accepts_batchOf store.log _ (plainCall_valid 0 (.exact 0) [2]) (by decide +kernel)
  have first : Reaches (next Crc32fast.ieee) Counted (Task.start freshWriter) once :=
    reaches_task (reaches_answer (fun task _ calm _ _ => counted_of_calm (by decide) (by decide) task calm)
      (serve_noStream Crc32fast.ieee rfl 4 (by decide : ([1].map idOf).Nodup) (by decide)))
  have second : Reaches (next Crc32fast.ieee) Counted once twice :=
    reaches_task (reaches_answer (fun task _ calm _ _ => counted_of_calm (by decide) (by decide) task calm)
      (serve_accepted Crc32fast.ieee rfl rfl followedOk (by decide)))
  have holds := ((holds_create Crc32fast.ieee).append createdOk (by decide) (by decide : 1 < 2 ^ 32)).append followedOk
    (by decide) (by decide : 1 < 2 ^ 32)
  have run := (first.trans second).tail
    ⟨.restart 4, ⟨trivial, (fun _ impossible => nomatch impossible)⟩, next_restart (open_clean holds.small holds.bytes)⟩
  exact ⟨_, run, rfl, no_lost_update Crc32fast.ieee [] Store.create (holds_create Crc32fast.ieee) rfl 4 _ run⟩

/-- A batch whose count does not fit its header is gone after a restart, so the next request that
expects no stream is let in as well. -/
theorem let_in_twice (crc : Crc32fast) (ids : List Nat) (distinct : (ids.map idOf).Nodup)
    (large : 2 ^ 32 ≤ ids.length) (fits : ids.length ≤ isizeMax) :
    ∃ task, Reaches (next crc) Faultless (Task.start freshWriter) task ∧
      ¬ NoLostUpdate task.writer.store.log task.answers := by
  let batch := plainBatch EventLog.empty 0 .noStream ids
  let store := Store.withBatch crc Store.create (idOf 0) batch
  let recovered := cutBehind crc [] store.file
  let lost : Answer := ⟨⟨0, plainRequest 0 .noStream ids⟩, .appended, .ok batch.events⟩
  have present : (plainRequest 0 .noStream ids).events ≠ [] := by
    apply List.ne_nil_of_length_pos
    rw [plainRequest, List.length_map]
    omega
  have first : Reaches (next crc) Faultless (Task.start freshWriter)
      (idle ⟨store, freshWriter.dedup.record batch.events⟩ [lost] 1 0) :=
    reaches_task (reaches_answer (fun task _ calm _ _ => faultless_of_calm present task calm)
      (serve_noStream crc rfl 4 distinct fits))
  have notSmall : ¬batch.Small := by
    have count : batch.events.length = ids.length := length_plainBatch EventLog.empty 0 .noStream ids
    show ¬batch.events.length < 2 ^ 32
    omega
  have restarted : next crc (.restart 4) (idle ⟨store, freshWriter.dedup.record batch.events⟩ [lost] 1 0) =
      some (idle (Writer.spawn recovered 4) [lost] 1 0) :=
    next_restart (open_first_oversize crc (idOf 0) notSmall)
  have second : Reaches (next crc) Faultless (idle (Writer.spawn recovered 4) [lost] 1 0) _ :=
    reaches_task (reaches_answer (fun task _ calm _ _ => faultless_of_calm (by decide) task calm)
      (serve_noStream crc (rfl : recovered.log = EventLog.empty) 4 (by decide : ([0].map idOf).Nodup) (by decide)))
  refine ⟨_, (first.tail ⟨.restart 4, trivial, restarted⟩).trans second, ?_⟩
  intro noLostUpdate
  have same := noLostUpdate.once 0 1 lost _ rfl rfl rfl rfl rfl rfl (by simp [lost, plainRequest])
  cases same

theorem distinct_range {count : Nat} (fits : count ≤ 256 ^ 16) : ((List.range count).map idOf).Nodup := by
  apply List.Nodup.map_on _ List.nodup_range
  intro x xInside y yInside same
  rw [List.mem_range] at xInside yInside
  exact idOf_injective (by omega) (by omega) same

theorem lost_update_after_restart :
    ∃ task, Reaches (next Crc32fast.ieee) Faultless (Task.start freshWriter) task ∧
      ¬ NoLostUpdate task.writer.store.log task.answers :=
  let_in_twice Crc32fast.ieee (List.range (2 ^ 32)) (distinct_range (by decide)) (Nat.le_of_eq List.length_range.symm)
    (by rw [List.length_range]; decide)

end EventfoldDb.OptimisticConcurrency
