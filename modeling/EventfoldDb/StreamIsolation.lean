import EventfoldDb.AcceptedFiles
import EventfoldDb.DedupCoverage
import EventfoldDb.Reader
import EventfoldDb.Lib.Isolation

/-! Streams do not see each other. What one stream contains, and how requests to it are answered, is a
function of the requests to that stream alone, up to global positions and times. -/

namespace EventfoldDb.StreamIsolation
open Outcome Recovery AppendSpec DiskInvariant WriterSpec DedupCoverage Numbering Isolation Machine
open AcceptedFiles (beheaded)

/-- A recorded event without its place in the log and its time. -/
def forget (event : RecordedEvent) : RecordedEvent := { event with globalPosition := 0, recordedAt := 0 }

def forgetResult (result : Except Error (List RecordedEvent)) : Except Error (List RecordedEvent) :=
  result.map (·.map forget)

def forgetRead (read : Outcome Error (List RecordedEvent)) : Outcome Error (List RecordedEvent) :=
  read >>= fun events => .ok (events.map forget)

def Readable (log : EventLog) : Prop :=
  ∀ streamId positions, log.streams.lookup streamId = some positions →
    ∀ position ∈ positions, position.toNat < log.events.length

def requestIds (answers : List Answer) : List Uuid :=
  answers.flatMap fun answer => answer.ticket.request.events.map (·.eventId)

structure Fresh (log : EventLog) (answers : List Answer) : Prop where
  distinct : (requestIds answers).Nodup
  unknown : ∀ eventId ∈ requestIds answers, eventId ∉ idsOf log.events

/-- The writer task has processed these requests, with these answers, since the start. -/
structure Processed (crc : Crc32fast) (start : Task) (answers : List Answer) (final : Task) : Prop where
  run : Reaches (Task.next crc) Task.Faultless start final
  split : answered final = answered start ++ answers
  fresh : Fresh start.writer.store.log answers

def requestsTo (streamId : Uuid) (answers : List Answer) : List AppendRequest :=
  (answers.filter (·.ticket.request.streamId = streamId)).map (·.ticket.request)

def outcomesTo (streamId : Uuid) (answers : List Answer) : List (Except Error (List RecordedEvent)) :=
  (answers.filter (·.ticket.request.streamId = streamId)).map fun answer => forgetResult answer.result

/-! ### One stream on its own -/

/-- The entry of a stream in the index, with the events that it leads to. -/
def viewOf (streamId : Uuid) (log : EventLog) : Option (List (Option RecordedEvent)) :=
  (log.streams.lookup streamId).map fun positions =>
    positions.map fun position => (log.events[position.toNat]?).map forget

def alone (streamId : Uuid) (view : Option (List (Option RecordedEvent))) : EventLog :=
  match view with
  | none => EventLog.empty
  | some entries => ⟨[], Finmap.singleton streamId (entries.map fun _ => 0)⟩

/-- How a request is served when its stream is alone, its ids are new and no I/O fails. -/
def serveAlone (crc : Crc32fast) (streamId : Uuid) (view : Option (List (Option RecordedEvent)))
    (request : AppendRequest) : Except Error (List RecordedEvent) × Option (List (Option RecordedEvent)) :=
  match validateBatchUniqueIds request.events with
  | .error error => (.error error, view)
  | .ok () =>
      match prepareCall crc (alone streamId view) (request.call 0) with
      | .error error => (.error error, view)
      | .ok (recorded, _) =>
          (.ok (recorded.map forget), some (view.getD [] ++ recorded.map fun event => some (forget event)))

/-- The events of a list of entries; a position outside of the log panics. -/
def present : List (Option RecordedEvent) → Outcome Error (List RecordedEvent)
  | [] => .ok []
  | none :: _ => .panic
  | some event :: rest => do
      let events ← present rest
      .ok (event :: events)

def readView (streamId : Uuid) (view : Option (List (Option RecordedEvent))) (fromVersion maxCount : UInt64) :
    Outcome Error (List RecordedEvent) :=
  match view with
  | none => .err (.streamNotFound streamId)
  | some entries => do
      let streamLen := UInt64.ofNat entries.length
      let picked ← slice entries (min fromVersion streamLen).toNat (min (saturatingAdd fromVersion maxCount) streamLen).toNat
      present picked

/-! ### What a read returns -/

theorem eventsAt_forget (log : EventLog) (positions : List UInt64) :
    forgetRead (log.eventsAt positions) =
      present (positions.map fun position => (log.events[position.toNat]?).map forget) := by
  induction positions with
  | nil => rfl
  | cons position positions ih =>
    rw [EventLog.eventsAt, List.map_cons, index]
    cases log.events[position.toNat]? with
    | none => rfl
    | some event =>
      rw [Option.map_some, present, ← ih]
      dsimp only
      rw [ok_bind]
      cases log.eventsAt positions <;> rfl

theorem slice_map {α β : Type} (change : α → β) (items : List α) (start stop : Nat) :
    (slice (items.map change) start stop : Outcome Error (List β)) =
      slice items start stop >>= fun picked => .ok (picked.map change) := by
  unfold slice
  rw [List.length_map]
  split_ifs
  · rw [ok_bind, List.map_drop, List.map_take]
  · rfl

theorem readStream_forget (log : EventLog) (streamId : Uuid) (fromVersion maxCount : UInt64) :
    forgetRead (log.readStream streamId fromVersion maxCount) =
      readView streamId (viewOf streamId log) fromVersion maxCount := by
  rw [EventLog.readStream, viewOf]
  cases log.streams.lookup streamId with
  | none => rfl
  | some positions =>
    rw [Option.map_some, readView]
    dsimp only
    rw [List.length_map, slice_map]
    cases slice positions _ _ with
    | ok picked =>
      rw [ok_bind, ok_bind, ok_bind]
      exact eventsAt_forget log picked
    | err error => rfl
    | panic => rfl

theorem streamVersion_forget (log : EventLog) (streamId : Uuid) :
    log.streamVersion streamId = (viewOf streamId log).map fun entries => UInt64.ofNat entries.length - 1 := by
  rw [EventLog.streamVersion, viewOf, Option.map_map]
  congr 1
  funext positions
  rw [Function.comp_apply, List.length_map]

/-! ### What an append computes -/

/-- Neither the checks nor the sizes depend on where the event goes or when. -/
theorem recordAll_forget (crc : Crc32fast) (streamId : Uuid)
    (recordedAt otherTime nextGlobal otherGlobal version : UInt64)
    (proposedEvents : List ProposedEvent) :
    (recordAll crc streamId recordedAt nextGlobal version proposedEvents).map (fun built => built.1.map forget) =
      (recordAll crc streamId otherTime otherGlobal version proposedEvents).map (fun built => built.1.map forget) := by
  induction proposedEvents generalizing nextGlobal otherGlobal version with
  | nil => rfl
  | cons proposed rest ih =>
    have size : (encodeRecord crc (recordOf streamId recordedAt nextGlobal version proposed)).length =
        (encodeRecord crc (recordOf streamId otherTime otherGlobal version proposed)).length := by
      rw [CodecRoundTrip.length_encodeRecord, CodecRoundTrip.length_encodeRecord]
      rfl
    have later := ih (nextGlobal + 1) (otherGlobal + 1) (version + 1)
    rw [recordAll, recordAll]
    dsimp only
    rw [size]
    split_ifs
    · rfl
    · rfl
    · rfl
    · generalize recordAll crc streamId recordedAt (nextGlobal + 1) (version + 1) rest = here at later
      generalize recordAll crc streamId otherTime (otherGlobal + 1) (version + 1) rest = there at later
      cases here <;> cases there <;> simp_all [Except.map, forget, recordOf]

section
variable {log other : EventLog} {streamId : Uuid}

theorem checkExpectedVersion_eq
    (same : (log.streams.lookup streamId).map List.length = (other.streams.lookup streamId).map List.length)
    (expected : ExpectedVersion) :
    log.checkExpectedVersion streamId expected = other.checkExpectedVersion streamId expected := by
  unfold EventLog.checkExpectedVersion
  generalize log.streams.lookup streamId = here at same
  generalize other.streams.lookup streamId = there at same
  cases here <;> cases there <;> simp_all

theorem nextStreamVersion_eq
    (same : (log.streams.lookup streamId).map List.length = (other.streams.lookup streamId).map List.length) :
    log.nextStreamVersion streamId = other.nextStreamVersion streamId := by
  unfold EventLog.nextStreamVersion
  generalize log.streams.lookup streamId = here at same
  generalize other.streams.lookup streamId = there at same
  cases here <;> cases there <;> simp_all

theorem prepareCall_forget (crc : Crc32fast) (request : AppendRequest) (recordedAt otherTime : UInt64)
    (same : (log.streams.lookup request.streamId).map List.length =
      (other.streams.lookup request.streamId).map List.length) :
    (prepareCall crc log (request.call recordedAt)).map (fun built => built.1.map forget) =
      (prepareCall crc other (request.call otherTime)).map (fun built => built.1.map forget) := by
  have versions := checkExpectedVersion_eq same request.expectedVersion
  have records := recordAll_forget crc request.streamId recordedAt otherTime log.nextGlobal other.nextGlobal
    (other.nextStreamVersion request.streamId) request.events
  unfold prepareCall EventLog.prepare
  dsimp only [AppendRequest.call]
  rw [versions, nextStreamVersion_eq same]
  cases other.checkExpectedVersion request.streamId request.expectedVersion with
  | error error => rfl
  | ok _ =>
    dsimp only
    generalize recordAll crc request.streamId recordedAt log.nextGlobal _ request.events = here at records
    generalize recordAll crc request.streamId otherTime other.nextGlobal _ request.events = there at records
    cases here <;> cases there <;> simp_all [Except.map]

theorem length_viewOf (streamId : Uuid) (log : EventLog) :
    (viewOf streamId log).map List.length = (log.streams.lookup streamId).map List.length := by
  rw [viewOf, Option.map_map]
  congr 1
  funext positions
  exact List.length_map _

theorem length_alone (streamId : Uuid) (view : Option (List (Option RecordedEvent))) :
    ((alone streamId view).streams.lookup streamId).map List.length = view.map List.length := by
  cases view with
  | none => rfl
  | some entries =>
    rw [alone, Finmap.lookup_singleton_eq]
    simp

/-! ### What an append changes -/

theorem Readable.entries_kept (readable : Readable log) {positions : List UInt64}
    (listed : log.streams.lookup streamId = some positions) (recorded : List RecordedEvent) :
    positions.map (fun position => ((log.events ++ recorded)[position.toNat]?).map forget) =
      positions.map (fun position => (log.events[position.toNat]?).map forget) := by
  apply List.map_congr_left
  intro position member
  rw [List.getElem?_append_left (readable streamId positions listed position member)]

theorem viewOf_other (readable : Readable log) {which : Uuid} (different : streamId ≠ which)
    (recorded : List RecordedEvent) : viewOf which (extended log streamId recorded) = viewOf which log := by
  rw [viewOf, viewOf, extended, LogInvariant.lookup_pushPositions_other _ _ _ _ different.symm]
  cases listed : log.streams.lookup which with
  | none => rfl
  | some positions => exact congrArg some (readable.entries_kept listed recorded)

theorem entries_new {recorded : List RecordedEvent}
    (numbered : Numbered (·.globalPosition.toNat) log.events.length recorded) :
    (recorded.map (·.globalPosition)).map (fun position => ((log.events ++ recorded)[position.toNat]?).map forget) =
      recorded.map fun event => some (forget event) := by
  rw [List.map_map]
  apply List.map_congr_left
  intro event member
  obtain ⟨i, found⟩ := List.mem_iff_getElem?.mp member
  have place : event.globalPosition.toNat = log.events.length + i := numbered.getElem? found
  rw [Function.comp_apply, place, List.getElem?_append_right (Nat.le_add_right _ _), Nat.add_sub_cancel_left, found]
  rfl

theorem viewOf_own (readable : Readable log) {recorded : List RecordedEvent}
    (numbered : Numbered (·.globalPosition.toNat) log.events.length recorded) :
    viewOf streamId (extended log streamId recorded) =
      some ((viewOf streamId log).getD [] ++ recorded.map fun event => some (forget event)) := by
  have new := entries_new numbered
  rw [viewOf, viewOf, extended, LogInvariant.lookup_pushPositions_self]
  dsimp only
  cases listed : log.streams.lookup streamId with
  | none =>
    rw [Option.map_some, Option.getD_none, List.nil_append, new]
    rfl
  | some positions =>
    rw [Option.map_some, Option.getD_some, List.map_append, new, readable.entries_kept listed]
    rfl

theorem Readable.extended (readable : Readable log) {recorded : List RecordedEvent}
    (numbered : Numbered (·.globalPosition.toNat) log.events.length recorded) :
    Readable (extended log streamId recorded) := by
  intro which positions listed position member
  show position.toNat < (log.events ++ recorded).length
  rw [List.length_append]
  have old : ∀ listed, log.streams.lookup which = some listed → position ∈ listed →
      position.toNat < log.events.length + recorded.length :=
    fun positions here member => Nat.lt_of_lt_of_le (readable which positions here position member) (Nat.le_add_right _ _)
  by_cases same : which = streamId
  · rw [AppendSpec.extended, same, LogInvariant.lookup_pushPositions_self, Option.some.injEq] at listed
    rw [← listed, List.mem_append] at member
    rcases member with before | new
    · rw [same] at old
      cases here : log.streams.lookup streamId with
      | none =>
        rw [here] at before
        exact absurd before List.not_mem_nil
      | some positions =>
        rw [here] at before
        exact old positions here before
    · obtain ⟨event, here, eventAt⟩ := List.mem_map.mp new
      obtain ⟨i, found⟩ := List.mem_iff_getElem?.mp here
      have place : event.globalPosition.toNat = log.events.length + i := numbered.getElem? found
      have inside := (List.getElem?_eq_some_iff.mp found).1
      rw [← eventAt, place]
      omega
  · rw [AppendSpec.extended, LogInvariant.lookup_pushPositions_other _ _ _ _ same] at listed
    exact old positions listed member

end

/-! ### Serving one request -/

structure ServesNew (crc : Crc32fast) (before : Writer) (request : AppendRequest)
    (outcome : Except Error (List RecordedEvent)) (after : Writer) : Prop where
  readable : Readable before.store.log
  missed : (before.dedup.check request.events).1 = none
  served : ∃ recordedAt served result, Serving crc .none recordedAt before request served ∧
    returned result = served.result ∧ outcome = forgetResult result ∧ after = served.writer

theorem prepareCall_alone (crc : Crc32fast) (log : EventLog) (request : AppendRequest) (recordedAt : UInt64) :
    (prepareCall crc (alone request.streamId (viewOf request.streamId log)) (request.call 0)).map
        (fun built => built.1.map forget) =
      (prepareCall crc log (request.call recordedAt)).map (fun built => built.1.map forget) := by
  apply prepareCall_forget
  rw [length_alone, length_viewOf]

theorem divided (crc : Crc32fast) :
    Divided (ServesNew crc) AppendRequest.streamId (fun streamId writer => viewOf streamId writer.store.log)
      (serveAlone crc) where
  own := by
    intro before request outcome after serves
    obtain ⟨readable, missed, recordedAt, served, result, how, same, outcomeEq, afterEq⟩ := serves
    have prepared := prepareCall_alone crc before.store.log request recordedAt
    rw [outcomeEq, afterEq, serveAlone]
    cases how with
    | invalid error refused =>
      rw [returned_eq_err] at same
      rw [refused, same]
      rfl
    | cached found unique hit =>
      rw [missed] at hit
      cases hit
    | failed error store unique missed sameLog refused =>
      obtain ⟨storeEq, refused⟩ := refused rfl
      rw [returned_eq_err] at same
      rw [refused] at prepared
      rw [unique, same, storeEq]
      dsimp only
      generalize prepareCall crc _ (request.call 0) = built at prepared
      cases built with
      | error other =>
        rw [show other = error from Except.error.inj prepared]
        rfl
      | ok pair => cases prepared
    | appended batch unique missed accepts fits =>
      rw [returned_eq_ok] at same
      rw [prepareCall_accepts crc accepts] at prepared
      rw [unique, same]
      dsimp only
      rw [Store.withBatch]
      generalize prepareCall crc _ (request.call 0) = built at prepared
      cases built with
      | error error => cases prepared
      | ok pair =>
        have sameEvents : pair.1.map forget = batch.events.map forget := Except.ok.inj prepared
        have sameEntries : pair.1.map (fun event => some (forget event)) =
            batch.events.map fun event => some (forget event) := by
          have mapped := congrArg (List.map some) sameEvents
          rw [List.map_map, List.map_map] at mapped
          exact mapped
        rw [viewOf_own readable (LogInvariant.Accepts.positions accepts fits)]
        dsimp only
        rw [sameEvents, sameEntries]
        rfl
    | panicked after => exact absurd rfl (ne_panic_of_returned same)
  other := by
    intro before request outcome after which serves different
    obtain ⟨readable, missed, recordedAt, served, result, how, same, _, afterEq⟩ := serves
    rw [afterEq]
    cases how with
    | invalid error refused => rfl
    | cached found unique hit => rfl
    | failed error store unique missed sameLog refused =>
      dsimp only
      rw [sameLog]
    | appended batch unique missed accepts fits => exact viewOf_other readable different batch.events
    | panicked after => exact absurd rfl (ne_panic_of_returned same)

/-! ### Runs -/

/-- The index can be read, and the dedup index knows only ids of the log. -/
structure Grounded (writer : Writer) : Prop where
  readable : Readable writer.store.log
  covers : Covers writer

structure Tracks (crc : Crc32fast) (start : Task) (answers : List Answer) (task : Task) : Prop where
  split : answered task = answered start ++ answers
  grounded : Grounded task.writer
  known : ∀ eventId ∈ idsOf task.writer.store.log.events,
    eventId ∈ idsOf start.writer.store.log.events ∨ eventId ∈ requestIds answers
  run : Fresh start.writer.store.log answers →
    Run (ServesNew crc) start.writer (answers.map fun answer => (answer.ticket.request, forgetResult answer.result))
      task.writer

section
variable {crc : Crc32fast} {fault : Fault} {recordedAt : UInt64} {writer : Writer} {request : AppendRequest}
  {served : Served} {start task after : Task} {answers : List Answer} {answer : Answer}

theorem Grounded.serve (grounded : Grounded writer) (how : Serving crc fault recordedAt writer request served)
    (alive : served.result ≠ .panic) : Grounded served.writer := by
  refine ⟨?_, grounded.covers.serve how alive⟩
  cases how with
  | invalid error refused => exact grounded.readable
  | cached found unique hit => exact grounded.readable
  | failed error store unique missed sameLog refused =>
    dsimp only
    rw [sameLog]
    exact grounded.readable
  | appended batch unique missed accepts fits =>
    exact grounded.readable.extended (LogInvariant.Accepts.positions accepts fits)
  | panicked after => exact absurd rfl alive

theorem Grounded.next {step : Task.Step} (grounded : Grounded task.writer)
    (moved : Task.next crc step task = some after) :
    Grounded after.writer := by
  rcases serve_or_quiet step with ⟨fault, isServe⟩ | quiet
  · rw [isServe] at moved
    obtain ⟨answer, served, _, _, _, _, how, writer, _, same⟩ := next_serving moved
    rw [writer]
    exact grounded.serve how (ne_panic_of_returned same)
  · obtain ⟨writer, _, _⟩ := next_quiet moved quiet
    rw [writer]
    exact grounded

theorem requestIds_snoc (answers : List Answer) (answer : Answer) :
    requestIds (answers ++ [answer]) = requestIds answers ++ answer.ticket.request.events.map (·.eventId) := by
  rw [requestIds, List.flatMap_append, List.flatMap_singleton]
  rfl

theorem Fresh.shorten {log : EventLog} (fresh : Fresh log (answers ++ [answer])) : Fresh log answers := by
  obtain ⟨distinct, unknown⟩ := fresh
  rw [requestIds_snoc] at distinct unknown
  exact ⟨distinct.of_append_left, fun eventId member => unknown eventId (List.mem_append_left _ member)⟩

theorem Tracks.missed (tracks : Tracks crc start answers task)
    (fresh : Fresh start.writer.store.log (answers ++ [answer])) :
    (task.writer.dedup.check answer.ticket.request.events).1 = none := by
  cases checked : (task.writer.dedup.check answer.ticket.request.events).1 with
  | none => rfl
  | some found =>
    exfalso
    obtain ⟨first, rest, events, here⟩ := check_known checked
    obtain ⟨distinct, unknown⟩ := fresh
    rw [requestIds_snoc] at distinct unknown
    have own : first.eventId ∈ answer.ticket.request.events.map (·.eventId) := by
      rw [events]
      exact List.mem_cons_self ..
    rcases tracks.known first.eventId (tracks.grounded.covers.known _ here) with old | earlier
    · exact unknown first.eventId (List.mem_append_right _ own) old
    · exact (List.disjoint_of_nodup_append distinct) earlier own

theorem known_served (how : Serving crc fault recordedAt writer answer.ticket.request served)
    (alive : served.result ≠ .panic) :
    ∀ eventId ∈ idsOf served.writer.store.log.events, eventId ∈ idsOf writer.store.log.events ∨
      eventId ∈ answer.ticket.request.events.map (·.eventId) := by
  cases how with
  | invalid error refused => exact fun eventId member => .inl member
  | cached found unique hit => exact fun eventId member => .inl member
  | failed error store unique missed sameLog refused =>
    dsimp only
    rw [sameLog]
    exact fun eventId member => .inl member
  | appended batch unique missed accepts fits =>
    intro eventId member
    change eventId ∈ idsOf (writer.store.log.events ++ batch.events) at member
    rw [idsOf_append, Finset.mem_union] at member
    rcases member with old | new
    · exact .inl old
    · right
      rw [idsOf, List.mem_toFinset, accepts.eventIds] at new
      exact new
  | panicked after => exact absurd rfl alive

theorem Tracks.serve (tracks : Tracks crc start answers task) (moved : Task.next crc (.serve .none) task = some after) :
    ∃ answer, Tracks crc start (answers ++ [answer]) after := by
  obtain ⟨answer, served, _, _, _, answersEq, how, writer, _, same⟩ := next_serving moved
  have alive := ne_panic_of_returned same
  refine ⟨answer, ?_, ?_, ?_, ?_⟩
  · rw [answersEq, tracks.split, List.append_assoc]
  · rw [writer]
    exact tracks.grounded.serve how alive
  · intro eventId member
    rw [writer] at member
    rw [requestIds_snoc, List.mem_append]
    rcases known_served how alive eventId member with before | own
    · rcases tracks.known eventId before with old | earlier
      · exact .inl old
      · exact .inr (.inl earlier)
    · exact .inr (.inr own)
  · intro fresh
    rw [List.map_append]
    exact .snoc (tracks.run fresh.shorten)
      ⟨tracks.grounded.readable, tracks.missed fresh, task.recordedAt, served, answer.result, how, same, rfl, writer⟩

theorem tracks_next {step : Task.Step} (tracks : ∃ answers, Tracks crc start answers task)
    (faultless : task.Faultless step)
    (moved : Task.next crc step task = some after) : ∃ answers, Tracks crc start answers after := by
  obtain ⟨answers, tracks⟩ := tracks
  rcases serve_or_quiet step with ⟨fault, isServe⟩ | quiet
  · rw [isServe] at faultless moved
    rw [show fault = .none from faultless] at moved
    obtain ⟨answer, tracks⟩ := tracks.serve moved
    exact ⟨_, tracks⟩
  · obtain ⟨writer, answersEq, _⟩ := next_quiet moved quiet
    obtain ⟨split, grounded, known, run⟩ := tracks
    rw [← writer] at grounded known run
    exact ⟨answers, answersEq.trans split, grounded, known, run⟩

theorem Processed.tracked {final : Task} (grounded : Grounded start.writer)
    (processed : Processed crc start answers final) :
    Run (ServesNew crc) start.writer (answers.map fun answer => (answer.ticket.request, forgetResult answer.result))
      final.writer := by
  have initially : ∃ answers, Tracks crc start answers start :=
    ⟨[], (List.append_nil _).symm, grounded, fun _ member => .inl member, fun _ => .nil⟩
  obtain ⟨others, tracks⟩ := processed.run.invariant (fun task => ∃ answers, Tracks crc start answers task) initially
    (fun _ _ _ holds faultless moved => tracks_next holds faultless moved)
  have same : others = answers := List.append_cancel_left (tracks.split.symm.trans processed.split)
  rw [same] at tracks
  exact tracks.run processed.fresh

end

theorem requestsTo_eq (streamId : Uuid) (answers : List Answer) :
    (addressed AppendRequest.streamId streamId
        (answers.map fun answer => (answer.ticket.request, forgetResult answer.result))).map Prod.fst =
      requestsTo streamId answers := by
  rw [addressed, List.filter_map, List.map_map]
  rfl

theorem outcomesTo_eq (streamId : Uuid) (answers : List Answer) :
    (addressed AppendRequest.streamId streamId
        (answers.map fun answer => (answer.ticket.request, forgetResult answer.result))).map Prod.snd =
      outcomesTo streamId answers := by
  rw [addressed, List.filter_map, List.map_map]
  rfl

theorem readable_of_wellFormed {log : EventLog} (wellFormed : LogInvariant.WellFormed log) : Readable log := by
  intro streamId positions listed position member
  obtain ⟨i, here⟩ := List.mem_iff_getElem?.mp member
  obtain ⟨event, _, found⟩ := wellFormed.getElem?_listed listed here
  exact (List.getElem?_eq_some_iff.mp found).1

/-- Two runs from one state with the same requests to a stream answer those requests alike, and leave
the same stream behind, up to global positions and times. -/
theorem streams_do_not_interfere (crc : Crc32fast) (store : Store) (readable : Readable store.log) (dedupCapacity : Nat)
    (start : Task) (reached : Reaches (Task.next crc) always (Task.start (Writer.spawn store dedupCapacity)) start)
    (answers others : List Answer) (final last : Task) (first : Processed crc start answers final)
    (second : Processed crc start others last) (streamId : Uuid)
    (same : requestsTo streamId answers = requestsTo streamId others) :
    outcomesTo streamId answers = outcomesTo streamId others ∧
      (∀ fromVersion maxCount, forgetRead (final.writer.store.readStream streamId fromVersion maxCount) =
        forgetRead (last.writer.store.readStream streamId fromVersion maxCount)) ∧
      final.writer.store.streamVersion streamId = last.writer.store.streamVersion streamId := by
  have initially : Grounded (Task.start (Writer.spawn store dedupCapacity)).writer := ⟨readable, covers_spawn _ _⟩
  have grounded := reached.invariant (fun task => Grounded task.writer) initially
    (fun _ _ _ holds _ moved => holds.next moved)
  rw [← requestsTo_eq, ← requestsTo_eq] at same
  obtain ⟨outcomes, views⟩ := (divided crc).agree (first.tracked grounded) (second.tracked grounded) same
  rw [outcomesTo_eq, outcomesTo_eq] at outcomes
  refine ⟨outcomes, ?_, ?_⟩
  · intro fromVersion maxCount
    have reads := readStream_forget final.writer.store.log streamId fromVersion maxCount
    rw [views, ← readStream_forget] at reads
    exact reads
  · have versions := streamVersion_forget final.writer.store.log streamId
    rw [views, ← streamVersion_forget] at versions
    exact versions

theorem streams_do_not_interfere_behind_another :
    ∃ answers others final last, Processed Crc32fast.ieee (Task.start freshWriter) answers final ∧
      Processed Crc32fast.ieee (Task.start freshWriter) others last ∧ answers.length = 1 ∧ others.length = 2 ∧
      requestsTo (idOf 0) answers = [plainRequest 0 .any [1]] ∧ outcomesTo (idOf 0) answers = outcomesTo (idOf 0) others ∧
      final.writer.store.streamVersion (idOf 0) = last.writer.store.streamVersion (idOf 0) := by
  let otherBatch := plainBatch EventLog.empty 1 .any [2]
  let store := Store.withBatch Crc32fast.ieee Store.create (idOf 1) otherBatch
  let writer : Writer := ⟨store, freshWriter.dedup.record otherBatch.events⟩
  let batch := plainBatch store.log 0 .any [1]
  have otherOk : Accepts EventLog.empty (plainCall 1 .any [2]) otherBatch :=
    accepts_batchOf EventLog.empty _ (plainCall_valid 1 .any [2]) rfl
  have batchOk : Accepts store.log (plainCall 0 .any [1]) batch :=
    accepts_batchOf store.log _ (plainCall_valid 0 .any [1]) rfl
  have once : Reaches (Task.next Crc32fast.ieee) Task.Faultless (Task.start freshWriter) _ :=
    reaches_answer (fun task _ calm _ _ => calm.faultless task) (serve_first Crc32fast.ieee)
  have before : Reaches (Task.next Crc32fast.ieee) Task.Faultless (Task.start freshWriter)
      (idle writer [⟨⟨0, plainRequest 1 .any [2]⟩, .appended, .ok otherBatch.events⟩] 1 0) :=
    reaches_answer (fun task _ calm _ _ => calm.faultless task)
      (serve_accepted Crc32fast.ieee rfl rfl otherOk (by decide))
  have served : writer.serve Crc32fast.ieee .none 0 (plainRequest 0 .any [1]) = _ :=
    serve_accepted Crc32fast.ieee rfl rfl batchOk (by decide)
  have twice := before.trans (reaches_answer (fun task _ calm _ _ => calm.faultless task) served)
  have first : Processed Crc32fast.ieee (Task.start freshWriter)
      [⟨⟨0, plainRequest 0 .any [1]⟩, .appended, .ok firstBatch.events⟩] _ :=
    ⟨once, rfl, ⟨by decide, by decide⟩⟩
  have second : Processed Crc32fast.ieee (Task.start freshWriter)
      [⟨⟨0, plainRequest 1 .any [2]⟩, .appended, .ok otherBatch.events⟩,
        ⟨⟨1, plainRequest 0 .any [1]⟩, .appended, .ok batch.events⟩] _ :=
    ⟨twice, rfl, ⟨by decide, by decide⟩⟩
  obtain ⟨outcomes, _, versions⟩ := streams_do_not_interfere Crc32fast.ieee Store.create
    (readable_of_wellFormed LogInvariant.wellFormed_empty) 4 (Task.start freshWriter) .refl _ _ _ _ first second (idOf 0)
    (by decide)
  exact ⟨_, _, _, _, first, second, rfl, rfl, by decide, outcomes, versions⟩

/-! ### A log whose index points behind its end -/

def beheadedStore : Store := ⟨beheaded, EventLog.empty.commit (eventsOf [secondBatch])⟩

theorem open_beheaded : Store.open .ieee (some beheaded) = (ok beheadedStore, some beheaded) :=
  open_clean (List.forall_mem_singleton.mpr secondBatch_small) rfl

/-- A request to another stream puts an event where the index of the first stream points. Without it a read
of the first stream panics, with it the read returns the other stream's event. -/
theorem streams_interfere_beheaded :
    Store.open .ieee (some beheaded) = (ok beheadedStore, some beheaded) ∧
    ∃ start answers final, start = Task.start (Writer.spawn beheadedStore 4) ∧ Processed .ieee start [] start ∧
      Processed .ieee start answers final ∧ requestsTo (idOf 0) [] = requestsTo (idOf 0) answers ∧
      forgetRead (start.writer.store.readStream (idOf 0) 0 1) = .panic ∧
      ∃ event, forgetRead (final.writer.store.readStream (idOf 0) 0 1) = .ok [event] ∧ event.streamId = idOf 1 := by
  let writer := Writer.spawn beheadedStore 4
  let batch := plainBatch beheadedStore.log 1 .any [3]
  have accepts : Accepts beheadedStore.log (plainCall 1 .any [3]) batch :=
    accepts_batchOf beheadedStore.log _ (plainCall_valid 1 .any [3]) rfl
  have nothing : Processed .ieee (Task.start writer) [] (Task.start writer) :=
    ⟨.refl, rfl, ⟨List.nodup_nil, fun _ impossible => by cases impossible⟩⟩
  have served : writer.serve .ieee .none 0 (plainRequest 1 .any [3]) = _ :=
    serve_accepted .ieee rfl rfl accepts (by decide)
  have run : Reaches (Task.next .ieee) Task.Faultless (Task.start writer) _ :=
    reaches_answer (fun task _ calm _ _ => calm.faultless task) served
  have other : Processed .ieee (Task.start writer)
      [⟨⟨0, plainRequest 1 .any [3]⟩, .appended, .ok batch.events⟩] _ :=
    ⟨run, rfl, ⟨by decide, by decide⟩⟩
  refine ⟨open_beheaded, _, _, _, rfl, nothing, other, by decide, by decide, ?_⟩
  exact ⟨_, rfl, rfl⟩

end EventfoldDb.StreamIsolation
