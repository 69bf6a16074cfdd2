import EventfoldDb.AnswerSegments
import EventfoldDb.AppendContract
import EventfoldDb.Paging
import EventfoldDb.StreamSummaries

/-! The event store as its clients think of it: a list of events that calls read and extend one after
the other. The writer task and the read index do what this store does. -/

namespace EventfoldDb
open Outcome

inductive Query where
  | readAll (fromPosition maxCount : UInt64)
  | readStream (streamId : Uuid) (fromVersion maxCount : UInt64)
  | streamVersion (streamId : Uuid)
  | globalPosition
  | listStreams

inductive Operation where
  | append (request : AppendRequest)
  | query (query : Query)

inductive Reply where
  | appended (result : Except Error (List RecordedEvent))
  | events (result : Except Error (List RecordedEvent))
  | version (version : Option UInt64)
  | position (position : UInt64)
  | streams (infos : List StreamInfo)

def Reply.ofRead : Outcome Error (List RecordedEvent) → Option Reply
  | .ok recorded => some (.events (.ok recorded))
  | .err error => some (.events (.error error))
  | .panic => none

/-- One call under the read lock, for an order in which the hash map hands out its entries. -/
def Query.answer (log : EventLog) (iteration : List (Uuid × List UInt64)) : Query → Option Reply
  | .readAll fromPosition maxCount => Reply.ofRead (log.readAll fromPosition maxCount)
  | .readStream streamId fromVersion maxCount => Reply.ofRead (log.readStream streamId fromVersion maxCount)
  | .streamVersion streamId => some (.version (log.streamVersion streamId))
  | .globalPosition => some (.position log.globalPosition)
  | .listStreams => some (.streams (EventfoldDb.listStreams iteration))

/-- The events, and the batches an append may be answered with if it repeats one. -/
structure EventStore where
  events : List RecordedEvent
  batches : List (List RecordedEvent)

namespace EventStore
open LogInvariant DiskInvariant AppendSpec StreamEntries StreamSummaries Window

def start (events : List RecordedEvent) : EventStore := ⟨events, events.map ([·])⟩

def Expects (store : EventStore) (streamId : Uuid) : ExpectedVersion → Prop
  | .any => True
  | .noStream => streamEvents streamId store.events = []
  | .exact n => (streamEvents streamId store.events).length = n.toNat + 1

def record (store : EventStore) (request : AppendRequest) (recordedAt : UInt64) : List RecordedEvent :=
  request.events.mapIdx fun i proposed =>
    recordOf request.streamId recordedAt (UInt64.ofNat (store.events.length + i))
      (UInt64.ofNat ((streamEvents request.streamId store.events).length + i)) proposed

def reply (store : EventStore) : Query → Reply
  | .readAll fromPosition maxCount =>
      .events (.ok (window fromPosition.toNat (fromPosition.toNat + maxCount.toNat) store.events))
  | .readStream streamId fromVersion maxCount =>
      if streamEvents streamId store.events = [] then .events (.error (.streamNotFound streamId))
      else .events (.ok (window fromVersion.toNat (fromVersion.toNat + maxCount.toNat)
        (streamEvents streamId store.events)))
  | .streamVersion streamId => .version (lastVersion (streamEvents streamId store.events))
  | .globalPosition => .position (UInt64.ofNat store.events.length)
  | .listStreams => .streams (listStreams (entriesOf (EventLog.empty.commit store.events)))

inductive Refuses (store : EventStore) (request : AppendRequest) : Error → Prop
  | duplicate (detail : String) (twice : ¬(request.events.map (·.eventId)).Nodup) :
      Refuses store request (.invalidArgument detail)
  | version (expected actual : String) (wrong : ¬store.Expects request.streamId request.expectedVersion) :
      Refuses store request (.wrongExpectedVersion expected actual)
  | type (detail : String) (proposed : ProposedEvent) (member : proposed ∈ request.events)
      (unfit : ¬AppendContract.Fits proposed) : Refuses store request (.invalidArgument detail)
  | size (size max : Nat) (proposed : ProposedEvent) (member : proposed ∈ request.events)
      (unfit : ¬AppendContract.Fits proposed) : Refuses store request (.eventTooLarge size max)
  /-- The file could not be written or synced. -/
  | disk : Refuses store request .io

inductive Does (store : EventStore) : Operation → Reply → EventStore → Prop
  /-- The batch becomes visible as a whole. -/
  | write (request : AppendRequest) (recordedAt : UInt64) (distinct : (request.events.map (·.eventId)).Nodup)
      (expected : store.Expects request.streamId request.expectedVersion)
      (fits : ∀ proposed ∈ request.events, AppendContract.Fits proposed) :
      Does store (.append request) (.appended (.ok (store.record request recordedAt)))
        ⟨store.events ++ store.record request recordedAt, store.batches ++ [store.record request recordedAt]⟩
  /-- The answer is the last batch with the first event id. -/
  | repeated (request : AppendRequest) (first : ProposedEvent) (rest : List ProposedEvent)
      (recorded : List RecordedEvent) (distinct : (request.events.map (·.eventId)).Nodup)
      (events : request.events = first :: rest)
      (last : Acknowledgement.lastWith first.eventId store.batches = some recorded) :
      Does store (.append request) (.appended (.ok recorded)) store
  | refuse (request : AppendRequest) (error : Error) (why : store.Refuses request error) :
      Does store (.append request) (.appended (.error error)) store
  | query (query : Query) : Does store (.query query) (store.reply query) store

/-! ### The read index -/

theorem answer_eq {log : EventLog} (wellFormed : WellFormed log) (canonical : Canonical log)
    {iteration : List (Uuid × List UInt64)} (iterates : Iterates log.streams iteration)
    (batches : List (List RecordedEvent))
    (query : Query) : query.answer log iteration = some (reply ⟨log.events, batches⟩ query) := by
  cases query with
  | readAll fromPosition maxCount =>
    rw [Query.answer, Reader.readAll_eq wellFormed, Reply.ofRead, reply]
  | readStream streamId fromVersion maxCount =>
    rw [Query.answer, reply]
    rcases Paging.readStream_found wellFormed canonical streamId fromVersion maxCount with ⟨empty, read⟩ | ⟨present, read⟩
    · rw [read, if_pos empty, Reply.ofRead]
    · rw [read, if_neg present, Reply.ofRead]
  | streamVersion streamId => rw [Query.answer, streamVersion_of_canonical canonical, reply]
  | globalPosition => rfl
  | listStreams =>
    have same : EventLog.empty.commit log.events = log := canonical.symm
    rw [Query.answer, reply, same, listStreams_unique iterates (iterates_entriesOf canonical)]

/-! ### The writer task -/

theorem validate_error {events : List ProposedEvent} {error : Error}
    (refused : validateBatchUniqueIds events = .error error) :
    ¬(events.map (·.eventId)).Nodup ∧ ∃ detail, error = .invalidArgument detail := by
  constructor
  · rw [← WriterSpec.validateBatchUniqueIds_eq_ok, refused]
    exact fun impossible => by cases impossible
  · rw [validateBatchUniqueIds] at refused
    split_ifs at refused
    split at refused
    next =>
      cases refused
      exact ⟨_, rfl⟩
    next => cases refused

theorem recordAll_error {crc : Crc32fast} {streamId : Uuid} {recordedAt nextGlobal nextStreamVersion : UInt64}
    {proposedEvents : List ProposedEvent} {error : Error}
    (refused : recordAll crc streamId recordedAt nextGlobal nextStreamVersion proposedEvents = .error error) :
    (∃ detail, error = .invalidArgument detail) ∨ ∃ size max, error = .eventTooLarge size max := by
  induction proposedEvents generalizing nextGlobal nextStreamVersion with
  | nil => cases refused
  | cons proposed rest ih =>
    rw [recordAll] at refused
    split_ifs at refused
    · cases refused
      exact .inl ⟨_, rfl⟩
    · cases refused
      exact .inl ⟨_, rfl⟩
    · dsimp only at refused
      split_ifs at refused
      · cases refused
        exact .inr ⟨_, _, rfl⟩
      · split at refused
        next => cases refused
        next inner =>
          cases refused
          exact ih inner

theorem unfit_of_recordAll {crc : Crc32fast} {streamId : Uuid} {recordedAt nextGlobal nextStreamVersion : UInt64}
    {proposedEvents : List ProposedEvent} {error : Error}
    (refused : recordAll crc streamId recordedAt nextGlobal nextStreamVersion proposedEvents = .error error) :
    ∃ proposed ∈ proposedEvents, ¬AppendContract.Fits proposed := by
  by_contra none
  have valid : ∀ proposed ∈ proposedEvents, ValidProposal proposed := by
    intro proposed member
    by_contra unfit
    exact none ⟨proposed, member, fun fits => unfit ((AppendContract.fits_iff proposed).mp fits)⟩
  rw [recordAll_valid crc _ _ _ _ _ valid] at refused
  cases refused

theorem check_error {log : EventLog} {streamId : Uuid} {expected : ExpectedVersion} {error : Error}
    (refused : log.checkExpectedVersion streamId expected = .error error) :
    ∃ wanted actual, error = .wrongExpectedVersion wanted actual := by
  cases expected with
  | any => cases refused
  | noStream =>
    rw [EventLog.checkExpectedVersion] at refused
    split at refused
    next => cases refused
    next =>
      cases refused
      exact ⟨_, _, rfl⟩
  | exact n =>
    rw [EventLog.checkExpectedVersion] at refused
    split at refused
    next =>
      cases refused
      exact ⟨_, _, rfl⟩
    next =>
      dsimp only at refused
      split_ifs at refused
      cases refused
      exact ⟨_, _, rfl⟩

theorem expects_iff {log : EventLog} (canonical : Canonical log) (room : log.events.length ≤ isizeMax)
    (batches : List (List RecordedEvent)) (streamId : Uuid) (expected : ExpectedVersion) :
    log.checkExpectedVersion streamId expected = .ok () ↔ Expects ⟨log.events, batches⟩ streamId expected := by
  rw [AppendContract.check_iff canonical streamId expected room]
  cases expected <;> exact Iff.rfl

theorem refuses_of_prepare {crc : Crc32fast} {log : EventLog} (canonical : Canonical log)
    (room : log.events.length ≤ isizeMax) (batches : List (List RecordedEvent)) {request : AppendRequest}
    {recordedAt : UInt64} {error : Error} (refused : prepareCall crc log (request.call recordedAt) = .error error) :
    Refuses ⟨log.events, batches⟩ request error := by
  rw [prepareCall, EventLog.prepare] at refused
  split at refused
  next other wrong =>
    cases refused
    obtain ⟨wanted, actual, rfl⟩ := check_error wrong
    refine .version wanted actual ?_
    intro right
    have passes := (expects_iff canonical room batches request.streamId request.expectedVersion).mpr right
    rw [show log.checkExpectedVersion request.streamId request.expectedVersion = _ from wrong] at passes
    cases passes
  next =>
    split at refused
    next other inner =>
      cases refused
      obtain ⟨proposed, member, unfit⟩ := unfit_of_recordAll inner
      rcases recordAll_error inner with ⟨detail, rfl⟩ | ⟨size, max, rfl⟩
      · exact .type detail proposed member unfit
      · exact .size size max proposed member unfit
    next => cases refused

theorem refuses_of_serve {crc : Crc32fast} {fault : Fault} {recordedAt : UInt64} {writer : Writer}
    (canonical : Canonical writer.store.log) (room : writer.store.log.events.length ≤ isizeMax)
    (batches : List (List RecordedEvent)) {request : AppendRequest} {error : Error}
    (refused : (writer.serve crc fault recordedAt request).result = .err error) :
    Refuses ⟨writer.store.log.events, batches⟩ request error := by
  rw [Writer.serve] at refused
  split at refused
  next other invalid =>
    cases refused
    obtain ⟨twice, detail, rfl⟩ := validate_error invalid
    exact .duplicate detail twice
  next =>
    split at refused
    next => cases refused
    next =>
      cases called : runCall crc fault writer.store (request.call recordedAt) with
      | mk result store =>
        rw [called] at refused
        rcases append_cases crc fault writer.store store (request.call recordedAt) result called with
          ⟨other, prepared, answer, _⟩ | ⟨_, _, _, answer, _⟩ | ⟨_, _, _, answer, _⟩ | answer
        · rw [answer] at refused
          cases refused
          exact refuses_of_prepare canonical room batches prepared
        · rw [answer] at refused
          cases refused
          exact .disk
        · rw [answer] at refused
          cases refused
        · rw [answer] at refused
          cases refused

section
open WriterSpec Acknowledgement AnswerSegments
variable {crc : Crc32fast} {fault : Fault} {recovered : List RecordedEvent} {task after : Task}

theorem reply_of_serve (moved : Task.next crc (.serve fault) task = some after) :
    ∃ answer, after.reply = some answer ∧
      returned answer.result = (task.writer.serve crc fault task.recordedAt answer.ticket.request).result := by
  rw [Task.next] at moved
  split at moved
  next ticket rest _ _ _ =>
    dsimp only at moved
    split at moved
    next recorded result =>
      cases moved
      exact ⟨_, rfl, result.symm⟩
    next error result =>
      cases moved
      exact ⟨_, rfl, result.symm⟩
    next => cases moved
  next => cases moved

theorem canonical_serve (segmented : Segmented recovered task) (canonical : Canonical task.writer.store.log)
    (moved : Task.next crc (.serve fault) task = some after) : Canonical after.writer.store.log := by
  obtain ⟨answer, batch, _, _, _, how⟩ := next_answered moved
  rcases how with unwritten | ⟨built, dedup, wrote⟩
  · rw [unwritten.log]
    exact canonical
  · rw [wrote.writer]
    apply canonical.extended _ wrote.accepts.stream
    apply List.ne_nil_of_length_pos
    rw [wrote.accepts.length_events]
    apply List.length_pos_of_ne_nil
    apply segmented.queued answer.ticket
    rw [batch]
    exact List.mem_append_right _ (List.mem_cons_self ..)

theorem does_serve (segmented : Segmented recovered task) (canonical : Canonical task.writer.store.log)
    (moved : Task.next crc (.serve fault) task = some after) :
    ∃ answer, task.batch = answer.ticket :: after.batch ∧ after.inbox = task.inbox ∧
      answered after = answered task ++ [answer] ∧
      Does ⟨task.writer.store.log.events, history recovered (answered task)⟩ (.append answer.ticket.request)
        (.appended answer.result) ⟨after.writer.store.log.events, history recovered (answered after)⟩ := by
  obtain ⟨answer, served, batchEq, inbox, _, answers, how, writer, route, same⟩ := next_serving moved
  refine ⟨answer, batchEq, inbox, answers, ?_⟩
  have room := segmented.wellFormed.capacity
  have expects := expects_iff canonical room (history recovered (answered task)) answer.ticket.request.streamId
    answer.ticket.request.expectedVersion
  -- an error leaves the store as it is
  have refused : ∀ error, answer.result = .error error → after.writer.store.log = task.writer.store.log →
      Does ⟨task.writer.store.log.events, history recovered (answered task)⟩ (.append answer.ticket.request)
        (.appended answer.result) ⟨after.writer.store.log.events, history recovered (answered after)⟩ := by
    intro error isError sameLog
    have nothing : written answer = none := written_of_failed (fun recorded isOk => by rw [isError] at isOk; cases isOk)
    rw [answers, history_snoc, nothing, Option.toList_none, List.append_nil, sameLog, isError]
    obtain ⟨reply, replied, result⟩ := reply_of_serve moved
    have isAnswer : answer = reply := by
      have last : answered after = after.answers ++ [reply] := by rw [answered, replied, Option.toList_some]
      exact (List.cons.inj (List.append_inj' (answers.symm.trans last) rfl).2).1
    rw [← isAnswer, isError] at result
    exact .refuse _ error (refuses_of_serve canonical room _ result.symm)
  cases how with
  | invalid error _ =>
    rw [returned_eq_err] at same
    exact refused error same (by rw [writer])
  | failed error store _ _ sameLog _ =>
    rw [returned_eq_err] at same
    exact refused error same (by rw [writer]; exact sameLog)
  | cached recorded unique hit =>
    rw [returned_eq_ok] at same
    have nothing : written answer = none := by rw [written, route]
    obtain ⟨first, rest, events, known⟩ := check_known hit
    have last := segmented.cached _ known
    rw [answers, history_snoc, nothing, Option.toList_none, List.append_nil, writer, same]
    exact .repeated _ first rest recorded (validateBatchUniqueIds_eq_ok.mp unique) events last
  | appended batch unique _ accepts fits =>
    rw [returned_eq_ok] at same
    have recorded : written answer = some batch.events := by rw [written, route, same]
    have numbered : batch.events = record ⟨task.writer.store.log.events, history recovered (answered task)⟩
        answer.ticket.request task.recordedAt := AppendContract.recordedOn_eq canonical accepts
    rw [answers, history_snoc, recorded, Option.toList_some, writer, same]
    show Does _ _ (.appended (.ok batch.events)) ⟨task.writer.store.log.events ++ batch.events, _ ++ [batch.events]⟩
    rw [numbered]
    exact .write _ task.recordedAt (validateBatchUniqueIds_eq_ok.mp unique) (expects.mp accepts.versionOk)
      (AppendContract.fits_of_accepts accepts)
  | panicked _ => exact absurd rfl (ne_panic_of_returned same)

end

end EventStore

end EventfoldDb
