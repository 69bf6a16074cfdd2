import EventfoldDb.EventStore

/-! The handlers of the gRPC service that read, and what a client that appends through the service reads
back through it. -/

namespace EventfoldDb
open Outcome

namespace Proto

structure RecordedEvent where
  eventId : String
  streamId : String
  streamVersion : UInt64
  globalPosition : UInt64
  eventType : String
  metadata : Bytes
  payload : Bytes
  recordedAt : UInt64
  deriving DecidableEq, Repr

structure StreamInfo where
  streamId : String
  eventCount : UInt64
  latestVersion : UInt64
  deriving DecidableEq, Repr

structure ReadStreamRequest where
  streamId : String
  fromVersion : UInt64
  maxCount : UInt64
  deriving DecidableEq, Repr

structure ReadStreamResponse where
  events : List RecordedEvent
  deriving DecidableEq, Repr

structure ReadAllRequest where
  fromPosition : UInt64
  maxCount : UInt64
  deriving DecidableEq, Repr

structure ReadAllResponse where
  events : List RecordedEvent
  deriving DecidableEq, Repr

structure ListStreamsResponse where
  streams : List StreamInfo
  deriving DecidableEq, Repr

inductive Content where
  | event (event : RecordedEvent)
  | caughtUp
  deriving DecidableEq, Repr

structure SubscribeResponse where
  content : Option Content
  deriving DecidableEq, Repr

end Proto

def recordedToProto (event : RecordedEvent) : Proto.RecordedEvent where
  eventId := event.eventId.display
  streamId := event.streamId.display
  streamVersion := event.streamVersion
  globalPosition := event.globalPosition
  eventType := event.eventType
  metadata := event.metadata
  payload := event.payload
  recordedAt := event.recordedAt

def streamInfoToProto (info : StreamInfo) : Proto.StreamInfo where
  streamId := info.streamId.display
  eventCount := info.eventCount
  latestVersion := info.latestVersion

namespace EventfoldService

def statusOf {α : Type} : Outcome Error α → Outcome Status α
  | .ok value => .ok value
  | .err error => .err (errorToStatus error)
  | .panic => .panic

def readStream (parser : UuidParser) (log : EventLog) (request : Proto.ReadStreamRequest) :
    Outcome Status Proto.ReadStreamResponse :=
  match parseUuid parser request.streamId "stream_id" with
  | .error status => .err status
  | .ok streamId => do
      let events ← statusOf (log.readStream streamId request.fromVersion request.maxCount)
      return ⟨events.map recordedToProto⟩

def readAll (log : EventLog) (request : Proto.ReadAllRequest) : Outcome Status Proto.ReadAllResponse := do
  let events ← statusOf (log.readAll request.fromPosition request.maxCount)
  return ⟨events.map recordedToProto⟩

def listStreams (iteration : List (Uuid × List UInt64)) : Proto.ListStreamsResponse :=
  ⟨(EventfoldDb.listStreams iteration).map streamInfoToProto⟩

/-- What the streams of both subscription handlers yield for an item of the stream inside; an error is
their last item. -/
def relay : Except Error SubscriptionMessage → Except Status Proto.SubscribeResponse
  | .ok (.event event) => .ok ⟨some (.event (recordedToProto event))⟩
  | .ok .caughtUp => .ok ⟨some .caughtUp⟩
  | .error error => .error (errorToStatus error)

end EventfoldService

namespace ServiceReads
open Recovery AppendSpec LogInvariant DiskInvariant WriterSpec Acknowledgement AnswerSegments EventStore Window Numbering
  Machine

/-- The text under which an id is shown that was sent as `text`. -/
def shown (parser : UuidParser) (text : String) : String :=
  match parser text with
  | .ok id => id.display
  | .error _ => text

def sent (parser : UuidParser) (message : Proto.AppendRequest) (response : Proto.AppendResponse) (recordedAt : UInt64) :
    List Proto.RecordedEvent :=
  message.events.mapIdx fun i event =>
    { eventId := shown parser event.eventId
      streamId := shown parser message.streamId
      streamVersion := response.firstStreamVersion + UInt64.ofNat i
      globalPosition := response.firstGlobalPosition + UInt64.ofNat i
      eventType := event.eventType
      metadata := event.metadata
      payload := event.payload
      recordedAt }

/-- Both reads give the events of the message and nothing else, and both ranges of the response are as
long as the message. -/
structure ReadsBack (parser : UuidParser) (log : EventLog) (message : Proto.AppendRequest)
    (response : Proto.AppendResponse) : Prop where
  positions : response.lastGlobalPosition.toNat + 1 = response.firstGlobalPosition.toNat + message.events.length
  versions : response.lastStreamVersion.toNat + 1 = response.firstStreamVersion.toNat + message.events.length
  events : ∃ recordedAt,
    EventfoldService.readAll log ⟨response.firstGlobalPosition, UInt64.ofNat message.events.length⟩ =
      ok ⟨sent parser message response recordedAt⟩ ∧
    EventfoldService.readStream parser log
        ⟨message.streamId, response.firstStreamVersion, UInt64.ofNat message.events.length⟩ =
      ok ⟨sent parser message response recordedAt⟩

/-! ### What the handler makes of a message -/

section
variable {parser : UuidParser} {message : Proto.AppendRequest} {asked : AppendRequest}

theorem shown_of_parsed {text fieldName : String} {id : Uuid} (parsed : parseUuid parser text fieldName = .ok id) :
    shown parser text = id.display := by
  rw [parseUuid] at parsed
  rw [shown]
  cases given : parser text with
  | ok other =>
    rw [given] at parsed
    rw [Except.ok.inj parsed]
  | error reason =>
    rw [given] at parsed
    cases parsed

theorem request_ok (passed : EventfoldService.request parser message = .ok asked) :
    parseUuid parser message.streamId "stream_id" = .ok asked.streamId ∧
      message.events.mapM (protoToProposedEvent parser) = .ok asked.events := by
  rw [EventfoldService.request] at passed
  cases streamId : parseUuid parser message.streamId "stream_id" with
  | error status =>
    rw [streamId] at passed
    cases passed
  | ok id =>
    rw [streamId] at passed
    cases expected : protoToExpectedVersion message.expectedVersion with
    | error status =>
      rw [expected] at passed
      cases passed
    | ok version =>
      rw [expected] at passed
      cases empty : message.events.isEmpty with
      | true =>
        rw [empty] at passed
        cases passed
      | false =>
        rw [empty] at passed
        cases converted : message.events.mapM (protoToProposedEvent parser) with
        | error status =>
          rw [converted] at passed
          cases passed
        | ok events =>
          rw [converted] at passed
          cases passed
          exact ⟨rfl, rfl⟩

theorem converted_ok {proposed : Proto.ProposedEvent} {event : ProposedEvent}
    (converted : protoToProposedEvent parser proposed = .ok event) :
    shown parser proposed.eventId = event.eventId.display ∧ proposed.eventType = event.eventType ∧
      proposed.metadata = event.metadata ∧ proposed.payload = event.payload := by
  rw [protoToProposedEvent] at converted
  cases parsed : parseUuid parser proposed.eventId "event_id" with
  | error status =>
    rw [parsed] at converted
    cases converted
  | ok id =>
    rw [parsed] at converted
    cases converted
    exact ⟨shown_of_parsed parsed, rfl, rfl, rfl⟩

theorem mapIdx_converted {β : Type} {proposed : List Proto.ProposedEvent} {events : List ProposedEvent}
    (converted : proposed.mapM (protoToProposedEvent parser) = .ok events) (inside : Nat → ProposedEvent → β)
    (outside : Nat → Proto.ProposedEvent → β)
    (agree : ∀ i given event, protoToProposedEvent parser given = .ok event → outside i given = inside i event) :
    proposed.mapIdx outside = events.mapIdx inside := by
  induction proposed generalizing events inside outside with
  | nil =>
    cases converted
    rfl
  | cons given proposed ih =>
    rw [List.mapM_cons] at converted
    cases first : protoToProposedEvent parser given with
    | error status =>
      rw [first] at converted
      cases converted
    | ok event =>
      rw [first] at converted
      cases rest : proposed.mapM (protoToProposedEvent parser) with
      | error status =>
        rw [rest] at converted
        cases converted
      | ok others =>
        rw [rest] at converted
        cases converted
        rw [List.mapIdx_cons, List.mapIdx_cons, agree 0 given event first,
          ih rest (fun i => inside (i + 1)) (fun i => outside (i + 1)) (fun i => agree (i + 1))]

theorem first_converted {first : ProposedEvent} {rest : List ProposedEvent}
    (passed : EventfoldService.request parser message = .ok asked) (events : asked.events = first :: rest) :
    ∃ given others, message.events = given :: others ∧ shown parser given.eventId = first.eventId.display := by
  obtain ⟨_, converted⟩ := request_ok passed
  have ids := mapIdx_converted converted (fun _ event => event.eventId.display) (fun _ given => shown parser given.eventId)
    (fun _ _ _ same => (converted_ok same).1)
  cases split : message.events with
  | nil =>
    rw [split, events, List.mapIdx_nil, List.mapIdx_cons] at ids
    cases ids
  | cons given others =>
    rw [split, events, List.mapIdx_cons, List.mapIdx_cons] at ids
    exact ⟨given, others, rfl, (List.cons.inj ids).1⟩

end

/-! ### Where a written batch is -/

/-- The batch follows a first part of the log, as the store records it there. -/
def Placed (events : List RecordedEvent) (request : AppendRequest) (recorded : List RecordedEvent) : Prop :=
  ∃ before behind recordedAt, events = before ++ recorded ++ behind ∧
    recorded = (EventStore.start before).record request recordedAt

theorem Placed.grow {events recorded : List RecordedEvent} {request : AppendRequest}
    (placed : Placed events request recorded) (more : List RecordedEvent) :
    Placed (events ++ more) request recorded := by
  obtain ⟨before, behind, recordedAt, split, numbered⟩ := placed
  exact ⟨before, behind ++ more, recordedAt, by rw [split, List.append_assoc], numbered⟩

/-- Why an answer is a success: its batch was written, or the first event id was in the dedup index. -/
def Explained (events : List RecordedEvent) (answer : Answer) (recorded : List RecordedEvent) : Prop :=
  written answer = some recorded ∧ Placed events answer.ticket.request recorded ∨
    written answer = none ∧ ∃ first rest, answer.ticket.request.events = first :: rest ∧
      first.eventId ∈ recorded.map (·.eventId)

theorem Explained.grow {events recorded : List RecordedEvent} {answer : Answer}
    (explained : Explained events answer recorded) (more : List RecordedEvent) :
    Explained (events ++ more) answer recorded := by
  rcases explained with ⟨isWritten, placed⟩ | known
  · exact .inl ⟨isWritten, placed.grow more⟩
  · exact .inr known

structure Filed (recovered : List RecordedEvent) (task : Task) : Prop where
  segmented : Segmented recovered task
  canonical : Canonical task.writer.store.log
  explained : ∀ answer ∈ answered task, ∀ recorded, answer.result = .ok recorded →
    Explained task.writer.store.log.events answer recorded

section
variable {crc : Crc32fast} {recovered : List RecordedEvent} {task after : Task}

theorem filed_start {store : Store} (wellFormed : WellFormed store.log) (canonical : Canonical store.log)
    (dedupCapacity : Nat) : Filed store.log.events (Task.start (Writer.spawn store dedupCapacity)) :=
  ⟨segmented_start wellFormed dedupCapacity, canonical, fun _ member => absurd member List.not_mem_nil⟩

theorem explained_serve {fault : Fault} (filed : Filed recovered task)
    (moved : Task.next crc (.serve fault) task = some after) :
    ∀ answer ∈ answered after, ∀ recorded, answer.result = .ok recorded →
      Explained after.writer.store.log.events answer recorded := by
  obtain ⟨answer, _, _, _, answers, how⟩ := next_answered moved
  rw [answers]
  intro other member recorded isOk
  rcases how with unwritten | ⟨batch, dedup, wrote⟩
  · rw [unwritten.log]
    rcases List.mem_append.mp member with earlier | last
    · exact filed.explained other earlier recorded isOk
    · rw [List.mem_singleton.mp last] at isOk ⊢
      obtain ⟨first, rest, events, known⟩ := unwritten.known recorded isOk
      exact .inr ⟨unwritten.nothing, first, rest, events, id_of_lastWith (filed.segmented.cached _ known)⟩
  · have events : after.writer.store.log.events = task.writer.store.log.events ++ batch.events := by
      rw [wrote.writer]
      rfl
    rw [events]
    rcases List.mem_append.mp member with earlier | last
    · exact (filed.explained other earlier recorded isOk).grow _
    · rw [List.mem_singleton.mp last] at isOk ⊢
      rw [wrote.result] at isOk
      rw [← Except.ok.inj isOk]
      exact .inl ⟨wrote.recorded, task.writer.store.log.events, [], task.recordedAt, (List.append_nil _).symm,
        AppendContract.recordedOn_eq filed.canonical wrote.accepts⟩

theorem filed_next {step : Task.Step} (filed : Filed recovered task) (permitted : task.Filled step)
    (moved : Task.next crc step task = some after) : Filed recovered after := by
  have segmented := segmented_next filed.segmented permitted moved
  rcases serve_or_quiet step with ⟨fault, isServe⟩ | quiet
  · rw [isServe] at moved
    exact ⟨segmented, canonical_serve filed.segmented filed.canonical moved, explained_serve filed moved⟩
  · obtain ⟨writer, answers, _⟩ := next_quiet moved quiet
    refine ⟨segmented, ?_, ?_⟩
    · rw [writer]
      exact filed.canonical
    · rw [writer, answers]
      exact filed.explained

end

/-! ### Reading it -/

section
variable {log : EventLog} {before recorded behind : List RecordedEvent} {request : AppendRequest} {recordedAt : UInt64}

theorem window_between (before recorded behind : List RecordedEvent) :
    window before.length (before.length + recorded.length) (before ++ recorded ++ behind) = recorded := by
  rw [window_append behind (by rw [List.length_append]), window_behind]

theorem toNat_ofNat_count {count : Nat} (fits : count ≤ isizeMax) : (UInt64.ofNat count).toNat = count := by
  rw [UInt64.toNat_ofNat']
  rw [isizeMax] at fits
  exact Nat.mod_eq_of_lt (by omega)

theorem length_record (store : EventStore) (request : AppendRequest) (recordedAt : UInt64) :
    (store.record request recordedAt).length = request.events.length := List.length_mapIdx

theorem stream_record (store : EventStore) (request : AppendRequest) (recordedAt : UInt64) :
    ∀ event ∈ store.record request recordedAt, event.streamId = request.streamId := by
  intro event member
  obtain ⟨i, inside, same⟩ := List.mem_mapIdx.mp member
  rw [← same]
  rfl

theorem getElem?_record (store : EventStore) (request : AppendRequest) (recordedAt : UInt64) {i : Nat}
    (inside : i < request.events.length) :
    (store.record request recordedAt)[i]? = some (recordOf request.streamId recordedAt
      (UInt64.ofNat (store.events.length + i))
      (UInt64.ofNat ((streamEvents request.streamId store.events).length + i)) (request.events.get ⟨i, inside⟩)) := by
  rw [EventStore.record, List.getElem?_mapIdx, List.getElem?_eq_getElem inside]
  rfl

theorem respond_record (store : EventStore) (request : AppendRequest) (recordedAt : UInt64)
    (present : request.events ≠ []) :
    EventfoldService.respond (store.record request recordedAt) = ok
      { firstStreamVersion := UInt64.ofNat (streamEvents request.streamId store.events).length
        lastStreamVersion :=
          UInt64.ofNat ((streamEvents request.streamId store.events).length + (request.events.length - 1))
        firstGlobalPosition := UInt64.ofNat store.events.length
        lastGlobalPosition := UInt64.ofNat (store.events.length + (request.events.length - 1)) } := by
  have some := List.length_pos_of_ne_nil present
  rw [EventfoldService.respond, index, getElem?_record store request recordedAt some, ok_bind, index, length_record,
    getElem?_record store request recordedAt (Nat.sub_one_lt_of_lt some)]
  rfl

theorem proto_record {parser : UuidParser} {message : Proto.AppendRequest} {response : Proto.AppendResponse}
    (store : EventStore) (recordedAt : UInt64) (passed : EventfoldService.request parser message = .ok request)
    (position : response.firstGlobalPosition = UInt64.ofNat store.events.length)
    (version : response.firstStreamVersion = UInt64.ofNat (streamEvents request.streamId store.events).length) :
    (store.record request recordedAt).map recordedToProto = sent parser message response recordedAt := by
  obtain ⟨parsed, converted⟩ := request_ok passed
  have each : (store.record request recordedAt).map recordedToProto = request.events.mapIdx fun i proposed =>
      recordedToProto (recordOf request.streamId recordedAt (UInt64.ofNat (store.events.length + i))
        (UInt64.ofNat ((streamEvents request.streamId store.events).length + i)) proposed) := by
    apply List.ext_getElem?
    intro i
    simp only [EventStore.record, List.getElem?_map, List.getElem?_mapIdx, Option.map_map, Function.comp_def]
  rw [each, sent]
  refine (mapIdx_converted converted _ _ ?_).symm
  intro i given event same
  obtain ⟨eventId, eventType, metadata, payload⟩ := converted_ok same
  rw [eventId, eventType, metadata, payload, shown_of_parsed parsed, position, version, ← UInt64.ofNat_add,
    ← UInt64.ofNat_add]
  rfl

theorem Placed.readsBack {parser : UuidParser} {message : Proto.AppendRequest} (wellFormed : WellFormed log)
    (canonical : Canonical log) (placed : Placed log.events request recorded)
    (passed : EventfoldService.request parser message = .ok request) :
    ∃ response, EventfoldService.respond recorded = ok response ∧ ReadsBack parser log message response := by
  obtain ⟨before, behind, recordedAt, split, numbered⟩ := placed
  have present := EventfoldService.request_filled parser message request passed
  have positive := List.length_pos_of_ne_nil present
  obtain ⟨parsed, converted⟩ := request_ok passed
  have count : message.events.length = request.events.length := by
    have same := mapIdx_converted converted (fun _ _ => ()) (fun _ _ => ()) (fun _ _ _ _ => rfl)
    simpa using congrArg List.length same
  have length : recorded.length = request.events.length := by rw [numbered, length_record]
  have capacity := wellFormed.capacity
  rw [split, List.length_append, List.length_append, length] at capacity
  -- the events of the stream split as the log does
  have stream : streamEvents request.streamId log.events =
      streamEvents request.streamId before ++ recorded ++ streamEvents request.streamId behind := by
    rw [split, streamEvents_append, streamEvents_append, streamEvents_self request.streamId recorded]
    rw [numbered]
    exact stream_record _ _ _
  have fewer : (streamEvents request.streamId before).length ≤ before.length := List.length_filter_le ..
  have countExact : (UInt64.ofNat message.events.length).toNat = recorded.length := by
    rw [count, length, toNat_ofNat_count (by omega)]
  have positionExact : (UInt64.ofNat before.length).toNat = before.length := toNat_ofNat_count (by omega)
  have versionExact : (UInt64.ofNat (streamEvents request.streamId before).length).toNat =
      (streamEvents request.streamId before).length := toNat_ofNat_count (by omega)
  have responded := respond_record (EventStore.start before) request recordedAt present
  rw [← numbered] at responded
  refine ⟨_, responded, ?_, ?_, recordedAt, ?_, ?_⟩
  · show (UInt64.ofNat (before.length + (request.events.length - 1))).toNat + 1 = (UInt64.ofNat before.length).toNat + _
    rw [positionExact, toNat_ofNat_count (by omega), count]
    omega
  · show (UInt64.ofNat ((streamEvents request.streamId before).length + (request.events.length - 1))).toNat + 1 =
      (UInt64.ofNat (streamEvents request.streamId before).length).toNat + _
    rw [versionExact, toNat_ofNat_count (by omega), count]
    omega
  · rw [← proto_record (EventStore.start before) recordedAt passed rfl rfl, ← numbered, EventfoldService.readAll,
      Reader.readAll_eq wellFormed]
    dsimp only [EventStore.start]
    rw [positionExact, countExact, split, window_between]
    rfl
  · rw [← proto_record (EventStore.start before) recordedAt passed rfl rfl, ← numbered, EventfoldService.readStream, parsed]
    dsimp only [EventStore.start]
    rcases Paging.readStream_found wellFormed canonical request.streamId
        (UInt64.ofNat (streamEvents request.streamId before).length) (UInt64.ofNat message.events.length) with
      ⟨empty, _⟩ | ⟨_, read⟩
    · rw [stream, List.append_eq_nil_iff, List.append_eq_nil_iff] at empty
      rw [empty.1.2, List.length_nil] at length
      omega
    · rw [read, versionExact, countExact, stream, window_between]
      rfl

theorem read_segment {segment : List RecordedEvent} (wellFormed : WellFormed log) (found : Segment log.events segment) :
    ∃ response, EventfoldService.respond segment = ok response ∧
      EventfoldService.readAll log
          ⟨response.firstGlobalPosition, response.lastGlobalPosition - response.firstGlobalPosition + 1⟩ =
        ok ⟨segment.map recordedToProto⟩ := by
  have some := List.length_pos_of_ne_nil found.present
  obtain ⟨before, behind, split⟩ := found.contiguous
  have capacity := wellFormed.capacity
  have positions := wellFormed.positions
  rw [← split, List.length_append, List.length_append, isizeMax] at capacity
  rw [← split, List.append_assoc, numbered_append, numbered_append] at positions
  have atFirst := List.getElem?_eq_getElem some
  have atLast := List.getElem?_eq_getElem (Nat.sub_one_lt_of_lt some)
  refine ⟨_, by rw [EventfoldService.respond, index, atFirst, ok_bind, index, atLast, ok_bind]; rfl, ?_⟩
  have start := positions.2.1.getElem? atFirst
  have span := numbered_span positions.2.1 atFirst atLast
  have count : (segment[segment.length - 1].globalPosition - segment[0].globalPosition + 1).toNat = segment.length := by
    rw [UInt64.toNat_add, span]
    have one : (1 : UInt64).toNat = 1 := rfl
    rw [one, Nat.mod_eq_of_lt (by omega)]
    omega
  rw [EventfoldService.readAll, Reader.readAll_eq wellFormed]
  dsimp only
  rw [count, start, Nat.zero_add, Nat.add_zero, ← split, window_between]
  rfl

end

structure Confirmed (parser : UuidParser) (task : Task) (answer : Answer) (recorded : List RecordedEvent)
    (message : Proto.AppendRequest) (response : Proto.AppendResponse) : Prop where
  responds : EventfoldService.append parser (fun _ => answer.result) message = ok response
  /-- The events of the answer are read at the positions of the response. -/
  reads : EventfoldService.readAll task.writer.store.log
      ⟨response.firstGlobalPosition, response.lastGlobalPosition - response.firstGlobalPosition + 1⟩ =
    ok ⟨recorded.map recordedToProto⟩
  /-- They are those of the message, or the first event id of the message was known. -/
  fresh : written answer = some recorded ∧ ReadsBack parser task.writer.store.log message response ∨
    written answer = none ∧ ∃ first rest, message.events = first :: rest ∧
      shown parser first.eventId ∈ recorded.map fun event => (recordedToProto event).eventId

theorem reads_of_explained {parser : UuidParser} {log : EventLog} {recorded : List RecordedEvent} {answer : Answer}
    {message : Proto.AppendRequest} (wellFormed : WellFormed log) (canonical : Canonical log)
    (segment : Segment log.events recorded) (explained : Explained log.events answer recorded)
    (passed : EventfoldService.request parser message = .ok answer.ticket.request) :
    ∃ response, EventfoldService.respond recorded = ok response ∧
      EventfoldService.readAll log
          ⟨response.firstGlobalPosition, response.lastGlobalPosition - response.firstGlobalPosition + 1⟩ =
        ok ⟨recorded.map recordedToProto⟩ ∧
      (written answer = some recorded ∧ ReadsBack parser log message response ∨
        written answer = none ∧ ∃ first rest, message.events = first :: rest ∧
          shown parser first.eventId ∈ recorded.map fun event => (recordedToProto event).eventId) := by
  obtain ⟨response, responded, reads⟩ := read_segment wellFormed segment
  refine ⟨response, responded, reads, ?_⟩
  rcases explained with ⟨isWritten, placed⟩ | ⟨nothing, first, rest, events, known⟩
  · obtain ⟨other, again, readsBack⟩ := placed.readsBack wellFormed canonical passed
    rw [responded] at again
    cases again
    exact .inl ⟨isWritten, readsBack⟩
  · obtain ⟨given, others, split, shownId⟩ := first_converted passed events
    refine .inr ⟨nothing, given, others, split, ?_⟩
    obtain ⟨event, here, same⟩ := List.mem_map.mp known
    rw [shownId, ← same]
    exact List.mem_map.mpr ⟨event, here, rfl⟩

theorem Filed.confirmed {parser : UuidParser} {recovered recorded : List RecordedEvent} {task : Task} {answer : Answer}
    {message : Proto.AppendRequest} (filed : Filed recovered task) (member : answer ∈ task.answers)
    (isOk : answer.result = .ok recorded)
    (passed : EventfoldService.request parser message = .ok answer.ticket.request) :
    ∃ response, Confirmed parser task answer recorded message response := by
  have given : answer ∈ answered task := List.mem_append_left _ member
  obtain ⟨response, responded, reads, fresh⟩ := reads_of_explained filed.segmented.wellFormed filed.canonical
    (filed.segmented.answers answer given recorded isOk) (filed.explained answer given recorded isOk) passed
  refine ⟨response, ?_, reads, fresh⟩
  rw [EventfoldService.append, passed, isOk]
  exact responded

/-- For any requests with events, any faults of the disk, and every success that was answered up to now,
however much has been appended since. -/
theorem append_reads_back (crc : Crc32fast) (store : Store) (dedupCapacity : Nat) (task : Task)
    (wellFormed : WellFormed store.log) (canonical : Canonical store.log)
    (run : Reaches (Task.next crc) Task.Filled (Task.start (Writer.spawn store dedupCapacity)) task)
    (parser : UuidParser)
    (message : Proto.AppendRequest) (answer : Answer) (member : answer ∈ task.answers) (recorded : List RecordedEvent)
    (isOk : answer.result = .ok recorded)
    (passed : EventfoldService.request parser message = .ok answer.ticket.request) :
    ∃ response, Confirmed parser task answer recorded message response := by
  have filed := run.invariant (Filed store.log.events) (filed_start wellFormed canonical dedupCapacity)
    (fun before step after holds permitted moved => filed_next holds permitted moved)
  exact filed.confirmed member isOk passed

theorem append_reads_back_first :
    ∃ task parser message response, Reaches (Task.next Crc32fast.ieee) Task.Filled (Task.start freshWriter) task ∧
      task.answers = [firstAnswer] ∧ message.events.length = 1 ∧
      Confirmed parser task firstAnswer firstBatch.events message response := by
  have run : Reaches (Task.next Crc32fast.ieee) Task.Filled (Task.start freshWriter)
      (idle (firstWriter Crc32fast.ieee) [firstAnswer] 1 0) :=
    reaches_answer (fun task _ calm _ _ => calm.filled task (List.cons_ne_nil _ _)) (serve_first Crc32fast.ieee)
  let parser : UuidParser := fun text => .ok (if text = "s" then idOf 0 else idOf 1)
  let event := plainEvent 1
  let message : Proto.AppendRequest :=
    ⟨"s", some ⟨some .any⟩, [⟨"e", event.eventType, event.metadata, event.payload⟩]⟩
  obtain ⟨response, confirmed⟩ := append_reads_back Crc32fast.ieee Store.create 4 _ wellFormed_empty rfl run parser message
    firstAnswer (List.mem_singleton.mpr rfl) firstBatch.events rfl rfl
  exact ⟨_, parser, message, response, run, rfl, rfl, confirmed⟩

end ServiceReads

end EventfoldDb
