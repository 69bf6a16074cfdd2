import EventfoldDb.Recovery
import EventfoldDb.Lib.Numbering

/-! What one append does: the records it builds, the four ways it can end, and what each
leaves behind. Everything later about appends goes through `append_cases`. -/

namespace EventfoldDb.AppendSpec
open LittleEndian Outcome CodecRoundTrip Recovery Numbering

/-- The arguments of one call of `Store::append`. -/
structure AppendCall where
  streamId : Uuid
  expectedVersion : ExpectedVersion
  recordedAt : UInt64
  proposedEvents : List ProposedEvent
  deriving DecidableEq, Repr

def prepareCall (crc : Crc32fast) (log : EventLog) (call : AppendCall) :
    Except Error (List RecordedEvent × List UInt8) :=
  log.prepare crc call.streamId call.expectedVersion call.recordedAt call.proposedEvents

def runCall (crc : Crc32fast) (fault : Fault) (store : Store) (call : AppendCall) :
    Outcome Error (List RecordedEvent) × Store :=
  store.append crc fault call.streamId call.expectedVersion call.recordedAt call.proposedEvents

def numberedFrom (streamId : Uuid) (recordedAt : UInt64) :
    UInt64 → UInt64 → List ProposedEvent → List RecordedEvent
  | _, _, [] => []
  | nextGlobal, nextStreamVersion, proposed :: rest =>
      recordOf streamId recordedAt nextGlobal nextStreamVersion proposed ::
        numberedFrom streamId recordedAt (nextGlobal + 1) (nextStreamVersion + 1) rest

theorem recordAll_ok (crc : Crc32fast) (streamId : Uuid) (recordedAt nextGlobal nextStreamVersion : UInt64)
    (proposedEvents : List ProposedEvent) (recorded : List RecordedEvent) (encodedRecords : List UInt8)
    (built : recordAll crc streamId recordedAt nextGlobal nextStreamVersion proposedEvents =
      .ok (recorded, encodedRecords)) :
    recorded = numberedFrom streamId recordedAt nextGlobal nextStreamVersion proposedEvents ∧
      encodedRecords = recordBytes crc recorded ∧ ∀ event ∈ recorded, Admissible event := by
  induction proposedEvents generalizing nextGlobal nextStreamVersion recorded encodedRecords with
  | nil =>
    cases built
    exact ⟨rfl, rfl, by simp⟩
  | cons proposed rest ih =>
    rw [recordAll] at built
    split_ifs at built with noType longType
    dsimp only at built
    split_ifs at built with tooLarge
    split at built
    next recorded' encoded' tailBuilt =>
      obtain ⟨tailEvents, tailBytes, tailAdmissible⟩ := ih _ _ _ _ tailBuilt
      cases built
      refine ⟨by rw [tailEvents, numberedFrom], by rw [tailBytes, recordBytes, recordBytes, List.flatMap_cons], ?_⟩
      intro event member
      rcases List.mem_cons.mp member with same | later
      · rw [length_encodeRecord] at tooLarge
        rw [same]
        exact ⟨List.ne_nil_of_length_pos (Nat.pos_of_ne_zero noType), Nat.le_of_not_lt longType,
          Nat.le_of_not_lt tooLarge⟩
      · exact tailAdmissible event later
    next => cases built

def ValidProposal (proposed : ProposedEvent) : Prop :=
  1 ≤ (asBytes proposed.eventType).length ∧ (asBytes proposed.eventType).length ≤ maxEventTypeLen ∧
    lengthPrefixSize + (fixedBodySize + (asBytes proposed.eventType).length + proposed.metadata.length +
      proposed.payload.length) ≤ maxEventSize

instance (proposed : ProposedEvent) : Decidable (ValidProposal proposed) :=
  inferInstanceAs (Decidable (_ ∧ _ ∧ _))

theorem recordAll_valid (crc : Crc32fast) (streamId : Uuid) (recordedAt nextGlobal nextStreamVersion : UInt64)
    (proposedEvents : List ProposedEvent) (valid : ∀ proposed ∈ proposedEvents, ValidProposal proposed) :
    recordAll crc streamId recordedAt nextGlobal nextStreamVersion proposedEvents =
      .ok (numberedFrom streamId recordedAt nextGlobal nextStreamVersion proposedEvents,
        recordBytes crc (numberedFrom streamId recordedAt nextGlobal nextStreamVersion proposedEvents)) := by
  induction proposedEvents generalizing nextGlobal nextStreamVersion with
  | nil => rfl
  | cons proposed rest ih =>
    obtain ⟨present, typeFits, recordFits⟩ := valid proposed (List.mem_cons_self ..)
    have tail := ih (nextGlobal + 1) (nextStreamVersion + 1)
      (fun other member => valid other (List.mem_cons_of_mem _ member))
    have fits : (encodeRecord crc (recordOf streamId recordedAt nextGlobal nextStreamVersion proposed)).length ≤
        maxEventSize := by
      rw [length_encodeRecord]
      exact recordFits
    rw [recordAll, if_neg (by omega), if_neg (by omega)]
    dsimp only
    rw [if_neg (by omega), tail, numberedFrom]
    rfl

section
variable (streamId : Uuid) (recordedAt nextGlobal nextStreamVersion : UInt64) (proposedEvents : List ProposedEvent)

@[simp] theorem length_numberedFrom :
    (numberedFrom streamId recordedAt nextGlobal nextStreamVersion proposedEvents).length =
      proposedEvents.length := by
  induction proposedEvents generalizing nextGlobal nextStreamVersion with
  | nil => rfl
  | cons proposed rest ih => rw [numberedFrom, List.length_cons, List.length_cons, ih]

theorem numberedFrom_eventIds :
    (numberedFrom streamId recordedAt nextGlobal nextStreamVersion proposedEvents).map (·.eventId) =
      proposedEvents.map (·.eventId) := by
  induction proposedEvents generalizing nextGlobal nextStreamVersion with
  | nil => rfl
  | cons proposed rest ih =>
    rw [numberedFrom, List.map_cons, List.map_cons, ih]
    rfl

theorem numberedFrom_streamId :
    ∀ event ∈ numberedFrom streamId recordedAt nextGlobal nextStreamVersion proposedEvents,
      event.streamId = streamId := by
  induction proposedEvents generalizing nextGlobal nextStreamVersion with
  | nil => simp [numberedFrom]
  | cons proposed rest ih =>
    intro event member
    rcases List.mem_cons.mp member with same | later
    · rw [same]
      rfl
    · exact ih _ _ event later

theorem succ_toNat (word : UInt64) (room : word.toNat + 1 < 2 ^ 64) : (word + 1).toNat = word.toNat + 1 := by
  rw [UInt64.toNat_add]
  exact Nat.mod_eq_of_lt room

theorem numberedFrom_counter (number : RecordedEvent → UInt64) (counter : UInt64 → UInt64 → UInt64)
    (reads : ∀ global version proposed, number (recordOf streamId recordedAt global version proposed) =
      counter global version)
    (counts : ∀ global version, counter (global + 1) (version + 1) = counter global version + 1)
    (room : (counter nextGlobal nextStreamVersion).toNat + proposedEvents.length < 2 ^ 64) :
    Numbered (fun event => (number event).toNat) (counter nextGlobal nextStreamVersion).toNat
      (numberedFrom streamId recordedAt nextGlobal nextStreamVersion proposedEvents) := by
  induction proposedEvents generalizing nextGlobal nextStreamVersion with
  | nil => exact Numbered.nil
  | cons proposed rest ih =>
    rw [List.length_cons] at room
    have next := succ_toNat (counter nextGlobal nextStreamVersion) (by omega)
    rw [← counts] at next
    refine numbered_cons.mpr ⟨by rw [reads], ?_⟩
    rw [← next]
    exact ih (nextGlobal + 1) (nextStreamVersion + 1) (by omega)

theorem numberedFrom_positions (room : nextGlobal.toNat + proposedEvents.length < 2 ^ 64) :
    Numbered (·.globalPosition.toNat) nextGlobal.toNat
      (numberedFrom streamId recordedAt nextGlobal nextStreamVersion proposedEvents) :=
  numberedFrom_counter streamId recordedAt nextGlobal nextStreamVersion proposedEvents (·.globalPosition)
    (fun global _ => global) (fun _ _ _ => rfl) (fun _ _ => rfl) room

theorem numberedFrom_versions (room : nextStreamVersion.toNat + proposedEvents.length < 2 ^ 64) :
    Numbered (·.streamVersion.toNat) nextStreamVersion.toNat
      (numberedFrom streamId recordedAt nextGlobal nextStreamVersion proposedEvents) :=
  numberedFrom_counter streamId recordedAt nextGlobal nextStreamVersion proposedEvents (·.streamVersion)
    (fun _ version => version) (fun _ _ _ => rfl) (fun _ _ => rfl) room

end

/-- The batch an accepted call writes on top of a log. -/
structure Accepts (log : EventLog) (call : AppendCall) (batch : Batch) : Prop where
  versionOk : log.checkExpectedVersion call.streamId call.expectedVersion = .ok ()
  first : batch.first = log.nextGlobal
  events : batch.events = numberedFrom call.streamId call.recordedAt log.nextGlobal
    (log.nextStreamVersion call.streamId) call.proposedEvents

theorem Accepts.length_events {log : EventLog} {call : AppendCall} {batch : Batch}
    (accepts : Accepts log call batch) : batch.events.length = call.proposedEvents.length := by
  rw [accepts.events, length_numberedFrom]

theorem Accepts.eventIds {log : EventLog} {call : AppendCall} {batch : Batch} (accepts : Accepts log call batch) :
    batch.events.map (·.eventId) = call.proposedEvents.map (·.eventId) := by
  rw [accepts.events]
  exact numberedFrom_eventIds _ _ _ _ _

theorem Accepts.stream {log : EventLog} {call : AppendCall} {batch : Batch} (accepts : Accepts log call batch) :
    ∀ event ∈ batch.events, event.streamId = call.streamId := by
  intro event member
  rw [accepts.events] at member
  exact numberedFrom_streamId _ _ _ _ _ event member

theorem prepareCall_ok (crc : Crc32fast) (log : EventLog) (call : AppendCall) (recorded : List RecordedEvent)
    (encodedBatch : List UInt8) (prepared : prepareCall crc log call = .ok (recorded, encodedBatch)) :
    ∃ batch, Accepts log call batch ∧ recorded = batch.events ∧ encodedBatch = batch.encode crc := by
  unfold prepareCall EventLog.prepare at prepared
  split at prepared
  next => cases prepared
  next versionOk =>
    split at prepared
    next => cases prepared
    next recorded' encodedRecords built =>
      obtain ⟨events, bytes, admissible⟩ := recordAll_ok crc _ _ _ _ _ _ _ built
      cases prepared
      refine ⟨⟨log.nextGlobal, recorded, admissible⟩, ⟨versionOk, rfl, events⟩, rfl, ?_⟩
      rw [bytes]
      rfl

theorem admissible_recordOf (streamId : Uuid) (recordedAt nextGlobal nextStreamVersion : UInt64)
    (proposed : ProposedEvent) :
    Admissible (recordOf streamId recordedAt nextGlobal nextStreamVersion proposed) ↔ ValidProposal proposed := by
  constructor
  · intro admissible
    exact ⟨List.length_pos_of_ne_nil admissible.typePresent, admissible.typeFits, admissible.recordFits⟩
  · rintro ⟨present, typeFits, recordFits⟩
    exact ⟨List.ne_nil_of_length_pos present, typeFits, recordFits⟩

theorem admissible_numberedFrom (streamId : Uuid) (recordedAt nextGlobal nextStreamVersion : UInt64)
    (proposedEvents : List ProposedEvent) :
    (∀ event ∈ numberedFrom streamId recordedAt nextGlobal nextStreamVersion proposedEvents, Admissible event) ↔
      ∀ proposed ∈ proposedEvents, ValidProposal proposed := by
  induction proposedEvents generalizing nextGlobal nextStreamVersion with
  | nil => simp [numberedFrom]
  | cons proposed rest ih =>
    rw [numberedFrom, List.forall_mem_cons, List.forall_mem_cons, admissible_recordOf, ih]

/-- The batch that records valid proposals, whether or not the version check lets it through. -/
def batchOf (log : EventLog) (call : AppendCall) (valid : ∀ proposed ∈ call.proposedEvents, ValidProposal proposed) :
    Batch where
  first := log.nextGlobal
  events := numberedFrom call.streamId call.recordedAt log.nextGlobal (log.nextStreamVersion call.streamId)
    call.proposedEvents
  admissible := (admissible_numberedFrom _ _ _ _ _).mpr valid

theorem accepts_batchOf (log : EventLog) (call : AppendCall)
    (valid : ∀ proposed ∈ call.proposedEvents, ValidProposal proposed)
    (versionOk : log.checkExpectedVersion call.streamId call.expectedVersion = .ok ()) :
    Accepts log call (batchOf log call valid) := ⟨versionOk, rfl, rfl⟩

theorem prepareCall_accepts (crc : Crc32fast) {log : EventLog} {call : AppendCall} {batch : Batch}
    (accepts : Accepts log call batch) : prepareCall crc log call = .ok (batch.events, batch.encode crc) := by
  have valid := (admissible_numberedFrom call.streamId call.recordedAt log.nextGlobal
    (log.nextStreamVersion call.streamId) call.proposedEvents).mp (by rw [← accepts.events]; exact batch.admissible)
  rw [prepareCall, EventLog.prepare, accepts.versionOk]
  dsimp only
  rw [recordAll_valid crc _ _ _ _ _ valid, ← accepts.events, ← accepts.first]
  rfl

/-- The bytes a failing append leaves at the end of the file. -/
def Fault.leftover (fault : Fault) (encodedBatch : List UInt8) : List UInt8 :=
  match fault with
  | .none => []
  | .seek => []
  | .write written => encodedBatch.take written
  | .sync => encodedBatch

theorem write_write (file : File) (first second : List UInt8) :
    (file.write first).write second = file.write (first ++ second) := by
  simp [File.write]

theorem write_nil (file : File) : file.write [] = file := by
  cases file
  simp [File.write]

def extended (log : EventLog) (streamId : Uuid) (recorded : List RecordedEvent) : EventLog where
  events := log.events ++ recorded
  streams := pushPositions log.streams streamId (recorded.map (·.globalPosition))

theorem runCall_accepts (crc : Crc32fast) (store : Store) (call : AppendCall) (batch : Batch)
    (accepts : Accepts store.log call batch)
    (fits : store.log.events.length + batch.events.length ≤ isizeMax) :
    runCall crc .none store call = (.ok batch.events,
      { file := (store.file.write (batch.encode crc)).syncAll,
        log := extended store.log call.streamId batch.events }) := by
  have prepared := prepareCall_accepts crc accepts
  unfold prepareCall at prepared
  rw [runCall, Store.append, prepared]
  dsimp only [File.appendBatch]
  rw [EventLog.extend, if_pos fits]
  rfl

theorem runCall_faulty (crc : Crc32fast) (fault : Fault) (store : Store) (call : AppendCall) (batch : Batch)
    (accepts : Accepts store.log call batch) (faulty : fault ≠ .none) :
    runCall crc fault store call = (.err .io,
      { store with file := store.file.write (Fault.leftover fault (batch.encode crc)) }) := by
  have prepared := prepareCall_accepts crc accepts
  unfold prepareCall at prepared
  rw [runCall, Store.append, prepared]
  cases fault with
  | none => exact absurd rfl faulty
  | seek => simp only [File.appendBatch, Fault.leftover, write_nil]
  | write written => rfl
  | sync => rfl

theorem append_cases (crc : Crc32fast) (fault : Fault) (store after : Store) (call : AppendCall)
    (result : Outcome Error (List RecordedEvent)) (ran : runCall crc fault store call = (result, after)) :
    (∃ error, prepareCall crc store.log call = .error error ∧ result = .err error ∧ after = store) ∨
    (∃ batch, Accepts store.log call batch ∧ fault ≠ .none ∧ result = .err .io ∧
      after = { store with file := store.file.write (Fault.leftover fault (batch.encode crc)) }) ∨
    (∃ batch, Accepts store.log call batch ∧ fault = .none ∧ result = .ok batch.events ∧
      store.log.events.length + batch.events.length ≤ isizeMax ∧
      after = { file := (store.file.write (batch.encode crc)).syncAll,
                log := extended store.log call.streamId batch.events }) ∨
    result = .panic := by
  unfold runCall Store.append at ran
  cases prepared : prepareCall crc store.log call with
  | error error =>
    unfold prepareCall at prepared
    rw [prepared] at ran
    cases ran
    exact .inl ⟨error, rfl, rfl, rfl⟩
  | ok pair =>
    obtain ⟨batch, accepts, recordedEq, bytesEq⟩ := prepareCall_ok crc store.log call pair.1 pair.2 prepared
    unfold prepareCall at prepared
    rw [prepared] at ran
    dsimp only at ran
    rw [recordedEq, bytesEq] at ran
    cases fault with
    | none =>
      simp only [File.appendBatch, EventLog.extend] at ran
      by_cases fits : store.log.events.length + batch.events.length ≤ isizeMax
      · rw [if_pos fits] at ran
        cases ran
        exact .inr (.inr (.inl ⟨batch, accepts, rfl, rfl, fits, rfl⟩))
      · rw [if_neg fits] at ran
        cases ran
        exact .inr (.inr (.inr rfl))
    | seek =>
      cases ran
      refine .inr (.inl ⟨batch, accepts, by simp, rfl, ?_⟩)
      simp only [Fault.leftover, write_nil]
    | write written =>
      cases ran
      exact .inr (.inl ⟨batch, accepts, by simp, rfl, rfl⟩)
    | sync =>
      cases ran
      exact .inr (.inl ⟨batch, accepts, by simp, rfl, rfl⟩)

/-! ### Small calls, for concrete runs -/

def idOf (number : Nat) : Uuid := ⟨toBytes 16 number, length_toBytes 16 number⟩

def plainEvent (id : Nat) : ProposedEvent where
  eventId := idOf id
  eventType := "A"
  metadata := []
  payload := []

def plainCall (stream : Nat) (expectedVersion : ExpectedVersion) (ids : List Nat) : AppendCall where
  streamId := idOf stream
  expectedVersion := expectedVersion
  recordedAt := 0
  proposedEvents := ids.map plainEvent

theorem plainCall_valid (stream : Nat) (expectedVersion : ExpectedVersion) (ids : List Nat) :
    ∀ proposed ∈ (plainCall stream expectedVersion ids).proposedEvents, ValidProposal proposed := by
  intro proposed member
  obtain ⟨id, _, same⟩ := List.mem_map.mp member
  rw [← same]
  exact (by decide : 1 ≤ (asBytes "A").length ∧ (asBytes "A").length ≤ maxEventTypeLen ∧
    lengthPrefixSize + (fixedBodySize + (asBytes "A").length + 0 + 0) ≤ maxEventSize)

def plainRecord : RecordedEvent := recordOf (idOf 0) 0 0 0 (plainEvent 1)

theorem plainRecord_admissible : Admissible plainRecord :=
  (admissible_recordOf ..).mpr (plainCall_valid 0 .any [1] _ (List.mem_singleton_self _))

def plainBatch (log : EventLog) (stream : Nat) (expectedVersion : ExpectedVersion) (ids : List Nat) : Batch :=
  batchOf log (plainCall stream expectedVersion ids) (plainCall_valid stream expectedVersion ids)

theorem length_plainBatch (log : EventLog) (stream : Nat) (expectedVersion : ExpectedVersion) (ids : List Nat) :
    (plainBatch log stream expectedVersion ids).events.length = ids.length := by
  rw [plainBatch, batchOf, length_numberedFrom, plainCall, List.length_map]

def firstBatch : Batch := plainBatch EventLog.empty 0 .any [1]

theorem firstBatch_accepted : Accepts EventLog.empty (plainCall 0 .any [1]) firstBatch :=
  accepts_batchOf EventLog.empty _ (plainCall_valid 0 .any [1]) rfl

theorem firstBatch_small : firstBatch.Small := (by decide : 1 < 2 ^ 32)

theorem length_firstBatch_le (crc : Crc32fast) : (firstBatch.encode crc).length ≤ 24 + 1 * maxEventSize :=
  length_encode_le crc firstBatch

def firstLog : EventLog := extended EventLog.empty (idOf 0) firstBatch.events

def secondBatch : Batch := plainBatch firstLog 0 .any [2]

theorem secondBatch_accepted : Accepts firstLog (plainCall 0 .any [2]) secondBatch :=
  accepts_batchOf firstLog _ (plainCall_valid 0 .any [2]) rfl

theorem secondBatch_small : secondBatch.Small := (by decide : 1 < 2 ^ 32)

end EventfoldDb.AppendSpec
