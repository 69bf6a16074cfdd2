import EventfoldDb.StreamEntries

/-! What `Store::append` promises: it accepts exactly the requests whose expected version and
events are right, and then adds exactly them; otherwise it changes nothing. -/

namespace EventfoldDb.AppendContract
open Outcome CodecRoundTrip Recovery BatchGrammar AppendSpec LogInvariant DiskInvariant StreamEntries Lifecycle Machine

/-- The expected version, read against the log and not against the index. -/
def VersionMatches (log : EventLog) (streamId : Uuid) : ExpectedVersion → Prop
  | .any => True
  | .noStream => streamEvents streamId log.events = []
  | .exact n => (streamEvents streamId log.events).length = n.toNat + 1

def Fits (proposed : ProposedEvent) : Prop :=
  1 ≤ (asBytes proposed.eventType).length ∧ (asBytes proposed.eventType).length ≤ 256 ∧
    74 + (asBytes proposed.eventType).length + proposed.metadata.length + proposed.payload.length ≤ 65536

def recordedOn (log : EventLog) (call : AppendCall) : List RecordedEvent :=
  call.proposedEvents.mapIdx fun i proposed =>
    recordOf call.streamId call.recordedAt (UInt64.ofNat (log.events.length + i))
      (UInt64.ofNat ((streamEvents call.streamId log.events).length + i)) proposed

structure Adds (crc : Crc32fast) (store : Store) (call : AppendCall) (recorded : List RecordedEvent)
    (after : Store) : Prop where
  numbered : recorded = recordedOn store.log call
  events : after.log.events = store.log.events ++ recorded
  entry : after.log.streams.lookup call.streamId =
    some ((store.log.streams.lookup call.streamId).getD [] ++ recorded.map (·.globalPosition))
  others : ∀ other, other ≠ call.streamId → after.log.streams.lookup other = store.log.streams.lookup other
  file : ∃ envelope, after.file.bytes = store.file.bytes ++ envelope ∧ IsBatch crc envelope recorded

structure Contract (crc : Crc32fast) (store : Store) (call : AppendCall) : Prop where
  accepted : (∃ recorded after, runCall crc .none store call = (ok recorded, after)) ↔
    VersionMatches store.log call.streamId call.expectedVersion ∧ ∀ proposed ∈ call.proposedEvents, Fits proposed
  adds : ∀ recorded after, runCall crc .none store call = (ok recorded, after) → Adds crc store call recorded after
  refused : ∀ error after, runCall crc .none store call = (err error, after) → after = store
  returns : (runCall crc .none store call).1 ≠ panic

theorem fits_iff (proposed : ProposedEvent) : Fits proposed ↔ ValidProposal proposed := by
  simp only [Fits, ValidProposal, maxEventTypeLen, maxEventSize, lengthPrefixSize, fixedBodySize]
  omega

theorem fits_of_accepts {log : EventLog} {call : AppendCall} {batch : Batch} (accepts : Accepts log call batch)
    (proposed : ProposedEvent) (member : proposed ∈ call.proposedEvents) : Fits proposed := by
  have valid := (admissible_numberedFrom call.streamId call.recordedAt log.nextGlobal
    (log.nextStreamVersion call.streamId) call.proposedEvents).mp (by rw [← accepts.events]; exact batch.admissible)
  exact (fits_iff proposed).mpr (valid proposed member)

theorem numberedFrom_eq_mapIdx (streamId : Uuid) (recordedAt : UInt64) (global version : Nat)
    (proposedEvents : List ProposedEvent) :
    numberedFrom streamId recordedAt (UInt64.ofNat global) (UInt64.ofNat version) proposedEvents =
      proposedEvents.mapIdx fun i proposed =>
        recordOf streamId recordedAt (UInt64.ofNat (global + i)) (UInt64.ofNat (version + i)) proposed := by
  induction proposedEvents generalizing global version with
  | nil => rfl
  | cons proposed rest ih =>
    have tail := ih (global + 1) (version + 1)
    rw [UInt64.ofNat_add, UInt64.ofNat_add] at tail
    rw [numberedFrom, List.mapIdx_cons]
    refine congrArg (_ :: ·) (tail.trans ?_)
    congr 1
    funext i proposed
    rw [Nat.add_right_comm, Nat.add_assoc, Nat.add_right_comm version, Nat.add_assoc version]

section
variable {log : EventLog} (canonical : Canonical log)
include canonical

theorem nextStreamVersion_eq (streamId : Uuid) :
    log.nextStreamVersion streamId = UInt64.ofNat (streamEvents streamId log.events).length := by
  rw [EventLog.nextStreamVersion, canonical.lookup streamId]
  by_cases empty : streamEvents streamId log.events = []
  · rw [if_pos empty, empty]
    rfl
  · rw [if_neg empty]
    dsimp only
    rw [List.length_map]

theorem recordedOn_eq {call : AppendCall} {batch : Batch} (accepts : Accepts log call batch) :
    batch.events = recordedOn log call := by
  rw [accepts.events, nextStreamVersion_eq canonical, EventLog.nextGlobal, numberedFrom_eq_mapIdx, recordedOn]

/-- The check in the code counts positions; on such an index it counts events. -/
theorem check_iff (streamId : Uuid) (expected : ExpectedVersion) (room : log.events.length ≤ isizeMax) :
    log.checkExpectedVersion streamId expected = .ok () ↔ VersionMatches log streamId expected := by
  have bound := List.length_filter_le (fun event : RecordedEvent => decide (event.streamId = streamId)) log.events
  have known := canonical_cases canonical streamId
  rw [isizeMax] at room
  cases expected with
  | any => exact iff_of_true rfl trivial
  | noStream =>
    rw [EventLog.checkExpectedVersion, VersionMatches]
    rcases known with ⟨unknown, none⟩ | ⟨positions, first, others, listed, -, split, -⟩
    · rw [unknown, none]
      exact iff_of_true rfl rfl
    · rw [listed, split]
      exact iff_of_false (fun same => by cases same) (List.cons_ne_nil _ _)
  | exact n =>
    rw [EventLog.checkExpectedVersion, VersionMatches]
    rcases known with ⟨unknown, none⟩ | ⟨positions, first, others, listed, -, split, version⟩
    · rw [unknown, none, List.length_nil]
      exact iff_of_false (fun same => by cases same) (Nat.succ_ne_zero _).symm
    · rw [← streamEvents, split, List.length_cons] at bound
      have exactly : (UInt64.ofNat others.length).toNat = others.length := by
        rw [UInt64.toNat_ofNat']
        exact Nat.mod_eq_of_lt (by omega)
      rw [listed, split, List.length_cons]
      dsimp only
      have sameNumber : others.length + 1 = n.toNat + 1 ↔ UInt64.ofNat others.length = n := by
        rw [Nat.add_right_cancel_iff, ← UInt64.toNat_inj, exactly]
      rw [version, sameNumber]
      split_ifs with differs
      · exact iff_of_false (fun same => by cases same) differs
      · exact iff_of_true rfl (not_not.mp differs)

end

theorem runCall_returns (crc : Crc32fast) (store : Store) (call : AppendCall)
    (room : store.log.events.length + call.proposedEvents.length ≤ isizeMax) :
    (runCall crc .none store call).1 ≠ panic := by
  cases prepared : prepareCall crc store.log call with
  | error error =>
    unfold prepareCall at prepared
    rw [runCall, Store.append, prepared]
    simp
  | ok pair =>
    obtain ⟨batch, accepts, -, -⟩ := prepareCall_ok crc store.log call pair.1 pair.2 prepared
    rw [runCall_accepts crc store call batch accepts (by rw [accepts.length_events]; exact room)]
    simp

theorem contract_of_canonical {crc : Crc32fast} {store : Store} {call : AppendCall} (canonical : Canonical store.log)
    (counted : call.proposedEvents.length < 2 ^ 32)
    (room : store.log.events.length + call.proposedEvents.length ≤ isizeMax) : Contract crc store call := by
  have version := check_iff canonical call.streamId call.expectedVersion (by omega)
  constructor
  · constructor
    · rintro ⟨recorded, after, ran⟩
      rcases append_cases crc .none store after call _ ran with
        ⟨error, -, answer, -⟩ | ⟨-, -, faulty, -⟩ | ⟨batch, accepts, -, -, -, -⟩ | answer
      · cases answer
      · exact absurd rfl faulty
      · exact ⟨version.mp accepts.versionOk, fits_of_accepts accepts⟩
      · cases answer
    · rintro ⟨matches', fits⟩
      have valid : ∀ proposed ∈ call.proposedEvents, ValidProposal proposed :=
        fun proposed member => (fits_iff proposed).mp (fits proposed member)
      have accepts := accepts_batchOf store.log call valid (version.mpr matches')
      exact ⟨_, _, runCall_accepts crc store call _ accepts (by rw [accepts.length_events]; exact room)⟩
  · intro recorded after ran
    rcases append_cases crc .none store after call _ ran with
      ⟨error, -, answer, -⟩ | ⟨-, -, faulty, -⟩ | ⟨batch, accepts, -, answer, -, storeEq⟩ | answer
    · cases answer
    · exact absurd rfl faulty
    · cases answer
      have small : batch.Small := by
        rw [Batch.Small, accepts.length_events]
        exact counted
      rw [storeEq]
      exact {
        numbered := recordedOn_eq canonical accepts
        events := rfl
        entry := lookup_pushPositions_self _ _ _
        others := fun other different => lookup_pushPositions_other _ _ other _ different
        file := ⟨batch.encode crc, rfl, isBatch_encode crc batch small⟩ }
    · cases answer
  · intro error after ran
    rcases append_cases crc .none store after call _ ran with
      ⟨error, -, -, same⟩ | ⟨-, -, faulty, -⟩ | ⟨batch, -, -, answer, -, -⟩ | answer
    · exact same
    · exact absurd rfl faulty
    · cases answer
    · cases answer
  · exact runCall_returns crc store call room

def untyped : AppendCall :=
  { plainCall 1 (.exact 1) [] with
    proposedEvents := [plainEvent 4, { plainEvent 5 with eventType := "" }, plainEvent 6] }

/-- Every call with fewer than 2^32 events keeps the contract, in every state that no empty append
led to. -/
theorem append_contract (crc : Crc32fast) (path file : Option File) (store : Store) (owner : Owner)
    (opened : Store.open crc path = (ok store, file)) (run : Reaches (next crc) Filled (.caller store) owner)
    (call : AppendCall) (counted : call.proposedEvents.length < 2 ^ 32)
    (room : owner.store.log.events.length + call.proposedEvents.length ≤ isizeMax) :
    Contract crc owner.store call :=
  contract_of_canonical (canonical_of_run opened (fun _ _ filled => filled) run) counted room

theorem append_contract_two_streams :
    Reaches (next Crc32fast.ieee) Filled (.caller Store.create) (.caller (twoStreams Crc32fast.ieee)) ∧
      Contract Crc32fast.ieee (twoStreams Crc32fast.ieee) (plainCall 1 (.exact 1) [4, 6]) ∧
      Contract Crc32fast.ieee (twoStreams Crc32fast.ieee) untyped ∧
      ∃ error, runCall Crc32fast.ieee .none (twoStreams Crc32fast.ieee) untyped =
        (err error, twoStreams Crc32fast.ieee) := by
  have run := (reaches_twoStreams Crc32fast.ieee).weaken (fun _ _ clean => clean.1)
  have keeps := append_contract Crc32fast.ieee none _ Store.create _ rfl run
  refine ⟨run, keeps _ (by decide) (by decide), keeps untyped (by decide) (by decide), ?_⟩
  exact ⟨_, rfl⟩

theorem runCall_wrongVersion (crc : Crc32fast) (store : Store) (call : AppendCall) (error : Error)
    (wrong : store.log.checkExpectedVersion call.streamId call.expectedVersion = .error error) :
    runCall crc .none store call = (err error, store) := by
  rw [runCall, Store.append, EventLog.prepare, wrong]

/-- After an append of no events to a stream, the stream has no event and `NoStream` is refused. -/
theorem noStream_refused_after_empty_append :
    ∃ owner, feed (next Crc32fast.ieee) [.append .none (plainCall 0 .any [])] (.caller Store.create) = some owner ∧
      VersionMatches owner.store.log (idOf 0) .noStream ∧
      (∀ proposed ∈ (plainCall 0 .noStream [1]).proposedEvents, Fits proposed) ∧
      ∃ expected actual, runCall Crc32fast.ieee .none owner.store (plainCall 0 .noStream [1]) =
        (err (.wrongExpectedVersion expected actual), owner.store) := by
  refine ⟨_, feed_empty_append Crc32fast.ieee, rfl, ?_, "NoStream", toString (UInt64.ofNat 0 - 1), ?_⟩
  · intro proposed member
    exact (fits_iff proposed).mpr (plainCall_valid 0 .noStream [1] proposed member)
  · apply runCall_wrongVersion
    show (emptied Crc32fast.ieee).log.checkExpectedVersion (idOf 0) .noStream = _
    rewrite [EventLog.checkExpectedVersion, emptied_lookup]
    rfl

end EventfoldDb.AppendContract
