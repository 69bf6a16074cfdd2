import EventfoldDb.Lifecycle
import EventfoldDb.Reader

/-! Five places of the source subtract one from the length of a stream's entry. They are right as
long as no entry is empty, and an entry is empty only after an append of no events. -/

namespace EventfoldDb.StreamEntries
open Outcome Recovery AppendSpec LogInvariant DiskInvariant Lifecycle Machine

def lastVersion : List RecordedEvent → Option UInt64
  | [] => none
  | _ :: others => some (UInt64.ofNat others.length)

/-- Every stream in the index has an event, every version reported is that of its last event,
and a stream without events is unknown everywhere. -/
structure VersionsSafe (store : Store) : Prop where
  entries : ∀ streamId positions, store.log.streams.lookup streamId = some positions → positions ≠ []
  storeVersion : ∀ streamId, store.streamVersion streamId = lastVersion (streamEvents streamId store.log.events)
  readVersion : ∀ streamId, store.log.streamVersion streamId = lastVersion (streamEvents streamId store.log.events)
  listed : ∀ iteration, Iterates store.log.streams iteration → ∀ info ∈ listStreams iteration,
    lastVersion (streamEvents info.streamId store.log.events) = some info.latestVersion
  noStream : ∀ streamId, store.log.checkExpectedVersion streamId .noStream =
    match lastVersion (streamEvents streamId store.log.events) with
    | none => .ok ()
    | some actual => .error (.wrongExpectedVersion "NoStream" (toString actual))
  exact : ∀ streamId n, store.log.checkExpectedVersion streamId (.exact n) =
    match lastVersion (streamEvents streamId store.log.events) with
    | none => .error (.wrongExpectedVersion (toString n) "NoStream")
    | some actual =>
        if actual ≠ n then .error (.wrongExpectedVersion (toString n) (toString actual)) else .ok ()
  missing : ∀ streamId fromVersion maxCount, streamEvents streamId store.log.events = [] →
    store.readStream streamId fromVersion maxCount = err (.streamNotFound streamId)

theorem length_sub_one {events : List RecordedEvent} {first : RecordedEvent} {others : List RecordedEvent}
    (split : events = first :: others) :
    UInt64.ofNat (events.map (·.globalPosition)).length - 1 = UInt64.ofNat others.length := by
  rw [split, List.length_map, List.length_cons, UInt64.ofNat_add]
  exact UInt64.add_sub_cancel _ _

section
variable {log : EventLog} (canonical : Canonical log) (streamId : Uuid)
include canonical

theorem canonical_cases :
    (log.streams.lookup streamId = none ∧ streamEvents streamId log.events = []) ∨
    ∃ positions first others, log.streams.lookup streamId = some positions ∧ positions ≠ [] ∧
      streamEvents streamId log.events = first :: others ∧
      UInt64.ofNat positions.length - 1 = UInt64.ofNat others.length := by
  have found := canonical.lookup streamId
  cases split : streamEvents streamId log.events with
  | nil =>
    rw [split, if_pos rfl] at found
    exact .inl ⟨found, rfl⟩
  | cons first others =>
    rw [split, if_neg (List.cons_ne_nil _ _)] at found
    exact .inr ⟨_, first, others, found, by simp, rfl, length_sub_one rfl⟩

theorem streamVersion_of_canonical :
    log.streamVersion streamId = lastVersion (streamEvents streamId log.events) := by
  rcases canonical_cases canonical streamId with ⟨unknown, none⟩ | ⟨positions, first, others, known, -, split, version⟩
  · rw [EventLog.streamVersion, unknown, none]
    rfl
  · rw [EventLog.streamVersion, known, split, lastVersion, Option.map_some, version]

end

/-! Both checks of an append compare with the version that the read side reports. -/

theorem checkExpectedVersion_noStream (log : EventLog) (streamId : Uuid) :
    log.checkExpectedVersion streamId .noStream =
      match log.streamVersion streamId with
      | none => .ok ()
      | some actual => .error (.wrongExpectedVersion "NoStream" (toString actual)) := by
  rw [EventLog.checkExpectedVersion, EventLog.streamVersion]
  cases log.streams.lookup streamId <;> rfl

theorem checkExpectedVersion_exact (log : EventLog) (streamId : Uuid) (n : UInt64) :
    log.checkExpectedVersion streamId (.exact n) =
      match log.streamVersion streamId with
      | none => .error (.wrongExpectedVersion (toString n) "NoStream")
      | some actual =>
          if actual ≠ n then .error (.wrongExpectedVersion (toString n) (toString actual)) else .ok () := by
  rw [EventLog.checkExpectedVersion, EventLog.streamVersion]
  cases log.streams.lookup streamId <;> rfl

theorem versionsSafe_of_canonical {store : Store} (canonical : Canonical store.log) : VersionsSafe store := by
  constructor
  case entries =>
    intro streamId positions found
    rcases canonical_cases canonical streamId with ⟨unknown, -⟩ | ⟨others, -, -, known, present, -⟩
    · rw [unknown] at found
      cases found
    · rw [known] at found
      exact Option.some.inj found ▸ present
  case storeVersion => exact streamVersion_of_canonical canonical
  case readVersion => exact streamVersion_of_canonical canonical
  case listed =>
    intro iteration iterates info member
    obtain ⟨entry, inMap, same⟩ := List.mem_map.mp (List.mem_mergeSort.mp member)
    have found := (iterates.entries entry.1 entry.2).mp inMap
    rw [← same, ← streamVersion_of_canonical canonical, EventLog.streamVersion, StreamInfo.of, found]
    rfl
  case noStream =>
    intro streamId
    rw [checkExpectedVersion_noStream, streamVersion_of_canonical canonical]
  case exact =>
    intro streamId n
    rw [checkExpectedVersion_exact, streamVersion_of_canonical canonical]
  case missing =>
    intro streamId fromVersion maxCount none
    rcases canonical_cases canonical streamId with ⟨unknown, -⟩ | ⟨positions, first, others, -, -, split, -⟩
    · rw [Store.readStream, unknown]
    · rw [split] at none
      cases none

/-- In every run without empty appends, whatever fails and however often the log is reopened. -/
theorem versions_safe_of_run (crc : Crc32fast) (path file : Option File) (store : Store) (owner : Owner)
    (opened : Store.open crc path = (ok store, file)) (run : Reaches (next crc) Filled (.caller store) owner) :
    VersionsSafe owner.store :=
  versionsSafe_of_canonical (canonical_of_run opened (fun _ _ filled => filled) run)

theorem versions_safe_of_run_two_streams :
    ∃ owner, Reaches (next Crc32fast.ieee) Filled (.caller Store.create) owner ∧
      owner.store.log.events.length = 3 ∧ VersionsSafe owner.store := by
  have run := (reaches_twoStreams Crc32fast.ieee).weaken (fun _ _ clean => clean.1)
  exact ⟨_, run, rfl, versions_safe_of_run Crc32fast.ieee none _ Store.create _ rfl run⟩

def emptied (crc : Crc32fast) : Store :=
  Store.withBatch crc Store.create (idOf 0) (plainBatch EventLog.empty 0 .any [])

theorem feed_empty_append (crc : Crc32fast) :
    feed (next crc) [.append .none (plainCall 0 .any [])] (.caller Store.create) = some (.caller (emptied crc)) := by
  have accepts := accepts_batchOf EventLog.empty _ (plainCall_valid 0 .any []) rfl
  have moved := @next_accepts crc Store.create _ _ accepts (by decide)
  rewrite [feed, moved]
  rfl

theorem emptied_lookup (crc : Crc32fast) : (emptied crc).log.streams.lookup (idOf 0) = some [] := by
  rewrite [emptied, Store.withBatch, extended, lookup_pushPositions_self]
  rfl

/-- An append of no events registers its stream; the version of that stream has wrapped around. -/
theorem empty_append_leaves_empty_entry :
    ∃ owner, feed (next Crc32fast.ieee) [.append .none (plainCall 0 .any [])] (.caller Store.create) = some owner ∧
      owner.store.log.streams.lookup (idOf 0) = some [] ∧
      owner.store.streamVersion (idOf 0) = some (UInt64.ofNat (2 ^ 64 - 1)) ∧
      streamEvents (idOf 0) owner.store.log.events = [] ∧ ¬VersionsSafe owner.store := by
  have empty := emptied_lookup Crc32fast.ieee
  refine ⟨_, feed_empty_append Crc32fast.ieee, empty, ?_, rfl, ?_⟩
  · rewrite [Owner.store, Store.streamVersion, empty]
    rfl
  · intro safe
    exact safe.entries (idOf 0) [] empty rfl

end EventfoldDb.StreamEntries
