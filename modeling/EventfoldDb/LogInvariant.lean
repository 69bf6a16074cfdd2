import EventfoldDb.AppendSpec
import EventfoldDb.RecoveryLoop

/-! The representation invariant of the in-memory index. Both code paths that build the
index keep it: the update at the end of `append`, and the commit loop of recovery. -/

namespace EventfoldDb.LogInvariant
open Outcome CodecRoundTrip Recovery RecoveryLoop AppendSpec Numbering

def streamEvents (streamId : Uuid) (events : List RecordedEvent) : List RecordedEvent :=
  events.filter (·.streamId = streamId)

/-- Positions number the log, versions number every stream, and the index lists the positions
of each stream it knows. -/
structure WellFormed (log : EventLog) : Prop where
  positions : Numbered (·.globalPosition.toNat) 0 log.events
  versions : ∀ streamId, Numbered (·.streamVersion.toNat) 0 (streamEvents streamId log.events)
  index : ∀ streamId listed, log.streams.lookup streamId = some listed →
    listed.map (·.toNat) = log.events.findIdxs (·.streamId = streamId)
  indexed : ∀ event ∈ log.events, log.streams.lookup event.streamId ≠ none
  capacity : log.events.length ≤ isizeMax

theorem streamEvents_append (streamId : Uuid) (first second : List RecordedEvent) :
    streamEvents streamId (first ++ second) = streamEvents streamId first ++ streamEvents streamId second :=
  List.filter_append ..

theorem streamEvents_self (streamId : Uuid) (events : List RecordedEvent)
    (same : ∀ event ∈ events, event.streamId = streamId) : streamEvents streamId events = events := by
  apply List.filter_eq_self.mpr
  intro event member
  simpa using same event member

theorem streamEvents_other (streamId other : Uuid) (events : List RecordedEvent) (different : other ≠ streamId)
    (same : ∀ event ∈ events, event.streamId = streamId) : streamEvents other events = [] := by
  apply List.filter_eq_nil_iff.mpr
  intro event member
  rw [same event member]
  simpa using different.symm

theorem streamEvents_eq_nil (streamId : Uuid) (events : List RecordedEvent) :
    streamEvents streamId events = [] ↔ ∀ event ∈ events, event.streamId ≠ streamId := by
  rw [streamEvents, List.filter_eq_nil_iff]
  simp only [decide_eq_true_eq, ne_eq]

theorem wellFormed_empty : WellFormed EventLog.empty where
  positions := Numbered.nil
  versions := fun _ => Numbered.nil
  index := by
    intro streamId listed found
    rw [EventLog.empty, Finmap.lookup_empty] at found
    cases found
  indexed := by simp [EventLog.empty]
  capacity := Nat.zero_le _

theorem findIdxs_streamId_length (streamId : Uuid) (events : List RecordedEvent) :
    (events.findIdxs (·.streamId = streamId)).length = (streamEvents streamId events).length := by
  rw [List.length_findIdxs, List.countP_eq_length_filter, streamEvents]

section
variable {log : EventLog} (wellFormed : WellFormed log)
include wellFormed

theorem WellFormed.length_listed {streamId : Uuid} {listed : List UInt64}
    (found : log.streams.lookup streamId = some listed) :
    listed.length = (streamEvents streamId log.events).length := by
  rw [← findIdxs_streamId_length, ← wellFormed.index streamId listed found, List.length_map]

theorem WellFormed.streamEvents_of_unlisted {streamId : Uuid} (missing : log.streams.lookup streamId = none) :
    streamEvents streamId log.events = [] := by
  apply List.filter_eq_nil_iff.mpr
  intro event member
  have known := wellFormed.indexed event member
  intro same
  rw [decide_eq_true_eq] at same
  exact known (same ▸ missing)

theorem WellFormed.index_getD (streamId : Uuid) :
    ((log.streams.lookup streamId).getD []).map (·.toNat) = log.events.findIdxs (·.streamId = streamId) := by
  cases known : log.streams.lookup streamId with
  | none =>
    have nothing := findIdxs_streamId_length streamId log.events
    rw [wellFormed.streamEvents_of_unlisted known, List.length_nil] at nothing
    exact (List.eq_nil_of_length_eq_zero nothing).symm
  | some listed => exact wellFormed.index streamId listed known

theorem WellFormed.listed_eq {streamId : Uuid} {listed : List UInt64}
    (found : log.streams.lookup streamId = some listed) :
    listed = (streamEvents streamId log.events).map (·.globalPosition) := by
  have picked := wellFormed.positions.filter (fun event => decide (event.streamId = streamId))
  have injective : Function.Injective (fun word : UInt64 => word.toNat) := fun _ _ same => UInt64.toNat_inj.mp same
  apply List.map_injective_iff.mpr injective
  rw [wellFormed.index streamId listed found, List.map_map]
  exact picked.symm

theorem WellFormed.getElem?_listed {streamId : Uuid} {listed : List UInt64} {version : Nat} {position : UInt64}
    (found : log.streams.lookup streamId = some listed) (here : listed[version]? = some position) :
    ∃ event, (streamEvents streamId log.events)[version]? = some event ∧
      log.events[position.toNat]? = some event := by
  rw [wellFormed.listed_eq found, List.getElem?_map, Option.map_eq_some_iff] at here
  obtain ⟨event, inStream, samePosition⟩ := here
  refine ⟨event, inStream, ?_⟩
  rw [← samePosition]
  exact wellFormed.positions.getElem?_of_mem (List.mem_of_mem_filter (List.mem_of_getElem? inStream))

theorem WellFormed.length_streamEvents_le (streamId : Uuid) :
    (streamEvents streamId log.events).length ≤ isizeMax :=
  Nat.le_trans (List.length_filter_le _ _) wellFormed.capacity

theorem WellFormed.nextStreamVersion_toNat (streamId : Uuid) :
    (log.nextStreamVersion streamId).toNat = (streamEvents streamId log.events).length := by
  have bound := wellFormed.length_streamEvents_le streamId
  unfold isizeMax at bound
  cases found : log.streams.lookup streamId with
  | none =>
    simp only [EventLog.nextStreamVersion, found, wellFormed.streamEvents_of_unlisted found]
    rfl
  | some listed =>
    simp only [EventLog.nextStreamVersion, found, wellFormed.length_listed found, UInt64.toNat_ofNat']
    exact Nat.mod_eq_of_lt (by omega)

end

theorem lookup_pushPositions_self (streams : Streams) (streamId : Uuid) (positions : List UInt64) :
    (pushPositions streams streamId positions).lookup streamId =
      some ((streams.lookup streamId).getD [] ++ positions) := Finmap.lookup_insert _

theorem lookup_pushPositions_other (streams : Streams) (streamId other : Uuid) (positions : List UInt64)
    (different : other ≠ streamId) :
    (pushPositions streams streamId positions).lookup other = streams.lookup other :=
  Finmap.lookup_insert_of_ne _ different

/-- What an accepted batch looks like on a well-formed log: it continues both numberings. -/
structure Continues (log : EventLog) (streamId : Uuid) (recorded : List RecordedEvent) : Prop where
  stream : ∀ event ∈ recorded, event.streamId = streamId
  positions : Numbered (·.globalPosition.toNat) log.events.length recorded
  versions : Numbered (·.streamVersion.toNat) (streamEvents streamId log.events).length recorded

theorem Accepts.positions {log : EventLog} {call : AppendCall} {batch : Batch} (accepts : Accepts log call batch)
    (fits : log.events.length + batch.events.length ≤ isizeMax) :
    Numbered (·.globalPosition.toNat) log.events.length batch.events := by
  have count := accepts.length_events
  unfold isizeMax at fits
  have start : log.nextGlobal.toNat = log.events.length := by
    rw [EventLog.nextGlobal, UInt64.toNat_ofNat']
    exact Nat.mod_eq_of_lt (by omega)
  rw [← start, accepts.events]
  apply numberedFrom_positions
  rw [start]
  omega

theorem Accepts.continues {log : EventLog} {call : AppendCall} {batch : Batch} (wellFormed : WellFormed log)
    (accepts : Accepts log call batch) (fits : log.events.length + batch.events.length ≤ isizeMax) :
    Continues log call.streamId batch.events := by
  have count := accepts.length_events
  have streamCount := List.length_filter_le (fun event : RecordedEvent => decide (event.streamId = call.streamId))
    log.events
  refine ⟨accepts.stream, Accepts.positions accepts fits, ?_⟩
  unfold isizeMax at fits
  rw [← wellFormed.nextStreamVersion_toNat, accepts.events]
  apply numberedFrom_versions
  rw [wellFormed.nextStreamVersion_toNat, streamEvents]
  omega

theorem Continues.index_self {log : EventLog} {streamId : Uuid} {recorded : List RecordedEvent}
    (wellFormed : WellFormed log) (continues : Continues log streamId recorded) :
    (((log.streams.lookup streamId).getD [] ++ recorded.map (·.globalPosition)).map (·.toNat)) =
      (log.events ++ recorded).findIdxs (·.streamId = streamId) := by
  have fresh := continues.positions.filter (fun event => decide (event.streamId = streamId))
  have all : recorded.filter (fun event => decide (event.streamId = streamId)) = recorded :=
    streamEvents_self streamId recorded continues.stream
  rw [all] at fresh
  rw [List.findIdxs_append, List.map_append, wellFormed.index_getD, Nat.zero_add, ← fresh, List.map_map]
  rfl

theorem Continues.findIdxs_other {log : EventLog} {streamId other : Uuid} {recorded : List RecordedEvent}
    (continues : Continues log streamId recorded) (different : other ≠ streamId) :
    (log.events ++ recorded).findIdxs (·.streamId = other) = log.events.findIdxs (·.streamId = other) := by
  have untouched : recorded.findIdxs (fun event => decide (event.streamId = other)) (0 + log.events.length) = [] := by
    apply List.findIdxs_eq_nil_iff.mpr
    intro event member
    rw [continues.stream event member]
    simpa using different.symm
  rw [List.findIdxs_append, untouched, List.append_nil]

theorem Continues.wellFormed {log : EventLog} {streamId : Uuid} {recorded : List RecordedEvent}
    (wellFormed : WellFormed log) (continues : Continues log streamId recorded)
    (fits : log.events.length + recorded.length ≤ isizeMax) : WellFormed (extended log streamId recorded) where
  positions := by
    apply numbered_append.mpr
    rw [Nat.zero_add]
    exact ⟨wellFormed.positions, continues.positions⟩
  versions := by
    intro other
    rw [extended, streamEvents_append]
    apply numbered_append.mpr
    refine ⟨wellFormed.versions other, ?_⟩
    rw [Nat.zero_add]
    by_cases same : other = streamId
    · rw [same, streamEvents_self streamId recorded continues.stream]
      exact continues.versions
    · rw [streamEvents_other streamId other recorded same continues.stream]
      exact Numbered.nil
  index := by
    intro other listed found
    rw [extended]
    by_cases same : other = streamId
    · rw [same, extended, lookup_pushPositions_self] at found
      rw [same, ← Option.some.inj found]
      exact continues.index_self wellFormed
    · rw [extended, lookup_pushPositions_other _ _ _ _ same] at found
      rw [continues.findIdxs_other same]
      exact wellFormed.index other listed found
  indexed := by
    intro event member
    rw [extended]
    by_cases same : event.streamId = streamId
    · rw [same, lookup_pushPositions_self]
      simp
    · rw [lookup_pushPositions_other _ _ _ _ same]
      rcases List.mem_append.mp member with old | new
      · exact wellFormed.indexed event old
      · exact absurd (continues.stream event new) same
  capacity := by
    rw [extended, List.length_append]
    exact fits

/-! ### The commit loop of recovery -/

theorem lookup_commit (log : EventLog) (events : List RecordedEvent) (streamId : Uuid) :
    (log.commit events).streams.lookup streamId =
      if streamEvents streamId events = [] then log.streams.lookup streamId
      else some ((log.streams.lookup streamId).getD [] ++ (streamEvents streamId events).map (·.globalPosition)) := by
  induction events generalizing log with
  | nil => rfl
  | cons event events ih =>
    have step : log.commit (event :: events) = (log.push event).commit events := rfl
    rw [step, ih]
    by_cases same : event.streamId = streamId
    · have head : streamEvents streamId (event :: events) = event :: streamEvents streamId events :=
        List.filter_cons_of_pos (by simpa using same)
      rw [head, if_neg (List.cons_ne_nil _ _), List.map_cons, EventLog.push, same, lookup_pushPositions_self]
      split_ifs with none_left
      · rw [none_left, List.map_nil]
      · rw [Option.getD_some, List.append_assoc, List.singleton_append]
    · have head : streamEvents streamId (event :: events) = streamEvents streamId events :=
        List.filter_cons_of_neg (by simpa using same)
      rw [head, EventLog.push, lookup_pushPositions_other _ _ _ _ (Ne.symm same)]

/-- On a non-empty batch of one stream the two index updates agree. -/
theorem commit_eq_extended (log : EventLog) (streamId : Uuid) (recorded : List RecordedEvent)
    (present : recorded ≠ []) (stream : ∀ event ∈ recorded, event.streamId = streamId) :
    log.commit recorded = extended log streamId recorded := by
  have events : (log.commit recorded).events = (extended log streamId recorded).events := commit_events _ _
  have streams : (log.commit recorded).streams = (extended log streamId recorded).streams := by
    apply Finmap.ext_lookup
    intro other
    rw [lookup_commit, extended]
    by_cases same : other = streamId
    · rw [same, streamEvents_self streamId recorded stream, if_neg present, lookup_pushPositions_self]
    · rw [streamEvents_other streamId other recorded same stream, if_pos rfl,
        lookup_pushPositions_other _ _ _ _ same]
  exact EventLog.ext events streams

theorem lookup_recovered (events : List RecordedEvent) (streamId : Uuid) :
    (EventLog.empty.commit events).streams.lookup streamId =
      if streamEvents streamId events = [] then none
      else some ((streamEvents streamId events).map (·.globalPosition)) := by
  rw [lookup_commit, EventLog.empty, Finmap.lookup_empty, Option.getD_none, List.nil_append]

theorem WellFormed.recovered {log : EventLog} (wellFormed : WellFormed log) {events : List RecordedEvent}
    (front : events <+: log.events) : WellFormed (EventLog.empty.commit events) := by
  obtain ⟨rest, split⟩ := front
  have numbered := wellFormed.positions
  rw [← split, numbered_append] at numbered
  constructor
  · rw [commit_events]
    exact numbered.1
  · intro streamId
    have versions := wellFormed.versions streamId
    rw [← split, streamEvents_append, numbered_append] at versions
    rw [commit_events]
    exact versions.1
  · intro streamId listed found
    have picked := numbered.1.filter (fun event => decide (event.streamId = streamId))
    rw [lookup_recovered] at found
    split_ifs at found
    cases found
    rw [commit_events, List.map_map]
    exact picked
  · intro event member
    rw [commit_events] at member
    have present : streamEvents event.streamId events ≠ [] := by
      intro empty
      have := List.filter_eq_nil_iff.mp empty event member
      simp at this
    rw [lookup_recovered, if_neg present]
    simp
  · have bound := wellFormed.capacity
    rw [← split, List.length_append] at bound
    rw [commit_events]
    exact Nat.le_of_add_right_le bound

end EventfoldDb.LogInvariant
