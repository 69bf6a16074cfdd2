import EventfoldDb.Lifecycle
import EventfoldDb.Reader
import EventfoldDb.UuidOrder

/-! `list_streams` is computed from the index alone, through a hash map and a sort on rendered
ids. It is nevertheless a summary of the events, and the order in which the map hands out its
entries leaves no trace in it. -/

namespace EventfoldDb.StreamSummaries
open Outcome Recovery AppendSpec LogInvariant DiskInvariant Lifecycle Machine UuidOrder

structure Summarises (log : EventLog) (infos : List StreamInfo) : Prop where
  streams : ∀ streamId, (∃ info ∈ infos, info.streamId = streamId) ↔ ∃ event ∈ log.events, event.streamId = streamId
  ordered : infos.Pairwise fun left right => left.streamId.display < right.streamId.display
  orderedBytes : infos.Pairwise fun left right => left.streamId.bytes < right.streamId.bytes
  counts : ∀ info ∈ infos, info.eventCount.toNat = (streamEvents info.streamId log.events).length
  latest : ∀ info ∈ infos, info.latestVersion.toNat + 1 = info.eventCount.toNat ∧
    (streamEvents info.streamId log.events).getLast?.map (·.streamVersion) = some info.latestVersion
  total : (infos.map (·.eventCount.toNat)).sum = log.globalPosition.toNat

/-! ### The order of the map is forgotten -/

theorem iterates_perm {streams : Streams} {first second : List (Uuid × List UInt64)}
    (iterates : Iterates streams first) (iterates' : Iterates streams second) : first.Perm second := by
  apply (List.perm_ext_iff_of_nodup (List.Nodup.of_map _ iterates.distinct)
    (List.Nodup.of_map _ iterates'.distinct)).mpr
  intro entry
  rw [iterates.entries entry.1 entry.2, iterates'.entries entry.1 entry.2]

theorem listStreams_perm (iteration : List (Uuid × List UInt64)) :
    (listStreams iteration).Perm (iteration.map StreamInfo.of) := List.mergeSort_perm _ _

theorem listStreams_sorted (iteration : List (Uuid × List UInt64)) :
    (listStreams iteration).Pairwise fun left right => left.streamId.display ≤ right.streamId.display := by
  let le (left right : StreamInfo) : Bool := decide (left.streamId.display ≤ right.streamId.display)
  have trans : ∀ a b c, le a b = true → le b c = true → le a c = true := by
    intro a b c first second
    exact decide_eq_true (le_trans (of_decide_eq_true first) (of_decide_eq_true second))
  have total : ∀ a b, (le a b || le b a) = true := by
    intro a b
    simpa [le] using le_total a.streamId.display b.streamId.display
  apply (List.pairwise_mergeSort trans total (iteration.map StreamInfo.of)).imp
  intro left right
  exact of_decide_eq_true

theorem listStreams_increasing {streams : Streams} {iteration : List (Uuid × List UInt64)}
    (iterates : Iterates streams iteration) :
    (listStreams iteration).Pairwise fun left right => left.streamId.display < right.streamId.display := by
  have distinct : ((listStreams iteration).map (·.streamId.display)).Nodup := by
    rw [((listStreams_perm iteration).map _).nodup_iff, List.map_map]
    have ids := iterates.distinct.map display_injective
    rwa [List.map_map] at ids
  apply (listStreams_sorted iteration).imp₂ _ (List.pairwise_map.mp distinct)
  intro left right ordered different
  exact lt_of_le_of_ne ordered different

theorem listStreams_unique {streams : Streams} {first second : List (Uuid × List UInt64)}
    (iterates : Iterates streams first) (iterates' : Iterates streams second) :
    listStreams first = listStreams second := by
  have perm : (listStreams first).Perm (listStreams second) :=
    (listStreams_perm first).trans (((iterates_perm iterates iterates').map _).trans (listStreams_perm second).symm)
  apply perm.eq_of_pairwise _ (listStreams_increasing iterates) (listStreams_increasing iterates')
  intro left right _ _ less more
  exact absurd (less.trans more) (lt_irrefl _)

/-! ### The entries tell about the events -/

def entriesOf (log : EventLog) : List (Uuid × List UInt64) :=
  (log.events.map (·.streamId)).dedup.map fun streamId =>
    (streamId, (streamEvents streamId log.events).map (·.globalPosition))

def infoOf (log : EventLog) (streamId : Uuid) : StreamInfo :=
  StreamInfo.of (streamId, (streamEvents streamId log.events).map (·.globalPosition))

theorem mem_streamIds (log : EventLog) (streamId : Uuid) :
    streamId ∈ (log.events.map (·.streamId)).dedup ↔ streamEvents streamId log.events ≠ [] := by
  rw [List.mem_dedup, List.mem_map, ne_eq, streamEvents_eq_nil]
  simp only [ne_eq, not_forall, not_not, exists_prop]

theorem iterates_entriesOf {log : EventLog} (canonical : Canonical log) : Iterates log.streams (entriesOf log) where
  distinct := by
    have ids : (entriesOf log).map Prod.fst = (log.events.map (·.streamId)).dedup := by
      rw [entriesOf, List.map_map]
      exact List.map_id _
    rw [ids]
    exact List.nodup_dedup _
  entries := by
    intro streamId positions
    have known := mem_streamIds log streamId
    rw [canonical.lookup, entriesOf, List.mem_map]
    constructor
    · rintro ⟨other, member, same⟩
      cases same
      rw [if_neg (known.mp member)]
    · intro found
      split_ifs at found with unknown
      cases found
      exact ⟨streamId, known.mpr unknown, rfl⟩

theorem perm_infoOf (log : EventLog) :
    (listStreams (entriesOf log)).Perm ((log.events.map (·.streamId)).dedup.map (infoOf log)) := by
  have perm := listStreams_perm (entriesOf log)
  rwa [entriesOf, List.map_map] at perm

theorem mem_listStreams {log : EventLog} {info : StreamInfo} (member : info ∈ listStreams (entriesOf log)) :
    info = infoOf log info.streamId ∧ streamEvents info.streamId log.events ≠ [] := by
  obtain ⟨streamId, known, rfl⟩ := List.mem_map.mp ((perm_infoOf log).mem_iff.mp member)
  exact ⟨rfl, (mem_streamIds log streamId).mp known⟩

section
variable {log : EventLog} (wellFormed : WellFormed log)
include wellFormed

theorem eventCount_infoOf (streamId : Uuid) :
    (infoOf log streamId).eventCount.toNat = (streamEvents streamId log.events).length := by
  have bound := wellFormed.length_streamEvents_le streamId
  unfold isizeMax at bound
  rw [infoOf, StreamInfo.of, List.length_map, UInt64.toNat_ofNat', Nat.mod_eq_of_lt (by omega)]

theorem latestVersion_infoOf (streamId : Uuid) (present : streamEvents streamId log.events ≠ []) :
    (infoOf log streamId).latestVersion.toNat + 1 = (infoOf log streamId).eventCount.toNat := by
  have count := eventCount_infoOf wellFormed streamId
  have positive := List.length_pos_of_ne_nil present
  have one : 1 ≤ (infoOf log streamId).eventCount := by
    rw [UInt64.le_iff_toNat_le, count]
    exact positive
  have minus : (infoOf log streamId).latestVersion = (infoOf log streamId).eventCount - 1 := rfl
  rw [minus, UInt64.toNat_sub_of_le _ _ one, count]
  exact Nat.sub_add_cancel positive

theorem last_infoOf (streamId : Uuid) (present : streamEvents streamId log.events ≠ []) :
    (streamEvents streamId log.events).getLast?.map (·.streamVersion) = some (infoOf log streamId).latestVersion := by
  have count := eventCount_infoOf wellFormed streamId
  have latest := latestVersion_infoOf wellFormed streamId present
  have atEnd : (streamEvents streamId log.events)[(streamEvents streamId log.events).length - 1]? =
      some ((streamEvents streamId log.events).getLast present) := by
    rw [← List.getLast?_eq_getElem?, List.getLast?_eq_getLast_of_ne_nil present]
  have version := (wellFormed.versions streamId).getElem? atEnd
  rw [List.getLast?_eq_getLast_of_ne_nil present, Option.map_some, Option.some.injEq]
  apply UInt64.toNat_inj.mp
  omega

theorem sum_eventCount :
    ((listStreams (entriesOf log)).map (·.eventCount.toNat)).sum = log.globalPosition.toNat := by
  have bound := wellFormed.capacity
  unfold isizeMax at bound
  have each : ∀ streamId, (infoOf log streamId).eventCount.toNat = (log.events.map (·.streamId)).count streamId := by
    intro streamId
    rw [eventCount_infoOf wellFormed, streamEvents, ← List.countP_eq_length_filter, List.count, List.countP_map]
    congr 1
  calc ((listStreams (entriesOf log)).map (·.eventCount.toNat)).sum
      = (((log.events.map (·.streamId)).dedup.map (infoOf log)).map (·.eventCount.toNat)).sum :=
        ((perm_infoOf log).map _).sum_eq
    _ = ((log.events.map (·.streamId)).dedup.map fun streamId => (log.events.map (·.streamId)).count streamId).sum := by
        rw [List.map_map]
        congr 1
        exact List.map_congr_left (fun streamId _ => each streamId)
    _ = (log.events.map (·.streamId)).length := List.sum_map_count_dedup_eq_length _
    _ = log.globalPosition.toNat := by
        rw [List.length_map, EventLog.globalPosition, UInt64.toNat_ofNat', Nat.mod_eq_of_lt (by omega)]

end

theorem summarises_entriesOf {log : EventLog} (wellFormed : WellFormed log) (canonical : Canonical log) :
    Summarises log (listStreams (entriesOf log)) where
  streams := by
    intro streamId
    have known := mem_streamIds log streamId
    rw [List.mem_dedup, List.mem_map] at known
    rw [known]
    constructor
    · rintro ⟨info, member, rfl⟩
      exact (mem_listStreams member).2
    · intro present
      have listed : infoOf log streamId ∈ (log.events.map (·.streamId)).dedup.map (infoOf log) :=
        List.mem_map_of_mem ((mem_streamIds log streamId).mpr present)
      exact ⟨infoOf log streamId, (perm_infoOf log).mem_iff.mpr listed, rfl⟩
  ordered := listStreams_increasing (iterates_entriesOf canonical)
  orderedBytes := by
    apply (listStreams_increasing (iterates_entriesOf canonical)).imp
    intro left right less
    exact (display_lt_iff _ _).mp less
  counts := by
    intro info member
    rw [(mem_listStreams member).1]
    exact eventCount_infoOf wellFormed info.streamId
  latest := by
    intro info member
    obtain ⟨same, present⟩ := mem_listStreams member
    rw [same]
    exact ⟨latestVersion_infoOf wellFormed info.streamId present, last_infoOf wellFormed info.streamId present⟩
  total := sum_eventCount wellFormed

/-- In every state reached by non-empty appends and reopens without failures: there is one list,
it summarises the log, and every order of the map gives it. -/
theorem list_streams_summarises (crc : Crc32fast) (owner : Owner)
    (run : Reaches (next crc) Clean (.caller Store.create) owner) :
    ∃ infos, Summarises owner.store.log infos ∧
      (∃ iteration, Iterates owner.store.log.streams iteration) ∧
      ∀ iteration, Iterates owner.store.log.streams iteration → listStreams iteration = infos := by
  have wellFormed := wellFormed_of_run (fun _ _ clean => clean.2) run
  have canonical := canonical_of_run (rfl : Store.open crc none = _) (fun _ _ clean => clean.1) run
  have iterates := iterates_entriesOf canonical
  refine ⟨_, summarises_entriesOf wellFormed canonical, ⟨_, iterates⟩, ?_⟩
  intro iteration iterates'
  exact listStreams_unique iterates' iterates

theorem list_streams_summarises_two_streams :
    ∃ owner infos, Reaches (next Crc32fast.ieee) Clean (.caller Store.create) owner ∧
      Summarises owner.store.log infos ∧ (∃ info ∈ infos, info.streamId = idOf 0) ∧
      ∃ info ∈ infos, info.streamId = idOf 1 := by
  have run := reaches_twoStreams Crc32fast.ieee
  obtain ⟨infos, summarises, -⟩ := list_streams_summarises Crc32fast.ieee _ run
  refine ⟨_, infos, run, summarises, (summarises.streams (idOf 0)).mpr ?_, (summarises.streams (idOf 1)).mpr ?_⟩
  · exact ⟨_, List.mem_cons_self .., rfl⟩
  · exact ⟨_, List.mem_cons_of_mem _ (List.mem_cons_self ..), rfl⟩

end EventfoldDb.StreamSummaries
