import EventfoldDb.RetryWindow

/-! Which event ids the dedup index knows: only those of events in the log, and all of them as long
as it has room for the whole log. -/

namespace EventfoldDb.DedupCoverage
open Outcome Recovery AppendSpec DiskInvariant WriterSpec RetryWindow

def Roomy (writer : Writer) : Prop := writer.store.log.events.length ≤ writer.dedup.cache.capacity

def idsOf (events : List RecordedEvent) : Finset Uuid := (events.map (·.eventId)).toFinset

theorem mem_idsOf {event : RecordedEvent} {events : List RecordedEvent} (member : event ∈ events) :
    event.eventId ∈ idsOf events :=
  List.mem_toFinset.mpr (List.mem_map_of_mem member)

theorem idsOf_append (events more : List RecordedEvent) : idsOf (events ++ more) = idsOf events ∪ idsOf more := by
  rw [idsOf, List.map_append, List.toFinset_append]
  rfl

theorem card_idsOf_le (events : List RecordedEvent) : (idsOf events).card ≤ events.length := by
  rw [← List.length_map (·.eventId)]
  exact List.toFinset_card_le _

/-- The dedup index knows only ids of the log, and all of them when it has the room. -/
structure Covers (writer : Writer) : Prop where
  known : ∀ entry ∈ writer.dedup.cache.entries, entry.1 ∈ idsOf writer.store.log.events
  covered : Roomy writer → ∀ eventId ∈ idsOf writer.store.log.events,
    ∃ batch, Lru.Recent (idsOf writer.store.log.events) eventId batch writer.dedup.cache

theorem mem_spawn {store : Store} {dedupCapacity : Nat} {entry : Uuid × List RecordedEvent}
    (member : entry ∈ (Writer.spawn store dedupCapacity).dedup.cache.entries) :
    ∃ event ∈ store.log.events, entry = (event.eventId, [event]) := by
  rcases Lru.mem_foldl_put member with seeded | ⟨_, none⟩
  · exact seeded
  · exact absurd none List.not_mem_nil

theorem covers_spawn (store : Store) (dedupCapacity : Nat) : Covers (Writer.spawn store dedupCapacity) where
  known := by
    intro entry member
    obtain ⟨event, here, entryEq⟩ := mem_spawn member
    rw [entryEq]
    exact mem_idsOf here
  covered := by
    intro roomy eventId member
    rw [Roomy, capacity_spawn] at roomy
    have room : (idsOf store.log.events).card ≤ dedupCapacity := Nat.le_trans (card_idsOf_le _) roomy
    have stored : ∃ event ∈ store.log.events, event.eventId = eventId ∧
        Lru.Recent (idsOf store.log.events) eventId [event] (Writer.spawn store dedupCapacity).dedup.cache :=
      Lru.recent_foldl_put (List.mem_toFinset.mp member) room
    obtain ⟨event, _, _, recent⟩ := stored
    exact ⟨[event], recent⟩

section
variable {crc : Crc32fast} {fault : Fault} {recordedAt : UInt64} {writer : Writer} {request : AppendRequest}
  {served : Served}

theorem Covers.frame {after : Writer} (covers : Covers writer) (log : after.store.log = writer.store.log)
    (dedup : after.dedup = writer.dedup) : Covers after := by
  constructor
  · rw [log, dedup]
    exact covers.known
  · rw [Roomy, log, dedup]
    exact covers.covered

theorem Covers.cached {found : List RecordedEvent} (covers : Covers writer)
    (hit : (writer.dedup.check request.events).1 = some found) :
    Covers { writer with dedup := (writer.dedup.check request.events).2 } := by
  constructor
  · intro entry member
    exact covers.known entry (check_fewer _ _ member)
  · intro roomy eventId member
    rw [Roomy, capacity_check] at roomy
    obtain ⟨batch, recent⟩ := covers.covered roomy eventId member
    obtain ⟨head, tail, proposed, here⟩ := check_known hit
    have looked := recent.get head.eventId
    rw [Finset.insert_eq_of_mem (covers.known _ here)] at looked
    refine ⟨batch, ?_⟩
    dsimp only
    rw [proposed]
    exact looked

theorem Covers.appended {batch : Batch} {streamId : Uuid} (covers : Covers writer) :
    Covers { store := Store.withBatch crc writer.store streamId batch, dedup := writer.dedup.record batch.events } := by
  have split : idsOf (writer.store.log.events ++ batch.events) = idsOf writer.store.log.events ∪ idsOf batch.events :=
    idsOf_append _ _
  constructor
  · intro entry member
    show entry.1 ∈ idsOf (writer.store.log.events ++ batch.events)
    rw [split, Finset.mem_union]
    rcases Lru.mem_foldl_put member with ⟨event, here, stored⟩ | ⟨_, old⟩
    · rw [stored]
      exact .inr (mem_idsOf here)
    · exact .inl (covers.known entry old)
  · intro roomy eventId member
    rw [Roomy, capacity_record] at roomy
    have room : (idsOf (writer.store.log.events ++ batch.events)).card ≤ writer.dedup.cache.capacity :=
      Nat.le_trans (card_idsOf_le _) roomy
    show ∃ stored, Lru.Recent (idsOf (writer.store.log.events ++ batch.events)) eventId stored _
    by_cases new : eventId ∈ batch.events.map (·.eventId)
    · have small : (idsOf batch.events).card ≤ writer.dedup.cache.capacity := by
        refine Nat.le_trans (Finset.card_le_card ?_) room
        rw [split]
        exact Finset.subset_union_right
      refine ⟨batch.events, (recent_record new small).mono ?_⟩
      rw [split]
      exact Finset.subset_union_right
    · have old : eventId ∈ idsOf writer.store.log.events := by
        change eventId ∈ idsOf (writer.store.log.events ++ batch.events) at member
        rw [split, Finset.mem_union] at member
        exact member.resolve_right (fun here => new (List.mem_toFinset.mp here))
      have shorter : Roomy writer := by
        refine Nat.le_trans ?_ roomy
        show _ ≤ (writer.store.log.events ++ batch.events).length
        rw [List.length_append]
        exact Nat.le_add_right _ _
      obtain ⟨stored, recent⟩ := covers.covered shorter eventId old
      rw [split] at room ⊢
      refine ⟨stored, recent.foldl_put ?_ room⟩
      intro event here same
      exact new (List.mem_map.mpr ⟨event, here, same⟩)

theorem Covers.serve (covers : Covers writer) (how : Serving crc fault recordedAt writer request served)
    (alive : served.result ≠ .panic) : Covers served.writer := by
  cases how with
  | invalid error refused => exact covers
  | cached found unique hit => exact covers.cached hit
  | failed error store unique missed sameLog refused => exact covers.frame sameLog rfl
  | appended batch unique missed accepts fits => exact covers.appended
  | panicked after => exact absurd rfl alive

theorem Covers.hit (covers : Covers writer) (roomy : Roomy writer) {event : RecordedEvent}
    (member : event ∈ writer.store.log.events) {first : ProposedEvent} (same : first.eventId = event.eventId)
    (rest : List ProposedEvent) :
    ∃ batch, (writer.dedup.check (first :: rest)).1 = some batch ∧
      (event.eventId, batch) ∈ writer.dedup.cache.entries := by
  obtain ⟨batch, recent⟩ := covers.covered roomy event.eventId (mem_idsOf member)
  refine ⟨batch, ?_, recent.mem⟩
  rw [DedupIndex.check, same]
  exact recent.get_eq

end

end EventfoldDb.DedupCoverage
