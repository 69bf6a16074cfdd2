import EventfoldDb.Writer

/-! What a deduplication index knows right after it was seeded from the log: exactly the event
ids whose last occurrences come latest, as many as fit, each with the event found there. -/

namespace EventfoldDb.SeedWindow

/-- The distinct ids whose last occurrences come latest, the latest first. (`dedup` keeps every id
at the place of its last occurrence.) -/
def seedWindow (capacity : Nat) (events : List RecordedEvent) : List Uuid :=
  (events.map (·.eventId)).dedup.reverse.take capacity

/-- Put without the order: fewer than `capacity` distinct ids occur behind the id's last occurrence. -/
theorem mem_seedWindow (capacity : Nat) (before after : List RecordedEvent) (event : RecordedEvent)
    (last : ∀ later ∈ after, later.eventId ≠ event.eventId) :
    event.eventId ∈ seedWindow capacity (before ++ event :: after) ↔
      (after.map (·.eventId)).toFinset.card < capacity := by
  let laterIds := (after.map (·.eventId)).dedup.reverse
  have absent : event.eventId ∉ after.map (·.eventId) := by
    intro member
    obtain ⟨later, here, same⟩ := List.mem_map.mp member
    exact last later here same
  have absent' : event.eventId ∉ laterIds := by
    simpa only [laterIds, List.mem_reverse, List.mem_dedup] using absent
  have count : laterIds.length = (after.map (·.eventId)).toFinset.card := by
    rw [List.length_reverse, List.card_toFinset]
  obtain ⟨earlier, split⟩ : ∃ earlier, ((before ++ event :: after).map (·.eventId)).dedup.reverse =
      laterIds ++ event.eventId :: earlier := by
    obtain ⟨front, suffix⟩ := List.suffix_union_right (before.map (·.eventId))
      ((event :: after).map (·.eventId)).dedup
    rw [List.map_append, List.dedup_append, ← suffix, List.map_cons, List.dedup_cons_of_notMem absent,
      List.reverse_append, List.reverse_cons, List.append_assoc]
    exact ⟨_, rfl⟩
  rw [seedWindow, split, ← count]
  constructor
  · intro member
    by_contra full
    rw [List.take_append_of_le_length (Nat.le_of_not_lt full)] at member
    exact absent' (List.mem_of_mem_take member)
  · intro room
    rw [List.take_append, List.take_of_length_le (Nat.le_of_lt room)]
    apply List.mem_append_right
    obtain ⟨more, size⟩ := Nat.exists_eq_add_of_lt room
    rw [size, show laterIds.length + more + 1 - laterIds.length = more + 1 by omega, List.take_succ_cons]
    exact List.mem_cons_self ..

theorem seedFromLog_entries (capacity : Nat) (events : List RecordedEvent) :
    ((DedupIndex.new capacity).seedFromLog events).cache.entries =
      (Lru.byLastUse RecordedEvent.eventId (fun event => [event]) events).take capacity :=
  Lru.foldl_put_entries RecordedEvent.eventId (fun event => [event]) capacity events

/-- A check hits exactly inside the window, and a hit is the event at the id's last occurrence. -/
theorem seeded_check (capacity : Nat) (events : List RecordedEvent) (first : ProposedEvent)
    (rest : List ProposedEvent) :
    ((((DedupIndex.new capacity).seedFromLog events).check (first :: rest)).1.isSome ↔
      first.eventId ∈ seedWindow capacity events) ∧
    ∀ batch, (((DedupIndex.new capacity).seedFromLog events).check (first :: rest)).1 = some batch →
      ∃ before event after, events = before ++ event :: after ∧ event.eventId = first.eventId ∧
        (∀ later ∈ after, later.eventId ≠ first.eventId) ∧ batch = [event] := by
  have entries := seedFromLog_entries capacity events
  rw [DedupIndex.check]
  constructor
  · rw [Lru.get_isSome, entries, List.map_take, Lru.keys_byLastUse]
    rfl
  · intro batch found
    have member := Lru.get_found found
    rw [entries] at member
    obtain ⟨before, event, after, split, sameId, stored, last⟩ := Lru.mem_byLastUse _ _ (List.mem_of_mem_take member)
    exact ⟨before, event, after, split, sameId, last, stored.symm⟩

end EventfoldDb.SeedWindow
