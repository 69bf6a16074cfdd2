import Mathlib.Data.Finset.Card
import Mathlib.Data.List.Dedup
import Mathlib.Data.List.Nodup

/-! A bounded cache that evicts the least recently used key. It is kept as its entries in the
order of their last use, most recent first; no key occurs twice. -/

structure Lru (κ ν : Type) where
  capacity : Nat
  entries : List (κ × ν)
  distinct : (entries.map Prod.fst).Nodup
  bounded : entries.length ≤ capacity

namespace Lru
variable {κ ν : Type} [DecidableEq κ]

def without (key : κ) (entries : List (κ × ν)) : List (κ × ν) := entries.filter (·.1 ≠ key)

theorem without_sublist (key : κ) (entries : List (κ × ν)) : (without key entries).Sublist entries :=
  List.filter_sublist

theorem distinct_front {entries : List (κ × ν)} (distinct : (entries.map Prod.fst).Nodup) (key : κ) (value : ν) :
    (((key, value) :: without key entries).map Prod.fst).Nodup := by
  rw [List.map_cons, List.nodup_cons]
  constructor
  · intro member
    obtain ⟨entry, kept, same⟩ := List.mem_map.mp member
    have different := List.of_mem_filter kept
    simp only [ne_eq, decide_not, Bool.not_eq_true', decide_eq_false_iff_not] at different
    exact different same
  · exact distinct.sublist ((without_sublist key entries).map Prod.fst)

def new (capacity : Nat) : Lru κ ν := ⟨capacity, [], List.nodup_nil, Nat.zero_le _⟩

/-- Insert or replace; the key becomes the most recent one, and the oldest may fall out. -/
def put (key : κ) (value : ν) (cache : Lru κ ν) : Lru κ ν where
  capacity := cache.capacity
  entries := ((key, value) :: without key cache.entries).take cache.capacity
  distinct := (distinct_front cache.distinct key value).sublist ((List.take_sublist _ _).map Prod.fst)
  bounded := by
    rw [List.length_take]
    exact Nat.min_le_left _ _

theorem length_front {entries : List (κ × ν)} {entry : κ × ν} {key : κ} (member : entry ∈ entries)
    (same : entry.1 = key) : ((key, entry.2) :: without key entries).length ≤ entries.length := by
  rw [List.length_cons]
  apply List.length_filter_lt_length_iff_exists.mpr
  exact ⟨entry, member, by simpa using same⟩

/-- Look a key up; a key that is found becomes the most recent one. -/
def get (key : κ) (cache : Lru κ ν) : Option ν × Lru κ ν :=
  match here : cache.entries.find? (·.1 = key) with
  | none => (none, cache)
  | some entry =>
      (some entry.2,
        { capacity := cache.capacity
          entries := (key, entry.2) :: without key cache.entries
          distinct := distinct_front cache.distinct key entry.2
          bounded := Nat.le_trans (length_front (List.mem_of_find?_eq_some here) (by simpa using List.find?_some here))
            cache.bounded })

theorem mem_put {key : κ} {value : ν} {cache : Lru κ ν} {entry : κ × ν}
    (member : entry ∈ (cache.put key value).entries) :
    entry = (key, value) ∨ entry.1 ≠ key ∧ entry ∈ cache.entries := by
  rcases List.mem_cons.mp (List.mem_of_mem_take member) with same | kept
  · exact .inl same
  · obtain ⟨old, different⟩ := List.mem_filter.mp kept
    exact .inr ⟨of_decide_eq_true different, old⟩

theorem get_found {key : κ} {value : ν} {cache : Lru κ ν} (found : (cache.get key).1 = some value) :
    (key, value) ∈ cache.entries := by
  rw [get] at found
  split at found
  next => cases found
  next entry here =>
    have same : entry.1 = key := by simpa using List.find?_some here
    have valueEq : entry.2 = value := Option.some.inj found
    have member := List.mem_of_find?_eq_some here
    rw [← same, ← valueEq]
    exact member

theorem mem_get {key : κ} {cache : Lru κ ν} {entry : κ × ν} (member : entry ∈ (cache.get key).2.entries) :
    entry ∈ cache.entries := by
  rw [get] at member
  split at member
  next => exact member
  next found here =>
    rcases List.mem_cons.mp member with same | kept
    · have sameKey : found.1 = key := by simpa using List.find?_some here
      rw [same, ← sameKey]
      exact List.mem_of_find?_eq_some here
    · exact List.mem_of_mem_filter kept

theorem mem_foldl_put {α : Type} {keyOf : α → κ} {valueOf : α → ν} {items : List α} {cache : Lru κ ν} {entry : κ × ν}
    (member : entry ∈ (items.foldl (fun cache item => cache.put (keyOf item) (valueOf item)) cache).entries) :
    (∃ item ∈ items, entry = (keyOf item, valueOf item)) ∨ (entry.1 ∉ items.map keyOf ∧ entry ∈ cache.entries) := by
  induction items generalizing cache with
  | nil => exact .inr ⟨List.not_mem_nil, member⟩
  | cons item items ih =>
    rcases ih member with ⟨later, here, stored⟩ | ⟨notLater, before⟩
    · exact .inl ⟨later, List.mem_cons_of_mem _ here, stored⟩
    · rcases mem_put before with new | ⟨different, old⟩
      · exact .inl ⟨item, List.mem_cons_self .., new⟩
      · rw [List.map_cons, List.mem_cons]
        exact .inr ⟨not_or.mpr ⟨different, notLater⟩, old⟩

/-! ### Recency -/

/-- The key holds the value, and every key that was used more recently is one of `used`. -/
def Recent (used : Finset κ) (key : κ) (value : ν) (cache : Lru κ ν) : Prop :=
  key ∈ used ∧ ∃ front back, cache.entries = front ++ (key, value) :: back ∧ ∀ entry ∈ front, entry.1 ∈ used

theorem get_fst (key : κ) (cache : Lru κ ν) :
    (cache.get key).1 = (cache.entries.find? (·.1 = key)).map Prod.snd := by
  rw [get]
  split <;> simp [*]

theorem get_entries (key : κ) (cache : Lru κ ν) :
    (cache.get key).2.entries =
      match cache.entries.find? (·.1 = key) with
      | none => cache.entries
      | some entry => (key, entry.2) :: without key cache.entries := by
  rw [get]
  split <;> simp [*]

theorem get_missed {key : κ} {cache : Lru κ ν} (missed : (cache.get key).1 = none) : (cache.get key).2 = cache := by
  rw [get] at missed ⊢
  split at missed
  next => simp
  next => cases missed

theorem put_entries (key : κ) (value : ν) (cache : Lru κ ν) :
    (cache.put key value).entries = ((key, value) :: without key cache.entries).take cache.capacity := rfl

@[simp] theorem capacity_get (key : κ) (cache : Lru κ ν) : (cache.get key).2.capacity = cache.capacity := by
  rw [get]
  split <;> rfl

theorem capacity_foldl_put {α : Type} (keyOf : α → κ) (valueOf : α → ν) (items : List α) (cache : Lru κ ν) :
    (items.foldl (fun cache item => cache.put (keyOf item) (valueOf item)) cache).capacity = cache.capacity := by
  induction items generalizing cache with
  | nil => rfl
  | cons item items ih => exact ih _

section
variable {used more : Finset κ} {key other : κ} {value : ν} {cache : Lru κ ν}

omit [DecidableEq κ] in
theorem Recent.mono (recent : Recent used key value cache) (subset : used ⊆ more) : Recent more key value cache := by
  obtain ⟨own, front, back, split, ahead⟩ := recent
  exact ⟨subset own, front, back, split, fun entry member => subset (ahead entry member)⟩

omit [DecidableEq κ] in
theorem Recent.mem (recent : Recent used key value cache) : (key, value) ∈ cache.entries := by
  obtain ⟨_, front, back, split, _⟩ := recent
  rw [split]
  exact List.mem_append_right _ (List.mem_cons_self ..)

omit [DecidableEq κ] in
theorem keys_apart {front back : List (κ × ν)} (split : cache.entries = front ++ (key, value) :: back) :
    ∀ entry ∈ front ++ back, entry.1 ≠ key := by
  have distinct := cache.distinct
  rw [split, List.map_append, List.map_cons] at distinct
  have alone := (List.nodup_middle.mp distinct)
  rw [List.nodup_cons, ← List.map_append] at alone
  intro entry member same
  exact alone.1 (List.mem_map.mpr ⟨entry, member, same⟩)

theorem Recent.get_eq (recent : Recent used key value cache) : (cache.get key).1 = some value := by
  obtain ⟨own, front, back, split, ahead⟩ := recent
  have apart := keys_apart split
  have missing : front.find? (·.1 = key) = none := by
    rw [List.find?_eq_none]
    intro entry member
    simpa using apart entry (List.mem_append_left _ member)
  rw [get_fst, split, List.find?_append, missing, Option.none_or, List.find?_cons_of_pos (by simp)]
  rfl

theorem Recent.moved (recent : Recent used key value cache) (different : other ≠ key) (stored : ν) :
    ∃ front back, (other, stored) :: without other cache.entries = front ++ (key, value) :: back ∧
      (∀ entry ∈ front, entry.1 ∈ insert other used) := by
  obtain ⟨own, front, back, split, ahead⟩ := recent
  refine ⟨(other, stored) :: without other front, without other back, ?_, ?_⟩
  · have kept : decide (key ≠ other) = true := decide_eq_true different.symm
    simp only [without, split, List.filter_append, List.filter_cons, kept, if_true, List.cons_append]
  · intro entry member
    rcases List.mem_cons.mp member with same | kept
    · rw [same]
      exact Finset.mem_insert_self ..
    · exact Finset.mem_insert_of_mem (ahead entry (List.mem_of_mem_filter kept))

theorem Recent.get (recent : Recent used key value cache) (other : κ) :
    Recent (insert other used) key value (cache.get other).2 := by
  have own : key ∈ insert other used := Finset.mem_insert_of_mem recent.1
  cases found : cache.entries.find? (·.1 = other) with
  | none =>
    have missed : (cache.get other).1 = none := by rw [get_fst, found]; rfl
    rw [get_missed missed]
    exact recent.mono (Finset.subset_insert ..)
  | some entry =>
    rw [Recent, get_entries, found]
    refine ⟨own, ?_⟩
    by_cases same : other = key
    · have here := recent.get_eq
      rw [get_fst, ← same, found] at here
      have valueEq : entry.2 = value := Option.some.inj here
      refine ⟨[], without other cache.entries, ?_, fun _ member => absurd member List.not_mem_nil⟩
      dsimp only
      rw [same, valueEq, List.nil_append]
    · exact recent.moved same entry.2

theorem length_le_card {entries : List (κ × ν)} (distinct : (entries.map Prod.fst).Nodup)
    (inside : ∀ entry ∈ entries, entry.1 ∈ used) : entries.length ≤ used.card := by
  rw [← List.length_map Prod.fst, ← List.toFinset_card_of_nodup distinct]
  apply Finset.card_le_card
  intro other member
  obtain ⟨entry, here, same⟩ := List.mem_map.mp (List.mem_toFinset.mp member)
  exact same ▸ inside entry here

/-- As long as the keys in use fit in the cache, storing another key does not push this one out. -/
theorem Recent.put_other (recent : Recent used key value cache) (different : other ≠ key) (stored : ν)
    (room : (insert other used).card ≤ cache.capacity) :
    Recent (insert other used) key value (cache.put other stored) := by
  have own : key ∈ insert other used := Finset.mem_insert_of_mem recent.1
  obtain ⟨front, back, split, ahead⟩ := recent.moved different stored
  have distinct := distinct_front cache.distinct other stored
  rw [split, List.append_cons] at distinct
  have fits : (front ++ [(key, value)]).length ≤ cache.capacity := by
    refine Nat.le_trans (length_le_card ?_ ?_) room
    · rw [List.map_append] at distinct
      exact distinct.of_append_left
    · intro entry member
      rcases List.mem_append.mp member with before | here
      · exact ahead entry before
      · rw [List.mem_singleton.mp here]
        exact own
  refine ⟨own, front, back.take (cache.capacity - (front.length + 1)), ?_, ahead⟩
  rw [put_entries, split, List.append_cons, List.take_append, List.take_of_length_le fits]
  simp

theorem recent_put_self (room : 1 ≤ cache.capacity) : Recent {key} key value (cache.put key value) := by
  obtain ⟨capacity, rest⟩ := Nat.exists_eq_add_of_le' room
  refine ⟨Finset.mem_singleton_self key, [], (without key cache.entries).take capacity, ?_,
    fun _ member => absurd member List.not_mem_nil⟩
  rw [put_entries, rest, List.take_succ_cons, List.nil_append]

theorem Recent.foldl_put {α : Type} {keyOf : α → κ} {valueOf : α → ν} {items : List α}
    (recent : Recent used key value cache) (different : ∀ item ∈ items, keyOf item ≠ key)
    (room : (used ∪ (items.map keyOf).toFinset).card ≤ cache.capacity) :
    Recent (used ∪ (items.map keyOf).toFinset) key value
      (items.foldl (fun cache item => cache.put (keyOf item) (valueOf item)) cache) := by
  induction items generalizing cache used with
  | nil => exact recent.mono Finset.subset_union_left
  | cons item items ih =>
    have union : used ∪ ((item :: items).map keyOf).toFinset =
        insert (keyOf item) used ∪ (items.map keyOf).toFinset := by
      rw [List.map_cons, List.toFinset_cons, Finset.union_insert, Finset.insert_union]
    rw [union] at room ⊢
    have first := recent.put_other (different item (List.mem_cons_self ..)) (valueOf item)
      (Nat.le_trans (Finset.card_le_card Finset.subset_union_left) room)
    exact ih first (fun other later => different other (List.mem_cons_of_mem _ later)) room

theorem recent_foldl_put {α : Type} {keyOf : α → κ} {valueOf : α → ν} {items : List α}
    (member : key ∈ items.map keyOf) (room : (items.map keyOf).toFinset.card ≤ cache.capacity) :
    ∃ item ∈ items, keyOf item = key ∧ Recent (items.map keyOf).toFinset key (valueOf item)
      (items.foldl (fun cache item => cache.put (keyOf item) (valueOf item)) cache) := by
  induction items generalizing cache with
  | nil => exact absurd member List.not_mem_nil
  | cons item items ih =>
    have union : ((item :: items).map keyOf).toFinset = {keyOf item} ∪ (items.map keyOf).toFinset := by
      rw [List.map_cons, List.toFinset_cons, Finset.singleton_union]
    rw [union] at room ⊢
    by_cases later : key ∈ items.map keyOf
    · have fits : (items.map keyOf).toFinset.card ≤ (cache.put (keyOf item) (valueOf item)).capacity :=
        Nat.le_trans (Finset.card_le_card Finset.subset_union_right) room
      obtain ⟨last, here, same, recent⟩ := ih later fits
      exact ⟨last, List.mem_cons_of_mem _ here, same, recent.mono Finset.subset_union_right⟩
    · have same : key = keyOf item := by
        rw [List.map_cons, List.mem_cons] at member
        exact member.resolve_right later
      have alone : 1 ≤ cache.capacity := by
        refine Nat.le_trans ?_ room
        rw [Finset.one_le_card]
        exact ⟨keyOf item, Finset.mem_union_left _ (Finset.mem_singleton_self _)⟩
      have stored : Recent {keyOf item} key (valueOf item) (cache.put (keyOf item) (valueOf item)) := by
        rw [same]
        exact recent_put_self alone
      refine ⟨item, List.mem_cons_self .., same.symm, stored.foldl_put ?_ room⟩
      intro other here sameKey
      exact later (List.mem_map.mpr ⟨other, here, sameKey⟩)

end

/-! ### The order of last use

Without a bound on the capacity the entries would be all keys in the order of their last use. A
bounded cache that only stores holds the first entries of that list. -/

section
variable {α : Type} (keyOf : α → κ) (valueOf : α → ν)

/-- Every key stored, latest last use first, with the value stored then. -/
def byLastUse (items : List α) : List (κ × ν) :=
  items.foldl (fun entries item => (keyOf item, valueOf item) :: without (keyOf item) entries) []

theorem byLastUse_snoc (items : List α) (item : α) :
    byLastUse keyOf valueOf (items ++ [item]) =
      (keyOf item, valueOf item) :: without (keyOf item) (byLastUse keyOf valueOf items) := by
  rw [byLastUse, List.foldl_append]
  rfl

theorem distinct_byLastUse (items : List α) : ((byLastUse keyOf valueOf items).map Prod.fst).Nodup := by
  induction items using List.reverseRecOn with
  | nil => exact List.nodup_nil
  | append_singleton items item ih =>
    rw [byLastUse_snoc]
    exact distinct_front ih _ _

theorem take_without {entries : List (κ × ν)} (distinct : (entries.map Prod.fst).Nodup) (key : κ) (bound : Nat) :
    (without key (entries.take (bound + 1))).take bound = (without key entries).take bound := by
  induction entries generalizing bound with
  | nil => rw [List.take_nil]
  | cons entry entries ih =>
    rw [List.map_cons, List.nodup_cons] at distinct
    rw [List.take_succ_cons]
    by_cases same : entry.1 = key
    · have apart : without key entries = entries := by
        apply List.filter_eq_self.mpr
        intro other member
        have different : other.1 ≠ key := fun equal => distinct.1 (List.mem_map.mpr ⟨other, member, equal.trans same.symm⟩)
        simpa using different
      have apart' : without key (entries.take bound) = entries.take bound := by
        apply List.filter_eq_self.mpr
        intro other member
        exact List.filter_eq_self.mp apart other (List.mem_of_mem_take member)
      have dropped : ∀ rest, without key (entry :: rest) = without key rest := fun rest =>
        List.filter_cons_of_neg (by simpa using same)
      rw [dropped, dropped, apart, apart', List.take_take, Nat.min_self]
    · have kept : ∀ rest, without key (entry :: rest) = entry :: without key rest := fun rest =>
        List.filter_cons_of_pos (by simpa using same)
      rw [kept, kept]
      cases bound with
      | zero => rw [List.take_zero, List.take_zero]
      | succ bound => rw [List.take_succ_cons, List.take_succ_cons, ih distinct.2]

theorem foldl_put_entries (capacity : Nat) (items : List α) :
    (items.foldl (fun cache item => cache.put (keyOf item) (valueOf item)) (new capacity)).entries =
      (byLastUse keyOf valueOf items).take capacity := by
  induction items using List.reverseRecOn with
  | nil => exact List.take_nil.symm
  | append_singleton items item ih =>
    rw [List.foldl_append, List.foldl_cons, List.foldl_nil, put_entries, ih, capacity_foldl_put, byLastUse_snoc]
    cases capacity with
    | zero => rw [new, List.take_zero, List.take_zero]
    | succ bound =>
      rw [new, List.take_succ_cons, List.take_succ_cons, take_without (distinct_byLastUse keyOf valueOf items)]

theorem dedup_snoc (keys : List κ) (key : κ) : (keys ++ [key]).dedup = keys.dedup.filter (· ≠ key) ++ [key] := by
  induction keys with
  | nil => simp
  | cons other keys ih =>
    by_cases again : other ∈ keys
    · rw [List.cons_append, List.dedup_cons_of_mem (List.mem_append_left _ again), ih, List.dedup_cons_of_mem again]
    · by_cases same : other = key
      · rw [List.cons_append, List.dedup_cons_of_mem (by simp [same]), ih, List.dedup_cons_of_notMem again,
          List.filter_cons_of_neg (by simpa using same)]
      · rw [List.cons_append, List.dedup_cons_of_notMem (by simp [again, same]), ih, List.dedup_cons_of_notMem again,
          List.filter_cons_of_pos (by simpa using same), List.cons_append]

theorem keys_byLastUse (items : List α) :
    (byLastUse keyOf valueOf items).map Prod.fst = (items.map keyOf).dedup.reverse := by
  induction items using List.reverseRecOn with
  | nil => rfl
  | append_singleton items item ih =>
    have others : (without (keyOf item) (byLastUse keyOf valueOf items)).map Prod.fst =
        ((byLastUse keyOf valueOf items).map Prod.fst).filter (· ≠ keyOf item) := by
      rw [List.filter_map]
      rfl
    rw [byLastUse_snoc, List.map_cons, others, ih, List.map_append, List.map_cons, List.map_nil, dedup_snoc,
      List.reverse_append, List.filter_reverse]
    rfl

theorem mem_byLastUse {items : List α} {key : κ} {value : ν} (member : (key, value) ∈ byLastUse keyOf valueOf items) :
    ∃ before item after, items = before ++ item :: after ∧ keyOf item = key ∧ valueOf item = value ∧
      ∀ later ∈ after, keyOf later ≠ key := by
  induction items using List.reverseRecOn with
  | nil => exact absurd member List.not_mem_nil
  | append_singleton items item ih =>
    rw [byLastUse_snoc] at member
    rcases List.mem_cons.mp member with new | old
    · cases new
      exact ⟨items, item, [], rfl, rfl, rfl, fun _ none => absurd none List.not_mem_nil⟩
    · obtain ⟨here, different⟩ := List.mem_filter.mp old
      obtain ⟨before, stored, after, split, sameKey, sameValue, notLater⟩ := ih here
      refine ⟨before, stored, after ++ [item], ?_, sameKey, sameValue, ?_⟩
      · rw [split, List.append_assoc, List.cons_append]
      · intro later place
        rcases List.mem_append.mp place with inAfter | last
        · exact notLater later inAfter
        · rw [List.mem_singleton.mp last]
          exact (of_decide_eq_true different).symm

end

theorem get_isSome (key : κ) (cache : Lru κ ν) : (cache.get key).1.isSome ↔ key ∈ cache.entries.map Prod.fst := by
  rw [get_fst, Option.isSome_map, List.find?_isSome, List.mem_map]
  simp

end Lru
