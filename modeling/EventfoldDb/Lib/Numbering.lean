import Mathlib.Data.List.Nodup

/-! Lists whose elements carry their own index, counted from a given start, and the index
lists of a sublist picked out by a predicate. -/

namespace Numbering
variable {α : Type}

/-- The elements carry the numbers `start`, `start + 1`, ... in order. -/
def Numbered (number : α → Nat) (start : Nat) (items : List α) : Prop :=
  items.map number = List.range' start items.length

variable {number : α → Nat} {start : Nat}

theorem Numbered.nil : Numbered number start [] := rfl

theorem numbered_cons {item : α} {items : List α} :
    Numbered number start (item :: items) ↔ number item = start ∧ Numbered number (start + 1) items := by
  simp only [Numbered, List.map_cons, List.length_cons, List.range'_succ, List.cons.injEq]

theorem numbered_append {first second : List α} :
    Numbered number start (first ++ second) ↔
      Numbered number start first ∧ Numbered number (start + first.length) second := by
  induction first generalizing start with
  | nil => simp [Numbered.nil]
  | cons item first ih =>
    rw [List.cons_append, numbered_cons, numbered_cons, ih, List.length_cons, and_assoc,
      Nat.add_right_comm, Nat.add_assoc start first.length 1]

theorem Numbered.getElem {items : List α} (numbered : Numbered number start items) (i : Nat)
    (inside : i < items.length) : number items[i] = start + i := by
  have at_i := congrArg (fun numbers : List Nat => numbers[i]?) numbered
  simpa [inside] using at_i

theorem Numbered.getElem? {items : List α} (numbered : Numbered number start items) {i : Nat} {item : α}
    (found : items[i]? = some item) : number item = start + i := by
  obtain ⟨inside, same⟩ := List.getElem?_eq_some_iff.mp found
  rw [← same, numbered.getElem i inside]

theorem numbered_iff_getElem? {items : List α} :
    Numbered number start items ↔ ∀ i item, items[i]? = some item → number item = start + i := by
  constructor
  · intro numbered i item found
    exact numbered.getElem? found
  · intro each
    induction items generalizing start with
    | nil => exact Numbered.nil
    | cons item items ih =>
      refine numbered_cons.mpr ⟨each 0 item rfl, ih ?_⟩
      intro i other found
      rw [each (i + 1) other found, Nat.add_assoc, Nat.add_comm 1 i]

theorem Numbered.getElem?_of_mem {items : List α} (numbered : Numbered number 0 items) {item : α}
    (member : item ∈ items) : items[number item]? = some item := by
  obtain ⟨i, found⟩ := List.mem_iff_getElem?.mp member
  have at_i := numbered.getElem? found
  rwa [at_i, Nat.zero_add]

/-- Picking elements by a predicate picks the indices where the predicate holds. -/
theorem Numbered.filter {items : List α} (numbered : Numbered number start items) (pick : α → Bool) :
    (items.filter pick).map number = items.findIdxs pick start := by
  induction items generalizing start with
  | nil => rfl
  | cons item items ih =>
    obtain ⟨head, tail⟩ := numbered_cons.mp numbered
    rw [List.findIdxs_cons, List.filter_cons]
    by_cases picked : pick item = true
    · rw [if_pos picked, if_pos picked, List.map_cons, ih tail, head]
    · rw [if_neg picked, if_neg picked, ih tail]

theorem Numbered.nodup {items : List α} (numbered : Numbered number start items) : items.Nodup := by
  apply List.Nodup.of_map number
  rw [numbered]
  exact List.nodup_range'

theorem Numbered.take {items : List α} (numbered : Numbered number start items) (count : Nat) :
    Numbered number start (items.take count) := by
  rw [← List.take_append_drop count items, numbered_append] at numbered
  exact numbered.1

end Numbering
