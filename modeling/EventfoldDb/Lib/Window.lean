import EventfoldDb.Lib.Numbering

/-! The part of a list between two indices, as the list grows at its end. -/

namespace Window
open Numbering
variable {α β : Type}

def window (start stop : Nat) (items : List α) : List α := (items.take stop).drop start

theorem length_window (start stop : Nat) (items : List α) :
    (window start stop items).length = min stop items.length - start := by
  rw [window, List.length_drop, List.length_take]

theorem window_empty {start stop : Nat} (items : List α) (none : stop ≤ start) : window start stop items = [] := by
  apply List.eq_nil_of_length_eq_zero
  rw [length_window]
  omega

theorem window_map (mapped : α → β) (start stop : Nat) (items : List α) :
    window start stop (items.map mapped) = (window start stop items).map mapped := by
  rw [window, ← List.map_take, ← List.map_drop, window]

theorem window_subset (start stop : Nat) (items : List α) : window start stop items ⊆ items :=
  fun _ member => List.mem_of_mem_take (List.mem_of_mem_drop member)

theorem window_clip (start stop : Nat) (items : List α) :
    window (min start items.length) (min stop items.length) items = window start stop items := by
  by_cases beyond : items.length ≤ start
  · rw [Nat.min_eq_right beyond, window_empty items (Nat.min_le_right _ _), eq_comm]
    apply List.eq_nil_of_length_eq_zero
    rw [length_window]
    omega
  · rw [Nat.min_eq_left (by omega), window, window, ← List.take_eq_take_min]

theorem window_append {start stop : Nat} {items : List α} (more : List α) (inside : stop ≤ items.length) :
    window start stop (items ++ more) = window start stop items := by
  rw [window, List.take_append_of_le_length inside, window]

theorem window_behind (first second : List α) :
    window first.length (first.length + second.length) (first ++ second) = second := by
  rw [window, ← List.length_append, List.take_length, List.drop_left]

theorem window_succ {start stop : Nat} {items : List α} {item : α} (first : start ≤ stop)
    (here : items[stop]? = some item) : window start (stop + 1) items = window start stop items ++ [item] := by
  obtain ⟨inside, same⟩ := List.getElem?_eq_some_iff.mp here
  rw [window, List.take_add_one, here, Option.toList_some, List.drop_append_of_le_length, window]
  rw [List.length_take]
  omega

theorem window_shrink (start stop : Nat) (items : List α) :
    window start stop items = window start (start + (window start stop items).length) items := by
  by_cases nothing : min stop items.length ≤ start
  · have empty : window start stop items = [] := List.eq_nil_of_length_eq_zero (by rw [length_window]; omega)
    rw [empty, List.length_nil, Nat.add_zero, window_empty items (Nat.le_refl _)]
  · rw [← window_clip start stop, length_window, Nat.min_eq_left (by omega)]
    congr 1
    omega

def newest (count : Nat) (items : List α) : List α := items.drop (items.length - count)

theorem newest_snoc {count : Nat} (items : List α) (item : α) (positive : 0 < count) :
    (if (newest count items).length ≥ count then (newest count items).drop 1 else newest count items) ++ [item] =
      newest count (items ++ [item]) := by
  have length : (newest count items).length = items.length - (items.length - count) := List.length_drop
  rw [length, newest, newest, List.length_append, List.length_singleton, List.drop_append_of_le_length (by omega)]
  by_cases full : items.length - (items.length - count) ≥ count
  · rw [if_pos full, List.drop_drop]
    congr 2
    omega
  · rw [if_neg full]
    congr 2
    omega

theorem window_cons {start stop : Nat} {items rest : List α} {item : α}
    (here : window start stop items = item :: rest) :
    items[start]? = some item ∧ window (start + 1) stop items = rest := by
  constructor
  · have head := congrArg (fun list : List α => list[0]?) here
    have inside : start < stop := by
      have lengths := congrArg List.length here
      rw [length_window, List.length_cons] at lengths
      omega
    simpa [window, List.getElem?_drop, List.getElem?_take_of_lt inside] using head
  · rw [window, ← List.drop_drop, ← window, here, List.drop_one, List.tail_cons]

theorem mem_window {start stop i : Nat} {items : List α} {item : α} (here : items[i]? = some item)
    (first : start ≤ i) (last : i < stop) : item ∈ window start stop items := by
  have found : (window start stop items)[i - start]? = some item := by
    rw [window, List.getElem?_drop, Nat.add_sub_cancel' first, List.getElem?_take_of_lt last, here]
  exact List.mem_of_getElem? found

theorem Numbered.window {number : α → Nat} {items : List α} (numbered : Numbered number 0 items) (start stop : Nat) :
    Numbered number start (Window.window start stop items) := by
  have kept := numbered.take stop
  rw [Window.window]
  rw [← List.take_append_drop start (items.take stop), numbered_append] at kept
  by_cases inside : start ≤ (items.take stop).length
  · rw [List.length_take_of_le inside, Nat.zero_add] at kept
    exact kept.2
  · rw [List.drop_eq_nil_of_le (by omega)]
    exact Numbered.nil

/-- Picking numbered items by their number is taking a window. -/
theorem filter_between {number : α → Nat} {base : Nat} {items : List α} (numbered : Numbered number base items)
    (start stop : Nat) : items.filter (fun item => decide (start ≤ number item ∧ number item < stop)) =
      Window.window (start - base) (stop - base) items := by
  induction items generalizing base with
  | nil => simp [Window.window]
  | cons item items ih =>
    obtain ⟨here, later⟩ := numbered_cons.mp numbered
    rw [List.filter_cons, here, ih later]
    by_cases low : base < start
    · have startStep : start - base = start - (base + 1) + 1 := by omega
      rw [if_neg (by simp; omega), startStep, Window.window, Window.window]
      cases stopStep : stop - base with
      | zero => simp [show stop - (base + 1) = 0 by omega]
      | succ width => rw [List.take_succ_cons, List.drop_succ_cons, show stop - (base + 1) = width by omega]
    · rw [show start - base = 0 by omega, show start - (base + 1) = 0 by omega, Window.window, Window.window,
        List.drop_zero, List.drop_zero]
      cases stopStep : stop - base with
      | zero => rw [if_neg (by simp; omega), show stop - (base + 1) = 0 by omega, List.take_zero, List.take_zero]
      | succ width => rw [if_pos (by simp; omega), List.take_succ_cons, show stop - (base + 1) = width by omega]

end Window
