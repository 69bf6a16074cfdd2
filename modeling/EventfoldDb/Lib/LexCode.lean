import Mathlib.Data.List.Basic
import Mathlib.Logic.Function.Basic

/-! Codes of fixed width that keep the order of what they encode, such as two hexadecimal digits
for a byte. Writing out a string code by code keeps the lexicographic order of strings of one
length. -/

namespace LexCode
variable {α β : Type} [LT α] [LT β]

theorem append_lt_append_iff {head head' tail tail' : List β} (length : head.length = head'.length) :
    head ++ tail < head' ++ tail' ↔ head < head' ∨ head = head' ∧ tail < tail' := by
  induction head generalizing head' with
  | nil =>
    rw [List.eq_nil_of_length_eq_zero length.symm]
    simp
  | cons item head ih =>
    cases head' with
    | nil => cases length
    | cons item' head' =>
      rw [List.cons_append, List.cons_append, List.cons_lt_cons_iff, List.cons_lt_cons_iff,
        ih (Nat.succ.inj length), List.cons.injEq]
      tauto

/-- All codes have one width, and they are ordered like what they stand for. -/
structure OrderCode (code : α → List β) : Prop where
  width : ∀ left right, (code left).length = (code right).length
  lt_iff : ∀ left right, code left < code right ↔ left < right
  injective : Function.Injective code

section
variable {code : α → List β} (orderCode : OrderCode code) {left right : List α}
include orderCode

theorem OrderCode.length_flatMap (length : left.length = right.length) :
    (left.flatMap code).length = (right.flatMap code).length := by
  induction left generalizing right with
  | nil => rw [List.eq_nil_of_length_eq_zero length.symm]
  | cons item left ih =>
    cases right with
    | nil => cases length
    | cons item' right =>
      rw [List.flatMap_cons, List.flatMap_cons, List.length_append, List.length_append, orderCode.width item item',
        ih (Nat.succ.inj length)]

theorem OrderCode.flatMap_eq_iff (length : left.length = right.length) :
    left.flatMap code = right.flatMap code ↔ left = right := by
  induction left generalizing right with
  | nil =>
    rw [List.eq_nil_of_length_eq_zero length.symm]
    simp
  | cons item left ih =>
    cases right with
    | nil => cases length
    | cons item' right =>
      constructor
      · intro same
        obtain ⟨codes, rest⟩ := List.append_inj same (orderCode.width item item')
        rw [orderCode.injective codes, (ih (Nat.succ.inj length)).mp rest]
      · intro same
        rw [same]

theorem OrderCode.flatMap_lt_iff (length : left.length = right.length) :
    left.flatMap code < right.flatMap code ↔ left < right := by
  induction left generalizing right with
  | nil =>
    rw [List.eq_nil_of_length_eq_zero length.symm]
    simp
  | cons item left ih =>
    cases right with
    | nil => cases length
    | cons item' right =>
      rw [List.flatMap_cons, List.flatMap_cons, append_lt_append_iff (orderCode.width item item'),
        List.cons_lt_cons_iff, orderCode.lt_iff, orderCode.injective.eq_iff, ih (Nat.succ.inj length)]

theorem OrderCode.separated_lt_iff (length : left.length = right.length) (separator : β)
    (irreflexive : ¬separator < separator) (tail tail' : List β) :
    left.flatMap code ++ separator :: tail < right.flatMap code ++ separator :: tail' ↔
      left < right ∨ left = right ∧ tail < tail' := by
  rw [append_lt_append_iff (orderCode.length_flatMap length), orderCode.flatMap_lt_iff length,
    orderCode.flatMap_eq_iff length, List.cons_lt_cons_iff]
  simp [irreflexive]

end

end LexCode
