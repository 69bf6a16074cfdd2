import EventfoldDb.Types
import EventfoldDb.Lib.LexCode
import Mathlib.Data.String.Basic

/-! The order of the rendered UUIDs is the order of their raw bytes: every byte is two lowercase
hexadecimal digits, and the hyphens stand at the same places in all of them. -/

namespace EventfoldDb.UuidOrder
open LexCode

def hexByte (byte : UInt8) : List Char := hexDigits false 2 byte.toNat

theorem digitChar_lt_iff {left right : Nat} (leftDigit : left < 16) (rightDigit : right < 16) :
    left.digitChar < right.digitChar ↔ left < right :=
  (by decide : ∀ left right : Fin 16, left.val.digitChar < right.val.digitChar ↔ left.val < right.val)
    ⟨left, leftDigit⟩ ⟨right, rightDigit⟩

theorem digitChar_eq_iff {left right : Nat} (leftDigit : left < 16) (rightDigit : right < 16) :
    left.digitChar = right.digitChar ↔ left = right :=
  (by decide : ∀ left right : Fin 16, left.val.digitChar = right.val.digitChar ↔ left.val = right.val)
    ⟨left, leftDigit⟩ ⟨right, rightDigit⟩

theorem hexByte_eq (byte : UInt8) : hexByte byte = [(byte.toNat / 16).digitChar, (byte.toNat % 16).digitChar] := by
  have bound := byte.toNat_lt
  have high : byte.toNat / 16 % 16 = byte.toNat / 16 := Nat.mod_eq_of_lt (by omega)
  simp [hexByte, hexDigits, high]

theorem hexByte_orderCode : OrderCode hexByte where
  width := by
    intro left right
    rw [hexByte_eq, hexByte_eq]
    rfl
  lt_iff := by
    intro left right
    have leftBound := left.toNat_lt
    have rightBound := right.toNat_lt
    rw [hexByte_eq, hexByte_eq, List.cons_lt_cons_iff, List.cons_lt_cons_iff,
      digitChar_lt_iff (by omega) (by omega), digitChar_eq_iff (by omega) (by omega),
      digitChar_lt_iff (by omega) (by omega), UInt8.lt_iff_toNat_lt]
    simp only [List.not_lt_nil, and_false, or_false]
    omega
  injective := by
    intro left right same
    have leftBound := left.toNat_lt
    have rightBound := right.toNat_lt
    rw [hexByte_eq, hexByte_eq, List.cons.injEq, List.cons.injEq, digitChar_eq_iff (by omega) (by omega),
      digitChar_eq_iff (by omega) (by omega)] at same
    apply UInt8.toNat_inj.mp
    omega

def group (id : Uuid) (start stop : Nat) : List UInt8 := (id.bytes.take stop).drop start

theorem length_group (id : Uuid) (start stop : Nat) (inside : stop ≤ 16) :
    (group id start stop).length = stop - start := by
  rw [group, List.length_drop, List.length_take, id.size, Nat.min_eq_left inside]

theorem group_step (id : Uuid) {start middle stop : Nat} (first : start ≤ middle) (second : middle ≤ stop) :
    group id start stop = group id start middle ++ group id middle stop := by
  have whole : (id.bytes.take stop).take middle = id.bytes.take middle := by
    rw [List.take_take, Nat.min_eq_left second]
  have split := List.take_append_drop (middle - start) ((id.bytes.take stop).drop start)
  rw [List.drop_drop, List.take_drop, Nat.add_sub_cancel' first, whole] at split
  exact split.symm

theorem bytes_groups (id : Uuid) :
    id.bytes = group id 0 4 ++ (group id 4 6 ++ (group id 6 8 ++ (group id 8 10 ++ group id 10 16))) := by
  rw [← group_step id (by decide) (by decide), ← group_step id (by decide) (by decide),
    ← group_step id (by decide) (by decide), ← group_step id (by decide) (by decide), group, List.drop_zero,
    List.take_of_length_le (by rw [id.size])]

theorem display_toList (id : Uuid) :
    id.display.toList = (group id 0 4).flatMap hexByte ++ '-' :: ((group id 4 6).flatMap hexByte ++
      '-' :: ((group id 6 8).flatMap hexByte ++ '-' :: ((group id 8 10).flatMap hexByte ++
        '-' :: (group id 10 16).flatMap hexByte))) := by
  rw [Uuid.display, String.toList_ofList]
  simp only [List.append_assoc, List.cons_append]
  rfl

/-- Rendered ids are ordered like the raw bytes. -/
theorem display_lt_iff (left right : Uuid) : left.display < right.display ↔ left.bytes < right.bytes := by
  have same : ∀ start stop, stop ≤ 16 → (group left start stop).length = (group right start stop).length := by
    intro start stop inside
    rw [length_group left start stop inside, length_group right start stop inside]
  have hyphen : ¬('-' < '-') := by decide
  rw [String.lt_iff_toList_lt, display_toList, display_toList, bytes_groups left, bytes_groups right]
  rw [hexByte_orderCode.separated_lt_iff (same 0 4 (by decide)) '-' hyphen,
    hexByte_orderCode.separated_lt_iff (same 4 6 (by decide)) '-' hyphen,
    hexByte_orderCode.separated_lt_iff (same 6 8 (by decide)) '-' hyphen,
    hexByte_orderCode.separated_lt_iff (same 8 10 (by decide)) '-' hyphen,
    hexByte_orderCode.flatMap_lt_iff (same 10 16 (by decide)), append_lt_append_iff (same 0 4 (by decide)),
    append_lt_append_iff (same 4 6 (by decide)), append_lt_append_iff (same 6 8 (by decide)),
    append_lt_append_iff (same 8 10 (by decide))]

theorem display_injective : Function.Injective Uuid.display := by
  intro left right same
  have notLess : ¬left.bytes < right.bytes := by
    rw [← display_lt_iff, same]
    exact lt_irrefl _
  have notMore : ¬right.bytes < left.bytes := by
    rw [← display_lt_iff, same]
    exact lt_irrefl _
  have bytes : left.bytes = right.bytes := List.le_antisymm (List.not_lt.mp notMore) (List.not_lt.mp notLess)
  cases left
  cases right
  cases bytes
  rfl

end EventfoldDb.UuidOrder
