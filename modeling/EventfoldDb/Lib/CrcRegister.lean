import Mathlib.Data.List.Basic
import Mathlib.Logic.Function.Basic

/-! A cyclic redundancy check as a shift register that swallows one byte after the other. When
the polynomial has its top bit no step forgets anything, so inputs that differ in one place
leave the register in different states. -/

/-! ### Folds that forget nothing -/

namespace ReversibleFold
variable {σ β : Type} {step : σ → β → σ}

theorem foldl_injective (reversible : ∀ item, Function.Injective (fun state => step state item)) (items : List β) :
    Function.Injective (fun state => items.foldl step state) := by
  induction items with
  | nil => exact fun _ _ same => same
  | cons item items ih => exact fun _ _ same => reversible item (ih same)

theorem foldl_set_ne (reversible : ∀ item, Function.Injective (fun state => step state item))
    (sensitive : ∀ state, Function.Injective (step state)) (items : List β) (start : σ) (position : Nat)
    (inside : position < items.length) (other : β) (differs : items[position]? ≠ some other) :
    (items.set position other).foldl step start ≠ items.foldl step start := by
  intro same
  have split := List.take_append_drop position items
  rw [List.drop_eq_getElem_cons inside] at split
  rw [List.set_eq_take_append_cons_drop, if_pos inside] at same
  conv_rhs at same => rw [← split]
  rw [List.foldl_append, List.foldl_append, List.foldl_cons, List.foldl_cons] at same
  have unchanged : other = items[position] := sensitive _ (foldl_injective reversible _ same)
  rw [List.getElem?_eq_getElem inside, unchanged] at differs
  exact differs rfl

end ReversibleFold

/-! ### The register -/

namespace CrcRegister

/-- One bit: shift right, and add the polynomial if a one was shifted out. -/
def bitStep (poly crc : UInt32) : UInt32 :=
  if crc &&& 1 = 1 then (crc >>> 1) ^^^ poly else crc >>> 1

def byteStep (poly state : UInt32) (byte : UInt8) : UInt32 :=
  (List.range 8).foldl (fun crc _ => bitStep poly crc) (state ^^^ byte.toUInt32)

theorem odd_iff (crc : UInt32) : crc &&& 1 = 1 ↔ crc.toNat % 2 = 1 := by
  rw [← UInt32.toNat_inj, UInt32.toNat_and]
  exact Iff.of_eq (congrArg (· = 1) (Nat.and_one_is_mod _))

theorem toNat_shift (crc : UInt32) : (crc >>> 1).toNat = crc.toNat / 2 := by
  rw [UInt32.toNat_shiftRight]
  rfl

theorem bitStep_top (poly crc : UInt32) (top : poly.toNat.testBit 31 = true) :
    (bitStep poly crc).toNat.testBit 31 = decide (crc.toNat % 2 = 1) := by
  have cleared : (crc >>> 1).toNat.testBit 31 = false := by
    have bound := crc.toNat_lt
    rw [toNat_shift]
    exact Nat.testBit_lt_two_pow (by omega)
  unfold bitStep
  by_cases odd : crc &&& 1 = 1
  · rw [if_pos odd, UInt32.toNat_xor, Nat.testBit_xor, cleared, top]
    simp [(odd_iff crc).mp odd]
  · rw [if_neg odd, cleared]
    simp [mt (odd_iff crc).mpr odd]

theorem bitStep_injective (poly : UInt32) (top : poly.toNat.testBit 31 = true) :
    Function.Injective (bitStep poly) := by
  intro left right same
  have parity : left.toNat % 2 = 1 ↔ right.toNat % 2 = 1 := by
    have bits := congrArg (fun word : UInt32 => word.toNat.testBit 31) same
    simpa only [bitStep_top poly _ top, decide_eq_decide] using bits
  have halves : left >>> 1 = right >>> 1 := by
    unfold bitStep at same
    by_cases odd : left &&& 1 = 1
    · have odd' : right &&& 1 = 1 := (odd_iff right).mpr (parity.mp ((odd_iff left).mp odd))
      rw [if_pos odd, if_pos odd'] at same
      exact (UInt32.xor_left_inj poly).mp same
    · have even' : ¬right &&& 1 = 1 := fun odd' => odd ((odd_iff left).mpr (parity.mpr ((odd_iff right).mp odd')))
      rwa [if_neg odd, if_neg even'] at same
  have quotients := congrArg UInt32.toNat halves
  rw [toNat_shift, toNat_shift] at quotients
  apply UInt32.toNat_inj.mp
  omega

section Byte
variable (poly : UInt32) (top : poly.toNat.testBit 31 = true)
include top

theorem eightSteps_injective :
    Function.Injective (fun state => (List.range 8).foldl (fun crc _ => bitStep poly crc) state) :=
  ReversibleFold.foldl_injective (fun _ => bitStep_injective poly top) _

theorem byteStep_injective_state (byte : UInt8) : Function.Injective (fun state => byteStep poly state byte) := by
  intro left right same
  exact (UInt32.xor_left_inj byte.toUInt32).mp (eightSteps_injective poly top same)

theorem byteStep_injective_byte (state : UInt32) : Function.Injective (byteStep poly state) := by
  intro left right same
  have words := (UInt32.xor_right_inj state).mp (eightSteps_injective poly top same)
  exact UInt8.toUInt32_inj.mp words

/-- The register notices every single replaced byte. -/
theorem register_set_ne (bytes : List UInt8) (start : UInt32) (position : Nat) (inside : position < bytes.length)
    (other : UInt8) (differs : bytes[position]? ≠ some other) :
    (bytes.set position other).foldl (byteStep poly) start ≠ bytes.foldl (byteStep poly) start :=
  ReversibleFold.foldl_set_ne (byteStep_injective_state poly top) (byteStep_injective_byte poly top) bytes start
    position inside other differs

end Byte

end CrcRegister
