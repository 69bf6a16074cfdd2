import Mathlib.Algebra.Order.Ring.Nat
import Mathlib.Tactic.Ring

/-! Fixed-width little-endian byte strings, and the machine words stored in them. -/

namespace LittleEndian

def toBytes : Nat → Nat → List UInt8
  | 0, _ => []
  | width + 1, value => UInt8.ofNat value :: toBytes width (value / 256)

def ofBytes : List UInt8 → Nat
  | [] => 0
  | byte :: rest => byte.toNat + 256 * ofBytes rest

@[simp] theorem length_toBytes (width value : Nat) : (toBytes width value).length = width := by
  induction width generalizing value with
  | zero => rfl
  | succ width ih => simp only [toBytes, List.length_cons, ih]

/-- Reading back keeps exactly the bits that fit the field. -/
theorem ofBytes_toBytes (width value : Nat) : ofBytes (toBytes width value) = value % 256 ^ width := by
  induction width generalizing value with
  | zero => simp only [toBytes, ofBytes, pow_zero, Nat.mod_one]
  | succ width ih =>
    have low : (UInt8.ofNat value).toNat = value % 256 := by simp
    rw [toBytes, ofBytes, ih, low, pow_succ', Nat.mod_mul]

theorem toBytes_ofBytes (bytes : List UInt8) : toBytes bytes.length (ofBytes bytes) = bytes := by
  induction bytes with
  | nil => rfl
  | cons byte rest ih =>
    have low : UInt8.ofNat (byte.toNat + 256 * ofBytes rest) = byte := by
      apply UInt8.toNat_inj.mp
      rw [UInt8.toNat_ofNat', Nat.add_mul_mod_self_left, Nat.mod_eq_of_lt byte.toNat_lt]
    have high : (byte.toNat + 256 * ofBytes rest) / 256 = ofBytes rest := by
      have small := byte.toNat_lt
      omega
    rw [List.length_cons, ofBytes, toBytes, low, high, ih]

theorem ofBytes_lt (bytes : List UInt8) : ofBytes bytes < 256 ^ bytes.length := by
  induction bytes with
  | nil => exact Nat.one_pos
  | cons byte rest ih =>
    have small : byte.toNat < 256 := byte.toNat_lt
    rw [ofBytes, List.length_cons, pow_succ]
    omega

theorem toBytes_injective (width x y : Nat) (xFits : x < 256 ^ width) (yFits : y < 256 ^ width)
    (same : toBytes width x = toBytes width y) : x = y := by
  have values := congrArg ofBytes same
  rwa [ofBytes_toBytes, ofBytes_toBytes, Nat.mod_eq_of_lt xFits, Nat.mod_eq_of_lt yFits] at values

def u16ToBytes (word : UInt16) : List UInt8 := toBytes 2 word.toNat
def u32ToBytes (word : UInt32) : List UInt8 := toBytes 4 word.toNat
def u64ToBytes (word : UInt64) : List UInt8 := toBytes 8 word.toNat

def u16OfBytes (bytes : List UInt8) : UInt16 := UInt16.ofNat (ofBytes bytes)
def u32OfBytes (bytes : List UInt8) : UInt32 := UInt32.ofNat (ofBytes bytes)
def u64OfBytes (bytes : List UInt8) : UInt64 := UInt64.ofNat (ofBytes bytes)

@[simp] theorem length_u16ToBytes (word : UInt16) : (u16ToBytes word).length = 2 := length_toBytes 2 _
@[simp] theorem length_u32ToBytes (word : UInt32) : (u32ToBytes word).length = 4 := length_toBytes 4 _
@[simp] theorem length_u64ToBytes (word : UInt64) : (u64ToBytes word).length = 8 := length_toBytes 8 _

@[simp] theorem u16OfBytes_u16ToBytes (word : UInt16) : u16OfBytes (u16ToBytes word) = word := by
  have fits : word.toNat % 256 ^ 2 = word.toNat := Nat.mod_eq_of_lt word.toNat_lt
  rw [u16OfBytes, u16ToBytes, ofBytes_toBytes, fits, UInt16.ofNat_toNat]

@[simp] theorem u32OfBytes_u32ToBytes (word : UInt32) : u32OfBytes (u32ToBytes word) = word := by
  have fits : word.toNat % 256 ^ 4 = word.toNat := Nat.mod_eq_of_lt word.toNat_lt
  rw [u32OfBytes, u32ToBytes, ofBytes_toBytes, fits, UInt32.ofNat_toNat]

@[simp] theorem u64OfBytes_u64ToBytes (word : UInt64) : u64OfBytes (u64ToBytes word) = word := by
  have fits : word.toNat % 256 ^ 8 = word.toNat := Nat.mod_eq_of_lt word.toNat_lt
  rw [u64OfBytes, u64ToBytes, ofBytes_toBytes, fits, UInt64.ofNat_toNat]

theorem u16ToBytes_u16OfBytes (bytes : List UInt8) (size : bytes.length = 2) :
    u16ToBytes (u16OfBytes bytes) = bytes := by
  have fits : ofBytes bytes < 2 ^ 16 := by simpa [size] using ofBytes_lt bytes
  rw [u16ToBytes, u16OfBytes, UInt16.toNat_ofNat', Nat.mod_eq_of_lt fits, ← size, toBytes_ofBytes]

theorem u32ToBytes_u32OfBytes (bytes : List UInt8) (size : bytes.length = 4) :
    u32ToBytes (u32OfBytes bytes) = bytes := by
  have fits : ofBytes bytes < 2 ^ 32 := by simpa [size] using ofBytes_lt bytes
  rw [u32ToBytes, u32OfBytes, UInt32.toNat_ofNat', Nat.mod_eq_of_lt fits, ← size, toBytes_ofBytes]

theorem u64ToBytes_u64OfBytes (bytes : List UInt8) (size : bytes.length = 8) :
    u64ToBytes (u64OfBytes bytes) = bytes := by
  have fits : ofBytes bytes < 2 ^ 64 := by simpa [size] using ofBytes_lt bytes
  rw [u64ToBytes, u64OfBytes, UInt64.toNat_ofNat', Nat.mod_eq_of_lt fits, ← size, toBytes_ofBytes]

end LittleEndian
