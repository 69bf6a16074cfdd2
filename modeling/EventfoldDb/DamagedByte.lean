import EventfoldDb.AppendSpec
import EventfoldDb.Lib.CrcRegister

/-! One damaged byte of a record is always noticed: in the body it changes the computed checksum,
since the IEEE register never forgets a difference, and in the checksum it changes the stored one.
Only the length prefix lies outside this protection. -/

namespace EventfoldDb.DamagedByte
open LittleEndian Outcome CodecRoundTrip AppendSpec CrcRegister

theorem ieee_top : (0xEDB88320 : UInt32).toNat.testBit 31 = true := by decide

theorem ieee_hash_set_ne (bytes : List UInt8) (position : Nat) (inside : position < bytes.length) (byte : UInt8)
    (differs : bytes[position]? ≠ some byte) :
    Crc32fast.ieee.hash (bytes.set position byte) ≠ Crc32fast.ieee.hash bytes := by
  intro same
  have registers : (bytes.set position byte).foldl (byteStep 0xEDB88320) 0xFFFFFFFF =
      bytes.foldl (byteStep 0xEDB88320) 0xFFFFFFFF := (UInt32.xor_left_inj 0xFFFFFFFF).mp same
  exact register_set_ne 0xEDB88320 ieee_top bytes 0xFFFFFFFF position inside byte differs registers

theorem decodeFrame_mismatch (crc : Crc32fast) (body stored : List UInt8) (size : stored.length = 4)
    (wrong : u32OfBytes stored ≠ crc.hash body) : ∃ detail, decodeFrame crc (body ++ stored) = corrupt detail := by
  have length : (body ++ stored).length - 4 = body.length := by
    rw [List.length_append, size, Nat.add_sub_cancel]
  rw [decodeFrame_of_long crc _ (by rw [List.length_append]; omega)]
  dsimp only
  rw [length, List.drop_left, List.take_left, if_pos wrong]
  exact ⟨_, rfl⟩

theorem u32OfBytes_set_ne (word : UInt32) (position : Nat) (byte : UInt8) (inside : position < 4)
    (differs : (u32ToBytes word)[position]? ≠ some byte) : u32OfBytes ((u32ToBytes word).set position byte) ≠ word := by
  intro same
  have bytes : (u32ToBytes word).set position byte = u32ToBytes word := by
    rw [← u32ToBytes_u32OfBytes ((u32ToBytes word).set position byte) (by simp), same]
  apply differs
  rw [← bytes, List.getElem?_set_self (by rw [length_u32ToBytes]; exact inside)]

theorem decodeFrame_damaged (body : List UInt8) (position : Nat) (byte : UInt8)
    (inside : position < (body ++ u32ToBytes (Crc32fast.ieee.hash body)).length)
    (differs : (body ++ u32ToBytes (Crc32fast.ieee.hash body))[position]? ≠ some byte) :
    ∃ detail, decodeFrame .ieee ((body ++ u32ToBytes (Crc32fast.ieee.hash body)).set position byte) =
      corrupt detail := by
  by_cases inBody : position < body.length
  · rw [List.getElem?_append_left inBody] at differs
    rw [List.set_append_left _ _ inBody]
    apply decodeFrame_mismatch _ _ _ (length_u32ToBytes _)
    rw [u32OfBytes_u32ToBytes]
    exact (ieee_hash_set_ne body position inBody byte differs).symm
  · rw [List.length_append, length_u32ToBytes] at inside
    rw [List.getElem?_append_right (by omega)] at differs
    rw [List.set_append_right _ _ (by omega)]
    apply decodeFrame_mismatch _ _ _ (by rw [List.length_set, length_u32ToBytes])
    exact u32OfBytes_set_ne _ _ byte (by omega) differs

/-- Every byte behind the length prefix is protected, whatever follows the record. -/
theorem damaged_byte_detected (event : RecordedEvent) (admissible : Admissible event) (position : Nat)
    (behindPrefix : 4 ≤ position) (inside : position < (encodeRecord .ieee event).length) (byte : UInt8)
    (differs : byte ≠ (encodeRecord .ieee event)[position]) (rest : List UInt8) :
    ∃ detail, decodeRecord .ieee ((encodeRecord .ieee event).set position byte ++ rest) =
      err (.corruptRecord 0 detail) := by
  have differs' : (encodeRecord .ieee event)[position]? ≠ some byte := by
    rw [List.getElem?_eq_getElem inside]
    exact fun same => differs (Option.some.inj same).symm
  -- The prefix is untouched and still announces a frame of the same length.
  have prefixSize : (u32ToBytes (UInt32.ofNat ((encodeBody event).length + 4))).length = 4 := length_u32ToBytes _
  have announced : (u32OfBytes (u32ToBytes (UInt32.ofNat ((encodeBody event).length + 4)))).toNat =
      ((encodeBody event ++ u32ToBytes (Crc32fast.ieee.hash (encodeBody event))).set (position - 4) byte).length := by
    rw [u32OfBytes_u32ToBytes, admissible.prefixLen, List.length_set, List.length_append, length_u32ToBytes]
  rw [encodeRecord_eq] at differs' inside ⊢
  rw [List.length_append, prefixSize] at inside
  rw [List.getElem?_append_right (by omega), prefixSize] at differs'
  obtain ⟨detail, damaged⟩ := decodeFrame_damaged (encodeBody event) (position - 4) byte (by omega) differs'
  refine ⟨detail, ?_⟩
  rw [List.set_append_right _ _ (by omega), prefixSize, List.append_assoc,
    decodeRecord_frame .ieee _ _ rest prefixSize announced, damaged]
  rfl

theorem damaged_byte_plain :
    ∃ detail, decodeRecord .ieee ((encodeRecord .ieee plainRecord).set 4 1 ++ [7]) =
      err (.corruptRecord 0 detail) := by
  have inside : 4 < (encodeRecord .ieee plainRecord).length := by
    rw [length_encodeRecord, recordSize, lengthPrefixSize, fixedBodySize]
    omega
  -- The lowest byte of global position 0.
  have lowest : (encodeRecord .ieee plainRecord)[4]? = some 0 := by
    rw [encodeRecord_eq, List.getElem?_append_right (Nat.le_of_eq (length_u32ToBytes _)), length_u32ToBytes]
    rfl
  have differs : (1 : UInt8) ≠ (encodeRecord .ieee plainRecord)[4] := by
    rw [List.getElem?_eq_getElem inside] at lowest
    rw [Option.some.inj lowest]
    decide
  exact damaged_byte_detected plainRecord plainRecord_admissible 4 (Nat.le_refl 4) inside 1 differs [7]

end EventfoldDb.DamagedByte
