import EventfoldDb.Codec

/-! Encoding and decoding agree on every event that `append` lets through, whatever bytes
follow, and a record or envelope cut short is always reported as incomplete. -/

namespace EventfoldDb.CodecRoundTrip
open LittleEndian Outcome

def recordSize (event : RecordedEvent) : Nat :=
  lengthPrefixSize + (fixedBodySize + (asBytes event.eventType).length + event.metadata.length + event.payload.length)

/-- The events `append` writes: both of its size checks passed. -/
structure Admissible (event : RecordedEvent) : Prop where
  typePresent : asBytes event.eventType ≠ []
  typeFits : (asBytes event.eventType).length ≤ maxEventTypeLen
  recordFits : recordSize event ≤ maxEventSize

theorem length_encodeBody (event : RecordedEvent) :
    (encodeBody event).length + 4 =
      fixedBodySize + (asBytes event.eventType).length + event.metadata.length + event.payload.length := by
  simp only [encodeBody, List.length_append, length_u64ToBytes, length_u32ToBytes, length_u16ToBytes,
    event.streamId.size, event.eventId.size, fixedBodySize]
  omega

theorem encodeRecord_eq (crc : Crc32fast) (event : RecordedEvent) :
    encodeRecord crc event = u32ToBytes (UInt32.ofNat ((encodeBody event).length + 4)) ++
      (encodeBody event ++ u32ToBytes (crc.hash (encodeBody event))) := by
  have skip : (u32ToBytes (UInt32.ofNat (fixedBodySize + (asBytes event.eventType).length +
      event.metadata.length + event.payload.length)) ++ encodeBody event).drop lengthPrefixSize =
      encodeBody event := List.drop_left' (length_u32ToBytes _)
  simp only [encodeRecord]
  rw [skip, length_encodeBody, List.append_assoc]

theorem length_encodeRecord (crc : Crc32fast) (event : RecordedEvent) :
    (encodeRecord crc event).length = recordSize event := by
  have body := length_encodeBody event
  simp only [encodeRecord_eq, List.length_append, length_u32ToBytes, recordSize, lengthPrefixSize]
  omega

theorem readBytes_here (bytes field rest : List UInt8) (cursor : Nat) (inside : cursor ≤ bytes.length)
    (here : bytes.drop cursor = field ++ rest) :
    readBytes bytes cursor field.length = ok (field, cursor + field.length) ∧
      cursor + field.length ≤ bytes.length ∧ bytes.drop (cursor + field.length) = rest := by
  have remaining : bytes.length - cursor = field.length + rest.length := by
    rw [← List.length_drop, here, List.length_append]
  have bound : cursor + field.length ≤ bytes.length := by omega
  have taken : (bytes.take (cursor + field.length)).drop cursor = field := by
    rw [List.drop_take, here, Nat.add_sub_cancel_left, List.take_left]
  refine ⟨?_, bound, ?_⟩
  · rw [readBytes, if_neg (by omega), slice_ok bytes cursor _ (by omega) bound, taken]
    rfl
  · rw [← List.drop_drop, here, List.drop_left]

private theorem uuidOfBytes_bytes (id : Uuid) : uuidOfBytes id.bytes = ok id := by
  rw [uuidOfBytes, dif_pos id.size]

private theorem readText_asBytes (text : String) : readText (asBytes text) = ok text := by
  rw [readText, fromUtf8_asBytes]

structure LengthsFit (event : RecordedEvent) : Prop where
  eventType : (asBytes event.eventType).length < 2 ^ 16
  metadata : event.metadata.length < 2 ^ 32
  payload : event.payload.length < 2 ^ 32

theorem Admissible.lengthsFit {event : RecordedEvent} (admissible : Admissible event) : LengthsFit event := by
  have size := admissible.recordFits
  simp only [recordSize, maxEventSize, lengthPrefixSize, fixedBodySize] at size
  exact ⟨by omega, by omega, by omega⟩

theorem LengthsFit.typeLen {event : RecordedEvent} (fit : LengthsFit event) :
    (UInt16.ofNat (asBytes event.eventType).length).toNat = (asBytes event.eventType).length := by
  rw [UInt16.toNat_ofNat', Nat.mod_eq_of_lt fit.eventType]

theorem LengthsFit.metadataLen {event : RecordedEvent} (fit : LengthsFit event) :
    (UInt32.ofNat event.metadata.length).toNat = event.metadata.length := by
  rw [UInt32.toNat_ofNat', Nat.mod_eq_of_lt fit.metadata]

theorem LengthsFit.payloadLen {event : RecordedEvent} (fit : LengthsFit event) :
    (UInt32.ofNat event.payload.length).toNat = event.payload.length := by
  rw [UInt32.toNat_ofNat', Nat.mod_eq_of_lt fit.payload]

theorem Admissible.prefixLen {event : RecordedEvent} (admissible : Admissible event) :
    (UInt32.ofNat ((encodeBody event).length + 4)).toNat = (encodeBody event).length + 4 := by
  have body := length_encodeBody event
  have size := admissible.recordFits
  simp only [recordSize, maxEventSize, lengthPrefixSize] at size
  rw [UInt32.toNat_ofNat', Nat.mod_eq_of_lt (by omega)]

/-- The fields are read from the front; bytes behind the payload are never looked at. -/
theorem decodeBody_encodeBody (event : RecordedEvent) (fit : LengthsFit event) (slack : List UInt8) :
    decodeBody (encodeBody event ++ slack) = ok event := by
  obtain ⟨gp, in1, d1⟩ := readBytes_here (encodeBody event ++ slack) (u64ToBytes event.globalPosition) _ 0
    (Nat.zero_le _) (by rw [List.drop_zero, encodeBody]; simp only [List.append_assoc]; rfl)
  obtain ⟨ra, in2, d2⟩ := readBytes_here _ _ _ _ in1 d1
  obtain ⟨sid, in3, d3⟩ := readBytes_here _ _ _ _ in2 d2
  obtain ⟨sv, in4, d4⟩ := readBytes_here _ _ _ _ in3 d3
  obtain ⟨eid, in5, d5⟩ := readBytes_here _ _ _ _ in4 d4
  obtain ⟨etl, in6, d6⟩ := readBytes_here _ _ _ _ in5 d5
  obtain ⟨et, in7, d7⟩ := readBytes_here _ _ _ _ in6 d6
  obtain ⟨ml, in8, d8⟩ := readBytes_here _ _ _ _ in7 d7
  obtain ⟨md, in9, d9⟩ := readBytes_here _ _ _ _ in8 d8
  obtain ⟨pl, in10, d10⟩ := readBytes_here _ _ _ _ in9 d9
  obtain ⟨pay, -, -⟩ := readBytes_here _ _ _ _ in10 d10
  simp only [length_u64ToBytes, length_u32ToBytes, length_u16ToBytes, event.streamId.size,
    event.eventId.size] at gp ra sid sv eid etl et ml md pl pay
  simp only [decodeBody, gp, ra, sid, sv, eid, etl, ok_bind, uuidOfBytes_bytes, u16OfBytes_u16ToBytes,
    fit.typeLen, et, readText_asBytes, ml, u32OfBytes_u32ToBytes, fit.metadataLen, md, pl, fit.payloadLen, pay,
    u64OfBytes_u64ToBytes, pure_eq]

def Corrupt : Error → Prop
  | .corruptRecord _ _ => True
  | _ => False

theorem readBytes_ends (bytes : List UInt8) (cursor count : Nat) :
    Ends (readBytes bytes cursor count)
      (fun result => result.1.length = count ∧ result.2 = cursor + count) Corrupt := by
  unfold readBytes
  by_cases tooShort : cursor + count > bytes.length
  · rw [if_pos tooShort]
    trivial
  · rw [if_neg tooShort, slice_ok bytes cursor (cursor + count) (by omega) (by omega)]
    refine ⟨?_, rfl⟩
    rw [List.length_drop, List.length_take]
    omega

private theorem uuidOfBytes_ends (bytes : List UInt8) (size : bytes.length = 16) :
    Ends (uuidOfBytes bytes) (fun _ => True) Corrupt := by
  rw [uuidOfBytes, dif_pos size]
  trivial

private theorem readText_ends (bytes : List UInt8) : Ends (readText bytes) (fun _ => True) Corrupt := by
  unfold readText
  split <;> trivial

theorem decodeBody_ends (body : List UInt8) : Ends (decodeBody body) (fun _ => True) Corrupt := by
  unfold decodeBody
  apply (readBytes_ends body 0 8).bind
  rintro ⟨gpBytes, cursor⟩ -
  apply (readBytes_ends body cursor 8).bind
  rintro ⟨raBytes, cursor⟩ -
  apply (readBytes_ends body cursor 16).bind
  rintro ⟨sidBytes, cursor⟩ ⟨sidSize, -⟩
  apply (uuidOfBytes_ends sidBytes sidSize).bind
  intro streamId _
  apply (readBytes_ends body cursor 8).bind
  rintro ⟨svBytes, cursor⟩ -
  apply (readBytes_ends body cursor 16).bind
  rintro ⟨eidBytes, cursor⟩ ⟨eidSize, -⟩
  apply (uuidOfBytes_ends eidBytes eidSize).bind
  intro eventId _
  apply (readBytes_ends body cursor 2).bind
  rintro ⟨etlBytes, cursor⟩ -
  apply (readBytes_ends body cursor _).bind
  rintro ⟨etBytes, cursor⟩ -
  apply (readText_ends etBytes).bind
  intro eventType _
  apply (readBytes_ends body cursor 4).bind
  rintro ⟨mlBytes, cursor⟩ -
  apply (readBytes_ends body cursor _).bind
  rintro ⟨metaBytes, cursor⟩ -
  apply (readBytes_ends body cursor 4).bind
  rintro ⟨plBytes, cursor⟩ -
  apply (readBytes_ends body cursor _).bind
  rintro ⟨payBytes, cursor⟩ -
  trivial

def Within {α : Type} (buf : List UInt8) : DecodeOutcome α → Prop
  | .complete _ consumed => consumed ≤ buf.length
  | .incomplete => True

theorem decodeFrame_of_long (crc : Crc32fast) (body : List UInt8) (long : 4 ≤ body.length) :
    decodeFrame crc body =
      let stored := u32OfBytes (body.drop (body.length - 4))
      let computed := crc.hash (body.take (body.length - 4))
      if stored ≠ computed then
        corrupt s!"CRC32 mismatch: stored {crcHex stored}, computed {crcHex computed}"
      else decodeBody (body.take (body.length - 4)) := by
  have whole : body.take (body.length - 4 + 4) = body := by
    rw [Nat.sub_add_cancel long, List.take_length]
  unfold decodeFrame
  rw [if_neg (by omega)]
  dsimp only
  rw [slice_ok body _ _ (by omega) (by omega), ok_bind, slice_ok body _ _ (by omega) (by omega), ok_bind,
    whole, List.drop_zero]

def recordLength (buf : List UInt8) : Nat := (u32OfBytes (buf.take 4)).toNat

theorem decodeRecord_of_long (crc : Crc32fast) (buf : List UInt8) (long : 4 ≤ buf.length) :
    decodeRecord crc buf =
      if buf.length < 4 + recordLength buf then ok .incomplete
      else decodeFrame crc ((buf.take (4 + recordLength buf)).drop 4) >>=
        fun event => ok (.complete event (4 + recordLength buf)) := by
  have announced : (u32OfBytes ((buf.take 4).drop 0)).toNat = recordLength buf := by
    rw [List.drop_zero, recordLength]
  unfold decodeRecord
  rw [if_neg (by unfold lengthPrefixSize; omega), slice_ok buf 0 4 (by decide) long, ok_bind]
  dsimp only [lengthPrefixSize]
  rw [announced]
  by_cases cut : buf.length < 4 + recordLength buf
  · rw [if_pos cut, if_pos cut]
  · rw [if_neg cut, if_neg cut, slice_ok buf _ _ (by omega) (by omega), ok_bind]

theorem decodeRecord_of_short (crc : Crc32fast) (buf : List UInt8) (short : buf.length < 4) :
    decodeRecord crc buf = ok .incomplete := by
  unfold decodeRecord
  exact if_pos short

theorem decodeRecord_frame (crc : Crc32fast) (head frame rest : List UInt8) (size : head.length = 4)
    (announced : (u32OfBytes head).toNat = frame.length) :
    decodeRecord crc (head ++ (frame ++ rest)) =
      decodeFrame crc frame >>= fun event => ok (.complete event (4 + frame.length)) := by
  have length : (head ++ (frame ++ rest)).length = 4 + (frame.length + rest.length) := by
    rw [List.length_append, List.length_append, size]
  have total : recordLength (head ++ (frame ++ rest)) = frame.length := by
    rw [recordLength, List.take_left' size, announced]
  have taken : ((head ++ (frame ++ rest)).take (4 + frame.length)).drop 4 = frame := by
    rw [List.drop_take, List.drop_left' size, Nat.add_sub_cancel_left, List.take_left]
  rw [decodeRecord_of_long crc _ (by omega), total, if_neg (by omega), taken]

theorem decodeFrame_ends (crc : Crc32fast) (body : List UInt8) :
    Ends (decodeFrame crc body) (fun _ => True) Corrupt := by
  by_cases short : body.length < 4
  · unfold decodeFrame
    rw [if_pos short]
    trivial
  · rw [decodeFrame_of_long crc body (by omega)]
    dsimp only
    split_ifs
    · trivial
    · exact decodeBody_ends _

theorem decodeRecord_ends (crc : Crc32fast) (buf : List UInt8) :
    Ends (decodeRecord crc buf) (Within buf) Corrupt := by
  by_cases short : buf.length < 4
  · rw [decodeRecord_of_short crc buf short]
    trivial
  rw [decodeRecord_of_long crc buf (by omega)]
  split_ifs with cut
  · trivial
  · apply (decodeFrame_ends crc _).bind
    intro event _
    exact Nat.le_of_not_lt cut

theorem decodeFrame_checksum (crc : Crc32fast) (body : List UInt8) :
    decodeFrame crc (body ++ u32ToBytes (crc.hash body)) = decodeBody body := by
  have size : (body ++ u32ToBytes (crc.hash body)).length - 4 = body.length := by
    rw [List.length_append, length_u32ToBytes, Nat.add_sub_cancel]
  rw [decodeFrame_of_long crc _ (by rw [List.length_append, length_u32ToBytes]; omega)]
  dsimp only
  rw [size, List.drop_left, List.take_left, u32OfBytes_u32ToBytes, if_neg (by simp)]

theorem decodeFrame_encode (crc : Crc32fast) (event : RecordedEvent) (fit : LengthsFit event) :
    decodeFrame crc (encodeBody event ++ u32ToBytes (crc.hash (encodeBody event))) = ok event := by
  rw [decodeFrame_checksum]
  simpa using decodeBody_encodeBody event fit []

theorem recordLength_encodeRecord (crc : Crc32fast) (event : RecordedEvent) (admissible : Admissible event)
    (buf : List UInt8) (same : buf.take 4 = (encodeRecord crc event).take 4) :
    4 + recordLength buf = recordSize event := by
  rw [recordLength, same, encodeRecord_eq, List.take_left' (length_u32ToBytes _), u32OfBytes_u32ToBytes,
    admissible.prefixLen, recordSize, length_encodeBody, lengthPrefixSize]

theorem decodeRecord_encodeRecord (crc : Crc32fast) (event : RecordedEvent) (admissible : Admissible event)
    (rest : List UInt8) :
    decodeRecord crc (encodeRecord crc event ++ rest) = ok (.complete event (recordSize event)) := by
  have frameSize : (encodeBody event ++ u32ToBytes (crc.hash (encodeBody event))).length =
      (encodeBody event).length + 4 := by rw [List.length_append, length_u32ToBytes]
  have announced : (u32OfBytes (u32ToBytes (UInt32.ofNat ((encodeBody event).length + 4)))).toNat =
      (encodeBody event ++ u32ToBytes (crc.hash (encodeBody event))).length := by
    rw [u32OfBytes_u32ToBytes, admissible.prefixLen, frameSize]
  rw [encodeRecord_eq, List.append_assoc, decodeRecord_frame crc _ _ rest (length_u32ToBytes _) announced,
    decodeFrame_encode crc event admissible.lengthsFit, ok_bind, frameSize, length_encodeBody]
  rfl

theorem decodeRecord_cut (crc : Crc32fast) (event : RecordedEvent) (admissible : Admissible event)
    (kept : Nat) (short : kept < recordSize event) :
    decodeRecord crc ((encodeRecord crc event).take kept) = ok .incomplete := by
  have size : ((encodeRecord crc event).take kept).length = kept := by
    rw [List.length_take, length_encodeRecord]
    omega
  by_cases noPrefix : kept < 4
  · exact decodeRecord_of_short crc _ (by omega)
  · have total := recordLength_encodeRecord crc event admissible ((encodeRecord crc event).take kept)
      (by rw [List.take_take, Nat.min_eq_left (by omega)])
    rw [decodeRecord_of_long crc _ (by omega), total, if_pos (by omega)]

/-! The two ends of the batch envelope. -/

theorem decodeBatchHeader_short (buf : List UInt8) (short : buf.length < 16) :
    decodeBatchHeader buf = ok .incomplete := if_pos short

theorem decodeBatchHeader_wrongMagic (buf : List UInt8) (long : 16 ≤ buf.length)
    (wrong : buf.take 4 ≠ batchHeaderMagic) :
    decodeBatchHeader buf = corrupt "wrong batch header magic bytes" := by
  unfold decodeBatchHeader
  rw [if_neg (by unfold batchHeaderSize; omega), slice_ok buf 0 4 (by decide) (by omega), ok_bind,
    List.drop_zero, if_pos wrong]

theorem decodeBatchHeader_magic (buf : List UInt8) (long : 16 ≤ buf.length)
    (right : buf.take 4 = batchHeaderMagic) :
    decodeBatchHeader buf = ok (.complete
      ⟨u32OfBytes ((buf.take 8).drop 4), u64OfBytes ((buf.take 16).drop 8)⟩ batchHeaderSize) := by
  unfold decodeBatchHeader
  rw [if_neg (by unfold batchHeaderSize; omega), slice_ok buf 0 4 (by decide) (by omega), ok_bind,
    List.drop_zero, if_neg (by simpa using right), slice_ok buf 4 8 (by decide) (by omega), ok_bind,
    slice_ok buf 8 16 (by decide) long, ok_bind]

theorem length_encodeBatchHeader (count : UInt32) (first : UInt64) :
    (encodeBatchHeader count first).length = 16 := by
  simp [encodeBatchHeader, batchHeaderMagic]

theorem decodeBatchHeader_encode (count : UInt32) (first : UInt64) (rest : List UInt8) :
    decodeBatchHeader (encodeBatchHeader count first ++ rest) = ok (.complete ⟨count, first⟩ 16) := by
  have size := length_encodeBatchHeader count first
  have countField : ((encodeBatchHeader count first ++ rest).take 8).drop 4 = u32ToBytes count := by
    simp [encodeBatchHeader, batchHeaderMagic]
  have firstField : ((encodeBatchHeader count first ++ rest).take 16).drop 8 = u64ToBytes first := by
    simp [encodeBatchHeader, batchHeaderMagic, List.take_append]
  rw [decodeBatchHeader_magic _ (by rw [List.length_append]; omega)
    (by simp [encodeBatchHeader, batchHeaderMagic]), countField, firstField]
  simp [batchHeaderSize]

theorem decodeBatchFooter_short (buf : List UInt8) (short : buf.length < 8) :
    decodeBatchFooter buf = ok .incomplete := if_pos short

theorem decodeBatchFooter_wrongMagic (buf : List UInt8) (long : 8 ≤ buf.length)
    (wrong : buf.take 4 ≠ batchFooterMagic) :
    decodeBatchFooter buf = corrupt "wrong batch footer magic bytes" := by
  unfold decodeBatchFooter
  rw [if_neg (by unfold batchFooterSize; omega), slice_ok buf 0 4 (by decide) (by omega), ok_bind,
    List.drop_zero, if_pos wrong]

theorem decodeBatchFooter_magic (buf : List UInt8) (long : 8 ≤ buf.length)
    (right : buf.take 4 = batchFooterMagic) :
    decodeBatchFooter buf = ok (.complete ⟨u32OfBytes ((buf.take 8).drop 4)⟩ batchFooterSize) := by
  unfold decodeBatchFooter
  rw [if_neg (by unfold batchFooterSize; omega), slice_ok buf 0 4 (by decide) (by omega), ok_bind,
    List.drop_zero, if_neg (by simpa using right), slice_ok buf 4 8 (by decide) long, ok_bind]

theorem length_encodeBatchFooter (batchCrc : UInt32) : (encodeBatchFooter batchCrc).length = 8 := by
  simp [encodeBatchFooter, batchFooterMagic]

theorem decodeBatchFooter_encode (batchCrc : UInt32) (rest : List UInt8) :
    decodeBatchFooter (encodeBatchFooter batchCrc ++ rest) = ok (.complete ⟨batchCrc⟩ 8) := by
  have size := length_encodeBatchFooter batchCrc
  have crcField : ((encodeBatchFooter batchCrc ++ rest).take 8).drop 4 = u32ToBytes batchCrc := by
    simp [encodeBatchFooter, batchFooterMagic]
  rw [decodeBatchFooter_magic _ (by rw [List.length_append]; omega)
    (by simp [encodeBatchFooter, batchFooterMagic]), crcField]
  simp [batchFooterSize]

theorem decodeHeader_encodeHeader : decodeHeader encodeHeader = ok formatVersion := by decide

end EventfoldDb.CodecRoundTrip
