import EventfoldDb.AppendSpec
import EventfoldDb.BatchGrammar

/-! What the record decoder accepts: the encoding of the event it returns, except that bytes may
stand between the payload and the checksum. The decoder never compares its cursor with the end
of the protected region, so such a record is taken although the encoder writes no such bytes. -/

namespace EventfoldDb.CanonicalRecords
open LittleEndian Outcome CodecRoundTrip BatchGrammar AppendSpec

/-! ### Reading a body backwards -/

theorem readBytes_eq_ok {bytes field : List UInt8} {cursor count next : Nat}
    (read : readBytes bytes cursor count = ok (field, next)) :
    field.length = count ∧ bytes.drop cursor = field ++ bytes.drop next := by
  unfold readBytes at read
  split_ifs at read with tooShort
  · cases read
  rw [slice_ok bytes cursor (cursor + count) (by omega) (by omega), ok_bind] at read
  cases read
  constructor
  · rw [List.length_drop, List.length_take]
    omega
  · rw [List.drop_take, Nat.add_sub_cancel_left, ← List.drop_drop, List.take_append_drop]

theorem uuidOfBytes_eq_ok {bytes : List UInt8} {id : Uuid} (read : uuidOfBytes bytes = ok id) : id.bytes = bytes := by
  unfold uuidOfBytes at read
  split_ifs at read
  cases read
  rfl

theorem readText_eq_ok {bytes : List UInt8} {text : String} (read : readText bytes = ok text) :
    asBytes text = bytes := by
  unfold readText at read
  split at read
  next text' utf8 =>
    cases read
    exact asBytes_fromUtf8 utf8
  · cases read

theorem decodeBody_eq_ok {body : List UInt8} {event : RecordedEvent} (read : decodeBody body = ok event) :
    LengthsFit event ∧ ∃ slack, body = encodeBody event ++ slack := by
  unfold decodeBody at read
  simp only [bind_eq_ok] at read
  obtain ⟨⟨gp, c1⟩, gpRead, ⟨ra, c2⟩, raRead, ⟨sid, c3⟩, sidRead, streamId, streamIdRead, ⟨sv, c4⟩, svRead,
    ⟨eid, c5⟩, eidRead, eventId, eventIdRead, ⟨etl, c6⟩, etlRead, ⟨et, c7⟩, etRead, eventType, eventTypeRead,
    ⟨ml, c8⟩, mlRead, ⟨md, c9⟩, mdRead, ⟨pl, c10⟩, plRead, ⟨pay, c11⟩, payRead, result⟩ := read
  obtain ⟨gpSize, atGp⟩ := readBytes_eq_ok gpRead
  obtain ⟨raSize, atRa⟩ := readBytes_eq_ok raRead
  obtain ⟨-, atSid⟩ := readBytes_eq_ok sidRead
  obtain ⟨svSize, atSv⟩ := readBytes_eq_ok svRead
  obtain ⟨-, atEid⟩ := readBytes_eq_ok eidRead
  obtain ⟨etlSize, atEtl⟩ := readBytes_eq_ok etlRead
  obtain ⟨etSize, atEt⟩ := readBytes_eq_ok etRead
  obtain ⟨mlSize, atMl⟩ := readBytes_eq_ok mlRead
  obtain ⟨mdSize, atMd⟩ := readBytes_eq_ok mdRead
  obtain ⟨plSize, atPl⟩ := readBytes_eq_ok plRead
  obtain ⟨paySize, atPay⟩ := readBytes_eq_ok payRead
  have typeBytes := readText_eq_ok eventTypeRead
  cases result
  refine ⟨⟨?_, ?_, ?_⟩, body.drop c11, ?_⟩
  · rw [typeBytes, etSize]
    exact UInt16.toNat_lt _
  · rw [mdSize]
    exact UInt32.toNat_lt _
  · rw [paySize]
    exact UInt32.toNat_lt _
  · rw [List.drop_zero, atRa, atSid, atSv, atEid, atEtl, atEt, atMl, atMd, atPl, atPay] at atGp
    rw [encodeBody, typeBytes, etSize, mdSize, paySize, uuidOfBytes_eq_ok streamIdRead,
      uuidOfBytes_eq_ok eventIdRead]
    simp only [UInt16.ofNat_toNat, UInt32.ofNat_toNat, u64ToBytes_u64OfBytes _ gpSize,
      u64ToBytes_u64OfBytes _ raSize, u64ToBytes_u64OfBytes _ svSize, u16ToBytes_u16OfBytes _ etlSize,
      u32ToBytes_u32OfBytes _ mlSize, u32ToBytes_u32OfBytes _ plSize, List.append_assoc]
    exact atGp

/-! ### Records with slack -/

/-- A record whose protected region goes on behind the payload. -/
def slackRecord (crc : Crc32fast) (event : RecordedEvent) (slack : List UInt8) : List UInt8 :=
  u32ToBytes (UInt32.ofNat ((encodeBody event ++ slack).length + 4)) ++
    ((encodeBody event ++ slack) ++ u32ToBytes (crc.hash (encodeBody event ++ slack)))

theorem slackRecord_nil (crc : Crc32fast) (event : RecordedEvent) :
    slackRecord crc event [] = encodeRecord crc event := by
  rw [slackRecord, List.append_nil, encodeRecord_eq]

theorem length_slackRecord (crc : Crc32fast) (event : RecordedEvent) (slack : List UInt8) :
    (slackRecord crc event slack).length = recordSize event + slack.length := by
  have body := length_encodeBody event
  simp only [slackRecord, List.length_append, length_u32ToBytes, recordSize, lengthPrefixSize]
  omega

theorem decodeFrame_eq_ok {crc : Crc32fast} {frame : List UInt8} {event : RecordedEvent} :
    decodeFrame crc frame = ok event ↔
      ∃ body, frame = body ++ u32ToBytes (crc.hash body) ∧ decodeBody body = ok event := by
  constructor
  · intro read
    by_cases short : frame.length < 4
    · rw [decodeFrame, if_pos short] at read
      cases read
    rw [decodeFrame_of_long crc frame (by omega)] at read
    dsimp only at read
    split_ifs at read with differs
    · cases read
    have stored : u32ToBytes (u32OfBytes (frame.drop (frame.length - 4))) = frame.drop (frame.length - 4) := by
      apply u32ToBytes_u32OfBytes
      rw [List.length_drop]
      omega
    refine ⟨frame.take (frame.length - 4), ?_, read⟩
    rw [← Classical.not_not.mp differs, stored, List.take_append_drop]
  · rintro ⟨body, rfl, read⟩
    rw [decodeFrame_checksum, read]

theorem decodeRecord_slackRecord (crc : Crc32fast) (event : RecordedEvent) (slack rest : List UInt8)
    (fit : LengthsFit event) (small : recordSize event + slack.length < 4 + 2 ^ 32) :
    decodeRecord crc (slackRecord crc event slack ++ rest) =
      ok (.complete event (recordSize event + slack.length)) := by
  let frame := encodeBody event ++ slack ++ u32ToBytes (crc.hash (encodeBody event ++ slack))
  have frameSize : frame.length = (encodeBody event ++ slack).length + 4 := by
    rw [List.length_append, length_u32ToBytes]
  have size : 4 + frame.length = recordSize event + slack.length := by
    have whole := length_slackRecord crc event slack
    rwa [slackRecord, List.length_append, length_u32ToBytes] at whole
  have announced : (u32OfBytes (u32ToBytes (UInt32.ofNat ((encodeBody event ++ slack).length + 4)))).toNat =
      frame.length := by
    rw [u32OfBytes_u32ToBytes, UInt32.toNat_ofNat', Nat.mod_eq_of_lt (by omega), frameSize]
  have read : decodeFrame crc frame = ok event :=
    decodeFrame_eq_ok.mpr ⟨_, rfl, decodeBody_encodeBody event fit slack⟩
  rw [slackRecord, List.append_assoc, decodeRecord_frame crc _ frame rest (length_u32ToBytes _) announced, read,
    ok_bind, size]

theorem slackRecord_of_decoded {crc : Crc32fast} {buf : List UInt8} {event : RecordedEvent} {consumed : Nat}
    (decoded : decodeRecord crc buf = ok (.complete event consumed)) :
    ∃ slack, buf.take consumed = slackRecord crc event slack ∧ LengthsFit event := by
  obtain ⟨long, announced, inside, framed⟩ := (decodeRecord_complete ..).mp decoded
  obtain ⟨body, frame, parsed⟩ := decodeFrame_eq_ok.mp framed
  obtain ⟨fit, slack, rfl⟩ := decodeBody_eq_ok parsed
  have lengthField : u32ToBytes (UInt32.ofNat ((encodeBody event ++ slack).length + 4)) = buf.take 4 := by
    have field : (encodeBody event ++ slack).length + 4 = recordLength buf := by
      have lengths := congrArg List.length frame
      rw [List.length_drop, List.length_take, List.length_append, length_u32ToBytes] at lengths
      omega
    rw [field, recordLength, UInt32.ofNat_toNat]
    apply u32ToBytes_u32OfBytes
    rw [List.length_take]
    omega
  refine ⟨slack, ?_, fit⟩
  rw [slackRecord, lengthField, ← frame, List.drop_take]
  have four : consumed = 4 + (consumed - 4) := by omega
  conv_lhs => rw [four, List.take_add]

theorem decodeRecord_eq_ok {crc : Crc32fast} {buf : List UInt8} {event : RecordedEvent} {consumed : Nat} :
    decodeRecord crc buf = ok (.complete event consumed) ↔
      ∃ slack rest, buf = slackRecord crc event slack ++ rest ∧ consumed = recordSize event + slack.length ∧
        LengthsFit event ∧ consumed < 4 + 2 ^ 32 := by
  constructor
  · intro decoded
    obtain ⟨-, announced, inside, -⟩ := (decodeRecord_complete ..).mp decoded
    obtain ⟨slack, whole, fit⟩ := slackRecord_of_decoded decoded
    refine ⟨slack, buf.drop consumed, ?_, ?_, fit, ?_⟩
    · rw [← whole, List.take_append_drop]
    · rw [← length_slackRecord crc, ← whole, List.length_take, Nat.min_eq_left inside]
    · have bound := UInt32.toNat_lt (u32OfBytes (buf.take 4))
      rw [announced, recordLength]
      omega
  · rintro ⟨slack, rest, rfl, rfl, fit, small⟩
    exact decodeRecord_slackRecord crc event slack rest fit small

/-! ### Canonical records -/

/-- Where the payload of the record at the front of `buf` ends, by its three inner length fields. -/
def payloadEnd (buf : List UInt8) : Nat :=
  let typeEnd := 62 + (u16OfBytes ((buf.drop 60).take 2)).toNat
  let metadataEnd := typeEnd + 4 + (u32OfBytes ((buf.drop typeEnd).take 4)).toNat
  metadataEnd + 4 + (u32OfBytes ((buf.drop metadataEnd).take 4)).toNat

theorem drop_field {buf field rest : List UInt8} {start : Nat} (here : buf.drop start = field ++ rest) :
    buf.drop (start + field.length) = rest := by
  rw [← List.drop_drop, here, List.drop_left]

theorem payloadEnd_eq {buf behind : List UInt8} {event : RecordedEvent} (fit : LengthsFit event)
    (body : buf.drop 4 = encodeBody event ++ behind) : payloadEnd buf + 4 = recordSize event := by
  simp only [encodeBody, List.append_assoc] at body
  have atType := drop_field (drop_field (drop_field (drop_field (drop_field body))))
  have atMetadata := drop_field (drop_field atType)
  have atPayload := drop_field (drop_field atMetadata)
  simp only [length_u64ToBytes, length_u32ToBytes, length_u16ToBytes, event.streamId.size,
    event.eventId.size, Nat.reduceAdd] at atType atMetadata atPayload
  simp only [payloadEnd, atType, List.take_left' (length_u16ToBytes _), u16OfBytes_u16ToBytes, fit.typeLen,
    atMetadata, List.take_left' (length_u32ToBytes _), u32OfBytes_u32ToBytes, fit.metadataLen, atPayload,
    fit.payloadLen, recordSize, fixedBodySize, lengthPrefixSize]
  omega

/-- A decoded record is the encoder's own bytes exactly when the outer length leaves room for the
checksum behind the payload and for nothing else. -/
theorem decoded_canonical_iff (crc : Crc32fast) (buf : List UInt8) (event : RecordedEvent) (consumed : Nat)
    (decoded : decodeRecord crc buf = ok (.complete event consumed)) :
    encodeRecord crc event = buf.take consumed ↔ 4 + recordLength buf = payloadEnd buf + 4 := by
  have announced := ((decodeRecord_complete ..).mp decoded).2.1
  obtain ⟨slack, rest, rfl, size, fit, -⟩ := decodeRecord_eq_ok.mp decoded
  have taken : (slackRecord crc event slack ++ rest).take consumed = slackRecord crc event slack := by
    rw [size, ← length_slackRecord crc, List.take_left]
  have body : (slackRecord crc event slack ++ rest).drop 4 =
      encodeBody event ++ (slack ++ (u32ToBytes (crc.hash (encodeBody event ++ slack)) ++ rest)) := by
    simp only [slackRecord, List.append_assoc]
    exact List.drop_left' (length_u32ToBytes _)
  rw [taken, ← announced, payloadEnd_eq fit body]
  constructor
  · intro same
    rw [size, ← length_slackRecord crc, ← same, length_encodeRecord]
  · intro tight
    have none : slack = [] := List.eq_nil_of_length_eq_zero (by omega)
    rw [none, slackRecord_nil]

theorem decoded_canonical_plain :
    decodeRecord .ieee (encodeRecord .ieee plainRecord) = ok (.complete plainRecord (recordSize plainRecord)) ∧
      (encodeRecord .ieee plainRecord = (encodeRecord .ieee plainRecord).take (recordSize plainRecord) ↔
        4 + recordLength (encodeRecord .ieee plainRecord) = payloadEnd (encodeRecord .ieee plainRecord) + 4) := by
  have decoded := decodeRecord_encodeRecord .ieee plainRecord plainRecord_admissible []
  rw [List.append_nil] at decoded
  exact ⟨decoded, decoded_canonical_iff _ _ _ _ decoded⟩

/-- One byte behind the payload, under the checksum: accepted, and no output of the encoder. -/
theorem slack_accepted :
    decodeRecord .ieee (slackRecord .ieee plainRecord [0]) =
        ok (.complete plainRecord (recordSize plainRecord + 1)) ∧
      encodeRecord .ieee plainRecord ≠
        (slackRecord .ieee plainRecord [0]).take (recordSize plainRecord + 1) := by
  have size := length_slackRecord .ieee plainRecord [0]
  have fits := plainRecord_admissible.recordFits
  simp only [maxEventSize] at fits
  constructor
  · refine decodeRecord_eq_ok.mpr ⟨[0], [], (List.append_nil _).symm, rfl, plainRecord_admissible.lengthsFit, ?_⟩
    omega
  · intro same
    have lengths := congrArg List.length same
    rw [length_encodeRecord, List.length_take, size, List.length_singleton] at lengths
    omega

end EventfoldDb.CanonicalRecords
