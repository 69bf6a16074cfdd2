import EventfoldDb.Lib.Framing
import EventfoldDb.Recovery

/-! The grammar of the log file, apart from the code that reads it: which bytes are a record,
which bytes are a batch, and that the recovery's decoders take exactly those, whatever
stands behind them. -/

namespace EventfoldDb.BatchGrammar
open LittleEndian Outcome CodecRoundTrip Recovery

/-! ### Records -/

def IsRecord (crc : Crc32fast) (encoded : List UInt8) (event : RecordedEvent) : Prop :=
  decodeRecord crc encoded = ok (.complete event encoded.length)

theorem decodeRecord_complete (crc : Crc32fast) (buf : List UInt8) (event : RecordedEvent) (consumed : Nat) :
    decodeRecord crc buf = ok (.complete event consumed) ↔
      4 ≤ buf.length ∧ consumed = 4 + recordLength buf ∧ consumed ≤ buf.length ∧
        decodeFrame crc ((buf.take consumed).drop 4) = ok event := by
  by_cases short : buf.length < 4
  · simp only [decodeRecord_of_short crc buf short, ok.injEq, reduceCtorEq, false_iff]
    omega
  rw [decodeRecord_of_long crc buf (by omega)]
  split_ifs with cut
  · simp only [ok.injEq, reduceCtorEq, false_iff]
    omega
  · rw [bind_eq_ok]
    constructor
    · rintro ⟨value, framed, same⟩
      cases same
      exact ⟨by omega, rfl, by omega, framed⟩
    · rintro ⟨-, rfl, -, framed⟩
      exact ⟨event, framed, rfl⟩

theorem recordLength_append (encoded rest : List UInt8) (long : 4 ≤ encoded.length) :
    recordLength (encoded ++ rest) = recordLength encoded := by
  rw [recordLength, recordLength, List.take_append_of_le_length long]

theorem decodeRecord_iff (crc : Crc32fast) (buf : List UInt8) (event : RecordedEvent) (consumed : Nat) :
    decodeRecord crc buf = ok (.complete event consumed) ↔
      ∃ encoded rest, buf = encoded ++ rest ∧ IsRecord crc encoded event ∧ consumed = encoded.length := by
  rw [decodeRecord_complete]
  constructor
  · rintro ⟨long, announced, inside, framed⟩
    have size : (buf.take consumed).length = consumed := by rw [List.length_take]; omega
    have sameLength := recordLength_append (buf.take consumed) (buf.drop consumed) (by omega)
    rw [List.take_append_drop] at sameLength
    refine ⟨buf.take consumed, buf.drop consumed, (List.take_append_drop _ _).symm, ?_, size.symm⟩
    rw [IsRecord, decodeRecord_complete, size, List.take_take, Nat.min_self]
    exact ⟨by omega, by omega, Nat.le_refl _, framed⟩
  · rintro ⟨encoded, rest, rfl, record, rfl⟩
    obtain ⟨long, announced, -, framed⟩ := (decodeRecord_complete ..).mp record
    rw [List.take_length] at framed
    rw [recordLength_append encoded rest long, List.take_left, List.length_append]
    exact ⟨by omega, announced, Nat.le_add_right _ _, framed⟩

theorem IsRecord.follow {crc : Crc32fast} {encoded : List UInt8} {event : RecordedEvent}
    (record : IsRecord crc encoded event) (rest : List UInt8) :
    decodeRecord crc (encoded ++ rest) = ok (.complete event encoded.length) :=
  (decodeRecord_iff ..).mpr ⟨encoded, rest, rfl, record, rfl⟩

def recordFraming (crc : Crc32fast) : Framing UInt8 RecordedEvent where
  Frame encoded events := ∃ event, events = [event] ∧ IsRecord crc encoded event
  nonempty := by
    rintro items ⟨event, -, record⟩
    have short := decodeRecord_of_short crc [] (by decide)
    rw [IsRecord, short] at record
    cases record
  unambiguous := by
    rintro encoded items other others rest left ⟨event, rfl, record⟩ ⟨event', rfl, record'⟩ same
    have read := record.follow rest
    rw [same, record'.follow left] at read
    rw [ok.injEq, DecodeOutcome.complete.injEq] at read
    exact ⟨List.append_inj_left same read.2.symm, by rw [read.1]⟩

theorem decodeRecords_some (crc : Crc32fast) (data : List UInt8) (count offset next : Nat)
    (values : List RecordedEvent) (inside : offset ≤ data.length) :
    decodeRecords crc data count offset = ok (some (values, next)) ↔
      ∃ records rest, data.drop offset = records ++ rest ∧
        (recordFraming crc).Frames count records values ∧ next = offset + records.length := by
  induction count generalizing offset values with
  | zero =>
    rw [decodeRecords]
    constructor
    · intro read
      cases read
      exact ⟨[], _, rfl, .nil, rfl⟩
    · rintro ⟨records, rest, -, frames, rfl⟩
      cases frames
      rfl
  | succ count ih =>
    rw [decodeRecords, sliceFrom_ok data offset inside, ok_bind]
    constructor
    · intro read
      split at read <;> try cases read
      next value consumed decoded =>
        obtain ⟨encoded, left, here, record, rfl⟩ := (decodeRecord_iff ..).mp decoded
        obtain ⟨within, behind⟩ := drop_inside here inside
        rw [bind_eq_ok] at read
        obtain ⟨tail, tailRead, read⟩ := read
        split at read <;> cases read
        obtain ⟨records, rest, atTail, frames, rfl⟩ := (ih _ _ within).mp tailRead
        have framed : (recordFraming crc).Frame encoded [value] := ⟨value, rfl, record⟩
        refine ⟨encoded ++ records, rest, ?_, .cons framed frames, ?_⟩
        · rw [here, List.append_assoc, ← atTail, behind]
        · rw [List.length_append, Nat.add_assoc]
    · rintro ⟨records, rest, here, frames, rfl⟩
      cases frames with
      | cons head tail =>
        obtain ⟨value, rfl, record⟩ := head
        rw [List.append_assoc] at here
        obtain ⟨within, behind⟩ := drop_inside here inside
        have tailRead := (ih _ _ within).mpr ⟨_, rest, behind, tail, by rw [List.length_append, Nat.add_assoc]⟩
        rw [here, record.follow]
        simp only [tailRead, ok_bind, List.singleton_append]

/-! ### Batches -/

/-- The bytes are one batch and nothing else: the header with its magic and record count, so
many records, and the footer with its magic and the CRC of everything before it. -/
def IsBatch (crc : Crc32fast) (bytes : List UInt8) (events : List RecordedEvent) : Prop :=
  ∃ count first records, (recordFraming crc).Frames count.toNat records events ∧
    bytes = encodeBatchHeader count first ++
      (records ++ encodeBatchFooter (crc.hash (encodeBatchHeader count first ++ records)))

theorem IsBatch.length {crc : Crc32fast} {bytes : List UInt8} {events : List RecordedEvent}
    (batch : IsBatch crc bytes events) : 24 ≤ bytes.length := by
  obtain ⟨count, first, records, -, rfl⟩ := batch
  rw [List.length_append, List.length_append, length_encodeBatchHeader, length_encodeBatchFooter]
  omega

theorem encodeBatchHeader_decoded (buf : List UInt8) (long : 16 ≤ buf.length)
    (right : buf.take 4 = batchHeaderMagic) :
    encodeBatchHeader (u32OfBytes ((buf.take 8).drop 4)) (u64OfBytes ((buf.take 16).drop 8)) = buf.take 16 := by
  have countField : u32ToBytes (u32OfBytes ((buf.take 8).drop 4)) = (buf.take 8).drop 4 := by
    apply u32ToBytes_u32OfBytes
    rw [List.length_drop, List.length_take]
    omega
  have firstField : u64ToBytes (u64OfBytes ((buf.take 16).drop 8)) = (buf.take 16).drop 8 := by
    apply u64ToBytes_u64OfBytes
    rw [List.length_drop, List.length_take]
    omega
  have four : (buf.take 8).take 4 = buf.take 4 := by rw [List.take_take]; rfl
  have eight : (buf.take 16).take 8 = buf.take 8 := by rw [List.take_take]; rfl
  rw [encodeBatchHeader, countField, firstField, ← right, ← four, List.take_append_drop, ← eight,
    List.take_append_drop]

theorem encodeBatchFooter_decoded (buf : List UInt8) (long : 8 ≤ buf.length)
    (right : buf.take 4 = batchFooterMagic) :
    encodeBatchFooter (u32OfBytes ((buf.take 8).drop 4)) = buf.take 8 := by
  have crcField : u32ToBytes (u32OfBytes ((buf.take 8).drop 4)) = (buf.take 8).drop 4 := by
    apply u32ToBytes_u32OfBytes
    rw [List.length_drop, List.length_take]
    omega
  have four : (buf.take 8).take 4 = buf.take 4 := by rw [List.take_take]; rfl
  rw [encodeBatchFooter, crcField, ← right, ← four, List.take_append_drop]

/-- Steps 3 and 4 pass exactly on the footer with the CRC of the batch so far. -/
theorem checkFooter_some (crc : Crc32fast) (data : List UInt8) (batchStart offset next : Nat)
    (ordered : batchStart ≤ offset) (inside : offset ≤ data.length) :
    checkFooter crc data batchStart offset = ok (some next) ↔
      ∃ rest, data.drop offset = encodeBatchFooter (crc.hash ((data.take offset).drop batchStart)) ++ rest ∧
        next = offset + 8 := by
  rw [checkFooter, sliceFrom_ok data offset inside, ok_bind]
  constructor
  · intro read
    by_cases short : (data.drop offset).length < 8
    · rw [decodeBatchFooter_short _ short] at read
      cases read
    by_cases right : (data.drop offset).take 4 = batchFooterMagic
    · have decoded := encodeBatchFooter_decoded (data.drop offset) (by omega) right
      rw [decodeBatchFooter_magic _ (by omega) right] at read
      dsimp only at read
      rw [Nat.add_sub_cancel, slice_ok data batchStart offset ordered inside, ok_bind] at read
      split_ifs at read with differs
      · cases read
      · cases read
        refine ⟨(data.drop offset).drop 8, ?_, rfl⟩
        rw [← Classical.not_not.mp differs, decoded, List.take_append_drop]
    · rw [decodeBatchFooter_wrongMagic _ (by omega) right] at read
      cases read
  · rintro ⟨rest, here, rfl⟩
    rw [here, decodeBatchFooter_encode]
    dsimp only
    rw [show offset + 8 - batchFooterSize = offset from Nat.add_sub_cancel offset 8,
      slice_ok data batchStart offset ordered inside, ok_bind, if_neg (by simp)]

theorem covered_batch {data records behind : List UInt8} {batchStart : Nat} {count : UInt32} {first : UInt64}
    (here : data.drop batchStart = encodeBatchHeader count first ++ (records ++ behind)) :
    (data.take (batchStart + 16 + records.length)).drop batchStart = encodeBatchHeader count first ++ records := by
  have width : batchStart + 16 + records.length - batchStart = (encodeBatchHeader count first ++ records).length := by
    rw [List.length_append, length_encodeBatchHeader]
    omega
  rw [List.drop_take, here, width, ← List.append_assoc, List.take_left]

theorem isBatch_of_read (crc : Crc32fast) (data remaining : List UInt8) (batchStart validEvents next : Nat)
    (events : List RecordedEvent) (count : UInt32) (first : UInt64) (inside : batchStart ≤ data.length)
    (here : data.drop batchStart = encodeBatchHeader count first ++ remaining)
    (read : readBatch crc data batchStart validEvents = ok (some (events, next))) :
    ∃ bytes rest, data.drop batchStart = bytes ++ rest ∧ IsBatch crc bytes events ∧
      next = batchStart + bytes.length := by
  obtain ⟨within, atRecords⟩ := drop_inside here inside
  rw [length_encodeBatchHeader] at within atRecords
  rw [readBatch_of_header crc data _ batchStart validEvents _ _ inside here, bind_eq_ok] at read
  obtain ⟨found, recordsRead, read⟩ := read
  split at read
  · cases read
  next values offset =>
    rw [bind_eq_ok] at read
    obtain ⟨footer, footerRead, read⟩ := read
    split at read <;> cases read
    obtain ⟨records, behind, atBehind, frames, rfl⟩ := (decodeRecords_some crc data _ _ _ _ within).mp recordsRead
    obtain ⟨within', atFooter⟩ := drop_inside atBehind within
    obtain ⟨rest, footerHere, rfl⟩ := (checkFooter_some crc data _ _ _ (by omega) within').mp footerRead
    rw [← atRecords, atBehind] at here
    rw [covered_batch here, atFooter] at footerHere
    refine ⟨_, rest, ?_, ⟨count, first, records, frames, rfl⟩, ?_⟩
    · rw [here, footerHere, List.append_assoc, List.append_assoc]
    · rw [List.length_append, List.length_append, length_encodeBatchHeader, length_encodeBatchFooter]
      omega

/-- One turn of the recovery loop takes exactly the batches of the grammar. -/
theorem readBatch_some (crc : Crc32fast) (data : List UInt8) (batchStart validEvents next : Nat)
    (events : List RecordedEvent) (inside : batchStart ≤ data.length) :
    readBatch crc data batchStart validEvents = ok (some (events, next)) ↔
      ∃ bytes rest, data.drop batchStart = bytes ++ rest ∧ IsBatch crc bytes events ∧
        next = batchStart + bytes.length := by
  constructor
  · intro read
    by_cases short : (data.drop batchStart).length < 16
    · rw [readBatch, readBatchOn, sliceFrom_ok data batchStart inside, ok_bind, decodeBatchHeader_short _ short] at read
      cases read
    by_cases right : (data.drop batchStart).take 4 = batchHeaderMagic
    · have here := List.take_append_drop 16 (data.drop batchStart)
      rw [← encodeBatchHeader_decoded _ (by omega) right] at here
      exact isBatch_of_read crc data _ batchStart validEvents _ events _ _ inside here.symm read
    · rw [readBatch, readBatchOn, sliceFrom_ok data batchStart inside, ok_bind,
        decodeBatchHeader_wrongMagic _ (by omega) right] at read
      simp only [corrupt, bind_eq_ok] at read
      obtain ⟨follows, -, read⟩ := read
      split_ifs at read
      cases read
  · rintro ⟨bytes, rest, here, ⟨count, first, records, frames, rfl⟩, rfl⟩
    rw [List.append_assoc, List.append_assoc] at here
    obtain ⟨within, atRecords⟩ := drop_inside here inside
    rw [length_encodeBatchHeader] at within atRecords
    obtain ⟨within', atFooter⟩ := drop_inside atRecords within
    have recordsRead := (decodeRecords_some crc data _ _ _ _ within).mpr ⟨records, _, atRecords, frames, rfl⟩
    have footerRead := (checkFooter_some crc data batchStart _ _ (by omega) within').mpr
      ⟨rest, by rw [covered_batch here, atFooter], rfl⟩
    have size : batchStart + (encodeBatchHeader count first ++ (records ++ encodeBatchFooter
        (crc.hash (encodeBatchHeader count first ++ records)))).length = batchStart + 16 + records.length + 8 := by
      rw [List.length_append, List.length_append, length_encodeBatchHeader, length_encodeBatchFooter]
      omega
    rw [readBatch_of_header crc data _ batchStart validEvents _ _ inside here, recordsRead, ok_bind, size]
    simp only [footerRead, ok_bind]

theorem IsBatch.follow {crc : Crc32fast} {bytes : List UInt8} {events : List RecordedEvent}
    (batch : IsBatch crc bytes events) (rest : List UInt8) :
    readBatch crc (bytes ++ rest) 0 0 = ok (some (events, bytes.length)) :=
  (readBatch_some crc _ 0 0 _ _ (Nat.zero_le _)).mpr ⟨bytes, rest, rfl, batch, (Nat.zero_add _).symm⟩

def batchFraming (crc : Crc32fast) : Framing UInt8 RecordedEvent where
  Frame := IsBatch crc
  nonempty := by
    intro events batch
    exact absurd batch.length (by decide)
  unambiguous := by
    intro bytes events other others rest left batch batch' same
    have read := batch.follow rest
    rw [same, batch'.follow left, ok.injEq, Option.some.injEq, Prod.mk.injEq] at read
    exact ⟨List.append_inj_left same read.2.symm, read.1.symm⟩

theorem isBatch_encode (crc : Crc32fast) (batch : Batch) (small : batch.Small) :
    IsBatch crc (batch.encode crc) batch.events := by
  have read := readBatch_encode crc batch small (batch.encode crc) [] 0 0 (Nat.zero_le _) (List.append_nil _).symm
  obtain ⟨bytes, rest, here, isBatch, size⟩ := (readBatch_some crc _ 0 0 _ _ (Nat.zero_le _)).mp read
  rw [List.drop_zero] at here
  have whole : rest = [] := by
    have lengths := congrArg List.length here
    rw [List.length_append] at lengths
    exact List.eq_nil_of_length_eq_zero (by omega)
  rwa [here, whole, List.append_nil]

theorem frames_encodeAll (crc : Crc32fast) (batches : List Batch) (small : ∀ batch ∈ batches, batch.Small) :
    (batchFraming crc).Frames batches.length (encodeAll crc batches) (eventsOf batches) := by
  induction batches with
  | nil => exact .nil
  | cons batch batches ih =>
    have head : (batchFraming crc).Frame (batch.encode crc) batch.events :=
      isBatch_encode crc batch (small batch (List.mem_cons_self ..))
    exact .cons head (ih (fun other member => small other (List.mem_cons_of_mem _ member)))

end EventfoldDb.BatchGrammar
