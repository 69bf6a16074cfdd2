import EventfoldDb.AppendSpec

/-! Records written one behind the other come back one by one: each decoding ends exactly where
the next record begins, whatever follows the last one, and a record that is cut anywhere is
reported as incomplete. -/

namespace EventfoldDb.RecordSequences
open LittleEndian Outcome CodecRoundTrip Recovery AppendSpec

/-- Decode records from a moving offset, each with the number of bytes it took; stop where no
complete record stands. -/
def decodeSequence (crc : Crc32fast) (buf : List UInt8) : Nat → Nat → Outcome Error (List (RecordedEvent × Nat))
  | 0, _ => ok []
  | count + 1, offset => do
      match ← decodeRecord crc (← sliceFrom buf offset) with
      | .complete event consumed => return (event, consumed) :: (← decodeSequence crc buf count (offset + consumed))
      | .incomplete => return []

def withLength (crc : Crc32fast) (event : RecordedEvent) : RecordedEvent × Nat := (event, (encodeRecord crc event).length)

theorem decodeSequence_recordBytes (crc : Crc32fast) (before rest : List UInt8) (events : List RecordedEvent)
    (admitted : ∀ event ∈ events, Admissible event) :
    decodeSequence crc (before ++ (recordBytes crc events ++ rest)) events.length before.length =
      ok (events.map (withLength crc)) := by
  induction events generalizing before with
  | nil => rfl
  | cons event events ih =>
    have first : decodeRecord crc (encodeRecord crc event ++ (recordBytes crc events ++ rest)) =
        ok (.complete event (encodeRecord crc event).length) := by
      rw [decodeRecord_encodeRecord crc event (admitted event (List.mem_cons_self ..)), length_encodeRecord]
    -- The rest of the loop sees the first record as one more part of what lies before it.
    have others := ih (before ++ encodeRecord crc event)
      (fun other member => admitted other (List.mem_cons_of_mem _ member))
    rw [List.length_append, List.append_assoc] at others
    have here : recordBytes crc (event :: events) ++ rest =
        encodeRecord crc event ++ (recordBytes crc events ++ rest) := by
      rw [recordBytes, List.flatMap_cons, List.append_assoc]
      rfl
    rw [List.length_cons, decodeSequence, here, sliceFrom_ok _ _ (by rw [List.length_append]; omega), ok_bind,
      List.drop_left, first, ok_bind]
    simp only [others, ok_bind, pure_eq, List.map_cons, withLength]

structure CastsExact (event : RecordedEvent) : Prop where
  eventType : (UInt16.ofNat (asBytes event.eventType).length).toNat = (asBytes event.eventType).length
  metadata : (UInt32.ofNat event.metadata.length).toNat = event.metadata.length
  payload : (UInt32.ofNat event.payload.length).toNat = event.payload.length
  body : (UInt32.ofNat (fixedBodySize + (asBytes event.eventType).length + event.metadata.length +
    event.payload.length)).toNat =
      fixedBodySize + (asBytes event.eventType).length + event.metadata.length + event.payload.length

theorem castsExact_of_admissible (event : RecordedEvent) (admissible : Admissible event) : CastsExact event := by
  constructor
  case eventType => exact admissible.lengthsFit.typeLen
  case metadata => exact admissible.lengthsFit.metadataLen
  case payload => exact admissible.lengthsFit.payloadLen
  case body =>
    have field := admissible.prefixLen
    rwa [length_encodeBody] at field

theorem decodeRecord_cut_short (crc : Crc32fast) (event : RecordedEvent) (admissible : Admissible event)
    (cut : List UInt8) (front : cut <+: encodeRecord crc event) (proper : cut ≠ encodeRecord crc event) :
    decodeRecord crc cut = ok .incomplete := by
  have shorter : cut.length < recordSize event := by
    rw [← length_encodeRecord crc]
    exact lt_of_le_of_ne front.length_le (fun same => proper (front.eq_of_length same))
  rw [List.prefix_iff_eq_take.mp front]
  exact decodeRecord_cut crc event admissible cut.length shorter

/-- The record format over everything `append` lets through: it round-trips in sequence, no
encoding is complete before its last byte, and no length is truncated. -/
theorem records_round_trip (crc : Crc32fast) (events : List RecordedEvent) (rest : List UInt8)
    (admitted : ∀ event ∈ events, Admissible event) :
    decodeSequence crc (recordBytes crc events ++ rest) events.length 0 = ok (events.map (withLength crc)) ∧
      ∀ event ∈ events, CastsExact event ∧ ∀ cut, cut <+: encodeRecord crc event → cut ≠ encodeRecord crc event →
        decodeRecord crc cut = ok .incomplete := by
  constructor
  · exact decodeSequence_recordBytes crc [] rest events admitted
  · intro event member
    exact ⟨castsExact_of_admissible event (admitted event member),
      decodeRecord_cut_short crc event (admitted event member)⟩

theorem records_round_trip_plain :
    decodeSequence .ieee (recordBytes .ieee [plainRecord, plainRecord] ++ [7]) 2 0 =
        ok ([plainRecord, plainRecord].map (withLength .ieee)) ∧
      decodeRecord .ieee ((encodeRecord .ieee plainRecord).take 30) = ok .incomplete := by
  have admitted : ∀ event ∈ [plainRecord, plainRecord], Admissible event := by
    intro event member
    have same : event = plainRecord := by simpa using member
    rw [same]
    exact plainRecord_admissible
  have front := List.take_prefix 30 (encodeRecord .ieee plainRecord)
  have proper : (encodeRecord .ieee plainRecord).take 30 ≠ encodeRecord .ieee plainRecord := by
    intro same
    have lengths := congrArg List.length same
    rw [List.length_take, length_encodeRecord, recordSize, fixedBodySize] at lengths
    omega
  obtain ⟨sequence, each⟩ := records_round_trip .ieee [plainRecord, plainRecord] [7] admitted
  exact ⟨sequence, (each plainRecord (List.mem_cons_self ..)).2 _ front proper⟩

end EventfoldDb.RecordSequences
