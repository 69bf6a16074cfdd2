import EventfoldDb.Store
import EventfoldDb.CodecRoundTrip

/-! What the recovery loop does with a file made of whole batches and whatever follows
them: it takes every whole batch, and stops at the first offset that does not hold one. -/

namespace EventfoldDb.Recovery
open LittleEndian Outcome CodecRoundTrip

/-- One accepted append: the position its header announces and the records under it. -/
structure Batch where
  first : UInt64
  events : List RecordedEvent
  admissible : ∀ event ∈ events, Admissible event

def recordBytes (crc : Crc32fast) (events : List RecordedEvent) : List UInt8 :=
  events.flatMap (encodeRecord crc)

def Batch.encode (crc : Crc32fast) (batch : Batch) : List UInt8 :=
  encodeBatch crc batch.events.length batch.first (recordBytes crc batch.events)

/-- The record count survives its `as u32`. -/
def Batch.Small (batch : Batch) : Prop := batch.events.length < 2 ^ 32

def encodeAll (crc : Crc32fast) (batches : List Batch) : List UInt8 := batches.flatMap (Batch.encode crc)

theorem encodeAll_cons (crc : Crc32fast) (batch : Batch) (batches : List Batch) :
    encodeAll crc (batch :: batches) = batch.encode crc ++ encodeAll crc batches := List.flatMap_cons ..

def fileBytes (crc : Crc32fast) (batches : List Batch) : List UInt8 := encodeHeader ++ encodeAll crc batches

def eventsOf (batches : List Batch) : List RecordedEvent := batches.flatMap Batch.events

theorem encode_eq (crc : Crc32fast) (batch : Batch) :
    batch.encode crc = encodeBatchHeader (UInt32.ofNat batch.events.length) batch.first ++
      (recordBytes crc batch.events ++ encodeBatchFooter (crc.hash
        (encodeBatchHeader (UInt32.ofNat batch.events.length) batch.first ++ recordBytes crc batch.events))) := by
  have hashed := crc.incremental
    [encodeBatchHeader (UInt32.ofNat batch.events.length) batch.first, recordBytes crc batch.events]
  simp only [List.foldl_cons, List.foldl_nil, List.flatten_cons, List.flatten_nil, List.append_nil] at hashed
  simp only [Batch.encode, encodeBatch, hashed, List.append_assoc]

theorem length_encode (crc : Crc32fast) (batch : Batch) :
    (batch.encode crc).length = 16 + (recordBytes crc batch.events).length + 8 := by
  rw [encode_eq, List.length_append, List.length_append, length_encodeBatchHeader, length_encodeBatchFooter]
  omega

theorem length_encode_le (crc : Crc32fast) (batch : Batch) :
    (batch.encode crc).length ≤ 24 + batch.events.length * maxEventSize := by
  have records : ∀ events : List RecordedEvent, (∀ event ∈ events, Admissible event) →
      (recordBytes crc events).length ≤ events.length * maxEventSize := by
    intro events admissible
    induction events with
    | nil => exact Nat.zero_le _
    | cons event events ih =>
      have fits := (admissible event (List.mem_cons_self ..)).recordFits
      have rest := ih (fun other member => admissible other (List.mem_cons_of_mem _ member))
      rw [recordBytes, List.flatMap_cons, List.length_append, length_encodeRecord, ← recordBytes, List.length_cons,
        Nat.add_mul, Nat.one_mul]
      omega
  have bound := records batch.events batch.admissible
  rw [length_encode]
  omega

theorem take_four_encode (crc : Crc32fast) (batch : Batch) (rest : List UInt8) :
    (batch.encode crc ++ rest).take 4 = batchHeaderMagic := by
  rw [encode_eq]
  simp [encodeBatchHeader, batchHeaderMagic]

/-! ### Records -/

theorem drop_inside {bytes : List UInt8} {offset : Nat} {first rest : List UInt8}
    (here : bytes.drop offset = first ++ rest) (inside : offset ≤ bytes.length) :
    offset + first.length ≤ bytes.length ∧ bytes.drop (offset + first.length) = rest := by
  constructor
  · have lengths := congrArg List.length here
    rw [List.length_drop, List.length_append] at lengths
    omega
  · rw [← List.drop_drop, here, List.drop_left]

theorem decodeRecords_whole (crc : Crc32fast) (events : List RecordedEvent)
    (admissible : ∀ event ∈ events, Admissible event) (data rest : List UInt8) (offset : Nat)
    (inside : offset ≤ data.length) (here : data.drop offset = recordBytes crc events ++ rest) :
    decodeRecords crc data events.length offset =
      ok (some (events, offset + (recordBytes crc events).length)) := by
  induction events generalizing offset with
  | nil => simp [decodeRecords, recordBytes]
  | cons event events ih =>
    have here' : data.drop offset = encodeRecord crc event ++ (recordBytes crc events ++ rest) := by
      rw [here, recordBytes, List.flatMap_cons, List.append_assoc]
      rfl
    obtain ⟨inside', next⟩ := drop_inside here' inside
    rw [length_encodeRecord] at inside' next
    have tail := ih (fun other member => admissible other (List.mem_cons_of_mem _ member)) _ inside' next
    have total : offset + (recordBytes crc (event :: events)).length =
        offset + recordSize event + (recordBytes crc events).length := by
      rw [recordBytes, List.flatMap_cons, List.length_append, length_encodeRecord, recordBytes]
      omega
    rw [List.length_cons, decodeRecords, sliceFrom_ok data offset inside, ok_bind, here',
      decodeRecord_encodeRecord crc event (admissible event (List.mem_cons_self ..)), total]
    simp only [tail, ok_bind]

theorem decodeRecords_cut (crc : Crc32fast) (events : List RecordedEvent)
    (admissible : ∀ event ∈ events, Admissible event) (data : List UInt8) (offset kept : Nat)
    (inside : offset ≤ data.length) (short : kept < (recordBytes crc events).length)
    (here : data.drop offset = (recordBytes crc events).take kept) :
    decodeRecords crc data events.length offset = ok none := by
  induction events generalizing offset kept with
  | nil => simp [recordBytes] at short
  | cons event events ih =>
    have headAdmissible := admissible event (List.mem_cons_self ..)
    have split : recordBytes crc (event :: events) = encodeRecord crc event ++ recordBytes crc events := by
      rw [recordBytes, List.flatMap_cons, recordBytes]
    rw [split] at here short
    rw [List.length_append, length_encodeRecord] at short
    rw [List.length_cons, decodeRecords, sliceFrom_ok data offset inside, ok_bind]
    by_cases inHead : kept < recordSize event
    · have cut : data.drop offset = (encodeRecord crc event).take kept := by
        rw [here, List.take_append_of_le_length (by rw [length_encodeRecord]; omega)]
      rw [cut, decodeRecord_cut crc event headAdmissible kept inHead]
    · have here' : data.drop offset =
          encodeRecord crc event ++ (recordBytes crc events).take (kept - recordSize event) := by
        rw [here, List.take_append, List.take_of_length_le (by rw [length_encodeRecord]; omega),
          length_encodeRecord]
      obtain ⟨inside', next⟩ := drop_inside here' inside
      rw [length_encodeRecord] at inside' next
      have tail := ih (fun other member => admissible other (List.mem_cons_of_mem _ member)) _ _
        inside' (by omega) next
      rw [here', decodeRecord_encodeRecord crc event headAdmissible]
      simp only [tail, ok_bind]

/-! ### One turn of the loop -/

theorem readBatch_of_header (crc : Crc32fast) (data rest : List UInt8) (batchStart validEvents : Nat)
    (count : UInt32) (first : UInt64) (inside : batchStart ≤ data.length)
    (here : data.drop batchStart = encodeBatchHeader count first ++ rest) :
    readBatch crc data batchStart validEvents =
      decodeRecords crc data count.toNat (batchStart + 16) >>= fun records =>
        match records with
        | none => ok none
        | some (batchEvents, offset) =>
            checkFooter crc data batchStart offset >>= fun footer =>
              match footer with
              | none => ok none
              | some next => ok (some (batchEvents, next)) := by
  rewrite [readBatch, readBatchOn, sliceFrom_ok data batchStart inside, ok_bind, here, decodeBatchHeader_encode]
  rfl

theorem Batch.Small.count {batch : Batch} (small : batch.Small) :
    (UInt32.ofNat batch.events.length).toNat = batch.events.length := by
  rw [UInt32.toNat_ofNat', Nat.mod_eq_of_lt small]

theorem checkFooter_wrongMagic (crc : Crc32fast) (batchStart : Nat) {data : List UInt8} {offset : Nat}
    (inside : offset ≤ data.length) (long : 8 ≤ (data.drop offset).length)
    (wrong : (data.drop offset).take 4 ≠ batchFooterMagic) : checkFooter crc data batchStart offset = ok none := by
  rw [checkFooter, sliceFrom_ok data offset inside, ok_bind, decodeBatchFooter_wrongMagic _ long wrong]
  rfl

theorem readBatch_encode (crc : Crc32fast) (batch : Batch) (small : batch.Small) (data rest : List UInt8)
    (batchStart validEvents : Nat) (inside : batchStart ≤ data.length)
    (here : data.drop batchStart = batch.encode crc ++ rest) :
    readBatch crc data batchStart validEvents =
      ok (some (batch.events, batchStart + (batch.encode crc).length)) := by
  have atHeader := here
  rw [encode_eq, List.append_assoc] at atHeader
  obtain ⟨inside1, atRecords⟩ := drop_inside atHeader inside
  rw [length_encodeBatchHeader] at inside1 atRecords
  have records := decodeRecords_whole crc batch.events batch.admissible data _ _ inside1
    (by rw [atRecords, List.append_assoc])
  rw [List.append_assoc] at atRecords
  obtain ⟨inside2, atFooter⟩ := drop_inside atRecords inside1
  have covered : (data.take (batchStart + 16 + (recordBytes crc batch.events).length)).drop batchStart =
      encodeBatchHeader (UInt32.ofNat batch.events.length) batch.first ++ recordBytes crc batch.events := by
    have width : batchStart + 16 + (recordBytes crc batch.events).length - batchStart =
        (encodeBatchHeader (UInt32.ofNat batch.events.length) batch.first ++
          recordBytes crc batch.events).length := by
      rw [List.length_append, length_encodeBatchHeader]
      omega
    rw [List.drop_take, atHeader, width, List.append_assoc, ← List.append_assoc (encodeBatchHeader _ _),
      List.take_left]
  have footer : checkFooter crc data batchStart (batchStart + 16 + (recordBytes crc batch.events).length) =
      ok (some (batchStart + (batch.encode crc).length)) := by
    rw [checkFooter, sliceFrom_ok data _ inside2, ok_bind, atFooter, decodeBatchFooter_encode]
    dsimp only
    rw [show batchStart + 16 + (recordBytes crc batch.events).length + 8 - batchFooterSize =
        batchStart + 16 + (recordBytes crc batch.events).length by simp [batchFooterSize],
      slice_ok data _ _ (by omega) inside2, ok_bind, covered, if_neg (by simp), length_encode]
    congr 2
    omega
  rw [readBatch_of_header crc data _ batchStart validEvents _ _ inside atHeader, small.count, records, ok_bind]
  simp only [footer, ok_bind]

theorem readBatch_cut (crc : Crc32fast) (batch : Batch) (small : batch.Small) (data : List UInt8)
    (batchStart validEvents kept : Nat) (inside : batchStart ≤ data.length)
    (short : kept < (batch.encode crc).length)
    (here : data.drop batchStart = (batch.encode crc).take kept) :
    readBatch crc data batchStart validEvents = ok none := by
  have remaining : (data.drop batchStart).length = kept := by
    rw [here, List.length_take]
    omega
  rw [length_encode] at short
  by_cases inHeader : kept < 16
  · rw [readBatch, readBatchOn, sliceFrom_ok data batchStart inside, ok_bind,
      decodeBatchHeader_short (data.drop batchStart) (by omega)]
  have atHeader := here
  rw [encode_eq, List.take_append, length_encodeBatchHeader,
    List.take_of_length_le (by rw [length_encodeBatchHeader]; omega)] at atHeader
  rw [readBatch_of_header crc data _ batchStart validEvents _ _ inside atHeader, small.count]
  obtain ⟨inside1, atRecords⟩ := drop_inside atHeader inside
  rw [length_encodeBatchHeader] at inside1 atRecords
  by_cases inRecords : kept - 16 < (recordBytes crc batch.events).length
  · rw [List.take_append_of_le_length (by omega)] at atRecords
    rw [decodeRecords_cut crc batch.events batch.admissible data _ _ inside1 inRecords atRecords, ok_bind]
  · rw [List.take_append, List.take_of_length_le (by omega)] at atRecords
    obtain ⟨inside2, atFooter⟩ := drop_inside atRecords inside1
    have footerShort : (data.drop (batchStart + 16 + (recordBytes crc batch.events).length)).length < 8 := by
      rw [List.length_drop] at remaining ⊢
      omega
    have footer : checkFooter crc data batchStart (batchStart + 16 + (recordBytes crc batch.events).length) =
        ok none := by
      rw [checkFooter, sliceFrom_ok data _ inside2, ok_bind, decodeBatchFooter_short _ footerShort]
    rw [decodeRecords_whole crc batch.events batch.admissible data _ _ inside1 atRecords, ok_bind]
    simp only [footer, ok_bind]

/-- The length prefix of a record is never mistaken for a footer: it would announce a gigabyte. -/
theorem recordPrefix_ne_footer (crc : Crc32fast) (event : RecordedEvent) (admissible : Admissible event)
    (rest : List UInt8) : (encodeRecord crc event ++ rest).take 4 ≠ batchFooterMagic := by
  intro same
  have size := admissible.recordFits
  have room : 4 ≤ (encodeRecord crc event).length := by
    rw [length_encodeRecord]
    simp only [recordSize, lengthPrefixSize]
    omega
  rw [List.take_append_of_le_length room] at same
  have announced := recordLength_encodeRecord crc event admissible (batchFooterMagic)
    (by rw [same]; rfl)
  have huge : recordLength batchFooterMagic = 0x46424645 := by decide
  rw [huge] at announced
  simp only [maxEventSize] at size
  omega

/-- A batch whose record count wrapped around in `as u32` is not readable: the loop decodes too
few records and then looks for the footer inside the next one. -/
theorem readBatch_oversize (crc : Crc32fast) (batch : Batch) (large : ¬batch.Small) (data rest : List UInt8)
    (batchStart validEvents : Nat) (inside : batchStart ≤ data.length)
    (here : data.drop batchStart = batch.encode crc ++ rest) :
    readBatch crc data batchStart validEvents = ok none := by
  have count : (UInt32.ofNat batch.events.length).toNat < batch.events.length := by
    have large' : 2 ^ 32 ≤ batch.events.length := Nat.le_of_not_lt large
    exact Nat.lt_of_lt_of_le (UInt32.toNat_lt _) large'
  generalize wrapped : (UInt32.ofNat batch.events.length).toNat = decoded at count
  have parts : recordBytes crc batch.events = recordBytes crc (batch.events.take decoded) ++
      (encodeRecord crc batch.events[decoded] ++ recordBytes crc (batch.events.drop (decoded + 1))) := by
    have cons : batch.events.drop decoded = batch.events[decoded] :: batch.events.drop (decoded + 1) :=
      List.drop_eq_getElem_cons count
    conv_lhs => rw [← List.take_append_drop decoded batch.events, cons]
    simp only [recordBytes, List.flatMap_append, List.flatMap_cons]
  have atHeader := here
  rw [encode_eq, List.append_assoc] at atHeader
  obtain ⟨inside1, atRecords⟩ := drop_inside atHeader inside
  rw [length_encodeBatchHeader] at inside1 atRecords
  rw [parts] at atRecords
  simp only [List.append_assoc] at atRecords
  have firstPart := decodeRecords_whole crc (batch.events.take decoded)
    (fun event member => batch.admissible event (List.mem_of_mem_take member)) data _ _ inside1 atRecords
  rw [List.length_take, Nat.min_eq_left (Nat.le_of_lt count)] at firstPart
  obtain ⟨inside2, atNext⟩ := drop_inside atRecords inside1
  have nextAdmissible := batch.admissible _ (List.getElem_mem count)
  have long : 8 ≤ (data.drop (batchStart + 16 + (recordBytes crc (batch.events.take decoded)).length)).length := by
    rw [atNext, List.length_append, length_encodeRecord]
    simp only [recordSize, lengthPrefixSize, fixedBodySize]
    omega
  have footer : checkFooter crc data batchStart
      (batchStart + 16 + (recordBytes crc (batch.events.take decoded)).length) = ok none := by
    apply checkFooter_wrongMagic crc batchStart inside2 long
    rw [atNext]
    exact recordPrefix_ne_footer crc _ nextAdmissible _
  rw [readBatch_of_header crc data _ batchStart validEvents _ _ inside atHeader, wrapped, firstPart, ok_bind]
  simp only [footer, ok_bind]

theorem readBatch_wrongFooter (crc : Crc32fast) (batch : Batch) (small : batch.Small) (data footer rest : List UInt8)
    (batchStart validEvents : Nat) (inside : batchStart ≤ data.length) (size : footer.length = 8)
    (wrong : footer.take 4 ≠ batchFooterMagic)
    (here : data.drop batchStart = encodeBatchHeader (UInt32.ofNat batch.events.length) batch.first ++
      (recordBytes crc batch.events ++ (footer ++ rest))) :
    readBatch crc data batchStart validEvents = ok none := by
  obtain ⟨inside1, atRecords⟩ := drop_inside here inside
  rw [length_encodeBatchHeader] at inside1 atRecords
  have records := decodeRecords_whole crc batch.events batch.admissible data _ _ inside1 atRecords
  obtain ⟨inside2, atFooter⟩ := drop_inside atRecords inside1
  have long : 8 ≤ (data.drop (batchStart + 16 + (recordBytes crc batch.events).length)).length := by
    rw [atFooter, List.length_append]
    omega
  have refused : checkFooter crc data batchStart (batchStart + 16 + (recordBytes crc batch.events).length) =
      ok none := by
    apply checkFooter_wrongMagic crc batchStart inside2 long
    rw [atFooter, List.take_append_of_le_length (by omega)]
    exact wrong
  rw [readBatch_of_header crc data _ batchStart validEvents _ _ inside here, small.count, records, ok_bind]
  simp only [refused, ok_bind]

/-! ### Arbitrary bytes -/

theorem decodeRecords_ends (crc : Crc32fast) (data : List UInt8) (count offset : Nat)
    (inside : offset ≤ data.length) :
    ∃ result, decodeRecords crc data count offset = ok result ∧
      ∀ values next, result = some (values, next) → next ≤ data.length := by
  induction count generalizing offset with
  | zero =>
    refine ⟨some ([], offset), rfl, ?_⟩
    intro values next same
    cases same
    exact inside
  | succ count ih =>
    have ends := decodeRecord_ends crc (data.drop offset)
    rw [decodeRecords, sliceFrom_ok data offset inside, ok_bind]
    cases decoded : decodeRecord crc (data.drop offset) with
    | ok outcome =>
      rw [decoded] at ends
      cases outcome with
      | incomplete => exact ⟨none, rfl, by simp⟩
      | complete value consumed =>
        have within : consumed ≤ (data.drop offset).length := ends
        rw [List.length_drop] at within
        obtain ⟨tail, tailRead, bound⟩ := ih (offset + consumed) (by omega)
        cases tail with
        | none => exact ⟨none, by simp only [tailRead, ok_bind], by simp⟩
        | some pair =>
          refine ⟨some (value :: pair.1, pair.2), by simp only [tailRead, ok_bind], ?_⟩
          intro values next same
          cases same
          exact bound pair.1 pair.2 rfl
    | err error =>
      rw [decoded] at ends
      cases error with
      | corruptRecord position detail => exact ⟨none, rfl, by simp⟩
      | _ => exact ends.elim
    | panic =>
      rw [decoded] at ends
      exact ends.elim

theorem checkFooter_ends (crc : Crc32fast) (data : List UInt8) (batchStart offset : Nat)
    (ordered : batchStart ≤ offset) (inside : offset ≤ data.length) :
    ∃ result, checkFooter crc data batchStart offset = ok result ∧ ∀ next, result = some next → next ≤ data.length := by
  rw [checkFooter, sliceFrom_ok data offset inside, ok_bind]
  by_cases short : (data.drop offset).length < 8
  · rw [decodeBatchFooter_short _ short]
    exact ⟨none, rfl, by simp⟩
  by_cases right : (data.drop offset).take 4 = batchFooterMagic
  · rw [decodeBatchFooter_magic _ (by omega) right]
    dsimp only
    rw [Nat.add_sub_cancel, slice_ok data batchStart offset ordered inside, ok_bind]
    split_ifs
    · exact ⟨none, rfl, by simp⟩
    · refine ⟨some _, rfl, ?_⟩
      intro next same
      rw [List.length_drop] at short
      rw [← Option.some.inj same, batchFooterSize]
      omega
  · rw [decodeBatchFooter_wrongMagic _ (by omega) right]
    exact ⟨none, rfl, by simp⟩

theorem readBatch_magic (crc : Crc32fast) (data : List UInt8) (batchStart validEvents : Nat)
    (inside : batchStart + 16 ≤ data.length) (right : (data.drop batchStart).take 4 = batchHeaderMagic) :
    ∃ result, readBatch crc data batchStart validEvents = ok result ∧
      ∀ batchEvents next, result = some (batchEvents, next) → next ≤ data.length := by
  have long : 16 ≤ (data.drop batchStart).length := by rw [List.length_drop]; omega
  rw [readBatch, readBatchOn, sliceFrom_ok data batchStart (by omega), ok_bind, decodeBatchHeader_magic _ long right]
  dsimp only [batchHeaderSize]
  obtain ⟨records, recordsRead, bound⟩ := decodeRecords_ends crc data _ (batchStart + 16) inside
  rw [recordsRead, ok_bind]
  cases records with
  | none => exact ⟨none, rfl, by simp⟩
  | some pair =>
    have moved := decodeRecords_next crc data _ _ _ _ recordsRead
    obtain ⟨footer, footerRead, within⟩ :=
      checkFooter_ends crc data batchStart pair.2 (by omega) (bound _ _ rfl)
    dsimp only
    rw [footerRead, ok_bind]
    cases footer with
    | none => exact ⟨none, rfl, by simp⟩
    | some next =>
      refine ⟨some (pair.1, next), rfl, ?_⟩
      intro batchEvents last same
      cases same
      exact within next rfl

def HeaderAt (data : List UInt8) (offset : Nat) : Prop :=
  offset + 16 ≤ data.length ∧ (data.drop offset).take 4 = batchHeaderMagic

theorem anyBatchHeader_iff (data : List UInt8) (probes : List Nat) (bounded : ∀ probe ∈ probes, probe ≤ data.length) :
    ∃ follows, anyBatchHeader data probes = ok follows ∧ (follows = true ↔ ∃ probe ∈ probes, HeaderAt data probe) := by
  induction probes with
  | nil => exact ⟨false, rfl, by simp⟩
  | cons probe probes ih =>
    obtain ⟨later, scanned, found⟩ := ih (fun other member => bounded other (List.mem_cons_of_mem _ member))
    have here := bounded probe (List.mem_cons_self ..)
    have size : (data.drop probe).length = data.length - probe := List.length_drop
    -- a probe that is no header leaves the answer to the probes behind it
    have skipped : ¬HeaderAt data probe → (later = true ↔ ∃ other ∈ probe :: probes, HeaderAt data other) := by
      intro notHere
      simp only [List.mem_cons, exists_eq_or_imp, notHere, false_or, found]
    rw [anyBatchHeader, sliceFrom_ok data probe here, ok_bind]
    by_cases short : (data.drop probe).length < 16
    · rw [decodeBatchHeader_short _ short]
      exact ⟨later, scanned, skipped (fun header => by have := header.1; omega)⟩
    by_cases right : (data.drop probe).take 4 = batchHeaderMagic
    · rw [decodeBatchHeader_magic _ (by omega) right]
      exact ⟨true, rfl, by simpa using .inl ⟨by omega, right⟩⟩
    · rw [decodeBatchHeader_wrongMagic _ (by omega) right]
      exact ⟨later, scanned, skipped (fun header => right header.2)⟩

theorem hasValidBatchAfter_iff (data : List UInt8) (start : Nat) :
    ∃ follows, hasValidBatchAfter data start = ok follows ∧
      (follows = true ↔ ∃ probe, start < probe ∧ HeaderAt data probe) := by
  obtain ⟨follows, scanned, found⟩ := anyBatchHeader_iff data
    (List.range' (start + 1) (data.length - (start + 1))) (by simp only [List.mem_range'_1]; omega)
  refine ⟨follows, scanned, found.trans ⟨?_, ?_⟩⟩
  · rintro ⟨probe, member, header⟩
    rw [List.mem_range'_1] at member
    exact ⟨probe, by omega, header⟩
  · rintro ⟨probe, later, header⟩
    have inside := header.1
    exact ⟨probe, List.mem_range'_1.mpr (by omega), header⟩

/-- Bad magic: an error if a batch header follows anywhere, a torn place otherwise. -/
theorem readBatch_badMagic (crc : Crc32fast) (data : List UInt8) (batchStart validEvents : Nat)
    (inside : batchStart + 16 ≤ data.length) (wrong : (data.drop batchStart).take 4 ≠ batchHeaderMagic) :
    ((∃ probe, batchStart < probe ∧ HeaderAt data probe) ∧ readBatch crc data batchStart validEvents =
      err (.corruptRecord (UInt64.ofNat validEvents) "mid-file corruption: valid batch follows corrupt data")) ∨
    ((¬∃ probe, batchStart < probe ∧ HeaderAt data probe) ∧
      readBatch crc data batchStart validEvents = ok none) := by
  have long : 16 ≤ (data.drop batchStart).length := by rw [List.length_drop]; omega
  obtain ⟨follows, scanned, found⟩ := hasValidBatchAfter_iff data batchStart
  rw [readBatch, readBatchOn, sliceFrom_ok data batchStart (by omega), ok_bind, decodeBatchHeader_wrongMagic _ long wrong]
  simp only [corrupt, scanned, ok_bind, ← found]
  cases follows with
  | true => exact .inl ⟨rfl, rfl⟩
  | false => exact .inr ⟨Bool.false_ne_true, rfl⟩

theorem readBatch_wrongMagic (crc : Crc32fast) (data : List UInt8) (batchStart validEvents probe : Nat)
    (wrong : (data.drop batchStart).take 4 ≠ batchHeaderMagic) (later : batchStart < probe)
    (inside : probe + 16 ≤ data.length) (right : (data.drop probe).take 4 = batchHeaderMagic) :
    readBatch crc data batchStart validEvents =
      err (.corruptRecord (UInt64.ofNat validEvents) "mid-file corruption: valid batch follows corrupt data") := by
  rcases readBatch_badMagic crc data batchStart validEvents (by omega) wrong with ⟨-, read⟩ | ⟨nothing, -⟩
  · exact read
  · exact absurd ⟨probe, later, inside, right⟩ nothing

theorem readBatch_ends (crc : Crc32fast) (data : List UInt8) (batchStart validEvents : Nat)
    (inside : batchStart ≤ data.length) :
    (∃ result, readBatch crc data batchStart validEvents = ok result ∧
      ∀ batchEvents next, result = some (batchEvents, next) → next ≤ data.length) ∨
    ∃ position detail, readBatch crc data batchStart validEvents = err (.corruptRecord position detail) := by
  by_cases short : (data.drop batchStart).length < 16
  · left
    refine ⟨none, ?_, by simp⟩
    rw [readBatch, readBatchOn, sliceFrom_ok data batchStart inside, ok_bind, decodeBatchHeader_short _ short]
  rw [List.length_drop] at short
  by_cases right : (data.drop batchStart).take 4 = batchHeaderMagic
  · exact .inl (readBatch_magic crc data batchStart validEvents (by omega) right)
  rcases readBatch_badMagic crc data batchStart validEvents (by omega) right with ⟨-, read⟩ | ⟨-, read⟩
  · exact .inr ⟨_, _, read⟩
  · exact .inl ⟨none, read, by simp⟩

end EventfoldDb.Recovery
