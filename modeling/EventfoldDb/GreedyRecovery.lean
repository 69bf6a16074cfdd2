import EventfoldDb.RecoveryLoop

/-! `Store::open` on arbitrary bytes behind a valid header: it keeps the longest beginning of
the file that the grammar accepts, or reports corruption and touches nothing. -/

namespace EventfoldDb.GreedyRecovery
open LittleEndian Outcome CodecRoundTrip Recovery RecoveryLoop BatchGrammar

def IsLog (crc : Crc32fast) (bytes : List UInt8) (events : List RecordedEvent) : Prop :=
  ∃ count batches, (batchFraming crc).Frames count batches events ∧ bytes = encodeHeader ++ batches

structure LongestLog (crc : Crc32fast) (data kept : List UInt8) (events : List RecordedEvent) : Prop where
  isPrefix : kept <+: data
  isLog : IsLog crc kept events
  longest : ∀ other others, other <+: data → IsLog crc other others → other.length ≤ kept.length

theorem IsLog.events_eq {crc : Crc32fast} {bytes : List UInt8} {events others : List RecordedEvent}
    (isLog : IsLog crc bytes events) (isLog' : IsLog crc bytes others) : events = others := by
  obtain ⟨count, batches, frames, rfl⟩ := isLog
  obtain ⟨count', batches', frames', same⟩ := isLog'
  rw [← List.append_cancel_left same] at frames'
  exact frames.items_eq frames'

theorem LongestLog.events_eq {crc : Crc32fast} {data kept kept' : List UInt8} {events others : List RecordedEvent}
    (longest : LongestLog crc data kept events) (longest' : LongestLog crc data kept' others) : events = others := by
  have shorter := longest'.longest _ _ longest.isPrefix longest.isLog
  have longer := longest.longest _ _ longest'.isPrefix longest'.isLog
  have same : kept = kept' := by
    apply (List.prefix_of_prefix_length_le longest.isPrefix longest'.isPrefix shorter).eq_of_length
    omega
  rw [same] at longest
  exact longest.isLog.events_eq longest'.isLog

/-- The bytes behind the batches the loop took: none, or bytes that no batch begins. -/
def Leaves (crc : Crc32fast) (rest : List UInt8) (stop : Nat) (cut : Option Nat) : Prop :=
  cut = none ∧ rest = [] ∨ cut = some stop ∧ ¬(batchFraming crc).Begins rest

theorem begins_iff_read (crc : Crc32fast) (data : List UInt8) (offset validEvents : Nat)
    (inside : offset ≤ data.length) :
    (batchFraming crc).Begins (data.drop offset) ↔
      ∃ pair, readBatch crc data offset validEvents = ok (some pair) := by
  constructor
  · rintro ⟨bytes, events, rest, batch, here⟩
    exact ⟨_, (readBatch_some crc data offset validEvents _ _ inside).mpr ⟨bytes, rest, here, batch, rfl⟩⟩
  · rintro ⟨pair, read⟩
    obtain ⟨bytes, rest, here, batch, -⟩ := (readBatch_some crc data offset validEvents _ _ inside).mp read
    exact ⟨bytes, pair.1, rest, batch, here⟩

theorem recoverLoop_parses (crc : Crc32fast) (data : List UInt8) (offset : Nat) (log recovered : EventLog)
    (cut : Option Nat) (inside : offset ≤ data.length)
    (loop : recoverLoop crc data offset log = ok (recovered, cut)) :
    ∃ count batches rest events, data.drop offset = batches ++ rest ∧
      (batchFraming crc).Frames count batches events ∧ recovered = log.commit events ∧
      Leaves crc rest (offset + batches.length) cut := by
  induction left : data.length - offset using Nat.strong_induction_on generalizing offset log with
  | _ remaining ih =>
    by_cases atEnd : offset = data.length
    · rw [atEnd, recoverLoop_atEnd] at loop
      cases loop
      exact ⟨0, [], [], [], by rw [atEnd, List.drop_length]; rfl, .nil, rfl, .inl ⟨rfl, rfl⟩⟩
    have before : offset < data.length := Nat.lt_of_le_of_ne inside atEnd
    rcases readBatch_ends crc data offset log.events.length inside with ⟨result, read, -⟩ | ⟨position, detail, read⟩
    · cases result with
      | none =>
        rw [recoverLoop_torn crc data offset log before read] at loop
        cases loop
        refine ⟨0, [], data.drop offset, [], rfl, .nil, rfl, .inr ⟨rfl, ?_⟩⟩
        rw [begins_iff_read crc data offset _ inside]
        rintro ⟨pair, taken⟩
        rw [read] at taken
        cases taken
      | some pair =>
        have moved := readBatch_next crc data offset _ pair.2 pair.1 read
        obtain ⟨bytes, behind, here, batch, next⟩ := (readBatch_some crc data offset _ _ _ inside).mp read
        obtain ⟨within, atBehind⟩ := drop_inside here inside
        rw [recoverLoop_take crc data offset log pair.1 pair.2 before read, next] at loop
        obtain ⟨count, batches, rest, events, split, frames, committed, leaves⟩ :=
          ih _ (by omega) _ _ within loop rfl
        refine ⟨count + 1, bytes ++ batches, rest, pair.1 ++ events, ?_, .cons batch frames, ?_, ?_⟩
        · rw [here, List.append_assoc, ← split, atBehind]
        · rw [committed, commit_append]
        · rwa [List.length_append, ← Nat.add_assoc]
    · rw [recoverLoop_failed crc data offset log _ before read] at loop
      cases loop

theorem decodeHeader_eq_ok {bytes : List UInt8} {version : UInt32} (size : bytes.length = 8)
    (read : decodeHeader bytes = ok version) : bytes = encodeHeader := by
  have magicPart : (slice bytes 0 4 : Outcome Error (List UInt8)) = ok (bytes.take 4) :=
    slice_ok bytes 0 4 (by omega) (by omega)
  have versionPart : (slice bytes 4 8 : Outcome Error (List UInt8)) = ok (bytes.drop 4) := by
    rw [slice_ok bytes 4 8 (by omega) (by omega), List.take_of_length_le (by omega)]
  rw [decodeHeader, magicPart, ok_bind] at read
  split_ifs at read with wrongMagic
  rw [versionPart, ok_bind] at read
  dsimp only at read
  split_ifs at read with wrongVersion
  have versionBytes : u32ToBytes formatVersion = bytes.drop 4 := by
    rw [← Classical.not_not.mp wrongVersion]
    exact u32ToBytes_u32OfBytes _ (by rw [List.length_drop]; omega)
  rw [encodeHeader, versionBytes, ← Classical.not_not.mp wrongMagic, List.take_append_drop]

theorem header_of_recover {crc : Crc32fast} {data : List UInt8} {result : EventLog × Option Nat}
    (recovered : recover crc data = ok result) : data.take headerSize = encodeHeader := by
  unfold recover recoverOn at recovered
  split_ifs at recovered with short
  rw [slice_ok data 0 headerSize (Nat.zero_le _) (by omega), ok_bind, List.drop_zero, bind_eq_ok] at recovered
  obtain ⟨version, header, -⟩ := recovered
  refine decodeHeader_eq_ok ?_ header
  rw [List.length_take]
  exact Nat.min_eq_left (by omega)

theorem recover_of_open {crc : Crc32fast} {file : File} {store : Store} {after : Option File}
    (opened : Store.open crc (some file) = (ok store, after)) :
    ∃ cut, recover crc file.bytes = ok (store.log, cut) := by
  rw [Store.open_some] at opened
  split at opened
  next log whole =>
    cases opened
    exact ⟨none, whole⟩
  next log truncateTo torn =>
    cases opened
    exact ⟨some truncateTo, torn⟩
  next => cases opened
  next => cases opened

theorem recover_parses {crc : Crc32fast} {data : List UInt8} {log : EventLog} {cut : Option Nat}
    (recovered : recover crc data = ok (log, cut)) :
    ∃ count batches rest events, data = encodeHeader ++ (batches ++ rest) ∧
      (batchFraming crc).Frames count batches events ∧ log = EventLog.empty.commit events ∧
      Leaves crc rest (encodeHeader.length + batches.length) cut := by
  have bytes : data = encodeHeader ++ data.drop headerSize := by
    rw [← header_of_recover recovered, List.take_append_drop]
  generalize data.drop headerSize = remaining at bytes
  rw [bytes, recover_header] at recovered
  obtain ⟨count, batches, rest, events, split, frames, committed, leaves⟩ :=
    recoverLoop_parses _ _ _ _ _ _ (by simp) recovered
  rw [List.drop_left] at split
  exact ⟨count, batches, rest, events, by rw [bytes, split], frames, committed, leaves⟩

theorem longestLog_of_stuck {crc : Crc32fast} {batches rest : List UInt8} {count : Nat} {events : List RecordedEvent}
    (frames : (batchFraming crc).Frames count batches events) (stuck : ¬(batchFraming crc).Begins rest) :
    LongestLog crc (encodeHeader ++ (batches ++ rest)) (encodeHeader ++ batches) events where
  isPrefix := by
    rw [← List.append_assoc]
    exact List.prefix_append _ _
  isLog := ⟨count, batches, frames, rfl⟩
  longest := by
    rintro other others ⟨left, same⟩ ⟨count', batches', frames', rfl⟩
    rw [List.append_assoc] at same
    have shorter := frames.longest stuck frames' (List.append_cancel_left same).symm
    rw [List.length_append, List.length_append]
    exact Nat.add_le_add_left shorter _

theorem Leaves.stuck {crc : Crc32fast} {rest : List UInt8} {stop : Nat} {cut : Option Nat}
    (leaves : Leaves crc rest stop cut) : ¬(batchFraming crc).Begins rest := by
  rcases leaves with ⟨-, rfl⟩ | ⟨-, stuck⟩
  · rintro ⟨bytes, events, behind, batch, empty⟩
    have nothing := List.append_eq_nil_iff.mp empty.symm
    rw [nothing.1] at batch
    exact (batchFraming crc).nonempty _ batch
  · exact stuck

/-! ### Where the loop stops -/

/-- What the mid-file test takes for a batch that follows damage: sixteen bytes with the wrong
magic, and at some later place sixteen bytes with the right one. -/
def HeaderBehindBadMagic (tail : List UInt8) : Prop :=
  16 ≤ tail.length ∧ tail.take 4 ≠ batchHeaderMagic ∧ ∃ probe, 0 < probe ∧ HeaderAt tail probe

theorem headerAt_drop (data : List UInt8) (offset probe : Nat) (inside : offset ≤ data.length) :
    HeaderAt (data.drop offset) probe ↔ HeaderAt data (offset + probe) := by
  rw [HeaderAt, HeaderAt, List.length_drop, List.drop_drop]
  constructor
  · rintro ⟨within, right⟩
    exact ⟨by omega, right⟩
  · rintro ⟨within, right⟩
    exact ⟨by omega, right⟩

theorem headerBehindBadMagic_drop (data : List UInt8) (offset : Nat) (inside : offset ≤ data.length) :
    HeaderBehindBadMagic (data.drop offset) ↔ offset + 16 ≤ data.length ∧
      (data.drop offset).take 4 ≠ batchHeaderMagic ∧ ∃ probe, offset < probe ∧ HeaderAt data probe := by
  rw [HeaderBehindBadMagic, List.length_drop]
  constructor
  · rintro ⟨long, wrong, probe, later, header⟩
    exact ⟨by omega, wrong, offset + probe, by omega, (headerAt_drop data offset probe inside).mp header⟩
  · rintro ⟨long, wrong, probe, later, header⟩
    refine ⟨by omega, wrong, probe - offset, by omega, (headerAt_drop data offset _ inside).mpr ?_⟩
    rwa [Nat.add_sub_cancel' (Nat.le_of_lt later)]

/-- Where no batch begins the loop stops: with an error exactly behind bad magic that a header
follows, with a cut otherwise. -/
theorem readBatch_stuck (crc : Crc32fast) (data : List UInt8) (offset validEvents : Nat)
    (inside : offset ≤ data.length) (stuck : ¬(batchFraming crc).Begins (data.drop offset)) :
    (HeaderBehindBadMagic (data.drop offset) ∧ readBatch crc data offset validEvents =
      err (.corruptRecord (UInt64.ofNat validEvents) "mid-file corruption: valid batch follows corrupt data")) ∨
    (¬HeaderBehindBadMagic (data.drop offset) ∧ readBatch crc data offset validEvents = ok none) := by
  rw [begins_iff_read crc data offset validEvents inside] at stuck
  rw [headerBehindBadMagic_drop data offset inside]
  by_cases short : data.length < offset + 16
  · right
    refine ⟨fun followed => by omega, ?_⟩
    rw [readBatch, readBatchOn, sliceFrom_ok data offset inside, ok_bind,
      decodeBatchHeader_short _ (by rw [List.length_drop]; omega)]
  by_cases right : (data.drop offset).take 4 = batchHeaderMagic
  · obtain ⟨result, read, -⟩ := readBatch_magic crc data offset validEvents (by omega) right
    cases result with
    | none => exact .inr ⟨fun followed => followed.2.1 right, read⟩
    | some pair => exact absurd ⟨pair, read⟩ stuck
  · rcases readBatch_badMagic crc data offset validEvents (by omega) right with ⟨follows, read⟩ | ⟨nothing, read⟩
    · exact .inl ⟨⟨by omega, right, follows⟩, read⟩
    · exact .inr ⟨fun followed => nothing followed.2.2, read⟩

section
variable {crc : Crc32fast} {batches rest : List UInt8} {count : Nat} {events : List RecordedEvent}

theorem open_leaves {file : File} {log : EventLog} {cut : Option Nat}
    (bytes : file.bytes = encodeHeader ++ (batches ++ rest))
    (leaves : Leaves crc rest (encodeHeader.length + batches.length) cut)
    (recovered : recover crc file.bytes = ok (log, cut)) :
    ∃ store, Store.open crc (some file) = (ok store, some store.file) ∧
      store.file.bytes = encodeHeader ++ batches ∧ store.log = log := by
  rcases leaves with ⟨rfl, rfl⟩ | ⟨rfl, -⟩
  · refine ⟨⟨file, log⟩, by rw [Store.open_some, recovered], ?_, rfl⟩
    rw [bytes, List.append_nil]
  · rw [← List.append_assoc] at bytes
    refine ⟨truncateAndReturn file (encodeHeader ++ batches).length log, ?_,
      truncateAndReturn_bytes file _ rest log bytes, rfl⟩
    rw [Store.open_some, recovered, List.length_append]

theorem recover_frames (frames : (batchFraming crc).Frames count batches events) :
    recover crc (encodeHeader ++ (batches ++ rest)) = recoverLoop crc (encodeHeader ++ (batches ++ rest))
      (encodeHeader.length + batches.length) (EventLog.empty.commit events) := by
  rw [recover_header, recoverLoop_frames _ frames (by simp) List.drop_left]

theorem open_again (frames : (batchFraming crc).Frames count batches events) (store : Store)
    (bytes : store.file.bytes = encodeHeader ++ batches) (log : store.log = EventLog.empty.commit events) :
    Store.open crc (some store.file) = (ok store, some store.file) := by
  have whole := @recover_frames crc batches [] count events frames
  rw [List.append_nil, ← List.length_append, recoverLoop_atEnd, ← bytes, ← log] at whole
  rw [Store.open_some, whole]

theorem not_begins_of_wrongMagic {crc : Crc32fast} {string : List UInt8} (wrong : string.take 4 ≠ batchHeaderMagic) :
    ¬(batchFraming crc).Begins string := by
  rintro ⟨bytes, events, rest, ⟨count, first, records, -, rfl⟩, rfl⟩
  exact wrong (by simp [encodeBatchHeader, batchHeaderMagic])

/-- Behind the last whole batch: an error for bad magic with a header behind it, otherwise the file
ends there, cut if it did not end there before. -/
theorem open_stuck {file : File} (frames : (batchFraming crc).Frames count batches events)
    (bytes : file.bytes = encodeHeader ++ (batches ++ rest)) (stuck : ¬(batchFraming crc).Begins rest) :
    (HeaderBehindBadMagic rest ∧ ∃ position detail,
      Store.open crc (some file) = (err (.corruptRecord position detail), some file)) ∨
    (¬HeaderBehindBadMagic rest ∧ ∃ store, Store.open crc (some file) = (ok store, some store.file) ∧
      store.file.bytes = encodeHeader ++ batches ∧ store.log = EventLog.empty.commit events) := by
  have reached := @recover_frames crc batches rest count events frames
  rw [← bytes, ← List.length_append] at reached
  have atRest : file.bytes.drop (encodeHeader ++ batches).length = rest := by
    rw [bytes, ← List.append_assoc, List.drop_left]
  have sizes : file.bytes.length = (encodeHeader ++ batches).length + rest.length := by
    rw [bytes, ← List.append_assoc, List.length_append]
  by_cases empty : rest = []
  · -- the loop ends behind the last batch, with nothing to cut
    right
    rw [empty, List.length_nil, Nat.add_zero] at sizes
    rw [← sizes, recoverLoop_atEnd] at reached
    refine ⟨?_, open_leaves bytes (.inl ⟨rfl, empty⟩) reached⟩
    rintro ⟨long, -⟩
    rw [empty] at long
    exact absurd long (by decide)
  have before : (encodeHeader ++ batches).length < file.bytes.length := by
    have present := List.length_pos_of_ne_nil empty
    omega
  have read := readBatch_stuck crc file.bytes _ (EventLog.empty.commit events).events.length (Nat.le_of_lt before)
    (by rw [atRest]; exact stuck)
  rw [atRest] at read
  rcases read with ⟨followed, failed⟩ | ⟨notFollowed, torn⟩
  · rw [recoverLoop_failed crc _ _ _ _ before failed] at reached
    exact .inl ⟨followed, _, _, by rw [Store.open_some, reached]⟩
  · rw [recoverLoop_torn crc _ _ _ before torn, List.length_append] at reached
    exact .inr ⟨notFollowed, open_leaves bytes (.inr ⟨rfl, stuck⟩) reached⟩

end

/-! ### Memory for the records that a header announces -/

theorem header_of_decoded {buf : List UInt8} {header : BatchHeader} {consumed : Nat}
    (decoded : decodeBatchHeader buf = ok (.complete header consumed)) :
    ∃ first rest, buf = encodeBatchHeader header.recordCount first ++ rest := by
  by_cases short : buf.length < 16
  · rw [decodeBatchHeader_short buf short] at decoded
    cases decoded
  by_cases right : buf.take 4 = batchHeaderMagic
  · have start := encodeBatchHeader_decoded buf (by omega) right
    rw [decodeBatchHeader_magic buf (by omega) right] at decoded
    cases decoded
    exact ⟨_, buf.drop 16, by rw [start, List.take_append_drop]⟩
  · rw [decodeBatchHeader_wrongMagic buf (by omega) right] at decoded
    cases decoded

section
variable {platform : Platform} {crc : Crc32fast} {data : List UInt8} {offset : Nat}

theorem readBatchOn_granted (validEvents : Nat) (inside : offset ≤ data.length)
    (granted : ∀ header consumed, decodeBatchHeader (data.drop offset) = ok (.complete header consumed) →
      platform.grants (.records header.recordCount) = true) :
    readBatchOn platform crc data offset validEvents = readBatch crc data offset validEvents := by
  rw [readBatch, readBatchOn, readBatchOn, sliceFrom_ok data offset inside, ok_bind, ok_bind]
  cases decoded : decodeBatchHeader (data.drop offset) with
  | ok outcome =>
    cases outcome with
    | complete header consumed =>
      dsimp only
      rw [if_pos (granted header consumed decoded)]
      rfl
    | incomplete => rfl
  | err error => cases error <;> rfl
  | panic => rfl

theorem readBatchOn_refused (validEvents : Nat) (inside : offset ≤ data.length) {count : UInt32} {first : UInt64}
    {rest : List UInt8} (here : data.drop offset = encodeBatchHeader count first ++ rest)
    (refused : platform.grants (.records count) ≠ true) :
    readBatchOn platform crc data offset validEvents = panic := by
  rw [readBatchOn, sliceFrom_ok data offset inside, ok_bind, here, decodeBatchHeader_encode]
  exact if_neg refused

theorem recoverLoopOn_granted (log : EventLog) (inside : offset ≤ data.length)
    (granted : ∀ taken events number count first rest, (batchFraming crc).Frames number taken events →
      data.drop offset = taken ++ (encodeBatchHeader count first ++ rest) →
      platform.grants (.records count) = true) :
    recoverLoopOn platform crc data offset log = recoverLoop crc data offset log := by
  induction left : data.length - offset using Nat.strong_induction_on generalizing offset log with
  | _ remaining ih =>
    by_cases atEnd : offset = data.length
    · rw [atEnd, recoverLoopOn_atEnd, recoverLoop_atEnd]
    have before : offset < data.length := Nat.lt_of_le_of_ne inside atEnd
    have same : readBatchOn platform crc data offset log.events.length =
        readBatch crc data offset log.events.length := by
      apply readBatchOn_granted _ inside
      intro header consumed decoded
      obtain ⟨first, rest, here⟩ := header_of_decoded decoded
      exact granted [] [] 0 _ first rest .nil here
    rcases readBatch_ends crc data offset log.events.length inside with ⟨result, read, -⟩ | ⟨position, detail, read⟩
    · cases result with
      | none =>
        rw [recoverLoop_torn crc data offset log before read,
          recoverLoopOn_torn platform crc data offset log before (same.trans read)]
      | some pair =>
        have moved := readBatch_next crc data offset _ pair.2 pair.1 read
        obtain ⟨bytes, behind, here, batch, next⟩ := (readBatch_some crc data offset _ _ _ inside).mp read
        obtain ⟨within, atBehind⟩ := drop_inside here inside
        rw [recoverLoop_take crc data offset log pair.1 pair.2 before read,
          recoverLoopOn_take platform crc data offset log pair.1 pair.2 before (same.trans read), next]
        apply ih _ (by omega) _ within _ rfl
        intro taken events number count first rest frames there
        refine granted (bytes ++ taken) (pair.1 ++ events) (number + 1) count first rest (.cons batch frames) ?_
        rw [here, List.append_assoc, ← there, atBehind]
    · rw [recoverLoop_failed crc data offset log _ before read,
        recoverLoopOn_failed platform crc data offset log _ before (same.trans read)]

theorem recoverLoopOn_refused (log : EventLog) (inside : offset ≤ data.length) {taken rest : List UInt8} {number : Nat}
    {events : List RecordedEvent} {count : UInt32} {first : UInt64}
    (frames : (batchFraming crc).Frames number taken events)
    (here : data.drop offset = taken ++ (encodeBatchHeader count first ++ rest))
    (refused : platform.grants (.records count) ≠ true) : recoverLoopOn platform crc data offset log = panic := by
  induction frames generalizing offset log with
  | nil =>
    have long := congrArg List.length here
    rw [List.length_drop, List.nil_append, List.length_append, length_encodeBatchHeader] at long
    exact recoverLoopOn_panicked _ _ _ _ _ (by omega) (readBatchOn_refused _ inside here refused)
  | @cons number frame tail items more head _ ih =>
    rw [List.append_assoc] at here
    obtain ⟨within, behind⟩ := drop_inside here inside
    have long := IsBatch.length head
    have read := (readBatch_some crc data offset log.events.length _ _ inside).mpr ⟨_, _, here, head, rfl⟩
    obtain ⟨announced, position, records, -, bytes⟩ := head
    by_cases granted : platform.grants (.records announced) = true
    · have same : readBatchOn platform crc data offset log.events.length =
          readBatch crc data offset log.events.length := by
        apply readBatchOn_granted _ inside
        intro header consumed decoded
        rw [here, bytes, List.append_assoc, decodeBatchHeader_encode] at decoded
        cases decoded
        exact granted
      rw [recoverLoopOn_take _ _ _ _ _ _ _ (by omega) (same.trans read)]
      exact ih _ within behind
    · rw [bytes, List.append_assoc] at here
      exact recoverLoopOn_panicked _ _ _ _ _ (by omega) (readBatchOn_refused _ inside here granted)

end

/-- A batch header with this count stands where a batch is looked for: behind a log of whole batches. -/
def Announces (crc : Crc32fast) (data : List UInt8) (count : UInt32) : Prop :=
  ∃ kept events first rest, IsLog crc kept events ∧ data = kept ++ (encodeBatchHeader count first ++ rest)

def Affordable (platform : Platform) (crc : Crc32fast) (data : List UInt8) : Prop :=
  ∀ count, Announces crc data count → platform.grants (.records count) = true

section
variable {platform : Platform} {crc : Crc32fast} {data : List UInt8}

theorem Affordable.shorter {kept tail : List UInt8} (affordable : Affordable platform crc (kept ++ tail)) :
    Affordable platform crc kept := by
  rintro count ⟨log, events, first, rest, isLog, rfl⟩
  exact affordable count ⟨log, events, first, rest ++ tail, isLog, by simp only [List.append_assoc]⟩

theorem recoverOn_affordable (affordable : Affordable platform crc data) :
    recoverOn platform crc data = recover crc data := by
  by_cases header : data.take headerSize = encodeHeader
  · have bytes : data = encodeHeader ++ data.drop headerSize := by rw [← header, List.take_append_drop]
    generalize data.drop headerSize = remaining at bytes
    rw [bytes] at affordable ⊢
    rw [recoverOn_header, recover_header]
    apply recoverLoopOn_granted _ (by simp)
    intro taken events number count first rest frames here
    rw [List.drop_left] at here
    exact affordable count ⟨encodeHeader ++ taken, events, first, rest, ⟨number, taken, frames, rfl⟩, by
      rw [here, List.append_assoc]⟩
  · -- the header is refused before anything is reserved
    rw [recover, recoverOn, recoverOn]
    split_ifs with short
    · rfl
    · rw [slice_ok data 0 headerSize (Nat.zero_le _) (by omega), ok_bind, ok_bind, List.drop_zero]
      cases decoded : decodeHeader (data.take headerSize) with
      | ok version =>
        refine absurd (decodeHeader_eq_ok ?_ decoded) header
        rw [List.length_take]
        exact Nat.min_eq_left (by omega)
      | err error => rfl
      | panic => rfl

theorem recoverOn_refused {count : UInt32} (announces : Announces crc data count)
    (refused : platform.grants (.records count) ≠ true) : recoverOn platform crc data = panic := by
  obtain ⟨kept, events, first, rest, ⟨number, batches, frames, rfl⟩, rfl⟩ := announces
  rw [List.append_assoc, recoverOn_header]
  exact recoverLoopOn_refused _ (by simp) frames List.drop_left refused

theorem openOn_affordable {file : File} (syncsParent : Bool) (affordable : Affordable platform crc file.bytes) :
    Store.openOn platform crc syncsParent (some file) = Store.open crc (some file) := by
  rw [Store.openOn, recoverOn_affordable affordable]
  rfl

theorem openOn_refused {file : File} (syncsParent : Bool) (short : ¬Affordable platform crc file.bytes) :
    Store.openOn platform crc syncsParent (some file) = (panic, some file) := by
  obtain ⟨count, announces, refused⟩ : ∃ count, Announces crc file.bytes count ∧
      platform.grants (.records count) ≠ true := by
    simpa [Affordable] using short
  rw [Store.openOn, recoverOn_refused announces refused]

end

theorem open_longest (crc : Crc32fast) (file : File) (header : file.bytes.take headerSize = encodeHeader) :
    (∃ store, Store.open crc (some file) = (ok store, some store.file) ∧
      LongestLog crc file.bytes store.file.bytes store.log.events ∧
      Store.open crc (some store.file) = (ok store, some store.file)) ∨
    ∃ error, Store.open crc (some file) = (err error, some file) := by
  have bytes : file.bytes = encodeHeader ++ file.bytes.drop headerSize := by
    rw [← header, List.take_append_drop]
  obtain ⟨count, batches, events, rest, frames, split, stuck⟩ := (batchFraming crc).exists_stuck (file.bytes.drop headerSize)
  rw [split] at bytes
  rcases open_stuck frames bytes stuck with ⟨-, position, detail, failed⟩ | ⟨-, store, opened, kept, log⟩
  · exact .inr ⟨_, failed⟩
  · left
    refine ⟨store, opened, ?_, open_again frames store kept log⟩
    rw [bytes, kept, log, commit_events]
    exact longestLog_of_stuck frames stuck

/-- Whatever follows a valid header, `open` keeps exactly the longest log it begins with and
finds the same again, or fails and leaves the file alone, exactly if there is memory for the
records that the batch headers announce. -/
theorem open_keeps_longest_log (platform : Platform) (crc : Crc32fast) (syncsParent : Bool) (file : File)
    (header : file.bytes.take headerSize = encodeHeader) :
    ((∃ store, Store.openOn platform crc syncsParent (some file) = (ok store, some store.file) ∧
      LongestLog crc file.bytes store.file.bytes store.log.events ∧
      Store.openOn platform crc syncsParent (some store.file) = (ok store, some store.file)) ∨
    ∃ error, Store.openOn platform crc syncsParent (some file) = (err error, some file)) ↔
      Affordable platform crc file.bytes := by
  by_cases affordable : Affordable platform crc file.bytes
  · refine iff_of_true ?_ affordable
    rw [openOn_affordable syncsParent affordable]
    rcases open_longest crc file header with ⟨store, opened, longest, again⟩ | failed
    · left
      obtain ⟨tail, bytes⟩ := longest.isPrefix
      rw [← bytes] at affordable
      exact ⟨store, opened, longest, by rw [openOn_affordable syncsParent affordable.shorter]; exact again⟩
    · exact .inr failed
  · refine iff_of_false ?_ affordable
    rw [openOn_refused syncsParent affordable]
    rintro (⟨store, impossible, -⟩ | ⟨error, impossible⟩)
    · cases impossible
    · cases impossible

/-- A machine that reserves room for at most 2^30 records at once. -/
def modest : Platform where
  grants
    | .records count => decide (count.toNat ≤ 1073741824)
    | _ => true
  slots := id
  slots_le := fun _ => Nat.le_refl _

theorem affordable_of_short (platform : Platform) (crc : Crc32fast) (data : List UInt8)
    (short : data.length < headerSize + 16) : Affordable platform crc data := by
  rintro count ⟨kept, events, first, rest, ⟨number, batches, -, rfl⟩, rfl⟩
  simp only [List.length_append, length_encodeHeader, length_encodeBatchHeader] at short
  omega

theorem open_keeps_longest_log_stray_byte :
    (Store.create.file.write [0]).bytes.take headerSize = encodeHeader ∧
    ((∃ store, Store.openOn modest Crc32fast.ieee true (some (Store.create.file.write [0])) =
        (ok store, some store.file) ∧
      LongestLog Crc32fast.ieee (encodeHeader ++ [0]) store.file.bytes store.log.events ∧
      Store.openOn modest Crc32fast.ieee true (some store.file) = (ok store, some store.file)) ∨
    ∃ error, Store.openOn modest Crc32fast.ieee true (some (Store.create.file.write [0])) =
      (err error, some (Store.create.file.write [0]))) :=
  ⟨by decide, (open_keeps_longest_log modest Crc32fast.ieee true (Store.create.file.write [0]) (by decide)).mpr
    (affordable_of_short _ _ _ (by decide))⟩

/-- A batch header that announces 2^32 - 1 records, and nothing behind it: the process dies of it. -/
theorem open_aborts_on_count :
    ∃ file : File, file.bytes = encodeHeader ++ encodeBatchHeader 0xFFFFFFFF 0 ∧
      file.bytes.take headerSize = encodeHeader ∧
      Store.openOn modest Crc32fast.ieee true (some file) = (panic, some file) := by
  refine ⟨Store.create.file.write (encodeBatchHeader 0xFFFFFFFF 0), rfl, by decide, ?_⟩
  apply openOn_refused
  intro affordable
  have granted := affordable 0xFFFFFFFF ⟨encodeHeader, [], 0, [], ⟨0, [], .nil, (List.append_nil _).symm⟩,
    by rw [List.append_nil]; rfl⟩
  exact absurd granted (by decide)

/-! ### Garbage behind the last batch -/

theorem open_tail_iff (crc : Crc32fast) (file : File) (kept tail : List UInt8) (events : List RecordedEvent)
    (isLog : IsLog crc kept events) (bytes : file.bytes = kept ++ tail)
    (garbage : ∀ offset, ¬(batchFraming crc).Begins (tail.drop offset)) :
    (∃ store, Store.open crc (some file) = (ok store, some store.file) ∧ store.file.bytes = kept ∧
      store.log.events = events) ↔ ¬HeaderBehindBadMagic tail := by
  obtain ⟨count, batches, frames, rfl⟩ := isLog
  rw [List.append_assoc] at bytes
  rcases open_stuck frames bytes (garbage 0) with ⟨followed, position, detail, failed⟩ |
    ⟨notFollowed, store, opened, left, log⟩
  · refine iff_of_false ?_ (not_not_intro followed)
    rintro ⟨store, opened, -⟩
    rw [failed] at opened
    cases opened
  · exact iff_of_true ⟨store, opened, left, by rw [log, commit_events]; rfl⟩ notFollowed

/-- Garbage behind a log is cut off exactly if it shows no bad magic with a header behind it, and
there is memory for the records that the batches, and a header at its beginning, announce. -/
theorem open_garbage_tail_iff (platform : Platform) (crc : Crc32fast) (syncsParent : Bool) (file : File)
    (kept tail : List UInt8) (events : List RecordedEvent) (isLog : IsLog crc kept events)
    (bytes : file.bytes = kept ++ tail) (garbage : ∀ offset, ¬(batchFraming crc).Begins (tail.drop offset)) :
    (∃ store, Store.openOn platform crc syncsParent (some file) = (ok store, some store.file) ∧
      store.file.bytes = kept ∧ store.log.events = events) ↔
      ¬HeaderBehindBadMagic tail ∧ Affordable platform crc file.bytes := by
  by_cases affordable : Affordable platform crc file.bytes
  · rw [openOn_affordable syncsParent affordable, open_tail_iff crc file kept tail events isLog bytes garbage]
    exact (and_iff_left affordable).symm
  · refine iff_of_false ?_ (fun both => affordable both.2)
    rw [openOn_refused syncsParent affordable]
    rintro ⟨store, impossible, -⟩
    cases impossible

theorem not_begins_of_short (crc : Crc32fast) (string : List UInt8) (short : string.length < 24) :
    ¬(batchFraming crc).Begins string := by
  rintro ⟨bytes, events, rest, batch, rfl⟩
  have long := IsBatch.length batch
  rw [List.length_append] at short
  omega

theorem isLog_header (crc : Crc32fast) : IsLog crc encodeHeader [] := ⟨0, [], .nil, (List.append_nil _).symm⟩

theorem open_garbage_tail_iff_stray_byte :
    IsLog Crc32fast.ieee encodeHeader [] ∧
      (∀ offset, ¬(batchFraming Crc32fast.ieee).Begins (([0] : List UInt8).drop offset)) ∧
    ¬HeaderBehindBadMagic [0] ∧ Affordable modest Crc32fast.ieee (encodeHeader ++ [0]) ∧
    ∃ store, Store.openOn modest Crc32fast.ieee true (some (Store.create.file.write [0])) = (ok store, some store.file) ∧
      store.file.bytes = encodeHeader ∧ store.log.events = [] := by
  have garbage : ∀ offset, ¬(batchFraming Crc32fast.ieee).Begins (([0] : List UInt8).drop offset) := by
    intro offset
    apply not_begins_of_short
    rw [List.length_drop, List.length_singleton]
    omega
  have lone : ¬HeaderBehindBadMagic [0] := fun followed => absurd followed.1 (by decide)
  have affordable : Affordable modest Crc32fast.ieee (encodeHeader ++ [0]) := affordable_of_short _ _ _ (by decide)
  exact ⟨isLog_header _, garbage, lone, affordable,
    (open_garbage_tail_iff modest Crc32fast.ieee true (Store.create.file.write [0]) encodeHeader [0] []
      (isLog_header _) rfl garbage).mpr ⟨lone, affordable⟩⟩

/-- A stray byte and a lone batch header behind an empty log: seventeen bytes, too few for any
batch, and the log no longer opens. -/
theorem unopenable_lone_header :
    ∃ tail, (∀ offset, ¬(batchFraming Crc32fast.ieee).Begins (tail.drop offset)) ∧
      IsLog Crc32fast.ieee encodeHeader [] ∧ (Store.create.file.write tail).bytes = encodeHeader ++ tail ∧
      ∃ position detail, Store.open Crc32fast.ieee (some (Store.create.file.write tail)) =
        (err (.corruptRecord position detail), some (Store.create.file.write tail)) := by
  refine ⟨0 :: encodeBatchHeader 1 0, ?_, isLog_header _, rfl, ?_⟩
  · intro offset
    apply not_begins_of_short
    rw [List.length_drop, List.length_cons, length_encodeBatchHeader]
    omega
  · have loop := recover_header Crc32fast.ieee (0 :: encodeBatchHeader 1 0)
    have read := readBatch_wrongMagic Crc32fast.ieee (encodeHeader ++ 0 :: encodeBatchHeader 1 0) 8 0 9
      (by decide) (by decide) (by decide) (by decide)
    rw [length_encodeHeader, headerSize, recoverLoop_failed Crc32fast.ieee _ 8 EventLog.empty _ (by decide) read] at loop
    exact ⟨_, _, by rw [Store.open_some, show (Store.create.file.write (0 :: encodeBatchHeader 1 0)).bytes =
      encodeHeader ++ 0 :: encodeBatchHeader 1 0 from rfl, loop]⟩

end EventfoldDb.GreedyRecovery
