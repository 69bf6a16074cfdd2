import EventfoldDb.CrashAtomicity
import EventfoldDb.GreedyRecovery
import EventfoldDb.Lib.Window

/-! Damage inside one batch of a log that has more batches behind it. Only a wrong header magic
makes `open` look for those; every other kind of damage cuts them off. -/

namespace EventfoldDb.MidFileDamage
open Outcome CodecRoundTrip Recovery RecoveryLoop BatchGrammar GreedyRecovery AppendSpec DiskInvariant CrashAtomicity
  Window

def WholeBatches (crc : Crc32fast) (bytes : List UInt8) : Prop :=
  ∃ count events, (batchFraming crc).Frames (count + 1) bytes events

section
variable (opened : Outcome Error Store × Option File) (crc : Crc32fast) (file : File) (start stop : Nat)

def AcceptsBetween : Prop :=
  WholeBatches crc (window start stop file.bytes) ∧
    ∃ recovered, opened.1 = ok recovered ∧ stop ≤ recovered.file.bytes.length

def ReportsCorruption : Prop :=
  ∃ position detail, opened = (err (.corruptRecord position detail), some file)

/-- Nothing is deleted in silence: what is not accepted is reported, and a file that opens keeps all
its bytes, with the batches behind the damaged one. -/
structure NotSilent : Prop where
  reported : ¬AcceptsBetween opened crc file start stop → ReportsCorruption opened file
  kept : ∀ recovered, opened.1 = ok recovered → recovered.file.bytes = file.bytes

end

/-- Behind the whole batches that the bytes begin with, if any, stands bad magic with a batch header
further on. -/
def BadMagicBehindBatches (crc : Crc32fast) (bytes : List UInt8) : Prop :=
  ∃ count taken events rest, (batchFraming crc).Frames count taken events ∧ bytes = taken ++ rest ∧
    HeaderBehindBadMagic rest

structure AlteredWithin (start stop : Nat) (original altered : List UInt8) : Prop where
  sameLength : altered.length = original.length
  sameBefore : altered.take start = original.take start
  sameBehind : altered.drop stop = original.drop stop

/-! ### Batches whose count wrapped -/

theorem not_begins_oversize (crc : Crc32fast) {batch : Batch} (large : ¬batch.Small) (rest : List UInt8) :
    ¬(batchFraming crc).Begins (batch.encode crc ++ rest) := by
  intro begins
  obtain ⟨pair, read⟩ := (begins_iff_read crc (batch.encode crc ++ rest) 0 0 (Nat.zero_le _)).mp begins
  rw [readBatch_oversize crc batch large _ rest 0 0 (Nat.zero_le _) rfl] at read
  cases read

theorem magic_not_behindBadMagic {bytes : List UInt8} (magic : bytes.take 4 = batchHeaderMagic) :
    ¬HeaderBehindBadMagic bytes := fun followed => followed.2.1 magic

theorem cut_at_oversize {crc : Crc32fast} {taken rest : List UInt8} {count : Nat} {events : List RecordedEvent}
    {large : Batch} {file : File} (frames : (batchFraming crc).Frames count taken events) (notSmall : ¬large.Small)
    (bytes : file.bytes = encodeHeader ++ (taken ++ (large.encode crc ++ rest))) :
    ∃ recovered, (Store.open crc (some file)).1 = ok recovered ∧ recovered.file.bytes ≠ file.bytes := by
  rcases open_stuck frames bytes (not_begins_oversize crc notSmall rest) with ⟨followed, -⟩ | ⟨-, store, opened, kept, -⟩
  · exact absurd followed (magic_not_behindBadMagic (take_four_encode crc large rest))
  · refine ⟨store, by rw [opened], ?_⟩
    intro same
    have size := length_encode crc large
    have lengths := congrArg List.length (same.symm.trans kept)
    rw [bytes] at lengths
    simp only [List.length_append] at lengths
    omega

/-! ### One part of the file replaced -/

section
variable {crc : Crc32fast} {before behind : List Batch} {part : List UInt8} {file : File}
  (bytes : file.bytes = encodeHeader ++ (encodeAll crc before ++ (part ++ encodeAll crc behind)))

theorem window_part :
    window (fileBytes crc before).length ((fileBytes crc before).length + part.length)
      (encodeHeader ++ (encodeAll crc before ++ (part ++ encodeAll crc behind))) = part := by
  rw [← List.append_assoc, ← fileBytes, window, ← List.append_assoc, ← List.length_append, List.take_left, List.drop_left]

include bytes

theorem silent_of_large_before (large : ¬∀ batch ∈ before, batch.Small) :
    ∃ recovered, (Store.open crc (some file)).1 = ok recovered ∧ recovered.file.bytes ≠ file.bytes := by
  obtain ⟨first, batch, others, split, firstSmall, notSmall⟩ := exists_first_large before large
  have parts : file.bytes = encodeHeader ++ (encodeAll crc first ++ (batch.encode crc ++
      (encodeAll crc others ++ (part ++ encodeAll crc behind)))) := by
    rw [bytes, split]
    simp only [encodeAll, List.flatMap_append, List.flatMap_cons, List.append_assoc]
  exact cut_at_oversize (frames_encodeAll crc first firstSmall) notSmall parts

theorem silent_of_large_behind (small : ∀ batch ∈ before, batch.Small) (whole : WholeBatches crc part)
    (large : ¬∀ batch ∈ behind, batch.Small) :
    ∃ recovered, (Store.open crc (some file)).1 = ok recovered ∧ recovered.file.bytes ≠ file.bytes := by
  obtain ⟨first, batch, others, split, firstSmall, notSmall⟩ := exists_first_large behind large
  obtain ⟨count, events, frames⟩ := whole
  have taken := ((frames_encodeAll crc before small).append frames).append (frames_encodeAll crc first firstSmall)
  have parts : file.bytes = encodeHeader ++ (encodeAll crc before ++ part ++ encodeAll crc first ++
      (batch.encode crc ++ encodeAll crc others)) := by
    rw [bytes, split]
    simp only [encodeAll, List.flatMap_append, List.flatMap_cons, List.append_assoc]
  exact cut_at_oversize taken notSmall parts

theorem kept_of_whole (small : ∀ batch ∈ before, batch.Small) (whole : WholeBatches crc part)
    (behindSmall : ∀ batch ∈ behind, batch.Small) :
    ∃ recovered, (Store.open crc (some file)).1 = ok recovered ∧ recovered.file.bytes = file.bytes := by
  obtain ⟨count, events, frames⟩ := whole
  have taken := ((frames_encodeAll crc before small).append frames).append (frames_encodeAll crc behind behindSmall)
  have opened := open_again taken ⟨file, EventLog.empty.commit _⟩ (by
    rw [bytes]
    simp only [List.append_assoc]) rfl
  exact ⟨_, by rw [opened], rfl⟩

theorem reports_of_badMagic (small : ∀ batch ∈ before, batch.Small)
    (bad : BadMagicBehindBatches crc (part ++ encodeAll crc behind)) :
    ReportsCorruption (Store.open crc (some file)) file := by
  obtain ⟨count, taken, events, rest, frames, split, followed⟩ := bad
  rw [split, ← List.append_assoc (encodeAll crc before)] at bytes
  rcases open_stuck ((frames_encodeAll crc before small).append frames) bytes
      (not_begins_of_wrongMagic followed.2.1) with ⟨-, failed⟩ | ⟨notFollowed, -⟩
  · exact failed
  · exact absurd followed notFollowed

theorem badMagic_or_opens (small : ∀ batch ∈ before, batch.Small) :
    BadMagicBehindBatches crc (part ++ encodeAll crc behind) ∨
      ∃ recovered, (Store.open crc (some file)).1 = ok recovered := by
  obtain ⟨count, taken, events, rest, frames, split, stuck⟩ :=
    (batchFraming crc).exists_stuck (part ++ encodeAll crc behind)
  rw [split, ← List.append_assoc (encodeAll crc before)] at bytes
  rcases open_stuck ((frames_encodeAll crc before small).append frames) bytes stuck with
    ⟨followed, -⟩ | ⟨-, store, opened, -⟩
  · exact .inl ⟨count, taken, events, rest, frames, split, followed⟩
  · exact .inr ⟨store, by rw [opened]⟩

theorem notSilent_iff :
    NotSilent (Store.open crc (some file)) crc file (fileBytes crc before).length
        ((fileBytes crc before).length + part.length) ↔
      (∀ batch ∈ before, batch.Small) ∧
        (WholeBatches crc part ∧ (∀ batch ∈ behind, batch.Small) ∨
          BadMagicBehindBatches crc (part ++ encodeAll crc behind)) := by
  have here : window (fileBytes crc before).length ((fileBytes crc before).length + part.length) file.bytes = part := by
    rw [bytes, window_part]
  constructor
  · rintro ⟨reported, kept⟩
    have small : ∀ batch ∈ before, batch.Small := by
      by_contra large
      obtain ⟨recovered, opened, cut⟩ := silent_of_large_before bytes large
      exact cut (kept recovered opened)
    refine ⟨small, ?_⟩
    rcases badMagic_or_opens bytes small with bad | ⟨recovered, opened⟩
    · exact .inr bad
    left
    -- `open` reports nothing, so it has accepted the part
    have accepted : AcceptsBetween (Store.open crc (some file)) crc file (fileBytes crc before).length
        ((fileBytes crc before).length + part.length) := by
      by_contra refused
      obtain ⟨position, detail, failed⟩ := reported refused
      rw [failed] at opened
      cases opened
    have whole := accepted.1
    rw [here] at whole
    refine ⟨whole, ?_⟩
    by_contra large
    obtain ⟨other, openedOther, cut⟩ := silent_of_large_behind bytes small whole large
    exact cut (kept other openedOther)
  · rintro ⟨small, ⟨whole, behindSmall⟩ | bad⟩
    · obtain ⟨recovered, opened, left⟩ := kept_of_whole bytes small whole behindSmall
      have accepted : AcceptsBetween (Store.open crc (some file)) crc file (fileBytes crc before).length
          ((fileBytes crc before).length + part.length) := by
        refine ⟨by rw [here]; exact whole, recovered, opened, ?_⟩
        rw [left, bytes, ← List.append_assoc, ← fileBytes, List.length_append, List.length_append]
        omega
      refine ⟨fun refused => absurd accepted refused, ?_⟩
      intro other openedOther
      rw [opened] at openedOther
      cases openedOther
      exact left
    · have reports := reports_of_badMagic bytes small bad
      refine ⟨fun _ => reports, ?_⟩
      intro recovered opened
      obtain ⟨position, detail, failed⟩ := reports
      rw [failed] at opened
      cases opened

end

/-! ### The log of a run of appends -/

theorem appendAll_split {crc : Crc32fast} {store : Store} {calls : List AppendCall} {first second : List Appended}
    (ran : appendAll crc store calls = some (first ++ second)) :
    ∃ firstCalls secondCalls, calls = firstCalls ++ secondCalls ∧ appendAll crc store firstCalls = some first ∧
      appendAll crc (lastStore store first) secondCalls = some second := by
  induction first generalizing store calls with
  | nil => exact ⟨[], calls, rfl, rfl, ran⟩
  | cons entry first ih =>
    cases calls with
    | nil => cases ran
    | cons call calls =>
      obtain ⟨batch, entries, _, _, called, rest, traceEq⟩ := appendAll_cons ran
      obtain ⟨entryEq, entriesEq⟩ := List.cons.inj traceEq
      rw [← entriesEq] at rest
      obtain ⟨firstCalls, secondCalls, callsEq, ranFirst, ranSecond⟩ := ih rest
      refine ⟨call :: firstCalls, secondCalls, by rw [callsEq, List.cons_append], ?_, ?_⟩
      · rw [appendAll, called]
        dsimp only
        rw [ranFirst, entryEq, Option.map_some]
      · rw [entryEq]
        exact ranSecond

theorem exists_batches {crc : Crc32fast} {store : Store} {calls : List AppendCall} {trace : List Appended}
    (ran : appendAll crc store calls = some trace) :
    ∃ batches : List Batch, batches.map Batch.events = trace.map (·.recorded) ∧
      (lastStore store trace).file.bytes = store.file.bytes ++ encodeAll crc batches := by
  induction calls generalizing store trace with
  | nil =>
    cases ran
    exact ⟨[], rfl, (List.append_nil _).symm⟩
  | cons call calls ih =>
    obtain ⟨batch, entries, _, _, _, rest, traceEq⟩ := appendAll_cons ran
    obtain ⟨batches, recorded, bytes⟩ := ih rest
    refine ⟨batch :: batches, by rw [traceEq, List.map_cons, List.map_cons, recorded], ?_⟩
    rw [traceEq, lastStore, bytes, withBatch_bytes, encodeAll_cons, List.append_assoc]

theorem lastStore_append (start : Store) (first second : List Appended) :
    lastStore start (first ++ second) = lastStore (lastStore start first) second := by
  induction first generalizing start with
  | nil => rfl
  | cons entry first ih => exact ih entry.store

structure Layout (crc : Crc32fast) (earlier : List Appended) (entry : Appended) (later : List Appended)
    (before : List Batch) (batch : Batch) (behind : List Batch) : Prop where
  recorded : before.map Batch.events = earlier.map (·.recorded)
  recordedBehind : behind.map Batch.events = later.map (·.recorded)
  start : (lastStore Store.create earlier).file.bytes = fileBytes crc before
  stop : entry.store.file.bytes = fileBytes crc before ++ batch.encode crc
  whole : (lastStore Store.create (earlier ++ entry :: later)).file.bytes =
    fileBytes crc before ++ (batch.encode crc ++ encodeAll crc behind)

theorem exists_layout {crc : Crc32fast} {calls : List AppendCall} {earlier later : List Appended} {entry : Appended}
    (ran : appendAll crc Store.create calls = some (earlier ++ entry :: later)) :
    ∃ before batch behind, Layout crc earlier entry later before batch behind := by
  obtain ⟨firstCalls, secondCalls, _, ranFirst, ranSecond⟩ := appendAll_split ran
  obtain ⟨before, recorded, start⟩ := exists_batches ranFirst
  have startBytes : (lastStore Store.create earlier).file.bytes = fileBytes crc before := start
  cases secondCalls with
  | nil => cases ranSecond
  | cons call secondCalls =>
    obtain ⟨batch, entries, _, _, _, rest, traceEq⟩ := appendAll_cons ranSecond
    obtain ⟨entryEq, entriesEq⟩ := List.cons.inj traceEq
    rw [← entriesEq] at rest
    obtain ⟨behind, behindRecorded, final⟩ := exists_batches rest
    rw [withBatch_bytes, startBytes] at final
    refine ⟨before, batch, behind, recorded, behindRecorded, startBytes, ?_, ?_⟩
    · rw [entryEq, withBatch_bytes, startBytes]
    · rw [lastStore_append, lastStore, entryEq, final, List.append_assoc]

theorem small_iff_recorded {batches : List Batch} {trace : List Appended}
    (recorded : batches.map Batch.events = trace.map (·.recorded)) :
    (∀ batch ∈ batches, batch.Small) ↔ ∀ one ∈ trace, one.recorded.length < 2 ^ 32 := by
  have same := congrArg (fun lists : List (List RecordedEvent) => ∀ events ∈ lists, events.length < 2 ^ 32) recorded
  simp only [List.forall_mem_map, eq_iff_iff] at same
  exact same

/-! ### A log of two batches with the first one damaged -/

def firstEntry (crc : Crc32fast) : Appended :=
  ⟨firstBatch.events, Store.withBatch crc Store.create (idOf 0) firstBatch⟩

def secondEntry (crc : Crc32fast) : Appended :=
  ⟨secondBatch.events, Store.withBatch crc (firstEntry crc).store (idOf 0) secondBatch⟩

theorem ran_two (crc : Crc32fast) :
    appendAll crc Store.create [plainCall 0 .any [1], plainCall 0 .any [2]] =
      some ([] ++ firstEntry crc :: [secondEntry crc]) := by
  have first := runCall_accepts crc Store.create (plainCall 0 .any [1]) firstBatch
    firstBatch_accepted (by decide)
  have second := runCall_accepts crc (firstEntry crc).store (plainCall 0 .any [2]) secondBatch
    secondBatch_accepted (by decide : 1 + 1 ≤ isizeMax)
  have rest : appendAll crc (firstEntry crc).store [plainCall 0 .any [2]] = some [secondEntry crc] := by
    rw [appendAll, second]
    rfl
  rw [appendAll, first]
  exact congrArg (Option.map (firstEntry crc :: ·)) rest

def damagedFile (crc : Crc32fast) (damaged : List UInt8) : File where
  bytes := encodeHeader ++ (damaged ++ secondBatch.encode crc)
  synced := 0
  syncedInside := Nat.zero_le _

theorem damagedFile_confined (crc : Crc32fast) (damaged : List UInt8)
    (sameLength : damaged.length = (firstBatch.encode crc).length) :
    AlteredWithin (lastStore Store.create []).file.bytes.length (firstEntry crc).store.file.bytes.length
      (lastStore Store.create ([] ++ firstEntry crc :: [secondEntry crc])).file.bytes
      (damagedFile crc damaged).bytes := by
  have original : (lastStore Store.create ([] ++ firstEntry crc :: [secondEntry crc])).file.bytes =
      encodeHeader ++ (firstBatch.encode crc ++ secondBatch.encode crc) := List.append_assoc ..
  have firstBytes : (firstEntry crc).store.file.bytes = encodeHeader ++ firstBatch.encode crc := rfl
  have headerBytes : (lastStore Store.create []).file.bytes = encodeHeader := rfl
  have alteredBytes : (damagedFile crc damaged).bytes = encodeHeader ++ (damaged ++ secondBatch.encode crc) := rfl
  rw [original, firstBytes, headerBytes, alteredBytes]
  constructor
  · simp only [List.length_append, sameLength]
  · rw [List.take_left, List.take_left]
  · rw [← List.append_assoc, ← List.append_assoc, List.drop_left]
    apply List.drop_left'
    rw [List.length_append, List.length_append, sameLength]

/-- Where memory runs out in the middle of recovery, nothing is reported. -/
theorem notSilent_openOn {platform : Platform} {crc : Crc32fast} {syncsParent : Bool} {file : File} {start stop : Nat} :
    NotSilent (Store.openOn platform crc syncsParent (some file)) crc file start stop ↔
      Affordable platform crc file.bytes ∧ NotSilent (Store.open crc (some file)) crc file start stop := by
  by_cases affordable : Affordable platform crc file.bytes
  · rw [openOn_affordable syncsParent affordable]
    exact (and_iff_right affordable).symm
  · rw [openOn_refused syncsParent affordable]
    refine iff_of_false ?_ (fun both => affordable both.1)
    intro notSilent
    have refused : ¬AcceptsBetween (panic, some file) crc file start stop := by
      rintro ⟨_, recovered, opened, _⟩
      cases opened
    obtain ⟨position, detail, failed⟩ := notSilent.reported refused
    cases failed

/-- Altering one batch deletes nothing in silence exactly if there is memory for what the headers
announce, every earlier batch has fewer than 2^32 events, and either the altered bytes still are whole
batches and the later ones have fewer than 2^32 events too, or behind the whole batches they begin
with stands bad magic. -/
theorem damage_reported_iff (platform : Platform) (crc : Crc32fast) (syncsParent : Bool) (calls : List AppendCall)
    (earlier later : List Appended)
    (entry : Appended) (ran : appendAll crc Store.create calls = some (earlier ++ entry :: later)) (altered : File)
    (confined : AlteredWithin (lastStore Store.create earlier).file.bytes.length entry.store.file.bytes.length
      (lastStore Store.create (earlier ++ entry :: later)).file.bytes altered.bytes) :
    NotSilent (Store.openOn platform crc syncsParent (some altered)) crc altered
        (lastStore Store.create earlier).file.bytes.length entry.store.file.bytes.length ↔
      Affordable platform crc altered.bytes ∧ (∀ one ∈ earlier, one.recorded.length < 2 ^ 32) ∧
        (WholeBatches crc (window (lastStore Store.create earlier).file.bytes.length entry.store.file.bytes.length
            altered.bytes) ∧ (∀ one ∈ later, one.recorded.length < 2 ^ 32) ∨
          BadMagicBehindBatches crc (altered.bytes.drop (lastStore Store.create earlier).file.bytes.length)) := by
  rw [notSilent_openOn]
  apply and_congr_right
  intro _
  obtain ⟨before, batch, behind, layout⟩ := exists_layout ran
  obtain ⟨sameLength, sameBefore, sameBehind⟩ := confined
  rw [layout.whole, List.length_append, List.length_append] at sameLength
  rw [layout.start] at sameBefore ⊢
  rw [layout.whole, List.take_left] at sameBefore
  rw [layout.whole, layout.stop, ← List.append_assoc, List.drop_left, List.length_append] at sameBehind
  rw [layout.stop, List.length_append]
  -- the altered file: the old batches around whatever stands between them now
  let part := window (fileBytes crc before).length ((fileBytes crc before).length + (batch.encode crc).length)
    altered.bytes
  have size : part.length = (batch.encode crc).length := by
    rw [length_window]
    omega
  have tail : altered.bytes.drop (fileBytes crc before).length = part ++ encodeAll crc behind := by
    rw [← sameBehind, ← List.drop_drop]
    show _ = (altered.bytes.take _).drop _ ++ _
    rw [List.drop_take, Nat.add_sub_cancel_left, List.take_append_drop]
  have bytes : altered.bytes = encodeHeader ++ (encodeAll crc before ++ (part ++ encodeAll crc behind)) := by
    have parts := List.take_append_drop (fileBytes crc before).length altered.bytes
    rw [sameBefore, tail] at parts
    rw [← List.append_assoc, ← fileBytes, parts]
  have silent := notSilent_iff bytes
  rw [size, small_iff_recorded layout.recorded, small_iff_recorded layout.recordedBehind, ← tail] at silent
  exact silent

theorem damage_reported_iff_zeroed :
    ∃ damaged : File,
      AlteredWithin (lastStore Store.create []).file.bytes.length (firstEntry Crc32fast.ieee).store.file.bytes.length
        (lastStore Store.create ([] ++ firstEntry Crc32fast.ieee :: [secondEntry Crc32fast.ieee])).file.bytes
        damaged.bytes ∧
      (damaged.bytes.drop (lastStore Store.create []).file.bytes.length).take 4 ≠ batchHeaderMagic ∧
      NotSilent (Store.open Crc32fast.ieee (some damaged)) Crc32fast.ieee damaged (lastStore Store.create []).file.bytes.length
        (firstEntry Crc32fast.ieee).store.file.bytes.length := by
  let zeros := List.replicate (firstBatch.encode Crc32fast.ieee).length (0 : UInt8)
  let damaged := damagedFile Crc32fast.ieee zeros
  have size : zeros.length = (firstBatch.encode Crc32fast.ieee).length := List.length_replicate
  have long := length_encode Crc32fast.ieee firstBatch
  have longBehind := length_encode Crc32fast.ieee secondBatch
  have tail : damaged.bytes.drop (lastStore Store.create []).file.bytes.length =
      zeros ++ secondBatch.encode Crc32fast.ieee := by
    show (encodeHeader ++ _).drop encodeHeader.length = _
    rw [List.drop_left]
  have wrong : (damaged.bytes.drop (lastStore Store.create []).file.bytes.length).take 4 ≠ batchHeaderMagic := by
    rw [tail, List.take_append_of_le_length (by omega), List.take_replicate, Nat.min_eq_left (by omega)]
    decide
  have followed : HeaderBehindBadMagic (damaged.bytes.drop (lastStore Store.create []).file.bytes.length) := by
    refine ⟨by rw [tail, List.length_append]; omega, wrong, zeros.length, by omega, ?_⟩
    rw [tail]
    refine ⟨by rw [List.length_append]; omega, ?_⟩
    rw [List.drop_left]
    have magic := take_four_encode Crc32fast.ieee secondBatch []
    rwa [List.append_nil] at magic
  have confined := damagedFile_confined Crc32fast.ieee zeros size
  have reported := damage_reported_iff .ample Crc32fast.ieee true _ [] [secondEntry Crc32fast.ieee] (firstEntry Crc32fast.ieee)
    (ran_two Crc32fast.ieee) damaged confined
  exact ⟨damaged, confined, wrong,
    reported.mpr ⟨fun _ _ => rfl, by simp, .inr ⟨0, [], [], _, .nil, (List.nil_append _).symm, followed⟩⟩⟩

/-- The footer of the first batch is overwritten with zeros: `open` succeeds and cuts off both
batches. -/
theorem damage_unreported_footer :
    ∃ damaged recovered,
      appendAll Crc32fast.ieee Store.create [plainCall 0 .any [1], plainCall 0 .any [2]] =
        some ([] ++ firstEntry Crc32fast.ieee :: [secondEntry Crc32fast.ieee]) ∧
      AlteredWithin (lastStore Store.create []).file.bytes.length (firstEntry Crc32fast.ieee).store.file.bytes.length
        (lastStore Store.create ([] ++ firstEntry Crc32fast.ieee :: [secondEntry Crc32fast.ieee])).file.bytes
        damaged.bytes ∧
      (Store.open Crc32fast.ieee (some damaged)).1 = .ok recovered ∧ recovered.file.bytes = encodeHeader ∧
      ¬AcceptsBetween (Store.open Crc32fast.ieee (some damaged)) Crc32fast.ieee damaged
        (lastStore Store.create []).file.bytes.length
        (firstEntry Crc32fast.ieee).store.file.bytes.length ∧
      ¬ReportsCorruption (Store.open Crc32fast.ieee (some damaged)) damaged := by
  let kept := encodeBatchHeader (UInt32.ofNat firstBatch.events.length) firstBatch.first ++
    (recordBytes Crc32fast.ieee firstBatch.events ++ List.replicate 8 0)
  let damaged := damagedFile Crc32fast.ieee kept
  have sameLength : kept.length = (firstBatch.encode Crc32fast.ieee).length := by
    rw [encode_eq]
    simp only [kept, List.length_append, List.length_replicate, length_encodeBatchFooter]
  have bytes : damaged.bytes =
      fileBytes Crc32fast.ieee [] ++ (kept ++ secondBatch.encode Crc32fast.ieee) := rfl
  have present : kept ++ secondBatch.encode Crc32fast.ieee ≠ [] := by
    apply List.ne_nil_of_length_pos
    rw [List.length_append, sameLength, length_encode]
    omega
  have torn : ∀ validEvents, readBatch Crc32fast.ieee damaged.bytes (fileBytes Crc32fast.ieee []).length validEvents =
      ok none := by
    intro validEvents
    apply readBatch_wrongFooter Crc32fast.ieee firstBatch firstBatch_small _ (List.replicate 8 0)
      (secondBatch.encode Crc32fast.ieee)
    · rw [bytes, List.length_append]
      omega
    · rfl
    · decide
    · rw [bytes, List.drop_left]
      simp only [kept, List.append_assoc]
  have opened := open_at_torn (by simp) bytes present (by rw [← bytes]; exact torn)
  refine ⟨damaged, _, ran_two Crc32fast.ieee, damagedFile_confined Crc32fast.ieee kept sameLength,
    congrArg Prod.fst opened, cutBehind_bytes bytes, ?_, ?_⟩
  · rintro ⟨-, recovered, result, longer⟩
    rw [opened] at result
    cases result
    have long := length_encode Crc32fast.ieee firstBatch
    have stop : (firstEntry Crc32fast.ieee).store.file.bytes.length =
        (fileBytes Crc32fast.ieee []).length + (firstBatch.encode Crc32fast.ieee).length := List.length_append
    rw [cutBehind_bytes bytes, stop] at longer
    omega
  · rintro ⟨position, detail, failed⟩
    rw [opened] at failed
    cases failed

end EventfoldDb.MidFileDamage
