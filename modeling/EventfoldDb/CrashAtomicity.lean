import EventfoldDb.DiskInvariant

/-! A crash can leave any prefix of the file that successful appends wrote. Opening such a
prefix gives back the store as it was right after one of those appends. -/

namespace EventfoldDb.CrashAtomicity
open Outcome CodecRoundTrip Recovery RecoveryLoop AppendSpec LogInvariant DiskInvariant

structure Appended where
  recorded : List RecordedEvent
  store : Store
  deriving DecidableEq

/-- Run the calls in order; `none` as soon as one of them is not answered `Ok`. -/
def appendAll (crc : Crc32fast) : Store → List AppendCall → Option (List Appended)
  | _, [] => some []
  | store, call :: calls =>
      match runCall crc .none store call with
      | (.ok recorded, after) => (appendAll crc after calls).map ({ recorded, store := after } :: ·)
      | _ => none

def lastStore (start : Store) : List Appended → Store
  | [] => start
  | entry :: entries => lastStore entry.store entries

/-- A batch ends where the file ended right after its append. -/
def wholeWithin (length : Nat) (trace : List Appended) : List Appended :=
  trace.filter (fun entry => entry.store.file.bytes.length ≤ length)

theorem appendAll_cons {crc : Crc32fast} {store : Store} {call : AppendCall} {calls : List AppendCall}
    {trace : List Appended} (ran : appendAll crc store (call :: calls) = some trace) :
    ∃ batch entries, Accepts store.log call batch ∧
      store.log.events.length + batch.events.length ≤ isizeMax ∧
      runCall crc .none store call = (.ok batch.events, Store.withBatch crc store call.streamId batch) ∧
      appendAll crc (Store.withBatch crc store call.streamId batch) calls = some entries ∧
      trace = { recorded := batch.events, store := Store.withBatch crc store call.streamId batch } :: entries := by
  rw [appendAll] at ran
  split at ran
  next recorded after called =>
    obtain ⟨entries, rest, traceEq⟩ := Option.map_eq_some_iff.mp ran
    rcases append_cases crc .none store after call _ called with
      ⟨_, _, failed, _⟩ | ⟨_, _, faulty, _⟩ | ⟨batch, accepts, _, answer, fits, afterEq⟩ | panicked
    · cases failed
    · exact absurd rfl faulty
    · cases answer
      have same : after = Store.withBatch crc store call.streamId batch := afterEq
      rw [same] at rest traceEq called
      exact ⟨batch, entries, accepts, fits, called, rest, traceEq.symm⟩
    · cases panicked
  next => cases ran

theorem withBatch_bytes (crc : Crc32fast) (store : Store) (streamId : Uuid) (batch : Batch) :
    (Store.withBatch crc store streamId batch).file.bytes = store.file.bytes ++ batch.encode crc := rfl

theorem bytes_kept {crc : Crc32fast} {store : Store} {calls : List AppendCall} {trace : List Appended}
    (ran : appendAll crc store calls = some trace) :
    (∀ entry ∈ trace, store.file.bytes <+: entry.store.file.bytes) ∧
      store.file.bytes <+: (lastStore store trace).file.bytes := by
  induction calls generalizing store trace with
  | nil =>
    cases ran
    exact ⟨by simp, List.prefix_refl _⟩
  | cons call calls ih =>
    obtain ⟨batch, entries, _, _, _, rest, traceEq⟩ := appendAll_cons ran
    obtain ⟨inside, last⟩ := ih rest
    have grown : store.file.bytes <+: (Store.withBatch crc store call.streamId batch).file.bytes :=
      List.prefix_append _ _
    rw [traceEq]
    refine ⟨?_, grown.trans last⟩
    intro entry member
    rcases List.mem_cons.mp member with same | later
    · rw [same]
      exact grown
    · exact grown.trans (inside entry later)

structure SplitAt (crc : Crc32fast) (store : Store) (calls : List AppendCall) (trace : List Appended) (n : Nat)
    (whole : List Appended) : Prop where
  filtered : wholeWithin n trace = whole
  replayed : appendAll crc store (calls.take whole.length) = some whole
  torn : ∃ tail, Torn crc tail ∧
    (lastStore store trace).file.bytes.take n = (lastStore store whole).file.bytes ++ tail
  holds : ∃ batches, Holds crc batches (lastStore store whole)
  canonical : Canonical (lastStore store whole).log
  events : (lastStore store whole).log.events = store.log.events ++ whole.flatMap (·.recorded)

private theorem splitAt_first {crc : Crc32fast} {store : Store} {calls : List AppendCall} {trace : List Appended}
    {n : Nat} (holds : ∃ batches, Holds crc batches store) (canonical : Canonical store.log)
    (later : ∀ entry ∈ trace, n < entry.store.file.bytes.length)
    (torn : ∃ tail, Torn crc tail ∧ (lastStore store trace).file.bytes.take n = store.file.bytes ++ tail) :
    SplitAt crc store calls trace n [] where
  filtered := by
    rw [wholeWithin, List.filter_eq_nil_iff]
    intro entry member
    have beyond := later entry member
    simp only [decide_eq_true_eq]
    omega
  replayed := rfl
  torn := torn
  holds := holds
  canonical := canonical
  events := by simp [lastStore]

section
variable {crc : Crc32fast} {store : Store} {calls : List AppendCall} {call : AppendCall} {batch : Batch}
  {entries : List Appended} {n : Nat}

private theorem SplitAt.cons {whole : List Appended}
    (called : runCall crc .none store call = (.ok batch.events, Store.withBatch crc store call.streamId batch))
    (within : (Store.withBatch crc store call.streamId batch).file.bytes.length ≤ n)
    (split : SplitAt crc (Store.withBatch crc store call.streamId batch) calls entries n whole) :
    SplitAt crc store (call :: calls) (⟨batch.events, Store.withBatch crc store call.streamId batch⟩ :: entries) n
      (⟨batch.events, Store.withBatch crc store call.streamId batch⟩ :: whole) where
  filtered := by
    rw [wholeWithin, List.filter_cons_of_pos (by simpa using within), ← split.filtered, wholeWithin]
  replayed := by
    rw [List.length_cons, List.take_succ_cons, appendAll, called]
    dsimp only
    rw [split.replayed, Option.map_some]
  torn := split.torn
  holds := split.holds
  canonical := split.canonical
  events := by
    rw [lastStore, split.events, List.flatMap_cons, ← List.append_assoc]
    rfl

private theorem splitAt_cut (holds : ∃ batches, Holds crc batches store) (canonical : Canonical store.log)
    (rest : appendAll crc (Store.withBatch crc store call.streamId batch) calls = some entries) (small : batch.Small)
    (long : store.file.bytes.length ≤ n)
    (beyond : ¬(Store.withBatch crc store call.streamId batch).file.bytes.length ≤ n) :
    SplitAt crc store (call :: calls) (⟨batch.events, Store.withBatch crc store call.streamId batch⟩ :: entries) n
      [] := by
  refine splitAt_first holds canonical ?_ ?_
  · intro entry member
    have shorter : (Store.withBatch crc store call.streamId batch).file.bytes.length ≤
        entry.store.file.bytes.length := by
      rcases List.mem_cons.mp member with same | later
      · rw [same]
      · exact ((bytes_kept rest).1 entry later).length_le
    omega
  · obtain ⟨more, lastEq⟩ := (bytes_kept rest).2
    rw [withBatch_bytes, List.append_assoc] at lastEq
    rw [withBatch_bytes, List.length_append] at beyond
    refine ⟨_, torn_take crc batch small (n - store.file.bytes.length) (by omega), ?_⟩
    rw [lastStore, ← lastEq, List.take_append, List.take_of_length_le long, List.take_append_of_le_length (by omega)]

end

theorem exists_splitAt {crc : Crc32fast} {store : Store} {calls : List AppendCall} {trace : List Appended}
    {batches : List Batch} (ran : appendAll crc store calls = some trace)
    (present : ∀ call ∈ calls, call.proposedEvents ≠ [])
    (counted : ∀ call ∈ calls, call.proposedEvents.length < 2 ^ 32)
    (holds : Holds crc batches store) (canonical : Canonical store.log) (n : Nat)
    (long : store.file.bytes.length ≤ n) (inside : n ≤ (lastStore store trace).file.bytes.length) :
    ∃ whole, SplitAt crc store calls trace n whole := by
  induction calls generalizing store trace batches with
  | nil =>
    cases ran
    refine ⟨[], splitAt_first ⟨batches, holds⟩ canonical (by simp) ⟨[], .inl rfl, ?_⟩⟩
    rw [List.append_nil]
    exact List.take_of_length_le long
  | cons call calls ih =>
    obtain ⟨batch, entries, accepts, fits, called, rest, traceEq⟩ := appendAll_cons ran
    have count := accepts.length_events
    have small : batch.Small := by
      rw [Batch.Small, count]
      exact counted call (List.mem_cons_self ..)
    have nonempty : batch.events ≠ [] := by
      apply List.ne_nil_of_length_pos
      rw [count]
      exact List.length_pos_of_ne_nil (present call (List.mem_cons_self ..))
    rw [traceEq] at inside ⊢
    by_cases within : (Store.withBatch crc store call.streamId batch).file.bytes.length ≤ n
    · obtain ⟨whole, split⟩ := ih rest (fun other member => present other (List.mem_cons_of_mem _ member))
        (fun other member => counted other (List.mem_cons_of_mem _ member)) (holds.append accepts fits small)
        (canonical.extended nonempty accepts.stream) within inside
      exact ⟨_, split.cons called within⟩
    · exact ⟨[], splitAt_cut ⟨batches, holds⟩ canonical rest small long within⟩

/-- For every length a crash can leave: `open` succeeds, recovers exactly the batches that lie
wholly inside, and file and index are those the appends of these batches alone produce. -/
theorem open_after_crash (crc : Crc32fast) (calls : List AppendCall) (trace : List Appended)
    (ran : appendAll crc Store.create calls = some trace)
    (present : ∀ call ∈ calls, call.proposedEvents ≠ [])
    (counted : ∀ call ∈ calls, call.proposedEvents.length < 2 ^ 32)
    (n : Nat) (long : headerSize ≤ n) (inside : n ≤ (lastStore Store.create trace).file.bytes.length)
    (crashed : File) (bytes : crashed.bytes = (lastStore Store.create trace).file.bytes.take n) :
    ∃ recovered, Store.open crc (some crashed) = (.ok recovered, some recovered.file) ∧
      recovered.log.events = (wholeWithin n trace).flatMap (·.recorded) ∧
      recovered.log.streams = (lastStore Store.create (wholeWithin n trace)).log.streams ∧
      recovered.file.bytes = (lastStore Store.create (wholeWithin n trace)).file.bytes ∧
      appendAll crc Store.create (calls.take (wholeWithin n trace).length) = some (wholeWithin n trace) := by
  have start : Store.create.file.bytes.length ≤ n := by
    show encodeHeader.length ≤ n
    rw [length_encodeHeader]
    exact long
  obtain ⟨whole, split⟩ := exists_splitAt ran present counted (holds_create crc) rfl n start inside
  obtain ⟨tail, torn, cut⟩ := split.torn
  obtain ⟨batches, holds⟩ := split.holds
  rw [holds.bytes] at cut
  obtain ⟨recovered, opened, reopened, logEq⟩ := holds.open_torn (bytes.trans cut) torn
  rw [← holds.events, ← split.canonical] at logEq
  rw [split.filtered]
  refine ⟨recovered, opened, ?_, by rw [logEq], by rw [reopened.bytes, holds.bytes], split.replayed⟩
  rw [logEq, split.events]
  rfl

theorem open_after_crash_first_byte :
    ∃ trace crashed recovered, appendAll Crc32fast.ieee Store.create [plainCall 0 .noStream [1]] = some trace ∧
      crashed.bytes = (lastStore Store.create trace).file.bytes.take 9 ∧
      Store.open Crc32fast.ieee (some crashed) = (.ok recovered, some recovered.file) ∧
      recovered.log.events = (wholeWithin 9 trace).flatMap (·.recorded) := by
  let batch := plainBatch EventLog.empty 0 .noStream [1]
  let entry : Appended := ⟨batch.events, Store.withBatch Crc32fast.ieee Store.create (idOf 0) batch⟩
  have ran : appendAll Crc32fast.ieee Store.create [plainCall 0 .noStream [1]] = some [entry] := by
    have called := runCall_accepts Crc32fast.ieee Store.create (plainCall 0 .noStream [1]) batch
      (accepts_batchOf EventLog.empty _ (plainCall_valid 0 .noStream [1]) rfl) (by decide)
    rw [appendAll, called]
    rfl
  have inside : 9 ≤ (lastStore Store.create [entry]).file.bytes.length := by
    show 9 ≤ (encodeHeader ++ batch.encode Crc32fast.ieee).length
    rw [List.length_append, length_encode, length_encodeHeader, headerSize]
    omega
  let crashed : File := ⟨(lastStore Store.create [entry]).file.bytes.take 9, 0, Nat.zero_le _⟩
  obtain ⟨recovered, opened, events, _⟩ := open_after_crash Crc32fast.ieee [plainCall 0 .noStream [1]] [entry] ran
    (by simp [plainCall]) (by simp [plainCall]) 9 (by decide) inside crashed rfl
  exact ⟨[entry], crashed, recovered, ran, rfl, opened, events⟩

end EventfoldDb.CrashAtomicity
