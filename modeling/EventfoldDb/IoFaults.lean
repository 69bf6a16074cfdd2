import EventfoldDb.DiskInvariant
import EventfoldDb.Lib.Machine

/-! Appends whose file operations may fail. A failed append leaves its bytes in the file and
the writer goes on, so the next append writes behind them. -/

namespace EventfoldDb.IoFaults
open Outcome CodecRoundTrip Recovery RecoveryLoop AppendSpec LogInvariant DiskInvariant Machine

/-- The store, the answers `Ok` given so far, and whether a failed append has left bytes in the
file since it was last opened. -/
structure Life where
  store : Store
  acknowledged : List (List RecordedEvent)
  dirty : Bool

def Life.start : Life := ⟨Store.create, [], false⟩

inductive Step where
  | append (fault : Fault) (call : AppendCall)
  | reopen

def Life.answered (life : Life) (recorded : List RecordedEvent) (after : Store) : Life :=
  { life with store := after, acknowledged := life.acknowledged ++ [recorded] }

def Life.failed (life : Life) (after : Store) : Life :=
  { life with store := after, dirty := life.dirty || life.store.file.bytes.length < after.file.bytes.length }

/-- No file is longer than an `off_t` can say: a write past that is one of those that fail. -/
def next (crc : Crc32fast) : Step → Life → Option Life
  | .append fault call, life =>
      match runCall crc fault life.store call with
      | (.ok recorded, after) =>
          if after.file.bytes.length ≤ isizeMax then some (life.answered recorded after) else none
      | (.err _, after) => if after.file.bytes.length ≤ isizeMax then some (life.failed after) else none
      | (.panic, _) => none
  | .reopen, life =>
      match Store.open crc (some life.store.file) with
      | (.ok recovered, _) => some { life with store := recovered, dirty := false }
      | _ => none

def Survives (crc : Crc32fast) (life : Life) : Prop :=
  ∃ recovered, (Store.open crc (some life.store.file)).1 = ok recovered ∧
    (∀ recorded ∈ life.acknowledged, ∀ event ∈ recorded,
      recovered.log.events[event.globalPosition.toNat]? = some event) ∧
    ∀ (position : Nat) (event : RecordedEvent), recovered.log.events[position]? = some event →
      event.globalPosition.toNat = position

def WritesNothing (crc : Crc32fast) (store : Store) (fault : Fault) (call : AppendCall) : Prop :=
  (∃ error, prepareCall crc store.log call = .error error) ∨ fault = .seek ∨ fault = .write 0

/-- Batches whose count fits the header, and no write behind the bytes of a failed append. -/
def Careful (crc : Crc32fast) (life : Life) : Step → Prop
  | .append fault call =>
      call.proposedEvents.length < 2 ^ 32 ∧ (life.dirty = true → WritesNothing crc life.store fault call)
  | .reopen => True

/-! ### One step -/

theorem Life.failed_unchanged (life : Life) : life.failed life.store = life := by
  simp [Life.failed]

theorem next_append {crc : Crc32fast} {fault : Fault} {call : AppendCall} {life after : Life}
    (moved : next crc (.append fault call) life = some after) :
    after = life ∨
    (∃ batch, Accepts life.store.log call batch ∧ fault ≠ .none ∧
      (life.store.file.write (Fault.leftover fault (batch.encode crc))).bytes.length ≤ isizeMax ∧
      after = life.failed { life.store with file := life.store.file.write (Fault.leftover fault (batch.encode crc)) }) ∨
    (∃ batch, Accepts life.store.log call batch ∧ fault = .none ∧
      life.store.log.events.length + batch.events.length ≤ isizeMax ∧
      (Store.withBatch crc life.store call.streamId batch).file.bytes.length ≤ isizeMax ∧
      after = life.answered batch.events (Store.withBatch crc life.store call.streamId batch)) := by
  rw [next] at moved
  cases called : runCall crc fault life.store call with
  | mk result store =>
    rw [called] at moved
    rcases append_cases crc fault life.store store call result called with
      ⟨error, _, answer, same⟩ | ⟨batch, accepts, faulty, answer, storeEq⟩ |
      ⟨batch, accepts, faultless, answer, fits, storeEq⟩ | answer
    · left
      rw [answer] at moved
      dsimp only at moved
      split_ifs at moved
      rw [same, life.failed_unchanged] at moved
      exact (Option.some.inj moved).symm
    · right; left
      rw [answer] at moved
      dsimp only at moved
      split_ifs at moved with room
      rw [storeEq] at moved room
      exact ⟨batch, accepts, faulty, room, (Option.some.inj moved).symm⟩
    · right; right
      rw [answer] at moved
      dsimp only at moved
      split_ifs at moved with room
      rw [storeEq] at moved room
      exact ⟨batch, accepts, faultless, fits, room, (Option.some.inj moved).symm⟩
    · rw [answer] at moved
      cases moved

theorem next_reopen {crc : Crc32fast} {life after : Life} {recovered : Store} {path : Option File}
    (moved : next crc .reopen life = some after)
    (opened : Store.open crc (some life.store.file) = (ok recovered, path)) :
    after = { life with store := recovered, dirty := false } := by
  rw [next, opened] at moved
  exact (Option.some.inj moved).symm

theorem leftover_inside (fault : Fault) (encodedBatch : List UInt8) :
    Fault.leftover fault encodedBatch <+: encodedBatch := by
  cases fault with
  | none => exact List.nil_prefix
  | seek => exact List.nil_prefix
  | write written => exact List.take_prefix _ _
  | sync => exact List.prefix_refl _

/-! ### The invariant -/

structure Sound (crc : Crc32fast) (life : Life) : Prop where
  file : ∃ batches tail, Indexes batches life.store.log ∧ life.store.file.bytes = fileBytes crc batches ++ tail ∧
    Pending crc life.store.log tail ∧ (life.dirty = false → tail = [])
  fits : life.store.file.bytes.length ≤ isizeMax
  acknowledged : ∀ recorded ∈ life.acknowledged, ∀ event ∈ recorded, event ∈ life.store.log.events

theorem sound_start (crc : Crc32fast) : Sound crc Life.start where
  file := ⟨[], [], indexes_empty, by simp [Life.start, Store.create, fileBytes, encodeAll], Or.inl rfl, fun _ => rfl⟩
  fits := by decide
  acknowledged := by simp [Life.start]

theorem Sound.failed {crc : Crc32fast} {life : Life} {fault : Fault} {call : AppendCall} {batch : Batch}
    (sound : Sound crc life) (clean : life.dirty = false) (accepts : Accepts life.store.log call batch)
    (small : batch.Small)
    (room : (life.store.file.write (Fault.leftover fault (batch.encode crc))).bytes.length ≤ isizeMax) :
    Sound crc (life.failed
      { life.store with file := life.store.file.write (Fault.leftover fault (batch.encode crc)) }) where
  file := by
    obtain ⟨batches, tail, indexes, bytes, _, untouched⟩ := sound.file
    rw [untouched clean, List.append_nil] at bytes
    refine ⟨batches, Fault.leftover fault (batch.encode crc), indexes, ?_, ?_, ?_⟩
    · rw [← bytes]
      rfl
    · exact Or.inr ⟨call, batch, accepts, small, leftover_inside fault _⟩
    · intro stillClean
      simp only [Life.failed, clean, Bool.false_or, decide_eq_false_iff_not, File.write, List.length_append] at stillClean
      exact List.eq_nil_of_length_eq_zero (by omega)
  fits := room
  acknowledged := sound.acknowledged

theorem Sound.answered {crc : Crc32fast} {life : Life} {call : AppendCall} {batch : Batch} (sound : Sound crc life)
    (clean : life.dirty = false) (accepts : Accepts life.store.log call batch) (small : batch.Small)
    (fits : life.store.log.events.length + batch.events.length ≤ isizeMax)
    (room : (Store.withBatch crc life.store call.streamId batch).file.bytes.length ≤ isizeMax) :
    Sound crc (life.answered batch.events (Store.withBatch crc life.store call.streamId batch)) where
  file := by
    obtain ⟨batches, tail, indexes, bytes, _, untouched⟩ := sound.file
    rw [untouched clean, List.append_nil] at bytes
    have holds := Holds.append ⟨indexes, bytes⟩ accepts fits small
    exact ⟨batches ++ [batch], [], holds.toIndexes, by rw [List.append_nil]; exact holds.bytes, Or.inl rfl,
      fun _ => rfl⟩
  fits := room
  acknowledged := by
    intro recorded member event inside
    rcases List.mem_append.mp member with old | new
    · exact List.mem_append_left _ (sound.acknowledged recorded old event inside)
    · rw [List.mem_singleton.mp new] at inside
      exact List.mem_append_right _ inside

/-- Behind a failed append only calls that write nothing are allowed, and these change nothing. -/
theorem unchanged_of_writesNothing {crc : Crc32fast} {fault : Fault} {call : AppendCall} {life after : Life}
    (idle : WritesNothing crc life.store fault call) (moved : next crc (.append fault call) life = some after) :
    after = life := by
  rcases next_append moved with same | ⟨batch, accepts, _, _, afterEq⟩ | ⟨batch, accepts, faultless, _⟩
  · exact same
  · have nothing : Fault.leftover fault (batch.encode crc) = [] := by
      rcases idle with ⟨error, rejected⟩ | seeks | writes
      · rw [prepareCall_accepts crc accepts] at rejected
        cases rejected
      · rw [seeks, Fault.leftover]
      · rw [writes, Fault.leftover, List.take_zero]
    rw [afterEq, nothing, write_nil, life.failed_unchanged]
  · rcases idle with ⟨error, rejected⟩ | seeks | writes
    · rw [prepareCall_accepts crc accepts] at rejected
      cases rejected
    · rw [faultless] at seeks
      cases seeks
    · rw [faultless] at writes
      cases writes

theorem sound_next (crc : Crc32fast) (life : Life) (step : Step) (after : Life) (sound : Sound crc life)
    (careful : Careful crc life step) (moved : next crc step life = some after) : Sound crc after := by
  cases step with
  | append fault call =>
    obtain ⟨counted, quiet⟩ := careful
    by_cases dirty : life.dirty = true
    · rw [unchanged_of_writesNothing (quiet dirty) moved]
      exact sound
    · rw [Bool.not_eq_true] at dirty
      have small : ∀ batch, Accepts life.store.log call batch → Batch.Small batch := by
        intro batch accepts
        rw [Batch.Small, accepts.length_events]
        exact counted
      rcases next_append moved with same | ⟨batch, accepts, _, room, afterEq⟩ |
        ⟨batch, accepts, _, fits, room, afterEq⟩
      · rw [same]
        exact sound
      · rw [afterEq]
        exact sound.failed dirty accepts (small batch accepts) room
      · rw [afterEq]
        exact sound.answered dirty accepts (small batch accepts) fits room
  | reopen =>
    obtain ⟨before, tail, indexes, bytes, pending, _⟩ := sound.file
    obtain ⟨recovered, batches, opened, holds, kept, shorter⟩ := indexes.open_pending bytes pending sound.fits
    rw [next_reopen moved opened]
    refine ⟨⟨batches, [], holds.toIndexes, ?_, Or.inl rfl, fun _ => rfl⟩,
      Nat.le_trans shorter.length_le sound.fits, ?_⟩
    · rw [List.append_nil]
      exact holds.bytes
    · intro recorded member event inside
      exact kept.subset (sound.acknowledged recorded member event inside)

theorem Sound.survives {crc : Crc32fast} {life : Life} (sound : Sound crc life) : Survives crc life := by
  obtain ⟨before, tail, indexes, bytes, pending, _⟩ := sound.file
  obtain ⟨recovered, batches, opened, holds, kept, _⟩ := indexes.open_pending bytes pending sound.fits
  have positions := holds.wellFormed.positions
  refine ⟨recovered, by rw [opened], ?_, ?_⟩
  · intro recorded member event inside
    exact positions.getElem?_of_mem (kept.subset (sound.acknowledged recorded member event inside))
  · intro position event found
    rw [positions.getElem? found, Nat.zero_add]

/-! ### Concrete runs -/

section
variable {crc : Crc32fast} {life : Life} {call : AppendCall} {batch : Batch}
  (accepts : Accepts life.store.log call batch)
include accepts

theorem next_failed {fault : Fault} (faulty : fault ≠ .none)
    (room : (life.store.file.write (Fault.leftover fault (batch.encode crc))).bytes.length ≤ isizeMax) :
    next crc (.append fault call) life =
      some (life.failed { life.store with file := life.store.file.write (Fault.leftover fault (batch.encode crc)) }) := by
  rw [next, runCall_faulty crc fault life.store call batch accepts faulty]
  exact if_pos room

theorem next_answered (fits : life.store.log.events.length + batch.events.length ≤ isizeMax)
    (room : (Store.withBatch crc life.store call.streamId batch).file.bytes.length ≤ isizeMax) :
    next crc (.append .none call) life =
      some (life.answered batch.events (Store.withBatch crc life.store call.streamId batch)) := by
  rw [next, runCall_accepts crc life.store call batch accepts fits]
  exact if_pos room

end

def oneEvent (crc : Crc32fast) : Life :=
  Life.start.answered firstBatch.events (Store.withBatch crc Store.create (idOf 0) firstBatch)

def oneEventTorn (crc : Crc32fast) : Life :=
  (oneEvent crc).failed
    { (oneEvent crc).store with file := (oneEvent crc).store.file.write ((secondBatch.encode crc).take 1) }

theorem length_concrete_le (crc : Crc32fast) {more : List UInt8} (short : more.length ≤ 1) :
    encodeHeader.length + (firstBatch.encode crc).length + more.length ≤ isizeMax := by
  have size := length_firstBatch_le crc
  rw [length_encodeHeader, headerSize, isizeMax]
  simp only [maxEventSize] at size
  omega

theorem next_oneEvent (crc : Crc32fast) :
    next crc (.append .none (plainCall 0 .any [1])) Life.start = some (oneEvent crc) := by
  apply @next_answered crc Life.start _ _ firstBatch_accepted (by decide)
  show (encodeHeader ++ firstBatch.encode crc).length ≤ isizeMax
  rw [List.length_append]
  exact @length_concrete_le crc [] (Nat.zero_le 1)

theorem next_oneEventTorn (crc : Crc32fast) :
    next crc (.append (.write 1) (plainCall 0 .any [2])) (oneEvent crc) = some (oneEventTorn crc) := by
  have accepts : Accepts (oneEvent crc).store.log (plainCall 0 .any [2]) secondBatch := secondBatch_accepted
  apply next_failed accepts (by simp)
  show (encodeHeader ++ firstBatch.encode crc ++ (secondBatch.encode crc).take 1).length ≤ isizeMax
  rw [List.length_append, List.length_append]
  exact length_concrete_le crc (List.length_take_le 1 _)

def leftBehind (crc : Crc32fast) : Store :=
  { Store.create with file := Store.create.file.write ((firstBatch.encode crc).take 1) }

theorem next_faulty (crc : Crc32fast) :
    next crc (.append (.write 1) (plainCall 0 .any [1])) Life.start =
      some (Life.start.failed (leftBehind crc)) := by
  apply next_failed firstBatch_accepted (by simp)
  have first := List.length_take_le 1 (firstBatch.encode crc)
  show (encodeHeader ++ (firstBatch.encode crc).take 1).length ≤ isizeMax
  rw [List.length_append, length_encodeHeader, headerSize, isizeMax]
  omega

theorem next_behind (crc : Crc32fast) :
    next crc (.append .none (plainCall 0 .any [1])) (Life.start.failed (leftBehind crc)) =
      some ((Life.start.failed (leftBehind crc)).answered firstBatch.events
        (Store.withBatch crc (leftBehind crc) (idOf 0) firstBatch)) := by
  apply @next_answered crc (Life.start.failed (leftBehind crc)) _ _ firstBatch_accepted
    (by decide : EventLog.empty.events.length + firstBatch.events.length ≤ isizeMax)
  show (encodeHeader ++ (firstBatch.encode crc).take 1 ++ firstBatch.encode crc).length ≤ isizeMax
  rw [List.length_append, List.length_append, Nat.add_right_comm]
  exact length_concrete_le crc (List.length_take_le 1 _)

theorem open_behind_leftover (crc : Crc32fast) (failed batch : Batch) (file : File)
    (bytes : file.bytes = encodeHeader ++ ((failed.encode crc).take 1 ++ batch.encode crc)) :
    (Store.open crc (some file)).1 =
      err (.corruptRecord 0 "mid-file corruption: valid batch follows corrupt data") := by
  have size := length_encode crc batch
  have magics : ∀ other : Batch, ∃ rest, other.encode crc = batchHeaderMagic ++ rest := by
    intro other
    refine ⟨(other.encode crc).drop 4, ?_⟩
    have start := take_four_encode crc other []
    rw [List.append_nil] at start
    rw [← start, List.take_append_drop]
  obtain ⟨failedRest, failedEq⟩ := magics failed
  obtain ⟨batchRest, batchEq⟩ := magics batch
  have first : (failed.encode crc).take 1 = [0x45] := by
    rw [failedEq]
    rfl
  rw [first] at bytes
  have atBatch : file.bytes.drop 9 = batch.encode crc := by
    rw [bytes]
    rfl
  have long : file.bytes.length = 9 + (batch.encode crc).length := by
    rw [bytes, List.length_append, List.length_append, length_encodeHeader, headerSize, List.length_singleton]
    omega
  have wrong : (file.bytes.drop 8).take 4 ≠ batchHeaderMagic := by
    rw [bytes, batchEq]
    show [0x45, 0x45, 0x46, 0x42] ≠ batchHeaderMagic
    decide
  have right : (file.bytes.drop 9).take 4 = batchHeaderMagic := by
    rw [atBatch, batchEq]
    rfl
  have failedRead := readBatch_wrongMagic crc file.bytes 8 0 9 wrong (by omega) (by omega) right
  have failedLoop := recoverLoop_failed crc file.bytes 8 EventLog.empty _ (by omega) failedRead
  have recovered := recover_header crc ([0x45] ++ batch.encode crc)
  rw [← bytes, length_encodeHeader, headerSize, failedLoop] at recovered
  rw [Store.open_some, recovered]
  rfl

/-- Over every run of appends, failing or not, and reopens: if nothing is written behind the bytes
of a failed append and every batch is small enough, all acknowledged events survive. -/
theorem acknowledged_survive (crc : Crc32fast) (life : Life)
    (run : Reaches (next crc) (Careful crc) Life.start life) : Survives crc life :=
  (run.invariant (Sound crc) (sound_start crc) (sound_next crc)).survives

theorem acknowledged_survive_one_failure :
    ∃ life, Reaches (next Crc32fast.ieee) (Careful Crc32fast.ieee) Life.start life ∧
      life.acknowledged = [firstBatch.events] ∧
      life.store.file.bytes =
        encodeHeader ++ firstBatch.encode Crc32fast.ieee ++ (secondBatch.encode Crc32fast.ieee).take 1 ∧
      Survives Crc32fast.ieee life := by
  have once : Reaches (next Crc32fast.ieee) (Careful Crc32fast.ieee) Life.start (oneEvent Crc32fast.ieee) :=
    .single ⟨.append .none (plainCall 0 .any [1]), ⟨by decide, by simp [Life.start]⟩, next_oneEvent Crc32fast.ieee⟩
  have run := once.tail ⟨.append (.write 1) (plainCall 0 .any [2]),
    ⟨by decide, by simp [oneEvent, Life.answered, Life.start]⟩, next_oneEventTorn Crc32fast.ieee⟩
  exact ⟨_, run, rfl, rfl, acknowledged_survive Crc32fast.ieee _ run⟩

/-- One append whose write stops after a byte, then one that is answered `Ok`: `open` refuses
the file. -/
theorem not_survives_append_behind_leftover :
    ∃ life, feed (next Crc32fast.ieee)
        [.append (.write 1) (plainCall 0 .any [1]), .append .none (plainCall 0 .any [1])] Life.start = some life ∧
      life.acknowledged = [firstBatch.events] ∧ ¬Survives Crc32fast.ieee life := by
  let final := (Life.start.failed (leftBehind Crc32fast.ieee)).answered firstBatch.events
    (Store.withBatch Crc32fast.ieee (leftBehind Crc32fast.ieee) (idOf 0) firstBatch)
  refine ⟨final, ?_, rfl, ?_⟩
  · rw [feed, next_faulty, Option.bind_some, feed, next_behind, Option.bind_some, feed]
  · rintro ⟨recovered, opened, _⟩
    have refused := open_behind_leftover Crc32fast.ieee firstBatch firstBatch final.store.file (List.append_assoc ..)
    cases opened.symm.trans refused

end EventfoldDb.IoFaults
