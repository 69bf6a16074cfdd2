import EventfoldDb.DiskInvariant
import EventfoldDb.Lib.Machine

/-! Runs of appends and clean reopens from a fresh log: what the index says and what the file
holds stay the same list of events. -/

namespace EventfoldDb.StoreRuns
open Outcome CodecRoundTrip Recovery RecoveryLoop AppendSpec LogInvariant DiskInvariant Machine

structure History where
  store : Store
  accepted : List (List RecordedEvent)

def History.start : History := ⟨Store.create, []⟩

inductive Step where
  | append (call : AppendCall)
  | reopen

def next (crc : Crc32fast) : Step → History → Option History
  | .append call, history =>
      match runCall crc .none history.store call with
      | (.ok recorded, after) => some { store := after, accepted := history.accepted ++ [recorded] }
      | (.err _, after) => some { history with store := after }
      | (.panic, _) => none
  | .reopen, history =>
      match Store.open crc (some history.store.file) with
      | (.ok recovered, _) => some { history with store := recovered }
      | _ => none

/-- The representation invariant of the event log. -/
structure Represents (crc : Crc32fast) (history : History) : Prop where
  positions : ∀ (i : Nat) (event : RecordedEvent), history.store.log.events[i]? = some event →
    event.globalPosition.toNat = i
  increasing : ∀ streamId listed, history.store.log.streams.lookup streamId = some listed →
    listed.Pairwise (· < ·)
  lists : ∀ streamId listed, history.store.log.streams.lookup streamId = some listed →
    ∀ i : Nat, i ∈ listed.map (·.toNat) ↔
      ∃ event : RecordedEvent, history.store.log.events[i]? = some event ∧ event.streamId = streamId
  indexed : ∀ event ∈ history.store.log.events,
    ∃ listed, history.store.log.streams.lookup event.streamId = some listed
  versions : ∀ streamId listed (j : Nat) (position : UInt64),
    history.store.log.streams.lookup streamId = some listed → listed[j]? = some position →
      ∃ event : RecordedEvent, history.store.log.events[position.toNat]? = some event ∧ event.streamVersion.toNat = j
  file : history.store.file.bytes = encodeHeader ++ encodeFrom crc 0 history.accepted
  records : history.accepted.flatten = history.store.log.events

def Counted (_ : History) : Step → Prop
  | .append call => call.proposedEvents.length < 2 ^ 32
  | .reopen => True

theorem next_append {crc : Crc32fast} {call : AppendCall} {history after : History}
    (moved : next crc (.append call) history = some after) :
    after = history ∨ ∃ batch, Accepts history.store.log call batch ∧
      history.store.log.events.length + batch.events.length ≤ isizeMax ∧
      after = { store := Store.withBatch crc history.store call.streamId batch,
                accepted := history.accepted ++ [batch.events] } := by
  rw [next] at moved
  cases called : runCall crc .none history.store call with
  | mk result store =>
    rw [called] at moved
    rcases append_cases crc .none history.store store call result called with
      ⟨error, _, answer, same⟩ | ⟨_, _, faulty, _⟩ | ⟨batch, accepts, _, answer, fits, storeEq⟩ | answer
    · left
      rw [answer, same] at moved
      exact (Option.some.inj moved).symm
    · exact absurd rfl faulty
    · right
      rw [answer, storeEq] at moved
      exact ⟨batch, accepts, fits, (Option.some.inj moved).symm⟩
    · rw [answer] at moved
      cases moved

def Kept (crc : Crc32fast) (history : History) : Prop :=
  ∃ batches, Holds crc batches history.store ∧ history.accepted = batches.map Batch.events

theorem kept_start (crc : Crc32fast) : Kept crc History.start := ⟨[], holds_create crc, rfl⟩

theorem Kept.reopen {crc : Crc32fast} {history : History} (kept : Kept crc history) :
    ∃ after, next crc .reopen history = some after ∧ Kept crc after := by
  obtain ⟨batches, holds, accepted⟩ := kept
  refine ⟨_, by rw [next, open_clean holds.small holds.bytes], ?_⟩
  exact ⟨batches, ⟨holds.recovered, holds.bytes⟩, accepted⟩

theorem kept_next (crc : Crc32fast) (history : History) (step : Step) (after : History) (kept : Kept crc history)
    (counted : Counted history step) (moved : next crc step history = some after) : Kept crc after := by
  cases step with
  | append call =>
    rcases next_append moved with same | ⟨batch, accepts, fits, afterEq⟩
    · rw [same]
      exact kept
    · obtain ⟨batches, holds, accepted⟩ := kept
      have small : batch.Small := by
        rw [Batch.Small, accepts.length_events]
        exact counted
      rw [afterEq]
      refine ⟨batches ++ [batch], holds.append accepts fits small, ?_⟩
      rw [List.map_append, ← accepted, List.map_singleton]
  | reopen =>
    obtain ⟨other, reopened, keptOther⟩ := kept.reopen
    rw [reopened] at moved
    rw [← Option.some.inj moved]
    exact keptOther

theorem Kept.represents {crc : Crc32fast} {history : History} (kept : Kept crc history) :
    Represents crc history := by
  obtain ⟨batches, holds, accepted⟩ := kept
  have wellFormed := holds.wellFormed
  constructor
  · intro i event found
    rw [wellFormed.positions.getElem? found, Nat.zero_add]
  · intro streamId listed found
    have sorted : (listed.map (·.toNat)).Pairwise (· < ·) := by
      rw [wellFormed.index streamId listed found]
      exact List.pairwise_findIdxs
    exact (List.pairwise_map.mp sorted).imp (fun less => UInt64.lt_iff_toNat_lt.mpr less)
  · intro streamId listed found i
    rw [wellFormed.index streamId listed found, List.mem_findIdxs_iff_exists_getElem_pos]
    constructor
    · rintro ⟨inside, picked⟩
      exact ⟨_, List.getElem?_eq_getElem inside, by simpa using picked⟩
    · rintro ⟨event, here, stream⟩
      obtain ⟨inside, same⟩ := List.getElem?_eq_some_iff.mp here
      exact ⟨inside, by simpa [same] using stream⟩
  · intro event member
    exact Option.ne_none_iff_exists'.mp (wellFormed.indexed event member)
  · intro streamId listed j position found here
    obtain ⟨event, inStream, inLog⟩ := wellFormed.getElem?_listed found here
    refine ⟨event, inLog, ?_⟩
    rw [(wellFormed.versions streamId).getElem? inStream, Nat.zero_add]
  · rw [holds.bytes, fileBytes, encodeAll_eq_encodeFrom crc 0 batches holds.placed, accepted]
  · rw [holds.events, accepted, eventsOf, List.flatMap_def]

/-- In every run whose batches have fewer than 2^32 events the invariant holds, and the log can be
reopened. -/
theorem represents_of_run (crc : Crc32fast) (history : History)
    (run : Reaches (next crc) Counted History.start history) :
    Represents crc history ∧ ∃ after, next crc .reopen history = some after := by
  have kept := run.invariant (Kept crc) (kept_start crc) (kept_next crc)
  obtain ⟨after, reopened, _⟩ := kept.reopen
  exact ⟨kept.represents, after, reopened⟩

private theorem next_plain (crc : Crc32fast) (ids : List Nat) (fits : ids.length ≤ isizeMax) :
    next crc (.append (plainCall 0 .any ids)) History.start =
      some { store := Store.withBatch crc Store.create (idOf 0) (plainBatch EventLog.empty 0 .any ids),
             accepted := [(plainBatch EventLog.empty 0 .any ids).events] } := by
  have accepts := accepts_batchOf EventLog.empty _ (plainCall_valid 0 .any ids) rfl
  have called := runCall_accepts crc History.start.store _ (plainBatch EventLog.empty 0 .any ids) accepts (by
    rw [length_plainBatch]
    exact (Nat.zero_add _).symm ▸ fits)
  rw [next, called]
  rfl

theorem represents_of_run_one_event :
    ∃ history, Reaches (next Crc32fast.ieee) Counted History.start history ∧
      history.accepted.flatten.length = 1 ∧ Represents Crc32fast.ieee history := by
  have moved := next_plain Crc32fast.ieee [1] (by decide)
  have run : Reaches (next Crc32fast.ieee) Counted History.start _ :=
    .single ⟨.append (plainCall 0 .any [1]), (by decide : [plainEvent 1].length < 2 ^ 32), moved⟩
  exact ⟨_, run, by decide, (represents_of_run Crc32fast.ieee _ run).1⟩

/-- A batch whose count does not fit the header is accepted, and gone after the next reopen. -/
theorem lost_by_reopen (crc : Crc32fast) (ids : List Nat) (large : 2 ^ 32 ≤ ids.length)
    (fits : ids.length ≤ isizeMax) :
    ∃ history, feed (next crc) [.append (plainCall 0 .any ids), .reopen] History.start = some history ∧
      history.store.log.events = [] ∧ history.accepted.flatten.length = ids.length := by
  let batch := plainBatch EventLog.empty 0 .any ids
  have count : batch.events.length = ids.length := length_plainBatch EventLog.empty 0 .any ids
  have notSmall : ¬batch.Small := by
    show ¬batch.events.length < 2 ^ 32
    omega
  refine ⟨⟨cutBehind crc [] (Store.withBatch crc Store.create (idOf 0) batch).file, [batch.events]⟩, ?_, rfl, ?_⟩
  · rw [feed, next_plain crc ids fits, Option.bind_some, feed, next, open_first_oversize crc (idOf 0) notSmall]
    rfl
  · rw [List.flatten_singleton]
    exact count

theorem not_represents_large_batch :
    ∃ history, feed (next Crc32fast.ieee)
        [.append (plainCall 0 .any (List.replicate (2 ^ 32) 1)), .reopen] History.start = some history ∧
      ¬Represents Crc32fast.ieee history := by
  have count : (List.replicate (2 ^ 32) 1).length = 2 ^ 32 := List.length_replicate
  obtain ⟨history, fed, empty, accepted⟩ := lost_by_reopen Crc32fast.ieee (List.replicate (2 ^ 32) 1)
    (Nat.le_of_eq count.symm) (by rw [count]; decide)
  refine ⟨history, fed, ?_⟩
  intro represents
  rw [represents.records, empty, count] at accepted
  cases accepted

end EventfoldDb.StoreRuns
