import EventfoldDb.GreedyRecovery
import EventfoldDb.WriterSpec

/-! The life of a store: opened, appended to by its caller or moved into a writer task that
appends for others, dropped and opened again. -/

namespace EventfoldDb.Lifecycle
open Outcome Recovery RecoveryLoop AppendSpec LogInvariant DiskInvariant GreedyRecovery WriterSpec Machine

inductive Owner where
  | caller (store : Store)
  | task (writer : Writer)

def Owner.store : Owner → Store
  | .caller store => store
  | .task writer => writer.store

inductive Step where
  /-- `Store::append`. -/
  | append (fault : Fault) (call : AppendCall)
  | spawnWriter (dedupCapacity : Nat)
  /-- A request sent through a `WriterHandle`, when the task gets to it. -/
  | request (fault : Fault) (recordedAt : UInt64) (request : AppendRequest)
  /-- The owner is dropped and the file opened again. -/
  | reopen

def next (crc : Crc32fast) : Step → Owner → Option Owner
  | .append fault call, .caller store =>
      match runCall crc fault store call with
      | (.panic, _) => none
      | (_, after) => some (.caller after)
  | .spawnWriter dedupCapacity, .caller store => some (.task (Writer.spawn store dedupCapacity))
  | .request fault recordedAt request, .task writer =>
      match (writer.serve crc fault recordedAt request).result with
      | .panic => none
      | _ => some (.task (writer.serve crc fault recordedAt request).writer)
  | .reopen, owner =>
      match Store.open crc (some owner.store.file) with
      | (.ok store, _) => some (.caller store)
      | _ => none
  | _, _ => none

def Step.proposed : Step → Option (List ProposedEvent)
  | .append _ call => some call.proposedEvents
  | .request _ _ sent => some sent.events
  | _ => none

def Step.fault : Step → Fault
  | .append fault _ => fault
  | .request fault _ _ => fault
  | _ => .none

def Filled (_ : Owner) (step : Step) : Prop := ∀ proposed, step.proposed = some proposed → proposed ≠ []

def Faultless (_ : Owner) (step : Step) : Prop := step.fault = .none

def Clean (owner : Owner) (step : Step) : Prop := Filled owner step ∧ Faultless owner step

/-- What a step can do to the store: nothing to its index, one more batch, or a recovery. -/
theorem next_store {crc : Crc32fast} {step : Step} {owner after : Owner} (moved : next crc step owner = some after) :
    (after.store.log = owner.store.log ∧ (step.fault = .none → after.store = owner.store)) ∨
    (∃ call batch, step.proposed = some call.proposedEvents ∧ Accepts owner.store.log call batch ∧
      owner.store.log.events.length + batch.events.length ≤ isizeMax ∧
      after.store = Store.withBatch crc owner.store call.streamId batch) ∨
    (step = .reopen ∧ ∃ file, Store.open crc (some owner.store.file) = (ok after.store, file)) := by
  cases step with
  | append fault call =>
    cases owner with
    | task writer => cases moved
    | caller store =>
      rw [next] at moved
      cases called : runCall crc fault store call with
      | mk result store' =>
        rw [called] at moved
        rcases append_cases crc fault store store' call result called with
          ⟨error, _, answer, same⟩ | ⟨batch, _, faulty, answer, storeEq⟩ |
          ⟨batch, accepts, _, answer, fits, storeEq⟩ | answer
        · rw [answer] at moved
          cases moved
          exact .inl ⟨congrArg Store.log same, fun _ => same⟩
        · rw [answer] at moved
          cases moved
          have sameLog : store'.log = store.log := by rw [storeEq]
          exact .inl ⟨sameLog, fun faultless => absurd faultless faulty⟩
        · rw [answer] at moved
          cases moved
          exact .inr (.inl ⟨call, batch, rfl, accepts, fits, storeEq⟩)
        · rw [answer] at moved
          cases moved
  | spawnWriter dedupCapacity =>
    cases owner with
    | task writer => cases moved
    | caller store =>
      cases moved
      exact .inl ⟨rfl, fun _ => rfl⟩
  | request fault recordedAt request =>
    cases owner with
    | caller store => cases moved
    | task writer =>
      have how := (serving crc fault recordedAt writer request).serves
      rw [next] at moved
      generalize writer.serve crc fault recordedAt request = served at how moved
      cases how with
      | invalid error =>
        cases moved
        exact .inl ⟨rfl, fun _ => rfl⟩
      | cached first rest recorded dedup events known fewer =>
        cases moved
        exact .inl ⟨rfl, fun _ => rfl⟩
      | failed error store dedup fewer sameLog sameStore =>
        cases moved
        exact .inl ⟨sameLog, sameStore⟩
      | appended batch dedup fewer accepts fits =>
        cases moved
        exact .inr (.inl ⟨request.call recordedAt, batch, rfl, accepts, fits, rfl⟩)
      | panicked after => cases moved
  | reopen =>
    rw [next] at moved
    split at moved
    next store file opened =>
      cases moved
      exact .inr (.inr ⟨rfl, file, opened⟩)
    next => cases moved

theorem next_accepts (crc : Crc32fast) {store : Store} {call : AppendCall} {batch : Batch}
    (accepts : Accepts store.log call batch) (fits : store.log.events.length + batch.events.length ≤ isizeMax) :
    next crc (.append .none call) (.caller store) =
      some (.caller (Store.withBatch crc store call.streamId batch)) := by
  rw [next, runCall_accepts crc store call batch accepts fits]
  rfl

theorem append_clean {owner : Owner} {call : AppendCall} (present : call.proposedEvents ≠ []) :
    Clean owner (.append .none call) := by
  refine ⟨?_, rfl⟩
  intro proposed same
  cases same
  exact present

def otherBatch : Batch := plainBatch firstLog 1 .noStream [2, 3]

theorem otherBatch_accepted : Accepts firstLog (plainCall 1 .noStream [2, 3]) otherBatch :=
  accepts_batchOf firstLog _ (plainCall_valid 1 .noStream [2, 3]) rfl

def twoStreams (crc : Crc32fast) : Store :=
  Store.withBatch crc (Store.withBatch crc Store.create (idOf 0) firstBatch) (idOf 1) otherBatch

theorem reaches_twoStreams (crc : Crc32fast) :
    Reaches (next crc) Clean (.caller Store.create) (.caller (twoStreams crc)) := by
  have first := @next_accepts crc Store.create _ _ firstBatch_accepted (by decide)
  have second := @next_accepts crc (Store.withBatch crc Store.create (idOf 0) firstBatch) _ _ otherBatch_accepted
    (by decide : firstLog.events.length + otherBatch.events.length ≤ isizeMax)
  have once : Reaches (next crc) Clean _ _ := .single ⟨_, append_clean (List.cons_ne_nil _ _), first⟩
  exact once.tail ⟨_, append_clean (List.cons_ne_nil _ _), second⟩

/-! ### What recovery makes of any file -/

theorem canonical_commit (events : List RecordedEvent) : Canonical (EventLog.empty.commit events) := by
  rw [Canonical, commit_events]
  rfl

/-- However a file came to be: the index that `open` returns is the one of its events. -/
theorem canonical_of_open {crc : Crc32fast} {path after : Option File} {store : Store}
    (opened : Store.open crc path = (ok store, after)) : Canonical store.log := by
  obtain ⟨events, log⟩ : ∃ events, store.log = EventLog.empty.commit events := by
    cases path with
    | none =>
      cases opened
      exact ⟨[], rfl⟩
    | some file =>
      obtain ⟨cut, recovered⟩ := recover_of_open opened
      obtain ⟨-, -, -, events, -, -, committed, -⟩ := recover_parses recovered
      exact ⟨events, committed⟩
  rw [log]
  exact canonical_commit events

theorem canonical_next (crc : Crc32fast) (owner : Owner) (step : Step) (after : Owner)
    (canonical : Canonical owner.store.log) (filled : Filled owner step) (moved : next crc step owner = some after) :
    Canonical after.store.log := by
  rcases next_store moved with ⟨same, -⟩ | ⟨call, batch, proposed, accepts, -, storeEq⟩ | ⟨-, file, opened⟩
  · rw [same]
    exact canonical
  · rw [storeEq]
    apply canonical.extended _ accepts.stream
    apply List.ne_nil_of_length_pos
    rw [accepts.length_events]
    exact List.length_pos_of_ne_nil (filled _ proposed)
  · exact canonical_of_open opened

/-! ### Without failures -/

structure Written (crc : Crc32fast) (batches : List Batch) (store : Store) : Prop where
  bytes : store.file.bytes = fileBytes crc batches
  events : store.log.events = eventsOf batches
  wellFormed : WellFormed store.log

theorem written_create (crc : Crc32fast) : Written crc [] Store.create where
  bytes := (holds_create crc).bytes
  events := rfl
  wellFormed := wellFormed_empty

/-- A batch of any size may be appended, and a reopen may lose batches: the store stays what
some batches make of it. -/
theorem written_next (crc : Crc32fast) (owner : Owner) (step : Step) (after : Owner)
    (written : ∃ batches, Written crc batches owner.store) (faultless : step.fault = .none)
    (moved : next crc step owner = some after) : ∃ batches, Written crc batches after.store := by
  obtain ⟨batches, written⟩ := written
  rcases next_store moved with ⟨-, same⟩ | ⟨call, batch, -, accepts, fits, storeEq⟩ | ⟨-, file, opened⟩
  · rw [same faultless]
    exact ⟨batches, written⟩
  · refine ⟨batches ++ [batch], ?_, ?_, ?_⟩
    · rw [storeEq, fileBytes_append, ← written.bytes]
      rfl
    · rw [storeEq, eventsOf_append, eventsOf_singleton, ← written.events]
      rfl
    · rw [storeEq]
      exact (Accepts.continues written.wellFormed accepts fits).wellFormed written.wellFormed fits
  · obtain ⟨kept, recovered, ⟨lost, split⟩, reopened, bytes, log⟩ := open_batches written.bytes
    have same : after.store = recovered := by
      rw [reopened] at opened
      exact (Outcome.ok.inj (congrArg Prod.fst opened)).symm
    have front : eventsOf kept <+: owner.store.log.events := by
      rw [written.events, ← split, eventsOf_append]
      exact List.prefix_append _ _
    refine ⟨kept, by rw [same, bytes], by rw [same, log, commit_events]; rfl, ?_⟩
    rw [same, log]
    exact written.wellFormed.recovered front

theorem wellFormed_of_run {crc : Crc32fast} {allowed : Owner → Step → Prop} {owner : Owner}
    (faultless : ∀ owner step, allowed owner step → step.fault = .none)
    (run : Reaches (next crc) allowed (.caller Store.create) owner) : WellFormed owner.store.log := by
  obtain ⟨batches, written⟩ := run.invariant (fun owner => ∃ batches, Written crc batches owner.store)
    ⟨[], written_create crc⟩
    (fun owner step after written permitted => written_next crc owner step after written (faultless _ _ permitted))
  exact written.wellFormed

theorem canonical_of_run {crc : Crc32fast} {allowed : Owner → Step → Prop} {path : Option File} {file : Option File}
    {store : Store} {owner : Owner} (opened : Store.open crc path = (ok store, file))
    (filled : ∀ owner step, allowed owner step → Filled owner step)
    (run : Reaches (next crc) allowed (.caller store) owner) : Canonical owner.store.log :=
  run.invariant (fun owner => Canonical owner.store.log) (canonical_of_open opened)
    (fun owner step after canonical permitted => canonical_next crc owner step after canonical (filled _ _ permitted))

end EventfoldDb.Lifecycle
