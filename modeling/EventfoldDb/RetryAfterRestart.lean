import EventfoldDb.DedupCoverage
import EventfoldDb.OptimisticConcurrency

/-! Retries across clean restarts. The dedup index is seeded from the log, where an event no longer
knows the batch it came in, so only a request of one event gets its first answer again. -/

namespace EventfoldDb.RetryAfterRestart
open Outcome Recovery RecoveryLoop AppendSpec LogInvariant DiskInvariant WriterSpec OptimisticConcurrency RetryWindow
  DedupCoverage Machine

/-- No I/O fails, and every request fits the record count of a batch header. -/
def Fitting (task : Task) : Step → Prop
  | .task step => task.Counted step ∧ task.Faultless step
  | .restart _ => True

/-- A step after the request was appended: whatever is served is a retry of it or has none of its ids. -/
structure Continues (request : AppendRequest) (task : Task) (step : Step) : Prop where
  fitting : Fitting task step
  roomy : Roomy task.writer
  others : ∀ fault ticket rest, step = .task (.serve fault) → task.batch = ticket :: rest →
    RetryOrApart request ticket.request

def Repeats (crc : Crc32fast) (fault : Fault) (recordedAt : UInt64) (writer : Writer) (request : AppendRequest)
    (recorded : List RecordedEvent) : Prop :=
  (writer.serve crc fault recordedAt request).result = .ok recorded ∧
    (writer.serve crc fault recordedAt request).writer.store = writer.store

def RestartedSince (crc : Crc32fast) (start : Task) (original : Answer) (final : Task) : Prop :=
  ∃ before appended stopped reborn dedupCapacity,
    Reaches (next crc) Fitting start before ∧ next crc (.task (.serve .none)) before = some appended ∧
    answered appended = answered before ++ [original] ∧ Roomy appended.writer ∧
    Reaches (next crc) (Continues original.ticket.request) appended stopped ∧
    next crc (.restart dedupCapacity) stopped = some reborn ∧
    Reaches (next crc) (Continues original.ticket.request) reborn final ∧ Roomy final.writer

/-! ### The first event of the request -/

section
variable {crc : Crc32fast} {fault : Fault} {recordedAt : UInt64} {writer : Writer} {request : AppendRequest}
  {served : Served}

structure Only (event : RecordedEvent) (log : EventLog) : Prop where
  here : event ∈ log.events
  only : ∀ other ∈ log.events, other.eventId = event.eventId → other = event

/-- If the id of the event is in the dedup index, it is there as a batch of its own. -/
def Alone (event : RecordedEvent) (dedup : DedupIndex) : Prop :=
  ∀ batch, (event.eventId, batch) ∈ dedup.cache.entries → batch = [event]

variable {event : RecordedEvent} {original : AppendRequest} {first : ProposedEvent} {rest : List ProposedEvent}

theorem appended_apart (covers : Covers writer) (roomy : Roomy writer) (here : event ∈ writer.store.log.events)
    (events : original.events = first :: rest) (sameId : first.eventId = event.eventId)
    (others : RetryOrApart original request) (missed : (writer.dedup.check request.events).1 = none) {batch : Batch}
    (accepts : Accepts writer.store.log (request.call recordedAt) batch) :
    ∀ added ∈ batch.events, added.eventId ≠ event.eventId := by
  intro added member same
  obtain ⟨found, known, _⟩ := covers.hit roomy here sameId rest
  rw [← events] at known
  apply others.appended known missed accepts added member
  rw [same, ← sameId, events]
  exact List.mem_cons_self ..

theorem Only.serve (only : Only event writer.store.log) (covers : Covers writer) (roomy : Roomy writer)
    (events : original.events = first :: rest) (sameId : first.eventId = event.eventId)
    (others : RetryOrApart original request) (how : Serving crc fault recordedAt writer request served)
    (alive : served.result ≠ .panic) : Only event served.writer.store.log := by
  cases how with
  | invalid error refused => exact only
  | cached found unique hit => exact only
  | failed error store unique missed sameLog refused =>
    dsimp only
    rw [sameLog]
    exact only
  | appended batch unique missed accepts fits =>
    have apart := appended_apart covers roomy only.here events sameId others missed accepts
    constructor
    · exact List.mem_append_left _ only.here
    · intro other member same
      rcases List.mem_append.mp member with old | new
      · exact only.only other old same
      · exact absurd same (apart other new)
  | panicked after => exact absurd rfl alive

theorem Alone.serve (alone : Alone event writer.dedup) (here : event ∈ writer.store.log.events) (covers : Covers writer)
    (roomy : Roomy writer) (events : original.events = first :: rest) (sameId : first.eventId = event.eventId)
    (others : RetryOrApart original request) (how : Serving crc fault recordedAt writer request served)
    (alive : served.result ≠ .panic) : Alone event served.writer.dedup := by
  cases how with
  | invalid error refused => exact alone
  | cached found unique hit => exact fun batch member => alone batch (check_fewer _ _ member)
  | failed error store unique missed sameLog refused => exact alone
  | appended batch unique missed accepts fits =>
    have apart := appended_apart covers roomy here events sameId others missed accepts
    intro stored member
    rcases Lru.mem_foldl_put member with ⟨added, new, entryEq⟩ | ⟨_, old⟩
    · exact absurd (congrArg Prod.fst entryEq).symm (apart added new)
    · exact alone stored old
  | panicked after => exact absurd rfl alive

theorem only_appended (covers : Covers writer) {batch : Batch} {streamId : Uuid} {recorded : List RecordedEvent}
    (roomy : Roomy writer) (distinct : (request.events.map (·.eventId)).Nodup)
    (missed : (writer.dedup.check request.events).1 = none)
    (accepts : Accepts writer.store.log (request.call recordedAt) batch) (batchEq : batch.events = event :: recorded) :
    Only event (Store.withBatch crc writer.store streamId batch).log := by
  have ids : event.eventId :: recorded.map (·.eventId) = request.events.map (·.eventId) := by
    rw [← List.map_cons, ← batchEq]
    exact accepts.eventIds
  constructor
  · apply List.mem_append_right
    rw [batchEq]
    exact List.mem_cons_self ..
  · intro other member same
    rcases List.mem_append.mp member with old | new
    · cases proposed : request.events with
      | nil =>
        rw [proposed] at ids
        cases ids
      | cons first rest =>
        rw [proposed, List.map_cons] at ids
        have firstId : first.eventId = other.eventId := by
          rw [same]
          exact (List.cons.inj ids).1.symm
        obtain ⟨found, known, _⟩ := covers.hit roomy old firstId rest
        rw [proposed, known] at missed
        cases missed
    · rw [batchEq] at new
      rcases List.mem_cons.mp new with itself | later
      · exact itself
      · rw [← ids, List.nodup_cons] at distinct
        exact absurd (List.mem_map.mpr ⟨other, later, same⟩) distinct.1

end

/-! ### Runs with restarts -/

structure Sound (crc : Crc32fast) (task : Task) : Prop where
  holds : ∃ batches, Holds crc batches task.writer.store
  covers : Covers task.writer
  queued : ∀ ticket ∈ task.inbox ++ task.batch, ticket.request.events.length < 2 ^ 32

section
variable {crc : Crc32fast} {task after : Task}

theorem sound_start {batches : List Batch} {store : Store} (holds : Holds crc batches store) (dedupCapacity : Nat) :
    Sound crc (Task.start (Writer.spawn store dedupCapacity)) where
  holds := ⟨batches, holds⟩
  covers := covers_spawn store dedupCapacity
  queued := fun _ member => absurd member List.not_mem_nil

theorem holds_served {recordedAt : UInt64} {writer : Writer} {request : AppendRequest} {served : Served}
    {batches : List Batch} (holds : Holds crc batches writer.store) (small : request.events.length < 2 ^ 32)
    (how : Serving crc .none recordedAt writer request served) (alive : served.result ≠ .panic) :
    ∃ batches, Holds crc batches served.writer.store := by
  cases how with
  | invalid error refused => exact ⟨batches, holds⟩
  | cached found unique hit => exact ⟨batches, holds⟩
  | failed error store unique missed sameLog refused =>
    rw [← (refused rfl).1] at holds
    exact ⟨batches, holds⟩
  | appended batch unique missed accepts fits =>
    have counted : batch.Small := by
      rw [Batch.Small, accepts.length_events]
      exact small
    exact ⟨batches ++ [batch], holds.append accepts fits counted⟩
  | panicked after => exact absurd rfl alive

theorem Sound.serve (sound : Sound crc task) (moved : Task.next crc (.serve .none) task = some after) :
    Sound crc after := by
  obtain ⟨answer, served, batchEq, inboxEq, _, _, how, writer, _, same⟩ := next_serving moved
  have alive := ne_panic_of_returned same
  obtain ⟨batches, holds⟩ := sound.holds
  have small := sound.queued answer.ticket (by
    rw [batchEq]
    exact List.mem_append_right _ (List.mem_cons_self ..))
  constructor
  · rw [writer]
    exact holds_served holds small how alive
  · rw [writer]
    exact sound.covers.serve how alive
  · exact fun ticket member => sound.queued ticket (queued_subset batchEq inboxEq member)

theorem Sound.restart {dedupCapacity : Nat} (sound : Sound crc task)
    (moved : next crc (.restart dedupCapacity) task = some after) :
    Sound crc after ∧ after.writer = Writer.spawn after.writer.store dedupCapacity ∧
      after.writer.store.log.events = task.writer.store.log.events := by
  obtain ⟨batches, holds⟩ := sound.holds
  rw [next, open_clean holds.small holds.bytes] at moved
  split_ifs at moved with quiet
  cases moved
  refine ⟨⟨⟨batches, holds.toIndexes.recovered, holds.bytes⟩, covers_spawn _ _, ?_⟩, rfl, ?_⟩
  · exact fun _ member => absurd member List.not_mem_nil
  · show (EventLog.empty.commit (eventsOf batches)).events = _
    rw [holds.events]
    exact holds.toIndexes.recovered.events

theorem Sound.quiet {step : Task.Step} (sound : Sound crc task) (counted : task.Counted step)
    (quiet : ∀ fault, step ≠ .serve fault) (moved : Task.next crc step task = some after) : Sound crc after := by
  obtain ⟨writer, _, tickets⟩ := next_quiet moved quiet
  obtain ⟨holds, covers, queued⟩ := sound
  rw [← writer] at holds covers
  refine ⟨holds, covers, ?_⟩
  intro ticket member
  rcases tickets ticket member with known | ⟨request, isSubmit, new⟩
  · exact queued ticket known
  · rw [isSubmit] at counted
    rw [new]
    exact counted

theorem Sound.next {step : Step} (sound : Sound crc task) (fitting : Fitting task step)
    (moved : next crc step task = some after) : Sound crc after := by
  cases step with
  | restart dedupCapacity => exact (sound.restart moved).1
  | task step =>
    rcases serve_or_quiet step with ⟨fault, isServe⟩ | quiet
    · rw [isServe] at fitting moved
      rw [show fault = .none from fitting.2] at moved
      exact sound.serve moved
    · exact sound.quiet fitting.1 quiet moved

/-- The event stays the only one of its id; once the index has been seeded, it is there alone. -/
structure Follows (crc : Crc32fast) (event : RecordedEvent) (seeded : Prop) (task : Task) : Prop where
  sound : Sound crc task
  only : Only event task.writer.store.log
  alone : seeded → Alone event task.writer.dedup

variable {event : RecordedEvent} {seeded : Prop} {original : AppendRequest} {first : ProposedEvent}
  {rest : List ProposedEvent}

theorem Follows.restart {dedupCapacity : Nat} (follows : Follows crc event seeded task)
    (moved : OptimisticConcurrency.next crc (.restart dedupCapacity) task = some after) :
    Follows crc event True after := by
  obtain ⟨sound, spawned, sameEvents⟩ := follows.sound.restart moved
  obtain ⟨here, only⟩ := follows.only
  rw [← sameEvents] at here only
  refine ⟨sound, ⟨here, only⟩, ?_⟩
  intro _ batch member
  rw [spawned] at member
  obtain ⟨other, inLog, entryEq⟩ := mem_spawn member
  obtain ⟨sameId, batchEq⟩ := Prod.mk.inj entryEq
  rw [batchEq, only other inLog sameId.symm]

theorem Follows.serve (follows : Follows crc event seeded task) (roomy : Roomy task.writer)
    (events : original.events = first :: rest) (sameId : first.eventId = event.eventId)
    (others : ∀ ticket remaining, task.batch = ticket :: remaining → RetryOrApart original ticket.request)
    (moved : Task.next crc (.serve .none) task = some after) : Follows crc event seeded after := by
  obtain ⟨answer, served, batchEq, _, _, _, how, writer, _, same⟩ := next_serving moved
  have alive := ne_panic_of_returned same
  have other := others answer.ticket after.batch batchEq
  obtain ⟨sound, only, alone⟩ := follows
  refine ⟨sound.serve moved, ?_, ?_⟩
  · rw [writer]
    exact only.serve sound.covers roomy events sameId other how alive
  · intro isSeeded
    rw [writer]
    exact (alone isSeeded).serve only.here sound.covers roomy events sameId other how alive

theorem Follows.next {step : Step} (follows : Follows crc event seeded task)
    (events : original.events = first :: rest) (sameId : first.eventId = event.eventId)
    (continues : Continues original task step) (moved : OptimisticConcurrency.next crc step task = some after) :
    Follows crc event seeded after := by
  obtain ⟨fitting, roomy, others⟩ := continues
  cases step with
  | restart dedupCapacity =>
    obtain ⟨sound, only, alone⟩ := follows.restart moved
    exact ⟨sound, only, fun _ => alone trivial⟩
  | task step =>
    rcases serve_or_quiet step with ⟨fault, isServe⟩ | quiet
    · rw [isServe] at fitting moved others
      rw [show fault = .none from fitting.2] at moved
      exact follows.serve roomy events sameId (fun ticket remaining batch => others fault ticket remaining rfl batch) moved
    · obtain ⟨writer, _, _⟩ := next_quiet moved quiet
      obtain ⟨sound, only, alone⟩ := follows
      rw [← writer] at only alone
      exact ⟨sound.quiet fitting.1 quiet moved, only, alone⟩

theorem follows_appended {answer : Answer} {recorded : List RecordedEvent} (sound : Sound crc task)
    (moved : Task.next crc (.serve .none) task = some after) (answers : answered after = answered task ++ [answer])
    (roomy : Roomy after.writer) (route : answer.route = .appended) (result : answer.result = .ok recorded)
    (distinct : (answer.ticket.request.events.map (·.eventId)).Nodup)
    (events : answer.ticket.request.events = first :: rest) :
    ∃ event more, recorded = event :: more ∧ first.eventId = event.eventId ∧ more.length = rest.length ∧
      Follows crc event False after := by
  have followSound := sound.serve moved
  obtain ⟨served, outcome, _, _, _, servedAnswers, how, writer, servedRoute, same⟩ := next_serving moved
  rw [servedAnswers] at answers
  have itself : served = answer := List.singleton_inj.mp (List.append_cancel_left answers)
  rw [itself] at how servedRoute same
  rw [route] at servedRoute
  rw [result, eq_comm, returned] at same
  cases how with
  | invalid error refused => cases servedRoute
  | cached found unique hit => cases servedRoute
  | failed error store unique missed sameLog refused => cases same
  | panicked after => cases same
  | appended batch unique missed accepts fits =>
    have batchEq : batch.events = recorded := Outcome.ok.inj same
    have ids : recorded.map (·.eventId) = first.eventId :: rest.map (·.eventId) := by
      rw [← batchEq, accepts.eventIds, ← List.map_cons, ← events]
      rfl
    obtain ⟨event, more, split, sameId, sameRest⟩ := List.map_eq_cons_iff.mp ids
    have lengths := congrArg List.length sameRest
    rw [List.length_map, List.length_map] at lengths
    refine ⟨event, more, split, sameId.symm, lengths, followSound, ?_, False.elim⟩
    rw [writer] at roomy ⊢
    have shorter : Roomy task.writer := by
      rw [Roomy, capacity_record] at roomy
      refine Nat.le_trans ?_ roomy
      exact (List.sublist_append_left _ _).length_le
    exact only_appended sound.covers shorter distinct missed accepts (batchEq.trans split)

theorem Follows.retried (follows : Follows crc event True task) (roomy : Roomy task.writer) {retry : AppendRequest}
    (distinct : (retry.events.map (·.eventId)).Nodup) (events : retry.events = first :: rest)
    (sameId : first.eventId = event.eventId) (fault : Fault) (recordedAt : UInt64) (recorded : List RecordedEvent) :
    Repeats crc fault recordedAt task.writer retry recorded ↔ recorded = [event] := by
  obtain ⟨batch, hit, stored⟩ := follows.sound.covers.hit roomy follows.only.here sameId rest
  rw [follows.alone trivial batch stored, ← events] at hit
  rw [Repeats, serve_cached crc fault recordedAt (validateBatchUniqueIds_eq_ok.mpr distinct) hit]
  constructor
  · rintro ⟨sameResult, _⟩
    exact (Outcome.ok.inj sameResult).symm
  · intro single
    rw [single]
    exact ⟨rfl, rfl⟩

end

/-! ### The first request, and a restart -/

def firstWrite (ids : List Nat) : Batch := plainBatch EventLog.empty 0 .noStream ids

def rebornWriter (crc : Crc32fast) (ids : List Nat) : Writer :=
  Writer.spawn
    { file := (Store.withBatch crc Store.create (idOf 0) (firstWrite ids)).file
      log := EventLog.empty.commit (firstWrite ids).events } 4

theorem length_recovered (crc : Crc32fast) (ids : List Nat) :
    (rebornWriter crc ids).store.log.events.length = ids.length := by
  show (EventLog.empty.commit (firstWrite ids).events).events.length = ids.length
  rw [commit_events]
  exact length_plainBatch EventLog.empty 0 .noStream ids

theorem restartedSince_first (crc : Crc32fast) (ids : List Nat) (distinct : (ids.map idOf).Nodup)
    (few : ids.length ≤ 4) :
    RestartedSince crc (Task.start freshWriter)
      ⟨⟨0, plainRequest 0 .noStream ids⟩, .appended, .ok (firstWrite ids).events⟩
      (idle (rebornWriter crc ids)
        [⟨⟨0, plainRequest 0 .noStream ids⟩, .appended, .ok (firstWrite ids).events⟩] 1 0) := by
  let answer : Answer := ⟨⟨0, plainRequest 0 .noStream ids⟩, .appended, .ok (firstWrite ids).events⟩
  let store := Store.withBatch crc Store.create (idOf 0) (firstWrite ids)
  let writer : Writer := ⟨store, freshWriter.dedup.record (firstWrite ids).events⟩
  have count : (firstWrite ids).events.length = ids.length := length_plainBatch EventLog.empty 0 .noStream ids
  have limits : 4 < 2 ^ 32 ∧ 4 < isizeMax := by decide
  have fits : ids.length ≤ isizeMax := by omega
  have small : (firstWrite ids).Small := by
    rw [Batch.Small, count]
    omega
  have served : freshWriter.serve crc .none 0 (plainRequest 0 .noStream ids) = _ :=
    serve_noStream crc (rfl : Store.create.log = EventLog.empty) 4 distinct fits
  have accepts : Accepts Store.create.log (plainCall 0 .noStream ids) (firstWrite ids) :=
    accepts_batchOf EventLog.empty _ (plainCall_valid 0 .noStream ids) rfl
  have holds := (holds_create crc).append accepts
    (by rw [count, Store.create, EventLog.empty, List.length_nil, Nat.zero_add]; exact fits) small
  have roomy : Roomy writer := by
    show (firstWrite ids).events.length ≤ (freshWriter.dedup.record (firstWrite ids).events).cache.capacity
    rw [capacity_record, freshWriter, capacity_spawn, count]
    exact few
  have before : Reaches (next crc) Fitting (Task.start freshWriter)
      (drained freshWriter [] 0 0 (plainRequest 0 .noStream ids)) := by
    have counted : (plainRequest 0 .noStream ids).events.length < 2 ^ 32 := by
      rw [plainRequest, List.length_map]
      omega
    exact reaches_task (reaches_drained (fun task _ calm _ _ => ⟨calm.counted task counted, calm.faultless task⟩))
  have behind : Reaches (next crc) (Continues (plainRequest 0 .noStream ids))
      (servedTask writer [] 1 0 answer (firstWrite ids).events) (idle writer [answer] 1 0) := by
    apply reaches_task
    apply reaches_responded
    intro task step last _ empty sameWriter
    rw [← sameWriter] at roomy
    refine ⟨?_, roomy, ?_⟩
    · rcases last with isPublish | isRespond
      · rw [isPublish]
        trivial
      · rw [isRespond]
        trivial
    · intro fault ticket rest _ served
      rw [empty] at served
      cases served
  have restart : next crc (.restart 4) (idle writer [answer] 1 0) = some (idle (rebornWriter crc ids) [answer] 1 0) := by
    have opened := open_clean holds.small holds.bytes
    rw [List.nil_append, eventsOf, List.flatMap_singleton] at opened
    exact next_restart opened
  refine ⟨_, _, _, _, 4, before, next_drained served, rfl, roomy, behind, restart, .refl, ?_⟩
  show (rebornWriter crc ids).store.log.events.length ≤ _
  rw [length_recovered, idle, rebornWriter]
  show _ ≤ (Writer.spawn _ 4).dedup.cache.capacity
  rw [capacity_spawn]
  exact few

/-- After a clean restart a retry is answered as the first time exactly when the request has one
event. -/
theorem retry_after_restart (crc : Crc32fast) (batches : List Batch) (store : Store) (holds : Holds crc batches store)
    (dedupCapacity : Nat) (original : Answer) (recorded : List RecordedEvent) (final : Task)
    (run : RestartedSince crc (Task.start (Writer.spawn store dedupCapacity)) original final)
    (route : original.route = .appended) (result : original.result = .ok recorded)
    (present : original.ticket.request.events ≠ []) (distinct : (original.ticket.request.events.map (·.eventId)).Nodup)
    (retry : AppendRequest) (same : retry.events = original.ticket.request.events) (fault : Fault)
    (recordedAt : UInt64) :
    Repeats crc fault recordedAt final.writer retry recorded ↔ original.ticket.request.events.length = 1 := by
  obtain ⟨before, appended, stopped, reborn, _, start, serve, answers, roomy, continued, restart, again, room⟩ := run
  obtain ⟨first, rest, events⟩ := List.exists_cons_of_ne_nil present
  have sound := start.invariant (Sound crc) (sound_start holds dedupCapacity)
    (fun _ _ _ invariant fitting moved => invariant.next fitting moved)
  obtain ⟨event, more, split, sameId, lengths, follows⟩ :=
    follows_appended sound serve answers roomy route result distinct events
  have untilStop := continued.invariant (Follows crc event False) follows
    (fun _ _ _ invariant continues moved => invariant.next events sameId continues moved)
  have untilRetry := again.invariant (Follows crc event True) (untilStop.restart restart)
    (fun _ _ _ invariant continues moved => invariant.next events sameId continues moved)
  have retried := untilRetry.retried room (by rw [same]; exact distinct) (same.trans events) sameId fault recordedAt recorded
  rw [retried, split, events, List.length_cons, ← lengths]
  simp

theorem retry_after_restart_one_event :
    RestartedSince Crc32fast.ieee (Task.start freshWriter)
        ⟨⟨0, plainRequest 0 .noStream [1]⟩, .appended, .ok (firstWrite [1]).events⟩
        (idle (rebornWriter Crc32fast.ieee [1])
          [⟨⟨0, plainRequest 0 .noStream [1]⟩, .appended, .ok (firstWrite [1]).events⟩] 1 0) ∧
      Repeats Crc32fast.ieee .none 7 (rebornWriter Crc32fast.ieee [1]) (plainRequest 0 .noStream [1])
        (firstWrite [1]).events := by
  have run := restartedSince_first Crc32fast.ieee [1] (by decide) (by decide)
  have retried := retry_after_restart Crc32fast.ieee [] Store.create (holds_create Crc32fast.ieee) 4 _ _ _ run rfl rfl
    (by decide) (by decide) (plainRequest 0 .noStream [1]) rfl .none 7
  exact ⟨run, retried.mpr rfl⟩

/-- A request of two events is answered with the first of them alone. -/
theorem pair_retried_after_restart :
    ∃ final, RestartedSince Crc32fast.ieee (Task.start freshWriter)
        ⟨⟨0, plainRequest 0 .noStream [1, 2]⟩, .appended, .ok (firstWrite [1, 2]).events⟩ final ∧
      (final.writer.serve Crc32fast.ieee .none 7 (plainRequest 0 .noStream [1, 2])).result =
        .ok ((firstWrite [1, 2]).events.take 1) ∧
      ¬ Repeats Crc32fast.ieee .none 7 final.writer (plainRequest 0 .noStream [1, 2]) (firstWrite [1, 2]).events := by
  have run := restartedSince_first Crc32fast.ieee [1, 2] (by decide) (by decide)
  have hit : ((rebornWriter Crc32fast.ieee [1, 2]).dedup.check (plainRequest 0 .noStream [1, 2]).events).1 =
      some ((firstWrite [1, 2]).events.take 1) := by
    decide +kernel
  have unique : validateBatchUniqueIds (plainRequest 0 .noStream [1, 2]).events = .ok () := by
    apply validateBatchUniqueIds_eq_ok.mpr
    decide
  have served := serve_cached Crc32fast.ieee .none 7 unique hit
  have first : ((rebornWriter Crc32fast.ieee [1, 2]).serve Crc32fast.ieee .none 7 (plainRequest 0 .noStream [1, 2])).result =
      .ok ((firstWrite [1, 2]).events.take 1) := by
    rw [served]
  refine ⟨_, run, first, ?_⟩
  rintro ⟨whole, _⟩
  have same := Outcome.ok.inj (first.symm.trans whole)
  have lengths := congrArg List.length same
  exact absurd lengths (by decide)

end EventfoldDb.RetryAfterRestart
