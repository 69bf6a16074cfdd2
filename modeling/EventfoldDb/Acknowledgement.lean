import EventfoldDb.WriterSpec
import EventfoldDb.Lib.Machine

/-! What an `Ok` answer of the writer says about the request. The dedup index answers by the
first event id alone, so this depends on the batch that id was last written in. -/

namespace EventfoldDb.Acknowledgement
open Outcome Recovery AppendSpec DiskInvariant WriterSpec Machine

def Matches (request : AppendRequest) (recorded : List RecordedEvent) : Prop :=
  (∀ event ∈ recorded, event.streamId = request.streamId) ∧
    recorded.map (·.eventId) = request.events.map (·.eventId)

def Acknowledges (log : EventLog) (request : AppendRequest) (recorded : List RecordedEvent) : Prop :=
  Matches request recorded ∧ recorded ⊆ log.events

/-- What the dedup index can know: each recovered event for itself, and the batches written
since. -/
def history (recovered : List RecordedEvent) (answers : List Answer) : List (List RecordedEvent) :=
  recovered.map ([·]) ++ answers.filterMap written

def lastWith (eventId : Uuid) (batches : List (List RecordedEvent)) : Option (List RecordedEvent) :=
  batches.reverse.find? fun batch => eventId ∈ batch.map (·.eventId)

/-- A request whose first event id was written before repeats the whole batch it was last
written in. -/
def ExactRetry (recovered : List RecordedEvent) (task : Task) (step : Task.Step) : Prop :=
  ∀ fault ticket rest first others batch, step = .serve fault → task.batch = ticket :: rest →
    ticket.request.events = first :: others →
    lastWith first.eventId (history recovered task.answers) = some batch → Matches ticket.request batch

/-! ### The dedup index -/

def Cached (batches : List (List RecordedEvent)) (dedup : DedupIndex) : Prop :=
  ∀ entry ∈ dedup.cache.entries, lastWith entry.1 batches = some entry.2

theorem lastWith_snoc (eventId : Uuid) (batches : List (List RecordedEvent)) (recorded : List RecordedEvent) :
    lastWith eventId (batches ++ [recorded]) =
      if eventId ∈ recorded.map (·.eventId) then some recorded else lastWith eventId batches := by
  rw [lastWith, List.reverse_append, List.reverse_singleton, List.singleton_append, List.find?_cons]
  by_cases present : eventId ∈ recorded.map (·.eventId)
  · rw [if_pos present, decide_eq_true present]
  · rw [if_neg present, decide_eq_false present]
    rfl

theorem mem_of_lastWith {eventId : Uuid} {batches : List (List RecordedEvent)} {batch : List RecordedEvent}
    (last : lastWith eventId batches = some batch) : batch ∈ batches :=
  List.mem_reverse.mp (List.mem_of_find?_eq_some last)

theorem id_of_lastWith {eventId : Uuid} {batches : List (List RecordedEvent)} {batch : List RecordedEvent}
    (last : lastWith eventId batches = some batch) : eventId ∈ batch.map (·.eventId) := by
  rw [lastWith] at last
  simpa using List.find?_some last

theorem Cached.fewer {batches : List (List RecordedEvent)} {before after : DedupIndex} (cached : Cached batches before)
    (fewer : after.cache.entries ⊆ before.cache.entries) : Cached batches after :=
  fun entry member => cached entry (fewer member)

theorem Cached.record {batches : List (List RecordedEvent)} {dedup : DedupIndex} (cached : Cached batches dedup)
    (recorded : List RecordedEvent) : Cached (batches ++ [recorded]) (dedup.record recorded) := by
  intro entry member
  rw [lastWith_snoc]
  rcases Lru.mem_foldl_put member with ⟨event, here, stored⟩ | ⟨absent, old⟩
  · have carried : entry.1 ∈ recorded.map (·.eventId) := by
      rw [stored]
      exact List.mem_map_of_mem here
    rw [if_pos carried, stored]
  · rw [if_neg absent]
    exact cached entry old

theorem Cached.seed {batches : List (List RecordedEvent)} {dedup : DedupIndex} (cached : Cached batches dedup)
    (events : List RecordedEvent) : Cached (batches ++ events.map ([·])) (dedup.seedFromLog events) := by
  induction events generalizing batches dedup with
  | nil =>
    rw [List.map_nil, List.append_nil]
    exact cached
  | cons event events ih =>
    have rest := ih (cached.record [event])
    rw [List.append_assoc, List.singleton_append] at rest
    exact rest

theorem history_nil (recovered : List RecordedEvent) : history recovered [] = recovered.map ([·]) := by
  rw [history, List.filterMap_nil, List.append_nil]

theorem cached_spawn (store : Store) (dedupCapacity : Nat) :
    Cached (history store.log.events []) (Writer.spawn store dedupCapacity).dedup := by
  have empty : Cached [] (DedupIndex.new dedupCapacity) := fun entry member => nomatch member
  rw [history_nil]
  exact empty.seed store.log.events

/-! ### Runs of the writer task -/

structure Recording (recovered : List RecordedEvent) (task : Task) : Prop where
  cached : Cached (history recovered (answered task)) task.writer.dedup
  logged : ∀ batch ∈ history recovered (answered task), batch ⊆ task.writer.store.log.events
  acknowledged : ∀ answer ∈ answered task, ∀ recorded, answer.result = .ok recorded →
    Acknowledges task.writer.store.log answer.ticket.request recorded

theorem recording_start (store : Store) (dedupCapacity : Nat) :
    Recording store.log.events (Task.start (Writer.spawn store dedupCapacity)) where
  cached := cached_spawn store dedupCapacity
  logged := by
    show ∀ batch ∈ history store.log.events [], batch ⊆ store.log.events
    rw [history_nil]
    intro batch member
    obtain ⟨event, here, same⟩ := List.mem_map.mp member
    rw [← same]
    exact List.cons_subset.mpr ⟨here, List.nil_subset _⟩
  acknowledged := fun answer member => nomatch member

section
variable {recovered : List RecordedEvent} {task after : Task}

theorem Recording.frame (recording : Recording recovered task) (writer : after.writer = task.writer)
    (answers : answered after = answered task) : Recording recovered after := by
  obtain ⟨cached, logged, acknowledged⟩ := recording
  constructor
  · rw [answers, writer]
    exact cached
  · rw [answers, writer]
    exact logged
  · rw [answers, writer]
    exact acknowledged

theorem history_snoc (answers : List Answer) (answer : Answer) :
    history recovered (answers ++ [answer]) = history recovered answers ++ (written answer).toList := by
  rw [history, List.filterMap_append, ← List.append_assoc]
  cases here : written answer with
  | none => rw [List.filterMap_cons_none here]; rfl
  | some recorded => rw [List.filterMap_cons_some here]; rfl

theorem Acknowledges.grow {log longer : EventLog} {request : AppendRequest} {recorded : List RecordedEvent}
    (acknowledges : Acknowledges log request recorded) (inside : log.events ⊆ longer.events) :
    Acknowledges longer request recorded :=
  ⟨acknowledges.1, List.Subset.trans acknowledges.2 inside⟩

theorem Accepts.matches {log : EventLog} {request : AppendRequest} {recordedAt : UInt64} {batch : Batch}
    (accepts : Accepts log (request.call recordedAt) batch) : Matches request batch.events :=
  ⟨accepts.stream, accepts.eventIds⟩

theorem Recording.unwritten {fault : Fault} {answer : Answer} (recording : Recording recovered task)
    (answers : answered after = answered task ++ [answer]) (unwritten : Unwritten fault task after answer)
    (retry : ∀ first others batch, answer.ticket.request.events = first :: others →
      lastWith first.eventId (history recovered (answered task)) = some batch → Matches answer.ticket.request batch) :
    Recording recovered after := by
  have same : history recovered (answered after) = history recovered (answered task) := by
    rw [answers, history_snoc, unwritten.nothing, Option.toList_none, List.append_nil]
  constructor
  · rw [same]
    exact recording.cached.fewer unwritten.fewer
  · rw [same, unwritten.log]
    exact recording.logged
  · rw [answers, unwritten.log]
    intro other member
    rcases List.mem_append.mp member with earlier | last
    · exact recording.acknowledged other earlier
    · rw [List.mem_singleton.mp last]
      intro recorded isOk
      obtain ⟨first, others, events, known⟩ := unwritten.known recorded isOk
      have cached := recording.cached _ known
      exact ⟨retry first others recorded events cached, recording.logged recorded (mem_of_lastWith cached)⟩

theorem Recording.wrote {crc : Crc32fast} {answer : Answer} {batch : Batch} {dedup : DedupIndex}
    (recording : Recording recovered task) (answers : answered after = answered task ++ [answer])
    (wrote : Wrote crc task after answer batch dedup) : Recording recovered after := by
  have logEq : after.writer.store.log.events = task.writer.store.log.events ++ batch.events := by
    rw [wrote.writer]
    rfl
  have longer : history recovered (answered after) = history recovered (answered task) ++ [batch.events] := by
    rw [answers, history_snoc, wrote.recorded, Option.toList_some]
  have older : task.writer.store.log.events ⊆ after.writer.store.log.events := by
    rw [logEq]
    exact List.subset_append_left _ _
  have newer : batch.events ⊆ after.writer.store.log.events := by
    rw [logEq]
    exact List.subset_append_right _ _
  constructor
  · rw [longer, wrote.writer]
    exact (recording.cached.fewer wrote.fewer).record batch.events
  · rw [longer]
    intro other member
    rcases List.mem_append.mp member with earlier | last
    · exact List.Subset.trans (recording.logged other earlier) older
    · rw [List.mem_singleton.mp last]
      exact newer
  · rw [answers]
    intro other member recorded isOk
    rcases List.mem_append.mp member with earlier | last
    · exact (recording.acknowledged other earlier recorded isOk).grow older
    · rw [List.mem_singleton.mp last, wrote.result] at isOk
      rw [List.mem_singleton.mp last, ← Except.ok.inj isOk]
      exact ⟨Accepts.matches wrote.accepts, newer⟩

theorem recording_serve {crc : Crc32fast} {fault : Fault} (recording : Recording recovered task)
    (retry : ExactRetry recovered task (.serve fault)) (moved : Task.next crc (.serve fault) task = some after) :
    Recording recovered after := by
  obtain ⟨answer, batchEq, _, before, answers, unwritten | ⟨batch, dedup, wrote⟩⟩ := next_answered moved
  · apply recording.unwritten answers unwritten
    rw [before]
    exact fun first others batch => retry fault answer.ticket after.batch first others batch rfl batchEq
  · exact recording.wrote answers wrote

theorem recording_next {crc : Crc32fast} {step : Task.Step} (recording : Recording recovered task)
    (retry : ExactRetry recovered task step) (moved : Task.next crc step task = some after) :
    Recording recovered after := by
  rcases serve_or_quiet step with ⟨fault, isServe⟩ | quiet
  · rw [isServe] at retry moved
    exact recording_serve recording retry moved
  · obtain ⟨writer, answers, _⟩ := next_quiet moved quiet
    exact recording.frame writer answers

end

/-- Where no request reuses a first event id except to repeat its batch, `Ok` means that exactly
the request is in the log. -/
theorem ok_acknowledges_request (crc : Crc32fast) (store : Store) (dedupCapacity : Nat) (task : Task)
    (run : Reaches (Task.next crc) (ExactRetry store.log.events) (Task.start (Writer.spawn store dedupCapacity)) task) :
    ∀ answer ∈ task.answers, ∀ recorded, answer.result = .ok recorded →
      Acknowledges task.writer.store.log answer.ticket.request recorded := by
  have recording := run.invariant (Recording store.log.events) (recording_start store dedupCapacity)
    (fun before step after holds retry moved => recording_next holds retry moved)
  intro answer member
  exact recording.acknowledged answer (List.mem_append_left _ member)

def firstAnswer : Answer := ⟨⟨0, plainRequest 0 .any [1]⟩, .appended, .ok firstBatch.events⟩

theorem serve_known (crc : Crc32fast) (request : AppendRequest) {dedup : DedupIndex}
    (unique : validateBatchUniqueIds request.events = .ok ())
    (hit : (firstWriter crc).dedup.check request.events = (some firstBatch.events, dedup)) :
    (firstWriter crc).serve crc .none 0 request =
      ⟨.ok firstBatch.events, .cached, { firstWriter crc with dedup }, []⟩ := by
  rw [Writer.serve, unique]
  dsimp only
  rw [hit]

theorem ok_acknowledges_retry :
    ∃ task, Reaches (Task.next Crc32fast.ieee) (ExactRetry Store.create.log.events) (Task.start freshWriter) task ∧
      task.answers = [firstAnswer, ⟨⟨1, plainRequest 0 .any [1]⟩, .cached, .ok firstBatch.events⟩] ∧
      ∀ answer ∈ task.answers, ∀ recorded, answer.result = .ok recorded →
        Acknowledges task.writer.store.log answer.ticket.request recorded := by
  have fresh : ∀ task step, Calm (plainRequest 0 .any [1]) step → task.answers = [] →
      (∀ ticket ∈ task.batch, ticket.request = plainRequest 0 .any [1]) →
      ExactRetry Store.create.log.events task step := by
    intro task step _ none _ fault ticket rest first others batch _ _ _ last
    rw [none] at last
    cases last
  have again : ∀ task step, Calm (plainRequest 0 .any [1]) step → task.answers = [firstAnswer] →
      (∀ ticket ∈ task.batch, ticket.request = plainRequest 0 .any [1]) →
      ExactRetry Store.create.log.events task step := by
    intro task step _ one same fault ticket rest first others batch _ batchEq _ last
    rw [one] at last
    have member := mem_of_lastWith last
    rw [List.mem_singleton.mp member, same ticket (by rw [batchEq]; exact List.mem_cons_self ..)]
    exact @Accepts.matches EventLog.empty (plainRequest 0 .any [1]) 0 firstBatch firstBatch_accepted
  have once : Reaches (Task.next Crc32fast.ieee) (ExactRetry Store.create.log.events) (Task.start freshWriter)
      (idle (firstWriter Crc32fast.ieee) [firstAnswer] 1 0) := reaches_answer fresh (serve_first Crc32fast.ieee)
  have run := once.trans (reaches_answer again (serve_known Crc32fast.ieee (plainRequest 0 .any [1]) rfl rfl))
  exact ⟨_, run, rfl, ok_acknowledges_request Crc32fast.ieee Store.create 4 _ run⟩

/-- A request with a known first event id and a new second one, on another stream, is answered
with the first stream's event; the second event is nowhere. -/
theorem ok_without_writing :
    ∃ task, Reaches (Task.next Crc32fast.ieee) always (Task.start freshWriter) task ∧
      ∃ answer ∈ task.answers, answer.ticket.request = plainRequest 1 .any [1, 2] ∧
        answer.result = .ok firstBatch.events ∧
        (∀ event ∈ task.writer.store.log.events, event.eventId ≠ idOf 2) ∧
        ¬ Acknowledges task.writer.store.log answer.ticket.request firstBatch.events := by
  have once : Reaches (Task.next Crc32fast.ieee) always (Task.start freshWriter)
      (idle (firstWriter Crc32fast.ieee) [firstAnswer] 1 0) :=
    reaches_answer (fun _ _ _ _ _ => trivial) (serve_first Crc32fast.ieee)
  have run := once.trans (reaches_answer (fun _ _ _ _ _ => trivial)
    (serve_known Crc32fast.ieee (plainRequest 1 .any [1, 2]) rfl rfl))
  refine ⟨_, run, ⟨⟨1, plainRequest 1 .any [1, 2]⟩, .cached, .ok firstBatch.events⟩,
    List.mem_append_right _ (List.mem_singleton.mpr rfl), rfl, rfl, ?_, ?_⟩
  · show ∀ event ∈ firstBatch.events, event.eventId ≠ idOf 2
    decide
  · intro acknowledges
    exact absurd acknowledges.1.2 (by decide)

end EventfoldDb.Acknowledgement
