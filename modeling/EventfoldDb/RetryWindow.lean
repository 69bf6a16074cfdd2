import EventfoldDb.WriterSpec

/-! Retries within one run of the writer task. As long as the ids in use fit in the dedup index, a
request that was appended gets its first answer again. -/

namespace EventfoldDb.RetryWindow
open Outcome Recovery AppendSpec WriterSpec Machine

/-- The ids that a request recorded, or the one that its lookup found. -/
def used (answer : Answer) : List Uuid :=
  match answer.route, answer.result with
  | .cached, _ => (answer.ticket.request.events.head?.map (·.eventId)).toList
  | .appended, .ok recorded => recorded.map (·.eventId)
  | _, _ => []

def usedIds (answers : List Answer) : Finset Uuid := (answers.flatMap used).toFinset

def RetryOrApart (request other : AppendRequest) : Prop :=
  other.events = request.events ∨ ∀ event ∈ other.events, event.eventId ∉ request.events.map (·.eventId)

/-- A request was appended, and the ids used since then, its own included, fit in the dedup index. -/
structure InWindow (capacity : Nat) (original : Answer) (recorded : List RecordedEvent) (since : List Answer) :
    Prop where
  route : original.route = .appended
  result : original.result = .ok recorded
  present : original.ticket.request.events ≠ []
  distinct : (original.ticket.request.events.map (·.eventId)).Nodup
  others : ∀ answer ∈ since, RetryOrApart original.ticket.request answer.ticket.request
  window : (usedIds (original :: since)).card ≤ capacity

/-! ### The dedup index -/

theorem usedIds_snoc (answers : List Answer) (answer : Answer) :
    usedIds (answers ++ [answer]) = usedIds answers ∪ (used answer).toFinset := by
  rw [usedIds, usedIds, List.flatMap_append, List.toFinset_append, List.flatMap_singleton]

theorem capacity_check (dedup : DedupIndex) (proposed : List ProposedEvent) :
    (dedup.check proposed).2.cache.capacity = dedup.cache.capacity := by
  cases proposed with
  | nil => rfl
  | cons first rest => exact Lru.capacity_get _ _

theorem capacity_record (dedup : DedupIndex) (recorded : List RecordedEvent) :
    (dedup.record recorded).cache.capacity = dedup.cache.capacity :=
  Lru.capacity_foldl_put RecordedEvent.eventId (fun _ => recorded) recorded dedup.cache

theorem capacity_spawn (store : Store) (dedupCapacity : Nat) :
    (Writer.spawn store dedupCapacity).dedup.cache.capacity = dedupCapacity :=
  Lru.capacity_foldl_put RecordedEvent.eventId (fun event => [event]) store.log.events _

theorem InWindow.shorten {capacity : Nat} {original : Answer} {recorded : List RecordedEvent} {since : List Answer}
    {answer : Answer} (inWindow : InWindow capacity original recorded (since ++ [answer])) :
    InWindow capacity original recorded since where
  route := inWindow.route
  result := inWindow.result
  present := inWindow.present
  distinct := inWindow.distinct
  others := fun other member => inWindow.others other (List.mem_append_left _ member)
  window := by
    refine Nat.le_trans (Finset.card_le_card ?_) inWindow.window
    rw [← List.cons_append, usedIds_snoc]
    exact Finset.subset_union_left

structure Remembers (capacity : Nat) (task : Task) : Prop where
  sized : task.writer.dedup.cache.capacity = capacity
  remembered : ∀ before original since recorded first others,
    answered task = before ++ original :: since → InWindow capacity original recorded since →
    original.ticket.request.events = first :: others →
    Lru.Recent (usedIds (original :: since)) first.eventId recorded task.writer.dedup.cache

section
variable {crc : Crc32fast} {fault : Fault} {capacity : Nat} {task after : Task}

theorem remembers_start (store : Store) (dedupCapacity : Nat) :
    Remembers dedupCapacity (Task.start (Writer.spawn store dedupCapacity)) where
  sized := capacity_spawn store dedupCapacity
  remembered := by
    intro before original since recorded first others split
    simp [answered, Task.start] at split

theorem Remembers.frame (remembers : Remembers capacity task) (writer : after.writer = task.writer)
    (answers : answered after = answered task) : Remembers capacity after := by
  constructor
  · rw [writer]
    exact remembers.sized
  · rw [writer, answers]
    exact remembers.remembered

theorem recent_record {dedup : DedupIndex} {recorded : List RecordedEvent} {eventId : Uuid}
    (member : eventId ∈ recorded.map (·.eventId))
    (room : (recorded.map (·.eventId)).toFinset.card ≤ dedup.cache.capacity) :
    Lru.Recent (recorded.map (·.eventId)).toFinset eventId recorded (dedup.record recorded).cache := by
  have stored : ∃ event ∈ recorded, event.eventId = eventId ∧
      Lru.Recent (recorded.map (·.eventId)).toFinset eventId recorded (dedup.record recorded).cache :=
    Lru.recent_foldl_put member room
  obtain ⟨_, _, _, recent⟩ := stored
  exact recent

variable {recordedAt : UInt64} {writer : Writer} {answer : Answer} {served : Served}

/-- Nothing is appended with an id of a request whose answer is known: a retry would have been
answered from the dedup index. -/
theorem RetryOrApart.appended {original : AppendRequest} {request : AppendRequest} {found : List RecordedEvent}
    {batch : Batch} (others : RetryOrApart original request)
    (known : (writer.dedup.check original.events).1 = some found)
    (missed : (writer.dedup.check request.events).1 = none)
    (accepts : Accepts writer.store.log (request.call recordedAt) batch) :
    ∀ event ∈ batch.events, event.eventId ∉ original.events.map (·.eventId) := by
  intro event member
  rcases others with retry | apart
  · rw [retry, known] at missed
    cases missed
  · have carried : event.eventId ∈ batch.events.map (·.eventId) := List.mem_map_of_mem member
    rw [accepts.eventIds, List.mem_map] at carried
    obtain ⟨proposed, here, same⟩ := carried
    rw [← same]
    exact apart proposed here

/-- What serving a request does to an entry of the dedup index that is no id of this request, or
for whose batch this request is a retry. -/
theorem recent_served {ids : Finset Uuid} {original : AppendRequest} {first : ProposedEvent} {rest : List ProposedEvent}
    {recorded : List RecordedEvent}
    (how : Serving crc fault recordedAt writer answer.ticket.request served) (route : answer.route = served.route)
    (same : returned answer.result = served.result) (events : original.events = first :: rest)
    (recent : Lru.Recent ids first.eventId recorded writer.dedup.cache)
    (others : RetryOrApart original answer.ticket.request)
    (room : (ids ∪ (used answer).toFinset).card ≤ writer.dedup.cache.capacity) :
    Lru.Recent (ids ∪ (used answer).toFinset) first.eventId recorded served.writer.dedup.cache := by
  cases how with
  | invalid error refused => exact recent.mono Finset.subset_union_left
  | failed error store unique missed sameLog refused => exact recent.mono Finset.subset_union_left
  | panicked after => exact absurd rfl (ne_panic_of_returned same)
  | cached found unique hit =>
    obtain ⟨head, tail, proposed, _⟩ := check_known hit
    have usedEq : used answer = [head.eventId] := by
      rw [used, route, proposed]
      rfl
    have looked := recent.get head.eventId
    rw [usedEq, List.toFinset_cons, List.toFinset_nil, insert_empty_eq, Finset.union_comm, Finset.singleton_union,
      proposed]
    exact looked
  | appended batch unique missed accepts fits =>
    rw [returned_eq_ok] at same
    have usedEq : used answer = batch.events.map (·.eventId) := by rw [used, route, same]
    rw [usedEq] at room ⊢
    apply recent.foldl_put _ room
    intro event member sameId
    have known : (writer.dedup.check original.events).1 = some recorded := by
      rw [events]
      exact recent.get_eq
    apply others.appended known missed accepts event member
    rw [sameId, events]
    exact List.mem_cons_self ..

theorem capacity_served {request : AppendRequest} (how : Serving crc fault recordedAt writer request served)
    (alive : served.result ≠ .panic) :
    served.writer.dedup.cache.capacity = writer.dedup.cache.capacity := by
  cases how with
  | invalid error refused => rfl
  | failed error store unique missed sameLog refused => rfl
  | panicked after => exact absurd rfl alive
  | cached found unique hit => exact capacity_check _ _
  | appended batch unique missed accepts fits => exact capacity_record _ _

theorem recent_appended {first : ProposedEvent} {rest : List ProposedEvent} {recorded : List RecordedEvent}
    (how : Serving crc fault recordedAt writer answer.ticket.request served) (route : answer.route = served.route)
    (same : returned answer.result = served.result) (events : answer.ticket.request.events = first :: rest)
    (inWindow : InWindow writer.dedup.cache.capacity answer recorded []) :
    Lru.Recent (usedIds [answer]) first.eventId recorded served.writer.dedup.cache := by
  have usedEq : usedIds [answer] = (recorded.map (·.eventId)).toFinset := by
    rw [usedIds, List.flatMap_singleton, used, inWindow.route, inWindow.result]
  have room := inWindow.window
  rw [usedEq] at room ⊢
  rw [inWindow.result, eq_comm, returned] at same
  rw [inWindow.route] at route
  cases how with
  | invalid error refused => cases route
  | cached found unique hit => cases route
  | failed error store unique missed sameLog refused => cases same
  | panicked after => cases same
  | appended batch unique missed accepts fits =>
    rw [← Outcome.ok.inj same] at room ⊢
    apply recent_record _ room
    rw [accepts.eventIds]
    show first.eventId ∈ answer.ticket.request.events.map (·.eventId)
    rw [events]
    exact List.mem_cons_self ..

theorem Remembers.serve (remembers : Remembers capacity task) (moved : Task.next crc (.serve fault) task = some after) :
    Remembers capacity after := by
  obtain ⟨answer, served, _, _, _, answers, how, writer, route, same⟩ := next_serving moved
  constructor
  · rw [writer, capacity_served how (ne_panic_of_returned same)]
    exact remembers.sized
  · intro before original since recorded first others split inWindow events
    rw [answers] at split
    rw [writer]
    rcases List.eq_nil_or_concat since with none | ⟨earlier, last, more⟩
    · rw [none] at split inWindow ⊢
      have itself : answer = original := List.singleton_inj.mp (List.append_inj' split rfl).2
      rw [← itself] at inWindow events ⊢
      rw [← remembers.sized] at inWindow
      exact recent_appended how route same events inWindow
    · rw [more, List.concat_eq_append] at split inWindow ⊢
      rw [← List.cons_append, ← List.append_assoc] at split
      obtain ⟨earlierSplit, lastEq⟩ := List.append_inj' split rfl
      rw [← List.singleton_inj.mp lastEq] at inWindow ⊢
      have recent := remembers.remembered before original earlier recorded first others earlierSplit
        inWindow.shorten events
      have room := inWindow.window
      rw [← List.cons_append, usedIds_snoc] at room ⊢
      rw [← remembers.sized] at room
      exact recent_served how route same events recent
        (inWindow.others answer (List.mem_append_right _ (List.mem_cons_self ..))) room

theorem Remembers.next {step : Task.Step} (remembers : Remembers capacity task)
    (moved : Task.next crc step task = some after) : Remembers capacity after := by
  rcases serve_or_quiet step with ⟨fault, isServe⟩ | quiet
  · rw [isServe] at moved
    exact remembers.serve moved
  · obtain ⟨writer, answers, _⟩ := next_quiet moved quiet
    exact remembers.frame writer answers

end

/-- A retry returns the first answer, writes nothing and publishes nothing, whatever it expects and
however often it is made. -/
theorem retry_in_window (crc : Crc32fast) (store : Store) (dedupCapacity : Nat) (task : Task)
    (run : Reaches (Task.next crc) always (Task.start (Writer.spawn store dedupCapacity)) task)
    (before since : List Answer) (original : Answer) (recorded : List RecordedEvent)
    (answers : answered task = before ++ original :: since)
    (inWindow : InWindow dedupCapacity original recorded since) (retry : AppendRequest)
    (same : retry.events = original.ticket.request.events) (fault : Fault) (recordedAt : UInt64) :
    ∃ dedup, task.writer.serve crc fault recordedAt retry =
      ⟨.ok recorded, .cached, { task.writer with dedup }, []⟩ := by
  have remembers := run.invariant (Remembers dedupCapacity) (remembers_start store dedupCapacity)
    (fun _ _ _ holds _ moved => holds.next moved)
  obtain ⟨first, others, events⟩ := List.exists_cons_of_ne_nil inWindow.present
  have recent := remembers.remembered before original since recorded first others answers inWindow events
  have unique : validateBatchUniqueIds retry.events = .ok () := by
    rw [same]
    exact validateBatchUniqueIds_eq_ok.mpr inWindow.distinct
  have hit : (task.writer.dedup.check retry.events).1 = some recorded := by
    rw [same, events]
    exact recent.get_eq
  exact ⟨_, serve_cached crc fault recordedAt unique hit⟩

theorem retry_in_window_noStream :
    ∃ dedup, (firstWriter Crc32fast.ieee).serve Crc32fast.ieee .none 7 (plainRequest 0 .noStream [1]) =
      ⟨.ok firstBatch.events, .cached, { firstWriter Crc32fast.ieee with dedup }, []⟩ := by
  have run : Reaches (Task.next Crc32fast.ieee) always (Task.start freshWriter)
      (idle (firstWriter Crc32fast.ieee) [⟨⟨0, plainRequest 0 .any [1]⟩, .appended, .ok firstBatch.events⟩] 1 0) :=
    reaches_answer (fun _ _ _ _ _ => trivial) (serve_first Crc32fast.ieee)
  have inWindow : InWindow 4 ⟨⟨0, plainRequest 0 .any [1]⟩, .appended, .ok firstBatch.events⟩ firstBatch.events [] :=
    { route := rfl
      result := rfl
      present := List.cons_ne_nil _ _
      distinct := List.nodup_singleton _
      others := fun _ member => absurd member List.not_mem_nil
      window := by decide }
  exact retry_in_window Crc32fast.ieee Store.create 4 _ run [] [] _ _ rfl inWindow _ rfl .none 7

end EventfoldDb.RetryWindow
