import EventfoldDb.WriterHandle

/-! Every call of `WriterHandle::append` comes to an end, and so does the task once the last handle is
dropped. -/

namespace EventfoldDb.CallProgress
open Outcome AppendSpec WriterSpec WriterSystem WriterHandle Machine

section
variable {crc : Crc32fast} {system after : WriterSystem} {step : WriterSystem.Step}

/-- The steps nobody has to ask for: those of the task, and of the calls that are pending. -/
def internal : Step → Bool
  | .send _ => true
  | .response _ => true
  | .recv => true
  | .stamp _ => true
  | .serve _ => true
  | .publish => true
  | .respond => true
  | .exit => true
  | .clone => false
  | .drop => false
  | .append _ => false
  | .cancel _ => false
  | .abort => false

def size (ticket : Ticket) : Nat := ticket.request.events.length

/-- How many steps the task can still make for the requests it has: to drain, to serve, one for each
message, and to answer. -/
def load (task : Task) : Nat :=
  (task.inbox.map (size · + 3)).sum + (task.batch.map (size · + 2)).sum + task.unsent.length + task.reply.toList.length

def owed (call : Call) : Nat :=
  match call.phase with
  | .sending => call.request.events.length + 6
  | .awaiting => 1
  | _ => 0

def remaining (system : WriterSystem) : Nat :=
  (system.calls.map owed).sum + if system.status = .running then load system.task + system.queued + 1 else 0

theorem owed_replaced {calls later : List Call} {index : Nat} {call other : Call}
    (replaced : Replaced calls index call other later) :
    (later.map owed).sum + owed call = (calls.map owed).sum + owed other := by
  obtain ⟨before, behind, split, splitLater⟩ := replaced.split
  rw [split, splitLater]
  simp only [List.map_append, List.map_cons, List.sum_append, List.sum_cons]
  omega

theorem load_own {inner : Task.Step} {task after : Task} (same : Own step inner)
    (moved : Task.next crc inner task = some after) : load after < load task := by
  cases same with
  | serve fault =>
    obtain ⟨ticket, rest, served, result, batch, unsent, reply, how, afterEq, _⟩ := next_serve moved
    have messages : served.publishes.length ≤ size ticket := by
      cases how with
      | invalid | cached | failed | panicked => exact Nat.zero_le _
      | appended built _ _ accepts _ => exact Nat.le_of_eq accepts.length_events
    rw [load, load, afterEq, batch, unsent, reply]
    simp [Task.afterServing]
    omega
  | publish =>
    rw [Task.next] at moved
    split at moved
    next => cases moved
    next event unsent here =>
      cases moved
      rw [load, load, here]
      simp
  | respond =>
    rw [Task.next] at moved
    split at moved
    next unsent reply =>
      cases moved
      rw [load, load, reply]
      simp
    next => cases moved

theorem load_drain {count : Nat} {recordedAt : UInt64} {task after : Task}
    (moved : Task.next crc (.drain count recordedAt) task = some after) : load after < load task := by
  rw [Task.next] at moved
  split_ifs at moved with able
  cases moved
  obtain ⟨batch, _, _, positive, inside⟩ := able
  have split : ∀ tickets : List Ticket, (tickets.map (size · + 3)).sum = (tickets.map (size · + 2)).sum + tickets.length := by
    intro tickets
    induction tickets with
    | nil => rfl
    | cons ticket tickets ih =>
      simp only [List.map_cons, List.sum_cons, List.length_cons, ih]
      omega
  have whole : ((task.inbox.take count).map (size · + 3)).sum + ((task.inbox.drop count).map (size · + 3)).sum =
      (task.inbox.map (size · + 3)).sum := by
    rw [← List.sum_append, ← List.map_append, List.take_append_drop]
  have taken : (task.inbox.take count).length = count := List.length_take_of_le inside
  have front := split (task.inbox.take count)
  rw [load, load, batch, List.map_nil, List.sum_nil]
  dsimp only
  omega

theorem decreases (kept : Kept system) (moves : Moves crc system step after) (own : internal step = true) :
    remaining after < remaining system := by
  have := kept.inside
  cases moves with
  | clone | drop | append | cancel | abort => cases own
  | send index request calls running room replaced =>
    have calls := owed_replaced replaced
    have weight : load (submitted system.task request) = load system.task + (request.events.length + 3) := by
      simp [load, submitted, size]
      omega
    have longer : (submitted system.task request).inbox.length = system.task.inbox.length + 1 := List.length_append
    rw [remaining, remaining, if_pos running, if_pos running, weight, queued, queued, longer]
    simp only [owed] at calls
    dsimp only
    omega
  | refused index request calls gone replaced =>
    have calls := owed_replaced replaced
    rw [remaining, remaining, if_neg gone, if_neg gone]
    simp only [owed] at calls
    dsimp only
    omega
  | answered index request answer calls found replaced =>
    have calls := owed_replaced replaced
    simp only [owed] at calls
    rw [remaining, remaining]
    show (List.map owed _).sum + (if system.status = .running then load system.task + system.queued + 1 else 0) < _
    dsimp only
    omega
  | dropped index request number calls nothing gone replaced =>
    have calls := owed_replaced replaced
    rw [remaining, remaining, if_neg gone, if_neg gone]
    simp only [owed] at calls
    dsimp only
    omega
  | recv running waits arrived =>
    rw [remaining, remaining, if_pos running, if_pos running]
    rw [queued] at arrived
    rw [queued, queued]
    dsimp only
    omega
  | stamp recordedAt task running arrived empty drained =>
    have weight := load_drain drained
    have rest : task.inbox.length = 0 := by
      rw [Task.next] at drained
      split_ifs at drained
      cases drained
      rw [List.length_drop]
      exact empty
    rw [remaining, remaining, if_pos running, if_pos running, empty, queued, rest]
    dsimp only
    omega
  | panic fault running panics =>
    have gone : TaskStatus.panicked ≠ .running := by decide
    rw [remaining, remaining, if_pos running, if_neg gone]
    dsimp only
    omega
  | own step inner task same running moved =>
    have weight := load_own same moved
    have inbox : task.inbox = system.task.inbox := inbox_of_own same moved
    rw [remaining, remaining, if_pos running, if_pos running, queued, queued]
    dsimp only
    rw [inbox]
    omega
  | exit running waits empty nobody =>
    have gone : TaskStatus.finished ≠ .running := by decide
    rw [remaining, remaining, if_pos running, if_neg gone]
    dsimp only
    omega

def GoesOn (crc : Crc32fast) (system : WriterSystem) : Prop :=
  ∃ step, internal step = true ∧ (WriterSystem.next crc step system).isSome

theorem serves_or_panics (crc : Crc32fast) (fault : Fault) {task : Task} {ticket : Ticket} {rest : List Ticket}
    (batch : task.batch = ticket :: rest) (unsent : task.unsent = []) (reply : task.reply = none) :
    task.panics crc fault = true ∨ (Task.next crc (.serve fault) task).isSome := by
  rw [Task.panics, Task.next, batch, unsent, reply]
  dsimp only
  cases (task.writer.serve crc fault task.recordedAt ticket.request).result with
  | ok recorded => exact .inr rfl
  | err error => exact .inr rfl
  | panic => exact .inl rfl

theorem goesOn_of_busy (running : system.status = .running) (busy : ¬system.task.waits) : GoesOn crc system := by
  by_cases unsent : system.task.unsent = []
  · cases reply : system.task.reply with
    | some answer =>
      refine ⟨.respond, rfl, ?_⟩
      rw [WriterSystem.next, if_pos running, WriterSystem.work, Task.next, unsent, reply]
      rfl
    | none =>
      cases batch : system.task.batch with
      | nil => exact absurd ⟨batch, unsent, reply⟩ busy
      | cons ticket rest =>
        refine ⟨.serve .none, rfl, ?_⟩
        rw [WriterSystem.next, if_pos running]
        split_ifs with panics
        · rfl
        · rw [WriterSystem.work, Option.isSome_map]
          exact (serves_or_panics crc .none batch unsent reply).resolve_left panics
  · obtain ⟨event, later, here⟩ := List.exists_cons_of_ne_nil unsent
    refine ⟨.publish, rfl, ?_⟩
    rw [WriterSystem.next, if_pos running, WriterSystem.work, Task.next, here]
    rfl

theorem goesOn_of_inbox (kept : Kept system) (running : system.status = .running) (arrived : system.task.inbox ≠ []) :
    GoesOn crc system := by
  by_cases waits : system.task.waits
  · have some := List.length_pos_of_ne_nil arrived
    have inside := kept.inside
    by_cases empty : system.queued = 0
    · have all : system.received = system.task.inbox.length := by
        rw [queued] at empty
        omega
      obtain ⟨batch, unsent, reply⟩ := waits
      refine ⟨.stamp 0, rfl, ?_⟩
      rw [WriterSystem.next, if_pos ⟨running, by omega, empty⟩, Option.isSome_map, WriterSystem.work, Option.isSome_map,
        Task.next, if_pos ⟨batch, unsent, by rw [reply]; rfl, by omega, by omega⟩]
      rfl
    · refine ⟨.recv, rfl, ?_⟩
      rw [WriterSystem.next, if_pos ⟨running, waits, Nat.pos_of_ne_zero empty⟩]
      rfl
  · exact goesOn_of_busy running waits

theorem goesOn_of_pending (kept : Kept system) {call : Call} (member : call ∈ system.calls)
    (pending : call.phase.pending = true) : GoesOn crc system := by
  obtain ⟨index, here⟩ := List.mem_iff_getElem?.mp member
  obtain ⟨request, number, phase⟩ := call
  have callKept := kept.calls _ member
  cases phase with
  | returned result => cases pending
  | cancelled => cases pending
  | sending =>
    cases callKept.unsent rfl
    by_cases running : system.status = .running
    · by_cases room : system.queued < system.channelCapacity
      · refine ⟨.send index, rfl, ?_⟩
        rw [WriterSystem.next, here]
        dsimp only
        rw [if_pos running, if_pos room]
        rfl
      · -- a full channel: there is something to receive
        apply goesOn_of_inbox kept running
        intro empty
        have capacity := kept.capacity
        rw [queued, empty, List.length_nil] at room
        omega
    · refine ⟨.send index, rfl, ?_⟩
      rw [WriterSystem.next, here]
      dsimp only
      rw [if_neg running]
      rfl
  | awaiting =>
    obtain ⟨number, isNumber⟩ := Option.isSome_iff_exists.mp (callKept.awaits rfl)
    cases isNumber
    cases found : system.task.answers.find? (·.ticket.number = number) with
    | some answer =>
      refine ⟨.response index, rfl, ?_⟩
      rw [WriterSystem.next, here]
      dsimp only
      rw [found]
      rfl
    | none =>
      by_cases running : system.status = .running
      · -- without an answer the request is still with the task
        by_cases waits : system.task.waits
        · apply goesOn_of_inbox kept running
          intro empty
          obtain ⟨batch, _, reply⟩ := waits
          have listed := callKept.sent number rfl
          rw [ledger, answered, batch, reply, empty, Option.toList_none, List.append_nil, List.append_nil,
            List.append_nil] at listed
          obtain ⟨answer, sent, same⟩ := List.mem_map.mp listed
          have other := List.find?_eq_none.mp found answer sent
          rw [same] at other
          simp at other
        · exact goesOn_of_busy running waits
      · refine ⟨.response index, rfl, ?_⟩
        rw [WriterSystem.next, here]
        dsimp only
        rw [found, if_neg running]
        rfl

structure AtRest (system : WriterSystem) : Prop where
  calls : ∀ call ∈ system.calls, call.phase.pending = false
  answered : system.status ≠ .panicked → system.task.answers.length = system.task.submitted
  ended : system.handles = 0 → system.status ≠ .running

theorem atRest_of_stuck (kept : Kept system) (stuck : ¬GoesOn crc system) : AtRest system := by
  have calls : ∀ call ∈ system.calls, call.phase.pending = false := by
    intro call member
    by_contra still
    exact stuck (goesOn_of_pending kept member (eq_true_of_ne_false still))
  have quiet : system.status = .running → system.task.waits ∧ system.task.inbox = [] := by
    intro running
    constructor
    · by_contra busy
      exact stuck (goesOn_of_busy running busy)
    · by_contra arrived
      exact stuck (goesOn_of_inbox kept running arrived)
  refine ⟨calls, ?_, ?_⟩
  · intro unharmed
    have idle : system.task.waits ∧ system.task.inbox = [] := by
      cases status : system.status with
      | running => exact quiet status
      | finished => exact (kept.ended status).2
      | panicked => exact absurd status unharmed
    obtain ⟨⟨batch, _, reply⟩, empty⟩ := idle
    have count := congrArg List.length kept.once
    simpa [ledger, answered, batch, reply, empty] using count
  · intro nobody running
    obtain ⟨waits, empty⟩ := quiet running
    refine stuck ⟨.exit, rfl, ?_⟩
    rw [WriterSystem.next, if_pos ⟨running, waits, empty, nobody⟩]
    rfl

theorem oneCall_stuck (crc : Crc32fast) (step : Step) (own : internal step = true) :
    WriterSystem.next crc step (oneCall (firstAnswered crc) 0 (some 0) (.returned (.ok firstBatch.events))) = none := by
  cases step with
  | clone | drop | append | cancel | abort => cases own
  | send index => cases index <;> rfl
  | response index => cases index <;> rfl
  | recv | stamp | serve | publish | respond | exit => rfl

/-- From any state that can be reached, the calls and the task make a bounded number of steps on
their own, in whatever order, and when they can make no more every call has come to its end. -/
theorem calls_come_to_rest (crc : Crc32fast) (platform : Platform) (store : Store) (channelCapacity dedupCapacity : Nat)
    (start system : WriterSystem) (spawned : spawnWriter platform store channelCapacity dedupCapacity = ok start)
    (run : Reaches (WriterSystem.next crc) always start system)
    (steps : List Step) (own : ∀ step ∈ steps, internal step = true) (after : WriterSystem)
    (fed : feed (WriterSystem.next crc) steps system = some after) :
    steps.length ≤ remaining system ∧
      ((∀ step, internal step = true → WriterSystem.next crc step after = none) → AtRest after) := by
  have kept := kept_of_run spawned run
  have keptAfter : Kept after :=
    (reaches_of_feed steps system after fed).invariant Kept kept (fun _ _ _ holds _ moved => holds.next (moves_of_next moved))
  have bound := length_le_of_decreases remaining Kept (internal · = true)
    (fun _ _ _ holds permitted moved =>
      ⟨holds.next (moves_of_next moved), decreases holds (moves_of_next moved) permitted⟩)
    steps own system after kept fed
  refine ⟨by omega, ?_⟩
  intro stuck
  have blocked : ¬GoesOn crc after := by
    rintro ⟨step, isInternal, moves⟩
    rw [stuck step isInternal] at moves
    cases moves
  exact atRest_of_stuck keptAfter blocked

theorem calls_come_to_rest_first :
    ∃ start system after, spawnWriter .ample Store.create 64 4 = ok start ∧
      Reaches (WriterSystem.next Crc32fast.ieee) always start system ∧ system.pending = true ∧
      feed (WriterSystem.next Crc32fast.ieee)
        [.send 0, .recv, .stamp 0, .serve .none, .publish, .respond, .response 0] system = some after ∧
      remaining system = 8 ∧ AtRest after := by
  obtain ⟨start, spawned, called⟩ := reaches_oneCall Crc32fast.ieee
  have fed := feed_oneCall Crc32fast.ieee
  have rest := calls_come_to_rest Crc32fast.ieee .ample Store.create 64 4 start _ spawned called _ (by simp [internal]) _ fed
  exact ⟨start, _, _, spawned, called, rfl, fed, rfl, rest.2 (oneCall_stuck Crc32fast.ieee)⟩

end

end EventfoldDb.CallProgress
