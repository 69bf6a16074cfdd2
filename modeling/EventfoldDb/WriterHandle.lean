import EventfoldDb.WriterSpec

/-! Callers of `WriterHandle::append`, the bounded channel between them and the writer task, and the
end of the task, by a shutdown or by a panic.

Of the channels only the documented behaviour is used. `mpsc`: messages keep the order in which they were
sent, a send waits for room and fails once the receiver is gone, and `recv` returns `None` when the channel
is empty and no sender is left. `oneshot`: the receiver gets the value, or learns that the sender is gone. -/

namespace EventfoldDb
open Outcome

/-- The largest capacity `mpsc::channel` takes, `usize::MAX >> 3`. -/
def maxPermits : Nat := 2305843009213693951

def writerTaskClosed : Error := .invalidArgument "writer task closed"

inductive CallPhase where
  /-- In `tx.send`, until there is room in the channel. -/
  | sending
  /-- In `response_rx`. -/
  | awaiting
  | returned (result : Except Error (List RecordedEvent))
  /-- The caller dropped the future. -/
  | cancelled

def CallPhase.pending : CallPhase → Bool
  | .sending => true
  | .awaiting => true
  | .returned _ => false
  | .cancelled => false

/-- A call of `append`. The number stands for the response channel, once its sender is with the task. -/
structure Call where
  request : AppendRequest
  number : Option Nat
  phase : CallPhase

inductive TaskStatus where
  | running
  /-- `run_writer` returned. -/
  | finished
  /-- The task panicked or was aborted; the channels it held are dropped. -/
  | panicked
  deriving DecidableEq

structure WriterSystem where
  channelCapacity : Nat
  task : Task
  /-- Requests the task has received for its next batch. They wait at the front of the inbox, and
  take up no room in the channel any more. -/
  received : Nat
  status : TaskStatus
  handles : Nat
  calls : List Call

def Task.waits (task : Task) : Prop := task.batch = [] ∧ task.unsent = [] ∧ task.reply = none

instance (task : Task) : Decidable task.waits :=
  decidable_of_iff (task.batch.isEmpty ∧ task.unsent.isEmpty ∧ task.reply.isNone) (by simp [Task.waits])

def Task.panics (crc : Crc32fast) (fault : Fault) (task : Task) : Bool :=
  match task.batch, task.unsent, task.reply with
  | ticket :: _, [], none =>
      match (task.writer.serve crc fault task.recordedAt ticket.request).result with
      | .panic => true
      | _ => false
  | _, _, _ => false

/-- `LruCache::new` reserves its table, and `mpsc::channel` asserts the bounds of its capacity. -/
def spawnWriter (platform : Platform) (store : Store) (channelCapacity dedupCapacity : Nat) :
    Outcome Error WriterSystem :=
  if platform.grants (.dedup dedupCapacity) = true ∧ 0 < channelCapacity ∧ channelCapacity ≤ maxPermits then
    ok {
      channelCapacity
      task := Task.start (Writer.spawn store dedupCapacity)
      received := 0
      status := .running
      handles := 1
      calls := [] }
  else panic

namespace WriterSystem

inductive Step where
  | clone
  | drop
  | append (request : AppendRequest)
  | send (index : Nat)
  /-- The response, or the news that there will be none. -/
  | response (index : Nat)
  | cancel (index : Nat)
  /-- `recv` or a successful `try_recv`. -/
  | recv
  /-- `try_recv` finds the channel empty, and the batch gets its time. -/
  | stamp (recordedAt : UInt64)
  | serve (fault : Fault)
  | publish
  | respond
  /-- A panic of the runtime or of the clock, or an abort. -/
  | abort
  /-- `recv` returns `None`. -/
  | exit

def pending (system : WriterSystem) : Bool := system.calls.any (·.phase.pending)

def queued (system : WriterSystem) : Nat := system.task.inbox.length - system.received

def put (system : WriterSystem) (index : Nat) (call : Call) : WriterSystem :=
  { system with calls := system.calls.set index call }

def work (crc : Crc32fast) (step : Task.Step) (system : WriterSystem) : Option WriterSystem :=
  (Task.next crc step system.task).map fun task => { system with task }

def next (crc : Crc32fast) : Step → WriterSystem → Option WriterSystem
  | .clone, system => if 0 < system.handles then some { system with handles := system.handles + 1 } else none
  | .drop, system =>
      -- `append` borrows a handle, so the last one stays as long as a call is pending
      if 1 < system.handles ∨ (system.handles = 1 ∧ system.pending = false) then
        some { system with handles := system.handles - 1 }
      else none
  | .append request, system =>
      if 0 < system.handles then some { system with calls := system.calls ++ [⟨request, none, .sending⟩] } else none
  | .send index, system =>
      match system.calls[index]? with
      | some ⟨request, none, .sending⟩ =>
          if system.status = .running then
            if system.queued < system.channelCapacity then
              (system.work crc (.submit request)).map fun sent =>
                sent.put index ⟨request, some system.task.submitted, .awaiting⟩
            else none
          else some (system.put index ⟨request, none, .returned (.error writerTaskClosed)⟩)
      | _ => none
  | .response index, system =>
      match system.calls[index]? with
      | some ⟨request, some number, .awaiting⟩ =>
          match system.task.answers.find? (·.ticket.number = number) with
          | some answer => some (system.put index ⟨request, some number, .returned answer.result⟩)
          | none =>
              if system.status = .running then none
              else some (system.put index ⟨request, some number, .returned (.error writerTaskClosed)⟩)
      | _ => none
  | .cancel index, system =>
      match system.calls[index]? with
      | some call => if call.phase.pending then some (system.put index { call with phase := .cancelled }) else none
      | none => none
  | .recv, system =>
      if system.status = .running ∧ system.task.waits ∧ 0 < system.queued then
        some { system with received := system.received + 1 }
      else none
  | .stamp recordedAt, system =>
      if system.status = .running ∧ 0 < system.received ∧ system.queued = 0 then
        (system.work crc (.drain system.received recordedAt)).map fun drained => { drained with received := 0 }
      else none
  | .serve fault, system =>
      if system.status = .running then
        if system.task.panics crc fault then some { system with status := .panicked }
        else system.work crc (.serve fault)
      else none
  | .publish, system => if system.status = .running then system.work crc .publish else none
  | .respond, system => if system.status = .running then system.work crc .respond else none
  | .abort, system => if system.status = .running then some { system with status := .panicked } else none
  | .exit, system =>
      if system.status = .running ∧ system.task.waits ∧ system.task.inbox = [] ∧ system.handles = 0 then
        some { system with status := .finished }
      else none

end WriterSystem

namespace WriterHandle
open Recovery AppendSpec WriterSpec WriterSystem Machine

/-! ### What a step does -/

structure Replaced (calls : List Call) (index : Nat) (call other : Call) (after : List Call) : Prop where
  here : calls[index]? = some call
  set : after = calls.set index other

theorem Replaced.split {calls after : List Call} {index : Nat} {call other : Call}
    (replaced : Replaced calls index call other after) :
    ∃ before behind, calls = before ++ call :: behind ∧ after = before ++ other :: behind := by
  obtain ⟨here, set⟩ := replaced
  obtain ⟨inside, same⟩ := List.getElem?_eq_some_iff.mp here
  refine ⟨calls.take index, calls.drop (index + 1), ?_,
    set.trans (List.set_eq_take_append_cons_drop.trans (if_pos inside))⟩
  rw [← same, List.getElem_cons_drop, List.take_append_drop]

def submitted (task : Task) (request : AppendRequest) : Task :=
  { task with inbox := task.inbox ++ [⟨task.submitted, request⟩], submitted := task.submitted + 1 }

inductive Own : Step → Task.Step → Prop
  | serve (fault : Fault) : Own (.serve fault) (.serve fault)
  | publish : Own .publish .publish
  | respond : Own .respond .respond

inductive Moves (crc : Crc32fast) (system : WriterSystem) : Step → WriterSystem → Prop
  | clone (handle : 0 < system.handles) : Moves crc system .clone { system with handles := system.handles + 1 }
  | drop (free : 1 < system.handles ∨ (system.handles = 1 ∧ system.pending = false)) :
      Moves crc system .drop { system with handles := system.handles - 1 }
  | append (request : AppendRequest) (handle : 0 < system.handles) :
      Moves crc system (.append request) { system with calls := system.calls ++ [⟨request, none, .sending⟩] }
  | send (index : Nat) (request : AppendRequest) (calls : List Call) (running : system.status = .running)
      (room : system.queued < system.channelCapacity)
      (replaced : Replaced system.calls index ⟨request, none, .sending⟩
        ⟨request, some system.task.submitted, .awaiting⟩ calls) :
      Moves crc system (.send index) { system with task := submitted system.task request, calls }
  | refused (index : Nat) (request : AppendRequest) (calls : List Call) (ended : system.status ≠ .running)
      (replaced : Replaced system.calls index ⟨request, none, .sending⟩
        ⟨request, none, .returned (.error writerTaskClosed)⟩ calls) :
      Moves crc system (.send index) { system with calls }
  | answered (index : Nat) (request : AppendRequest) (answer : Answer) (calls : List Call)
      (found : system.task.answers.find? (·.ticket.number = answer.ticket.number) = some answer)
      (replaced : Replaced system.calls index ⟨request, some answer.ticket.number, .awaiting⟩
        ⟨request, some answer.ticket.number, .returned answer.result⟩ calls) :
      Moves crc system (.response index) { system with calls }
  | dropped (index : Nat) (request : AppendRequest) (number : Nat) (calls : List Call)
      (nothing : ∀ answer ∈ system.task.answers, answer.ticket.number ≠ number) (ended : system.status ≠ .running)
      (replaced : Replaced system.calls index ⟨request, some number, .awaiting⟩
        ⟨request, some number, .returned (.error writerTaskClosed)⟩ calls) :
      Moves crc system (.response index) { system with calls }
  | cancel (index : Nat) (call : Call) (calls : List Call) (pending : call.phase.pending = true)
      (replaced : Replaced system.calls index call { call with phase := .cancelled } calls) :
      Moves crc system (.cancel index) { system with calls }
  | recv (running : system.status = .running) (waits : system.task.waits) (arrived : 0 < system.queued) :
      Moves crc system .recv { system with received := system.received + 1 }
  | stamp (recordedAt : UInt64) (task : Task) (running : system.status = .running) (arrived : 0 < system.received)
      (empty : system.queued = 0) (drained : Task.next crc (.drain system.received recordedAt) system.task = some task) :
      Moves crc system (.stamp recordedAt) { system with task, received := 0 }
  | panic (fault : Fault) (running : system.status = .running) (panics : system.task.panics crc fault = true) :
      Moves crc system (.serve fault) { system with status := .panicked }
  | own (step : Step) (inner : Task.Step) (task : Task) (same : Own step inner) (running : system.status = .running)
      (moved : Task.next crc inner system.task = some task) : Moves crc system step { system with task }
  | abort (running : system.status = .running) : Moves crc system .abort { system with status := .panicked }
  | exit (running : system.status = .running) (waits : system.task.waits) (empty : system.task.inbox = [])
      (nobody : system.handles = 0) : Moves crc system .exit { system with status := .finished }

section
variable {crc : Crc32fast} {system after : WriterSystem} {step : Step}

theorem own_of_work {inner : Task.Step} (same : Own step inner) (running : system.status = .running)
    (moved : system.work crc inner = some after) : Moves crc system step after := by
  rw [WriterSystem.work, Option.map_eq_some_iff] at moved
  obtain ⟨task, movedTask, afterEq⟩ := moved
  rw [← afterEq]
  exact .own step inner task same running movedTask

theorem moves_of_next (moved : WriterSystem.next crc step system = some after) : Moves crc system step after := by
  cases step with
  | clone =>
    rw [WriterSystem.next] at moved
    split_ifs at moved with handle
    cases moved
    exact .clone handle
  | drop =>
    rw [WriterSystem.next] at moved
    split_ifs at moved with free
    cases moved
    exact .drop free
  | append request =>
    rw [WriterSystem.next] at moved
    split_ifs at moved with handle
    cases moved
    exact .append request handle
  | send index =>
    rw [WriterSystem.next] at moved
    split at moved
    next request here =>
      split_ifs at moved with running room
      · cases moved
        exact .send index request _ running room ⟨here, rfl⟩
      · cases moved
        exact .refused index request _ running ⟨here, rfl⟩
    next => cases moved
  | response index =>
    rw [WriterSystem.next] at moved
    split at moved
    next request number here =>
      split at moved
      next answer found =>
        have same : answer.ticket.number = number := by simpa using List.find?_some found
        cases moved
        rw [← same] at here found
        rw [WriterSystem.put, ← same]
        exact .answered index request answer _ found ⟨here, rfl⟩
      next missing =>
        split_ifs at moved with running
        cases moved
        have nothing : ∀ answer ∈ system.task.answers, answer.ticket.number ≠ number := by
          simpa using List.find?_eq_none.mp missing
        exact .dropped index request number _ nothing running ⟨here, rfl⟩
    next => cases moved
  | cancel index =>
    rw [WriterSystem.next] at moved
    split at moved
    next call here =>
      split_ifs at moved with pending
      cases moved
      exact .cancel index call _ pending ⟨here, rfl⟩
    next => cases moved
  | recv =>
    rw [WriterSystem.next] at moved
    split_ifs at moved with able
    cases moved
    exact .recv able.1 able.2.1 able.2.2
  | stamp recordedAt =>
    rw [WriterSystem.next] at moved
    split_ifs at moved with able
    rw [WriterSystem.work, Option.map_map, Option.map_eq_some_iff] at moved
    obtain ⟨task, drained, afterEq⟩ := moved
    rw [← afterEq]
    exact .stamp recordedAt task able.1 able.2.1 able.2.2 drained
  | serve fault =>
    rw [WriterSystem.next] at moved
    split_ifs at moved with running panics
    · cases moved
      exact .panic fault running panics
    · exact own_of_work (.serve fault) running moved
  | publish =>
    rw [WriterSystem.next] at moved
    split_ifs at moved with running
    exact own_of_work .publish running moved
  | respond =>
    rw [WriterSystem.next] at moved
    split_ifs at moved with running
    exact own_of_work .respond running moved
  | abort =>
    rw [WriterSystem.next] at moved
    split_ifs at moved with running
    cases moved
    exact .abort running
  | exit =>
    rw [WriterSystem.next] at moved
    split_ifs at moved with able
    cases moved
    exact .exit able.1 able.2.1 able.2.2.1 able.2.2.2

end

/-! ### Every request once -/

/-- Every request that was sent to the task, in the order of sending. -/
def ledger (task : Task) : List Ticket := (answered task).map (·.ticket) ++ (task.batch ++ task.inbox)

theorem ledger_next {crc : Crc32fast} {step : Task.Step} {task after : Task}
    (moved : Task.next crc step task = some after) (quiet : ∀ request, step ≠ .submit request) :
    ledger after = ledger task ∧ after.submitted = task.submitted ∧ task.answers <+: after.answers := by
  cases step with
  | submit request => exact absurd rfl (quiet request)
  | drain count recordedAt =>
    rw [Task.next] at moved
    split_ifs at moved with able
    cases moved
    refine ⟨?_, rfl, List.prefix_refl _⟩
    rw [ledger, ledger, able.1, List.nil_append, List.take_append_drop]
    rfl
  | serve fault =>
    obtain ⟨answer, served, batch, inbox, before, answers, _⟩ := next_serving moved
    obtain ⟨ticket, rest, served, result, _, _, _, _, afterEq, _⟩ := next_serve moved
    refine ⟨?_, by rw [afterEq]; rfl, by rw [afterEq]; exact List.prefix_refl _⟩
    rw [ledger, ledger, answers, batch, inbox, List.map_append, List.append_assoc]
    rfl
  | publish =>
    rw [Task.next] at moved
    split at moved
    next => cases moved
    next =>
      cases moved
      exact ⟨rfl, rfl, List.prefix_refl _⟩
  | respond =>
    rw [Task.next] at moved
    split at moved
    next unsent reply =>
      cases moved
      refine ⟨?_, rfl, List.prefix_append _ _⟩
      rw [ledger, ledger, answered, answered, reply, Option.toList_none, List.append_nil, Option.toList_some]
    next => cases moved

theorem ledger_submitted (task : Task) (request : AppendRequest) :
    ledger (submitted task request) = ledger task ++ [⟨task.submitted, request⟩] := by
  rw [ledger, ledger, List.append_assoc, List.append_assoc]
  rfl

theorem quiet_of_own {step : Step} {inner : Task.Step} (same : Own step inner) :
    ∀ request, inner ≠ .submit request := by
  intro request isSubmit
  cases same <;> cases isSubmit

def Settled (system : WriterSystem) (call : Call) (result : Except Error (List RecordedEvent)) : Prop :=
  (∃ answer ∈ system.task.answers, call.number = some answer.ticket.number ∧
      answer.ticket.request = call.request ∧ answer.result = result) ∨
    (system.status = .panicked ∧ result = .error writerTaskClosed ∧
      ∀ answer ∈ system.task.answers, call.number ≠ some answer.ticket.number)

structure CallKept (system : WriterSystem) (call : Call) : Prop where
  unsent : call.phase = .sending → call.number = none
  awaits : call.phase = .awaiting → call.number.isSome
  sent : ∀ number, call.number = some number → ⟨number, call.request⟩ ∈ ledger system.task
  returned : ∀ result, call.phase = .returned result → Settled system call result
  borrows : call.phase.pending = true → 0 < system.handles

structure Kept (system : WriterSystem) : Prop where
  capacity : 0 < system.channelCapacity
  once : (ledger system.task).map (·.number) = List.range system.task.submitted
  room : system.queued ≤ system.channelCapacity
  inside : system.received ≤ system.task.inbox.length
  early : 0 < system.received → system.task.waits
  senders : (system.calls.filterMap (·.number)).Perm (List.range system.task.submitted)
  calls : ∀ call ∈ system.calls, CallKept system call
  ended : system.status = .finished → system.handles = 0 ∧ system.task.waits ∧ system.task.inbox = []

section
variable {crc : Crc32fast} {system after : WriterSystem} {step : Step}

theorem Settled.grow {call : Call} {result : Except Error (List RecordedEvent)} (settled : Settled system call result)
    (answers : system.task.answers <+: after.task.answers)
    (stays : system.status = .panicked → after.status = .panicked ∧ after.task.answers = system.task.answers) :
    Settled after call result := by
  rcases settled with ⟨answer, sent, own⟩ | ⟨panicked, closed, nothing⟩
  · exact .inl ⟨answer, answers.subset sent, own⟩
  · obtain ⟨still, same⟩ := stays panicked
    exact .inr ⟨still, closed, by rw [same]; exact nothing⟩

theorem CallKept.grow {call : Call} (kept : CallKept system call)
    (ledgers : ledger system.task ⊆ ledger after.task) (answers : system.task.answers <+: after.task.answers)
    (stays : system.status = .panicked → after.status = .panicked ∧ after.task.answers = system.task.answers)
    (handles : call.phase.pending = true → 0 < system.handles → 0 < after.handles) : CallKept after call where
  unsent := kept.unsent
  awaits := kept.awaits
  sent := fun number same => ledgers (kept.sent number same)
  returned := fun result isReturned => (kept.returned result isReturned).grow answers stays
  borrows := fun pending => handles pending (kept.borrows pending)

theorem CallKept.frame {call : Call} (kept : CallKept system call) (task : after.task = system.task)
    (status : after.status = system.status)
    (handles : call.phase.pending = true → 0 < system.handles → 0 < after.handles) : CallKept after call := by
  refine kept.grow ?_ ?_ ?_ handles
  · rw [task]
    exact List.Subset.refl _
  · rw [task]
  · intro panicked
    exact ⟨status.trans panicked, by rw [task]⟩

theorem CallKept.stop {call : Call} (kept : CallKept system call) (running : system.status = .running)
    (status : TaskStatus) : CallKept { system with status } call := by
  refine kept.grow (List.Subset.refl _) (List.prefix_refl _) ?_ (fun _ some => some)
  intro panicked
  rw [running] at panicked
  cases panicked

theorem callKept_new (handle : 0 < system.handles) (request : AppendRequest) :
    CallKept system ⟨request, none, .sending⟩ where
  unsent := fun _ => rfl
  awaits := (nomatch ·)
  sent := (nomatch ·, ·)
  returned := (nomatch ·, ·)
  borrows := fun _ => handle

theorem mem_of_replaced {calls later : List Call} {index : Nat} {call other member : Call}
    (replaced : Replaced calls index call other later)
    (here : member ∈ later) : member = other ∨ member ∈ calls := by
  obtain ⟨before, behind, split, splitLater⟩ := replaced.split
  rw [splitLater, List.mem_append, List.mem_cons] at here
  rw [split, List.mem_append, List.mem_cons]
  rcases here with first | same | last
  · exact .inr (.inl first)
  · exact .inl same
  · exact .inr (.inr (.inr last))

theorem mem_replaced {calls later : List Call} {index : Nat} {call other : Call}
    (replaced : Replaced calls index call other later) :
    call ∈ calls := by
  obtain ⟨before, behind, split, _⟩ := replaced.split
  rw [split]
  exact List.mem_append_right _ (List.mem_cons_self ..)

theorem numbers_replaced {calls later : List Call} {index : Nat} {call other : Call}
    (replaced : Replaced calls index call other later)
    (same : other.number = call.number) : later.filterMap (·.number) = calls.filterMap (·.number) := by
  obtain ⟨before, behind, split, splitLater⟩ := replaced.split
  rw [split, splitLater, List.filterMap_append, List.filterMap_append, List.filterMap_cons, List.filterMap_cons, same]

theorem Kept.unique (kept : Kept system) {one two : Ticket} (first : one ∈ ledger system.task)
    (second : two ∈ ledger system.task) (same : one.number = two.number) : one = two := by
  have distinct : ((ledger system.task).map (·.number)).Nodup := by
    rw [kept.once]
    exact List.nodup_range
  exact List.inj_on_of_nodup_map distinct first second same

theorem Kept.settle (kept : Kept system) {index : Nat} {call other : Call} {calls : List Call}
    (replaced : Replaced system.calls index call other calls) (request : other.request = call.request)
    (number : other.number = call.number) (gone : other.phase.pending = false)
    (returned : ∀ result, other.phase = .returned result → Settled system other result) :
    Kept { system with calls } := by
  obtain ⟨capacity, once, room, inside, early, senders, each, ended⟩ := kept
  refine ⟨capacity, once, room, inside, early, ?_, ?_, ended⟩
  · rw [numbers_replaced replaced number]
    exact senders
  · intro member here
    rcases mem_of_replaced replaced here with isOther | old
    · rw [isOther]
      refine ⟨?_, ?_, ?_, returned, ?_⟩
      · intro isSending
        rw [isSending] at gone
        cases gone
      · intro isAwaiting
        rw [isAwaiting] at gone
        cases gone
      · intro sent same
        rw [request]
        exact (each call (mem_replaced replaced)).sent sent (number ▸ same)
      · intro pending
        rw [gone] at pending
        cases pending
    · exact (each member old).frame rfl rfl (fun _ some => some)

/-- With a pending call the task can only have ended by a panic. -/
theorem Kept.panicked (kept : Kept system) {call : Call} (member : call ∈ system.calls)
    (pending : call.phase.pending = true) (gone : system.status ≠ .running) : system.status = .panicked := by
  cases status : system.status with
  | running => exact absurd status gone
  | panicked => rfl
  | finished =>
    have some := (kept.calls call member).borrows pending
    have none := (kept.ended status).1
    omega

theorem Kept.worked (kept : Kept system) {inner : Task.Step} {task : Task} {received : Nat}
    (running : system.status = .running) (moved : Task.next crc inner system.task = some task)
    (quiet : ∀ request, inner ≠ .submit request) (room : task.inbox.length - received ≤ system.channelCapacity)
    (inside : received ≤ task.inbox.length) (early : 0 < received → task.waits) :
    Kept { system with task, received } := by
  obtain ⟨capacity, once, _, _, _, senders, each, ended⟩ := kept
  obtain ⟨ledgers, count, answers⟩ := ledger_next moved quiet
  refine ⟨capacity, ?_, room, inside, early, ?_, ?_, ?_⟩
  · show (ledger task).map (·.number) = List.range task.submitted
    rw [ledgers, count]
    exact once
  · show (system.calls.filterMap (·.number)).Perm (List.range task.submitted)
    rw [count]
    exact senders
  · intro call member
    have stays : system.status = .panicked → system.status = .panicked ∧ task.answers = system.task.answers := by
      intro panicked
      rw [running] at panicked
      cases panicked
    exact (each call member).grow (by rw [ledgers]; exact List.Subset.refl _) answers stays (fun _ some => some)
  · intro finished
    rw [running] at finished
    cases finished

theorem Kept.submit (kept : Kept system) {index : Nat} {request : AppendRequest} {calls : List Call}
    (running : system.status = .running) (room : system.queued < system.channelCapacity)
    (replaced : Replaced system.calls index ⟨request, none, .sending⟩
      ⟨request, some system.task.submitted, .awaiting⟩ calls) :
    Kept { system with task := submitted system.task request, calls } := by
  obtain ⟨capacity, once, _, inside, early, senders, each, ended⟩ := kept
  have ledgers := ledger_submitted system.task request
  rw [queued] at room
  have longer : (submitted system.task request).inbox.length = system.task.inbox.length + 1 := List.length_append
  refine ⟨capacity, ?_, ?_, ?_, early, ?_, ?_, ?_⟩
  · show (ledger (submitted system.task request)).map (·.number) = List.range (system.task.submitted + 1)
    rw [ledgers, List.map_append, once, List.range_succ]
    rfl
  · show (submitted system.task request).inbox.length - system.received ≤ system.channelCapacity
    omega
  · show system.received ≤ (submitted system.task request).inbox.length
    omega
  · obtain ⟨before, behind, split, splitLater⟩ := replaced.split
    show (calls.filterMap (·.number)).Perm (List.range (system.task.submitted + 1))
    rw [split, List.filterMap_append, List.filterMap_cons] at senders
    rw [splitLater, List.range_succ, List.filterMap_append, List.filterMap_cons]
    exact (List.perm_middle.trans (senders.cons _)).trans (List.perm_append_singleton _ _).symm
  · intro call member
    rcases mem_of_replaced replaced member with new | old
    · rw [new]
      refine ⟨(nomatch ·), fun _ => rfl, ?_, (nomatch ·, ·), fun _ => ?_⟩
      · intro number same
        rw [← Option.some.inj same]
        show _ ∈ ledger (submitted system.task request)
        rw [ledgers]
        exact List.mem_append_right _ (List.mem_singleton_self _)
      · exact (each _ (mem_replaced replaced)).borrows rfl
    · refine (each call old).grow ?_ (List.prefix_refl _) (fun still => ⟨still, rfl⟩) (fun _ some => some)
      show _ ⊆ ledger (submitted system.task request)
      rw [ledgers]
      exact List.subset_append_left _ _
  · intro finished
    rw [running] at finished
    cases finished

theorem Kept.crash (kept : Kept system) (running : system.status = .running) :
    Kept { system with status := .panicked } := by
  obtain ⟨capacity, once, room, inside, early, senders, each, _⟩ := kept
  exact ⟨capacity, once, room, inside, early, senders, fun call member => (each call member).stop running _, nofun⟩

theorem inbox_of_own {inner : Task.Step} {task : Task} (same : Own step inner)
    (moved : Task.next crc inner system.task = some task) : task.inbox = system.task.inbox := by
  cases same with
  | serve fault =>
    obtain ⟨answer, served, _, inbox, _⟩ := next_serving moved
    exact inbox
  | publish =>
    rw [Task.next] at moved
    split at moved
    · cases moved
    · cases moved
      rfl
  | respond =>
    rw [Task.next] at moved
    split at moved
    · cases moved
      rfl
    · cases moved

theorem busy_of_own {inner : Task.Step} {task : Task} (same : Own step inner)
    (moved : Task.next crc inner system.task = some task) : ¬system.task.waits := by
  rintro ⟨batch, unsent, reply⟩
  cases same with
  | serve fault =>
    rw [Task.next, batch] at moved
    cases moved
  | publish =>
    rw [Task.next, unsent] at moved
    cases moved
  | respond =>
    rw [Task.next, unsent, reply] at moved
    cases moved

theorem Kept.next (kept : Kept system) (moves : Moves crc system step after) : Kept after := by
  cases moves with
  | clone handle =>
    obtain ⟨capacity, once, room, inside, early, senders, each, ended⟩ := kept
    refine ⟨capacity, once, room, inside, early, senders, ?_, ?_⟩
    · intro call member
      exact (each call member).frame rfl rfl (fun _ _ => Nat.succ_pos _)
    · intro finished
      have none := (ended finished).1
      omega
  | drop free =>
    obtain ⟨capacity, once, room, inside, early, senders, each, ended⟩ := kept
    refine ⟨capacity, once, room, inside, early, senders, ?_, ?_⟩
    · intro call member
      refine (each call member).frame rfl rfl ?_
      intro pending some
      rcases free with more | ⟨_, nobody⟩
      · show 0 < system.handles - 1
        omega
      · rw [WriterSystem.pending, List.any_eq_false] at nobody
        exact absurd pending (nobody call member)
    · intro finished
      have none := (ended finished).1
      omega
  | append request handle =>
    obtain ⟨capacity, once, room, inside, early, senders, each, ended⟩ := kept
    refine ⟨capacity, once, room, inside, early, ?_, ?_, ended⟩
    · rw [List.filterMap_append]
      show (system.calls.filterMap Call.number ++ []).Perm _
      rw [List.append_nil]
      exact senders
    · intro call member
      rcases List.mem_append.mp member with old | new
      · exact (each call old).frame rfl rfl (fun _ some => some)
      · rw [List.mem_singleton.mp new]
        exact (callKept_new handle request).frame rfl rfl (fun _ some => some)
  | send index request calls running room replaced => exact kept.submit running room replaced
  | refused index request calls gone replaced =>
    have panicked := kept.panicked (mem_replaced replaced) rfl gone
    apply kept.settle replaced rfl rfl rfl
    intro result isReturned
    cases isReturned
    exact .inr ⟨panicked, rfl, fun answer _ => (Option.some_ne_none answer.ticket.number).symm⟩
  | answered index request answer calls found replaced =>
    have sent := List.mem_of_find?_eq_some found
    apply kept.settle replaced rfl rfl rfl
    intro result isReturned
    cases isReturned
    have listed : answer.ticket ∈ ledger system.task := by
      apply List.mem_append_left
      exact List.mem_map.mpr ⟨answer, List.mem_append_left _ sent, rfl⟩
    have mine := (kept.calls _ (mem_replaced replaced)).sent _ rfl
    have same := kept.unique listed mine rfl
    exact .inl ⟨answer, sent, rfl, congrArg Ticket.request same, rfl⟩
  | dropped index request number calls nothing gone replaced =>
    have panicked := kept.panicked (mem_replaced replaced) rfl gone
    apply kept.settle replaced rfl rfl rfl
    intro result isReturned
    cases isReturned
    refine .inr ⟨panicked, rfl, ?_⟩
    intro answer sent same
    exact nothing answer sent (Option.some.inj same).symm
  | cancel index call calls pending replaced =>
    apply kept.settle replaced rfl rfl rfl
    intro result isReturned
    cases isReturned
  | recv running waits arrived =>
    obtain ⟨capacity, once, room, inside, early, senders, each, ended⟩ := kept
    rw [queued] at room arrived
    refine ⟨capacity, once, ?_, ?_, fun _ => waits, senders, ?_, ended⟩
    · show system.task.inbox.length - (system.received + 1) ≤ system.channelCapacity
      omega
    · show system.received + 1 ≤ system.task.inbox.length
      omega
    · intro call member
      exact (each call member).frame rfl rfl (fun _ some => some)
  | stamp recordedAt task running arrived empty drained =>
    have length : task.inbox.length = system.task.inbox.length - system.received := by
      rw [Task.next] at drained
      split_ifs at drained
      cases drained
      exact List.length_drop
    rw [queued] at empty
    have quiet : ∀ request, Task.Step.drain system.received recordedAt ≠ .submit request := by
      intro request impossible
      cases impossible
    apply kept.worked running drained quiet _ (Nat.zero_le _) (fun impossible => absurd impossible (Nat.lt_irrefl 0))
    omega
  | panic fault running panics => exact kept.crash running
  | own step inner task same running moved =>
    obtain ⟨room, inside, early⟩ := And.intro kept.room (And.intro kept.inside kept.early)
    have inbox : task.inbox = system.task.inbox := inbox_of_own same moved
    rw [queued] at room
    refine kept.worked running moved (quiet_of_own same) (by rw [inbox]; exact room) (by rw [inbox]; exact inside) ?_
    intro arrived
    exact absurd (early arrived) (busy_of_own same moved)
  | abort running => exact kept.crash running
  | exit running waits empty nobody =>
    obtain ⟨capacity, once, room, inside, early, senders, each, _⟩ := kept
    exact ⟨capacity, once, room, inside, early, senders, fun call member => (each call member).stop running _,
      fun _ => ⟨nobody, waits, empty⟩⟩

theorem kept_of_run {platform : Platform} {start : WriterSystem} {store : Store} {channelCapacity dedupCapacity : Nat}
    (spawned : spawnWriter platform store channelCapacity dedupCapacity = ok start)
    (run : Reaches (WriterSystem.next crc) always start system) : Kept system := by
  apply run.invariant Kept _ (fun _ _ _ kept _ moved => kept.next (moves_of_next moved))
  rw [spawnWriter] at spawned
  split_ifs at spawned with bounds
  cases spawned
  exact ⟨bounds.2.1, rfl, Nat.zero_le _, Nat.le_refl _, fun _ => ⟨rfl, rfl, rfl⟩, .refl _, (nomatch ·, ·), nofun⟩

end

/-! ### What the callers can rely on -/

/-- At every moment: the answers are sent in the order of the requests, every response channel
belongs to one call, the channel keeps its bound, a call returns what its own request was answered
with, and a shutdown leaves nobody without an answer. -/
structure Reliable (system : WriterSystem) : Prop where
  inOrder : system.task.answers.map (·.ticket.number) = List.range system.task.answers.length
  senders : (system.calls.filterMap (·.number)).Perm (List.range system.task.submitted)
  bounded : system.queued ≤ system.channelCapacity
  own : ∀ call ∈ system.calls, ∀ result, call.phase = .returned result → Settled system call result
  shutdown : system.status = .finished →
    system.task.answers.length = system.task.submitted ∧ ∀ call ∈ system.calls, call.phase.pending = false

section
variable {crc : Crc32fast} {system after : WriterSystem} {step : Step}

theorem Kept.inOrder (kept : Kept system) :
    system.task.answers.map (·.ticket.number) = List.range system.task.answers.length := by
  have front : system.task.answers.map (·.ticket) <+: ledger system.task := by
    rw [ledger, answered, List.map_append, List.append_assoc]
    exact List.prefix_append _ _
  have numbers := front.map Ticket.number
  rw [kept.once, List.map_map] at numbers
  have taken := List.prefix_iff_eq_take.mp numbers
  rw [List.length_map, List.take_range] at taken
  have short : system.task.answers.length ≤ system.task.submitted := by
    have length := numbers.length_le
    rwa [List.length_map, List.length_range] at length
  rw [Nat.min_eq_left short] at taken
  exact taken

theorem Kept.shutdown (kept : Kept system) (finished : system.status = .finished) :
    system.task.answers.length = system.task.submitted ∧ ∀ call ∈ system.calls, call.phase.pending = false := by
  obtain ⟨nobody, ⟨batch, _, reply⟩, empty⟩ := kept.ended finished
  constructor
  · have count := congrArg List.length kept.once
    simpa [ledger, answered, batch, reply, empty] using count
  · intro call member
    by_contra still
    have handle := (kept.calls call member).borrows (eq_true_of_ne_false still)
    omega

def oneCall (task : Task) (received : Nat) (number : Option Nat) (phase : CallPhase) : WriterSystem where
  channelCapacity := 64
  task := task
  received := received
  status := .running
  handles := 1
  calls := [⟨plainRequest 0 .any [1], number, phase⟩]

def firstAnswered (crc : Crc32fast) : Task :=
  { Task.start (firstWriter crc) with
    answers := [⟨⟨0, plainRequest 0 .any [1]⟩, .appended, .ok firstBatch.events⟩]
    submitted := 1 }

theorem serve_oneCall (crc : Crc32fast) :
    WriterSystem.next crc (.serve .none)
        (oneCall (drained freshWriter [] 0 0 (plainRequest 0 .any [1])) 0 (some 0) .awaiting) =
      some (oneCall (firstTask crc) 0 (some 0) .awaiting) := by
  let task := drained freshWriter [] 0 0 (plainRequest 0 .any [1])
  have unharmed : ¬(oneCall task 0 (some 0) .awaiting).task.panics crc .none = true := by
    have result : (task.writer.serve crc .none task.recordedAt (plainRequest 0 .any [1])).result = .ok firstBatch.events :=
      congrArg Served.result (serve_first crc)
    show ¬task.panics crc .none = true
    rw [Task.panics]
    dsimp only [task, drained, idle, Task.start] at result ⊢
    rw [result]
    exact Bool.false_ne_true
  have running : (oneCall task 0 (some 0) .awaiting).status = .running := rfl
  rw [WriterSystem.next, if_pos running, if_neg unharmed]
  show (Task.next crc (.serve .none) task).map _ = _
  rw [next_first crc task rfl rfl rfl rfl rfl]
  rfl

theorem feed_oneCall (crc : Crc32fast) :
    feed (WriterSystem.next crc) [.send 0, .recv, .stamp 0, .serve .none, .publish, .respond, .response 0]
      (oneCall (Task.start freshWriter) 0 none .sending) =
      some (oneCall (firstAnswered crc) 0 (some 0) (.returned (.ok firstBatch.events))) := by
  have receives : feed (WriterSystem.next crc) [.send 0, .recv, .stamp 0]
      (oneCall (Task.start freshWriter) 0 none .sending) =
      some (oneCall (drained freshWriter [] 0 0 (plainRequest 0 .any [1])) 0 (some 0) .awaiting) := rfl
  have returns : feed (WriterSystem.next crc) [.publish, .respond, .response 0]
      (oneCall (firstTask crc) 0 (some 0) .awaiting) =
      some (oneCall (firstAnswered crc) 0 (some 0) (.returned (.ok firstBatch.events))) := rfl
  simp only [feed, Option.bind_eq_some_iff] at receives ⊢
  obtain ⟨sent, sends, received, drains, stamped, stamps, last⟩ := receives
  cases last
  exact ⟨sent, sends, received, drains, _, stamps, _, serve_oneCall crc,
    by simpa only [feed, Option.bind_eq_some_iff] using returns⟩

theorem reaches_oneCall (crc : Crc32fast) :
    ∃ start, spawnWriter .ample Store.create 64 4 = ok start ∧
      Reaches (WriterSystem.next crc) always start (oneCall (Task.start freshWriter) 0 none .sending) :=
  ⟨_, rfl, reaches_of_feed [.append (plainRequest 0 .any [1])] _ _ rfl⟩

/-- Whatever the callers do and however the task ends. -/
theorem calls_reliable (crc : Crc32fast) (platform : Platform) (store : Store) (channelCapacity dedupCapacity : Nat)
    (start system : WriterSystem) (spawned : spawnWriter platform store channelCapacity dedupCapacity = ok start)
    (run : Reaches (WriterSystem.next crc) always start system) : Reliable system := by
  have kept := kept_of_run spawned run
  exact ⟨kept.inOrder, kept.senders, kept.room, fun call member => (kept.calls call member).returned, kept.shutdown⟩

theorem calls_reliable_first :
    ∃ start system, spawnWriter .ample Store.create 64 4 = ok start ∧
      Reaches (WriterSystem.next Crc32fast.ieee) always start system ∧ system.status = .finished ∧
      system.calls.map (·.phase) = [.returned (.ok firstBatch.events)] ∧ Reliable system := by
  obtain ⟨start, spawned, called⟩ := reaches_oneCall Crc32fast.ieee
  have returned := reaches_of_feed _ _ _ (feed_oneCall Crc32fast.ieee)
  have stopped : Reaches (WriterSystem.next Crc32fast.ieee) always
      (oneCall (firstAnswered Crc32fast.ieee) 0 (some 0) (.returned (.ok firstBatch.events))) _ :=
    reaches_of_feed [.drop, .exit] _ _ rfl
  have run := called.trans (returned.trans stopped)
  exact ⟨start, _, spawned, run, rfl, rfl, calls_reliable Crc32fast.ieee .ample Store.create 64 4 start _ spawned run⟩

end

end WriterHandle

end EventfoldDb
