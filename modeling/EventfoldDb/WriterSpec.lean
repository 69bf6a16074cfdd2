import EventfoldDb.Writer
import EventfoldDb.DiskInvariant
import EventfoldDb.Lib.Machine

/-! What one request can lead to, and what one step of the writer task can do. -/

namespace EventfoldDb

/-- No request comes without events. -/
def Task.Filled (_ : Task) : Task.Step → Prop
  | .submit request => request.events ≠ []
  | _ => True

/-- Every request fits the record count of a batch header. -/
def Task.Counted (_ : Task) : Task.Step → Prop
  | .submit request => request.events.length < 2 ^ 32
  | _ => True

/-- No file operation fails. -/
def Task.Faultless (_ : Task) : Task.Step → Prop
  | .serve fault => fault = .none
  | _ => True

end EventfoldDb

namespace EventfoldDb.WriterSpec
open Outcome Recovery AppendSpec DiskInvariant Machine

section
variable (crc : Crc32fast) (fault : Fault) (recordedAt : UInt64) (writer : Writer) (request : AppendRequest)

/-- The ways a request can be served. A lookup never adds anything to the dedup index. -/
inductive Serves : Served → Prop
  | invalid (error : Error) : Serves ⟨.err error, .invalid, writer, []⟩
  | cached (first : ProposedEvent) (rest : List ProposedEvent) (recorded : List RecordedEvent) (dedup : DedupIndex)
      (events : request.events = first :: rest)
      (known : (first.eventId, recorded) ∈ writer.dedup.cache.entries)
      (fewer : dedup.cache.entries ⊆ writer.dedup.cache.entries) :
      Serves ⟨.ok recorded, .cached, { writer with dedup }, []⟩
  | failed (error : Error) (store : Store) (dedup : DedupIndex)
      (fewer : dedup.cache.entries ⊆ writer.dedup.cache.entries) (sameLog : store.log = writer.store.log)
      (sameStore : fault = .none → store = writer.store) :
      Serves ⟨.err error, .appended, { store, dedup }, []⟩
  | appended (batch : Batch) (dedup : DedupIndex) (fewer : dedup.cache.entries ⊆ writer.dedup.cache.entries)
      (accepts : Accepts writer.store.log (request.call recordedAt) batch)
      (fits : writer.store.log.events.length + batch.events.length ≤ isizeMax) :
      Serves ⟨.ok batch.events, .appended,
        { store := Store.withBatch crc writer.store request.streamId batch, dedup := dedup.record batch.events },
        batch.events⟩
  | panicked (after : Writer) : Serves ⟨.panic, .appended, after, []⟩

theorem check_fewer (dedup : DedupIndex) (proposed : List ProposedEvent) :
    (dedup.check proposed).2.cache.entries ⊆ dedup.cache.entries := by
  cases proposed with
  | nil => exact fun _ member => member
  | cons first rest => exact fun _ member => Lru.mem_get member

theorem check_known {dedup : DedupIndex} {proposed : List ProposedEvent} {recorded : List RecordedEvent}
    (hit : (dedup.check proposed).1 = some recorded) :
    ∃ first rest, proposed = first :: rest ∧ (first.eventId, recorded) ∈ dedup.cache.entries := by
  cases proposed with
  | nil => cases hit
  | cons first rest => exact ⟨first, rest, rfl, Lru.get_found hit⟩

theorem check_missed {dedup : DedupIndex} {proposed : List ProposedEvent}
    (missed : (dedup.check proposed).1 = none) : (dedup.check proposed).2 = dedup := by
  cases proposed with
  | nil => rfl
  | cons first rest => rw [DedupIndex.check, Lru.get_missed missed]

theorem check_eq_of_missed {dedup : DedupIndex} {proposed : List ProposedEvent}
    (missed : (dedup.check proposed).1 = none) : dedup.check proposed = (none, dedup) :=
  Prod.ext missed (check_missed missed)

/-- The same ways with what decided between them: the ids within the batch, the lookup, and then
`Store::append`. -/
inductive Serving : Served → Prop
  | invalid (error : Error) (refused : validateBatchUniqueIds request.events = .error error) :
      Serving ⟨.err error, .invalid, writer, []⟩
  | cached (recorded : List RecordedEvent) (unique : validateBatchUniqueIds request.events = .ok ())
      (hit : (writer.dedup.check request.events).1 = some recorded) :
      Serving ⟨.ok recorded, .cached, { writer with dedup := (writer.dedup.check request.events).2 }, []⟩
  | failed (error : Error) (store : Store) (unique : validateBatchUniqueIds request.events = .ok ())
      (missed : (writer.dedup.check request.events).1 = none) (sameLog : store.log = writer.store.log)
      (refused : fault = .none →
        store = writer.store ∧ prepareCall crc writer.store.log (request.call recordedAt) = .error error) :
      Serving ⟨.err error, .appended, { writer with store }, []⟩
  | appended (batch : Batch) (unique : validateBatchUniqueIds request.events = .ok ())
      (missed : (writer.dedup.check request.events).1 = none)
      (accepts : Accepts writer.store.log (request.call recordedAt) batch)
      (fits : writer.store.log.events.length + batch.events.length ≤ isizeMax) :
      Serving ⟨.ok batch.events, .appended,
        { store := Store.withBatch crc writer.store request.streamId batch, dedup := writer.dedup.record batch.events },
        batch.events⟩
  | panicked (after : Writer) : Serving ⟨.panic, .appended, after, []⟩

theorem serving : Serving crc fault recordedAt writer request (writer.serve crc fault recordedAt request) := by
  rw [Writer.serve]
  cases unique : validateBatchUniqueIds request.events with
  | error error => exact .invalid error unique
  | ok _ =>
    dsimp only
    cases checked : writer.dedup.check request.events with
    | mk hit dedup =>
      have dedupEq : (writer.dedup.check request.events).2 = dedup := congrArg Prod.snd checked
      cases hit with
      | some recorded =>
        rw [← dedupEq]
        exact .cached recorded unique (congrArg Prod.fst checked)
      | none =>
        have missed : (writer.dedup.check request.events).1 = none := congrArg Prod.fst checked
        rw [check_missed missed] at dedupEq
        rw [← dedupEq]
        cases called : runCall crc fault writer.store (request.call recordedAt) with
        | mk result store =>
          rcases append_cases crc fault writer.store store (request.call recordedAt) result called with
            ⟨error, refused, answer, same⟩ | ⟨batch, _, faulty, answer, storeEq⟩ |
            ⟨batch, accepts, _, answer, fits, storeEq⟩ | answer
          · rw [answer]
            exact .failed error store unique missed (by rw [same]) (fun _ => ⟨same, refused⟩)
          · rw [answer]
            exact .failed .io store unique missed (by rw [storeEq]) (fun faultless => absurd faultless faulty)
          · rw [answer, storeEq]
            exact .appended batch unique missed accepts fits
          · rw [answer]
            exact .panicked _

variable {crc fault recordedAt writer request} in
theorem Serving.serves {served : Served} (how : Serving crc fault recordedAt writer request served) :
    Serves crc fault recordedAt writer request served := by
  cases how with
  | invalid error _ => exact .invalid error
  | cached recorded _ hit =>
    obtain ⟨first, rest, events, known⟩ := check_known hit
    exact .cached first rest recorded _ events known (check_fewer writer.dedup request.events)
  | failed error store _ _ sameLog refused =>
    exact .failed error store writer.dedup (List.Subset.refl _) sameLog (fun faultless => (refused faultless).1)
  | appended batch _ _ accepts fits => exact .appended batch writer.dedup (List.Subset.refl _) accepts fits
  | panicked after => exact .panicked after

end

/-! ### Steps of the task -/

theorem serve_or_quiet (step : Task.Step) : (∃ fault, step = .serve fault) ∨ ∀ fault, step ≠ .serve fault := by
  cases step with
  | serve fault => exact .inl ⟨fault, rfl⟩
  | submit request => exact .inr (fun _ impossible => by cases impossible)
  | drain count recordedAt => exact .inr (fun _ impossible => by cases impossible)
  | publish => exact .inr (fun _ impossible => by cases impossible)
  | respond => exact .inr (fun _ impossible => by cases impossible)

theorem next_serve {crc : Crc32fast} {fault : Fault} {task after : Task}
    (moved : Task.next crc (.serve fault) task = some after) :
    ∃ ticket rest served result, task.batch = ticket :: rest ∧ task.unsent = [] ∧ task.reply = none ∧
      Serving crc fault task.recordedAt task.writer ticket.request served ∧
      after = task.afterServing ticket rest served result ∧ returned result = served.result := by
  rw [Task.next] at moved
  split at moved
  next ticket rest batch unsent reply =>
    have served := serving crc fault task.recordedAt task.writer ticket.request
    dsimp only at moved
    split at moved
    next recorded answer =>
      exact ⟨ticket, rest, _, .ok recorded, batch, unsent, reply, served, (Option.some.inj moved).symm, answer.symm⟩
    next error answer =>
      exact ⟨ticket, rest, _, .error error, batch, unsent, reply, served, (Option.some.inj moved).symm, answer.symm⟩
    next => cases moved
  next => cases moved

def written (answer : Answer) : Option (List RecordedEvent) :=
  match answer.route, answer.result with
  | .cached, _ => none
  | _, .ok recorded => some recorded
  | _, .error _ => none

theorem written_of_failed {answer : Answer} (failed : ∀ recorded, answer.result ≠ .ok recorded) :
    written answer = none := by
  unfold written
  split
  · rfl
  · exact absurd ‹_› (failed _)
  · rfl

def answered (task : Task) : List Answer := task.answers ++ task.reply.toList

structure Unwritten (fault : Fault) (task after : Task) (answer : Answer) : Prop where
  nothing : written answer = none
  log : after.writer.store.log = task.writer.store.log
  store : fault = .none → after.writer.store = task.writer.store
  fewer : after.writer.dedup.cache.entries ⊆ task.writer.dedup.cache.entries
  known : ∀ recorded, answer.result = .ok recorded → ∃ first others,
    answer.ticket.request.events = first :: others ∧ (first.eventId, recorded) ∈ task.writer.dedup.cache.entries

structure Wrote (crc : Crc32fast) (task after : Task) (answer : Answer) (batch : Batch) (dedup : DedupIndex) :
    Prop where
  result : answer.result = .ok batch.events
  recorded : written answer = some batch.events
  accepts : Accepts task.writer.store.log (answer.ticket.request.call task.recordedAt) batch
  fits : task.writer.store.log.events.length + batch.events.length ≤ isizeMax
  fewer : dedup.cache.entries ⊆ task.writer.dedup.cache.entries
  writer : after.writer = ⟨Store.withBatch crc task.writer.store answer.ticket.request.streamId batch,
    dedup.record batch.events⟩

theorem next_serving {crc : Crc32fast} {fault : Fault} {task after : Task}
    (moved : Task.next crc (.serve fault) task = some after) :
    ∃ answer served, task.batch = answer.ticket :: after.batch ∧ after.inbox = task.inbox ∧
      answered task = task.answers ∧ answered after = answered task ++ [answer] ∧
      Serving crc fault task.recordedAt task.writer answer.ticket.request served ∧
      after.writer = served.writer ∧ answer.route = served.route ∧ returned answer.result = served.result := by
  obtain ⟨ticket, rest, served, result, batchEq, _, reply, how, afterEq, same⟩ := next_serve moved
  have before : answered task = task.answers := by rw [answered, reply, Option.toList_none, List.append_nil]
  refine ⟨⟨ticket, served.route, result⟩, served, ?_, ?_, before, ?_, how, ?_, rfl, same⟩
  · rw [batchEq, afterEq]
    rfl
  · rw [afterEq]
    rfl
  · rw [before, afterEq]
    rfl
  · rw [afterEq]
    rfl

theorem next_answered {crc : Crc32fast} {fault : Fault} {task after : Task}
    (moved : Task.next crc (.serve fault) task = some after) :
    ∃ answer, task.batch = answer.ticket :: after.batch ∧ after.inbox = task.inbox ∧
      answered task = task.answers ∧ answered after = answered task ++ [answer] ∧
      (Unwritten fault task after answer ∨ ∃ batch dedup, Wrote crc task after answer batch dedup) := by
  obtain ⟨answer, served, batchEq, inbox, before, answers, how, writer, route, same⟩ := next_serving moved
  refine ⟨answer, batchEq, inbox, before, answers, ?_⟩
  have failure : ∀ error, served.result = .err error → ∀ recorded, answer.result ≠ .ok recorded := by
    intro error failed recorded isOk
    rw [failed, returned_eq_err, isOk] at same
    cases same
  cases how.serves with
  | invalid error =>
    have failed := failure error rfl
    exact .inl ⟨written_of_failed failed, by rw [writer], fun _ => by rw [writer],
      by rw [writer]; exact List.Subset.refl _, fun recorded isOk => absurd isOk (failed recorded)⟩
  | cached first others recorded dedup events known fewer =>
    rw [returned_eq_ok] at same
    refine .inl ⟨by rw [written, route], by rw [writer], fun _ => by rw [writer], by rw [writer]; exact fewer, ?_⟩
    intro other isOk
    rw [← Except.ok.inj (same.symm.trans isOk)]
    exact ⟨first, others, events, known⟩
  | failed error store dedup fewer sameLog sameStore =>
    have failed := failure error rfl
    exact .inl ⟨written_of_failed failed, by rw [writer]; exact sameLog, by rw [writer]; exact sameStore,
      by rw [writer]; exact fewer, fun recorded isOk => absurd isOk (failed recorded)⟩
  | appended batch dedup fewer accepts fits =>
    rw [returned_eq_ok] at same
    exact .inr ⟨batch, dedup, same, by rw [written, route, same], accepts, fits, fewer, writer⟩
  | panicked after => exact absurd rfl (ne_panic_of_returned same)

theorem queued_subset {task after : Task} {ticket : Ticket} (batch : task.batch = ticket :: after.batch)
    (inbox : after.inbox = task.inbox) : after.inbox ++ after.batch ⊆ task.inbox ++ task.batch := by
  rw [batch, inbox]
  exact List.append_subset.mpr ⟨List.subset_append_left _ _,
    fun _ member => List.mem_append_right _ (List.mem_cons_of_mem _ member)⟩

theorem next_quiet {crc : Crc32fast} {step : Task.Step} {task after : Task}
    (moved : Task.next crc step task = some after) (quiet : ∀ fault, step ≠ .serve fault) :
    after.writer = task.writer ∧ answered after = answered task ∧
      ∀ ticket ∈ after.inbox ++ after.batch, ticket ∈ task.inbox ++ task.batch ∨
        ∃ request, step = .submit request ∧ ticket = ⟨task.submitted, request⟩ := by
  cases step with
  | submit request =>
    cases moved
    refine ⟨rfl, rfl, ?_⟩
    intro ticket member
    rw [List.append_assoc, List.singleton_append] at member
    rcases List.mem_append.mp member with waiting | later
    · exact .inl (List.mem_append_left _ waiting)
    · rcases List.mem_cons.mp later with new | drained
      · exact .inr ⟨request, rfl, new⟩
      · exact .inl (List.mem_append_right _ drained)
  | drain count recordedAt =>
    rw [Task.next] at moved
    split_ifs at moved
    cases moved
    refine ⟨rfl, rfl, ?_⟩
    intro ticket member
    refine .inl (List.mem_append_left _ ?_)
    rcases List.mem_append.mp member with waiting | drained
    · exact List.mem_of_mem_drop waiting
    · exact List.mem_of_mem_take drained
  | serve fault => exact absurd rfl (quiet fault)
  | publish =>
    rw [Task.next] at moved
    split at moved
    next => cases moved
    next =>
      cases moved
      exact ⟨rfl, rfl, fun _ member => .inl member⟩
  | respond =>
    rw [Task.next] at moved
    split at moved
    next unsent reply =>
      cases moved
      refine ⟨rfl, ?_, fun _ member => .inl member⟩
      rw [answered, answered, reply, Option.toList_none, List.append_nil, Option.toList_some]
    next => cases moved

/-- What a subscriber can see of one step: nothing, a whole batch in the index at once, or one
message. -/
theorem next_effect {crc : Crc32fast} {step : Task.Step} {task after : Task}
    (moved : Task.next crc step task = some after) :
    (after.writer.store.log = task.writer.store.log ∧ after.unsent = task.unsent ∧ Task.sends step task = []) ∨
    (∃ call batch, Accepts task.writer.store.log call batch ∧
      task.writer.store.log.events.length + batch.events.length ≤ isizeMax ∧ task.unsent = [] ∧
      after.writer.store.log = extended task.writer.store.log call.streamId batch.events ∧
      after.unsent = batch.events ∧ Task.sends step task = []) ∨
    (∃ event, after.writer.store.log = task.writer.store.log ∧ task.unsent = event :: after.unsent ∧
      Task.sends step task = [event]) := by
  cases step with
  | submit request =>
    cases moved
    exact .inl ⟨rfl, rfl, rfl⟩
  | drain count recordedAt =>
    rw [Task.next] at moved
    split_ifs at moved
    cases moved
    exact .inl ⟨rfl, rfl, rfl⟩
  | serve fault =>
    obtain ⟨ticket, rest, served, result, _, unsent, _, how, afterEq, same⟩ := next_serve moved
    rw [afterEq, unsent]
    cases how.serves with
    | invalid error => exact .inl ⟨rfl, rfl, rfl⟩
    | cached first rest recorded dedup events known fewer => exact .inl ⟨rfl, rfl, rfl⟩
    | failed error store dedup fewer sameLog sameStore => exact .inl ⟨sameLog, rfl, rfl⟩
    | appended batch dedup fewer accepts fits =>
      exact .inr (.inl ⟨_, batch, accepts, fits, rfl, rfl, rfl, rfl⟩)
    | panicked after => exact absurd rfl (ne_panic_of_returned same)
  | publish =>
    rw [Task.next] at moved
    split at moved
    next => cases moved
    next event unsent here =>
      cases moved
      exact .inr (.inr ⟨event, rfl, here, by rw [Task.sends, here]; rfl⟩)
  | respond =>
    rw [Task.next] at moved
    split at moved
    next unsent reply =>
      cases moved
      exact .inl ⟨rfl, rfl, rfl⟩
    next => cases moved

theorem next_wellFormed {crc : Crc32fast} {step : Task.Step} {task after : Task}
    (moved : Task.next crc step task = some after) (wellFormed : LogInvariant.WellFormed task.writer.store.log) :
    LogInvariant.WellFormed after.writer.store.log := by
  rcases next_effect moved with ⟨same, _, _⟩ | ⟨call, batch, accepts, fits, _, logEq, _, _⟩ | ⟨event, same, _, _⟩
  · rw [same]
    exact wellFormed
  · rw [logEq]
    exact (LogInvariant.Accepts.continues wellFormed accepts fits).wellFormed wellFormed fits
  · rw [same]
    exact wellFormed

/-- The log only grows, and what is behind the published part is what is still to be sent. -/
theorem next_grows {crc : Crc32fast} {step : Task.Step} {task after : Task}
    (moved : Task.next crc step task = some after) :
    (∃ more, after.writer.store.log.events = task.writer.store.log.events ++ more) ∧
      ∀ settled, task.writer.store.log.events = settled ++ task.unsent →
        after.writer.store.log.events = settled ++ Task.sends step task ++ after.unsent := by
  rcases next_effect moved with ⟨same, unsent, sends⟩ | ⟨call, batch, _, _, idle, logEq, unsent, sends⟩ |
    ⟨event, same, unsent, sends⟩
  · rw [same, unsent, sends]
    refine ⟨⟨[], (List.append_nil _).symm⟩, ?_⟩
    intro settled split
    rw [List.append_nil]
    exact split
  · rw [logEq, unsent, sends, idle]
    refine ⟨⟨batch.events, rfl⟩, ?_⟩
    intro settled split
    rw [List.append_nil] at split ⊢
    rw [extended, split]
  · rw [same, unsent, sends]
    refine ⟨⟨[], (List.append_nil _).symm⟩, ?_⟩
    intro settled split
    rw [split, List.append_assoc, List.singleton_append]

/-! ### From a request to its answer -/

def idle (writer : Writer) (answers : List Answer) (submitted : Nat) (recordedAt : UInt64) : Task :=
  { Task.start writer with answers, submitted, recordedAt }

section
variable {crc : Crc32fast} {allowed : Task → Task.Step → Prop}

/-- The steps of a run in which one client sends one request and nothing fails. -/
def Calm (request : AppendRequest) : Task.Step → Prop
  | .submit other => other = request
  | .serve fault => fault = .none
  | _ => True

section
variable {request : AppendRequest} {step : Task.Step} (calm : Calm request step) (task : Task)
include calm

theorem Calm.filled (present : request.events ≠ []) : task.Filled step := by
  cases step with
  | submit other =>
    cases calm
    exact present
  | drain | serve | publish | respond => trivial

theorem Calm.counted (small : request.events.length < 2 ^ 32) : task.Counted step := by
  cases step with
  | submit other =>
    cases calm
    exact small
  | drain | serve | publish | respond => trivial

theorem Calm.faultless : task.Faultless step := by
  cases step with
  | serve fault => exact calm
  | submit | drain | publish | respond => trivial

end

theorem reaches_published (task : Task) (publishes : List RecordedEvent)
    (permitted : ∀ unsent, allowed { task with unsent } .publish) :
    Reaches (Task.next crc) allowed { task with unsent := publishes } { task with unsent := [] } := by
  induction publishes with
  | nil => exact .refl
  | cons event publishes ih => exact .head ⟨.publish, permitted _, rfl⟩ ih

def drained (writer : Writer) (answers : List Answer) (submitted : Nat) (recordedAt : UInt64) (request : AppendRequest) :
    Task :=
  { idle writer answers (submitted + 1) recordedAt with batch := [⟨submitted, request⟩] }

def servedTask (writer : Writer) (answers : List Answer) (submitted : Nat) (recordedAt : UInt64) (answer : Answer)
    (unsent : List RecordedEvent) : Task :=
  { idle writer answers submitted recordedAt with unsent, reply := some answer }

theorem reaches_drained {writer : Writer} {answers : List Answer} {submitted : Nat} {stamp recordedAt : UInt64}
    {request : AppendRequest}
    (permitted : ∀ task step, Calm request step → task.answers = answers → task.batch = [] → allowed task step) :
    Reaches (Task.next crc) allowed (idle writer answers submitted stamp)
      (drained writer answers submitted recordedAt request) := by
  have submits : Reaches (Task.next crc) allowed (idle writer answers submitted stamp)
      { idle writer answers (submitted + 1) stamp with inbox := [⟨submitted, request⟩] } :=
    .single ⟨.submit request, permitted _ _ rfl rfl rfl, rfl⟩
  have drains : Task.next crc (.drain 1 recordedAt)
      { idle writer answers (submitted + 1) stamp with inbox := [⟨submitted, request⟩] } =
      some (drained writer answers submitted recordedAt request) := by
    rw [Task.next, if_pos ⟨rfl, rfl, rfl, Nat.one_pos, Nat.le_refl 1⟩]
    rfl
  exact submits.tail ⟨.drain 1 recordedAt, permitted _ _ trivial rfl rfl, drains⟩

theorem next_drained {writer after : Writer} {answers : List Answer} {submitted : Nat} {recordedAt : UInt64}
    {request : AppendRequest} {route : Route} {recorded publishes : List RecordedEvent}
    (served : writer.serve crc .none recordedAt request = ⟨.ok recorded, route, after, publishes⟩) :
    Task.next crc (.serve .none) (drained writer answers submitted recordedAt request) =
      some (servedTask after answers (submitted + 1) recordedAt ⟨⟨submitted, request⟩, route, .ok recorded⟩ publishes) := by
  rw [Task.next]
  dsimp only [drained, idle, Task.start]
  rw [served]
  rfl

theorem reaches_responded {writer : Writer} {answers : List Answer} {submitted : Nat} {recordedAt : UInt64}
    {answer : Answer} {unsent : List RecordedEvent}
    (permitted : ∀ task step, step = .publish ∨ step = .respond → task.answers = answers → task.batch = [] →
      task.writer = writer → allowed task step) :
    Reaches (Task.next crc) allowed (servedTask writer answers submitted recordedAt answer unsent)
      (idle writer (answers ++ [answer]) submitted recordedAt) := by
  have published : Reaches (Task.next crc) allowed (servedTask writer answers submitted recordedAt answer unsent)
      (servedTask writer answers submitted recordedAt answer []) :=
    reaches_published (servedTask writer answers submitted recordedAt answer []) unsent
      (fun _ => permitted _ _ (.inl rfl) rfl rfl rfl)
  exact published.tail ⟨.respond, permitted _ _ (.inr rfl) rfl rfl rfl, rfl⟩

theorem reaches_answer {writer after : Writer} {answers : List Answer} {submitted : Nat} {stamp recordedAt : UInt64}
    {request : AppendRequest} {route : Route} {recorded publishes : List RecordedEvent}
    (permitted : ∀ task step, Calm request step → task.answers = answers →
      (∀ ticket ∈ task.batch, ticket.request = request) → allowed task step)
    (served : writer.serve crc .none recordedAt request = ⟨.ok recorded, route, after, publishes⟩) :
    Reaches (Task.next crc) allowed (idle writer answers submitted stamp)
      (idle after (answers ++ [⟨⟨submitted, request⟩, route, .ok recorded⟩]) (submitted + 1) recordedAt) := by
  have nobody : ∀ task : Task, task.batch = [] → ∀ ticket ∈ task.batch, ticket.request = request := by
    intro task empty ticket member
    rw [empty] at member
    exact absurd member List.not_mem_nil
  have alone : ∀ ticket ∈ (drained writer answers submitted recordedAt request).batch, ticket.request = request := by
    intro ticket member
    rw [List.mem_singleton.mp member]
  have before : Reaches (Task.next crc) allowed (idle writer answers submitted stamp)
      (drained writer answers submitted recordedAt request) :=
    reaches_drained (fun task step calm sameAnswers empty => permitted task step calm sameAnswers (nobody task empty))
  have behind : Reaches (Task.next crc) allowed
      (servedTask after answers (submitted + 1) recordedAt ⟨⟨submitted, request⟩, route, .ok recorded⟩ publishes)
      (idle after (answers ++ [⟨⟨submitted, request⟩, route, .ok recorded⟩]) (submitted + 1) recordedAt) := by
    apply reaches_responded
    intro task step last sameAnswers empty _
    apply permitted task step _ sameAnswers (nobody task empty)
    rcases last with isPublish | isRespond
    · rw [isPublish]
      trivial
    · rw [isRespond]
      trivial
  exact (before.tail ⟨.serve .none, permitted _ _ rfl rfl alone, next_drained served⟩).trans behind

end

/-! ### One request on a fresh log -/

def plainRequest (stream : Nat) (expectedVersion : ExpectedVersion) (ids : List Nat) : AppendRequest where
  streamId := idOf stream
  expectedVersion := expectedVersion
  events := ids.map plainEvent

def freshWriter : Writer := Writer.spawn Store.create 4

def firstWriter (crc : Crc32fast) : Writer where
  store := Store.withBatch crc Store.create (idOf 0) firstBatch
  dedup := freshWriter.dedup.record firstBatch.events

theorem duplicateId_eq_none {seen : List Uuid} {events : List ProposedEvent} :
    duplicateId seen events = none ↔ (events.map (·.eventId)).Nodup ∧ ∀ event ∈ events, event.eventId ∉ seen := by
  induction events generalizing seen with
  | nil => simp [duplicateId]
  | cons event events ih =>
    rw [duplicateId, List.map_cons, List.nodup_cons, List.forall_mem_cons]
    split_ifs with before
    · simp [before]
    · rw [ih]
      constructor
      · rintro ⟨distinct, apart⟩
        refine ⟨⟨?_, distinct⟩, before, ?_⟩
        · intro again
          obtain ⟨other, later, same⟩ := List.mem_map.mp again
          exact apart other later (by rw [same]; exact List.mem_cons_self ..)
        · exact fun other later inSeen => apart other later (List.mem_cons_of_mem _ inSeen)
      · rintro ⟨⟨new, distinct⟩, -, apart⟩
        refine ⟨distinct, ?_⟩
        intro other later inSeen
        rcases List.mem_cons.mp inSeen with isFirst | earlier
        · exact new (List.mem_map.mpr ⟨other, later, isFirst⟩)
        · exact apart other later earlier

theorem duplicateId_nil {events : List ProposedEvent} :
    duplicateId [] events = none ↔ (events.map (·.eventId)).Nodup := by
  rw [duplicateId_eq_none]
  exact and_iff_left fun _ _ => List.not_mem_nil

theorem validateBatchUniqueIds_eq_ok {events : List ProposedEvent} :
    validateBatchUniqueIds events = .ok () ↔ (events.map (·.eventId)).Nodup := by
  rw [validateBatchUniqueIds]
  split_ifs with short
  · refine iff_of_true rfl ?_
    cases events with
    | nil => exact List.nodup_nil
    | cons event events =>
      rw [List.length_cons] at short
      rw [List.eq_nil_of_length_eq_zero (show events.length = 0 by omega)]
      exact List.nodup_singleton _
  · rw [← duplicateId_nil]
    cases duplicateId [] events <;> simp

theorem serve_accepted (crc : Crc32fast) {writer : Writer} {request : AppendRequest} {recordedAt : UInt64}
    {batch : Batch} (unique : validateBatchUniqueIds request.events = .ok ())
    (unknown : writer.dedup.check request.events = (none, writer.dedup))
    (accepts : Accepts writer.store.log (request.call recordedAt) batch)
    (fits : writer.store.log.events.length + batch.events.length ≤ isizeMax) :
    writer.serve crc .none recordedAt request =
      ⟨.ok batch.events, .appended,
        ⟨Store.withBatch crc writer.store request.streamId batch, writer.dedup.record batch.events⟩, batch.events⟩ := by
  have called := runCall_accepts crc writer.store _ batch accepts fits
  rw [Writer.serve, unique]
  dsimp only
  rw [unknown]
  dsimp only
  rw [called]
  rfl

/-- A request whose first id is known is answered from the dedup index, whatever it expects and
whatever the disk would do. -/
theorem serve_cached (crc : Crc32fast) (fault : Fault) (recordedAt : UInt64) {writer : Writer} {request : AppendRequest}
    {recorded : List RecordedEvent} (unique : validateBatchUniqueIds request.events = .ok ())
    (hit : (writer.dedup.check request.events).1 = some recorded) :
    writer.serve crc fault recordedAt request =
      ⟨.ok recorded, .cached, { writer with dedup := (writer.dedup.check request.events).2 }, []⟩ := by
  have checked : writer.dedup.check request.events = (some recorded, (writer.dedup.check request.events).2) :=
    Prod.ext hit rfl
  rw [Writer.serve, unique]
  dsimp only
  rw [checked]

theorem serve_first (crc : Crc32fast) :
    freshWriter.serve crc .none 0 (plainRequest 0 .any [1]) =
      ⟨.ok firstBatch.events, .appended, firstWriter crc, firstBatch.events⟩ :=
  serve_accepted crc rfl rfl firstBatch_accepted (by decide)

def firstTask (crc : Crc32fast) : Task :=
  { Task.start (firstWriter crc) with
    unsent := firstBatch.events
    reply := some { ticket := ⟨0, plainRequest 0 .any [1]⟩, route := .appended, result := .ok firstBatch.events }
    submitted := 1 }

theorem next_first (crc : Crc32fast) (task : Task) (writer : task.writer = freshWriter)
    (batch : task.batch = [⟨0, plainRequest 0 .any [1]⟩]) (stamp : task.recordedAt = 0) (unsent : task.unsent = [])
    (reply : task.reply = none) :
    Task.next crc (.serve .none) task =
      some { task with
        writer := firstWriter crc
        batch := []
        unsent := firstBatch.events
        reply := some { ticket := ⟨0, plainRequest 0 .any [1]⟩, route := .appended, result := .ok firstBatch.events } } := by
  have served : task.writer.serve crc .none task.recordedAt (plainRequest 0 .any [1]) =
      ⟨.ok firstBatch.events, .appended, firstWriter crc, firstBatch.events⟩ := by
    rw [writer, stamp, serve_first]
  rw [Task.next, batch, unsent, reply]
  dsimp only
  rw [served]
  rfl

end EventfoldDb.WriterSpec
