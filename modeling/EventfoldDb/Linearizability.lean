import EventfoldDb.EventStore
import EventfoldDb.WriterHandle
import EventfoldDb.Lib.Linearizable

/-! Appends through the writer handle and reads through the read index, by any number of clients at the
same time. An append takes effect when the writer task serves it, a read when it holds the lock. -/

namespace EventfoldDb
open Outcome Linearizable

inductive CallId where
  | append (index : Nat)
  | read (index : Nat)

inductive ReadPhase where
  | waiting
  /-- The lock is released, and the caller has not got the reply yet. -/
  | done (reply : Reply)
  | returned (reply : Reply)

structure ReadCall where
  query : Query
  phase : ReadPhase

/-- The handles with the writer task, and the readers. The last field only records what the clients
have done and seen. -/
structure Clients where
  system : WriterSystem
  reads : List ReadCall
  history : List (Event CallId Operation Reply)

namespace Clients

def log (clients : Clients) : EventLog := clients.system.task.writer.store.log

def start (system : WriterSystem) : Clients := ⟨system, [], []⟩

inductive Step where
  | system (step : WriterSystem.Step)
  | query (query : Query)
  /-- With the order in which the hash map hands out its entries. -/
  | read (index : Nat) (iteration : List (Uuid × List UInt64))
  | finish (index : Nat)

def seen (system : WriterSystem) (index : Nat) : List (Event CallId Operation Reply) :=
  match system.calls[index]? with
  | some ⟨_, _, .returned result⟩ => [.respond (.append index) (.appended result)]
  | _ => []

def observed (system after : WriterSystem) : WriterSystem.Step → List (Event CallId Operation Reply)
  | .append request => [.invoke (.append system.calls.length) (.append request)]
  | .send index => seen after index
  | .response index => seen after index
  | _ => []

def next (crc : Crc32fast) : Step → Clients → Option Clients
  | .system step, clients =>
      (WriterSystem.next crc step clients.system).map fun system =>
        { clients with system, history := clients.history ++ observed clients.system system step }
  | .query query, clients =>
      some { clients with
        reads := clients.reads ++ [⟨query, .waiting⟩]
        history := clients.history ++ [.invoke (.read clients.reads.length) (.query query)] }
  | .read index iteration, clients =>
      match clients.reads[index]? with
      | some ⟨query, .waiting⟩ =>
          (query.answer clients.log iteration).map fun reply =>
            { clients with reads := clients.reads.set index ⟨query, .done reply⟩ }
      | _ => none
  | .finish index, clients =>
      match clients.reads[index]? with
      | some ⟨query, .done reply⟩ =>
          some { clients with
            reads := clients.reads.set index ⟨query, .returned reply⟩
            history := clients.history ++ [.respond (.read index) reply] }
      | _ => none

/-- The service lets no empty append through, and an iteration goes over the entries of the map. -/
def Permitted (clients : Clients) : Step → Prop
  | .system (.append request) => request.events ≠ []
  | .read _ iteration => Iterates clients.log.streams iteration
  | _ => True

end Clients

/-- A caller that is told that the task is gone does not know whether its append has taken effect. -/
def Reply.Tells (reply : Reply) : Prop := reply ≠ .appended (.error writerTaskClosed)

namespace Linearizability
open Recovery AppendSpec LogInvariant DiskInvariant WriterSpec Acknowledgement AnswerSegments EventStore WriterHandle
  Clients Machine

/-- The order of the calls that have taken effect, and how the calls stand with it. -/
structure Ordered (recovered : List RecordedEvent) (clients : Clients) (order : List (Entry CallId Operation Reply)) :
    Prop where
  linearizes : Linearizes Does Reply.Tells (EventStore.start recovered) clients.history order
    ⟨clients.log.events, Acknowledgement.history recovered (answered clients.system.task)⟩
  proper : Proper clients.history
  appends : ∀ index op, .invoke (.append index) op ∈ clients.history ↔
    ∃ call, clients.system.calls[index]? = some call ∧ op = .append call.request
  queries : ∀ index op, .invoke (.read index) op ∈ clients.history ↔
    ∃ call, clients.reads[index]? = some call ∧ op = .query call.query
  /-- An append is in the order exactly if it has an answer. -/
  committed : ∀ entry ∈ order, ∀ index, entry.id = .append index → ∃ call answer,
    clients.system.calls[index]? = some call ∧ answer ∈ answered clients.system.task ∧
      call.number = some answer.ticket.number
  served : ∀ index call, clients.system.calls[index]? = some call → ∀ answer ∈ answered clients.system.task,
    call.number = some answer.ticket.number → ⟨.append index, .append call.request, .appended answer.result⟩ ∈ order
  /-- A read is in the order exactly if it has been made. -/
  made : ∀ entry ∈ order, ∀ index, entry.id = .read index →
    ∃ call, clients.reads[index]? = some call ∧ call.phase ≠ .waiting
  done : ∀ index query reply, clients.reads[index]? = some ⟨query, .done reply⟩ →
    ⟨.read index, .query query, reply⟩ ∈ order
  answeredAppends : ∀ index reply, .respond (.append index) reply ∈ clients.history →
    ∃ call result, clients.system.calls[index]? = some call ∧ call.phase = .returned result
  answeredReads : ∀ index reply, .respond (.read index) reply ∈ clients.history →
    ∃ query result, clients.reads[index]? = some ⟨query, .returned result⟩

section
variable {recovered : List RecordedEvent} {clients : Clients} {order : List (Entry CallId Operation Reply)}

/-! ### Reads -/

theorem set_self {α : Type} {items : List α} {index : Nat} {item : α} (here : items[index]? = some item) (other : α) :
    (items.set index other)[index]? = some other := by
  obtain ⟨inside, _⟩ := List.getElem?_eq_some_iff.mp here
  exact List.getElem?_set_self inside

theorem queries_set {index : Nat} {query : Query} {phase : ReadPhase}
    (here : clients.reads[index]? = some ⟨query, phase⟩)
    (other : ReadPhase) (place : Nat) (op : Operation) :
    (∃ call, clients.reads[place]? = some call ∧ op = .query call.query) ↔
      ∃ call, (clients.reads.set index ⟨query, other⟩)[place]? = some call ∧ op = .query call.query := by
  by_cases same : index = place
  · rw [← same, here, set_self here]
    simp
  · rw [List.getElem?_set_ne same]

theorem Ordered.query (ordered : Ordered recovered clients order) (query : Query) :
    Ordered recovered { clients with
      reads := clients.reads ++ [⟨query, .waiting⟩]
      history := clients.history ++ [.invoke (.read clients.reads.length) (.query query)] } order := by
  have fresh : ∀ op, .invoke (.read clients.reads.length) op ∉ clients.history := by
    intro op member
    obtain ⟨call, here, _⟩ := (ordered.queries _ op).mp member
    exact absurd (List.getElem?_eq_some_iff.mp here).1 (Nat.lt_irrefl _)
  have old : ∀ {place : Nat} {call : ReadCall}, clients.reads[place]? = some call →
      (clients.reads ++ [⟨query, .waiting⟩])[place]? = some call := by
    intro place call here
    rw [List.getElem?_append_left (List.getElem?_eq_some_iff.mp here).1]
    exact here
  constructor
  case linearizes => exact ordered.linearizes.invoke fresh _
  case proper => exact ordered.proper.invoke fresh _
  case appends =>
    intro index op
    rw [← ordered.appends index op, List.mem_append, List.mem_singleton]
    simp
  case queries =>
    intro index op
    rw [List.mem_append, ordered.queries index op, List.mem_singleton]
    constructor
    · rintro (⟨call, here, same⟩ | new)
      · exact ⟨call, old here, same⟩
      · cases new
        exact ⟨_, List.getElem?_concat_length, rfl⟩
    · rintro ⟨call, here, same⟩
      by_cases inside : index < clients.reads.length
      · rw [List.getElem?_append_left inside] at here
        exact .inl ⟨call, here, same⟩
      · right
        rw [List.getElem?_append_right (Nat.le_of_not_lt inside), List.getElem?_singleton] at here
        split_ifs at here with last
        cases here
        have isLast : index = clients.reads.length := by omega
        rw [isLast, same]
  case committed => exact ordered.committed
  case served => exact ordered.served
  case made =>
    intro entry member index same
    obtain ⟨call, here, notWaiting⟩ := ordered.made entry member index same
    exact ⟨call, old here, notWaiting⟩
  case done =>
    intro index other reply here
    by_cases inside : index < clients.reads.length
    · rw [List.getElem?_append_left inside] at here
      exact ordered.done index other reply here
    · rw [List.getElem?_append_right (Nat.le_of_not_lt inside), List.getElem?_singleton] at here
      split_ifs at here
      cases here
  case answeredAppends =>
    intro index reply member
    rcases List.mem_append.mp member with earlier | last
    · exact ordered.answeredAppends index reply earlier
    · cases List.mem_singleton.mp last
  case answeredReads =>
    intro index reply member
    rcases List.mem_append.mp member with earlier | last
    · obtain ⟨other, result, here⟩ := ordered.answeredReads index reply earlier
      exact ⟨other, result, old here⟩
    · cases List.mem_singleton.mp last

theorem Ordered.read (ordered : Ordered recovered clients order) (wellFormed : WellFormed clients.log)
    (canonical : Canonical clients.log) {iteration : List (Uuid × List UInt64)}
    (iterates : Iterates clients.log.streams iteration) {index : Nat} {query : Query} {reply : Reply}
    (here : clients.reads[index]? = some ⟨query, .waiting⟩) (answer : query.answer clients.log iteration = some reply) :
    Ordered recovered { clients with reads := clients.reads.set index ⟨query, .done reply⟩ }
      (order ++ [⟨.read index, .query query, reply⟩]) := by
  have called : .invoke (.read index) (.query query) ∈ clients.history := (ordered.queries _ _).mpr ⟨_, here, rfl⟩
  have unanswered : ∀ other, .respond (.read index) other ∉ clients.history := by
    intro other member
    obtain ⟨_, _, there⟩ := ordered.answeredReads index other member
    rw [here] at there
    cases there
  have new : ∀ other ∈ order, other.id ≠ .read index := by
    intro other member same
    obtain ⟨call, there, notWaiting⟩ := ordered.made other member index same
    rw [here] at there
    cases there
    exact notWaiting rfl
  have step : Does ⟨clients.log.events, Acknowledgement.history recovered (answered clients.system.task)⟩ (.query query)
      reply ⟨clients.log.events, Acknowledgement.history recovered (answered clients.system.task)⟩ := by
    rw [answer_eq wellFormed canonical iterates (Acknowledgement.history recovered (answered clients.system.task))] at answer
    rw [← Option.some.inj answer]
    exact .query query
  constructor
  case linearizes => exact ordered.linearizes.commit called unanswered new step
  case proper => exact ordered.proper
  case appends => exact ordered.appends
  case queries => exact fun place op => (ordered.queries place op).trans (queries_set here _ place op)
  case committed =>
    intro entry member place same
    rcases List.mem_append.mp member with earlier | last
    · exact ordered.committed entry earlier place same
    · rw [List.mem_singleton.mp last] at same
      cases same
  case served =>
    intro place call there other answered number
    exact List.mem_append_left _ (ordered.served place call there other answered number)
  case made =>
    intro entry member place same
    by_cases isIndex : index = place
    · rw [← isIndex]
      exact ⟨_, set_self here _, by simp⟩
    · rw [List.getElem?_set_ne isIndex]
      rcases List.mem_append.mp member with earlier | last
      · exact ordered.made entry earlier place same
      · rw [List.mem_singleton.mp last] at same
        exact absurd (CallId.read.inj same) isIndex
  case done =>
    intro place other result there
    by_cases isIndex : index = place
    · rw [← isIndex, set_self here] at there
      cases there
      rw [isIndex]
      exact List.mem_append_right _ (List.mem_singleton_self _)
    · rw [List.getElem?_set_ne isIndex] at there
      exact List.mem_append_left _ (ordered.done place other result there)
  case answeredAppends => exact ordered.answeredAppends
  case answeredReads =>
    intro place result member
    obtain ⟨other, result', there⟩ := ordered.answeredReads place result member
    have different : index ≠ place := by
      intro same
      rw [← same, here] at there
      cases there
    exact ⟨other, result', by rw [List.getElem?_set_ne different]; exact there⟩

theorem Ordered.finish (ordered : Ordered recovered clients order) {index : Nat} {query : Query} {reply : Reply}
    (here : clients.reads[index]? = some ⟨query, .done reply⟩) :
    Ordered recovered { clients with
      reads := clients.reads.set index ⟨query, .returned reply⟩
      history := clients.history ++ [.respond (.read index) reply] } order := by
  have called : .invoke (.read index) (.query query) ∈ clients.history := (ordered.queries _ _).mpr ⟨_, here, rfl⟩
  have unanswered : ∀ other, .respond (.read index) other ∉ clients.history := by
    intro other member
    obtain ⟨_, _, there⟩ := ordered.answeredReads index other member
    rw [here] at there
    cases there
  constructor
  case linearizes => exact ordered.linearizes.respond fun _ => ⟨_, ordered.done index query reply here, rfl, rfl⟩
  case proper => exact ordered.proper.respond called unanswered reply
  case appends =>
    intro place op
    rw [← ordered.appends place op, List.mem_append, List.mem_singleton]
    simp
  case queries =>
    intro place op
    rw [← queries_set here (.returned reply) place op, ← ordered.queries place op, List.mem_append, List.mem_singleton]
    simp
  case committed => exact ordered.committed
  case served => exact ordered.served
  case made =>
    intro entry member place same
    by_cases isIndex : index = place
    · rw [← isIndex]
      exact ⟨_, set_self here _, by simp⟩
    · rw [List.getElem?_set_ne isIndex]
      exact ordered.made entry member place same
  case done =>
    intro place other result there
    by_cases isIndex : index = place
    · rw [← isIndex, set_self here] at there
      cases there
    · rw [List.getElem?_set_ne isIndex] at there
      exact ordered.done place other result there
  case answeredAppends =>
    intro place result member
    rcases List.mem_append.mp member with earlier | last
    · exact ordered.answeredAppends place result earlier
    · cases List.mem_singleton.mp last
  case answeredReads =>
    intro place result member
    by_cases isIndex : index = place
    · rw [← isIndex]
      exact ⟨query, reply, set_self here _⟩
    · rw [List.getElem?_set_ne isIndex]
      rcases List.mem_append.mp member with earlier | last
      · exact ordered.answeredReads place result earlier
      · cases List.mem_singleton.mp last
        exact absurd rfl isIndex

/-! ### Appends -/

structure Similar (answers : List Answer) (calls later : List Call) : Prop where
  length : later.length = calls.length
  each : ∀ (index : Nat) (call after : Call), calls[index]? = some call → later[index]? = some after →
    after.request = call.request ∧ (∀ number, call.number = some number → after.number = some number) ∧
      (∀ answer ∈ answers, after.number = some answer.ticket.number → call.number = some answer.ticket.number) ∧
      ∀ result, call.phase = .returned result → after.phase = .returned result

theorem similar_refl (answers : List Answer) (calls : List Call) : Similar answers calls calls where
  length := rfl
  each := by
    intro index call after here there
    rw [here] at there
    cases there
    exact ⟨rfl, fun _ same => same, fun _ _ same => same, fun _ same => same⟩

theorem similar_of_replaced {answers : List Answer} {calls later : List Call} {index : Nat} {call other : Call}
    (replaced : Replaced calls index call other later) (request : other.request = call.request)
    (number : ∀ number, call.number = some number → other.number = some number)
    (unanswered : ∀ answer ∈ answers, other.number = some answer.ticket.number →
      call.number = some answer.ticket.number)
    (pending : call.phase.pending = true) : Similar answers calls later where
  length := by rw [replaced.set, List.length_set]
  each := by
    intro place first second here there
    rw [replaced.set] at there
    by_cases same : index = place
    · rw [← same, replaced.here] at here
      rw [← same, set_self replaced.here] at there
      cases here
      cases there
      refine ⟨request, number, unanswered, ?_⟩
      intro result isReturned
      rw [isReturned] at pending
      cases pending
    · rw [List.getElem?_set_ne same, here] at there
      cases there
      exact ⟨rfl, fun _ known => known, fun _ _ known => known, fun _ known => known⟩

theorem Similar.forth {answers : List Answer} {calls later : List Call} (similar : Similar answers calls later)
    {index : Nat} {call : Call} (here : calls[index]? = some call) : ∃ after, later[index]? = some after := by
  have inside := (List.getElem?_eq_some_iff.mp here).1
  rw [← similar.length] at inside
  exact ⟨_, List.getElem?_eq_getElem inside⟩

theorem Similar.back {answers : List Answer} {calls later : List Call} (similar : Similar answers calls later)
    {index : Nat} {after : Call} (there : later[index]? = some after) : ∃ call, calls[index]? = some call := by
  have inside := (List.getElem?_eq_some_iff.mp there).1
  rw [similar.length] at inside
  exact ⟨_, List.getElem?_eq_getElem inside⟩

theorem Ordered.frame (ordered : Ordered recovered clients order) {system : WriterSystem}
    (similar : Similar (answered clients.system.task) clients.system.calls system.calls)
    (answers : answered system.task = answered clients.system.task)
    (log : system.task.writer.store.log = clients.log) : Ordered recovered { clients with system } order := by
  constructor
  case linearizes =>
    show Linearizes Does Reply.Tells _ clients.history order ⟨system.task.writer.store.log.events, _⟩
    rw [log]
    show Linearizes Does Reply.Tells _ clients.history order ⟨_, Acknowledgement.history recovered (answered system.task)⟩
    rw [answers]
    exact ordered.linearizes
  case proper => exact ordered.proper
  case appends =>
    intro index op
    rw [ordered.appends index op]
    constructor
    · rintro ⟨call, here, same⟩
      obtain ⟨after, there⟩ := similar.forth here
      exact ⟨after, there, by rw [(similar.each index call after here there).1]; exact same⟩
    · rintro ⟨after, there, same⟩
      obtain ⟨call, here⟩ := similar.back there
      exact ⟨call, here, by rw [← (similar.each index call after here there).1]; exact same⟩
  case queries => exact ordered.queries
  case committed =>
    intro entry member index same
    obtain ⟨call, answer, here, known, number⟩ := ordered.committed entry member index same
    obtain ⟨after, there⟩ := similar.forth here
    exact ⟨after, answer, there, by rw [answers]; exact known, (similar.each index call after here there).2.1 _ number⟩
  case served =>
    intro index after there answer known number
    rw [answers] at known
    obtain ⟨call, here⟩ := similar.back there
    obtain ⟨request, _, unanswered, _⟩ := similar.each index call after here there
    rw [request]
    exact ordered.served index call here answer known (unanswered answer known number)
  case made => exact ordered.made
  case done => exact ordered.done
  case answeredAppends =>
    intro index reply member
    obtain ⟨call, result, here, isReturned⟩ := ordered.answeredAppends index reply member
    obtain ⟨after, there⟩ := similar.forth here
    exact ⟨after, result, there, (similar.each index call after here there).2.2.2 result isReturned⟩
  case answeredReads => exact ordered.answeredReads

theorem Ordered.append (ordered : Ordered recovered clients order) (request : AppendRequest) :
    Ordered recovered { clients with
      system := { clients.system with calls := clients.system.calls ++ [⟨request, none, .sending⟩] }
      history := clients.history ++ [.invoke (.append clients.system.calls.length) (.append request)] } order := by
  have fresh : ∀ op, .invoke (.append clients.system.calls.length) op ∉ clients.history := by
    intro op member
    obtain ⟨call, here, _⟩ := (ordered.appends _ op).mp member
    exact absurd (List.getElem?_eq_some_iff.mp here).1 (Nat.lt_irrefl _)
  have old : ∀ {place : Nat} {call : Call}, clients.system.calls[place]? = some call →
      (clients.system.calls ++ [⟨request, none, .sending⟩])[place]? = some call := by
    intro place call here
    rw [List.getElem?_append_left (List.getElem?_eq_some_iff.mp here).1]
    exact here
  have split : ∀ {place : Nat} {call : Call}, (clients.system.calls ++ [⟨request, none, .sending⟩])[place]? = some call →
      clients.system.calls[place]? = some call ∨ (place = clients.system.calls.length ∧ call = ⟨request, none, .sending⟩) := by
    intro place call here
    by_cases inside : place < clients.system.calls.length
    · rw [List.getElem?_append_left inside] at here
      exact .inl here
    · rw [List.getElem?_append_right (Nat.le_of_not_lt inside), List.getElem?_singleton] at here
      split_ifs at here
      cases here
      exact .inr ⟨by omega, rfl⟩
  constructor
  case linearizes => exact ordered.linearizes.invoke fresh _
  case proper => exact ordered.proper.invoke fresh _
  case appends =>
    intro index op
    rw [List.mem_append, ordered.appends index op, List.mem_singleton]
    constructor
    · rintro (⟨call, here, same⟩ | new)
      · exact ⟨call, old here, same⟩
      · cases new
        exact ⟨_, List.getElem?_concat_length, rfl⟩
    · rintro ⟨call, here, same⟩
      rcases split here with earlier | ⟨isLast, isNew⟩
      · exact .inl ⟨call, earlier, same⟩
      · rw [isLast, same, isNew]
        exact .inr rfl
  case queries =>
    intro index op
    rw [← ordered.queries index op, List.mem_append, List.mem_singleton]
    simp
  case committed =>
    intro entry member index same
    obtain ⟨call, answer, here, known, number⟩ := ordered.committed entry member index same
    exact ⟨call, answer, old here, known, number⟩
  case served =>
    intro index call here answer known number
    rcases split here with earlier | ⟨_, isNew⟩
    · exact ordered.served index call earlier answer known number
    · rw [isNew] at number
      cases number
  case made => exact ordered.made
  case done => exact ordered.done
  case answeredAppends =>
    intro index reply member
    rcases List.mem_append.mp member with earlier | last
    · obtain ⟨call, result, here, isReturned⟩ := ordered.answeredAppends index reply earlier
      exact ⟨call, result, old here, isReturned⟩
    · cases List.mem_singleton.mp last
  case answeredReads =>
    intro index reply member
    rcases List.mem_append.mp member with earlier | last
    · exact ordered.answeredReads index reply earlier
    · cases List.mem_singleton.mp last

theorem Ordered.returned (ordered : Ordered recovered clients order) {index : Nat} {request : AppendRequest}
    {number : Option Nat} {phase : CallPhase} {result : Except Error (List RecordedEvent)} {calls : List Call}
    (pending : phase.pending = true)
    (replaced : Replaced clients.system.calls index ⟨request, number, phase⟩ ⟨request, number, .returned result⟩ calls)
    (explained : Reply.Tells (.appended result) →
      ∃ entry ∈ order, entry.id = .append index ∧ entry.result = .appended result) :
    Ordered recovered { clients with
      system := { clients.system with calls }
      history := clients.history ++ [.respond (.append index) (.appended result)] } order := by
  have called : .invoke (.append index) (.append request) ∈ clients.history :=
    (ordered.appends _ _).mpr ⟨_, replaced.here, rfl⟩
  have unanswered : ∀ other, .respond (.append index) other ∉ clients.history := by
    intro other member
    obtain ⟨call, earlier, here, isReturned⟩ := ordered.answeredAppends index other member
    rw [replaced.here] at here
    cases here
    rw [show phase = .returned earlier from isReturned] at pending
    cases pending
  have similar : Similar (answered clients.system.task) clients.system.calls calls :=
    similar_of_replaced replaced rfl (fun _ same => same) (fun _ _ same => same) pending
  have framed : Ordered recovered { clients with system := { clients.system with calls } } order :=
    @Ordered.frame recovered clients order ordered { clients.system with calls } similar rfl rfl
  constructor
  case linearizes => exact framed.linearizes.respond explained
  case proper => exact ordered.proper.respond called unanswered _
  case appends =>
    intro place op
    rw [← framed.appends place op, List.mem_append, List.mem_singleton]
    simp
  case queries =>
    intro place op
    rw [← framed.queries place op, List.mem_append, List.mem_singleton]
    simp
  case committed => exact framed.committed
  case served => exact framed.served
  case made => exact framed.made
  case done => exact framed.done
  case answeredAppends =>
    intro place reply member
    rcases List.mem_append.mp member with earlier | last
    · exact framed.answeredAppends place reply earlier
    · cases List.mem_singleton.mp last
      exact ⟨_, result, by rw [replaced.set]; exact set_self replaced.here _, rfl⟩
  case answeredReads =>
    intro place reply member
    rcases List.mem_append.mp member with earlier | last
    · exact framed.answeredReads place reply earlier
    · cases List.mem_singleton.mp last

theorem index_unique {calls : List Call} (distinct : (calls.filterMap (·.number)).Nodup) {first second number : Nat}
    {one two : Call} (here : calls[first]? = some one) (there : calls[second]? = some two)
    (isOne : one.number = some number) (isTwo : two.number = some number) : first = second := by
  have apart := List.pairwise_filterMap.mp distinct
  have lower : ∀ {i j : Nat} {a b : Call}, calls[i]? = some a → calls[j]? = some b → a.number = some number →
      b.number = some number → ¬i < j := by
    intro i j a b atI atJ isA isB less
    obtain ⟨insideI, sameI⟩ := List.getElem?_eq_some_iff.mp atI
    obtain ⟨insideJ, sameJ⟩ := List.getElem?_eq_some_iff.mp atJ
    have different := List.pairwise_iff_getElem.mp apart i j insideI insideJ less
    rw [sameI, sameJ] at different
    exact different number isA number isB rfl
  have notLess := lower here there isOne isTwo
  have notMore := lower there here isTwo isOne
  omega

/-- An append takes effect when the task serves it. -/
theorem Ordered.serve {crc : Crc32fast} {fault : Fault} {task : Task} (ordered : Ordered recovered clients order)
    (kept : Kept clients.system) (running : clients.system.status = .running)
    (segmented : Segmented recovered clients.system.task) (canonical : Canonical clients.log)
    (moved : Task.next crc (.serve fault) clients.system.task = some task) :
    ∃ order, Ordered recovered { clients with system := { clients.system with task } } order := by
  obtain ⟨answer, batch, inbox, answers, does⟩ := does_serve segmented canonical moved
  -- the call that waits for this answer
  have listed : answer.ticket ∈ ledger clients.system.task := by
    rw [ledger, batch]
    exact List.mem_append_right _ (List.mem_append_left _ (List.mem_cons_self ..))
  have issued : answer.ticket.number ∈ List.range clients.system.task.submitted := by
    rw [← kept.once]
    exact List.mem_map_of_mem listed
  obtain ⟨call, member, number⟩ := List.mem_filterMap.mp (kept.senders.mem_iff.mpr issued)
  obtain ⟨index, here⟩ := List.mem_iff_getElem?.mp member
  have distinct : (clients.system.calls.filterMap (·.number)).Nodup := kept.senders.nodup_iff.mpr List.nodup_range
  have request : call.request = answer.ticket.request := by
    have mine := (kept.calls call member).sent _ number
    exact congrArg Ticket.request (kept.unique mine listed rfl)
  have called : .invoke (.append index) (.append answer.ticket.request) ∈ clients.history :=
    (ordered.appends _ _).mpr ⟨call, here, by rw [request]⟩
  -- no earlier answer has its number
  have unused : ∀ other ∈ answered clients.system.task, other.ticket.number ≠ answer.ticket.number := by
    intro other earlier same
    have numbers : ((ledger clients.system.task).map (·.number)).Nodup := by
      rw [kept.once]
      exact List.nodup_range
    rw [ledger, batch, List.map_append, List.nodup_append] at numbers
    refine numbers.2.2 other.ticket.number ?_ answer.ticket.number ?_ same
    · rw [List.map_map]
      exact List.mem_map.mpr ⟨other, earlier, rfl⟩
    · exact List.mem_map.mpr ⟨answer.ticket, List.mem_append_left _ (List.mem_cons_self ..), rfl⟩
  have unanswered : ∀ reply, .respond (.append index) reply ∉ clients.history := by
    intro reply responded
    obtain ⟨call', result, there, isReturned⟩ := ordered.answeredAppends index reply responded
    rw [here] at there
    cases there
    rcases (kept.calls call member).returned result isReturned with ⟨earlier, sent, number', _⟩ | ⟨panicked, _⟩
    · exact unused earlier (List.mem_append_left _ sent) (Option.some.inj (number'.symm.trans number))
    · rw [running] at panicked
      cases panicked
  have new : ∀ other ∈ order, other.id ≠ .append index := by
    intro other inOrder same
    obtain ⟨call', answer', there, earlier, number'⟩ := ordered.committed other inOrder index same
    rw [here] at there
    cases there
    exact unused answer' earlier (Option.some.inj (number'.symm.trans number))
  refine ⟨order ++ [⟨.append index, .append answer.ticket.request, .appended answer.result⟩], ?_⟩
  have inAfter : ∀ {other : Answer}, other ∈ answered clients.system.task → other ∈ answered task := by
    intro other earlier
    rw [answers]
    exact List.mem_append_left _ earlier
  constructor
  case linearizes => exact ordered.linearizes.commit called unanswered new does
  case proper => exact ordered.proper
  case appends => exact ordered.appends
  case queries => exact ordered.queries
  case committed =>
    intro entry inOrder place same
    rcases List.mem_append.mp inOrder with earlier | last
    · obtain ⟨call', answer', there, known, number'⟩ := ordered.committed entry earlier place same
      exact ⟨call', answer', there, inAfter known, number'⟩
    · rw [List.mem_singleton.mp last] at same
      cases same
      refine ⟨call, answer, here, ?_, number⟩
      show answer ∈ answered task
      rw [answers]
      exact List.mem_append_right _ (List.mem_singleton_self _)
  case served =>
    intro place call' there answer' known number'
    change answer' ∈ answered task at known
    rw [answers] at known
    rcases List.mem_append.mp known with earlier | last
    · exact List.mem_append_left _ (ordered.served place call' there answer' earlier number')
    · rw [List.mem_singleton.mp last] at number' ⊢
      have isIndex := index_unique distinct here there number number'
      rw [← isIndex, here] at there
      cases there
      rw [← isIndex, request]
      exact List.mem_append_right _ (List.mem_singleton_self _)
  case made =>
    intro entry inOrder place same
    rcases List.mem_append.mp inOrder with earlier | last
    · exact ordered.made entry earlier place same
    · rw [List.mem_singleton.mp last] at same
      cases same
  case done =>
    intro place query reply there
    exact List.mem_append_left _ (ordered.done place query reply there)
  case answeredAppends => exact ordered.answeredAppends
  case answeredReads => exact ordered.answeredReads

end

/-! ### Runs -/

structure Sound (recovered : List RecordedEvent) (clients : Clients) : Prop where
  kept : Kept clients.system
  segmented : Segmented recovered clients.system.task
  canonical : Canonical clients.log
  filled : ∀ call ∈ clients.system.calls, call.request.events ≠ []
  ordered : ∃ order, Ordered recovered clients order

section
variable {crc : Crc32fast} {recovered : List RecordedEvent} {clients : Clients}

theorem Sound.quiet (sound : Sound recovered clients) {system : WriterSystem} (kept : Kept system)
    (segmented : Segmented recovered system.task)
    (similar : Similar (answered clients.system.task) clients.system.calls system.calls)
    (answers : answered system.task = answered clients.system.task)
    (log : system.task.writer.store.log = clients.log) : Sound recovered { clients with system } := by
  obtain ⟨order, ordered⟩ := sound.ordered
  refine ⟨kept, segmented, ?_, ?_, order, ordered.frame similar answers log⟩
  · show Canonical system.task.writer.store.log
    rw [log]
    exact sound.canonical
  · intro call member
    obtain ⟨index, there⟩ := List.mem_iff_getElem?.mp member
    obtain ⟨earlier, here⟩ := similar.back there
    rw [(similar.each index earlier call here there).1]
    exact sound.filled earlier (List.mem_of_getElem? here)

theorem Sound.worked (sound : Sound recovered clients) {inner : Task.Step} {task : Task} {received : Nat}
    (kept : Kept { clients.system with task, received }) (moved : Task.next crc inner clients.system.task = some task)
    (quiet : ∀ fault, inner ≠ .serve fault) (unsubmitted : ∀ request, inner ≠ .submit request) :
    Sound recovered { clients with system := { clients.system with task, received } } := by
  obtain ⟨writer, answers, _⟩ := next_quiet moved quiet
  have filled : clients.system.task.Filled inner := by
    cases inner with
    | submit request => exact absurd rfl (unsubmitted request)
    | drain | serve | publish | respond => trivial
  exact sound.quiet kept (segmented_next sound.segmented filled moved) (similar_refl _ _) answers
    (congrArg (fun writer : Writer => writer.store.log) writer)

theorem Sound.replaced (sound : Sound recovered clients) {index : Nat} {call other : Call} {calls : List Call}
    (kept : Kept { clients.system with calls }) (replaced : Replaced clients.system.calls index call other calls)
    (request : other.request = call.request) (number : other.number = call.number)
    (pending : call.phase.pending = true) :
    Sound recovered { clients with system := { clients.system with calls } } := by
  refine sound.quiet kept sound.segmented ?_ rfl rfl
  exact similar_of_replaced replaced request (fun _ same => number.trans same) (fun _ _ same => number.symm.trans same)
    pending

theorem Sound.returned (sound : Sound recovered clients) {index : Nat} {request : AppendRequest} {number : Option Nat}
    {phase : CallPhase} {result : Except Error (List RecordedEvent)} {calls : List Call}
    (kept : Kept { clients.system with calls }) (pending : phase.pending = true)
    (replaced : Replaced clients.system.calls index ⟨request, number, phase⟩ ⟨request, number, .returned result⟩ calls)
    (explained : ∀ order, Ordered recovered clients order → Reply.Tells (.appended result) →
      ∃ entry ∈ order, entry.id = .append index ∧ entry.result = .appended result) :
    Sound recovered { clients with
      system := { clients.system with calls }
      history := clients.history ++ seen { clients.system with calls } index } := by
  obtain ⟨order, ordered⟩ := sound.ordered
  have reply : seen { clients.system with calls } index = [.respond (.append index) (.appended result)] := by
    rw [seen]
    dsimp only
    rw [replaced.set, set_self replaced.here]
  rw [reply]
  exact ⟨kept, sound.segmented, sound.canonical, (sound.replaced kept replaced rfl rfl pending).filled, order,
    ordered.returned pending replaced (explained order ordered)⟩

theorem sound_system {step : WriterSystem.Step} {system : WriterSystem} (sound : Sound recovered clients)
    (permitted : Permitted clients (.system step)) (moves : Moves crc clients.system step system) :
    Sound recovered { clients with system, history := clients.history ++ observed clients.system system step } := by
  have kept := sound.kept.next moves
  have silent : observed clients.system system step = [] → Sound recovered { clients with system } →
      Sound recovered { clients with system, history := clients.history ++ observed clients.system system step } := by
    intro nothing after
    rw [nothing, List.append_nil]
    exact after
  cases moves with
  | clone handle => exact silent rfl (sound.quiet kept sound.segmented (similar_refl _ _) rfl rfl)
  | drop free => exact silent rfl (sound.quiet kept sound.segmented (similar_refl _ _) rfl rfl)
  | append request handle =>
    obtain ⟨order, ordered⟩ := sound.ordered
    refine ⟨kept, sound.segmented, sound.canonical, ?_, order, ordered.append request⟩
    intro call member
    rcases List.mem_append.mp member with earlier | last
    · exact sound.filled call earlier
    · rw [List.mem_singleton.mp last]
      exact permitted
  | send index request calls running room replaced =>
    have present : clients.system.task.Filled (.submit request) :=
      sound.filled _ (List.mem_of_getElem? replaced.here)
    have submits : Task.next crc (.submit request) clients.system.task = some (submitted clients.system.task request) := rfl
    have unseen : seen { clients.system with task := submitted clients.system.task request, calls } index = [] := by
      rw [seen]
      dsimp only
      rw [replaced.set, set_self replaced.here]
    refine silent unseen (sound.quiet kept (segmented_next sound.segmented present submits) ?_ rfl rfl)
    apply similar_of_replaced replaced rfl (fun _ impossible => by cases impossible) _ rfl
    intro answer known same
    have listed : answer.ticket.number ∈ List.range clients.system.task.submitted := by
      rw [← sound.kept.once, ledger, List.map_append]
      apply List.mem_append_left
      rw [List.map_map]
      exact List.mem_map.mpr ⟨answer, known, rfl⟩
    rw [← Option.some.inj same] at listed
    exact absurd (List.mem_range.mp listed) (Nat.lt_irrefl _)
  | refused index request calls gone replaced =>
    exact sound.returned kept rfl replaced fun _ _ tells => absurd rfl tells
  | answered index request answer calls found replaced =>
    refine sound.returned kept rfl replaced fun order ordered _ => ?_
    have known : answer ∈ answered clients.system.task := List.mem_append_left _ (List.mem_of_find?_eq_some found)
    exact ⟨_, ordered.served index _ replaced.here answer known rfl, rfl, rfl⟩
  | dropped index request number calls nothing gone replaced =>
    exact sound.returned kept rfl replaced fun _ _ tells => absurd rfl tells
  | cancel index call calls pending replaced => exact silent rfl (sound.replaced kept replaced rfl rfl pending)
  | recv running waits arrived => exact silent rfl (sound.quiet kept sound.segmented (similar_refl _ _) rfl rfl)
  | stamp recordedAt task running arrived empty drained =>
    exact silent rfl (sound.worked kept drained (fun _ impossible => by cases impossible)
      (fun _ impossible => by cases impossible))
  | panic fault running panics => exact silent rfl (sound.quiet kept sound.segmented (similar_refl _ _) rfl rfl)
  | own step inner task same running moved =>
    cases same with
    | serve fault =>
      obtain ⟨order, ordered⟩ := sound.ordered
      refine silent rfl ⟨kept, segmented_serve sound.segmented moved, canonical_serve sound.segmented sound.canonical moved,
        sound.filled, ?_⟩
      exact ordered.serve sound.kept running sound.segmented sound.canonical moved
    | publish =>
      exact silent rfl (sound.worked kept moved (fun _ impossible => by cases impossible)
        (fun _ impossible => by cases impossible))
    | respond =>
      exact silent rfl (sound.worked kept moved (fun _ impossible => by cases impossible)
        (fun _ impossible => by cases impossible))
  | abort running => exact silent rfl (sound.quiet kept sound.segmented (similar_refl _ _) rfl rfl)
  | exit running waits empty nobody => exact silent rfl (sound.quiet kept sound.segmented (similar_refl _ _) rfl rfl)

theorem sound_next {step : Clients.Step} {after : Clients} (sound : Sound recovered clients)
    (permitted : Permitted clients step)
    (moved : Clients.next crc step clients = some after) : Sound recovered after := by
  obtain ⟨kept, segmented, canonical, filled, order, ordered⟩ := sound
  cases step with
  | system step =>
    obtain ⟨system, movedSystem, same⟩ := Option.map_eq_some_iff.mp moved
    rw [← same]
    exact sound_system ⟨kept, segmented, canonical, filled, order, ordered⟩ permitted (moves_of_next movedSystem)
  | query query =>
    cases moved
    exact ⟨kept, segmented, canonical, filled, order, ordered.query query⟩
  | read index iteration =>
    rw [Clients.next] at moved
    split at moved
    next query here =>
      obtain ⟨reply, answer, same⟩ := Option.map_eq_some_iff.mp moved
      rw [← same]
      exact ⟨kept, segmented, canonical, filled, _, ordered.read segmented.wellFormed canonical permitted here answer⟩
    next => cases moved
  | finish index =>
    rw [Clients.next] at moved
    split at moved
    next query reply here =>
      cases moved
      exact ⟨kept, segmented, canonical, filled, order, ordered.finish here⟩
    next => cases moved

end

theorem sound_start {store : Store} (wellFormed : WellFormed store.log) (canonical : Canonical store.log)
    {platform : Platform} {channelCapacity dedupCapacity : Nat} {system : WriterSystem}
    (spawned : spawnWriter platform store channelCapacity dedupCapacity = ok system) :
    Sound store.log.events (Clients.start system) := by
  have kept : Kept system := @kept_of_run Crc32fast.ieee _ _ _ _ _ _ spawned .refl
  rw [spawnWriter] at spawned
  split_ifs at spawned
  cases spawned
  refine ⟨kept, segmented_start wellFormed dedupCapacity, canonical, fun _ member => absurd member List.not_mem_nil, [], ?_⟩
  constructor
  case linearizes =>
    show Linearizes Does Reply.Tells _ [] [] ⟨store.log.events, Acknowledgement.history store.log.events []⟩
    rw [history_nil]
    exact Linearizes.start Does Reply.Tells _
  case proper => exact Proper.start
  case appends => simp [Clients.start]
  case queries => simp [Clients.start]
  case committed => exact fun _ member => absurd member List.not_mem_nil
  case served => simp [Clients.start]
  case made => exact fun _ member => absurd member List.not_mem_nil
  case done => simp [Clients.start]
  case answeredAppends => simp [Clients.start]
  case answeredReads => simp [Clients.start]

/-- Whatever the clients do at the same time, there is an order of their calls, one after the other,
that explains every answer that tells what became of the call, and a call that began after another had
returned comes after it. -/
theorem calls_linearizable (crc : Crc32fast) (store : Store) (wellFormed : WellFormed store.log)
    (canonical : Canonical store.log) (platform : Platform) (channelCapacity dedupCapacity : Nat)
    (system : WriterSystem)
    (spawned : spawnWriter platform store channelCapacity dedupCapacity = ok system) (clients : Clients)
    (run : Reaches (Clients.next crc) Permitted (Clients.start system) clients) :
    Proper clients.history ∧ ∃ order batches,
      Linearizes Does Reply.Tells (EventStore.start store.log.events) clients.history order
        ⟨clients.log.events, batches⟩ := by
  have sound : Sound store.log.events clients := by
    apply run.invariant (Sound store.log.events) _ (fun _ _ _ holds permitted moved => sound_next holds permitted moved)
    exact sound_start wellFormed canonical spawned
  obtain ⟨order, ordered⟩ := sound.ordered
  exact ⟨ordered.proper, order, _, ordered.linearizes⟩

/-- A read that begins before the append and is made while its answer is under way: it sees the event. -/
theorem calls_linearizable_overlapping :
    ∃ system clients, spawnWriter .ample Store.create 64 4 = ok system ∧
      Reaches (Clients.next Crc32fast.ieee) Permitted (Clients.start system) clients ∧
      clients.history = [.invoke (.read 0) (.query (.readAll 0 10)), .invoke (.append 0) (.append (plainRequest 0 .any [1])),
        .respond (.read 0) (.events (.ok firstBatch.events)), .respond (.append 0) (.appended (.ok firstBatch.events))] ∧
      Proper clients.history ∧ ∃ order batches,
        Linearizes Does Reply.Tells (EventStore.start []) clients.history order ⟨clients.log.events, batches⟩ := by
  let crc := Crc32fast.ieee
  let request := plainRequest 0 .any [1]
  let new : WriterSystem := { oneCall (Task.start freshWriter) 0 none .sending with calls := [] }
  let called : List (Event CallId Operation Reply) :=
    [.invoke (.read 0) (.query (.readAll 0 10)), .invoke (.append 0) (.append request)]
  let waiting (task : Task) (phase : ReadPhase) : Clients :=
    ⟨oneCall task 0 (some 0) .awaiting, [⟨.readAll 0 10, phase⟩], called⟩
  have spawned : spawnWriter .ample Store.create 64 4 = ok new := rfl
  have drains : Reaches (Clients.next crc) Permitted (Clients.start new)
      (waiting (drained freshWriter [] 0 0 request) .waiting) :=
    reaches_of_permitted
      [.query (.readAll 0 10), .system (.append request), .system (.send 0), .system .recv, .system (.stamp 0)]
      (by simp [Permitted, request, plainRequest]) _ _ rfl
  have serves : Clients.next crc (.system (.serve .none)) (waiting (drained freshWriter [] 0 0 request) .waiting) =
      some (waiting (firstTask crc) .waiting) := by
    rw [Clients.next]
    dsimp only [waiting]
    rw [serve_oneCall]
    rfl
  have canonical : Canonical (waiting (firstTask crc) .waiting).log := rfl
  have reads : Clients.next crc (.read 0 (StreamSummaries.entriesOf (waiting (firstTask crc) .waiting).log))
      (waiting (firstTask crc) .waiting) = some (waiting (firstTask crc) (.done (.events (.ok firstBatch.events)))) := rfl
  have returns : Reaches (Clients.next crc) Permitted
      (waiting (firstTask crc) (.done (.events (.ok firstBatch.events)))) _ :=
    reaches_of_permitted [.finish 0, .system .publish, .system .respond, .system (.response 0)] (by simp [Permitted]) _ _ rfl
  have run := (drains.tail ⟨.system (.serve .none), trivial, serves⟩).tail
    ⟨.read 0 _, StreamSummaries.iterates_entriesOf canonical, reads⟩
  exact ⟨new, _, spawned, run.trans returns, rfl,
    calls_linearizable crc Store.create wellFormed_empty rfl .ample 64 4 new spawned _ (run.trans returns)⟩

end Linearizability

end EventfoldDb
