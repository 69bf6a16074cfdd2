import EventfoldDb.Launch
import EventfoldDb.Lib.Evolution

/-! Runs of the whole server. Its writer and its subscriptions behave as they do on their own, and
every call of the writer and every subscription goes back to a request that was let through. -/

namespace EventfoldDb.ServerRuns
open Outcome Recovery AppendSpec LogInvariant WriterSpec WriterHandle FanOut Launch Server Server.Process Evolution
  Machine

/-! ### What a step does -/

inductive Opens (parser : UuidParser) : Rpc → Target → UInt64 → Prop
  | all (fromPosition : UInt64) : Opens parser (.subscribeAll fromPosition) .all fromPosition
  | stream (text : String) (streamId : Uuid) (fromVersion : UInt64)
      (parsed : parseUuid parser text "stream_id" = .ok streamId) :
      Opens parser (.subscribeStream text fromVersion) (.stream streamId) fromVersion

def Asks (parser : UuidParser) (rpc : Rpc) (request : AppendRequest) : Prop :=
  ∃ message, rpc = .append message ∧ EventfoldService.request parser message = .ok request

def Modest (reply : Server.Reply) : Prop :=
  (∀ response, reply ≠ .append (ok response)) ∧ ∀ message, reply ≠ .unauthenticated message

section
variable (crc : Crc32fast) (parser : UuidParser) (decode : Decoder) (process : Process)

def accept (authorization : Authorization) (now : Nat) (rpc : Rpc) (progress : Progress) : List Exchange :=
  process.exchanges ++ [⟨authorization, now, rpc, progress⟩]

inductive Moves : Step → Process → Prop
  | rejected (authorization : Authorization) (now : Nat) (rpc : Rpc) (iteration : List (Uuid × List UInt64))
      (message : String) (listening : process.stage = .listening)
      (refused : process.admits decode now authorization rpc = .error message) :
      Moves (.request authorization now rpc iteration)
        { process with exchanges := accept process authorization now rpc (.replied (.unauthenticated message)) }
  | called (authorization : Authorization) (now : Nat) (rpc : Rpc) (iteration : List (Uuid × List UInt64))
      (request : AppendRequest) (system : WriterSystem) (listening : process.stage = .listening)
      (admitted : process.admits decode now authorization rpc = .ok ()) (asks : Asks parser rpc request)
      (moved : WriterSystem.next crc (.append request) process.system = some system) :
      Moves (.request authorization now rpc iteration)
        { process with
          system
          exchanges := accept process authorization now rpc (.appending process.system.calls.length) }
  | served (authorization : Authorization) (now : Nat) (rpc : Rpc) (iteration : List (Uuid × List UInt64))
      (reply : Server.Reply)
      (listening : process.stage = .listening) (admitted : process.admits decode now authorization rpc = .ok ())
      (modest : Modest reply) :
      Moves (.request authorization now rpc iteration)
        { process with exchanges := accept process authorization now rpc (.replied reply) }
  | opened (authorization : Authorization) (now : Nat) (rpc : Rpc) (iteration : List (Uuid × List UInt64))
      (target : Target) (start : UInt64) (listening : process.stage = .listening)
      (admitted : process.admits decode now authorization rpc = .ok ()) (opens : Opens parser rpc target start) :
      Moves (.request authorization now rpc iteration)
        { process with exchanges := accept process authorization now rpc (.opened target start) }
  | watched (authorization : Authorization) (now : Nat) (iteration : List (Uuid × List UInt64))
      (listening : process.stage = .listening) :
      Moves (.request authorization now (.health true) iteration)
        { process with exchanges := accept process authorization now (.health true) .watching }
  | worked (step : WriterSystem.Step) (system : WriterSystem) (own : working step = true) (quiet : step ≠ .publish)
      (moved : WriterSystem.next crc step process.system = some system) :
      Moves (.writer step) { process with system }
  | published (system : WriterSystem) (moved : WriterSystem.next crc .publish process.system = some system) :
      Moves (.writer .publish)
        { process with
          system
          broker := process.broker.publish (Task.sends .publish process.system.task)
          published := process.published ++ Task.sends .publish process.system.task }
  | answered (index call : Nat) (exchange : Exchange) (made : Call) (result : Except Error (List RecordedEvent))
      (here : process.exchanges[index]? = some exchange) (progress : exchange.progress = .appending call)
      (found : process.system.calls[call]? = some made) (returned : made.phase = .returned result) :
      Moves (.reply index) (process.put index exchange (.replied (Process.answer result)))
  | subscribed (index : Nat) (exchange : Exchange) (target : Target) (start : UInt64) (hub : Hub)
      (here : process.exchanges[index]? = some exchange) (progress : exchange.progress = .opened target start)
      (moved : Hub.next crc (.subscribe target start) process.hub = some hub) :
      Moves (.poll index)
        ({ process with
            broker := hub.broker
            subscribers := hub.subscribers
            subscriptionsActive := process.subscriptionsActive + 1 }.put index exchange
          (.streaming process.subscribers.length))
  | polled (index subscriber : Nat) (exchange : Exchange) (hub : Hub)
      (here : process.exchanges[index]? = some exchange) (progress : exchange.progress = .streaming subscriber)
      (moved : Hub.next crc (.poll subscriber) process.hub = some hub) :
      Moves (.poll index) (process.withHub subscriber hub)
  | withdrawn (index call : Nat) (exchange : Exchange) (system : WriterSystem)
      (here : process.exchanges[index]? = some exchange) (progress : exchange.progress = .appending call)
      (moved : WriterSystem.next crc (.cancel call) process.system = some system) :
      Moves (.disconnect index) ({ process with system }.put index exchange .cancelled)
  | missed (index call : Nat) (exchange : Exchange)
      (here : process.exchanges[index]? = some exchange) (progress : exchange.progress = .appending call)
      (finished : WriterSystem.next crc (.cancel call) process.system = none) :
      Moves (.disconnect index) (process.put index exchange .cancelled)
  | closed (index : Nat) (exchange : Exchange) (target : Target) (start : UInt64)
      (here : process.exchanges[index]? = some exchange) (progress : exchange.progress = .opened target start) :
      Moves (.disconnect index) (process.put index exchange .cancelled)
  | unwatched (index : Nat) (exchange : Exchange)
      (here : process.exchanges[index]? = some exchange) (progress : exchange.progress = .watching) :
      Moves (.disconnect index) (process.put index exchange .cancelled)
  | dropped (index subscriber : Nat) (exchange : Exchange) (hub : Hub)
      (here : process.exchanges[index]? = some exchange) (progress : exchange.progress = .streaming subscriber)
      (moved : Hub.next crc (.drop subscriber) process.hub = some hub) :
      Moves (.disconnect index) ((process.withHub subscriber hub).put index exchange .cancelled)
  | signalled (listening : process.stage = .listening) : Moves .signal { process with stage := .draining }
  | released (half system : WriterSystem) (draining : process.stage = .draining)
      (idle : ∀ exchange ∈ process.exchanges, process.inFlight exchange = false)
      (first : WriterSystem.next crc .drop process.system = some half)
      (second : WriterSystem.next crc .drop half = some system) :
      Moves .release { process with system, stage := .joining }
  | joined (stage : Stage) (joining : process.stage = .joining) (finished : process.system.status ≠ .running)
      (same : stage = if process.system.status = .finished then .stopped else .panicked) :
      Moves .join { process with stage }

end

section
variable {crc : Crc32fast} {parser : UuidParser} {decode : Decoder} {process after : Process} {step : Step}

theorem moves_of_request {authorization : Authorization} {now : Nat} {rpc : Rpc} {iteration : List (Uuid × List UInt64)}
    (listening : process.stage = .listening) (admitted : process.admits decode now authorization rpc = .ok ())
    {handled : Progress × WriterSystem} (handles : process.handle crc parser iteration rpc = some handled) :
    Moves crc parser decode process (.request authorization now rpc iteration)
      { process with system := handled.2, exchanges := accept process authorization now rpc handled.1 } := by
  cases rpc with
  | append message =>
    rw [Process.handle] at handles
    cases passed : EventfoldService.request parser message with
    | error status =>
      rw [passed] at handles
      cases handles
      exact .served _ _ _ _ _ listening admitted ⟨(fun _ same => by cases same), (fun _ same => by cases same)⟩
    | ok request =>
      rw [passed] at handles
      obtain ⟨system, moved, same⟩ := Option.map_eq_some_iff.mp handles
      rw [← same]
      exact .called _ _ _ _ request system listening admitted ⟨message, rfl, passed⟩ moved
  | readStream request =>
    cases handles
    exact .served _ _ _ _ _ listening admitted ⟨(fun _ same => by cases same), (fun _ same => by cases same)⟩
  | readAll request =>
    cases handles
    exact .served _ _ _ _ _ listening admitted ⟨(fun _ same => by cases same), (fun _ same => by cases same)⟩
  | listStreams =>
    cases handles
    exact .served _ _ _ _ _ listening admitted ⟨(fun _ same => by cases same), (fun _ same => by cases same)⟩
  | subscribeAll fromPosition =>
    cases handles
    exact .opened _ _ _ _ _ _ listening admitted (.all fromPosition)
  | subscribeStream text fromVersion =>
    rw [Process.handle] at handles
    cases parsed : parseUuid parser text "stream_id" with
    | error status =>
      rw [parsed] at handles
      cases handles
      exact .served _ _ _ _ _ listening admitted ⟨(fun _ same => by cases same), (fun _ same => by cases same)⟩
    | ok streamId =>
      rw [parsed] at handles
      cases handles
      exact .opened _ _ _ _ _ _ listening admitted (.stream text streamId fromVersion parsed)
  | health watches =>
    cases watches with
    | false =>
      cases handles
      exact .served _ _ _ _ _ listening admitted ⟨(fun _ same => by cases same), (fun _ same => by cases same)⟩
    | true =>
      cases handles
      exact .watched _ _ _ listening

theorem moves_of_disconnect {index : Nat}
    (moved : Process.next crc parser decode (.disconnect index) process = some after) :
    Moves crc parser decode process (.disconnect index) after := by
  rw [Process.next] at moved
  split at moved
  next exchange here =>
    split_ifs at moved with flying
    split at moved
    next call progress =>
      split at moved
      next system cancelled =>
        cases moved
        exact .withdrawn index call exchange system here progress cancelled
      next finished =>
        cases moved
        exact .missed index call exchange here progress finished
    next subscriber progress =>
      obtain ⟨hub, hubMoved, same⟩ := Option.map_eq_some_iff.mp moved
      rw [← same]
      exact .dropped index subscriber exchange hub here progress hubMoved
    next notAppending notStreaming =>
      cases moved
      cases progress : exchange.progress with
      | appending call => exact absurd progress (notAppending call)
      | streaming subscriber => exact absurd progress (notStreaming subscriber)
      | opened target start => exact .closed index exchange target start here progress
      | watching => exact .unwatched index exchange here progress
      | replied reply => simp [Process.inFlight, progress] at flying
      | cancelled => simp [Process.inFlight, progress] at flying
  next => cases moved

theorem moves_of_next (moved : Process.next crc parser decode step process = some after) :
    Moves crc parser decode process step after := by
  cases step with
  | request authorization now rpc iteration =>
    rw [Process.next] at moved
    split_ifs at moved with listening
    split at moved
    next message refused =>
      cases moved
      exact .rejected _ _ _ _ message listening refused
    next admitted =>
      obtain ⟨handled, handles, same⟩ := Option.map_eq_some_iff.mp moved
      rw [← same]
      exact moves_of_request listening admitted handles
  | writer step =>
    rw [Process.next] at moved
    split_ifs at moved with own
    obtain ⟨system, systemMoved, same⟩ := Option.map_eq_some_iff.mp moved
    rw [← same]
    by_cases publishes : step = .publish
    · cases publishes
      exact .published system systemMoved
    · have plain : Moves crc parser decode process (.writer step) _ := .worked step system own publishes systemMoved
      cases step <;> first | exact plain | exact absurd rfl publishes
  | reply index =>
    rw [Process.next] at moved
    split at moved
    next authorization receivedAt rpc call here =>
      split at moved
      next request number result found =>
        cases moved
        exact .answered index call _ _ result here rfl found rfl
      next => cases moved
    next => cases moved
  | poll index =>
    rw [Process.next] at moved
    split at moved
    next authorization receivedAt rpc target start here =>
      obtain ⟨hub, hubMoved, same⟩ := Option.map_eq_some_iff.mp moved
      rw [← same]
      exact .subscribed index _ target start hub here rfl hubMoved
    next authorization receivedAt rpc subscriber here =>
      obtain ⟨hub, hubMoved, same⟩ := Option.map_eq_some_iff.mp moved
      rw [← same]
      exact .polled index subscriber _ hub here rfl hubMoved
    next => cases moved
  | disconnect index => exact moves_of_disconnect moved
  | signal =>
    rw [Process.next] at moved
    split_ifs at moved with listening
    cases moved
    exact .signalled listening
  | release =>
    rw [Process.next] at moved
    split_ifs at moved with able
    obtain ⟨system, systemMoved, same⟩ := Option.map_eq_some_iff.mp moved
    obtain ⟨half, first, second⟩ := Option.bind_eq_some_iff.mp systemMoved
    rw [← same]
    refine .released half system able.1 ?_ first second
    intro exchange member
    simpa using List.all_eq_true.mp able.2 exchange member
  | join =>
    rw [Process.next] at moved
    split_ifs at moved with joining
    cases status : process.system.status with
    | running =>
      rw [status] at moved
      cases moved
    | finished =>
      rw [status] at moved
      cases moved
      exact .joined .stopped joining (by simp [status]) (by simp [status])
    | panicked =>
      rw [status] at moved
      cases moved
      exact .joined .panicked joining (by simp [status]) (by simp [status])

end

/-! ### The writer and the subscriptions on their own -/

section
variable {crc : Crc32fast} {system after : WriterSystem} {step : WriterSystem.Step}

theorem task_next (moves : WriterHandle.Moves crc system step after) (quiet : step ≠ .publish) :
    after.task = system.task ∨ ∃ inner, Task.next crc inner system.task = some after.task ∧
      Task.sends inner system.task = [] ∧
      (∀ request, inner = .submit request → ∃ call ∈ system.calls, call.request = request) ∧
      ∀ fault, inner = .serve fault → step = .serve fault := by
  cases moves with
  | clone | drop | append | refused | answered | dropped | cancel | recv | panic | abort | exit => exact .inl rfl
  | send index request calls running room replaced =>
    refine .inr ⟨.submit request, rfl, rfl, ?_, (fun _ impossible => by cases impossible)⟩
    intro other same
    cases same
    exact ⟨_, mem_replaced replaced, rfl⟩
  | stamp recordedAt task running arrived empty drained =>
    exact .inr ⟨_, drained, rfl, (fun _ impossible => by cases impossible), (fun _ impossible => by cases impossible)⟩
  | own step inner task same running moved =>
    cases same with
    | serve fault =>
      refine .inr ⟨_, moved, rfl, (fun _ impossible => by cases impossible), ?_⟩
      intro other same
      cases same
      rfl
    | publish => exact absurd rfl quiet
    | respond =>
      exact .inr ⟨_, moved, rfl, (fun _ impossible => by cases impossible), (fun _ impossible => by cases impossible)⟩

theorem publish_next (moves : WriterHandle.Moves crc system .publish after) :
    Task.next crc .publish system.task = some after.task := by
  cases moves with
  | own step inner task same running moved =>
    cases same
    exact moved

end

/-- The writer with its callers, and the writer with its subscriptions, have each made a run of
their own. -/
structure Embedded (crc : Crc32fast) (start process : Process) : Prop where
  system : Reaches (WriterSystem.next crc) always start.system process.system
  hub : Reaches (Hub.next crc) always start.hub process.hub
  unclosed : process.broker.tx.closed = false

section
variable {crc : Crc32fast} {parser : UuidParser} {decode : Decoder} {start process after : Process} {step : Step}

theorem hub_writer {hub : Hub} {inner : Task.Step} {task : Task} (unclosed : hub.broker.tx.closed = false)
    (moved : Task.next crc inner hub.task = some task) :
    Hub.next crc (.writer inner) hub = some { hub with
      task
      broker := hub.broker.publish (Task.sends inner hub.task)
      published := hub.published ++ Task.sends inner hub.task } := by
  rw [Hub.next, unclosed, if_neg (by simp), moved]
  rfl

theorem closed_put (hub : Hub) (index : Nat) (subscriber : Subscriber) :
    (hub.put index subscriber).broker.tx.closed = hub.broker.tx.closed := by
  unfold Hub.put
  dsimp only
  split_ifs <;> rfl

theorem hub_frame {hub moved : Hub} {inner : Hub.Step} (own : ∀ step, inner ≠ .writer step) (isOpen : inner ≠ .close)
    (next : Hub.next crc inner hub = some moved) :
    moved.task = hub.task ∧ moved.published = hub.published ∧ moved.broker.tx.closed = hub.broker.tx.closed := by
  cases inner with
  | writer step => exact absurd rfl (own step)
  | subscribe target start =>
    rw [Hub.next] at next
    split_ifs at next
    cases next
    exact ⟨rfl, rfl, rfl⟩
  | poll index =>
    obtain ⟨subscriber, here, rest⟩ := Option.bind_eq_some_iff.mp next
    obtain ⟨polled, pollMoved, same⟩ := Option.bind_eq_some_iff.mp rest
    cases same
    exact ⟨rfl, rfl, closed_put ..⟩
  | drop index =>
    obtain ⟨subscriber, here, rest⟩ := Option.bind_eq_some_iff.mp next
    split_ifs at rest with alive
    cases rest
    exact ⟨rfl, rfl, closed_put ..⟩
  | close => exact absurd rfl isOpen

theorem Embedded.stay (embedded : Embedded crc start process) (system : after.system = process.system)
    (hub : after.hub = process.hub) : Embedded crc start after := by
  have broker : after.broker = process.broker := congrArg Hub.broker hub
  exact ⟨system ▸ embedded.system, hub ▸ embedded.hub, by rw [broker]; exact embedded.unclosed⟩

theorem Embedded.work (embedded : Embedded crc start process) {inner : WriterSystem.Step} {system : WriterSystem}
    (moved : WriterSystem.next crc inner process.system = some system) (quiet : inner ≠ .publish)
    (same : after.system = system) (broker : after.broker = process.broker)
    (subscribers : after.subscribers = process.subscribers) (published : after.published = process.published) :
    Embedded crc start after where
  system := by
    rw [same]
    exact embedded.system.tail ⟨inner, trivial, moved⟩
  hub := by
    have sameHub : after.hub = ⟨system.task, process.broker, process.subscribers, process.published⟩ := by
      rw [Process.hub, same, broker, subscribers, published]
    rw [sameHub]
    rcases task_next (WriterHandle.moves_of_next moved) quiet with stays | ⟨own, taskMoved, nothing, _⟩
    · rw [stays]
      exact embedded.hub
    · have hubMoved := @hub_writer crc process.hub own _ embedded.unclosed taskMoved
      rw [show Task.sends own process.hub.task = [] from nothing, List.append_nil] at hubMoved
      exact embedded.hub.tail ⟨.writer own, trivial, hubMoved⟩
  unclosed := by
    rw [broker]
    exact embedded.unclosed

theorem Embedded.subscription (embedded : Embedded crc start process) {inner : Hub.Step} {hub : Hub}
    (own : ∀ step, inner ≠ .writer step) (isOpen : inner ≠ .close) (moved : Hub.next crc inner process.hub = some hub)
    (system : after.system = process.system) (broker : after.broker = hub.broker)
    (subscribers : after.subscribers = hub.subscribers) (published : after.published = process.published) :
    Embedded crc start after := by
  obtain ⟨task, samePublished, closed⟩ := hub_frame own isOpen moved
  have same : after.hub = hub := by
    rw [Process.hub, system, broker, subscribers, published]
    cases hub
    exact congrArg₂ (fun task published => Hub.mk task _ _ published) task.symm samePublished.symm
  refine ⟨system ▸ embedded.system, ?_, ?_⟩
  · rw [same]
    exact embedded.hub.tail ⟨inner, trivial, moved⟩
  · rw [broker, closed]
    exact embedded.unclosed

theorem Embedded.next (embedded : Embedded crc start process) (moves : Moves crc parser decode process step after) :
    Embedded crc start after := by
  cases moves with
  | rejected | served | opened | watched | answered | missed | closed | unwatched | signalled | joined =>
    exact embedded.stay rfl rfl
  | called authorization now rpc iteration request system listening admitted asks moved =>
    exact embedded.work moved (fun impossible => by cases impossible) rfl rfl rfl rfl
  | worked step system own quiet moved => exact embedded.work moved quiet rfl rfl rfl rfl
  | published system moved =>
    have taskMoved := publish_next (WriterHandle.moves_of_next moved)
    have hubMoved := @hub_writer crc process.hub .publish _ embedded.unclosed taskMoved
    refine ⟨embedded.system.tail ⟨.publish, trivial, moved⟩, embedded.hub.tail ⟨.writer .publish, trivial, hubMoved⟩, ?_⟩
    show (process.broker.publish _).tx.closed = false
    rw [(publish_frame ..).2.2]
    exact embedded.unclosed
  | subscribed index exchange target from_ hub here progress moved =>
    exact embedded.subscription (fun _ impossible => by cases impossible) (fun impossible => by cases impossible) moved
      rfl rfl rfl rfl
  | polled index subscriber exchange hub here progress moved =>
    exact embedded.subscription (fun _ impossible => by cases impossible) (fun impossible => by cases impossible) moved
      rfl rfl rfl rfl
  | withdrawn index call exchange system here progress moved =>
    exact embedded.work moved (fun impossible => by cases impossible) rfl rfl rfl rfl
  | dropped index subscriber exchange hub here progress moved =>
    exact embedded.subscription (fun _ impossible => by cases impossible) (fun impossible => by cases impossible) moved
      rfl rfl rfl rfl
  | released half system draining idle first second =>
    have halfway := @Embedded.work crc start process { process with system := half } embedded _ _ first
      (fun impossible => by cases impossible) rfl rfl rfl rfl
    exact halfway.work second (fun impossible => by cases impossible) rfl rfl rfl rfl

end

/-! ### Calls and subscriptions over time -/

/-- A call keeps its request, and once it is over it stays so. -/
def CallFollows (call later : Call) : Prop :=
  later.request = call.request ∧ (later.phase.pending = true → call.phase.pending = true)

/-- A subscription keeps what it is about, and once it is over it stays so. -/
def SubscriberFollows (subscriber later : Subscriber) : Prop :=
  later.target = subscriber.target ∧ later.start = subscriber.start ∧ (later.alive = true → subscriber.alive = true)

theorem callFollows_refl (call : Call) : CallFollows call call := ⟨rfl, id⟩

theorem subscriberFollows_refl (subscriber : Subscriber) : SubscriberFollows subscriber subscriber := ⟨rfl, rfl, id⟩

section
variable {crc : Crc32fast} {system after : WriterSystem} {step : WriterSystem.Step}

theorem carried_replaced {index : Nat} {call other : Call} {calls later : List Call}
    (replaced : Replaced calls index call other later) (follows : CallFollows call other) :
    Carried CallFollows calls later ∧ later.length = calls.length := by
  rw [replaced.set]
  exact ⟨carried_set callFollows_refl replaced.here follows, List.length_set ..⟩

theorem calls_carried (moves : WriterHandle.Moves crc system step after) (old : ∀ request, step ≠ .append request) :
    Carried CallFollows system.calls after.calls ∧ after.calls.length = system.calls.length := by
  cases moves with
  | append request handle => exact absurd rfl (old request)
  | clone | drop | recv | stamp | panic | own | abort | exit => exact ⟨carried_refl callFollows_refl _, rfl⟩
  | send index request calls running room replaced => exact carried_replaced replaced ⟨rfl, fun _ => rfl⟩
  | refused index request calls ended replaced => exact carried_replaced replaced ⟨rfl, fun _ => rfl⟩
  | answered index request answer calls found replaced => exact carried_replaced replaced ⟨rfl, fun _ => rfl⟩
  | dropped index request number calls nothing ended replaced => exact carried_replaced replaced ⟨rfl, fun _ => rfl⟩
  | cancel index call calls pending replaced => exact carried_replaced replaced ⟨rfl, fun _ => pending⟩

theorem answers_grow (moves : WriterHandle.Moves crc system step after) :
    system.task.answers <+: after.task.answers := by
  cases moves with
  | clone | drop | append | refused | answered | dropped | cancel | recv | panic | abort | exit =>
    exact List.prefix_refl _
  | send => exact List.prefix_refl _
  | stamp recordedAt task running arrived empty drained =>
    exact (ledger_next drained (fun _ impossible => by cases impossible)).2.2
  | own step inner task same running moved => exact (ledger_next moved (quiet_of_own same)).2.2

end

section
variable {crc : Crc32fast} {hub after : Hub}

theorem poll_follows {subscriber polled : Subscriber} {log : EventLog} {tx : Broadcast.Channel RecordedEvent}
    (moved : subscriber.poll log tx = some polled) : SubscriberFollows subscriber polled := by
  have alive : subscriber.alive = true := by
    rw [alive_iff]
    intro ended
    rw [Subscriber.poll, ended] at moved
    cases moved
  refine ⟨?_, ?_, fun _ => alive⟩ <;>
  · unfold Subscriber.poll at moved
    split at moved
    next =>
      split at moved
      next =>
        split_ifs at moved
        · cases moved
          rfl
        · cases moved
          rfl
      next =>
        cases moved
        rfl
      next =>
        cases moved
        rfl
      next => cases moved
    next =>
      obtain ⟨subscription, _, same⟩ := Option.map_eq_some_iff.mp moved
      rw [← same]

theorem poll_carried {index : Nat} (moved : Hub.next crc (.poll index) hub = some after) :
    Carried SubscriberFollows hub.subscribers after.subscribers ∧
      after.subscribers.length = hub.subscribers.length := by
  obtain ⟨subscriber, here, rest⟩ := Option.bind_eq_some_iff.mp moved
  obtain ⟨polled, pollMoved, same⟩ := Option.bind_eq_some_iff.mp rest
  cases same
  exact ⟨carried_set subscriberFollows_refl here (poll_follows pollMoved), List.length_set ..⟩

theorem drop_carried {index : Nat} (moved : Hub.next crc (.drop index) hub = some after) :
    Carried SubscriberFollows hub.subscribers after.subscribers ∧
      after.subscribers.length = hub.subscribers.length ∧
      ∀ subscriber, after.subscribers[index]? = some subscriber → subscriber.alive = false := by
  obtain ⟨subscriber, here, rest⟩ := Option.bind_eq_some_iff.mp moved
  split_ifs at rest with alive
  cases rest
  refine ⟨carried_set subscriberFollows_refl here ⟨rfl, rfl, fun _ => alive⟩, List.length_set .., ?_⟩
  intro later found
  obtain ⟨inside, _⟩ := List.getElem?_eq_some_iff.mp here
  have set : (hub.put index { subscriber with phase := .ended }).subscribers[index]? =
      some { subscriber with phase := .ended } := List.getElem?_set_self inside
  rw [set] at found
  cases found
  rfl

end

/-! ### Where calls and subscriptions come from -/

section
variable (parser : UuidParser) (decode : Decoder) (process : Process)

def Admitted (exchange : Exchange) : Prop :=
  process.admits decode exchange.receivedAt exchange.authorization exchange.rpc = .ok ()

structure ExchangeKept (exchange : Exchange) : Prop where
  refused : ∀ message, process.admits decode exchange.receivedAt exchange.authorization exchange.rpc = .error message →
    exchange.progress = .replied (.unauthenticated message)
  rejects : ∀ message, exchange.progress = .replied (.unauthenticated message) →
    process.admits decode exchange.receivedAt exchange.authorization exchange.rpc = .error message
  appending : ∀ index, exchange.progress = .appending index →
    ∃ call, process.system.calls[index]? = some call ∧ Asks parser exchange.rpc call.request
  acknowledged : ∀ response, exchange.progress = .replied (.append (ok response)) →
    ∃ answer ∈ process.system.task.answers, ∃ recorded, Asks parser exchange.rpc answer.ticket.request ∧
      answer.result = .ok recorded ∧ EventfoldService.respond recorded = ok response
  opened : ∀ target start, exchange.progress = .opened target start → Opens parser exchange.rpc target start
  streaming : ∀ index, exchange.progress = .streaming index →
    ∃ subscriber, process.subscribers[index]? = some subscriber ∧
      Opens parser exchange.rpc subscriber.target subscriber.start

/-- What is done for a request belongs to it, and nothing is done without one. -/
structure Traced : Prop where
  exchanges : ∀ exchange ∈ process.exchanges, ExchangeKept parser decode process exchange
  calls : ∀ (index : Nat) (call : Call), process.system.calls[index]? = some call →
    ∃ exchange ∈ process.exchanges, Admitted decode process exchange ∧ Asks parser exchange.rpc call.request
  pending : ∀ (index : Nat) (call : Call), process.system.calls[index]? = some call → call.phase.pending = true →
    ∃ exchange ∈ process.exchanges, exchange.progress = .appending index
  subscribers : ∀ (index : Nat) (subscriber : Subscriber), process.subscribers[index]? = some subscriber →
    ∃ exchange ∈ process.exchanges, Admitted decode process exchange ∧
      Opens parser exchange.rpc subscriber.target subscriber.start
  alive : ∀ (index : Nat) (subscriber : Subscriber), process.subscribers[index]? = some subscriber →
    subscriber.alive = true → ∃ exchange ∈ process.exchanges, exchange.progress = .streaming index

end

structure Carries (process after : Process) : Prop where
  interceptor : after.interceptor = process.interceptor
  answers : process.system.task.answers ⊆ after.system.task.answers
  calls : Carried CallFollows process.system.calls after.system.calls
  subscribers : Carried SubscriberFollows process.subscribers after.subscribers

def SameRequest (exchange later : Exchange) : Prop :=
  later.authorization = exchange.authorization ∧ later.receivedAt = exchange.receivedAt ∧ later.rpc = exchange.rpc

section
variable {crc : Crc32fast} {parser : UuidParser} {decode : Decoder} {process after : Process} {step : Step}

theorem admits_eq (interceptor : after.interceptor = process.interceptor) (now : Nat) (authorization : Authorization)
    (rpc : Rpc) : after.admits decode now authorization rpc = process.admits decode now authorization rpc := by
  rw [Process.admits, Process.admits, interceptor]

theorem Admitted.later {exchange later : Exchange} (admitted : Admitted decode process exchange)
    (interceptor : after.interceptor = process.interceptor) (same : SameRequest exchange later) :
    Admitted decode after later := by
  rw [Admitted, admits_eq interceptor, same.1, same.2.1, same.2.2]
  exact admitted

theorem ExchangeKept.grow {exchange : Exchange} (kept : ExchangeKept parser decode process exchange)
    (carries : Carries process after) : ExchangeKept parser decode after exchange where
  refused := by
    intro message
    rw [admits_eq carries.interceptor]
    exact kept.refused message
  rejects := by
    intro message
    rw [admits_eq carries.interceptor]
    exact kept.rejects message
  appending := by
    intro index progress
    obtain ⟨call, here, asks⟩ := kept.appending index progress
    obtain ⟨later, found, same, _⟩ := carries.calls index call here
    exact ⟨later, found, by rw [same]; exact asks⟩
  acknowledged := by
    intro response progress
    obtain ⟨answer, sent, rest⟩ := kept.acknowledged response progress
    exact ⟨answer, carries.answers sent, rest⟩
  opened := kept.opened
  streaming := by
    intro index progress
    obtain ⟨subscriber, here, opens⟩ := kept.streaming index progress
    obtain ⟨later, found, target, start, _⟩ := carries.subscribers index subscriber here
    exact ⟨later, found, by rw [target, start]; exact opens⟩

structure Grown (process after : Process) : Prop extends Carries process after where
  heads : ∀ exchange ∈ process.exchanges, ∃ later ∈ after.exchanges, SameRequest exchange later
  pending : ∀ index call, after.system.calls[index]? = some call → call.phase.pending = true →
    ∀ exchange ∈ process.exchanges, exchange.progress = .appending index → exchange ∈ after.exchanges
  alive : ∀ index subscriber, after.subscribers[index]? = some subscriber → subscriber.alive = true →
    ∀ exchange ∈ process.exchanges, exchange.progress = .streaming index → exchange ∈ after.exchanges

theorem Traced.grow (traced : Traced parser decode process) (grown : Grown process after)
    (exchanges : ∀ exchange ∈ after.exchanges, exchange ∈ process.exchanges ∨ ExchangeKept parser decode after exchange)
    (calls : ∀ index call, after.system.calls[index]? = some call →
      (∃ earlier, process.system.calls[index]? = some earlier ∧ CallFollows earlier call) ∨
        ∃ exchange ∈ after.exchanges, Admitted decode after exchange ∧ Asks parser exchange.rpc call.request ∧
          exchange.progress = .appending index)
    (subscribers : ∀ index subscriber, after.subscribers[index]? = some subscriber →
      (∃ earlier, process.subscribers[index]? = some earlier ∧ SubscriberFollows earlier subscriber) ∨
        ∃ exchange ∈ after.exchanges, Admitted decode after exchange ∧
          Opens parser exchange.rpc subscriber.target subscriber.start ∧ exchange.progress = .streaming index) :
    Traced parser decode after where
  exchanges := by
    intro exchange member
    rcases exchanges exchange member with old | new
    · exact (traced.exchanges exchange old).grow grown.toCarries
    · exact new
  calls := by
    intro index call here
    rcases calls index call here with ⟨earlier, found, request, _⟩ | ⟨exchange, member, admitted, asks, _⟩
    · obtain ⟨exchange, member, admitted, asks⟩ := traced.calls index earlier found
      obtain ⟨later, present, same⟩ := grown.heads exchange member
      exact ⟨later, present, admitted.later grown.interceptor same, by rw [same.2.2, request]; exact asks⟩
    · exact ⟨exchange, member, admitted, asks⟩
  pending := by
    intro index call here pending
    rcases calls index call here with ⟨earlier, found, _, before⟩ | ⟨exchange, member, _, _, progress⟩
    · obtain ⟨exchange, member, progress⟩ := traced.pending index earlier found (before pending)
      exact ⟨exchange, grown.pending index call here pending exchange member progress, progress⟩
    · exact ⟨exchange, member, progress⟩
  subscribers := by
    intro index subscriber here
    rcases subscribers index subscriber here with ⟨earlier, found, target, start, _⟩ | ⟨exchange, member, admitted, opens, _⟩
    · obtain ⟨exchange, member, admitted, opens⟩ := traced.subscribers index earlier found
      obtain ⟨later, present, same⟩ := grown.heads exchange member
      exact ⟨later, present, admitted.later grown.interceptor same, by rw [same.2.2, target, start]; exact opens⟩
    · exact ⟨exchange, member, admitted, opens⟩
  alive := by
    intro index subscriber here alive
    rcases subscribers index subscriber here with ⟨earlier, found, _, _, before⟩ | ⟨exchange, member, _, _, progress⟩
    · obtain ⟨exchange, member, progress⟩ := traced.alive index earlier found (before alive)
      exact ⟨exchange, grown.alive index subscriber here alive exchange member progress, progress⟩
    · exact ⟨exchange, member, progress⟩

theorem Traced.same (traced : Traced parser decode process) (carries : Carries process after)
    (exchanges : after.exchanges = process.exchanges)
    (calls : after.system.calls.length = process.system.calls.length)
    (subscribers : after.subscribers.length = process.subscribers.length) : Traced parser decode after := by
  have stay : ∀ exchange ∈ process.exchanges, exchange ∈ after.exchanges := by
    intro exchange member
    rw [exchanges]
    exact member
  refine traced.grow ⟨carries, ?_, ?_, ?_⟩ ?_ ?_ ?_
  · exact fun exchange member => ⟨exchange, stay exchange member, rfl, rfl, rfl⟩
  · exact fun _ _ _ _ exchange member _ => stay exchange member
  · exact fun _ _ _ _ exchange member _ => stay exchange member
  · intro exchange member
    rw [exchanges] at member
    exact .inl member
  · exact fun index call here => .inl (carries.calls.back calls here)
  · exact fun index subscriber here => .inl (carries.subscribers.back subscribers here)

theorem Traced.snoc (traced : Traced parser decode process) (carries : Carries process after) {exchange : Exchange}
    (exchanges : after.exchanges = process.exchanges ++ [exchange]) (kept : ExchangeKept parser decode after exchange)
    (calls : ∀ index call, after.system.calls[index]? = some call → process.system.calls[index]? = some call ∨
      Admitted decode after exchange ∧ Asks parser exchange.rpc call.request ∧ exchange.progress = .appending index)
    (subscribers : after.subscribers = process.subscribers) : Traced parser decode after := by
  have stay : ∀ other ∈ process.exchanges, other ∈ after.exchanges := by
    intro other member
    rw [exchanges]
    exact List.mem_append_left _ member
  have new : exchange ∈ after.exchanges := by
    rw [exchanges]
    exact List.mem_append_right _ (List.mem_singleton_self _)
  refine traced.grow ⟨carries, ?_, ?_, ?_⟩ ?_ ?_ ?_
  · exact fun other member => ⟨other, stay other member, rfl, rfl, rfl⟩
  · exact fun _ _ _ _ other member _ => stay other member
  · exact fun _ _ _ _ other member _ => stay other member
  · intro other member
    rw [exchanges] at member
    rcases List.mem_append.mp member with old | isNew
    · exact .inl old
    · rw [List.mem_singleton.mp isNew]
      exact .inr kept
  · intro index call here
    rcases calls index call here with old | ⟨admitted, asks, progress⟩
    · exact .inl ⟨call, old, callFollows_refl call⟩
    · exact .inr ⟨exchange, new, admitted, asks, progress⟩
  · intro index subscriber here
    rw [subscribers] at here
    exact .inl ⟨subscriber, here, subscriberFollows_refl subscriber⟩

/-- A request is served further. What it referred to before is over or still referred to. -/
theorem Traced.put (traced : Traced parser decode process) (carries : Carries process after) {index : Nat}
    {exchange : Exchange} {progress : Progress} (here : process.exchanges[index]? = some exchange)
    (exchanges : after.exchanges = process.exchanges.set index { exchange with progress })
    (kept : ExchangeKept parser decode after { exchange with progress })
    (calls : after.system.calls.length = process.system.calls.length)
    (callOver : ∀ index call, exchange.progress = .appending index → after.system.calls[index]? = some call →
      call.phase.pending = false)
    (subscribers : ∀ index subscriber, after.subscribers[index]? = some subscriber →
      (∃ earlier, process.subscribers[index]? = some earlier ∧ SubscriberFollows earlier subscriber) ∨
        Admitted decode after exchange ∧ Opens parser exchange.rpc subscriber.target subscriber.start ∧
          progress = .streaming index)
    (streamOver : ∀ index subscriber, exchange.progress = .streaming index →
      after.subscribers[index]? = some subscriber → subscriber.alive = false) : Traced parser decode after := by
  obtain ⟨inside, atIndex⟩ := List.getElem?_eq_some_iff.mp here
  have new : { exchange with progress } ∈ after.exchanges := by
    rw [exchanges]
    exact List.mem_set inside _
  have stay : ∀ other ∈ process.exchanges, other = exchange ∨ other ∈ after.exchanges := by
    intro other member
    obtain ⟨place, found⟩ := List.mem_iff_getElem?.mp member
    by_cases hit : index = place
    · rw [← hit, here] at found
      exact .inl (Option.some.inj found).symm
    · right
      rw [exchanges]
      exact List.mem_of_getElem? ((List.getElem?_set_ne hit).trans found)
  refine traced.grow ⟨carries, ?_, ?_, ?_⟩ ?_ ?_ ?_
  · intro other member
    rcases stay other member with isExchange | later
    · rw [isExchange]
      exact ⟨_, new, rfl, rfl, rfl⟩
    · exact ⟨other, later, rfl, rfl, rfl⟩
  · intro place call found pending other member appending
    rcases stay other member with isExchange | later
    · rw [isExchange] at appending
      rw [callOver place call appending found] at pending
      cases pending
    · exact later
  · intro place subscriber found alive other member streaming
    rcases stay other member with isExchange | later
    · rw [isExchange] at streaming
      rw [streamOver place subscriber streaming found] at alive
      cases alive
    · exact later
  · intro other member
    rw [exchanges] at member
    rcases List.mem_or_eq_of_mem_set member with old | isNew
    · exact .inl old
    · rw [isNew]
      exact .inr kept
  · exact fun place call found => .inl (carries.calls.back calls found)
  · intro place subscriber found
    rcases subscribers place subscriber found with old | ⟨admitted, opens, streaming⟩
    · exact .inl old
    · exact .inr ⟨_, new, admitted, opens, streaming⟩

theorem carries_refl (system : after.system = process.system) (subscribers : after.subscribers = process.subscribers)
    (interceptor : after.interceptor = process.interceptor) : Carries process after where
  interceptor := interceptor
  answers := by
    rw [system]
    exact List.Subset.refl _
  calls := by
    rw [system]
    exact carried_refl callFollows_refl _
  subscribers := by
    rw [subscribers]
    exact carried_refl subscriberFollows_refl _

theorem carries_system (before later : Process) {inner : WriterSystem.Step} {system : WriterSystem}
    (moves : WriterHandle.Moves crc before.system inner system) (old : ∀ request, inner ≠ .append request)
    (same : later.system = system) (subscribers : later.subscribers = before.subscribers)
    (interceptor : later.interceptor = before.interceptor) :
    Carries before later ∧ later.system.calls.length = before.system.calls.length := by
  obtain ⟨carried, length⟩ := calls_carried moves old
  refine ⟨⟨interceptor, ?_, ?_, ?_⟩, ?_⟩
  · rw [same]
    exact (answers_grow moves).subset
  · rw [same]
    exact carried
  · rw [subscribers]
    exact carried_refl subscriberFollows_refl _
  · rw [same]
    exact length

theorem old_of_working {inner : WriterSystem.Step} (own : working inner = true) (request : AppendRequest) :
    inner ≠ .append request := by
  intro same
  rw [same] at own
  cases own

theorem exchangeKept_plain {exchange : Exchange}
    (refused : ∀ message, process.admits decode exchange.receivedAt exchange.authorization exchange.rpc = .error message →
      exchange.progress = .replied (.unauthenticated message))
    (plain : exchange.progress = .cancelled ∨ exchange.progress = .watching ∨
      ∃ reply, Modest reply ∧ exchange.progress = .replied reply) :
    ExchangeKept parser decode process exchange := by
  rcases plain with cancelled | watching | ⟨reply, modest, replied⟩
  · refine ⟨refused, ?_, ?_, ?_, ?_, ?_⟩ <;> intros <;> simp_all
  · refine ⟨refused, ?_, ?_, ?_, ?_, ?_⟩ <;> intros <;> simp_all
  · refine ⟨refused, ?_, ?_, ?_, ?_, ?_⟩
    · intro message progress
      rw [replied] at progress
      exact absurd (Progress.replied.inj progress) (modest.2 message)
    · intro index progress
      rw [replied] at progress
      cases progress
    · intro response progress
      rw [replied] at progress
      exact absurd (Progress.replied.inj progress) (modest.1 response)
    · intro target start progress
      rw [replied] at progress
      cases progress
    · intro index progress
      rw [replied] at progress
      cases progress

theorem ExchangeKept.admitted {exchange : Exchange} (kept : ExchangeKept parser decode process exchange)
    (going : ∀ message, exchange.progress ≠ .replied (.unauthenticated message)) :
    Admitted decode process exchange := by
  rw [Admitted]
  cases checked : process.admits decode exchange.receivedAt exchange.authorization exchange.rpc with
  | error message => exact absurd (kept.refused message checked) (going message)
  | ok _ => rfl

theorem refused_of_admitted {now : Nat} {authorization : Authorization} {rpc : Rpc}
    (admitted : process.admits decode now authorization rpc = .ok ()) (progress : Progress) (message : String)
    (refused : process.admits decode now authorization rpc = .error message) :
    progress = .replied (.unauthenticated message) := by
  rw [admitted] at refused
  cases refused

theorem Traced.called (traced : Traced parser decode process) {authorization : Authorization} {now : Nat} {rpc : Rpc}
    {request : AppendRequest} {system : WriterSystem} (admitted : process.admits decode now authorization rpc = .ok ())
    (asks : Asks parser rpc request) (moved : WriterSystem.next crc (.append request) process.system = some system) :
    Traced parser decode
      { process with
        system
        exchanges := accept process authorization now rpc (.appending process.system.calls.length) } := by
  cases WriterHandle.moves_of_next moved with
  | append _ handle =>
    refine traced.snoc ⟨rfl, List.Subset.refl _, carried_append callFollows_refl _ _,
      carried_refl subscriberFollows_refl _⟩ rfl ?_ ?_ rfl
    · refine ⟨refused_of_admitted admitted _, ?_, ?_, ?_, ?_, ?_⟩
      · intro message impossible
        cases impossible
      · intro index progress
        cases progress
        exact ⟨_, List.getElem?_concat_length, asks⟩
      · intro response progress
        cases progress
      · intro target start progress
        cases progress
      · intro index progress
        cases progress
    · intro index call here
      rcases getElem?_snoc here with old | ⟨atEnd, new⟩
      · exact .inl old
      · rw [atEnd, new]
        exact .inr ⟨admitted, asks, rfl⟩
  | own step inner task same running taskMoved => cases same

theorem Traced.answered (traced : Traced parser decode process) (kept : WriterHandle.Kept process.system)
    {index place : Nat} {exchange : Exchange} {made : Call} {result : Except Error (List RecordedEvent)}
    (here : process.exchanges[index]? = some exchange) (progress : exchange.progress = .appending place)
    (found : process.system.calls[place]? = some made) (returned : made.phase = .returned result) :
    Traced parser decode (process.put index exchange (.replied (Process.answer result))) := by
  have before := traced.exchanges exchange (List.mem_of_getElem? here)
  have admitted := before.admitted (by simp [progress])
  refine traced.put (carries_refl rfl rfl rfl) here rfl ?_ rfl ?_ ?_ ?_
  · refine ⟨refused_of_admitted admitted _, ?_, ?_, ?_, ?_, ?_⟩
    · intro message impossible
      cases result <;> cases impossible
    · intro index impossible
      cases impossible
    · intro response isOk
      obtain ⟨call, atPlace, asks⟩ := before.appending place progress
      rw [found] at atPlace
      cases atPlace
      cases result with
      | error error => cases isOk
      | ok recorded =>
        have responded : EventfoldService.respond recorded = ok response := by
          simpa [Process.answer] using isOk
        rcases (kept.calls made (List.mem_of_getElem? found)).returned _ returned with
          ⟨answer, sent, _, request, same⟩ | ⟨_, closed, _⟩
        · exact ⟨answer, sent, recorded, by rw [request]; exact asks, same, responded⟩
        · cases closed
    · intro target start impossible
      cases impossible
    · intro index impossible
      cases impossible
  · intro other call appending atOther
    rw [progress] at appending
    cases appending
    rw [show (process.put index exchange _).system.calls[place]? = some made from found] at atOther
    cases atOther
    rw [returned]
    rfl
  · exact fun place subscriber found => .inl ⟨subscriber, found, subscriberFollows_refl subscriber⟩
  · intro other subscriber streaming
    rw [progress] at streaming
    cases streaming

theorem Traced.subscribed (traced : Traced parser decode process) {index : Nat} {exchange : Exchange} {target : Target}
    {start : UInt64} {hub : Hub} (here : process.exchanges[index]? = some exchange)
    (progress : exchange.progress = .opened target start)
    (moved : Hub.next crc (.subscribe target start) process.hub = some hub) :
    Traced parser decode
      ({ process with
          broker := hub.broker
          subscribers := hub.subscribers
          subscriptionsActive := process.subscriptionsActive + 1 }.put index exchange
        (.streaming process.subscribers.length)) := by
  have before := traced.exchanges exchange (List.mem_of_getElem? here)
  have admitted := before.admitted (by simp [progress])
  have opens := before.opened target start progress
  rw [Hub.next] at moved
  split_ifs at moved
  cases moved
  refine traced.put ⟨rfl, List.Subset.refl _, carried_refl callFollows_refl _, carried_append subscriberFollows_refl _ _⟩
    here rfl ?_ rfl ?_ ?_ ?_
  · refine ⟨refused_of_admitted admitted _, ?_, ?_, ?_, ?_, ?_⟩
    · intro message impossible
      cases impossible
    · intro index impossible
      cases impossible
    · intro response impossible
      cases impossible
    · intro target start impossible
      cases impossible
    · intro place same
      cases same
      exact ⟨_, List.getElem?_concat_length, opens⟩
  · intro place call appending
    rw [progress] at appending
    cases appending
  · intro place subscriber found
    rcases getElem?_snoc found with old | ⟨atEnd, new⟩
    · exact .inl ⟨subscriber, old, subscriberFollows_refl subscriber⟩
    · rw [atEnd, new]
      exact .inr ⟨admitted, opens, rfl⟩
  · intro place subscriber streaming
    rw [progress] at streaming
    cases streaming

theorem Traced.cancelled (traced : Traced parser decode process) (carries : Carries process after) {index : Nat}
    {exchange : Exchange} (here : process.exchanges[index]? = some exchange)
    (exchanges : after.exchanges = process.exchanges.set index { exchange with progress := .cancelled })
    (going : ∀ message, exchange.progress ≠ .replied (.unauthenticated message))
    (calls : after.system.calls.length = process.system.calls.length)
    (callOver : ∀ index call, exchange.progress = .appending index → after.system.calls[index]? = some call →
      call.phase.pending = false)
    (subscribers : after.subscribers.length = process.subscribers.length)
    (streamOver : ∀ index subscriber, exchange.progress = .streaming index →
      after.subscribers[index]? = some subscriber → subscriber.alive = false) : Traced parser decode after := by
  have before := traced.exchanges exchange (List.mem_of_getElem? here)
  have admitted : Admitted decode after { exchange with progress := .cancelled } :=
    (before.admitted going).later carries.interceptor ⟨rfl, rfl, rfl⟩
  exact traced.put carries here exchanges
    (exchangeKept_plain (refused_of_admitted admitted _) (.inl rfl))
    calls callOver (fun place subscriber found => .inl (carries.subscribers.back subscribers found)) streamOver

theorem Traced.withdrawn (traced : Traced parser decode process) {index place : Nat} {exchange : Exchange}
    {system : WriterSystem} (here : process.exchanges[index]? = some exchange)
    (progress : exchange.progress = .appending place)
    (moved : WriterSystem.next crc (.cancel place) process.system = some system) :
    Traced parser decode ({ process with system }.put index exchange .cancelled) := by
  have moves := WriterHandle.moves_of_next moved
  obtain ⟨carries, length⟩ := carries_system process ({ process with system }.put index exchange .cancelled) moves
    (fun _ impossible => by cases impossible) rfl rfl rfl
  refine traced.cancelled carries here rfl (by simp [progress]) length ?_ rfl ?_
  · intro other call appending found
    rw [progress] at appending
    cases appending
    cases moves with
    | cancel _ made calls pending replaced =>
      obtain ⟨inside, _⟩ := List.getElem?_eq_some_iff.mp replaced.here
      rw [show (Process.put _ index exchange .cancelled).system.calls = calls from rfl, replaced.set,
        List.getElem?_set_self inside] at found
      cases found
      rfl
    | own step inner task same running taskMoved => cases same
  · intro other subscriber streaming
    rw [progress] at streaming
    cases streaming

theorem Traced.missed (traced : Traced parser decode process) {index place : Nat} {exchange : Exchange}
    (here : process.exchanges[index]? = some exchange) (progress : exchange.progress = .appending place)
    (finished : WriterSystem.next crc (.cancel place) process.system = none) :
    Traced parser decode (process.put index exchange .cancelled) := by
  refine traced.cancelled (carries_refl rfl rfl rfl) here rfl (by simp [progress]) rfl ?_ rfl ?_
  · intro other call appending found
    rw [progress] at appending
    cases appending
    rw [WriterSystem.next, show process.system.calls[place]? = some call from found] at finished
    dsimp only at finished
    split_ifs at finished with pending
    exact eq_false_of_ne_true pending
  · intro other subscriber streaming
    rw [progress] at streaming
    cases streaming

theorem Traced.next (traced : Traced parser decode process) (kept : WriterHandle.Kept process.system)
    (moves : Moves crc parser decode process step after) : Traced parser decode after := by
  cases moves with
  | rejected authorization now rpc iteration message listening refused =>
    refine traced.snoc (carries_refl rfl rfl rfl) rfl ?_ (fun _ _ here => .inl here) rfl
    refine ⟨?_, ?_, ?_, ?_, ?_, ?_⟩
    · intro other same
      rw [show process.admits decode now authorization rpc = .error other from same] at refused
      cases refused
      rfl
    · intro other same
      cases same
      exact refused
    · intro index impossible
      cases impossible
    · intro response impossible
      cases impossible
    · intro target start impossible
      cases impossible
    · intro index impossible
      cases impossible
  | called authorization now rpc iteration request system listening admitted asks moved =>
    exact traced.called admitted asks moved
  | served authorization now rpc iteration reply listening admitted modest =>
    exact traced.snoc (carries_refl rfl rfl rfl) rfl
      (exchangeKept_plain (refused_of_admitted admitted _) (.inr (.inr ⟨reply, modest, rfl⟩))) (fun _ _ here => .inl here) rfl
  | opened authorization now rpc iteration target start listening admitted opens =>
    refine traced.snoc (carries_refl rfl rfl rfl) rfl ⟨refused_of_admitted admitted _, ?_, ?_, ?_, ?_, ?_⟩
      (fun _ _ here => .inl here) rfl
    · intro message impossible
      cases impossible
    · intro index impossible
      cases impossible
    · intro response impossible
      cases impossible
    · intro target start same
      cases same
      exact opens
    · intro index impossible
      cases impossible
  | watched authorization now iteration listening =>
    have free : process.admits decode now authorization (.health true) = .ok () := by
      rw [Process.admits]
      cases process.interceptor <;> rfl
    exact traced.snoc (carries_refl rfl rfl rfl) rfl
      (exchangeKept_plain (refused_of_admitted free _) (.inr (.inl rfl))) (fun _ _ here => .inl here) rfl
  | worked step system own quiet moved =>
    obtain ⟨carries, length⟩ := carries_system process { process with system } (WriterHandle.moves_of_next moved)
      (old_of_working own) rfl rfl rfl
    exact traced.same carries rfl length rfl
  | published system moved =>
    obtain ⟨carries, length⟩ := carries_system process
      { process with
        system
        broker := process.broker.publish (Task.sends .publish process.system.task)
        published := process.published ++ Task.sends .publish process.system.task }
      (WriterHandle.moves_of_next moved) (fun _ impossible => by cases impossible) rfl rfl rfl
    exact traced.same carries rfl length rfl
  | answered index place exchange made result here progress found returned =>
    exact traced.answered kept here progress found returned
  | subscribed index exchange target start hub here progress moved => exact traced.subscribed here progress moved
  | polled index place exchange hub here progress moved =>
    obtain ⟨carried, length⟩ := poll_carried moved
    exact traced.same ⟨rfl, List.Subset.refl _, carried_refl callFollows_refl _, carried⟩ rfl rfl length
  | withdrawn index place exchange system here progress moved => exact traced.withdrawn here progress moved
  | missed index place exchange here progress finished => exact traced.missed here progress finished
  | closed index exchange target start here progress =>
    refine traced.cancelled (carries_refl rfl rfl rfl) here rfl (by simp [progress]) rfl ?_ rfl ?_
    · intro other call appending
      rw [progress] at appending
      cases appending
    · intro other subscriber streaming
      rw [progress] at streaming
      cases streaming
  | unwatched index exchange here progress =>
    refine traced.cancelled (carries_refl rfl rfl rfl) here rfl (by simp [progress]) rfl ?_ rfl ?_
    · intro other call appending
      rw [progress] at appending
      cases appending
    · intro other subscriber streaming
      rw [progress] at streaming
      cases streaming
  | dropped index place exchange hub here progress moved =>
    obtain ⟨carried, length, finished⟩ := drop_carried moved
    refine traced.cancelled ⟨rfl, List.Subset.refl _, carried_refl callFollows_refl _, carried⟩ here rfl
      (by simp [progress]) rfl ?_ length ?_
    · intro other call appending
      rw [progress] at appending
      cases appending
    · intro other subscriber streaming found
      rw [progress] at streaming
      cases streaming
      exact finished subscriber found
  | signalled listening => exact traced.same (carries_refl rfl rfl rfl) rfl rfl rfl
  | released half system draining idle first second =>
    obtain ⟨carries, length⟩ := carries_system process { process with system := half }
      (WriterHandle.moves_of_next first) (fun _ impossible => by cases impossible) rfl rfl rfl
    have halfway := traced.same carries rfl length rfl
    obtain ⟨carriesAgain, lengthAgain⟩ := carries_system { process with system := half }
      { process with system, stage := .joining }
      (WriterHandle.moves_of_next second) (fun _ impossible => by cases impossible) rfl rfl rfl
    exact halfway.same carriesAgain rfl lengthAgain rfl
  | joined stage joining finished same => exact traced.same (carries_refl rfl rfl rfl) rfl rfl rfl

end

/-! ### Whole runs -/

/-- What holds of every state of a server that was started over this store. -/
structure Kept {Addr : Type} (crc : Crc32fast) (parser : UuidParser) (decode : Decoder) (platform : Platform)
    (config : Config Addr) (store : Store) (process : Process) : Prop where
  interceptor : process.interceptor = config.jwtSecret.map JwtInterceptor.new
  system : ∃ spawned, spawnWriter platform store channelCapacity config.dedupCapacity.val.toNat = ok spawned ∧
    Reaches (WriterSystem.next crc) always spawned process.system
  hub : ∃ broker, Broker.new platform config.brokerCapacity.toNat = ok broker ∧
    Reaches (Hub.next crc) always (Hub.start (Writer.spawn store config.dedupCapacity.val.toNat) broker) process.hub
  traced : Traced parser decode process

section
variable {Addr : Type} {crc : Crc32fast} {parser : UuidParser} {decode : Decoder} {platform : Platform}
  {config : Config Addr} {store : Store} {start process : Process}

theorem started_task (started : Started platform config store start) :
    start.system.task = Task.start (Writer.spawn store config.dedupCapacity.val.toNat) ∧ start.system.calls = [] ∧
      start.system.handles = 2 := by
  obtain ⟨spawned, isSpawned, same⟩ := started.system
  unfold spawnWriter at isSpawned
  split_ifs at isSpawned
  cases isSpawned
  rw [same]
  exact ⟨rfl, rfl, rfl⟩

theorem started_hub (started : Started platform config store start) :
    start.hub = Hub.start (Writer.spawn store config.dedupCapacity.val.toNat) start.broker := by
  rw [Process.hub, (started_task started).1, started.subscribers, started.published]
  rfl

theorem started_unclosed (started : Started platform config store start) : start.broker.tx.closed = false := by
  have created := started.broker
  unfold Broker.new at created
  split_ifs at created
  rw [← ok.inj created]
  rfl

theorem started_reaches (started : Started platform config store start) : ∃ spawned,
    spawnWriter platform store channelCapacity config.dedupCapacity.val.toNat = ok spawned ∧
      Reaches (WriterSystem.next crc) always spawned start.system := by
  obtain ⟨spawned, isSpawned, same⟩ := started.system
  refine ⟨spawned, isSpawned, .single ⟨.clone, trivial, ?_⟩⟩
  unfold spawnWriter at isSpawned
  split_ifs at isSpawned
  cases isSpawned
  rw [same]
  rfl

theorem traced_start (started : Started platform config store start) : Traced parser decode start := by
  obtain ⟨_, calls, _⟩ := started_task started
  refine ⟨?_, ?_, ?_, ?_, ?_⟩ <;> intros <;> simp_all [started.exchanges, started.subscribers]

theorem kept_of_run (started : Started platform config store start) {allowed : Process → Step → Prop}
    (run : Reaches (Process.next crc parser decode) allowed start process) :
    Kept crc parser decode platform config store process := by
  obtain ⟨spawned, isSpawned, cloned⟩ := @started_reaches Addr crc platform config store start started
  have holds := run.invariant
    (fun process => process.interceptor = start.interceptor ∧ Embedded crc start process ∧ Traced parser decode process)
    ⟨rfl, ⟨.refl, .refl, started_unclosed started⟩, traced_start started⟩ (by
      intro before step after ⟨interceptor, embedded, traced⟩ _ moved
      have moves := moves_of_next moved
      have kept := WriterHandle.kept_of_run isSpawned (cloned.trans embedded.system)
      refine ⟨?_, embedded.next moves, traced.next kept moves⟩
      cases moves <;> exact interceptor)
  obtain ⟨interceptor, embedded, traced⟩ := holds
  refine ⟨interceptor.trans started.interceptor, ⟨spawned, isSpawned, cloned.trans embedded.system⟩,
    ⟨start.broker, started.broker, ?_⟩, traced⟩
  rw [← started_hub started]
  exact embedded.hub

/-- A step of the server is at most one step of the writer task. It submits what a caller asks for, and
it fails as the step says. -/
theorem task_step {after : Process} {step : Step} (moves : Moves crc parser decode process step after) :
    after.system.task = process.system.task ∨ ∃ inner, Task.next crc inner process.system.task = some after.system.task ∧
      (∀ request, inner = .submit request → ∃ call ∈ process.system.calls, call.request = request) ∧
      ∀ fault, inner = .serve fault → step = .writer (.serve fault) := by
  cases moves with
  | rejected | served | opened | watched | answered | subscribed | polled | missed | closed | unwatched | dropped | signalled
  | joined =>
    exact .inl rfl
  | called authorization now rpc iteration request system listening admitted asks moved =>
    rcases task_next (WriterHandle.moves_of_next moved) (fun impossible => by cases impossible) with
      same | ⟨inner, taskMoved, _, submits, serves⟩
    · exact .inl same
    · refine .inr ⟨inner, taskMoved, submits, ?_⟩
      intro fault isServe
      cases serves fault isServe
  | worked step system own quiet moved =>
    rcases task_next (WriterHandle.moves_of_next moved) quiet with same | ⟨inner, taskMoved, _, submits, serves⟩
    · exact .inl same
    · refine .inr ⟨inner, taskMoved, submits, ?_⟩
      intro fault isServe
      rw [serves fault isServe]
  | published system moved =>
    exact .inr ⟨.publish, publish_next (WriterHandle.moves_of_next moved), (fun _ impossible => by cases impossible),
      (fun _ impossible => by cases impossible)⟩
  | withdrawn index place exchange system here progress moved =>
    rcases task_next (WriterHandle.moves_of_next moved) (fun impossible => by cases impossible) with
      same | ⟨inner, taskMoved, _, submits, serves⟩
    · exact .inl same
    · refine .inr ⟨inner, taskMoved, submits, ?_⟩
      intro fault isServe
      cases serves fault isServe
  | released half system draining idle first second =>
    left
    have halfway : half.task = process.system.task := by
      cases WriterHandle.moves_of_next first with
      | drop => rfl
      | own step inner task same => cases same
    cases WriterHandle.moves_of_next second with
    | drop => exact halfway
    | own step inner task same => cases same

theorem task_of_run (started : Started platform config store start) {allowed : Process → Step → Prop}
    (run : Reaches (Process.next crc parser decode) allowed start process) :
    Reaches (Task.next crc) Task.Filled
      (Task.start (Writer.spawn store config.dedupCapacity.val.toNat)) process.system.task := by
  induction run with
  | refl => rw [(started_task started).1]
  | tail earlier step ih =>
    obtain ⟨label, _, moved⟩ := step
    rcases task_step (moves_of_next moved) with same | ⟨inner, taskMoved, submits, _⟩
    · rw [same]
      exact ih
    · refine ih.tail ⟨inner, ?_, taskMoved⟩
      cases inner with
      | submit request =>
        obtain ⟨call, member, isRequest⟩ := submits request rfl
        obtain ⟨index, here⟩ := List.mem_iff_getElem?.mp member
        obtain ⟨exchange, _, _, message, _, passed⟩ := (kept_of_run started earlier).traced.calls index call here
        rw [← isRequest]
        exact EventfoldService.request_filled parser message call.request passed
      | drain | serve | publish | respond => trivial

theorem call_of_ticket {system : WriterSystem} (kept : WriterHandle.Kept system) {ticket : Ticket}
    (member : ticket ∈ ledger system.task) : ∃ call ∈ system.calls, call.request = ticket.request := by
  have number : ticket.number ∈ List.range system.task.submitted := by
    rw [← kept.once]
    exact List.mem_map_of_mem member
  have sent := kept.senders.mem_iff.mpr number
  obtain ⟨call, here, isNumber⟩ := List.mem_filterMap.mp sent
  have same := kept.unique ((kept.calls call here).sent _ isNumber) member rfl
  exact ⟨call, here, congrArg Ticket.request same⟩

theorem Kept.systemKept (kept : Kept crc parser decode platform config store process) :
    WriterHandle.Kept process.system := by
  obtain ⟨spawned, isSpawned, run⟩ := kept.system
  exact WriterHandle.kept_of_run isSpawned run

end

/-! ### Runs in which the disk does its part -/

/-- No file operation fails, and a batch has no more events than its count can say. -/
def Smooth : Step → Prop
  | .request _ _ (.append message) _ => message.events.length < 2 ^ 32
  | .writer (.serve fault) => fault = .none
  | _ => True

def Undisturbed (process : Process) (step : Step) : Prop := process.Permitted step ∧ Smooth step

theorem permitted_of_undisturbed {crc : Crc32fast} {parser : UuidParser} {decode : Decoder} {start process : Process}
    (run : Reaches (Process.next crc parser decode) Undisturbed start process) :
    Reaches (Process.next crc parser decode) Process.Permitted start process :=
  run.weaken fun _ _ undisturbed => undisturbed.1

/-! ### A first run -/

def plainParsers : Parsers Unit where
  socketAddr := fun _ => .ok ()
  usize := fun _ => .ok 4
  listens := rfl
  exports := rfl

def plainHost (secret : String) : Host Unit where
  platform := .ample
  env := fun name =>
    if name = "EVENTFOLD_DATA" then some "data/log"
    else if name = "EVENTFOLD_JWT_SECRET" then some secret
    else if name ∈ ["EVENTFOLD_BROKER_CAPACITY", "EVENTFOLD_DEDUP_CAPACITY"] then some "4"
    else none
  files := fun _ => none
  syncsParent := fun path => decide ('/' ∈ path.toList)
  bareName := fun _ bare => decide_eq_false bare
  pem := fun _ => none
  tlsConfig := fun _ _ _ => false
  binds := fun _ => true

def plainConfig (secret : String) : Config Unit where
  dataPath := "data/log"
  listenAddr := ()
  brokerCapacity := 4
  dedupCapacity := ⟨4, by decide⟩
  tls := none
  metricsListen := some ()
  jwtSecret := some secret

theorem plainConfig_describes {secret : String} (present : secret ≠ "") :
    Config.Describes plainParsers (plainHost secret).env (plainConfig secret) := by
  constructor <;> simp [plainHost, plainConfig, plainParsers, Option.filter, present]

theorem plainHost_synced (secret : String) : (plainHost secret).syncsParent "data/log" = true :=
  decide_eq_true (show '/' ∈ "data/log".toList by decide)

def plainServer (secret : String) (system : WriterSystem) (published : List RecordedEvent) (exchanges : List Exchange) :
    Process where
  interceptor := some (JwtInterceptor.new secret)
  system := { system with handles := 2 }
  broker := ⟨Broadcast.Channel.new 4⟩
  subscribers := []
  published := published
  exchanges := exchanges
  subscriptionsActive := 0
  stage := .listening

def newSystem : WriterSystem := { oneCall (Task.start freshWriter) 0 none .sending with calls := [] }

theorem launch_plain (crc : Crc32fast) {secret : String} (present : secret ≠ "") :
    launch crc plainParsers (plainHost secret) =
      (ok (plainServer secret newSystem [] []), fun path => if path = "data/log" then some Store.create.file else none) := by
  have opened : openData crc (plainHost secret) (plainConfig secret).dataPath = (ok Store.create, some Store.create.file) := by
    rw [openData, show (plainConfig secret).dataPath = "data/log" from rfl, plainHost_synced]
    rfl
  rw [launch, Config.fromEnv_eq_ok.mpr (plainConfig_describes present)]
  dsimp only
  rw [opened]
  rfl

def plainParser : UuidParser := fun text => .ok (if text = "s" then idOf 0 else idOf 1)

def plainDecode : Decoder := fun _ _ _ token => if token = "t" then .ok () else .error "InvalidToken"

def plainMessage : Proto.AppendRequest :=
  ⟨"s", some ⟨some .any⟩, [⟨"e", (plainEvent 1).eventType, (plainEvent 1).metadata, (plainEvent 1).payload⟩]⟩

def stranger : Exchange := ⟨.absent, 0, .listStreams, .replied (.unauthenticated "missing authorization header")⟩

def friend (progress : Progress) : Exchange := ⟨.text ("Bearer " ++ "t"), 0, .append plainMessage, progress⟩

def visited (secret : String) (task : Task) (number : Option Nat) (phase : CallPhase) (published : List RecordedEvent)
    (progress : Progress) : Process :=
  plainServer secret (oneCall task 0 number phase) published [stranger, friend progress]

theorem admits_plain {process : Process} {secret : String} {rpc : Rpc}
    (interceptor : process.interceptor = some (JwtInterceptor.new secret)) :
    process.admits plainDecode 0 (.text ("Bearer " ++ "t")) rpc = .ok () := by
  have passes : (JwtInterceptor.new secret).call plainDecode 0 (.text ("Bearer " ++ "t")) = .ok () :=
    JwtInterceptor.call_eq_ok.mpr ⟨"t", rfl, rfl⟩
  rw [Process.admits, interceptor]
  dsimp only
  rw [passes, ite_self]

theorem serve_handles {crc : Crc32fast} {fault : Fault} {system after : WriterSystem} (handles : Nat)
    (moved : WriterSystem.next crc (.serve fault) system = some after) :
    WriterSystem.next crc (.serve fault) { system with handles } = some { after with handles } := by
  rw [WriterSystem.next] at moved ⊢
  dsimp only
  split_ifs at moved ⊢ with running panics
  · cases moved
    rfl
  · obtain ⟨task, taskMoved, same⟩ := Option.map_eq_some_iff.mp moved
    rw [← same, WriterSystem.work, taskMoved]
    rfl

theorem next_writer_serve {crc : Crc32fast} {parser : UuidParser} {decode : Decoder} {fault : Fault} {process : Process}
    {system : WriterSystem} (moved : WriterSystem.next crc (.serve fault) process.system = some system) :
    Process.next crc parser decode (.writer (.serve fault)) process = some { process with system } := by
  rw [Process.next, if_pos (show working (.serve fault) = true from rfl), moved]
  rfl

section
variable (crc : Crc32fast) (secret : String)

theorem reaches_called :
    Reaches (Process.next crc plainParser plainDecode) Undisturbed (plainServer secret newSystem [] [])
      (visited secret (Task.start freshWriter) none .sending [] (.appending 0)) := by
  have nothing : Iterates (plainServer secret newSystem [] []).log.streams [] := by
    constructor
    · exact List.nodup_nil
    · intro streamId positions
      constructor
      · intro impossible
        cases impossible
      · intro impossible
        cases impossible
  have rejects : Process.next crc plainParser plainDecode (.request .absent 0 .listStreams [])
      (plainServer secret newSystem [] []) = some (plainServer secret newSystem [] [stranger]) := rfl
  have calls : Process.next crc plainParser plainDecode (.request (.text ("Bearer " ++ "t")) 0 (.append plainMessage) [])
      (plainServer secret newSystem [] [stranger]) =
      some (visited secret (Task.start freshWriter) none .sending [] (.appending 0)) := by
    have listening : (plainServer secret newSystem [] [stranger]).stage = .listening := rfl
    rw [Process.next, if_pos listening, admits_plain rfl]
    rfl
  have few : plainMessage.events.length < 2 ^ 32 := by decide
  exact .tail (.single ⟨.request .absent 0 .listStreams [], ⟨nothing, trivial⟩, rejects⟩)
    ⟨.request (.text ("Bearer " ++ "t")) 0 (.append plainMessage) [], ⟨nothing, few⟩, calls⟩

theorem serve_visited :
    Process.next crc plainParser plainDecode (.writer (.serve .none))
      (visited secret (drained freshWriter [] 0 0 (plainRequest 0 .any [1])) (some 0) .awaiting [] (.appending 0)) =
    some (visited secret (firstTask crc) (some 0) .awaiting [] (.appending 0)) := by
  exact @next_writer_serve crc plainParser plainDecode .none _ _ (serve_handles 2 (serve_oneCall crc))

theorem reaches_served :
    Reaches (Process.next crc plainParser plainDecode) Undisturbed (plainServer secret newSystem [] [])
      (visited secret (firstTask crc) (some 0) .awaiting [] (.appending 0)) := by
  have receives : Reaches (Process.next crc plainParser plainDecode) Undisturbed
      (visited secret (Task.start freshWriter) none .sending [] (.appending 0))
      (visited secret (drained freshWriter [] 0 0 (plainRequest 0 .any [1])) (some 0) .awaiting [] (.appending 0)) :=
    reaches_of_permitted [.writer (.send 0), .writer .recv, .writer (.stamp 0)]
      (by simp [Undisturbed, Process.Permitted, Smooth]) _ _ rfl
  exact ((reaches_called crc secret).trans receives).tail ⟨.writer (.serve .none), ⟨trivial, rfl⟩, serve_visited crc secret⟩

theorem reaches_replied :
    Reaches (Process.next crc plainParser plainDecode) Undisturbed (plainServer secret newSystem [] [])
      (visited secret (firstAnswered crc) (some 0) (.returned (.ok firstBatch.events)) firstBatch.events
        (.replied (Process.answer (.ok firstBatch.events)))) :=
  (reaches_served crc secret).trans
    (reaches_of_permitted [.writer .publish, .writer .respond, .writer (.response 0), .reply 1]
      (by simp [Undisturbed, Process.Permitted, Smooth]) _ _ rfl)

end

end EventfoldDb.ServerRuns
