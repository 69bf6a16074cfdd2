import EventfoldDb.Delivery
import EventfoldDb.Lib.Broadcast

/-! Any number of subscriptions on one broker. As documented, the `broadcast` channel of the broker keeps at
least as many messages as its capacity says and tells a receiver that has fallen behind how many it has
missed; every subscription has its own place in it. To each of them the whole looks like the writer with a
single subscription whose receiver never overflows, until it lags. -/

namespace EventfoldDb
open Outcome Broadcast

/-- The largest capacity `broadcast::channel` takes, `usize::MAX / 2`. -/
def maxBrokerCapacity : Nat := 2 ^ 63 - 1

structure Broker where
  tx : Channel RecordedEvent

namespace Broker

/-- `broadcast::channel` asserts the bounds of its capacity and reserves all its places at once. -/
def new (platform : Platform) (capacity : Nat) : Outcome Error Broker :=
  if (0 < capacity ∧ capacity ≤ maxBrokerCapacity) ∧ platform.grants (.ring capacity) = true then
    ok ⟨Channel.new (platform.slots capacity)⟩
  else panic

/-- A failed send is only logged. -/
def publish (broker : Broker) (events : List RecordedEvent) : Broker :=
  ⟨events.foldl (fun tx event => tx.send event) broker.tx⟩

end Broker

inductive Target where
  | all
  | stream (streamId : Uuid)

def Target.feed : Target → Feed
  | .all => subscribeAll
  | .stream streamId => subscribeStream streamId

/-- A subscription stream. The last field only records the log when the receiver was created. -/
structure Subscriber where
  target : Target
  start : UInt64
  phase : Phase
  /-- The number of the message its receiver wants next. -/
  next : Nat
  out : List (Except Error SubscriptionMessage)
  registered : List RecordedEvent

def Subscriber.poll (log : EventLog) (tx : Channel RecordedEvent) (subscriber : Subscriber) : Option Subscriber :=
  match subscriber.phase with
  | .live lastCatchup =>
      match tx.recv subscriber.next with
      | (.value event, next) =>
          if subscriber.target.feed.wanted event = true ∧
              alreadySent subscriber.target.feed lastCatchup event = false then
            some { subscriber with next, out := subscriber.out ++ [.ok (.event event)] }
          else some { subscriber with next }
      | (.lagged _, next) =>
          some { subscriber with phase := .ended, next, out := subscriber.out ++ [.error laggedError] }
      | (.closed, next) => some { subscriber with phase := .ended, next }
      | (.empty, _) => none
  | phase =>
      (Subscription.poll subscriber.target.feed log ⟨phase, [], subscriber.out⟩).map fun polled =>
        { subscriber with phase := polled.phase, out := polled.out }

def Subscriber.alive (subscriber : Subscriber) : Bool :=
  match subscriber.phase with
  | .ended => false
  | _ => true

/-- The writer task, the broker and all subscriptions ever made. The last field only records what
has been published since the start. -/
structure Hub where
  task : Task
  broker : Broker
  subscribers : List Subscriber
  published : List RecordedEvent

namespace Hub

def log (hub : Hub) : EventLog := hub.task.writer.store.log

def start (writer : Writer) (broker : Broker) : Hub := ⟨Task.start writer, broker, [], []⟩

inductive Step where
  | writer (step : Task.Step)
  | subscribe (target : Target) (start : UInt64)
  | poll (index : Nat)
  /-- The client disconnects and the stream is dropped. -/
  | drop (index : Nat)
  /-- The last sender is dropped. -/
  | close

def put (hub : Hub) (index : Nat) (subscriber : Subscriber) : Hub :=
  { hub with
    subscribers := hub.subscribers.set index subscriber
    broker := if subscriber.alive then hub.broker else ⟨hub.broker.tx.dropReceiver⟩ }

def next (crc : Crc32fast) : Step → Hub → Option Hub
  | .writer step, hub =>
      if hub.broker.tx.closed then none
      else (Task.next crc step hub.task).map fun task =>
        { hub with
          task
          broker := hub.broker.publish (Task.sends step hub.task)
          published := hub.published ++ Task.sends step hub.task }
  | .subscribe target start, hub =>
      if hub.broker.tx.closed then none
      else some { hub with
        broker := ⟨hub.broker.tx.subscribe.2⟩
        subscribers := hub.subscribers ++
          [⟨target, start, .reading start none, hub.broker.tx.subscribe.1, [], hub.log.events⟩] }
  | .poll index, hub => do
      let subscriber ← hub.subscribers[index]?
      let polled ← subscriber.poll hub.log hub.broker.tx
      return hub.put index polled
  | .drop index, hub => do
      let subscriber ← hub.subscribers[index]?
      if subscriber.alive then return hub.put index { subscriber with phase := .ended } else none
  | .close, hub => some { hub with broker := ⟨hub.broker.tx.close⟩ }

end Hub

namespace FanOut
open AppendSpec LogInvariant WriterSpec SubscriptionInvariant Delivery Numbering Window Machine

theorem lawful_target (target : Target) : Lawful target.feed := by
  cases target with
  | all => exact lawful_all
  | stream streamId => exact lawful_stream streamId

theorem alive_iff (subscriber : Subscriber) : subscriber.alive = true ↔ subscriber.phase ≠ .ended := by
  unfold Subscriber.alive
  cases subscriber.phase <;> simp

/-! ### The channel -/

theorem publish_frame (broker : Broker) (events : List RecordedEvent) :
    (broker.publish events).tx.size = broker.tx.size ∧
      (broker.publish events).tx.receivers = broker.tx.receivers ∧
      (broker.publish events).tx.closed = broker.tx.closed := by
  obtain ⟨tx⟩ := broker
  induction events generalizing tx with
  | nil => exact ⟨rfl, rfl, rfl⟩
  | cons event events ih =>
    have rest := ih (tx.send event)
    rw [Channel.size_send, Channel.receivers_send, Channel.closed_send] at rest
    exact rest

theorem publish_holds {broker : Broker} {sent : List RecordedEvent} (holds : broker.tx.Holds sent)
    (received : broker.tx.receivers ≠ 0) (events : List RecordedEvent) :
    (broker.publish events).tx.Holds (sent ++ events) := by
  obtain ⟨tx⟩ := broker
  induction events generalizing tx sent with
  | nil =>
    rw [List.append_nil]
    exact holds
  | cons event events ih =>
    have kept : (tx.send event).receivers ≠ 0 := by
      rw [Channel.receivers_send]
      exact received
    have rest := ih (tx.send event) (Channel.Holds.send holds received event) kept
    rw [List.append_assoc] at rest
    exact rest

theorem publish_alone {broker : Broker} (alone : broker.tx.receivers = 0) (events : List RecordedEvent) :
    broker.publish events = broker := by
  obtain ⟨tx⟩ := broker
  induction events with
  | nil => rfl
  | cons event events ih =>
    have same : tx.send event = tx := if_pos alone
    rw [Broker.publish, List.foldl_cons]
    dsimp only
    rw [same]
    exact ih

/-! ### Each subscription has a system of its own -/

section
variable (crc : Crc32fast) (writer : Writer) (task : Task) (published : List RecordedEvent)

def Vacant : Prop :=
  ∀ feed start, ∃ system, Reaches (System.next crc feed start) always (System.start writer) system ∧
    system.task = task ∧ system.published = published ∧ system.subscription = ⟨.unregistered, [], []⟩

/-- A run of the single subscription that looks the same to this subscriber. Its receiver holds
what the channel has stored behind the subscriber's place. -/
structure Mirrors (sent : List RecordedEvent) (subscriber : Subscriber) (system : System) : Prop where
  run : Reaches (System.next crc subscriber.target.feed subscriber.start) always (System.start writer) system
  task : system.task = task
  published : system.published = published
  registered : system.registered = subscriber.registered
  out : system.subscription.out = subscriber.out
  started : subscriber.phase ≠ .unregistered
  place : subscriber.alive = true → system.subscription.phase = subscriber.phase ∧
    subscriber.next ≤ sent.length ∧ system.subscription.queue = sent.drop subscriber.next

end

structure Mirrored (crc : Crc32fast) (writer : Writer) (hub : Hub) (sent : List RecordedEvent) : Prop where
  holds : hub.broker.tx.Holds sent
  receivers : hub.broker.tx.receivers = hub.subscribers.countP Subscriber.alive
  vacant : Vacant crc writer hub.task hub.published
  mirrors : ∀ subscriber ∈ hub.subscribers, ∃ system, Mirrors crc writer hub.task hub.published sent subscriber system

theorem mirrored_start (crc : Crc32fast) (writer : Writer) {platform : Platform} {capacity : Nat} {broker : Broker}
    (created : Broker.new platform capacity = ok broker) : Mirrored crc writer (Hub.start writer broker) [] := by
  unfold Broker.new at created
  split_ifs at created with fits
  cases created
  constructor
  case holds => exact Channel.holds_new _
  case receivers => rfl
  case vacant => exact fun _ _ => ⟨_, .refl, rfl, rfl, rfl⟩
  case mirrors => exact fun _ member => nomatch member

section
variable {crc : Crc32fast} {writer : Writer} {hub : Hub} {sent : List RecordedEvent}

theorem receivers_ne_zero (mirrored : Mirrored crc writer hub sent) {subscriber : Subscriber}
    (member : subscriber ∈ hub.subscribers) (alive : subscriber.alive = true) : hub.broker.tx.receivers ≠ 0 := by
  rw [mirrored.receivers]
  exact Nat.ne_of_gt (List.countP_pos_iff.mpr ⟨subscriber, member, alive⟩)

/-! The writer's step is a step of every system. -/

theorem next_writer {feed : Feed} {start : UInt64} {step : Task.Step} {system : System} {task : Task}
    (moved : Task.next crc step system.task = some task) :
    System.next crc feed start (.writer step) system = some
      { system with
        task
        subscription := system.subscription.receive (Task.sends step system.task)
        published := system.published ++ Task.sends step system.task } := by
  rw [System.next, moved]
  rfl

theorem vacant_writer {step : Task.Step} {before task : Task} {published : List RecordedEvent}
    (moved : Task.next crc step before = some task) (vacant : Vacant crc writer before published) :
    Vacant crc writer task (published ++ Task.sends step before) := by
  intro feed start
  obtain ⟨system, run, sameTask, samePublished, unregistered⟩ := vacant feed start
  rw [← sameTask] at moved
  refine ⟨_, run.tail ⟨.writer step, trivial, next_writer moved⟩, rfl, by rw [samePublished, sameTask], ?_⟩
  rw [unregistered]
  rfl

theorem mirrors_writer {step : Task.Step} {before task : Task} {published more : List RecordedEvent}
    (moved : Task.next crc step before = some task) {subscriber : Subscriber} {system : System}
    (mirrors : Mirrors crc writer before published sent subscriber system)
    (stored : subscriber.alive = true → more = Task.sends step before) :
    ∃ system, Mirrors crc writer task (published ++ Task.sends step before) (sent ++ more) subscriber system := by
  rw [← mirrors.task] at moved
  refine ⟨_, mirrors.run.tail ⟨.writer step, trivial, next_writer moved⟩, rfl, ?_, mirrors.registered, ?_,
    mirrors.started, ?_⟩
  · rw [mirrors.published, mirrors.task]
  · rw [← mirrors.out]
    unfold Subscription.receive
    split <;> rfl
  · intro alive
    obtain ⟨phase, inside, queue⟩ := mirrors.place alive
    have receives : system.subscription.receive (Task.sends step system.task) =
        { system.subscription with queue := system.subscription.queue ++ Task.sends step system.task } := by
      unfold Subscription.receive
      split
      next unregistered => exact absurd (phase.symm.trans unregistered) mirrors.started
      next => rfl
    rw [receives]
    refine ⟨phase, by rw [List.length_append]; omega, ?_⟩
    rw [queue, List.drop_append_of_le_length inside, stored alive, mirrors.task]

theorem mirrored_writer (mirrored : Mirrored crc writer hub sent) {step : Task.Step} {task : Task}
    (moved : Task.next crc step hub.task = some task) :
    ∃ sent, Mirrored crc writer
      { hub with
        task
        broker := hub.broker.publish (Task.sends step hub.task)
        published := hub.published ++ Task.sends step hub.task } sent := by
  have receivers : (hub.broker.publish (Task.sends step hub.task)).tx.receivers =
      hub.subscribers.countP Subscriber.alive := by
    rw [(publish_frame ..).2.1]
    exact mirrored.receivers
  have vacant := vacant_writer moved mirrored.vacant
  by_cases alone : hub.broker.tx.receivers = 0
  · -- Nobody listens, and nothing is stored.
    refine ⟨sent, ?_, receivers, vacant, ?_⟩
    · rw [publish_alone alone]
      exact mirrored.holds
    · intro subscriber member
      obtain ⟨system, mirrors⟩ := mirrored.mirrors subscriber member
      have absent : subscriber.alive = true → [] = Task.sends step hub.task := fun alive =>
        absurd alone (receivers_ne_zero mirrored member alive)
      have after := mirrors_writer moved mirrors absent
      rw [List.append_nil] at after
      exact after
  · refine ⟨sent ++ Task.sends step hub.task, publish_holds mirrored.holds alone _, receivers, vacant, ?_⟩
    intro subscriber member
    obtain ⟨system, mirrors⟩ := mirrored.mirrors subscriber member
    exact mirrors_writer moved mirrors (fun _ => rfl)

/-! Steps of one subscription. -/

theorem mirrored_subscribe (mirrored : Mirrored crc writer hub sent) (target : Target) (start : UInt64) :
    Mirrored crc writer
      { hub with
        broker := ⟨hub.broker.tx.subscribe.2⟩
        subscribers := hub.subscribers ++
          [⟨target, start, .reading start none, hub.broker.tx.subscribe.1, [], hub.log.events⟩] } sent where
  holds := ⟨mirrored.holds.pos, mirrored.holds.recent⟩
  receivers := by
    rw [List.countP_append, ← mirrored.receivers]
    rfl
  vacant := mirrored.vacant
  mirrors := by
    intro subscriber member
    rcases List.mem_append.mp member with old | new
    · exact mirrored.mirrors subscriber old
    · rw [List.mem_singleton.mp new]
      obtain ⟨system, run, sameTask, samePublished, unregistered⟩ := mirrored.vacant target.feed start
      have registers : System.next crc target.feed start .register system = some
          { system with
            subscription := { system.subscription with phase := .reading start none }
            registered := system.log.events
            missed := system.settled } := by
        rw [System.next, unregistered]
      refine ⟨_, run.tail ⟨.register, trivial, registers⟩, sameTask, samePublished, ?_, ?_,
        (fun impossible => by cases impossible), ?_⟩
      · rw [System.log, sameTask]
        rfl
      · rw [unregistered]
      · intro _
        have pos : hub.broker.tx.subscribe.1 = sent.length := mirrored.holds.pos
        dsimp only
        rw [unregistered, pos, List.drop_length]
        exact ⟨rfl, Nat.le_refl _, rfl⟩

theorem mirrored_put (mirrored : Mirrored crc writer hub sent) {index : Nat} {before after : Subscriber}
    (here : hub.subscribers[index]? = some before) (alive : before.alive = true)
    (mirrors : ∃ system, Mirrors crc writer hub.task hub.published sent after system) :
    Mirrored crc writer (hub.put index after) sent where
  holds := by
    unfold Hub.put
    dsimp only
    split_ifs
    · exact mirrored.holds
    · exact ⟨mirrored.holds.pos, mirrored.holds.recent⟩
  receivers := by
    obtain ⟨inside, same⟩ := List.getElem?_eq_some_iff.mp here
    have present := List.countP_pos_iff.mpr ⟨before, List.mem_of_getElem? here, alive⟩
    have count := mirrored.receivers
    unfold Hub.put
    dsimp only
    rw [List.countP_set inside, same, if_pos alive]
    split_ifs with afterAlive
    · omega
    · show hub.broker.tx.receivers - 1 = _
      omega
  vacant := mirrored.vacant
  mirrors := by
    intro subscriber member
    rcases List.mem_or_eq_of_mem_set member with old | new
    · exact mirrored.mirrors subscriber old
    · rw [new]
      exact mirrors

theorem poll_queue {feed : Feed} {log : EventLog} {phase : Phase} {out : List (Except Error SubscriptionMessage)}
    {polled : Subscription} (catching : ∀ lastCatchup, phase ≠ .live lastCatchup)
    (moved : Subscription.poll feed log ⟨phase, [], out⟩ = some polled) (queue : List RecordedEvent) :
    Subscription.poll feed log ⟨phase, queue, out⟩ = some { polled with queue } ∧ polled.phase ≠ .unregistered := by
  unfold Subscription.poll at moved ⊢
  cases phase with
  | unregistered => cases moved
  | reading cursor lastCatchup =>
    dsimp only at moved ⊢
    cases read : feed.read log cursor with
    | ok batch =>
      rw [read] at moved
      cases moved
      exact ⟨rfl, nofun⟩
    | err error =>
      rw [read] at moved
      cases error <;> cases moved <;> exact ⟨rfl, nofun⟩
    | panic =>
      rw [read] at moved
      cases moved
      exact ⟨rfl, nofun⟩
  | yielding batch batchLen cursor lastCatchup =>
    cases batch with
    | cons event batch =>
      cases moved
      exact ⟨rfl, nofun⟩
    | nil =>
      dsimp only at moved ⊢
      split_ifs at moved ⊢ with short
      · cases moved
        exact ⟨rfl, nofun⟩
      · cases moved
        exact ⟨rfl, nofun⟩
  | marking lastCatchup =>
    cases moved
    exact ⟨rfl, nofun⟩
  | live lastCatchup => exact absurd rfl (catching lastCatchup)
  | ended => cases moved

theorem mirrors_catchup {task : Task} {published : List RecordedEvent} {subscriber : Subscriber} {system : System}
    (mirrors : Mirrors crc writer task published sent subscriber system) (alive : subscriber.alive = true)
    (catching : ∀ lastCatchup, subscriber.phase ≠ .live lastCatchup) {polled : Subscription}
    (moved : Subscription.poll subscriber.target.feed task.writer.store.log ⟨subscriber.phase, [], subscriber.out⟩ =
      some polled) :
    ∃ system, Mirrors crc writer task published sent
      { subscriber with phase := polled.phase, out := polled.out } system := by
  obtain ⟨phase, inside, queue⟩ := mirrors.place alive
  obtain ⟨stepped, started⟩ := poll_queue catching moved system.subscription.queue
  rw [← phase, ← mirrors.out] at stepped
  have moves : System.next crc subscriber.target.feed subscriber.start .poll system = some
      { system with subscription := { polled with queue := system.subscription.queue } } := by
    rw [System.next, System.log, mirrors.task, stepped]
    rfl
  exact ⟨_, mirrors.run.tail ⟨.poll, trivial, moves⟩, mirrors.task, mirrors.published, mirrors.registered, rfl, started,
    fun _ => ⟨rfl, inside, queue⟩⟩

inductive PollsLive (tx : Channel RecordedEvent) (sent : List RecordedEvent) (lastCatchup : Option UInt64)
    (subscriber : Subscriber) : Subscriber → Prop
  | closed (drained : subscriber.next = sent.length) :
      PollsLive tx sent lastCatchup subscriber { subscriber with phase := .ended }
  | forwarded (event : RecordedEvent) (here : sent[subscriber.next]? = some event)
      (wanted : subscriber.target.feed.wanted event = true ∧
        alreadySent subscriber.target.feed lastCatchup event = false) :
      PollsLive tx sent lastCatchup subscriber
        { subscriber with next := subscriber.next + 1, out := subscriber.out ++ [.ok (.event event)] }
  | skipped (event : RecordedEvent) (here : sent[subscriber.next]? = some event)
      (refused : ¬(subscriber.target.feed.wanted event = true ∧
        alreadySent subscriber.target.feed lastCatchup event = false)) :
      PollsLive tx sent lastCatchup subscriber { subscriber with next := subscriber.next + 1 }
  | lagged (behind : subscriber.next + tx.size < sent.length) :
      PollsLive tx sent lastCatchup subscriber
        { subscriber with
          phase := .ended
          next := sent.length - tx.size
          out := subscriber.out ++ [.error laggedError] }

theorem pollsLive_of_poll {tx : Channel RecordedEvent} (holds : tx.Holds sent) {subscriber after : Subscriber}
    {lastCatchup : Option UInt64} (phase : subscriber.phase = .live lastCatchup)
    (inside : subscriber.next ≤ sent.length) {log : EventLog} (polled : subscriber.poll log tx = some after) :
    PollsLive tx sent lastCatchup subscriber after := by
  rw [Subscriber.poll, phase] at polled
  dsimp only at polled
  rw [holds.recv inside] at polled
  by_cases drained : subscriber.next = sent.length
  · rw [if_pos drained] at polled
    cases closed : tx.closed with
    | true =>
      rw [closed, if_pos rfl] at polled
      cases polled
      exact .closed drained
    | false =>
      rw [closed, if_neg (by simp)] at polled
      cases polled
  · rw [if_neg drained] at polled
    by_cases near : sent.length ≤ subscriber.next + tx.size
    · have here := List.getElem?_eq_getElem (show subscriber.next < sent.length by omega)
      rw [if_pos near, here] at polled
      dsimp only at polled
      split_ifs at polled with wanted
      · have forwarded : PollsLive tx sent lastCatchup subscriber _ := .forwarded _ here wanted
        rw [phase] at forwarded
        cases polled
        exact forwarded
      · have skipped : PollsLive tx sent lastCatchup subscriber _ := .skipped _ here wanted
        rw [phase] at skipped
        cases polled
        exact skipped
    · rw [if_neg near] at polled
      cases polled
      exact .lagged (by omega)

theorem mirrors_live {task : Task} {published : List RecordedEvent} {tx : Channel RecordedEvent}
    {subscriber after : Subscriber} {system : System}
    (mirrors : Mirrors crc writer task published sent subscriber system) {lastCatchup : Option UInt64}
    (phase : subscriber.phase = .live lastCatchup) (polls : PollsLive tx sent lastCatchup subscriber after) :
    ∃ system, Mirrors crc writer task published sent after system := by
  have alive : subscriber.alive = true := (alive_iff subscriber).mpr (by simp [phase])
  obtain ⟨samePhase, inside, queue⟩ := mirrors.place alive
  rw [phase] at samePhase
  cases polls with
  | closed drained =>
    rw [drained, List.drop_length] at queue
    have moves : System.next crc subscriber.target.feed subscriber.start .close system = some
        { system with subscription := { system.subscription with phase := .ended } } := by
      rw [System.next, samePhase, queue]
    exact ⟨_, mirrors.run.tail ⟨.close, trivial, moves⟩, mirrors.task, mirrors.published, mirrors.registered, mirrors.out,
      (fun impossible => by cases impossible), (fun impossible => by cases impossible)⟩
  | forwarded event here wanted =>
    obtain ⟨short, same⟩ := List.getElem?_eq_some_iff.mp here
    rw [List.drop_eq_getElem_cons short, same] at queue
    have moves : System.next crc subscriber.target.feed subscriber.start .poll system = some
        { system with
          subscription := ⟨.live lastCatchup, sent.drop (subscriber.next + 1),
            system.subscription.out ++ [.ok (.event event)]⟩ } := by
      rw [System.next, Subscription.poll, samePhase]
      dsimp only
      rw [queue]
      dsimp only
      rw [if_pos wanted]
      rfl
    refine ⟨_, mirrors.run.tail ⟨.poll, trivial, moves⟩, mirrors.task, mirrors.published, mirrors.registered, ?_,
      mirrors.started, fun _ => ⟨phase.symm, short, rfl⟩⟩
    rw [mirrors.out]
  | skipped event here refused =>
    obtain ⟨short, same⟩ := List.getElem?_eq_some_iff.mp here
    rw [List.drop_eq_getElem_cons short, same] at queue
    have moves : System.next crc subscriber.target.feed subscriber.start .poll system = some
        { system with
          subscription := ⟨.live lastCatchup, sent.drop (subscriber.next + 1), system.subscription.out⟩ } := by
      rw [System.next, Subscription.poll, samePhase]
      dsimp only
      rw [queue]
      dsimp only
      rw [if_neg refused]
      rfl
    exact ⟨_, mirrors.run.tail ⟨.poll, trivial, moves⟩, mirrors.task, mirrors.published, mirrors.registered, mirrors.out,
      mirrors.started, fun _ => ⟨phase.symm, short, rfl⟩⟩
  | lagged behind =>
    have moves : System.next crc subscriber.target.feed subscriber.start .lag system = some
        { system with subscription := { system.subscription with
            phase := .ended
            out := system.subscription.out ++ [.error laggedError] } } := by
      rw [System.next, samePhase]
    refine ⟨_, mirrors.run.tail ⟨.lag, trivial, moves⟩, mirrors.task, mirrors.published, mirrors.registered, ?_,
      (fun impossible => by cases impossible), (fun impossible => by cases impossible)⟩
    rw [mirrors.out]

theorem mirrors_poll (mirrored : Mirrored crc writer hub sent) {subscriber after : Subscriber}
    (member : subscriber ∈ hub.subscribers) (polled : subscriber.poll hub.log hub.broker.tx = some after) :
    subscriber.alive = true ∧ ∃ system, Mirrors crc writer hub.task hub.published sent after system := by
  obtain ⟨system, mirrors⟩ := mirrored.mirrors subscriber member
  have alive : subscriber.alive = true := by
    rw [alive_iff]
    intro ended
    rw [Subscriber.poll, ended] at polled
    cases polled
  refine ⟨alive, ?_⟩
  by_cases live : ∃ lastCatchup, subscriber.phase = .live lastCatchup
  · obtain ⟨lastCatchup, phase⟩ := live
    exact mirrors_live mirrors phase (pollsLive_of_poll mirrored.holds phase (mirrors.place alive).2.1 polled)
  · have catching : ∀ lastCatchup, subscriber.phase ≠ .live lastCatchup := fun lastCatchup same => live ⟨_, same⟩
    have catchup : subscriber.poll hub.log hub.broker.tx =
        (Subscription.poll subscriber.target.feed hub.log ⟨subscriber.phase, [], subscriber.out⟩).map
          fun polled => { subscriber with phase := polled.phase, out := polled.out } := by
      unfold Subscriber.poll
      split
      next lastCatchup same => exact absurd same (catching lastCatchup)
      next => rfl
    rw [catchup] at polled
    obtain ⟨subscription, moved, same⟩ := Option.map_eq_some_iff.mp polled
    rw [← same]
    exact mirrors_catchup mirrors alive catching moved

theorem mirrored_next (step : Hub.Step) {after : Hub} (mirrored : Mirrored crc writer hub sent)
    (moved : Hub.next crc step hub = some after) : ∃ sent, Mirrored crc writer after sent := by
  cases step with
  | writer step =>
    rw [Hub.next] at moved
    split_ifs at moved
    obtain ⟨task, taskMoved, same⟩ := Option.map_eq_some_iff.mp moved
    rw [← same]
    exact mirrored_writer mirrored taskMoved
  | subscribe target start =>
    rw [Hub.next] at moved
    split_ifs at moved
    cases moved
    exact ⟨sent, mirrored_subscribe mirrored target start⟩
  | poll index =>
    obtain ⟨subscriber, here, rest⟩ := Option.bind_eq_some_iff.mp moved
    obtain ⟨polled, pollMoved, same⟩ := Option.bind_eq_some_iff.mp rest
    cases same
    obtain ⟨alive, mirrors⟩ := mirrors_poll mirrored (List.mem_of_getElem? here) pollMoved
    exact ⟨sent, mirrored_put mirrored here alive mirrors⟩
  | drop index =>
    obtain ⟨subscriber, here, rest⟩ := Option.bind_eq_some_iff.mp moved
    split_ifs at rest with alive
    cases rest
    obtain ⟨system, mirrors⟩ := mirrored.mirrors subscriber (List.mem_of_getElem? here)
    exact ⟨sent, mirrored_put mirrored here alive
      ⟨system, mirrors.run, mirrors.task, mirrors.published, mirrors.registered, mirrors.out, nofun, nofun⟩⟩
  | close =>
    cases moved
    exact ⟨sent, ⟨mirrored.holds.pos, mirrored.holds.recent⟩, mirrored.receivers, mirrored.vacant, mirrored.mirrors⟩

end

theorem mirrored_of_run {crc : Crc32fast} {writer : Writer} {platform : Platform} {capacity : Nat} {broker : Broker}
    {hub : Hub} (created : Broker.new platform capacity = ok broker)
    (run : Reaches (Hub.next crc) always (Hub.start writer broker) hub) : ∃ sent, Mirrored crc writer hub sent :=
  run.invariant (fun hub => ∃ sent, Mirrored crc writer hub sent) ⟨[], mirrored_start crc writer created⟩
    (fun _ step _ ⟨_, mirrored⟩ _ moved => mirrored_next step mirrored moved)

/-! ### What every subscriber can rely on -/

structure Promises (slots : Nat) (hub : Hub) (subscriber : Subscriber) : Prop where
  genuine : ∀ event ∈ delivered subscriber.out,
    event ∈ hub.log.events ∧ subscriber.target.feed.wanted event = true
  consecutive : ∀ (i : Nat) (event following : RecordedEvent),
    (delivered subscriber.out)[i]? = some event → (delivered subscriber.out)[i + 1]? = some following →
      (subscriber.target.feed.rank following).toNat = (subscriber.target.feed.rank event).toNat + 1
  /-- The first event may lie before the start, and never behind it. -/
  begins : Headed subscriber.target.feed subscriber.start subscriber.out
  caughtUp : ∀ before behind, subscriber.out = before ++ .ok .caughtUp :: behind →
    .ok .caughtUp ∉ before ∧ .ok .caughtUp ∉ behind ∧
      ∀ event ∈ subscriber.registered, subscriber.target.feed.wanted event = true →
        subscriber.start ≤ subscriber.target.feed.rank event → .ok (.event event) ∈ before
  drained : ∀ lastCatchup, subscriber.phase = .live lastCatchup → subscriber.next = hub.broker.tx.pos →
    ∀ event ∈ hub.published, subscriber.target.feed.wanted event = true →
      subscriber.start ≤ subscriber.target.feed.rank event → event ∈ delivered subscriber.out
  /-- An error is that of a lag, the only one and the last item. -/
  errors : ∀ error, .error error ∈ subscriber.out → error = laggedError ∧ subscriber.phase = .ended ∧
    ∃ before, subscriber.out = before ++ [.error laggedError] ∧ ∀ other, .error other ∉ before
  /-- The error comes with the first poll after more messages were sent than the channel keeps. -/
  lags : ∀ lastCatchup, subscriber.phase = .live lastCatchup →
    ((subscriber.poll hub.log hub.broker.tx).map (·.out) = some (subscriber.out ++ [.error laggedError]) ↔
      slots < hub.broker.tx.pos - subscriber.next)

theorem size_next {crc : Crc32fast} {step : Hub.Step} {hub after : Hub} (moved : Hub.next crc step hub = some after) :
    after.broker.tx.size = hub.broker.tx.size := by
  have put : ∀ index subscriber, (hub.put index subscriber).broker.tx.size = hub.broker.tx.size := by
    intro index subscriber
    unfold Hub.put
    dsimp only
    split_ifs <;> rfl
  cases step with
  | writer step =>
    rw [Hub.next] at moved
    split_ifs at moved
    obtain ⟨task, -, same⟩ := Option.map_eq_some_iff.mp moved
    rw [← same]
    exact (publish_frame ..).1
  | subscribe target start =>
    rw [Hub.next] at moved
    split_ifs at moved
    cases moved
    rfl
  | poll index =>
    obtain ⟨subscriber, -, rest⟩ := Option.bind_eq_some_iff.mp moved
    obtain ⟨polled, -, same⟩ := Option.bind_eq_some_iff.mp rest
    cases same
    exact put index polled
  | drop index =>
    obtain ⟨subscriber, -, rest⟩ := Option.bind_eq_some_iff.mp moved
    split_ifs at rest
    cases rest
    exact put index _
  | close =>
    cases moved
    rfl

theorem size_of_run {crc : Crc32fast} {writer : Writer} {platform : Platform} {capacity : Nat} {broker : Broker}
    {hub : Hub} (created : Broker.new platform capacity = ok broker)
    (run : Reaches (Hub.next crc) always (Hub.start writer broker) hub) :
    hub.broker.tx.size = platform.slots capacity := by
  have same : hub.broker.tx.size = broker.tx.size :=
    run.invariant (fun hub => hub.broker.tx.size = broker.tx.size) rfl
      (fun _ _ _ size _ moved => (size_next moved).trans size)
  rw [same]
  unfold Broker.new at created
  split_ifs at created
  cases created
  rfl

section
variable {crc : Crc32fast} {writer : Writer} {hub : Hub} {sent : List RecordedEvent} {subscriber : Subscriber}
variable {system : System} (mirrors : Mirrors crc writer hub.task hub.published sent subscriber system)
variable (sound : Sound subscriber.target.feed subscriber.start system)
include mirrors sound

theorem errors_of_mirrors (error : Error) (reported : .error error ∈ subscriber.out) :
    error = laggedError ∧ subscriber.phase = .ended ∧
      ∃ before, subscriber.out = before ++ [.error laggedError] ∧ ∀ other, .error other ∉ before := by
  rw [← mirrors.out] at reported ⊢
  have isEnded : system.subscription.phase = .ended := by
    by_contra going
    exact faultless_of_sound sound going error reported
  have phase := sound.phase
  unfold PhaseSound at phase
  rw [isEnded] at phase
  obtain ⟨caught, later, tail, ended⟩ := phase
  -- everything before the tail is a message
  have clean : ∀ other, .error other ∉ caught.map message ++ .ok .caughtUp :: later.map message := by
    intro other member
    rcases List.mem_append.mp member with inCaught | inRest
    · exact error_not_message caught other inCaught
    · rcases List.mem_cons.mp inRest with marker | inLater
      · cases marker
      · exact error_not_message later other inLater
  have out := ended.out
  rw [← List.cons_append, ← List.append_assoc] at out
  rcases ended.tail with empty | lagged
  · rw [out, empty, List.append_nil] at reported
    exact absurd reported (clean error)
  · rw [lagged] at out
    refine ⟨?_, ?_, _, out, clean⟩
    · rw [out] at reported
      rcases List.mem_append.mp reported with earlier | last
      · exact absurd earlier (clean error)
      · cases List.mem_singleton.mp last
        rfl
    · by_contra going
      have same := (mirrors.place ((alive_iff subscriber).mpr going)).1
      exact going (same.symm.trans isEnded)

end

theorem drained_of_mirrors {crc : Crc32fast} {writer : Writer} {hub : Hub} {sent : List RecordedEvent}
    {subscriber : Subscriber} {system : System} (holds : hub.broker.tx.Holds sent)
    (mirrors : Mirrors crc writer hub.task hub.published sent subscriber system)
    (sound : Sound subscriber.target.feed subscriber.start system) {lastCatchup : Option UInt64}
    (live : subscriber.phase = .live lastCatchup) (drained : subscriber.next = hub.broker.tx.pos) :
    ∀ event ∈ hub.published, subscriber.target.feed.wanted event = true →
      subscriber.start ≤ subscriber.target.feed.rank event → event ∈ delivered subscriber.out := by
  obtain ⟨phase, -, queue⟩ := mirrors.place ((alive_iff subscriber).mpr (by simp [live]))
  rw [drained, holds.pos, List.drop_length] at queue
  have all := drained_of_sound (lawful_target subscriber.target) sound lastCatchup (phase.trans live) queue
  rwa [mirrors.out, mirrors.published] at all

theorem lags_iff {hub : Hub} {sent : List RecordedEvent} {subscriber : Subscriber} (holds : hub.broker.tx.Holds sent)
    (inside : subscriber.next ≤ sent.length) {lastCatchup : Option UInt64}
    (phase : subscriber.phase = .live lastCatchup) :
    (subscriber.poll hub.log hub.broker.tx).map (·.out) = some (subscriber.out ++ [.error laggedError]) ↔
      hub.broker.tx.size < hub.broker.tx.pos - subscriber.next := by
  rw [holds.pos]
  constructor
  · intro lagged
    obtain ⟨after, polled, out⟩ := Option.map_eq_some_iff.mp lagged
    cases pollsLive_of_poll holds phase inside polled with
    | closed drained => simp at out
    | forwarded event here wanted => simp at out
    | skipped event here refused => simp at out
    | lagged behind => omega
  · intro behind
    rw [Subscriber.poll, phase]
    dsimp only
    rw [holds.recv inside, if_neg (by omega), if_neg (by omega)]
    rfl

/-- However many subscribe, to whatever, and however they are interleaved with the writer and with
each other: each is served as if it were alone, and told when it has fallen behind. -/
theorem every_subscriber_served (crc : Crc32fast) (writer : Writer) (wellFormed : WellFormed writer.store.log)
    (platform : Platform) (capacity : Nat) (broker : Broker) (created : Broker.new platform capacity = ok broker)
    (hub : Hub) (run : Reaches (Hub.next crc) always (Hub.start writer broker) hub)
    (subscriber : Subscriber) (member : subscriber ∈ hub.subscribers) :
    Promises (platform.slots capacity) hub subscriber := by
  obtain ⟨sent, mirrored⟩ := mirrored_of_run created run
  obtain ⟨system, mirrors⟩ := mirrored.mirrors subscriber member
  have lawful := lawful_target subscriber.target
  have sound := sound_of_run lawful wellFormed mirrors.run
  have sameLog : system.log = hub.log := by rw [System.log, mirrors.task, Hub.log]
  constructor
  case genuine =>
    intro event delivers
    rw [← mirrors.out] at delivers
    have here := List.mem_of_getElem? (rank_delivered lawful sound delivers)
    rw [sameLog] at here
    exact ⟨List.mem_of_mem_filter here, List.of_mem_filter here⟩
  case consecutive =>
    have run := consecutive_of_sound lawful sound
    rwa [mirrors.out] at run
  case begins =>
    have headed := headed_of_run lawful wellFormed mirrors.run
    rwa [mirrors.out] at headed
  case caughtUp =>
    have marked := caughtUp_of_sound sound
    rwa [mirrors.out, mirrors.registered] at marked
  case drained => exact fun lastCatchup live drained => drained_of_mirrors mirrored.holds mirrors sound live drained
  case errors => exact errors_of_mirrors mirrors sound
  case lags =>
    intro lastCatchup live
    obtain ⟨-, inside, -⟩ := mirrors.place ((alive_iff subscriber).mpr (by simp [live]))
    rw [lags_iff mirrored.holds inside live, size_of_run created run]

/-- Two live subscribers on a channel that keeps one message, and an append of two events. The first
one receives each event when it is published, the second one comes too late. -/
theorem every_subscriber_served_two :
    ∃ broker hub quick slow, Broker.new .ample 1 = ok broker ∧
      Reaches (Hub.next Crc32fast.ieee) always (Hub.start freshWriter broker) hub ∧ hub.subscribers = [quick, slow] ∧
      (delivered quick.out).map (·.eventId) = [idOf 1, idOf 2] ∧
      slow.out = [.ok .caughtUp, .error laggedError] ∧ Promises 1 hub quick ∧ Promises 1 hub slow := by
  let crc := Crc32fast.ieee
  let request := plainRequest 0 .any [1, 2]
  let batch := plainBatch EventLog.empty 0 .any [1, 2]
  let after : Writer :=
    ⟨DiskInvariant.Store.withBatch crc freshWriter.store (idOf 0) batch, freshWriter.dedup.record batch.events⟩
  let broker : Broker := ⟨Channel.new 1⟩
  let waiting (task : Task) : Hub := ⟨task, ⟨{ broker.tx with receivers := 2 }⟩,
    [⟨.all, 0, .live none, 0, [.ok .caughtUp], []⟩, ⟨.stream (idOf 0), 0, .live none, 0, [.ok .caughtUp], []⟩], []⟩
  have created : Broker.new .ample 1 = ok broker := if_pos (by decide)
  have accepts : Accepts EventLog.empty (plainCall 0 .any [1, 2]) batch :=
    accepts_batchOf EventLog.empty _ (plainCall_valid 0 .any [1, 2]) rfl
  have served : freshWriter.serve crc .none 0 request = ⟨.ok batch.events, .appended, after, batch.events⟩ :=
    serve_accepted crc (validateBatchUniqueIds_eq_ok.mpr (by decide)) rfl accepts (by decide)
  have before : Reaches (Hub.next crc) always (Hub.start freshWriter broker)
      (waiting (drained freshWriter [] 0 0 request)) :=
    reaches_of_feed [.subscribe .all 0, .subscribe (.stream (idOf 0)) 0, .poll 0, .poll 0, .poll 0, .poll 1, .poll 1,
      .writer (.submit request), .writer (.drain 1 0)] _ _ rfl
  have serves : Hub.next crc (.writer (.serve .none)) (waiting (drained freshWriter [] 0 0 request)) =
      some (waiting (servedTask after [] 1 0 ⟨⟨0, request⟩, .appended, .ok batch.events⟩ batch.events)) := by
    have going : ¬(waiting (drained freshWriter [] 0 0 request)).broker.tx.closed = true := Bool.false_ne_true
    rw [Hub.next, if_neg going]
    dsimp only [waiting]
    rw [next_drained served]
    rfl
  have behind : Reaches (Hub.next crc) always
      (waiting (servedTask after [] 1 0 ⟨⟨0, request⟩, .appended, .ok batch.events⟩ batch.events)) _ :=
    reaches_of_feed [.writer .publish, .poll 0, .writer .publish, .poll 0, .poll 1] _ _ (by with_unfolding_all rfl)
  have run := (before.tail ⟨.writer (.serve .none), trivial, serves⟩).trans behind
  have promised := every_subscriber_served crc freshWriter wellFormed_empty .ample 1 broker created _ run
  exact ⟨broker, _, _, _, created, run, rfl, rfl, rfl, promised _ (List.mem_cons_self ..),
    promised _ (List.mem_cons_of_mem _ (List.mem_cons_self ..))⟩

end FanOut

end EventfoldDb
