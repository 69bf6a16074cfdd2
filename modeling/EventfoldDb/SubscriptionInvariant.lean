import EventfoldDb.Subscription
import EventfoldDb.WriterSpec
import EventfoldDb.Lib.Machine

/-! What a subscription has yielded is, in every state, a window of the events it is about. The
invariant says which one, in terms of what was read, received and published. -/

namespace EventfoldDb.SubscriptionInvariant
open Outcome AppendSpec LogInvariant WriterSpec Reader Numbering Window

def items (feed : Feed) (events : List RecordedEvent) : List RecordedEvent := events.filter feed.wanted

/-- The feed's events are numbered by rank, and a read returns a window of them. -/
structure Lawful (feed : Feed) : Prop where
  numbered : ∀ {log : EventLog}, WellFormed log →
    Numbered (fun event => (feed.rank event).toNat) 0 (items feed log.events)
  reads : ∀ {log : EventLog}, WellFormed log → ∀ cursor : UInt64,
    feed.read log cursor = ok (window cursor.toNat (cursor.toNat + 500) (items feed log.events)) ∨
      (∃ streamId, feed.read log cursor = err (.streamNotFound streamId)) ∧ items feed log.events = []

theorem lawful_all : Lawful subscribeAll where
  numbered := by
    intro log wellFormed
    have all : items subscribeAll log.events = log.events := List.filter_eq_self.mpr (fun _ _ => rfl)
    rw [all]
    exact wellFormed.positions
  reads := by
    intro log wellFormed cursor
    have all : items subscribeAll log.events = log.events := List.filter_eq_self.mpr (fun _ _ => rfl)
    rw [all]
    exact .inl (readAll_eq wellFormed cursor catchupBatchSize)

theorem lawful_stream (streamId : Uuid) : Lawful (subscribeStream streamId) where
  numbered := fun wellFormed => wellFormed.versions streamId
  reads := by
    intro log wellFormed cursor
    rcases readStream_eq wellFormed streamId cursor catchupBatchSize with read | ⟨missing, empty⟩
    · exact .inl read
    · exact .inr ⟨⟨streamId, missing⟩, empty⟩

theorem items_append (feed : Feed) (first second : List RecordedEvent) :
    items feed (first ++ second) = items feed first ++ items feed second := List.filter_append ..

theorem length_items_le {feed : Feed} {first second : List RecordedEvent} (inside : first <+: second) :
    (items feed first).length ≤ (items feed second).length :=
  (inside.filter feed.wanted).length_le

def message (event : RecordedEvent) : Except Error SubscriptionMessage := .ok (.event event)

def delivered (out : List (Except Error SubscriptionMessage)) : List RecordedEvent :=
  out.filterMap fun
    | .ok (.event event) => some event
    | _ => none

section
variable (feed : Feed) (start : UInt64) (system : System)

/-- Nothing has been received yet; everything from the start up to the cursor was yielded. -/
structure CatchingUp (cursor : UInt64) (lastCatchup : Option UInt64) : Prop where
  out : system.subscription.out =
    (window start.toNat cursor.toNat (items feed system.log.events)).map message
  split : system.log.events = system.missed ++ system.subscription.queue ++ system.task.unsent
  missed : system.missed <+: system.registered
  registered : system.registered <+: system.log.events
  position : lastCatchup = none ∧ cursor = start ∨
    ∃ last, lastCatchup = some last ∧ cursor.toNat = last.toNat + 1 ∧ start.toNat ≤ last.toNat ∧
      cursor.toNat ≤ (items feed system.log.events).length

/-- Everything in the log at registration was yielded before the marker. -/
def Complete (caught : List RecordedEvent) : Prop :=
  ∀ event ∈ system.registered, feed.wanted event = true → start ≤ feed.rank event → event ∈ caught

/-- Behind the marker the yielded events go on with what has been received. Without a catch-up
they start with the first event that was published after the registration. -/
structure Live (lastCatchup : Option UInt64) (caught later received : List RecordedEvent) : Prop where
  out : system.subscription.out = caught.map message ++ .ok .caughtUp :: later.map message
  split : system.log.events = received ++ system.subscription.queue ++ system.task.unsent
  missed : system.missed <+: received
  complete : Complete feed start system caught
  position : (lastCatchup = none ∧ caught = [] ∧ (items feed system.missed).length ≤ start.toNat ∧
      later = window (items feed system.missed).length (items feed received).length (items feed system.log.events)) ∨
    ∃ last, lastCatchup = some last ∧ start.toNat ≤ last.toNat ∧
      last.toNat + 1 ≤ (items feed system.log.events).length ∧
      caught ++ later =
        window start.toNat (max (last.toNat + 1) (items feed received).length) (items feed system.log.events)

structure Ended (caught later : List RecordedEvent) (tail : List (Except Error SubscriptionMessage)) : Prop where
  out : system.subscription.out = caught.map message ++ .ok .caughtUp :: (later.map message ++ tail)
  tail : tail = [] ∨ tail = [.error laggedError]
  complete : Complete feed start system caught
  contiguous : ∃ first stop, stop ≤ (items feed system.log.events).length ∧
    caught ++ later = window first stop (items feed system.log.events)

def PhaseSound : Prop :=
  match system.subscription.phase with
  | .unregistered => system.subscription.out = [] ∧ system.subscription.queue = []
  | .reading cursor lastCatchup => CatchingUp feed start system cursor lastCatchup
  | .yielding batch batchLen cursor lastCatchup => CatchingUp feed start system cursor lastCatchup ∧
      batch = window cursor.toNat (cursor.toNat + batch.length) (items feed system.log.events) ∧
      (batchLen < catchupBatchSize → (items feed system.registered).length ≤ cursor.toNat + batch.length)
  | .marking lastCatchup => ∃ cursor, CatchingUp feed start system cursor lastCatchup ∧
      (items feed system.registered).length ≤ cursor.toNat
  | .live lastCatchup => ∃ caught later received, Live feed start system lastCatchup caught later received
  | .ended => ∃ caught later tail, Ended feed start system caught later tail

structure Sound : Prop where
  wellFormed : WellFormed system.log
  book : ∃ initial, system.log.events = initial ++ system.published ++ system.task.unsent
  phase : PhaseSound feed start system

end

theorem sound_start (feed : Feed) (start : UInt64) (writer : Writer) (wellFormed : WellFormed writer.store.log) :
    Sound feed start (System.start writer) where
  wellFormed := wellFormed
  book := ⟨writer.store.log.events, by rw [System.start, Task.start, List.append_nil, List.append_nil]; rfl⟩
  phase := ⟨rfl, rfl⟩

/-! ### The log grows -/

theorem window_items {feed : Feed} {first stop : Nat} {events : List RecordedEvent} (more : List RecordedEvent)
    (inside : stop ≤ (items feed events).length) :
    window first stop (items feed (events ++ more)) = window first stop (items feed events) := by
  rw [items_append, window_append _ inside]

theorem CatchingUp.stop_le {feed : Feed} {start cursor : UInt64} {system : System} {lastCatchup : Option UInt64}
    (catching : CatchingUp feed start system cursor lastCatchup) :
    cursor = start ∨ cursor.toNat ≤ (items feed system.log.events).length := by
  rcases catching.position with ⟨_, same⟩ | ⟨_, _, _, _, inside⟩
  · exact .inl same
  · exact .inr inside

/-- The two systems differ in what the writer has done since. -/
structure Grows (before after : System) (more : List RecordedEvent) : Prop where
  events : after.log.events = before.log.events ++ more
  phase : after.subscription.phase = before.subscription.phase
  out : after.subscription.out = before.subscription.out
  registered : after.registered = before.registered
  missed : after.missed = before.missed
  split : before.subscription.phase ≠ .unregistered → ∀ received,
    before.log.events = received ++ before.subscription.queue ++ before.task.unsent →
      after.log.events = received ++ after.subscription.queue ++ after.task.unsent
  waiting : before.subscription.phase = .unregistered → after.subscription.queue = before.subscription.queue

section
variable {before after : System} {more : List RecordedEvent} (grows : Grows before after more)
include grows

theorem Grows.length_le (feed : Feed) :
    (items feed before.log.events).length ≤ (items feed after.log.events).length := by
  rw [grows.events]
  exact length_items_le (List.prefix_append _ _)

variable {feed : Feed} {start : UInt64}

theorem CatchingUp.grow {cursor : UInt64} {lastCatchup : Option UInt64}
    (registered : before.subscription.phase ≠ .unregistered)
    (catching : CatchingUp feed start before cursor lastCatchup) :
    CatchingUp feed start after cursor lastCatchup where
  out := by
    rw [grows.out, catching.out]
    rcases catching.stop_le with same | inside
    · rw [same, window_empty _ (Nat.le_refl _), window_empty _ (Nat.le_refl _)]
    · rw [grows.events, window_items more inside]
  split := by
    rw [grows.missed]
    exact grows.split registered _ catching.split
  missed := by
    rw [grows.missed, grows.registered]
    exact catching.missed
  registered := by
    rw [grows.registered, grows.events]
    exact catching.registered.trans (List.prefix_append _ _)
  position := by
    have longer := grows.length_le feed
    rcases catching.position with first | ⟨last, lastEq, cursorEq, least, inside⟩
    · exact .inl first
    · exact .inr ⟨last, lastEq, cursorEq, least, by omega⟩

theorem Complete.grow {caught : List RecordedEvent} (complete : Complete feed start before caught) :
    Complete feed start after caught := by
  intro event member
  rw [grows.registered] at member
  exact complete event member

theorem Live.grow {lastCatchup : Option UInt64} {caught later received : List RecordedEvent}
    (registered : before.subscription.phase ≠ .unregistered)
    (live : Live feed start before lastCatchup caught later received) :
    Live feed start after lastCatchup caught later received where
  out := by
    rw [grows.out]
    exact live.out
  split := grows.split registered received live.split
  missed := by
    rw [grows.missed]
    exact live.missed
  complete := live.complete.grow grows
  position := by
    have longer := grows.length_le feed
    have inside : (items feed received).length ≤ (items feed before.log.events).length := by
      rw [live.split, List.append_assoc]
      exact length_items_le (List.prefix_append _ _)
    rcases live.position with ⟨none, nothing, least, laterEq⟩ | ⟨last, lastEq, least, bound, whole⟩
    · left
      refine ⟨none, nothing, by rw [grows.missed]; exact least, ?_⟩
      rw [grows.missed, grows.events, window_items more inside]
      exact laterEq
    · right
      refine ⟨last, lastEq, least, by omega, ?_⟩
      rw [grows.events, window_items more (by omega)]
      exact whole

theorem Ended.grow {caught later : List RecordedEvent} {tail : List (Except Error SubscriptionMessage)}
    (ended : Ended feed start before caught later tail) : Ended feed start after caught later tail where
  out := by
    rw [grows.out]
    exact ended.out
  tail := ended.tail
  complete := ended.complete.grow grows
  contiguous := by
    have longer := grows.length_le feed
    obtain ⟨first, stop, inside, whole⟩ := ended.contiguous
    refine ⟨first, stop, by omega, ?_⟩
    rw [grows.events, window_items more inside]
    exact whole

theorem PhaseSound.grow (sound : PhaseSound feed start before) : PhaseSound feed start after := by
  have length_le := grows.length_le feed
  unfold PhaseSound at sound ⊢
  rw [grows.phase]
  cases phase : before.subscription.phase with
  | unregistered =>
    rw [phase] at sound
    exact ⟨by rw [grows.out]; exact sound.1, by rw [grows.waiting phase]; exact sound.2⟩
  | reading cursor lastCatchup =>
    rw [phase] at sound
    exact CatchingUp.grow grows (by rw [phase]; simp) sound
  | yielding batch batchLen cursor lastCatchup =>
    rw [phase] at sound
    obtain ⟨catching, batchEq, short⟩ := sound
    refine ⟨catching.grow grows (by rw [phase]; simp), ?_, by rw [grows.registered]; exact short⟩
    by_cases nothing : batch.length = 0
    · rw [window_empty _ (by omega)]
      exact List.eq_nil_of_length_eq_zero nothing
    · have lengths := congrArg List.length batchEq
      rw [length_window] at lengths
      rw [grows.events, window_items more (by omega)]
      exact batchEq
  | marking lastCatchup =>
    rw [phase] at sound
    obtain ⟨cursor, catching, reached⟩ := sound
    exact ⟨cursor, catching.grow grows (by rw [phase]; simp), by rw [grows.registered]; exact reached⟩
  | live lastCatchup =>
    rw [phase] at sound
    obtain ⟨caught, later, received, live⟩ := sound
    exact ⟨caught, later, received, live.grow grows (by rw [phase]; simp)⟩
  | ended =>
    rw [phase] at sound
    obtain ⟨caught, later, tail, ended⟩ := sound
    exact ⟨caught, later, tail, ended.grow grows⟩

end

theorem grows_writer {crc : Crc32fast} {step : Task.Step} {system : System} {task : Task}
    (moved : Task.next crc step system.task = some task) :
    ∃ more, Grows system
      { system with
        task
        subscription := system.subscription.receive (Task.sends step system.task)
        published := system.published ++ Task.sends step system.task } more := by
  obtain ⟨⟨more, events⟩, settles⟩ := next_grows moved
  have frame : ∀ sent, (system.subscription.receive sent).phase = system.subscription.phase ∧
      (system.subscription.receive sent).out = system.subscription.out ∧
      (system.subscription.phase = .unregistered →
        (system.subscription.receive sent).queue = system.subscription.queue) ∧
      (system.subscription.phase ≠ .unregistered →
        (system.subscription.receive sent).queue = system.subscription.queue ++ sent) := by
    intro sent
    unfold Subscription.receive
    cases phase : system.subscription.phase with
    | unregistered => simp [phase]
    | _ => simp
  obtain ⟨samePhase, sameOut, waiting, receives⟩ := frame (Task.sends step system.task)
  refine ⟨more, events, samePhase, sameOut, rfl, rfl, ?_, waiting⟩
  intro registered received split
  show task.writer.store.log.events = received ++ (system.subscription.receive _).queue ++ task.unsent
  rw [receives registered, settles _ split, List.append_assoc received]

theorem sound_writer {crc : Crc32fast} {feed : Feed} {start : UInt64} {step : Task.Step} {system : System} {task : Task}
    (moved : Task.next crc step system.task = some task) (sound : Sound feed start system) :
    Sound feed start
      { system with
        task
        subscription := system.subscription.receive (Task.sends step system.task)
        published := system.published ++ Task.sends step system.task } where
  wellFormed := next_wellFormed moved sound.wellFormed
  book := by
    obtain ⟨initial, split⟩ := sound.book
    refine ⟨initial, ?_⟩
    have settled := (next_grows moved).2 _ split
    rw [List.append_assoc initial] at settled
    exact settled
  phase := by
    obtain ⟨more, grows⟩ := grows_writer moved
    exact sound.phase.grow grows

/-! ### The subscription moves -/

inductive Polls (feed : Feed) (log : EventLog) (subscription : Subscription) : Subscription → Prop
  | read (cursor : UInt64) (lastCatchup : Option UInt64) (phase : subscription.phase = .reading cursor lastCatchup) :
      Polls feed log subscription { subscription with
        phase := .yielding (window cursor.toNat (cursor.toNat + 500) (items feed log.events))
          (UInt64.ofNat (window cursor.toNat (cursor.toNat + 500) (items feed log.events)).length) cursor lastCatchup }
  | missing (cursor : UInt64) (lastCatchup : Option UInt64)
      (phase : subscription.phase = .reading cursor lastCatchup) (empty : items feed log.events = []) :
      Polls feed log subscription { subscription with phase := .marking lastCatchup }
  | yielded (event : RecordedEvent) (batch : List RecordedEvent) (batchLen cursor : UInt64)
      (lastCatchup : Option UInt64)
      (phase : subscription.phase = .yielding (event :: batch) batchLen cursor lastCatchup) :
      Polls feed log subscription { subscription with
        phase := .yielding batch batchLen (feed.rank event + 1) (some (feed.rank event))
        out := subscription.out ++ [.ok (.event event)] }
  | finished (batchLen cursor : UInt64) (lastCatchup : Option UInt64)
      (phase : subscription.phase = .yielding [] batchLen cursor lastCatchup) (short : batchLen < catchupBatchSize) :
      Polls feed log subscription { subscription with phase := .marking lastCatchup }
  | again (batchLen cursor : UInt64) (lastCatchup : Option UInt64)
      (phase : subscription.phase = .yielding [] batchLen cursor lastCatchup) :
      Polls feed log subscription { subscription with phase := .reading cursor lastCatchup }
  | marked (lastCatchup : Option UInt64) (phase : subscription.phase = .marking lastCatchup) :
      Polls feed log subscription { subscription with
        phase := .live lastCatchup
        out := subscription.out ++ [.ok .caughtUp] }
  | forwarded (lastCatchup : Option UInt64) (event : RecordedEvent) (queue : List RecordedEvent)
      (phase : subscription.phase = .live lastCatchup) (queueEq : subscription.queue = event :: queue)
      (wanted : feed.wanted event = true) (unsent : alreadySent feed lastCatchup event = false) :
      Polls feed log subscription { subscription with queue, out := subscription.out ++ [.ok (.event event)] }
  | skipped (lastCatchup : Option UInt64) (event : RecordedEvent) (queue : List RecordedEvent)
      (phase : subscription.phase = .live lastCatchup) (queueEq : subscription.queue = event :: queue)
      (refused : ¬(feed.wanted event = true ∧ alreadySent feed lastCatchup event = false)) :
      Polls feed log subscription { subscription with queue }

theorem polls_of_poll {feed : Feed} (lawful : Lawful feed) {log : EventLog} (wellFormed : WellFormed log)
    {subscription after : Subscription} (polled : subscription.poll feed log = some after) :
    Polls feed log subscription after := by
  rw [Subscription.poll] at polled
  cases phase : subscription.phase with
  | unregistered =>
    rw [phase] at polled
    cases polled
  | reading cursor lastCatchup =>
    rw [phase] at polled
    dsimp only at polled
    rcases lawful.reads wellFormed cursor with read | ⟨⟨streamId, missing⟩, empty⟩
    · rw [read] at polled
      cases polled
      exact .read cursor lastCatchup phase
    · rw [missing] at polled
      cases polled
      exact .missing cursor lastCatchup phase empty
  | yielding batch batchLen cursor lastCatchup =>
    rw [phase] at polled
    cases batch with
    | cons event batch =>
      cases polled
      exact .yielded event batch batchLen cursor lastCatchup phase
    | nil =>
      dsimp only at polled
      split_ifs at polled with short
      · cases polled
        exact .finished batchLen cursor lastCatchup phase short
      · cases polled
        exact .again batchLen cursor lastCatchup phase
  | marking lastCatchup =>
    rw [phase] at polled
    cases polled
    exact .marked lastCatchup phase
  | live lastCatchup =>
    rw [phase] at polled
    dsimp only at polled
    split at polled
    next => cases polled
    next event queue queueEq =>
      split_ifs at polled with wanted
      · have forwarded : Polls feed log subscription _ :=
          .forwarded lastCatchup event queue phase queueEq wanted.1 wanted.2
        rw [phase] at forwarded
        cases polled
        exact forwarded
      · have skipped : Polls feed log subscription _ := .skipped lastCatchup event queue phase queueEq wanted
        rw [phase] at skipped
        cases polled
        exact skipped
  | ended =>
    rw [phase] at polled
    cases polled

theorem settled_append {feed : Feed} {start : UInt64} {system : System} (sound : Sound feed start system) :
    system.log.events = system.settled ++ system.task.unsent := by
  obtain ⟨initial, split⟩ := sound.book
  have length : system.log.events.length - system.task.unsent.length = (initial ++ system.published).length := by
    rw [split, List.length_append]
    omega
  have settled : system.settled = initial ++ system.published := by
    rw [System.settled, length, split, List.take_left]
  rw [settled]
  exact split

section
variable {feed : Feed} {start : UInt64} {system : System}

theorem sound_register (sound : Sound feed start system) (phase : system.subscription.phase = .unregistered) :
    Sound feed start { system with
      subscription := { system.subscription with phase := .reading start none }
      registered := system.log.events
      missed := system.settled } := by
  have settled := settled_append sound
  have idle := sound.phase
  unfold PhaseSound at idle
  rw [phase] at idle
  refine ⟨sound.wellFormed, sound.book, ?_⟩
  refine ⟨?_, ?_, ?_, List.prefix_refl _, .inl ⟨rfl, rfl⟩⟩
  · rw [window_empty _ (Nat.le_refl _)]
    exact idle.1
  · show system.log.events = system.settled ++ system.subscription.queue ++ system.task.unsent
    rw [idle.2, List.append_nil]
    exact settled
  · exact List.take_prefix _ _

theorem CatchingUp.rephase {cursor : UInt64} {lastCatchup : Option UInt64} (phase : Phase)
    (catching : CatchingUp feed start system cursor lastCatchup) :
    CatchingUp feed start { system with subscription := { system.subscription with phase } } cursor lastCatchup :=
  ⟨catching.out, catching.split, catching.missed, catching.registered, catching.position⟩

theorem CatchingUp.start_le {cursor : UInt64} {lastCatchup : Option UInt64}
    (catching : CatchingUp feed start system cursor lastCatchup) : start.toNat ≤ cursor.toNat := by
  rcases catching.position with ⟨_, same⟩ | ⟨last, _, cursorEq, least, _⟩
  · rw [same]
  · omega

/-- A chunk shorter than asked for reaches the end of the log. -/
theorem phaseSound_read {cursor : UInt64} {lastCatchup : Option UInt64}
    (catching : CatchingUp feed start system cursor lastCatchup) :
    PhaseSound feed start { system with
      subscription := { system.subscription with
        phase := .yielding (window cursor.toNat (cursor.toNat + 500) (items feed system.log.events))
          (UInt64.ofNat (window cursor.toNat (cursor.toNat + 500) (items feed system.log.events)).length)
          cursor lastCatchup } } := by
  refine ⟨catching.rephase _, window_shrink _ _ _, ?_⟩
  intro short
  have known : (items feed system.registered).length ≤ (items feed system.log.events).length :=
    length_items_le catching.registered
  have size := length_window cursor.toNat (cursor.toNat + 500) (items feed system.log.events)
  rw [UInt64.lt_iff_toNat_lt, UInt64.toNat_ofNat', Nat.mod_eq_of_lt (by omega)] at short
  have chunk : catchupBatchSize.toNat = 500 := rfl
  show (items feed system.registered).length ≤ cursor.toNat + (window _ _ _).length
  omega

theorem length_items_receive {event : RecordedEvent} {received : List RecordedEvent}
    (wanted : feed.wanted event = true) :
    (items feed (received ++ [event])).length = (items feed received).length + 1 := by
  rw [items_append, List.length_append, items, items, List.filter_cons_of_pos wanted]
  rfl

theorem Live.received_le {lastCatchup : Option UInt64} {caught later received : List RecordedEvent}
    (live : Live feed start system lastCatchup caught later received) :
    (items feed received).length ≤ (items feed system.log.events).length := by
  rw [live.split, List.append_assoc]
  exact length_items_le (List.prefix_append _ _)

theorem Live.ended {lastCatchup : Option UInt64} {caught later received : List RecordedEvent}
    (live : Live feed start system lastCatchup caught later received)
    {tail : List (Except Error SubscriptionMessage)} (only : tail = [] ∨ tail = [.error laggedError]) :
    Ended feed start { system with
      subscription := { system.subscription with phase := .ended, out := system.subscription.out ++ tail } }
      caught later tail := by
  have receivedLe := live.received_le
  refine ⟨?_, only, live.complete, ?_⟩
  · show system.subscription.out ++ tail = _
    rw [live.out, List.append_assoc, List.cons_append]
  · rcases live.position with ⟨_, nothing, _, laterEq⟩ | ⟨last, _, _, bound, whole⟩
    · refine ⟨(items feed system.missed).length, _, receivedLe, ?_⟩
      rw [nothing, List.nil_append]
      exact laterEq
    · exact ⟨_, _, Nat.max_le.mpr ⟨bound, receivedLe⟩, whole⟩

variable (lawful : Lawful feed) (wellFormed : WellFormed system.log)
include lawful wellFormed

theorem rank_of_getElem? {position : Nat} {event : RecordedEvent}
    (here : (items feed system.log.events)[position]? = some event) : (feed.rank event).toNat = position := by
  have numbered := (lawful.numbered wellFormed).getElem? here
  rwa [Nat.zero_add] at numbered

theorem phaseSound_yield {event : RecordedEvent} {batch : List RecordedEvent} {batchLen cursor : UInt64}
    {lastCatchup : Option UInt64} (catching : CatchingUp feed start system cursor lastCatchup)
    (batchEq : event :: batch =
      window cursor.toNat (cursor.toNat + (event :: batch).length) (items feed system.log.events))
    (short : batchLen < catchupBatchSize →
      (items feed system.registered).length ≤ cursor.toNat + (event :: batch).length) :
    PhaseSound feed start { system with
      subscription := { system.subscription with
        phase := .yielding batch batchLen (feed.rank event + 1) (some (feed.rank event))
        out := system.subscription.out ++ [.ok (.event event)] } } := by
  obtain ⟨here, rest⟩ := window_cons batchEq.symm
  have rank := rank_of_getElem? lawful wellFormed here
  have inside : cursor.toNat < (items feed system.log.events).length := (List.getElem?_eq_some_iff.mp here).1
  have bound : (items feed system.log.events).length ≤ isizeMax :=
    Nat.le_trans (List.length_filter_le _ _) wellFormed.capacity
  unfold isizeMax at bound
  have next : (feed.rank event + 1).toNat = cursor.toNat + 1 := by
    rw [succ_toNat _ (by omega), rank]
  have first := catching.start_le
  rw [List.length_cons] at short rest
  refine ⟨⟨?_, catching.split, catching.missed, catching.registered, .inr ⟨feed.rank event, rfl, ?_, ?_, ?_⟩⟩, ?_, ?_⟩
  · show system.subscription.out ++ [message event] =
      (window start.toNat (feed.rank event + 1).toNat (items feed system.log.events)).map message
    rw [next, window_succ first here, catching.out, List.map_append, List.map_singleton]
  · rw [next, rank]
  · rw [rank]
    exact first
  · rw [next]
    exact inside
  · rw [next, Nat.add_assoc, Nat.add_comm 1]
    exact rest.symm
  · intro isShort
    have reached := short isShort
    rw [next]
    show (items feed system.registered).length ≤ cursor.toNat + 1 + batch.length
    omega

theorem rank_registered {event : RecordedEvent} (registered : system.registered <+: system.log.events)
    (member : event ∈ system.registered) (wanted : feed.wanted event = true) :
    (feed.rank event).toNat < (items feed system.registered).length ∧
      (items feed system.log.events)[(feed.rank event).toNat]? = some event := by
  have picked : event ∈ items feed system.registered := List.mem_filter.mpr ⟨member, wanted⟩
  obtain ⟨position, found⟩ := List.mem_iff_getElem?.mp picked
  have inside : items feed system.registered <+: items feed system.log.events := registered.filter feed.wanted
  have inLog : (items feed system.log.events)[position]? = some event := by
    obtain ⟨more, whole⟩ := inside
    rw [← whole, List.getElem?_append_left (List.getElem?_eq_some_iff.mp found).1]
    exact found
  have rank := rank_of_getElem? lawful wellFormed inLog
  rw [rank]
  exact ⟨(List.getElem?_eq_some_iff.mp found).1, inLog⟩

theorem phaseSound_mark {cursor : UInt64} {lastCatchup : Option UInt64}
    (catching : CatchingUp feed start system cursor lastCatchup)
    (reached : (items feed system.registered).length ≤ cursor.toNat) :
    PhaseSound feed start { system with
      subscription := { system.subscription with
        phase := .live lastCatchup
        out := system.subscription.out ++ [.ok .caughtUp] } } := by
  have missed : (items feed system.missed).length ≤ (items feed system.registered).length :=
    length_items_le catching.missed
  refine ⟨window start.toNat cursor.toNat (items feed system.log.events), [], system.missed, ?_, catching.split,
    List.prefix_refl _, ?_, ?_⟩
  · show system.subscription.out ++ _ = _
    rw [catching.out]
    rfl
  · intro event member wanted least
    obtain ⟨below, here⟩ := rank_registered lawful wellFormed catching.registered member wanted
    exact mem_window here (UInt64.le_iff_toNat_le.mp least) (by omega)
  · rcases catching.position with ⟨none, same⟩ | ⟨last, lastEq, cursorEq, least, inside⟩
    · left
      rw [same] at reached ⊢
      refine ⟨none, window_empty _ (Nat.le_refl _), ?_, (window_empty _ (Nat.le_refl _)).symm⟩
      show (items feed system.missed).length ≤ start.toNat
      omega
    · right
      refine ⟨last, lastEq, least, by rw [← cursorEq]; exact inside, ?_⟩
      show _ = window _ (max _ (items feed system.missed).length) _
      rw [List.append_nil, ← cursorEq, Nat.max_eq_left (by omega)]
      rfl

theorem rank_received {event : RecordedEvent} {received queue : List RecordedEvent}
    (split : system.log.events = received ++ (event :: queue) ++ system.task.unsent)
    (wanted : feed.wanted event = true) :
    (items feed system.log.events)[(items feed received).length]? = some event ∧
      (feed.rank event).toNat = (items feed received).length := by
  have here : (items feed system.log.events)[(items feed received).length]? = some event := by
    rw [split, List.append_assoc, items_append, List.cons_append, List.getElem?_append_right (Nat.le_refl _),
      Nat.sub_self, items, List.filter_cons_of_pos wanted, List.getElem?_cons_zero]
  exact ⟨here, rank_of_getElem? lawful wellFormed here⟩

theorem Live.forward {event : RecordedEvent} {queue : List RecordedEvent} {lastCatchup : Option UInt64}
    {caught later received : List RecordedEvent} (queueEq : system.subscription.queue = event :: queue)
    (live : Live feed start system lastCatchup caught later received) (wanted : feed.wanted event = true)
    (unsent : alreadySent feed lastCatchup event = false) :
    Live feed start { system with
      subscription := { system.subscription with queue, out := system.subscription.out ++ [.ok (.event event)] } }
      lastCatchup caught (later ++ [event]) (received ++ [event]) := by
  have split := live.split
  rw [queueEq] at split
  obtain ⟨here, rank⟩ := rank_received lawful wellFormed split wanted
  have count : (items feed (received ++ [event])).length = (items feed received).length + 1 :=
    length_items_receive wanted
  have missedLe : (items feed system.missed).length ≤ (items feed received).length := length_items_le live.missed
  refine ⟨?_, ?_, live.missed.trans (List.prefix_append _ _), live.complete, ?_⟩
  · show system.subscription.out ++ _ = _
    rw [live.out, List.map_append, List.append_assoc, List.cons_append]
    rfl
  · show system.log.events = received ++ [event] ++ queue ++ system.task.unsent
    rw [split, List.append_assoc received [event], List.singleton_append]
  · rcases live.position with ⟨none, nothing, least, laterEq⟩ | ⟨last, lastEq, least, bound, whole⟩
    · left
      refine ⟨none, nothing, least, ?_⟩
      show _ = window (items feed system.missed).length (items feed (received ++ [event])).length
        (items feed system.log.events)
      rw [count, window_succ missedLe here, ← laterEq]
    · right
      rw [lastEq, alreadySent, decide_eq_false_iff_not, UInt64.le_iff_toNat_le, rank] at unsent
      refine ⟨last, lastEq, least, bound, ?_⟩
      show _ = window start.toNat (max (last.toNat + 1) (items feed (received ++ [event])).length)
        (items feed system.log.events)
      rw [Nat.max_eq_right (by omega)] at whole
      rw [count, Nat.max_eq_right (by omega), window_succ (by omega) here, ← whole, List.append_assoc]

theorem Live.skip {event : RecordedEvent} {queue : List RecordedEvent} {lastCatchup : Option UInt64}
    {caught later received : List RecordedEvent} (queueEq : system.subscription.queue = event :: queue)
    (live : Live feed start system lastCatchup caught later received)
    (skipped : ¬(feed.wanted event = true ∧ alreadySent feed lastCatchup event = false)) :
    Live feed start { system with subscription := { system.subscription with queue } }
      lastCatchup caught later (received ++ [event]) := by
  have split := live.split
  rw [queueEq] at split
  refine ⟨live.out, ?_, live.missed.trans (List.prefix_append _ _), live.complete, ?_⟩
  · show system.log.events = received ++ [event] ++ queue ++ system.task.unsent
    rw [split, List.append_assoc received [event], List.singleton_append]
  by_cases wanted : feed.wanted event = true
  · have sent : alreadySent feed lastCatchup event = true := by
      rw [not_and, Bool.not_eq_false] at skipped
      exact skipped wanted
    obtain ⟨_, rank⟩ := rank_received lawful wellFormed split wanted
    rcases live.position with ⟨none, _⟩ | ⟨last, lastEq, least, bound, whole⟩
    · rw [none] at sent
      cases sent
    · right
      rw [lastEq, alreadySent, decide_eq_true_eq, UInt64.le_iff_toNat_le, rank] at sent
      refine ⟨last, lastEq, least, bound, ?_⟩
      rw [Nat.max_eq_left (by omega)] at whole
      rw [length_items_receive wanted, Nat.max_eq_left (by omega)]
      exact whole
  · have same : items feed (received ++ [event]) = items feed received := by
      rw [items_append, items, items, List.filter_cons_of_neg wanted, List.filter_nil, List.append_nil]
    rw [same]
    exact live.position

theorem phaseSound_poll {subscription : Subscription} (sound : PhaseSound feed start system)
    (polls : Polls feed system.log system.subscription subscription) :
    PhaseSound feed start { system with subscription } := by
  unfold PhaseSound at sound
  cases polls with
  | read cursor lastCatchup phase =>
    rw [phase] at sound
    exact phaseSound_read sound
  | missing cursor lastCatchup phase empty =>
    rw [phase] at sound
    refine ⟨cursor, sound.rephase _, ?_⟩
    have known : (items feed system.registered).length ≤ (items feed system.log.events).length :=
      length_items_le sound.registered
    rw [empty, List.length_nil] at known
    exact Nat.le_trans known (Nat.zero_le _)
  | yielded event batch batchLen cursor lastCatchup phase =>
    rw [phase] at sound
    obtain ⟨catching, batchEq, short⟩ := sound
    exact phaseSound_yield lawful wellFormed catching batchEq short
  | finished batchLen cursor lastCatchup phase isShort =>
    rw [phase] at sound
    obtain ⟨catching, _, short⟩ := sound
    exact ⟨cursor, catching.rephase _, short isShort⟩
  | again batchLen cursor lastCatchup phase =>
    rw [phase] at sound
    exact sound.1.rephase _
  | marked lastCatchup phase =>
    rw [phase] at sound
    obtain ⟨cursor, catching, reached⟩ := sound
    exact phaseSound_mark lawful wellFormed catching reached
  | forwarded lastCatchup event queue phase queueEq wanted unsent =>
    rw [phase] at sound
    obtain ⟨caught, later, received, live⟩ := sound
    have forward := live.forward lawful wellFormed queueEq wanted unsent
    unfold PhaseSound
    simp only [phase] at forward ⊢
    exact ⟨_, _, _, forward⟩
  | skipped lastCatchup event queue phase queueEq refused =>
    rw [phase] at sound
    obtain ⟨caught, later, received, live⟩ := sound
    have skip := live.skip lawful wellFormed queueEq refused
    unfold PhaseSound
    simp only [phase] at skip ⊢
    exact ⟨_, _, _, skip⟩

end

section
variable {crc : Crc32fast} {feed : Feed} {start : UInt64} {system after : System}

theorem register_moved (moved : System.next crc feed start .register system = some after) :
    system.subscription.phase = .unregistered ∧
      after = { system with
        subscription := { system.subscription with phase := .reading start none }
        registered := system.log.events
        missed := system.settled } := by
  rw [System.next] at moved
  split at moved
  next phase => exact ⟨phase, (Option.some.inj moved).symm⟩
  next => cases moved

theorem lag_moved (moved : System.next crc feed start .lag system = some after) :
    ∃ lastCatchup, system.subscription.phase = .live lastCatchup ∧
      after = { system with
        subscription := { system.subscription with
          phase := .ended
          out := system.subscription.out ++ [.error laggedError] } } := by
  rw [System.next] at moved
  split at moved
  next lastCatchup phase => exact ⟨lastCatchup, phase, (Option.some.inj moved).symm⟩
  next => cases moved

theorem close_moved (moved : System.next crc feed start .close system = some after) :
    ∃ lastCatchup, system.subscription.phase = .live lastCatchup ∧
      after = { system with subscription := { system.subscription with phase := .ended } } := by
  rw [System.next] at moved
  split at moved
  next lastCatchup phase queue => exact ⟨lastCatchup, phase, (Option.some.inj moved).symm⟩
  next => cases moved

end

theorem sound_next (crc : Crc32fast) (feed : Feed) (lawful : Lawful feed) (start : UInt64) (system : System)
    (step : System.Step) (after : System) (sound : Sound feed start system)
    (moved : System.next crc feed start step system = some after) : Sound feed start after := by
  cases step with
  | writer step =>
    obtain ⟨task, taskMoved, same⟩ := Option.map_eq_some_iff.mp moved
    rw [← same]
    exact sound_writer taskMoved sound
  | register =>
    obtain ⟨phase, same⟩ := register_moved moved
    rw [same]
    exact sound_register sound phase
  | poll =>
    obtain ⟨subscription, polled, same⟩ := Option.map_eq_some_iff.mp moved
    rw [← same]
    have polls := polls_of_poll lawful sound.wellFormed polled
    exact ⟨sound.wellFormed, sound.book, phaseSound_poll lawful sound.wellFormed sound.phase polls⟩
  | lag =>
    obtain ⟨lastCatchup, phase, same⟩ := lag_moved moved
    have live := sound.phase
    unfold PhaseSound at live
    rw [phase] at live
    obtain ⟨caught, later, received, live⟩ := live
    rw [same]
    exact ⟨sound.wellFormed, sound.book, caught, later, _, live.ended (.inr rfl)⟩
  | close =>
    obtain ⟨lastCatchup, phase, same⟩ := close_moved moved
    have live := sound.phase
    unfold PhaseSound at live
    rw [phase] at live
    obtain ⟨caught, later, received, live⟩ := live
    have ended := live.ended (.inl rfl)
    rw [List.append_nil] at ended
    rw [same]
    exact ⟨sound.wellFormed, sound.book, caught, later, [], ended⟩

end EventfoldDb.SubscriptionInvariant
