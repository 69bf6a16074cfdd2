import EventfoldDb.Delivery

/-! Whether a subscription can yield events from before its start. After an empty catch-up the
live phase forwards whatever it receives, so this depends on the first read of the catch-up. -/

namespace EventfoldDb.SubscriptionStart
open Outcome Recovery AppendSpec LogInvariant DiskInvariant WriterSpec SubscriptionInvariant Delivery Window Machine

section
variable (feed : Feed) (start : UInt64) (system : System)

/-- All events before the start had been published when the receiver was registered. -/
def Anchored : Prop := start.toNat ≤ (items feed system.missed).length

/-- The first read of the catch-up finds the event at the start, unless nothing before it can
still be received. -/
def Ready (step : System.Step) : Prop :=
  ∀ cursor, step = .poll → system.subscription.phase = .reading cursor none →
    Anchored feed start system ∨ start.toNat < (items feed system.log.events).length

def Blind : Phase → Prop
  | .yielding batch _ _ lastCatchup => batch = [] ∧ lastCatchup = none
  | .marking lastCatchup => lastCatchup = none
  | .live lastCatchup => lastCatchup = none
  | _ => False

structure FromStart : Prop where
  aligned : Blind system.subscription.phase → Anchored feed start system
  least : ∀ event ∈ delivered system.subscription.out, start ≤ feed.rank event

end

section
variable {feed : Feed} {start : UInt64} {system : System}

theorem fromStart_start (feed : Feed) (start : UInt64) (writer : Writer) :
    FromStart feed start (System.start writer) where
  aligned := False.elim
  least := fun _ member => nomatch member

theorem FromStart.grow {after : System} {more : List RecordedEvent} (grows : Grows system after more)
    (fromStart : FromStart feed start system) : FromStart feed start after where
  aligned := by
    rw [grows.phase, Anchored, grows.missed]
    exact fromStart.aligned
  least := by
    rw [grows.out]
    exact fromStart.least

theorem least_snoc (least : ∀ event ∈ delivered system.subscription.out, start ≤ feed.rank event)
    {event : RecordedEvent} (ordered : start ≤ feed.rank event) :
    ∀ other ∈ delivered (system.subscription.out ++ [.ok (.event event)]), start ≤ feed.rank other := by
  intro other member
  rw [delivered_append] at member
  rcases List.mem_append.mp member with earlier | last
  · exact least other earlier
  · rw [List.mem_singleton.mp last]
    exact ordered

theorem least_silent (least : ∀ event ∈ delivered system.subscription.out, start ≤ feed.rank event)
    {last : Except Error SubscriptionMessage} (silent : delivered [last] = []) :
    ∀ other ∈ delivered (system.subscription.out ++ [last]), start ≤ feed.rank other := by
  rw [delivered_append, silent, List.append_nil]
  exact least

theorem anchored_of_read {cursor : UInt64} {lastCatchup : Option UInt64}
    (phase : system.subscription.phase = .reading cursor lastCatchup)
    (catching : CatchingUp feed start system cursor lastCatchup) (ready : Ready feed start system .poll)
    (first : lastCatchup = none)
    (nothing : window cursor.toNat (cursor.toNat + 500) (items feed system.log.events) = []) :
    Anchored feed start system := by
  rw [first] at phase
  rcases ready cursor rfl phase with anchored | inside
  · exact anchored
  · have size := length_window cursor.toNat (cursor.toNat + 500) (items feed system.log.events)
    rcases catching.position with ⟨_, same⟩ | ⟨last, some, _⟩
    · rw [nothing, same, List.length_nil] at size
      omega
    · rw [first] at some
      cases some

/-- What the live phase forwards lies behind the last position of the catch-up, or behind all
that the receiver has missed. -/
theorem start_le_forwarded (lawful : Lawful feed) (wellFormed : WellFormed system.log)
    {lastCatchup : Option UInt64} {caught later received queue : List RecordedEvent} {event : RecordedEvent}
    (live : Live feed start system lastCatchup caught later received)
    (aligned : lastCatchup = none → Anchored feed start system)
    (queueEq : system.subscription.queue = event :: queue) (wanted : feed.wanted event = true)
    (unsent : alreadySent feed lastCatchup event = false) : start ≤ feed.rank event := by
  have split := live.split
  rw [queueEq] at split
  obtain ⟨_, rank⟩ := rank_received lawful wellFormed split wanted
  have missedLe : (items feed system.missed).length ≤ (items feed received).length := length_items_le live.missed
  rw [UInt64.le_iff_toNat_le, rank]
  rcases live.position with ⟨none, _⟩ | ⟨last, lastEq, least, _⟩
  · exact Nat.le_trans (aligned none) missedLe
  · rw [lastEq, alreadySent, decide_eq_false_iff_not, UInt64.le_iff_toNat_le, rank] at unsent
    omega

theorem fromStart_poll (lawful : Lawful feed) (sound : Sound feed start system)
    (fromStart : FromStart feed start system) (ready : Ready feed start system .poll) {subscription : Subscription}
    (polls : Polls feed system.log system.subscription subscription) :
    FromStart feed start { system with subscription } := by
  obtain ⟨aligned, least⟩ := fromStart
  have known := sound.phase
  unfold PhaseSound at known
  cases polls with
  | read cursor lastCatchup phase =>
    rw [phase] at known
    have anchored := anchored_of_read phase known ready
    exact ⟨fun blind => anchored blind.2 blind.1, least⟩
  | missing cursor lastCatchup phase empty =>
    rw [phase] at known
    have anchored := anchored_of_read phase known ready
    rw [empty, window, List.take_nil, List.drop_nil] at anchored
    exact ⟨fun first => anchored first rfl, least⟩
  | yielded event batch batchLen cursor lastCatchup phase =>
    rw [phase] at known
    obtain ⟨catching, batchEq, _⟩ := known
    obtain ⟨here, _⟩ := window_cons batchEq.symm
    have rank := rank_of_getElem? lawful sound.wellFormed here
    have ordered : start ≤ feed.rank event := by
      rw [UInt64.le_iff_toNat_le, rank]
      exact catching.start_le
    exact ⟨fun blind => absurd blind.2 (Option.some_ne_none _), least_snoc least ordered⟩
  | finished batchLen cursor lastCatchup phase short =>
    rw [phase] at aligned
    exact ⟨fun first => aligned ⟨rfl, first⟩, least⟩
  | again batchLen cursor lastCatchup phase => exact ⟨False.elim, least⟩
  | marked lastCatchup phase =>
    rw [phase] at aligned
    exact ⟨aligned, least_silent least rfl⟩
  | forwarded lastCatchup event queue phase queueEq wanted unsent =>
    rw [phase] at known
    obtain ⟨caught, later, received, live⟩ := known
    have ordered := start_le_forwarded lawful sound.wellFormed live (by rw [phase] at aligned; exact aligned) queueEq
      wanted unsent
    exact ⟨aligned, least_snoc least ordered⟩
  | skipped lastCatchup event queue phase queueEq refused => exact ⟨aligned, least⟩

end

theorem fromStart_next (crc : Crc32fast) {feed : Feed} (lawful : Lawful feed) {start : UInt64} {system after : System}
    {step : System.Step} (sound : Sound feed start system) (fromStart : FromStart feed start system)
    (ready : Ready feed start system step) (moved : System.next crc feed start step system = some after) :
    FromStart feed start after := by
  cases step with
  | writer step =>
    obtain ⟨task, taskMoved, same⟩ := Option.map_eq_some_iff.mp moved
    obtain ⟨more, grows⟩ := grows_writer taskMoved
    rw [← same]
    exact fromStart.grow grows
  | register =>
    obtain ⟨-, same⟩ := register_moved moved
    rw [same]
    exact ⟨False.elim, fromStart.least⟩
  | poll =>
    obtain ⟨subscription, polled, same⟩ := Option.map_eq_some_iff.mp moved
    rw [← same]
    exact fromStart_poll lawful sound fromStart ready (polls_of_poll lawful sound.wellFormed polled)
  | lag =>
    obtain ⟨-, -, same⟩ := lag_moved moved
    rw [same]
    exact ⟨False.elim, least_silent fromStart.least rfl⟩
  | close =>
    obtain ⟨-, -, same⟩ := close_moved moved
    rw [same]
    exact ⟨False.elim, fromStart.least⟩

theorem fromStart_of_run {crc : Crc32fast} {feed : Feed} (lawful : Lawful feed) {start : UInt64} {writer : Writer}
    (wellFormed : WellFormed writer.store.log) {system : System}
    (run : Reaches (System.next crc feed start) (Ready feed start) (System.start writer) system) :
    FromStart feed start system := by
  have both := run.invariant (fun system => Sound feed start system ∧ FromStart feed start system)
    ⟨sound_start feed start writer wellFormed, fromStart_start feed start writer⟩
    (fun before step after holds ready moved =>
      ⟨sound_next crc feed lawful start before step after holds.1 moved,
        fromStart_next crc lawful holds.1 holds.2 ready moved⟩)
  exact both.2

/-- With a first read that is not too early, nothing from before the start is yielded. -/
theorem delivered_from_start (crc : Crc32fast) (writer : Writer) (wellFormed : WellFormed writer.store.log)
    (start : UInt64) :
    (∀ system, Reaches (System.next crc subscribeAll start) (Ready subscribeAll start) (System.start writer) system →
      ∀ event ∈ delivered system.subscription.out, start ≤ event.globalPosition) ∧
    ∀ streamId system,
      Reaches (System.next crc (subscribeStream streamId) start) (Ready (subscribeStream streamId) start)
        (System.start writer) system →
      ∀ event ∈ delivered system.subscription.out, start ≤ event.streamVersion :=
  ⟨fun _ run => (fromStart_of_run lawful_all wellFormed run).least,
    fun streamId _ run => (fromStart_of_run (lawful_stream streamId) wellFormed run).least⟩

def pairBatch : Batch := plainBatch EventLog.empty 0 .any [1, 2]

def pairWriter : Writer := Writer.spawn (Store.withBatch Crc32fast.ieee Store.create (idOf 0) pairBatch) 4

theorem delivered_from_start_second_event :
    ∃ system, Reaches (System.next Crc32fast.ieee subscribeAll 1) (Ready subscribeAll 1) (System.start pairWriter)
        system ∧
      delivered system.subscription.out = pairBatch.events.drop 1 ∧
      ∀ event ∈ delivered system.subscription.out, 1 ≤ event.globalPosition := by
  have accepted : Accepts EventLog.empty (plainCall 0 .any [1, 2]) pairBatch :=
    accepts_batchOf EventLog.empty _ (plainCall_valid 0 .any [1, 2]) rfl
  have wellFormed : WellFormed pairWriter.store.log :=
    (indexes_empty.append accepted (by decide) (by decide : 2 < 2 ^ 32)).wellFormed
  have registered : Reaches (System.next Crc32fast.ieee subscribeAll 1) (Ready subscribeAll 1)
      (System.start pairWriter)
      ⟨Task.start pairWriter, ⟨.reading 1 none, [], []⟩, pairBatch.events, pairBatch.events, []⟩ :=
    .single ⟨.register, (fun _ impossible => nomatch impossible), rfl⟩
  have read : Reaches (System.next Crc32fast.ieee subscribeAll 1) (Ready subscribeAll 1)
      (System.start pairWriter)
      ⟨Task.start pairWriter, ⟨.yielding (pairBatch.events.drop 1) 1 1 none, [], []⟩, pairBatch.events,
        pairBatch.events, []⟩ :=
    registered.tail ⟨.poll, (fun _ _ _ => .inl (by decide : 1 ≤ 2)), rfl⟩
  have run := read.tail ⟨.poll, (fun _ _ impossible => nomatch impossible), rfl⟩
  exact ⟨_, run, rfl, (delivered_from_start Crc32fast.ieee pairWriter wellFormed 1).1 _ run⟩

/-- A subscription from position 1 is registered between the index update and the publication of
the event at position 0. It catches up with nothing and then receives that event. -/
theorem delivered_before_start :
    ∃ system, Reaches (System.next Crc32fast.ieee subscribeAll 1) always (System.start freshWriter) system ∧
      ∃ event ∈ delivered system.subscription.out, ¬ 1 ≤ event.globalPosition := by
  have run : Reaches (System.next Crc32fast.ieee subscribeAll 1) always (System.start freshWriter)
      (receivedOnce Crc32fast.ieee none (.ok .caughtUp :: firstBatch.events.map message) firstBatch.events) :=
    (reaches_indexed Crc32fast.ieee subscribeAll 1 _ rfl).trans
      (reaches_of_feed [.register, .poll, .poll, .poll, .writer .publish, .poll] _ _ rfl)
  exact ⟨_, run, _, List.mem_singleton.mpr rfl, by decide⟩

end EventfoldDb.SubscriptionStart
