import EventfoldDb.FanOut

/-! Subscribing again after a lag or a disconnect. A consumer goes on from its checkpoint, in as many
subscriptions as it takes. What was in the index and not yet published when it came back can reach
it a second time, and such a message lies before the checkpoint. -/

namespace EventfoldDb
open Outcome SubscriptionInvariant

/-- Where a consumer has got to: the start of its next subscription, and what it has processed. -/
structure Checkpoint where
  cursor : UInt64
  processed : List RecordedEvent

namespace Checkpoint

/-- An event before the cursor has been processed already. -/
def take (feed : Feed) (checkpoint : Checkpoint) (event : RecordedEvent) : Checkpoint :=
  if feed.rank event < checkpoint.cursor then checkpoint
  else ⟨feed.rank event + 1, checkpoint.processed ++ [event]⟩

def follow (feed : Feed) (checkpoint : Checkpoint) (out : List (Except Error SubscriptionMessage)) : Checkpoint :=
  (delivered out).foldl (take feed) checkpoint

def followAll (target : Target) (checkpoint : Checkpoint) (subscribers : List Subscriber) : Checkpoint :=
  subscribers.foldl (fun checkpoint subscriber => checkpoint.follow target.feed subscriber.out) checkpoint

/-- Each subscription starts at the cursor that the ones before it have left. -/
def Resumes (target : Target) : Checkpoint → List Subscriber → Prop
  | _, [] => True
  | checkpoint, subscriber :: rest => subscriber.target = target ∧ subscriber.start = checkpoint.cursor ∧
      Resumes target (checkpoint.follow target.feed subscriber.out) rest

theorem Resumes.target {target : Target} {checkpoint : Checkpoint} {subscribers : List Subscriber}
    (resumes : Resumes target checkpoint subscribers) {subscriber : Subscriber} (member : subscriber ∈ subscribers) :
    subscriber.target = target := by
  induction subscribers generalizing checkpoint with
  | nil => exact absurd member List.not_mem_nil
  | cons first rest ih =>
    obtain ⟨sameTarget, _, later⟩ := resumes
    rcases List.mem_cons.mp member with isFirst | inRest
    · rw [isFirst]
      exact sameTarget
    · exact ih later inRest

end Checkpoint

namespace Resubscription
open AppendSpec LogInvariant WriterSpec Delivery FanOut Checkpoint Broadcast Numbering Window Machine

/-! ### Following windows -/

section
variable {feed : Feed} {log : EventLog}

structure At (feed : Feed) (log : EventLog) (start : UInt64) (checkpoint : Checkpoint) : Prop where
  ordered : start ≤ checkpoint.cursor
  processed : checkpoint.processed = window start.toNat checkpoint.cursor.toNat (items feed log.events)

theorem succ_rank (lawful : Lawful feed) (wellFormed : WellFormed log) {i : Nat} {event : RecordedEvent}
    (here : (items feed log.events)[i]? = some event) :
    (feed.rank event).toNat = i ∧ (feed.rank event + 1).toNat = i + 1 := by
  have rank := (lawful.numbered wellFormed).getElem? here
  have inside := (List.getElem?_eq_some_iff.mp here).1
  have short : (items feed log.events).length ≤ log.events.length := List.length_filter_le _ _
  have capacity := wellFormed.capacity
  rw [isizeMax] at capacity
  rw [UInt64.toNat_add, UInt64.toNat_one]
  omega

theorem take_at (lawful : Lawful feed) (wellFormed : WellFormed log) {start : UInt64} {checkpoint : Checkpoint}
    (place : At feed log start checkpoint) {i : Nat} {event : RecordedEvent}
    (here : (items feed log.events)[i]? = some event) (early : i ≤ checkpoint.cursor.toNat) :
    At feed log start (checkpoint.take feed event) ∧ checkpoint.cursor ≤ (checkpoint.take feed event).cursor ∧
      feed.rank event < (checkpoint.take feed event).cursor := by
  obtain ⟨rank, next⟩ := succ_rank lawful wellFormed here
  by_cases old : feed.rank event < checkpoint.cursor
  · rw [Checkpoint.take, if_pos old]
    exact ⟨place, UInt64.le_refl _, old⟩
  · rw [Checkpoint.take, if_neg old]
    rw [UInt64.lt_iff_toNat_lt] at old
    have same : checkpoint.cursor.toNat = i := by omega
    have ordered := place.ordered
    rw [UInt64.le_iff_toNat_le, same] at ordered
    refine ⟨⟨?_, ?_⟩, ?_, ?_⟩
    · rw [UInt64.le_iff_toNat_le]
      dsimp only
      omega
    · dsimp only
      rw [next, place.processed, same, window_succ ordered here]
    · rw [UInt64.le_iff_toNat_le]
      dsimp only
      omega
    · rw [UInt64.lt_iff_toNat_lt]
      dsimp only
      omega

theorem foldl_take_window (lawful : Lawful feed) (wellFormed : WellFormed log) {start : UInt64}
    (events : List RecordedEvent) (checkpoint : Checkpoint) (place : At feed log start checkpoint) (first stop : Nat)
    (windowEq : window first stop (items feed log.events) = events)
    (early : events ≠ [] → first ≤ checkpoint.cursor.toNat) :
    At feed log start (events.foldl (Checkpoint.take feed) checkpoint) ∧
      checkpoint.cursor ≤ (events.foldl (Checkpoint.take feed) checkpoint).cursor ∧
      ∀ event ∈ events, feed.rank event < (events.foldl (Checkpoint.take feed) checkpoint).cursor := by
  induction events generalizing checkpoint first with
  | nil => exact ⟨place, UInt64.le_refl _, fun _ member => absurd member List.not_mem_nil⟩
  | cons event events ih =>
    obtain ⟨here, behind⟩ := window_cons windowEq
    obtain ⟨rank, _⟩ := succ_rank lawful wellFormed here
    obtain ⟨placeNext, further, passed⟩ := take_at lawful wellFormed place here (early (List.cons_ne_nil _ _))
    have earlyNext : events ≠ [] → first + 1 ≤ (checkpoint.take feed event).cursor.toNat := by
      intro _
      rw [UInt64.lt_iff_toNat_lt] at passed
      omega
    obtain ⟨placeLast, furtherLast, all⟩ := ih _ placeNext (first + 1) behind earlyNext
    refine ⟨placeLast, UInt64.le_trans further furtherLast, ?_⟩
    intro other member
    rcases List.mem_cons.mp member with isFirst | later
    · rw [isFirst]
      exact UInt64.lt_of_lt_of_le passed furtherLast
    · exact all other later

end

/-! ### A chain of subscriptions -/

section
variable {crc : Crc32fast} {writer : Writer} {hub : Hub} {sent : List RecordedEvent}

theorem follow_at (wellFormed : WellFormed writer.store.log) (mirrored : Mirrored crc writer hub sent) {start : UInt64}
    {checkpoint : Checkpoint} {subscriber : Subscriber} (member : subscriber ∈ hub.subscribers)
    (resumes : subscriber.start = checkpoint.cursor)
    (place : At subscriber.target.feed hub.log start checkpoint) :
    At subscriber.target.feed hub.log start (checkpoint.follow subscriber.target.feed subscriber.out) ∧
      checkpoint.cursor ≤ (checkpoint.follow subscriber.target.feed subscriber.out).cursor ∧
      ∀ event ∈ delivered subscriber.out,
        subscriber.target.feed.rank event < (checkpoint.follow subscriber.target.feed subscriber.out).cursor := by
  obtain ⟨system, mirrors⟩ := mirrored.mirrors subscriber member
  have lawful := lawful_target subscriber.target
  have sound := sound_of_run lawful wellFormed mirrors.run
  have sameLog : system.log = hub.log := by rw [System.log, mirrors.task, Hub.log]
  have headed := headed_of_run lawful wellFormed mirrors.run
  obtain ⟨first, stop, windowEq⟩ := delivered_window sound
  rw [mirrors.out] at headed windowEq
  have wellFormedHub := sound.wellFormed
  rw [sameLog] at windowEq wellFormedHub
  apply foldl_take_window lawful wellFormedHub _ checkpoint place first stop windowEq.symm
  intro some
  obtain ⟨event, rest, split⟩ := List.exists_cons_of_ne_nil some
  have least := headed event (by rw [split]; rfl)
  obtain ⟨here, _⟩ := window_cons (windowEq.symm.trans split)
  rw [UInt64.le_iff_toNat_le, (succ_rank lawful wellFormedHub here).1, resumes] at least
  exact least

theorem followAll_at (wellFormed : WellFormed writer.store.log) (mirrored : Mirrored crc writer hub sent)
    (target : Target)
    {start : UInt64} (subscribers : List Subscriber) (checkpoint : Checkpoint)
    (members : ∀ subscriber ∈ subscribers, subscriber ∈ hub.subscribers)
    (resumes : Resumes target checkpoint subscribers) (place : At target.feed hub.log start checkpoint) :
    At target.feed hub.log start (checkpoint.followAll target subscribers) ∧
      checkpoint.cursor ≤ (checkpoint.followAll target subscribers).cursor ∧
      ∀ subscriber ∈ subscribers, subscriber.start ≤ (checkpoint.followAll target subscribers).cursor ∧
        ∀ event ∈ delivered subscriber.out,
          target.feed.rank event < (checkpoint.followAll target subscribers).cursor := by
  induction subscribers generalizing checkpoint with
  | nil => exact ⟨place, UInt64.le_refl _, fun _ member => absurd member List.not_mem_nil⟩
  | cons subscriber subscribers ih =>
    obtain ⟨sameTarget, sameStart, rest⟩ := resumes
    rw [← sameTarget] at place
    have one := follow_at wellFormed mirrored (members subscriber (List.mem_cons_self ..)) sameStart place
    rw [sameTarget] at one
    obtain ⟨placeNext, further, passed⟩ := one
    obtain ⟨placeLast, furtherLast, all⟩ := ih _ (fun other later => members other (List.mem_cons_of_mem _ later)) rest
      placeNext
    refine ⟨placeLast, UInt64.le_trans further furtherLast, ?_⟩
    intro other member
    rcases List.mem_cons.mp member with isFirst | later
    · rw [isFirst, sameStart]
      exact ⟨UInt64.le_trans further furtherLast, fun event here => UInt64.lt_of_lt_of_le (passed event here) furtherLast⟩
    · exact all other later

end

structure Resumed (hub : Hub) (target : Target) (start : UInt64) (subscribers : List Subscriber) (final : Checkpoint) :
    Prop where
  /-- Raw messages may repeat, and leave nothing out. -/
  noGap : ∀ subscriber ∈ subscribers, Headed target.feed subscriber.start subscriber.out
  once : final.processed = window start.toNat final.cursor.toNat (items target.feed hub.log.events)
  complete : ∀ last ∈ subscribers, ∀ lastCatchup, last.phase = .live lastCatchup → last.next = hub.broker.tx.pos →
    ∀ event ∈ hub.published, target.feed.wanted event = true → start ≤ target.feed.rank event → event ∈ final.processed

/-- However often a consumer is cut off and comes back, it processes every event from its first start
on once and in order. -/
theorem resumed_once_in_order (crc : Crc32fast) (writer : Writer) (wellFormed : WellFormed writer.store.log)
    (platform : Platform) (capacity : Nat) (broker : Broker) (created : Broker.new platform capacity = ok broker)
    (hub : Hub) (run : Reaches (Hub.next crc) always (Hub.start writer broker) hub) (target : Target) (start : UInt64)
    (subscribers : List Subscriber) (members : ∀ subscriber ∈ subscribers, subscriber ∈ hub.subscribers)
    (resumes : Resumes target ⟨start, []⟩ subscribers) :
    Resumed hub target start subscribers (followAll target ⟨start, []⟩ subscribers) := by
  obtain ⟨sent, mirrored⟩ := mirrored_of_run created run
  have atStart : At target.feed hub.log start ⟨start, []⟩ :=
    ⟨UInt64.le_refl _, (window_empty _ (Nat.le_refl _)).symm⟩
  obtain ⟨place, _, passed⟩ := followAll_at wellFormed mirrored target subscribers ⟨start, []⟩ members resumes atStart
  constructor
  case noGap =>
    intro subscriber member
    obtain ⟨system, mirrors⟩ := mirrored.mirrors subscriber (members subscriber member)
    have headed := headed_of_run (lawful_target subscriber.target) wellFormed mirrors.run
    rwa [mirrors.out, resumes.target member] at headed
  case once => exact place.processed
  case complete =>
    intro last member lastCatchup live drained event published wanted least
    obtain ⟨system, mirrors⟩ := mirrored.mirrors last (members last member)
    have sound := sound_of_run (lawful_target last.target) wellFormed mirrors.run
    have all := drained_of_mirrors mirrored.holds mirrors sound live drained event published
    rw [resumes.target member] at all
    obtain ⟨reached, seen⟩ := passed last member
    have before : target.feed.rank event < (followAll target ⟨start, []⟩ subscribers).cursor := by
      by_cases early : target.feed.rank event < last.start
      · exact UInt64.lt_of_lt_of_le early reached
      · exact seen event (all wanted (UInt64.not_lt.mp early))
    have sameLog : system.log = hub.log := by rw [System.log, mirrors.task, Hub.log]
    have listed : event ∈ items target.feed hub.log.events := by
      obtain ⟨initial, book⟩ := sound.book
      rw [← sameLog, book, mirrors.published]
      refine List.mem_filter.mpr ⟨?_, wanted⟩
      exact List.mem_append_left _ (List.mem_append_right _ published)
    have wellFormedHub := sound.wellFormed
    rw [sameLog] at wellFormedHub
    have here := ((lawful_target target).numbered wellFormedHub).getElem?_of_mem listed
    rw [UInt64.le_iff_toNat_le] at least
    rw [UInt64.lt_iff_toNat_lt] at before
    rw [place.processed]
    exact mem_window here least before

def smallBroker : Broker := ⟨Channel.new 4⟩

theorem new_four : Broker.new .ample 4 = ok smallBroker := if_pos (by decide)

def quietHub (task : Task) : Hub := ⟨task, smallBroker, [], []⟩

theorem feed_indexed (crc : Crc32fast) :
    feed (Hub.next crc) [.writer (.submit (plainRequest 0 .any [1])), .writer (.drain 1 0), .writer (.serve .none)]
      (Hub.start freshWriter smallBroker) = some (quietHub (firstTask crc)) := by
  let request := plainRequest 0 .any [1]
  have drains : feed (Hub.next crc) [.writer (.submit request), .writer (.drain 1 0)]
      (Hub.start freshWriter smallBroker) = some (quietHub (drained freshWriter [] 0 0 request)) := rfl
  have serves : Hub.next crc (.writer (.serve .none)) (quietHub (drained freshWriter [] 0 0 request)) =
      some (quietHub (firstTask crc)) := by
    have going : ¬(quietHub (drained freshWriter [] 0 0 request)).broker.tx.closed = true := Bool.false_ne_true
    rw [Hub.next, if_neg going]
    dsimp only [quietHub]
    rw [next_first crc _ rfl rfl rfl rfl rfl]
    rfl
  simp only [feed, Option.bind_eq_some_iff] at drains ⊢
  obtain ⟨sent, submits, received, takes, last⟩ := drains
  cases last
  exact ⟨sent, submits, _, takes, _, serves, rfl⟩

/-- The consumer reads the first event from the index, is disconnected, comes back before the event is
published, and is sent it again. -/
theorem resumed_once_in_order_repeated :
    ∃ broker hub first second, Broker.new .ample 4 = ok broker ∧
      Reaches (Hub.next Crc32fast.ieee) always (Hub.start freshWriter broker) hub ∧ hub.subscribers = [first, second] ∧
      Resumes .all ⟨0, []⟩ [first, second] ∧ delivered first.out = firstBatch.events ∧
      delivered second.out = firstBatch.events ∧
      (followAll .all ⟨0, []⟩ [first, second]).processed = firstBatch.events ∧
      Resumed hub .all 0 [first, second] (followAll .all ⟨0, []⟩ [first, second]) := by
  have indexed := reaches_of_feed _ _ _ (feed_indexed Crc32fast.ieee)
  have repeated : Reaches (Hub.next Crc32fast.ieee) always (quietHub (firstTask Crc32fast.ieee)) _ :=
    reaches_of_feed
      [.subscribe .all 0, .poll 0, .poll 0, .drop 0, .subscribe .all 1, .poll 1, .poll 1, .poll 1, .writer .publish,
        .poll 1] _ _ rfl
  have run := indexed.trans repeated
  refine ⟨smallBroker, _, _, _, new_four, run, rfl, ⟨rfl, rfl, rfl, rfl, trivial⟩, rfl, rfl, rfl, ?_⟩
  exact resumed_once_in_order Crc32fast.ieee freshWriter wellFormed_empty .ample 4 smallBroker new_four _ run .all 0 _
    (fun _ member => member) ⟨rfl, rfl, rfl, rfl, trivial⟩

end Resubscription

end EventfoldDb
