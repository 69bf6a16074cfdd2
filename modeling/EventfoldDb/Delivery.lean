import EventfoldDb.SubscriptionInvariant

/-! What the consumer of a subscription can rely on, over every interleaving of the writer with
the subscription. -/

namespace EventfoldDb.Delivery
open Outcome Recovery AppendSpec LogInvariant DiskInvariant WriterSpec SubscriptionInvariant Numbering Window Machine

structure Delivers (crc : Crc32fast) (feed : Feed) (start : UInt64) (system : System) : Prop where
  consecutive : ∀ (i : Nat) (event following : RecordedEvent),
    (delivered system.subscription.out)[i]? = some event →
    (delivered system.subscription.out)[i + 1]? = some following →
      (feed.rank following).toNat = (feed.rank event).toNat + 1
  caughtUp : ∀ before behind, system.subscription.out = before ++ .ok .caughtUp :: behind →
    .ok .caughtUp ∉ before ∧ .ok .caughtUp ∉ behind ∧
      ∀ event ∈ system.registered, feed.wanted event = true → start ≤ feed.rank event →
        .ok (.event event) ∈ before
  drained : ∀ lastCatchup, system.subscription.phase = .live lastCatchup → system.subscription.queue = [] →
    ∀ event ∈ system.published, feed.wanted event = true → start ≤ feed.rank event →
      event ∈ delivered system.subscription.out
  faultless : system.subscription.phase ≠ .ended → ∀ error, .error error ∉ system.subscription.out
  lagged : ∀ after later, System.next crc feed start .lag system = some after →
    Reaches (System.next crc feed start) always after later →
      later.subscription.out = system.subscription.out ++ [.error laggedError]

/-! ### Reading the messages -/

@[simp] theorem delivered_append (first second : List (Except Error SubscriptionMessage)) :
    delivered (first ++ second) = delivered first ++ delivered second := List.filterMap_append ..

@[simp] theorem delivered_messages (events : List RecordedEvent) : delivered (events.map message) = events := by
  induction events with
  | nil => rfl
  | cons event events ih =>
    rw [List.map_cons]
    exact congrArg (event :: ·) ih

theorem delivered_caughtUp (behind : List (Except Error SubscriptionMessage)) :
    delivered (.ok .caughtUp :: behind) = delivered behind := rfl

theorem caughtUp_not_message (events : List RecordedEvent) : .ok .caughtUp ∉ events.map message := by
  intro member
  obtain ⟨event, _, same⟩ := List.mem_map.mp member
  cases same

theorem error_not_message (events : List RecordedEvent) (error : Error) : .error error ∉ events.map message := by
  intro member
  obtain ⟨event, _, same⟩ := List.mem_map.mp member
  cases same

theorem split_once {α : Type} {marker : α} {first second before behind : List α} (notBefore : marker ∉ first)
    (notBehind : marker ∉ second) (same : first ++ marker :: second = before ++ marker :: behind) :
    before = first ∧ behind = second := by
  induction first generalizing before with
  | nil =>
    cases before with
    | nil => exact ⟨rfl, (List.cons.inj same).2.symm⟩
    | cons item before =>
      rw [List.nil_append, List.cons_append] at same
      exact absurd ((List.cons.inj same).2 ▸ List.mem_append_right _ (List.mem_cons_self ..)) notBehind
  | cons item first ih =>
    cases before with
    | nil => exact absurd ((List.cons.inj same).1 ▸ List.mem_cons_self ..) notBefore
    | cons other before =>
      obtain ⟨sameItem, rest⟩ := List.cons.inj same
      obtain ⟨beforeEq, behindEq⟩ := ih (fun later => notBefore (List.mem_cons_of_mem _ later)) rest
      exact ⟨by rw [beforeEq, sameItem], behindEq⟩

section
variable {feed : Feed} {start : UInt64} {system : System}

theorem delivered_window (sound : Sound feed start system) :
    ∃ first stop, delivered system.subscription.out = window first stop (items feed system.log.events) := by
  have phase := sound.phase
  unfold PhaseSound at phase
  split at phase
  next => exact ⟨0, 0, by rw [phase.1, window_empty _ (Nat.le_refl _)]; rfl⟩
  next => exact ⟨_, _, by rw [phase.out, delivered_messages]⟩
  next => exact ⟨_, _, by rw [phase.1.out, delivered_messages]⟩
  next =>
    obtain ⟨cursor, catching, _⟩ := phase
    exact ⟨_, _, by rw [catching.out, delivered_messages]⟩
  next =>
    obtain ⟨caught, later, received, live⟩ := phase
    have whole : delivered system.subscription.out = caught ++ later := by
      rw [live.out, delivered_append, delivered_caughtUp, delivered_messages, delivered_messages]
    rcases live.position with ⟨_, nothing, _, laterEq⟩ | ⟨last, _, _, _, both⟩
    · exact ⟨_, _, by rw [whole, nothing, List.nil_append, laterEq]⟩
    · exact ⟨_, _, by rw [whole, both]⟩
  next =>
    obtain ⟨caught, later, tail, ended⟩ := phase
    obtain ⟨first, stop, _, both⟩ := ended.contiguous
    have nothing : delivered tail = [] := by
      rcases ended.tail with empty | lagged
      · rw [empty]
        rfl
      · rw [lagged]
        rfl
    refine ⟨first, stop, ?_⟩
    rw [ended.out, delivered_append, delivered_caughtUp, delivered_append, delivered_messages, delivered_messages,
      nothing, List.append_nil, both]

theorem rank_delivered (lawful : Lawful feed) (sound : Sound feed start system) {event : RecordedEvent}
    (member : event ∈ delivered system.subscription.out) :
    (items feed system.log.events)[(feed.rank event).toNat]? = some event := by
  obtain ⟨first, stop, windowEq⟩ := delivered_window sound
  rw [windowEq] at member
  exact (lawful.numbered sound.wellFormed).getElem?_of_mem (window_subset _ _ _ member)

theorem consecutive_of_sound (lawful : Lawful feed) (sound : Sound feed start system) (i : Nat)
    (event following : RecordedEvent) (here : (delivered system.subscription.out)[i]? = some event)
    (next : (delivered system.subscription.out)[i + 1]? = some following) :
    (feed.rank following).toNat = (feed.rank event).toNat + 1 := by
  obtain ⟨first, stop, windowEq⟩ := delivered_window sound
  have numbered := Numbered.window (lawful.numbered sound.wellFormed) first stop
  rw [windowEq] at here next
  rw [numbered.getElem? next, numbered.getElem? here, Nat.add_assoc]

theorem marked_once {caught : List RecordedEvent} {behind : List (Except Error SubscriptionMessage)}
    (out : system.subscription.out = caught.map message ++ .ok .caughtUp :: behind)
    (notBehind : .ok .caughtUp ∉ behind) (complete : Complete feed start system caught)
    (before rest : List (Except Error SubscriptionMessage))
    (split : system.subscription.out = before ++ .ok .caughtUp :: rest) :
    .ok .caughtUp ∉ before ∧ .ok .caughtUp ∉ rest ∧
      ∀ event ∈ system.registered, feed.wanted event = true → start ≤ feed.rank event →
        .ok (.event event) ∈ before := by
  obtain ⟨beforeEq, restEq⟩ := split_once (caughtUp_not_message caught) notBehind (out.symm.trans split)
  rw [beforeEq, restEq]
  refine ⟨caughtUp_not_message caught, notBehind, ?_⟩
  intro event member wanted least
  exact List.mem_map.mpr ⟨event, complete event member wanted least, rfl⟩

theorem caughtUp_of_sound (sound : Sound feed start system)
    (before behind : List (Except Error SubscriptionMessage))
    (split : system.subscription.out = before ++ .ok .caughtUp :: behind) :
    .ok .caughtUp ∉ before ∧ .ok .caughtUp ∉ behind ∧
      ∀ event ∈ system.registered, feed.wanted event = true → start ≤ feed.rank event →
        .ok (.event event) ∈ before := by
  have unmarked : ∀ events : List RecordedEvent, system.subscription.out ≠ events.map message := by
    intro events out
    have member : .ok .caughtUp ∈ system.subscription.out := by
      rw [split]
      exact List.mem_append_right _ (List.mem_cons_self ..)
    rw [out] at member
    exact caughtUp_not_message events member
  have phase := sound.phase
  unfold PhaseSound at phase
  split at phase
  next => exact absurd phase.1 (unmarked [])
  next => exact absurd phase.out (unmarked _)
  next => exact absurd phase.1.out (unmarked _)
  next =>
    obtain ⟨cursor, catching, _⟩ := phase
    exact absurd catching.out (unmarked _)
  next =>
    obtain ⟨caught, later, received, live⟩ := phase
    exact marked_once live.out (caughtUp_not_message later) live.complete before behind split
  next =>
    obtain ⟨caught, later, tail, ended⟩ := phase
    apply marked_once ended.out _ ended.complete before behind split
    intro member
    rcases List.mem_append.mp member with inLater | inTail
    · exact caughtUp_not_message later inLater
    · rcases ended.tail with empty | lagged
      · rw [empty] at inTail
        cases inTail
      · rw [lagged] at inTail
        cases List.mem_singleton.mp inTail

theorem drained_of_sound (lawful : Lawful feed) (sound : Sound feed start system) (lastCatchup : Option UInt64)
    (phase : system.subscription.phase = .live lastCatchup) (empty : system.subscription.queue = [])
    (event : RecordedEvent) (member : event ∈ system.published) (wanted : feed.wanted event = true)
    (least : start ≤ feed.rank event) : event ∈ delivered system.subscription.out := by
  have live := sound.phase
  unfold PhaseSound at live
  rw [phase] at live
  obtain ⟨caught, later, received, live⟩ := live
  obtain ⟨initial, book⟩ := sound.book
  have receivedEq : received = initial ++ system.published := by
    have split := live.split
    rw [empty, List.append_nil, book] at split
    exact (List.append_cancel_right split).symm
  have whole : delivered system.subscription.out = caught ++ later := by
    rw [live.out, delivered_append, delivered_caughtUp, delivered_messages, delivered_messages]
  have picked : event ∈ items feed received := by
    rw [receivedEq]
    exact List.mem_filter.mpr ⟨List.mem_append_right _ member, wanted⟩
  obtain ⟨position, found⟩ := List.mem_iff_getElem?.mp picked
  have inside : position < (items feed received).length := (List.getElem?_eq_some_iff.mp found).1
  have here : (items feed system.log.events)[position]? = some event := by
    rw [live.split, List.append_assoc, items_append, List.getElem?_append_left inside]
    exact found
  have rank := rank_of_getElem? lawful sound.wellFormed here
  rw [UInt64.le_iff_toNat_le, rank] at least
  rw [whole]
  rcases live.position with ⟨_, nothing, missed, laterEq⟩ | ⟨last, _, _, _, both⟩
  · rw [nothing, List.nil_append, laterEq]
    exact mem_window here (by omega) inside
  · rw [both]
    exact mem_window here least (by omega)

theorem faultless_of_sound (sound : Sound feed start system) (going : system.subscription.phase ≠ .ended)
    (error : Error) : .error error ∉ system.subscription.out := by
  have phase := sound.phase
  unfold PhaseSound at phase
  split at phase
  next => rw [phase.1]; exact List.not_mem_nil
  next => rw [phase.out]; exact error_not_message _ error
  next => rw [phase.1.out]; exact error_not_message _ error
  next =>
    obtain ⟨cursor, catching, _⟩ := phase
    rw [catching.out]
    exact error_not_message _ error
  next =>
    obtain ⟨caught, later, received, live⟩ := phase
    rw [live.out]
    intro member
    rcases List.mem_append.mp member with inCaught | inRest
    · exact error_not_message caught error inCaught
    · rcases List.mem_cons.mp inRest with marker | inLater
      · cases marker
      · exact error_not_message later error inLater
  next ended => exact absurd ended going

end

theorem silent_after_end {crc : Crc32fast} {feed : Feed} {start : UInt64} {ended later : System}
    (phase : ended.subscription.phase = .ended)
    (run : Reaches (System.next crc feed start) always ended later) :
    later.subscription.phase = .ended ∧ later.subscription.out = ended.subscription.out := by
  apply run.invariant (fun system =>
    system.subscription.phase = .ended ∧ system.subscription.out = ended.subscription.out) ⟨phase, rfl⟩
  intro system step after ⟨samePhase, sameOut⟩ _ moved
  cases step with
  | writer step =>
    obtain ⟨task, taskMoved, same⟩ := Option.map_eq_some_iff.mp moved
    obtain ⟨more, grows⟩ := grows_writer taskMoved
    rw [← same]
    exact ⟨grows.phase.trans samePhase, grows.out.trans sameOut⟩
  | register =>
    rw [System.next, samePhase] at moved
    cases moved
  | poll =>
    rw [System.next, Subscription.poll, samePhase] at moved
    cases moved
  | lag =>
    rw [System.next, samePhase] at moved
    cases moved
  | close =>
    rw [System.next, samePhase] at moved
    cases moved

theorem lagged_once {crc : Crc32fast} {feed : Feed} {start : UInt64} {system after later : System}
    (moved : System.next crc feed start .lag system = some after)
    (run : Reaches (System.next crc feed start) always after later) :
    later.subscription.out = system.subscription.out ++ [.error laggedError] := by
  obtain ⟨lastCatchup, live, same⟩ := lag_moved moved
  rw [same] at run
  exact (silent_after_end rfl run).2

theorem delivers_of_sound (crc : Crc32fast) {feed : Feed} {start : UInt64} {system : System} (lawful : Lawful feed)
    (sound : Sound feed start system) : Delivers crc feed start system where
  consecutive := consecutive_of_sound lawful sound
  caughtUp := caughtUp_of_sound sound
  drained := drained_of_sound lawful sound
  faultless := faultless_of_sound sound
  lagged := fun _ _ moved run => lagged_once moved run

theorem sound_of_run {crc : Crc32fast} {feed : Feed} (lawful : Lawful feed) {start : UInt64} {writer : Writer}
    (wellFormed : WellFormed writer.store.log) {allowed : System → System.Step → Prop} {system : System}
    (run : Reaches (System.next crc feed start) allowed (System.start writer) system) : Sound feed start system :=
  run.invariant (Sound feed start) (sound_start feed start writer wellFormed)
    (fun before step after sound _ moved => sound_next crc feed lawful start before step after sound moved)

/-! ### Where a subscription begins -/

section
variable {feed : Feed} {start : UInt64} {system after : System}

def Headed (feed : Feed) (start : UInt64) (out : List (Except Error SubscriptionMessage)) : Prop :=
  ∀ event, (delivered out).head? = some event → feed.rank event ≤ start

theorem headed_window (lawful : Lawful feed) (wellFormed : WellFormed system.log)
    {out : List (Except Error SubscriptionMessage)} {first stop : Nat}
    (windowEq : delivered out = window first stop (items feed system.log.events)) (early : first ≤ start.toNat) :
    Headed feed start out := by
  intro event head
  rw [windowEq, List.head?_eq_getElem?] at head
  have rank := (Numbered.window (lawful.numbered wellFormed) first stop).getElem? head
  rw [UInt64.le_iff_toNat_le]
  omega

/-- The catch-up begins at the start. Without one, the live phase begins with what was published
after the registration. -/
theorem headed_of_sound (lawful : Lawful feed) (sound : Sound feed start system)
    (going : system.subscription.phase ≠ .ended) : Headed feed start system.subscription.out := by
  have phase := sound.phase
  unfold PhaseSound at phase
  split at phase
  next =>
    rw [phase.1]
    intro event head
    cases head
  next => exact headed_window lawful sound.wellFormed (by rw [phase.out, delivered_messages]) (Nat.le_refl _)
  next => exact headed_window lawful sound.wellFormed (by rw [phase.1.out, delivered_messages]) (Nat.le_refl _)
  next =>
    obtain ⟨cursor, catching, _⟩ := phase
    exact headed_window lawful sound.wellFormed (by rw [catching.out, delivered_messages]) (Nat.le_refl _)
  next =>
    obtain ⟨caught, later, received, live⟩ := phase
    have whole : delivered system.subscription.out = caught ++ later := by
      rw [live.out, delivered_append, delivered_caughtUp, delivered_messages, delivered_messages]
    rcases live.position with ⟨_, nothing, early, laterEq⟩ | ⟨last, _, _, _, both⟩
    · exact headed_window lawful sound.wellFormed (by rw [whole, nothing, List.nil_append, laterEq]) early
    · exact headed_window lawful sound.wellFormed (by rw [whole, both]) (Nat.le_refl _)
  next ended => exact absurd ended going

theorem Headed.silent {out : List (Except Error SubscriptionMessage)} (headed : Headed feed start out)
    {last : Except Error SubscriptionMessage} (silent : delivered [last] = []) : Headed feed start (out ++ [last]) := by
  rw [Headed, delivered_append, silent, List.append_nil]
  exact headed

theorem headed_next (crc : Crc32fast) (lawful : Lawful feed) {step : System.Step} (sound : Sound feed start system)
    (headed : Headed feed start system.subscription.out)
    (moved : System.next crc feed start step system = some after) : Headed feed start after.subscription.out := by
  have soundAfter := sound_next crc feed lawful start system step after sound moved
  by_cases going : after.subscription.phase ≠ .ended
  · exact headed_of_sound lawful soundAfter going
  · cases step with
    | writer step =>
      obtain ⟨task, taskMoved, same⟩ := Option.map_eq_some_iff.mp moved
      obtain ⟨more, grows⟩ := grows_writer taskMoved
      rw [← same, grows.out]
      exact headed
    | register =>
      obtain ⟨_, same⟩ := register_moved moved
      rw [same]
      exact headed
    | poll =>
      -- no poll that a lawful feed allows ends the subscription
      obtain ⟨subscription, polled, same⟩ := Option.map_eq_some_iff.mp moved
      rw [← same] at going
      refine absurd ?_ going
      cases polls_of_poll lawful sound.wellFormed polled with
      | forwarded lastCatchup event queue phase => simp [phase]
      | skipped lastCatchup event queue phase => simp [phase]
      | read | missing | yielded | finished | again | marked => simp
    | lag =>
      obtain ⟨lastCatchup, _, same⟩ := lag_moved moved
      rw [same]
      exact headed.silent rfl
    | close =>
      obtain ⟨lastCatchup, _, same⟩ := close_moved moved
      rw [same]
      exact headed

theorem headed_of_run {crc : Crc32fast} (lawful : Lawful feed) {writer : Writer}
    (wellFormed : WellFormed writer.store.log)
    (run : Reaches (System.next crc feed start) always (System.start writer) system) :
    Headed feed start system.subscription.out := by
  have both := run.invariant (fun system => Sound feed start system ∧ Headed feed start system.subscription.out)
    ⟨sound_start feed start writer wellFormed, fun event head => by cases head⟩
    (fun before step after kept _ moved =>
      ⟨sound_next crc feed lawful start before step after kept.1 moved, headed_next crc lawful kept.1 kept.2 moved⟩)
  exact both.2

end

/-! ### One event, indexed and then published -/

theorem receive_nil (subscription : Subscription) : subscription.receive [] = subscription := by
  unfold Subscription.receive
  split
  · rfl
  · rw [List.append_nil]

theorem next_silent {crc : Crc32fast} {feed : Feed} {start : UInt64} {step : Task.Step} {system : System}
    {task : Task} (moved : Task.next crc step system.task = some task) (silent : Task.sends step system.task = []) :
    System.next crc feed start (.writer step) system = some { system with task } := by
  rw [System.next, moved, silent, receive_nil, List.append_nil]
  rfl

theorem reaches_indexed (crc : Crc32fast) (feed : Feed) (start : UInt64) (system : System)
    (fresh : system.task = Task.start freshWriter) :
    Reaches (System.next crc feed start) always system { system with task := firstTask crc } := by
  apply reaches_of_feed
    [.writer (.submit (plainRequest 0 .any [1])), .writer (.drain 1 0), .writer (.serve .none)]
  rw [Machine.feed, next_silent (by rw [fresh]; rfl) rfl, Option.bind_some]
  rw [Machine.feed, next_silent (by rw [Task.next, if_pos ⟨rfl, rfl, rfl, Nat.one_pos, Nat.le_refl 1⟩]) rfl,
    Option.bind_some]
  rw [Machine.feed, next_silent (next_first crc _ rfl rfl rfl rfl rfl) rfl]
  rfl

def receivedOnce (crc : Crc32fast) (lastCatchup : Option UInt64) (out : List (Except Error SubscriptionMessage))
    (registered : List RecordedEvent) : System where
  task := { firstTask crc with unsent := [] }
  subscription := ⟨.live lastCatchup, [], out⟩
  registered := registered
  missed := []
  published := firstBatch.events

/-! ### A log in which a position stands twice -/

def repeatedBatch : Batch := plainBatch EventLog.empty 0 .any [2]

def unsyncedStore : Store := { Store.create with file := Store.create.file.write (firstBatch.encode .ieee) }

def repeatedStore : Store := Store.withBatch .ieee unsyncedStore (idOf 0) repeatedBatch

/-- What `open` makes of the file: both batches, with their events at position 0 and version 0. -/
def reopenedStore : Store where
  file := repeatedStore.file
  log := EventLog.empty.commit (eventsOf [firstBatch, repeatedBatch])

/-- The program itself makes such a log: a failed `sync_all`, an append that succeeds, a restart. -/
structure Repeats : Prop where
  failed : runCall .ieee .sync Store.create (plainCall 0 .any [1]) = (.err .io, unsyncedStore)
  acknowledged : runCall .ieee .none unsyncedStore (plainCall 0 .any [2]) = (.ok repeatedBatch.events, repeatedStore)
  reopened : Store.open .ieee (some repeatedStore.file) = (.ok reopenedStore, some repeatedStore.file)

theorem repeats : Repeats where
  failed := runCall_faulty .ieee .sync Store.create _ _ firstBatch_accepted (by simp)
  acknowledged := runCall_accepts .ieee unsyncedStore _ _
    (accepts_batchOf EventLog.empty _ (plainCall_valid 0 .any [2]) rfl) (by decide : 0 + 1 ≤ isizeMax)
  reopened := by
    apply open_clean
    · intro batch member
      rcases List.mem_pair.mp member with rfl | rfl
      · exact firstBatch_small
      · exact (by decide : 1 < 2 ^ 32)
    · show encodeHeader ++ firstBatch.encode .ieee ++ repeatedBatch.encode .ieee = _
      rw [fileBytes, encodeAll_cons, encodeAll_cons, List.append_assoc]
      simp only [encodeAll, List.flatMap_nil, List.append_nil]

/-! ### The two subscriptions -/

/-- `subscribe_all`: a gap-free and duplicate-free run of the log, for every start, every
well-formed log to begin with and every interleaving. -/
theorem subscribeAll_delivers (crc : Crc32fast) (writer : Writer) (wellFormed : WellFormed writer.store.log)
    (start : UInt64) (system : System)
    (run : Reaches (System.next crc subscribeAll start) always (System.start writer) system) :
    Delivers crc subscribeAll start system ∧
      ∀ event ∈ delivered system.subscription.out,
        system.log.events[event.globalPosition.toNat]? = some event := by
  have sound := sound_of_run lawful_all wellFormed run
  refine ⟨delivers_of_sound crc lawful_all sound, ?_⟩
  intro event member
  have here := rank_delivered lawful_all sound member
  have all : items subscribeAll system.log.events = system.log.events := List.filter_eq_self.mpr (fun _ _ => rfl)
  rw [all] at here
  exact here

/-- The catch-up reads the event before it is published; the live phase drops it. -/
theorem subscribeAll_delivers_indexed_event :
    ∃ system, Reaches (System.next Crc32fast.ieee subscribeAll 0) always (System.start freshWriter) system ∧
      system.subscription.out = firstBatch.events.map message ++ [.ok .caughtUp] ∧
      system.subscription.queue = [] ∧ system.published = firstBatch.events ∧
      Delivers Crc32fast.ieee subscribeAll 0 system ∧
      ∀ event ∈ delivered system.subscription.out, system.log.events[event.globalPosition.toNat]? = some event := by
  have run : Reaches (System.next Crc32fast.ieee subscribeAll 0) always (System.start freshWriter)
      (receivedOnce Crc32fast.ieee (some 0) (firstBatch.events.map message ++ [.ok .caughtUp]) firstBatch.events) :=
    (reaches_indexed Crc32fast.ieee subscribeAll 0 _ rfl).trans
      (reaches_of_feed [.register, .poll, .poll, .poll, .poll, .writer .publish, .poll] _ _ rfl)
  exact ⟨_, run, rfl, rfl, rfl, subscribeAll_delivers Crc32fast.ieee freshWriter wellFormed_empty 0 _ run⟩

/-- A subscription from the start of that log is sent two events with position 0. -/
theorem subscribeAll_repeats_position :
    Repeats ∧ ∃ system,
      Reaches (System.next .ieee subscribeAll 0) always (System.start (Writer.spawn reopenedStore 4)) system ∧
      delivered system.subscription.out = firstBatch.events ++ repeatedBatch.events ∧
      (delivered system.subscription.out).map (·.globalPosition) = [0, 0] ∧
      ¬Delivers .ieee subscribeAll 0 system := by
  have run : Reaches (System.next .ieee subscribeAll 0) always (System.start (Writer.spawn reopenedStore 4)) _ :=
    reaches_of_feed [.register, .poll, .poll, .poll] _ _ rfl
  refine ⟨repeats, _, run, rfl, rfl, ?_⟩
  intro delivers
  exact absurd (delivers.consecutive 0 _ _ rfl rfl) (by decide)

/-- `subscribe_stream`: the same for the events of one stream, whether or not it exists yet. -/
theorem subscribeStream_delivers (crc : Crc32fast) (writer : Writer) (wellFormed : WellFormed writer.store.log)
    (streamId : Uuid) (start : UInt64) (system : System)
    (run : Reaches (System.next crc (subscribeStream streamId) start) always (System.start writer) system) :
    Delivers crc (subscribeStream streamId) start system ∧
      ∀ event ∈ delivered system.subscription.out, event.streamId = streamId ∧
        (streamEvents streamId system.log.events)[event.streamVersion.toNat]? = some event := by
  have sound := sound_of_run (lawful_stream streamId) wellFormed run
  refine ⟨delivers_of_sound crc (lawful_stream streamId) sound, ?_⟩
  intro event member
  have here := rank_delivered (lawful_stream streamId) sound member
  refine ⟨?_, here⟩
  have wanted := List.of_mem_filter (List.mem_of_getElem? here)
  exact of_decide_eq_true wanted

theorem subscribeStream_delivers_new_stream :
    ∃ system, Reaches (System.next Crc32fast.ieee (subscribeStream (idOf 0)) 0) always (System.start freshWriter)
        system ∧
      system.subscription.out = .ok .caughtUp :: firstBatch.events.map message ∧
      system.subscription.queue = [] ∧ system.published = firstBatch.events ∧
      Delivers Crc32fast.ieee (subscribeStream (idOf 0)) 0 system ∧
      ∀ event ∈ delivered system.subscription.out, event.streamId = idOf 0 ∧
        (streamEvents (idOf 0) system.log.events)[event.streamVersion.toNat]? = some event := by
  have caughtUp : Reaches (System.next Crc32fast.ieee (subscribeStream (idOf 0)) 0) always (System.start freshWriter)
      { System.start freshWriter with subscription := ⟨.live none, [], [.ok .caughtUp]⟩ } :=
    reaches_of_feed [.register, .poll, .poll] _ _ rfl
  have run : Reaches (System.next Crc32fast.ieee (subscribeStream (idOf 0)) 0) always (System.start freshWriter)
      (receivedOnce Crc32fast.ieee none (.ok .caughtUp :: firstBatch.events.map message) []) :=
    (caughtUp.trans (reaches_indexed Crc32fast.ieee _ 0 _ rfl)).trans
      (reaches_of_feed [.writer .publish, .poll] _ _ rfl)
  exact ⟨_, run, rfl, rfl, rfl,
    subscribeStream_delivers Crc32fast.ieee freshWriter wellFormed_empty (idOf 0) 0 _ run⟩

/-- A subscription to the stream is sent the first event twice, and the second never. -/
theorem subscribeStream_repeats_event :
    Repeats ∧ ∃ system,
      Reaches (System.next .ieee (subscribeStream (idOf 0)) 0) always (System.start (Writer.spawn reopenedStore 4))
        system ∧
      delivered system.subscription.out = firstBatch.events ++ firstBatch.events ∧
      system.log.events = firstBatch.events ++ repeatedBatch.events ∧
      system.subscription.phase = .live (some 0) ∧
      ¬Delivers .ieee (subscribeStream (idOf 0)) 0 system := by
  have run : Reaches (System.next .ieee (subscribeStream (idOf 0)) 0) always (System.start (Writer.spawn reopenedStore 4))
      _ := reaches_of_feed [.register, .poll, .poll, .poll, .poll, .poll] _ _ rfl
  refine ⟨repeats, _, run, rfl, rfl, rfl, ?_⟩
  intro delivers
  exact absurd (delivers.consecutive 0 _ _ rfl rfl) (by decide)

end EventfoldDb.Delivery
