import EventfoldDb.ServerRuns
import EventfoldDb.StreamSummaries

/-! From the client that appends to the clients that read and subscribe, through the whole server: what
was acknowledged can be read, and every stream that has caught up has it. -/

namespace EventfoldDb.EndToEnd
open Outcome Recovery AppendSpec LogInvariant WriterSpec WriterHandle AnswerSegments ServiceReads
  SubscriptionInvariant Delivery FanOut Launch Server Server.Process ServerRuns Window Machine

/-! ### What has been answered has been published -/

def Settles (recorded : List RecordedEvent) (task : Task) : Prop :=
  ∃ settled, task.writer.store.log.events = settled ++ task.unsent ∧ recorded ⊆ settled

/-- Nothing is answered before it is published. -/
def Acked (task : Task) : Prop :=
  ∀ answer ∈ task.answers, ∀ recorded, answer.result = .ok recorded → Settles recorded task

section
variable {crc : Crc32fast} {recovered recorded : List RecordedEvent} {task after : Task} {step : Task.Step}

theorem settles_of_unsent (unsent : task.unsent = []) (inside : recorded ⊆ task.writer.store.log.events) :
    Settles recorded task :=
  ⟨_, by rw [unsent, List.append_nil], inside⟩

theorem Settles.next (settles : Settles recorded task) (moved : Task.next crc step task = some after) :
    Settles recorded after := by
  obtain ⟨settled, split, inside⟩ := settles
  exact ⟨_, (next_grows moved).2 settled split, List.subset_append_of_subset_left _ inside⟩

theorem answers_of_next (moved : Task.next crc step task = some after) (quiet : step ≠ .respond) :
    after.answers = task.answers := by
  cases step with
  | submit request =>
    cases moved
    rfl
  | drain count recordedAt =>
    rw [Task.next] at moved
    split_ifs at moved
    cases moved
    rfl
  | serve fault =>
    obtain ⟨ticket, rest, served, result, _, _, _, _, same, _⟩ := next_serve moved
    rw [same]
    rfl
  | publish =>
    rw [Task.next] at moved
    split at moved
    next => cases moved
    next =>
      cases moved
      rfl
  | respond => exact absurd rfl quiet

theorem Acked.next (acked : Acked task) (segmented : Segmented recovered task)
    (moved : Task.next crc step task = some after) : Acked after := by
  have earlier : ∀ answer ∈ task.answers, ∀ recorded, answer.result = .ok recorded → Settles recorded after :=
    fun answer member recorded isOk => (acked answer member recorded isOk).next moved
  by_cases responds : step = .respond
  · rw [responds, Task.next] at moved
    split at moved
    next reply unsent isReply =>
      cases moved
      intro answer member recorded isOk
      apply settles_of_unsent unsent
      have given : answer ∈ answered task := by
        rw [answered, isReply]
        exact member
      exact (segmented.answers answer given recorded isOk).contiguous.subset
    next => cases moved
  · rw [Acked, answers_of_next moved responds]
    exact earlier

end

/-! ### What a stream that has caught up has yielded -/

theorem settled_delivered {feed : Feed} {start : UInt64} {system : System} {lastCatchup : Option UInt64}
    {settled : List RecordedEvent} (lawful : Lawful feed) (sound : Sound feed start system)
    (phase : system.subscription.phase = .live lastCatchup) (empty : system.subscription.queue = [])
    (split : system.log.events = settled ++ system.task.unsent) {event : RecordedEvent} (member : event ∈ settled)
    (wanted : feed.wanted event = true) (least : start ≤ feed.rank event) :
    event ∈ delivered system.subscription.out := by
  have live := sound.phase
  unfold PhaseSound at live
  rw [phase] at live
  obtain ⟨caught, later, received, live⟩ := live
  have isSettled : received = settled := by
    have same := live.split
    rw [empty, List.append_nil, split] at same
    exact (List.append_cancel_right same).symm
  rw [← isSettled] at member
  have whole : delivered system.subscription.out = caught ++ later := by
    rw [live.out, delivered_append, delivered_caughtUp, delivered_messages, delivered_messages]
  obtain ⟨position, found⟩ := List.mem_iff_getElem?.mp (List.mem_filter.mpr ⟨member, wanted⟩ : event ∈ items feed received)
  have inside : position < (items feed received).length := (List.getElem?_eq_some_iff.mp found).1
  have here : (items feed system.log.events)[position]? = some event := by
    rw [live.split, List.append_assoc, items_append, List.getElem?_append_left inside]
    exact found
  have rank := rank_of_getElem? lawful sound.wellFormed here
  rw [UInt64.le_iff_toNat_le, rank] at least
  rw [whole]
  rcases live.position with ⟨_, nothing, missed, laterEq⟩ | ⟨last, _, _, _, both⟩
  · rw [nothing, List.nil_append, laterEq]
    exact mem_window here (by omega) inside
  · rw [both]
    exact mem_window here least (by omega)

theorem relayed_of_delivered {out : List (Except Error SubscriptionMessage)} {event : RecordedEvent}
    (member : event ∈ delivered out) :
    .ok ⟨some (.event (recordedToProto event))⟩ ∈ out.map EventfoldService.relay := by
  obtain ⟨message, here, isEvent⟩ := List.mem_filterMap.mp member
  refine List.mem_map.mpr ⟨message, here, ?_⟩
  cases message with
  | error error => cases isEvent
  | ok item =>
    cases item with
    | caughtUp => cases isEvent
    | event other =>
      cases isEvent
      rfl

/-! ### The guarantee -/

/-- A stream that is live and has taken everything from its receiver. -/
def CaughtUp (process : Process) (subscriber : Subscriber) : Prop :=
  (∃ lastCatchup, subscriber.phase = .live lastCatchup) ∧ subscriber.next = process.broker.tx.pos

structure Acknowledged (parser : UuidParser) (process : Process) (message : Proto.AppendRequest)
    (response : Proto.AppendResponse) (recorded : List RecordedEvent) : Prop where
  reads : EventfoldService.readAll process.log
      ⟨response.firstGlobalPosition, response.lastGlobalPosition - response.firstGlobalPosition + 1⟩ =
    ok ⟨recorded.map recordedToProto⟩
  /-- They are those of the message, or the first event id of the message was known. -/
  fresh : ReadsBack parser process.log message response ∨ ∃ first rest, message.events = first :: rest ∧
    shown parser first.eventId ∈ recorded.map fun event => (recordedToProto event).eventId
  streamed : ∀ subscriber ∈ process.subscribers, CaughtUp process subscriber → ∀ event ∈ recorded,
    subscriber.target.feed.wanted event = true → subscriber.start ≤ subscriber.target.feed.rank event →
      .ok ⟨some (.event (recordedToProto event))⟩ ∈ subscriber.out.map EventfoldService.relay

section
variable {Addr : Type} {crc : Crc32fast} {parser : UuidParser} {decode : Decoder} {platform : Platform}
  {config : Config Addr} {store : Store}
  {start process : Process}

theorem streamed_of_kept (kept : ServerRuns.Kept crc parser decode platform config store process)
    (wellFormed : WellFormed store.log)
    {recorded : List RecordedEvent} (settles : Settles recorded process.system.task) {subscriber : Subscriber}
    (member : subscriber ∈ process.subscribers) (caughtUp : CaughtUp process subscriber) {event : RecordedEvent}
    (here : event ∈ recorded) (wanted : subscriber.target.feed.wanted event = true)
    (least : subscriber.start ≤ subscriber.target.feed.rank event) : event ∈ delivered subscriber.out := by
  obtain ⟨broker, created, run⟩ := kept.hub
  obtain ⟨sent, mirrored⟩ := mirrored_of_run created run
  obtain ⟨system, mirrors⟩ := mirrored.mirrors subscriber member
  have lawful := lawful_target subscriber.target
  have sound := sound_of_run lawful wellFormed mirrors.run
  obtain ⟨⟨lastCatchup, live⟩, drained⟩ := caughtUp
  obtain ⟨phase, -, queue⟩ := mirrors.place ((alive_iff subscriber).mpr (by simp [live]))
  rw [drained, show process.broker.tx.pos = sent.length from mirrored.holds.pos, List.drop_length] at queue
  obtain ⟨settled, split, within⟩ := settles
  have sameTask : system.task = process.system.task := mirrors.task
  rw [← mirrors.out]
  refine settled_delivered lawful sound (phase.trans live) queue ?_ (within here) wanted least
  rw [System.log, sameTask]
  exact split

theorem acknowledged_of_explained (kept : ServerRuns.Kept crc parser decode platform config store process)
    (wellFormed : WellFormed store.log) (filed : Filed store.log.events process.system.task)
    {recorded : List RecordedEvent} {answer : Answer} {message : Proto.AppendRequest} {response : Proto.AppendResponse}
    (segment : Segment process.log.events recorded) (explained : Explained process.log.events answer recorded)
    (settles : Settles recorded process.system.task)
    (passed : EventfoldService.request parser message = .ok answer.ticket.request)
    (responded : EventfoldService.respond recorded = ok response) :
    Acknowledged parser process message response recorded := by
  obtain ⟨other, again, reads, fresh⟩ := reads_of_explained filed.segmented.wellFormed filed.canonical segment explained passed
  rw [responded] at again
  cases again
  refine ⟨reads, ?_, ?_⟩
  · rcases fresh with ⟨_, readsBack⟩ | ⟨_, known⟩
    · exact .inl readsBack
    · exact .inr known
  · intro subscriber here caughtUp event inside wanted least
    exact relayed_of_delivered (streamed_of_kept kept wellFormed settles here caughtUp inside wanted least)

theorem filed_of_run (started : Started platform config store start) (wellFormed : WellFormed store.log)
    (canonical : DiskInvariant.Canonical store.log)
    (run : Reaches (Process.next crc parser decode) Process.Permitted start process) :
    Filed store.log.events process.system.task ∧ Acked process.system.task :=
  (task_of_run started run).invariant (fun task => Filed store.log.events task ∧ Acked task)
    ⟨filed_start wellFormed canonical _, fun _ member => absurd member List.not_mem_nil⟩
    (fun _ _ _ ⟨filed, acked⟩ permitted moved => ⟨filed_next filed permitted moved, acked.next filed.segmented moved⟩)

end

/-- For every append that was answered with success, however it was interleaved with other requests,
failing writes, streams that come and go, and a shutdown. -/
theorem acknowledged_everywhere {Addr : Type} (crc : Crc32fast) (parsers : Parsers Addr) (host : Host Addr)
    (start : Process) (files : String → Option File) (launched : launch crc parsers host = (ok start, files))
    (wellFormed : WellFormed start.log) (parser : UuidParser) (decode : Decoder) (process : Process)
    (run : Reaches (Process.next crc parser decode) Process.Permitted start process) (exchange : Exchange)
    (member : exchange ∈ process.exchanges) (response : Proto.AppendResponse)
    (success : exchange.progress = .replied (.append (ok response))) :
    ∃ message recorded, exchange.rpc = .append message ∧ Acknowledged parser process message response recorded := by
  obtain ⟨config, store, _, opened, started⟩ := started_of_launch launched
  rw [started_log started] at wellFormed
  have kept := kept_of_run started run
  obtain ⟨filed, acked⟩ := filed_of_run started wellFormed (Lifecycle.canonical_of_open opened) run
  obtain ⟨answer, sent, recorded, ⟨message, isAppend, passed⟩, isOk, responded⟩ :=
    (kept.traced.exchanges exchange member).acknowledged response success
  have given : answer ∈ answered process.system.task := List.mem_append_left _ sent
  exact ⟨message, recorded, isAppend, acknowledged_of_explained kept wellFormed filed
    (filed.segmented.answers answer given recorded isOk) (filed.explained answer given recorded isOk)
    (acked answer sent recorded isOk) passed responded⟩

def reader (progress : Progress) : Exchange := ⟨.text ("Bearer " ++ "t"), 0, .subscribeAll 0, progress⟩

def followed (crc : Crc32fast) (progress : Progress) : Process :=
  plainServer "k" (oneCall (firstAnswered crc) 0 (some 0) (.returned (.ok firstBatch.events))) firstBatch.events
    [stranger, friend (.replied (Process.answer (.ok firstBatch.events))), reader progress]

def follower : Subscriber :=
  ⟨.all, 0, .live (some 0), 0, firstBatch.events.map (fun event => .ok (.event event)) ++ [.ok .caughtUp], firstBatch.events⟩

def caughtUp (crc : Crc32fast) : Process :=
  { followed crc (.streaming 0) with
    broker := ⟨(followed crc (.streaming 0)).broker.tx.subscribe.2⟩
    subscribers := [follower]
    subscriptionsActive := 1 }

theorem request_followed (crc : Crc32fast) (iteration : List (Uuid × List UInt64)) :
    Process.next crc plainParser plainDecode (.request (.text ("Bearer " ++ "t")) 0 (.subscribeAll 0) iteration)
      (visited "k" (firstAnswered crc) (some 0) (.returned (.ok firstBatch.events)) firstBatch.events
        (.replied (Process.answer (.ok firstBatch.events)))) = some (followed crc (.opened .all 0)) := by
  have listening : (visited "k" (firstAnswered crc) (some 0) (.returned (.ok firstBatch.events)) firstBatch.events
    (.replied (Process.answer (.ok firstBatch.events)))).stage = .listening := rfl
  rw [Process.next, if_pos listening, admits_plain rfl]
  rfl

theorem reaches_caughtUp (crc : Crc32fast) :
    Reaches (Process.next crc plainParser plainDecode) Process.Permitted (plainServer "k" newSystem [] []) (caughtUp crc) := by
  have run := permitted_of_undisturbed (reaches_replied crc "k")
  obtain ⟨config, store, _, opened, started⟩ := started_of_launch (launch_plain crc (show "k" ≠ "" by decide))
  have wellFormed : WellFormed store.log := by
    rw [← started_log started]
    exact wellFormed_empty
  have canonical := (filed_of_run started wellFormed (Lifecycle.canonical_of_open opened) run).1.canonical
  have polls : Reaches (Process.next crc plainParser plainDecode) Process.Permitted (followed crc (.opened .all 0))
      (caughtUp crc) :=
    reaches_of_permitted [.poll 2, .poll 2, .poll 2, .poll 2, .poll 2] (by simp [Process.Permitted]) _ _ rfl
  exact (run.tail ⟨.request _ _ _ _, StreamSummaries.iterates_entriesOf canonical, request_followed crc _⟩).trans polls

theorem acknowledged_everywhere_first :
    ∃ start files process exchange response message recorded,
      launch Crc32fast.ieee plainParsers (plainHost "k") = (ok start, files) ∧ WellFormed start.log ∧
      Reaches (Process.next Crc32fast.ieee plainParser plainDecode) Process.Permitted start process ∧
      exchange ∈ process.exchanges ∧ exchange.progress = .replied (.append (ok response)) ∧
      (∃ subscriber ∈ process.subscribers, CaughtUp process subscriber) ∧
      Acknowledged plainParser process message response recorded := by
  have launched := launch_plain Crc32fast.ieee (show "k" ≠ "" by decide)
  have run := reaches_caughtUp Crc32fast.ieee
  have member : friend (.replied (Process.answer (.ok firstBatch.events))) ∈ (caughtUp Crc32fast.ieee).exchanges :=
    List.mem_cons_of_mem _ (List.mem_cons_self ..)
  obtain ⟨message, recorded, _, acknowledged⟩ := acknowledged_everywhere Crc32fast.ieee plainParsers (plainHost "k") _ _
    launched wellFormed_empty plainParser plainDecode _ run _ member _ rfl
  exact ⟨_, _, _, _, _, message, recorded, launched, wellFormed_empty, run, member, rfl,
    ⟨follower, List.mem_cons_self .., ⟨_, rfl⟩, rfl⟩, acknowledged⟩

end EventfoldDb.EndToEnd
