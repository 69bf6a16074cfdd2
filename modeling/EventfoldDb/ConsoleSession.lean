import EventfoldDb.ConsoleClient
import EventfoldDb.LiveTail
import EventfoldDb.Resubscription

/-! What the console shows is what the server has. The live tail is the newest part of the log up to some
position, and every page is a first part of the list it is a page of, however the server, the
connection, the task and the keys are interleaved. -/

namespace EventfoldConsole
open EventfoldDb Outcome Recovery LogInvariant DiskInvariant SubscriptionInvariant Delivery Resubscription ServiceReads
  AnswerSegments StreamSummaries Window Numbering Machine

/-! ### Pages -/

structure Page (all shown : List EventRecord) (cursor : Nat) : Prop where
  first : shown <+: all
  short : shown.length ≤ readPageSize.toNat
  inside : cursor ≤ shown.length - 1

structure DetailPage (log : EventLog) (selected : Option String) (shown : List EventRecord) (cursor : Nat) : Prop where
  page : ∀ text, selected = some text → ∃ streamId : Uuid, streamId.display = text ∧
    Page ((streamEvents streamId log.events).map eventRecord) shown cursor
  nothing : selected = none → shown = [] ∧ cursor = 0

def Counted (log : EventLog) (info : StreamInfo) : Prop :=
  ∃ streamId : Uuid, streamId.display = info.streamId ∧ info.latestVersion.toNat + 1 = info.eventCount.toNat ∧
    info.eventCount.toNat ≤ (streamEvents streamId log.events).length

structure Listing (log : EventLog) (shown : List StreamInfo) (cursor : Nat) : Prop where
  counted : ∀ info ∈ shown, Counted log info
  distinct : (shown.map (·.streamId)).Nodup
  inside : cursor ≤ shown.length - 1

structure Pages (log : EventLog) (state : AppState) : Prop where
  streams : Listing log state.streams state.streamsCursor
  detail : DetailPage log state.detailStreamId state.detailEvents state.detailCursor
  global : Page (log.events.map eventRecord) state.globalEvents state.globalCursor

theorem Page.grow {all more shown : List EventRecord} {cursor : Nat} (page : Page all shown cursor)
    (grows : all <+: more) : Page more shown cursor := ⟨page.first.trans grows, page.short, page.inside⟩

theorem Page.move {all shown : List EventRecord} {cursor target : Nat} (page : Page all shown cursor)
    (inside : target ≤ shown.length - 1) : Page all shown target := ⟨page.first, page.short, inside⟩

theorem Page.refetch {all shown : List EventRecord} {cursor : Nat} (page : Page all shown cursor) :
    Page all (all.take readPageSize.toNat) cursor where
  first := List.take_prefix _ _
  short := List.length_take_le _ _
  inside := by
    have length := page.first.length_le
    have short := page.short
    have inside := page.inside
    rw [List.length_take]
    omega

section
variable {log after : EventLog} (grows : log.events <+: after.events)
include grows

theorem DetailPage.grow {selected : Option String} {shown : List EventRecord} {cursor : Nat}
    (detail : DetailPage log selected shown cursor) : DetailPage after selected shown cursor where
  page := by
    intro text isText
    obtain ⟨streamId, display, page⟩ := detail.page text isText
    exact ⟨streamId, display, page.grow ((grows.filter _).map _)⟩
  nothing := detail.nothing

theorem Listing.grow {shown : List StreamInfo} {cursor : Nat} (listing : Listing log shown cursor) :
    Listing after shown cursor where
  counted := by
    intro info member
    obtain ⟨streamId, display, latest, count⟩ := listing.counted info member
    exact ⟨streamId, display, latest, Nat.le_trans count (grows.filter _).length_le⟩
  distinct := listing.distinct
  inside := listing.inside

theorem Pages.grow {state : AppState} (pages : Pages log state) : Pages after state :=
  ⟨pages.streams.grow grows, pages.detail.grow grows, pages.global.grow (grows.map _)⟩

end

section
variable {log : EventLog} {state : AppState}

theorem Pages.receive (pages : Pages log state) (message : SubscriptionMsg) : Pages log (state.receive message) := by
  cases message with
  | event record => exact ⟨pages.streams, pages.detail, pages.global⟩
  | caughtUp => exact ⟨pages.streams, pages.detail, pages.global⟩
  | error detail => exact pages

theorem DetailPage.move {selected : Option String} {shown : List EventRecord} {cursor target : Nat}
    (detail : DetailPage log selected shown cursor) (inside : target ≤ shown.length - 1) :
    DetailPage log selected shown target where
  page := by
    intro text isText
    obtain ⟨streamId, display, page⟩ := detail.page text isText
    exact ⟨streamId, display, page.move inside⟩
  nothing := by
    intro none
    obtain ⟨empty, _⟩ := detail.nothing none
    rw [empty, List.length_nil] at inside
    exact ⟨empty, Nat.le_zero.mp inside⟩

theorem Pages.cursor (pages : Pages log state) {update : Nat → Nat}
    (bounded : ∀ cursor, cursor ≤ state.currentListLen - 1 → update cursor ≤ state.currentListLen - 1) :
    Pages log (state.updateCurrentCursor update) := by
  rw [AppState.updateCurrentCursor]
  rw [AppState.currentListLen] at bounded
  cases tab : state.activeTab with
  | streams =>
    rw [tab] at bounded
    exact ⟨⟨pages.streams.counted, pages.streams.distinct, bounded _ pages.streams.inside⟩, pages.detail, pages.global⟩
  | streamDetail =>
    rw [tab] at bounded
    have inside : state.detailCursor ≤ state.detailEvents.length - 1 := by
      cases selected : state.detailStreamId with
      | none =>
        rw [(pages.detail.nothing selected).2]
        exact Nat.zero_le _
      | some text =>
        obtain ⟨_, _, page⟩ := pages.detail.page text selected
        exact page.inside
    exact ⟨pages.streams, pages.detail.move (bounded _ inside), pages.global⟩
  | globalLog =>
    rw [tab] at bounded
    exact ⟨pages.streams, pages.detail, pages.global.move (bounded _ pages.global.inside)⟩
  | liveTail => exact ⟨pages.streams, pages.detail, pages.global⟩

theorem Pages.autoLoad (pages : Pages log state) (tab : Tab) : Pages log (state.autoLoad tab) := by
  rw [AppState.autoLoad.eq_def]
  cases tab with
  | streams =>
    dsimp only
    split_ifs
    · exact ⟨pages.streams, pages.detail, pages.global⟩
    · exact pages
  | streamDetail => exact pages
  | globalLog =>
    dsimp only
    split_ifs
    · exact ⟨pages.streams, pages.detail, pages.global⟩
    · exact pages
  | liveTail => exact pages

theorem Pages.select (pages : Pages log state) : Pages log state.select := by
  rw [AppState.select]
  split_ifs
  · split
    next stream chosen =>
      obtain ⟨streamId, display, _⟩ := pages.streams.counted stream (List.mem_of_getElem? chosen)
      refine ⟨pages.streams, ⟨?_, fun none => by cases none⟩, pages.global⟩
      intro text isText
      cases isText
      exact ⟨streamId, display, List.nil_prefix, Nat.zero_le _, Nat.le_refl _⟩
    next => exact pages
  · exact pages

theorem Pages.refresh (pages : Pages log state) : Pages log state.refresh := by
  rw [AppState.refresh]
  split
  next => exact ⟨pages.streams, pages.detail, pages.global⟩
  next => exact ⟨pages.streams, pages.detail, pages.global⟩
  next => exact ⟨pages.streams, pages.detail, pages.global⟩
  next => exact pages

theorem Pages.act (pages : Pages log state) (action : Action) : Pages log (state.applyAction action) := by
  cases action with
  | quit => exact ⟨pages.streams, pages.detail, pages.global⟩
  | switchTab tab =>
    have here : Pages log { state with activeTab := tab } := ⟨pages.streams, pages.detail, pages.global⟩
    exact here.autoLoad tab
  | cursorUp => exact pages.cursor (fun _ inside => Nat.le_trans (Nat.sub_le _ _) inside)
  | cursorDown =>
    rw [AppState.applyAction]
    split_ifs
    · exact pages.cursor (fun _ _ => Nat.min_le_right _ _)
    · exact pages
  | select => exact pages.select
  | refresh => exact pages.refresh
  | toggleFormat => exact ⟨pages.streams, pages.detail, pages.global⟩
  | togglePause =>
    rw [AppState.applyAction]
    split_ifs
    · exact ⟨pages.streams, pages.detail, pages.global⟩
    · exact pages

theorem Pages.press (pages : Pages log state) (key : KeyEvent) : Pages log (pressKey (some key) state) := by
  rw [pressKey]
  split
  next action _ => exact pages.act action
  next => exact pages

end

/-! ### Fetching -/

section
variable {log : EventLog} {state : AppState} (wellFormed : WellFormed log) (canonical : Canonical log)
include wellFormed

theorem readAll_page : Client.readAll log 0 readPageSize =
    ok ((log.events.map eventRecord).take readPageSize.toNat) := by
  rw [Client.readAll, EventfoldService.readAll, Reader.readAll_eq wellFormed]
  have zero : (0 : UInt64).toNat = 0 := rfl
  simp only [EventfoldService.statusOf, ok_bind, pure_eq, zero, Nat.zero_add, window, List.drop_zero, List.map_map,
    List.map_take]
  rfl

theorem Pages.fetchGlobal (pages : Pages log state) (fails : Bool) :
    Pages log (EventfoldConsole.fetchGlobal ⟨none, fun _ => none,
      if fails then none else arrived (Client.readAll log 0 readPageSize)⟩ state) := by
  rw [EventfoldConsole.fetchGlobal]
  split_ifs
  · exact ⟨pages.streams, pages.detail, pages.global⟩
  · refine ⟨pages.streams, pages.detail, ?_⟩
    dsimp only
    rw [readAll_page wellFormed]
    exact pages.global.refetch
  · exact pages

include canonical

theorem Listing.refetch {shown : List StreamInfo} {cursor : Nat} (listing : Listing log shown cursor)
    {iteration : List (Uuid × List UInt64)} (iterates : Iterates log.streams iteration) :
    Listing log (Client.listStreams iteration) cursor := by
  have summary := summarises_entriesOf wellFormed canonical
  rw [← listStreams_unique iterates (iterates_entriesOf canonical)] at summary
  have ids : (Client.listStreams iteration).map (·.streamId) =
      (EventfoldDb.listStreams iteration).map (·.streamId.display) := by
    rw [Client.listStreams, EventfoldService.listStreams, List.map_map, List.map_map]
    rfl
  refine ⟨?_, ?_, ?_⟩
  · intro info member
    rw [Client.listStreams, EventfoldService.listStreams, List.map_map] at member
    obtain ⟨source, here, same⟩ := List.mem_map.mp member
    rw [← same]
    exact ⟨source.streamId, rfl, (summary.latest source here).1, Nat.le_of_eq (summary.counts source here)⟩
  · rw [ids, List.nodup_iff_pairwise_ne, List.pairwise_map]
    exact summary.ordered.imp (fun less => ne_of_lt less)
  · have known : shown.map (·.streamId) ⊆ (Client.listStreams iteration).map (·.streamId) := by
      intro text member
      obtain ⟨info, here, same⟩ := List.mem_map.mp member
      obtain ⟨streamId, display, latest, count⟩ := listing.counted info here
      have present : streamEvents streamId log.events ≠ [] := List.ne_nil_of_length_pos (by omega)
      obtain ⟨event, inStream⟩ := List.exists_mem_of_ne_nil _ present
      have itsStream : event.streamId = streamId := of_decide_eq_true (List.mem_filter.mp inStream).2
      obtain ⟨listed, there, sameStream⟩ := (summary.streams streamId).mpr ⟨event, (List.mem_filter.mp inStream).1, itsStream⟩
      rw [ids, ← same, ← display]
      exact List.mem_map.mpr ⟨listed, there, by rw [sameStream]⟩
    have longer := (listing.distinct.subperm known).length_le
    rw [List.length_map, List.length_map] at longer
    have inside := listing.inside
    omega

theorem Pages.fetchStreams (pages : Pages log state) (iteration : Option (List (Uuid × List UInt64)))
    (iterates : ∀ entries, iteration = some entries → Iterates log.streams entries) :
    Pages log (EventfoldConsole.fetchStreams ⟨iteration.map Client.listStreams, fun _ => none, none⟩ state) := by
  rw [EventfoldConsole.fetchStreams]
  split_ifs
  · refine ⟨?_, pages.detail, pages.global⟩
    cases fetched : iteration with
    | none => exact pages.streams
    | some entries => exact pages.streams.refetch wellFormed canonical (iterates entries fetched)
  · exact pages

/-- A stream that is shown is there, unless it was selected and never fetched. -/
theorem readStream_page {parser : UuidParser} {streamId : Uuid} (parses : parser streamId.display = .ok streamId) :
    arrived (Client.readStream parser log streamId.display 0 readPageSize) =
        some (((streamEvents streamId log.events).map eventRecord).take readPageSize.toNat) ∨
      arrived (Client.readStream parser log streamId.display 0 readPageSize) = none := by
  have parsed : parseUuid parser streamId.display "stream_id" = .ok streamId := by rw [parseUuid, parses]
  have zero : (0 : UInt64).toNat = 0 := rfl
  rw [Client.readStream, EventfoldService.readStream, parsed]
  dsimp only
  rcases Paging.readStream_found wellFormed canonical streamId 0 readPageSize with ⟨_, missing⟩ | ⟨_, read⟩
  · right
    rw [missing]
    rfl
  · left
    rw [read]
    simp only [EventfoldService.statusOf, ok_bind, pure_eq, zero, Nat.zero_add, window, List.drop_zero, List.map_map,
      List.map_take, arrived]
    rfl

theorem Pages.fetchDetail {parser : UuidParser} (parses : ∀ streamId : Uuid, parser streamId.display = .ok streamId)
    (pages : Pages log state) (fails : Bool) :
    Pages log (EventfoldConsole.fetchDetail ⟨none, fun streamId =>
      if fails then none else arrived (Client.readStream parser log streamId 0 readPageSize), none⟩ state) := by
  rw [EventfoldConsole.fetchDetail]
  split_ifs with loading failed
  · refine ⟨pages.streams, ?_, pages.global⟩
    have kept : (state.detailStreamId.bind fun _ => none).getD state.detailEvents = state.detailEvents := by
      cases state.detailStreamId <;> rfl
    dsimp only
    rw [kept]
    exact pages.detail
  · refine ⟨pages.streams, ?_, pages.global⟩
    dsimp only
    cases selected : state.detailStreamId with
    | none =>
      have detail := pages.detail
      rw [selected] at detail
      exact detail
    | some text =>
      have detail := pages.detail
      rw [selected] at detail
      obtain ⟨streamId, display, page⟩ := detail.page text rfl
      rw [Option.bind_some, ← display]
      rcases readStream_page wellFormed canonical (parses streamId) with read | missing
      · rw [read]
        refine ⟨?_, fun none => by cases none⟩
        intro other isOther
        exact ⟨streamId, Option.some.inj isOther, page.refetch⟩
      · rw [missing, display]
        exact detail
  · exact pages

end

/-! ### The live tail -/

def carried (items : List (Except Error SubscriptionMessage)) : List SubscriptionMsg :=
  items.filterMap fun
    | .ok (.event event) => some (.event (eventRecord event))
    | .ok .caughtUp => some .caughtUp
    | .error _ => none

def eventsIn (messages : List SubscriptionMsg) : List EventRecord :=
  messages.filterMap fun
    | .event record => some record
    | _ => none

def held : TailTask → List SubscriptionMsg
  | .sending message => [message]
  | .reporting detail => [.error detail]
  | _ => []

structure SameTail (before after : AppState) : Prop where
  events : after.liveEvents = before.liveEvents
  caughtUp : after.liveCaughtUp = before.liveCaughtUp

theorem autoLoad_tail (tab : Tab) (state : AppState) : SameTail state (state.autoLoad tab) := by
  rw [AppState.autoLoad.eq_def]
  cases tab with
  | streams => dsimp only; split_ifs <;> exact ⟨rfl, rfl⟩
  | streamDetail => exact ⟨rfl, rfl⟩
  | globalLog => dsimp only; split_ifs <;> exact ⟨rfl, rfl⟩
  | liveTail => exact ⟨rfl, rfl⟩

theorem cursor_tail (update : Nat → Nat) (state : AppState) : SameTail state (state.updateCurrentCursor update) := by
  rw [AppState.updateCurrentCursor]
  split <;> exact ⟨rfl, rfl⟩

theorem applyAction_tail (action : Action) (state : AppState) : SameTail state (state.applyAction action) := by
  cases action with
  | quit => exact ⟨rfl, rfl⟩
  | switchTab tab =>
    have same := autoLoad_tail tab { state with activeTab := tab }
    exact ⟨same.events, same.caughtUp⟩
  | cursorUp => exact cursor_tail (· - 1) state
  | cursorDown =>
    rw [AppState.applyAction]
    split_ifs
    · exact cursor_tail _ state
    · exact ⟨rfl, rfl⟩
  | select =>
    rw [AppState.applyAction, AppState.select]
    split_ifs
    · split <;> exact ⟨rfl, rfl⟩
    · exact ⟨rfl, rfl⟩
  | refresh =>
    rw [AppState.applyAction, AppState.refresh]
    split <;> exact ⟨rfl, rfl⟩
  | toggleFormat => exact ⟨rfl, rfl⟩
  | togglePause =>
    rw [AppState.applyAction]
    split_ifs <;> exact ⟨rfl, rfl⟩

theorem pressKey_tail (key : KeyEvent) (state : AppState) : SameTail state (pressKey (some key) state) := by
  rw [pressKey]
  split
  next action _ => exact applyAction_tail action state
  next => exact ⟨rfl, rfl⟩

theorem fetchStreams_tail (answers : Answers) (state : AppState) : SameTail state (fetchStreams answers state) := by
  rw [fetchStreams]
  split_ifs <;> exact ⟨rfl, rfl⟩

theorem fetchDetail_tail (answers : Answers) (state : AppState) : SameTail state (fetchDetail answers state) := by
  rw [fetchDetail]
  split_ifs <;> exact ⟨rfl, rfl⟩

theorem fetchGlobal_tail (answers : Answers) (state : AppState) : SameTail state (fetchGlobal answers state) := by
  rw [fetchGlobal]
  split_ifs <;> exact ⟨rfl, rfl⟩

inductive Updates (parser : UuidParser) (session : Session) : Session.Step → AppState → Prop
  | streams (iteration : Option (List (Uuid × List UInt64))) : Updates parser session (.fetchStreams iteration)
      (fetchStreams ⟨iteration.map Client.listStreams, fun _ => none, none⟩ session.state)
  | detail (fails : Bool) : Updates parser session (.fetchDetail fails)
      (fetchDetail ⟨none, fun streamId =>
        if fails then none else arrived (Client.readStream parser session.log streamId 0 readPageSize), none⟩ session.state)
  | global (fails : Bool) : Updates parser session (.fetchGlobal fails)
      (fetchGlobal ⟨none, fun _ => none,
        if fails then none else arrived (Client.readAll session.log 0 readPageSize)⟩ session.state)
  | press (key : KeyEvent) : Updates parser session (.press key) (pressKey (some key) session.state)

theorem Updates.tail {parser : UuidParser} {session : Session} {step : Session.Step} {state : AppState}
    (updates : Updates parser session step state) : SameTail session.state state := by
  cases updates with
  | streams iteration => exact fetchStreams_tail _ _
  | detail fails => exact fetchDetail_tail _ _
  | global fails => exact fetchGlobal_tail _ _
  | press key => exact pressKey_tail key _

inductive Moves (crc : Crc32fast) (parser : UuidParser) (session : Session) : Session.Step → Session → Prop
  | server (step : System.Step) (server : System)
      (moved : System.next crc subscribeAll 0 step session.server = some server) :
      Moves crc parser session (.server step) { session with server }
  | connected (connecting : session.tail = .connecting) :
      Moves crc parser session (.connect none) { session with tail := .reading }
  | refused (detail : String) (connecting : session.tail = .connecting) :
      Moves crc parser session (.connect (some detail)) { session with tail := .reporting detail }
  | arrived (item : Except Error SubscriptionMessage) (response : Proto.SubscribeResponse)
      (reading : session.tail = .reading)
      (here : session.out[session.taken]? = some item) (relayed : EventfoldService.relay item = .ok response) :
      Moves crc parser session .message { session with taken := session.taken + 1, tail := Session.handle response }
  | panicked (step : Session.Step) (reading : session.tail = .reading) :
      Moves crc parser session step { session with tail := .panicked }
  | finished (reading : session.tail = .reading) : Moves crc parser session .finish { session with tail := .returned }
  | dropped (sending : session.tail ≠ .reading) : Moves crc parser session .send { session with tail := .returned }
  | sent (message : SubscriptionMsg) (sending : session.tail = .sending message) :
      Moves crc parser session .send { session with channel := session.channel ++ [message], tail := .reading }
  | reported (detail : String) (reporting : session.tail = .reporting detail) :
      Moves crc parser session .send { session with channel := session.channel ++ [.error detail], tail := .returned }
  | received (message : SubscriptionMsg) (channel : List SubscriptionMsg) (waiting : session.channel = message :: channel) :
      Moves crc parser session .receive { session with channel, state := session.state.receive message }
  | looped (step : Session.Step) (state : AppState) (updates : Updates parser session step state) :
      Moves crc parser session step { session with state }

section
variable {crc : Crc32fast} {parser : UuidParser} {step : Session.Step} {session after : Session}

theorem looped_of_loop {update : AppState → AppState} (updates : Updates parser session step (update session.state))
    (moved : Session.loop update session = some after) : Moves crc parser session step after := by
  rw [Session.loop] at moved
  split_ifs at moved
  cases moved
  exact .looped step _ updates

theorem moves_of_next (moved : Session.next crc parser step session = some after) :
    Moves crc parser session step after := by
  cases step with
  | server step =>
    obtain ⟨server, movedServer, same⟩ := Option.map_eq_some_iff.mp moved
    rw [← same]
    exact .server step server movedServer
  | connect failure =>
    rw [Session.next.eq_def] at moved
    dsimp only at moved
    split at moved
    next connecting =>
      cases failure with
      | none =>
        cases moved
        exact .connected connecting
      | some detail =>
        cases moved
        exact .refused detail connecting
    next => cases moved
  | message =>
    rw [Session.next] at moved
    split at moved
    next item reading here =>
      split at moved
      next response relayed =>
        cases moved
        exact .arrived item response reading here relayed
      next =>
        cases moved
        exact .panicked _ reading
    next => cases moved
  | broken =>
    rw [Session.next] at moved
    split at moved
    next reading =>
      cases moved
      exact .panicked _ reading
    next => cases moved
  | finish =>
    rw [Session.next] at moved
    split at moved
    next reading _ =>
      split_ifs at moved
      cases moved
      exact .finished reading
    next => cases moved
  | send =>
    rw [Session.next] at moved
    split at moved
    next message sending =>
      rw [Session.send] at moved
      split_ifs at moved
      · cases moved
        exact .dropped (by rw [sending]; exact fun impossible => by cases impossible)
      · cases moved
        exact .sent message sending
    next detail reporting =>
      rw [Session.send] at moved
      split_ifs at moved
      · cases moved
        exact .dropped (by rw [reporting]; exact fun impossible => by cases impossible)
      · cases moved
        exact .reported detail reporting
    next => cases moved
  | receive =>
    rw [Session.next] at moved
    split at moved
    next => cases moved
    next message channel waiting =>
      rw [Session.loop] at moved
      split_ifs at moved
      cases moved
      exact .received message channel waiting
  | fetchStreams iteration => exact looped_of_loop (.streams iteration) moved
  | fetchDetail fails => exact looped_of_loop (.detail fails) moved
  | fetchGlobal fails => exact looped_of_loop (.global fails) moved
  | press key => exact looped_of_loop (.press key) moved

end

/-- Where the messages are that the stream has brought. What was in hand when the loop quit is lost, and
an error is reported only if there never was a stream. -/
structure Flow (session : Session) (received lost : List SubscriptionMsg) (report : Option String) : Prop where
  early : session.tail = .connecting → session.taken = 0
  taken : session.taken ≤ session.out.length
  pieces : received ++ session.channel ++ held session.tail ++ lost =
    carried (session.out.take session.taken) ++ report.toList.map .error
  late : lost ≠ [] → session.tail = .returned
  failed : report ≠ none → session.taken = 0 ∧ (session.tail = .returned ∨ ∃ detail, session.tail = .reporting detail)
  events : session.state.liveEvents = newest liveTailCapacity (eventsIn received)
  caughtUp : session.state.liveCaughtUp = true ↔ .caughtUp ∈ received

theorem carried_append (first second : List (Except Error SubscriptionMessage)) :
    carried (first ++ second) = carried first ++ carried second := List.filterMap_append ..

theorem eventsIn_append (first second : List SubscriptionMsg) :
    eventsIn (first ++ second) = eventsIn first ++ eventsIn second := List.filterMap_append ..

theorem held_handle {item : Except Error SubscriptionMessage} {response : Proto.SubscribeResponse}
    (relayed : EventfoldService.relay item = .ok response) : held (Session.handle response) = carried [item] := by
  cases item with
  | error error => cases relayed
  | ok message =>
    cases message with
    | event event =>
      cases relayed
      rfl
    | caughtUp =>
      cases relayed
      rfl

theorem shown_receive {state : AppState} {received : List SubscriptionMsg} (message : SubscriptionMsg)
    (events : state.liveEvents = newest liveTailCapacity (eventsIn received)) :
    (state.receive message).liveEvents = newest liveTailCapacity (eventsIn (received ++ [message])) := by
  rw [eventsIn_append]
  cases message with
  | event record =>
    show (state.pushLiveEvent record).liveEvents = newest liveTailCapacity (eventsIn received ++ [record])
    rw [AppState.pushLiveEvent]
    dsimp only
    rw [events]
    exact newest_snoc _ _ (by decide)
  | caughtUp =>
    show state.liveEvents = newest liveTailCapacity (eventsIn received ++ [])
    rw [List.append_nil, events]
  | error detail =>
    show state.liveEvents = newest liveTailCapacity (eventsIn received ++ [])
    rw [List.append_nil, events]

theorem marked_receive {state : AppState} {received : List SubscriptionMsg} (message : SubscriptionMsg)
    (caughtUp : state.liveCaughtUp = true ↔ .caughtUp ∈ received) :
    (state.receive message).liveCaughtUp = true ↔ .caughtUp ∈ received ++ [message] := by
  rw [List.mem_append, List.mem_singleton]
  cases message with
  | event record =>
    show state.liveCaughtUp = true ↔ _
    rw [caughtUp]
    simp
  | caughtUp => exact iff_of_true rfl (.inr rfl)
  | error detail =>
    show state.liveCaughtUp = true ↔ _
    rw [caughtUp]
    simp

theorem server_grows {crc : Crc32fast} {start : UInt64} {step : System.Step} {system after : System}
    (sound : Sound subscribeAll start system) (moved : System.next crc subscribeAll start step system = some after) :
    system.subscription.out <+: after.subscription.out ∧ system.log.events <+: after.log.events := by
  cases step with
  | writer step =>
    obtain ⟨task, taskMoved, same⟩ := Option.map_eq_some_iff.mp moved
    obtain ⟨more, grows⟩ := grows_writer taskMoved
    rw [← same]
    refine ⟨?_, ?_⟩
    · rw [grows.out]
    · rw [grows.events]
      exact List.prefix_append _ _
  | register =>
    obtain ⟨_, same⟩ := register_moved moved
    rw [same]
    exact ⟨List.prefix_refl _, List.prefix_refl _⟩
  | poll =>
    obtain ⟨subscription, polled, same⟩ := Option.map_eq_some_iff.mp moved
    rw [← same]
    refine ⟨?_, List.prefix_refl _⟩
    cases polls_of_poll lawful_all sound.wellFormed polled with
    | yielded | marked | forwarded => exact List.prefix_append _ _
    | read | missing | finished | again | skipped => exact List.prefix_refl _
  | lag =>
    obtain ⟨lastCatchup, _, same⟩ := lag_moved moved
    rw [same]
    exact ⟨List.prefix_append _ _, List.prefix_refl _⟩
  | close =>
    obtain ⟨lastCatchup, _, same⟩ := close_moved moved
    rw [same]
    exact ⟨List.prefix_refl _, List.prefix_refl _⟩

section
variable {crc : Crc32fast} {parser : UuidParser} {step : Session.Step} {session after : Session}
  {received lost : List SubscriptionMsg} {report : Option String}

theorem Flow.kept (flow : Flow session received lost report) (going : session.tail ≠ .returned) : lost = [] := by
  by_contra some
  exact going (flow.late some)

theorem Flow.unreported (flow : Flow session received lost report) (going : session.tail ≠ .returned)
    (silent : ∀ detail, session.tail ≠ .reporting detail) : report = none := by
  by_contra reported
  rcases (flow.failed reported).2 with returned | ⟨detail, reporting⟩
  · exact going returned
  · exact silent detail reporting

theorem Flow.turn (flow : Flow session received lost report) (empty : held session.tail = [])
    (going : session.tail ≠ .returned)
    (tail : TailTask) (ready : held tail = []) (opened : tail ≠ .connecting) :
    Flow { session with tail } received lost report where
  early := fun connecting => absurd connecting opened
  taken := flow.taken
  pieces := by
    have pieces := flow.pieces
    rw [empty] at pieces
    rw [ready]
    exact pieces
  late := fun some => absurd (flow.kept going) some
  failed := by
    intro reported
    have silent : ∀ detail, session.tail ≠ .reporting detail := by
      intro detail reporting
      rw [reporting] at empty
      cases empty
    exact absurd (flow.unreported going silent) reported
  events := flow.events
  caughtUp := flow.caughtUp

theorem Flow.server (sound : Sound subscribeAll 0 session.server) (flow : Flow session received lost report)
    {step : System.Step} {server : System} (moved : System.next crc subscribeAll 0 step session.server = some server) :
    Flow { session with server } received lost report := by
  obtain ⟨⟨more, out⟩, _⟩ := server_grows sound moved
  have same : server.subscription.out.take session.taken = session.out.take session.taken := by
    rw [← out]
    exact List.take_append_of_le_length flow.taken
  refine ⟨flow.early, ?_, ?_, flow.late, flow.failed, flow.events, flow.caughtUp⟩
  · show session.taken ≤ server.subscription.out.length
    rw [← out, List.length_append]
    exact Nat.le_add_right_of_le flow.taken
  · show _ = carried (server.subscription.out.take session.taken) ++ _
    rw [same]
    exact flow.pieces

theorem Flow.arrived (flow : Flow session received lost report) {item : Except Error SubscriptionMessage}
    {response : Proto.SubscribeResponse} (reading : session.tail = .reading)
    (here : session.out[session.taken]? = some item) (relayed : EventfoldService.relay item = .ok response) :
    Flow { session with taken := session.taken + 1, tail := Session.handle response } received lost report := by
  have going : session.tail ≠ .returned := by simp [reading]
  have kept := flow.kept going
  have unreported := flow.unreported going (by simp [reading])
  have pieces := flow.pieces
  rw [reading, kept, unreported] at pieces
  obtain ⟨inside, _⟩ := List.getElem?_eq_some_iff.mp here
  refine ⟨?_, inside, ?_, fun some => absurd kept some, fun some => absurd unreported some, flow.events, flow.caughtUp⟩
  · intro connecting
    cases content : response.content with
    | none => simp [Session.handle, content] at connecting
    | some content' => cases content' <;> simp [Session.handle, content] at connecting
  · show received ++ session.channel ++ held (Session.handle response) ++ lost =
      carried (session.out.take (session.taken + 1)) ++ _
    rw [held_handle relayed, kept, unreported, List.take_add_one, here, carried_append, Option.toList_some]
    simp only [held, List.append_nil, Option.toList_none, List.map_nil] at pieces ⊢
    rw [pieces]

theorem Flow.moved (sound : Sound subscribeAll 0 session.server) (flow : Flow session received lost report)
    (moves : Moves crc parser session step after) : ∃ received lost report, Flow after received lost report := by
  have pieces := flow.pieces
  cases moves with
  | server step server moved => exact ⟨received, lost, report, flow.server sound moved⟩
  | connected connecting =>
    exact ⟨received, lost, report, flow.turn (by rw [connecting]; rfl) (by simp [connecting]) .reading rfl (by simp)⟩
  | refused detail connecting =>
    have none := flow.unreported (by simp [connecting]) (by simp [connecting])
    have nothing := flow.early connecting
    have kept := flow.kept (by simp [connecting])
    rw [connecting, none, kept, nothing] at pieces
    refine ⟨received, [], some detail, (fun impossible => by cases impossible), flow.taken, ?_,
      fun some => absurd rfl some, fun _ => ⟨nothing, .inr ⟨detail, rfl⟩⟩, flow.events, flow.caughtUp⟩
    show received ++ session.channel ++ [.error detail] ++ [] = carried (session.out.take session.taken) ++ [.error detail]
    rw [nothing, List.append_nil]
    simp only [held, List.append_nil, Option.toList_none, List.map_nil] at pieces
    rw [pieces]
  | arrived item response reading here relayed => exact ⟨received, lost, report, flow.arrived reading here relayed⟩
  | panicked step reading =>
    exact ⟨received, lost, report, flow.turn (by rw [reading]; rfl) (by simp [reading]) .panicked rfl (by simp)⟩
  | finished reading =>
    exact ⟨received, lost, report, flow.turn (by rw [reading]; rfl) (by simp [reading]) .returned rfl (by simp)⟩
  | dropped sending =>
    refine ⟨received, held session.tail ++ lost, report, (fun impossible => by cases impossible), flow.taken, ?_, fun _ => rfl,
      fun reported => ⟨(flow.failed reported).1, .inl rfl⟩, flow.events, flow.caughtUp⟩
    show received ++ session.channel ++ [] ++ (held session.tail ++ lost) = _
    rw [List.append_nil, ← List.append_assoc]
    exact pieces
  | sent message sending =>
    have none := flow.unreported (by simp [sending]) (by simp [sending])
    have kept := flow.kept (by simp [sending])
    rw [sending] at pieces
    refine ⟨received, lost, report, (fun impossible => by cases impossible), flow.taken, ?_, fun some => absurd kept some,
      fun some => absurd none some, flow.events, flow.caughtUp⟩
    show received ++ (session.channel ++ [message]) ++ [] ++ lost = _
    rw [List.append_nil, ← List.append_assoc]
    exact pieces
  | reported detail reporting =>
    rw [reporting] at pieces
    refine ⟨received, lost, report, (fun impossible => by cases impossible), flow.taken, ?_, fun _ => rfl,
      fun reported => ⟨(flow.failed reported).1, .inl rfl⟩, flow.events, flow.caughtUp⟩
    show received ++ (session.channel ++ [.error detail]) ++ [] ++ lost = _
    rw [List.append_nil, ← List.append_assoc]
    exact pieces
  | received message channel waiting =>
    rw [waiting] at pieces
    refine ⟨received ++ [message], lost, report, flow.early, flow.taken, ?_, flow.late, flow.failed,
      shown_receive message flow.events, marked_receive message flow.caughtUp⟩
    show received ++ [message] ++ channel ++ held session.tail ++ lost = _
    rw [List.append_assoc received]
    exact pieces
  | looped step state updates =>
    refine ⟨received, lost, report, flow.early, flow.taken, pieces, flow.late, flow.failed, ?_, ?_⟩
    · rw [← flow.events]
      exact updates.tail.events
    · show state.liveCaughtUp = true ↔ _
      rw [updates.tail.caughtUp]
      exact flow.caughtUp

end

/-! ### Whole runs -/

structure Tracks (session : Session) : Prop where
  sound : Sound subscribeAll 0 session.server
  headed : Headed subscribeAll 0 session.out
  filed : ∃ recovered, Filed recovered session.server.task
  pages : Pages session.log session.state
  flow : ∃ received lost report, Flow session received lost report

theorem tracks_start {store : Store} (wellFormed : WellFormed store.log) (canonical : Canonical store.log)
    (dedupCapacity : Nat) (serverAddr : String) :
    Tracks (Session.start (Writer.spawn store dedupCapacity) serverAddr) where
  sound := sound_start subscribeAll 0 _ wellFormed
  headed := fun event head => by cases head
  filed := ⟨_, filed_start wellFormed canonical dedupCapacity⟩
  pages :=
    { streams := ⟨fun _ member => absurd member List.not_mem_nil, List.nodup_nil, Nat.le_refl _⟩
      detail := ⟨fun _ impossible => (by cases impossible), fun _ => ⟨rfl, rfl⟩⟩
      global := ⟨ List.nil_prefix, Nat.zero_le _, Nat.le_refl _⟩ }
  flow := ⟨[], [], none, fun _ => rfl, Nat.zero_le _, rfl, fun some => absurd rfl some, fun some => absurd rfl some, rfl,
    iff_of_false Bool.false_ne_true List.not_mem_nil⟩

section
variable {crc : Crc32fast} {parser : UuidParser} {step : Session.Step} {session after : Session}

theorem Tracks.wellFormed (tracks : Tracks session) : WellFormed session.log := tracks.sound.wellFormed

theorem Tracks.canonical (tracks : Tracks session) : Canonical session.log := by
  obtain ⟨_, filed⟩ := tracks.filed
  exact filed.canonical

theorem pages_next (parses : ∀ streamId : Uuid, parser streamId.display = .ok streamId) (tracks : Tracks session)
    (permitted : Session.Permitted session step) (moves : Moves crc parser session step after) :
    Pages after.log after.state := by
  have pages := tracks.pages
  cases moves with
  | server step server moved => exact pages.grow (server_grows tracks.sound moved).2
  | received message channel waiting => exact pages.receive message
  | looped step state updates =>
    cases updates with
    | streams iteration =>
      refine pages.fetchStreams tracks.wellFormed tracks.canonical iteration ?_
      intro entries isSome
      rw [isSome] at permitted
      exact permitted
    | detail fails => exact pages.fetchDetail tracks.wellFormed tracks.canonical parses fails
    | global fails => exact pages.fetchGlobal tracks.wellFormed fails
    | press key => exact pages.press key
  | connected | refused | arrived | panicked | finished | dropped | sent | reported => exact pages

theorem filed_server {system : System} {step : System.Step} {server : System} {recovered : List RecordedEvent}
    (filed : Filed recovered system.task) (permitted : ∀ task, step = .writer task → system.task.Filled task)
    (moved : System.next crc subscribeAll 0 step system = some server) : Filed recovered server.task := by
  cases step with
  | writer step =>
    obtain ⟨task, taskMoved, same⟩ := Option.map_eq_some_iff.mp moved
    rw [← same]
    exact filed_next filed (permitted step rfl) taskMoved
  | register =>
    obtain ⟨_, same⟩ := register_moved moved
    rw [same]
    exact filed
  | poll =>
    obtain ⟨subscription, _, same⟩ := Option.map_eq_some_iff.mp moved
    rw [← same]
    exact filed
  | lag =>
    obtain ⟨_, _, same⟩ := lag_moved moved
    rw [same]
    exact filed
  | close =>
    obtain ⟨_, _, same⟩ := close_moved moved
    rw [same]
    exact filed

theorem tracks_next (parses : ∀ streamId : Uuid, parser streamId.display = .ok streamId) (tracks : Tracks session)
    (permitted : Session.Permitted session step) (moved : Session.next crc parser step session = some after) :
    Tracks after := by
  have moves := moves_of_next moved
  have pages := pages_next parses tracks permitted moves
  obtain ⟨received, lost, report, before⟩ := tracks.flow
  have flow := before.moved tracks.sound moves
  cases moves with
  | server step server movedServer =>
    obtain ⟨recovered, filed⟩ := tracks.filed
    refine ⟨sound_next crc subscribeAll lawful_all 0 _ step server tracks.sound movedServer,
      headed_next crc lawful_all tracks.sound tracks.headed movedServer, ⟨recovered, filed_server filed ?_ movedServer⟩,
      pages, flow⟩
    intro task isWriter
    rw [isWriter] at permitted
    exact permitted
  | connected | refused | arrived | panicked | finished | dropped | sent | reported | received | looped =>
    exact ⟨tracks.sound, tracks.headed, tracks.filed, pages, flow⟩

end

/-! ### What is shown -/

/-- The live tail shows the newest of the first `n` events. If it says that it has caught up, they
include all that was there when the server began to listen; if nothing is under way any more, they
include all that was published since the start. -/
structure LiveShown (session : Session) (n : Nat) : Prop where
  known : n ≤ session.log.events.length
  events : session.state.liveEvents = newest liveTailCapacity ((session.log.events.take n).map eventRecord)
  caughtUp : session.state.liveCaughtUp = true → ∀ event ∈ session.server.registered, event ∈ session.log.events.take n
  drained : session.tail = .reading → session.taken = session.out.length → session.channel = [] →
    ∀ lastCatchup, session.server.subscription.phase = .live lastCatchup → session.server.subscription.queue = [] →
      ∀ event ∈ session.server.published, event ∈ session.log.events.take n

theorem eventRecord_injective : Function.Injective eventRecord := by
  intro first second same
  have ids := UuidOrder.display_injective (congrArg EventRecord.eventId same)
  have streams := UuidOrder.display_injective (congrArg EventRecord.streamId same)
  cases first
  cases second
  simp only [eventRecord, protoToEventRecord, recordedToProto, EventRecord.mk.injEq] at same
  simp_all

theorem eventsIn_carried (items : List (Except Error SubscriptionMessage)) :
    eventsIn (carried items) = (delivered items).map eventRecord := by
  induction items with
  | nil => rfl
  | cons item items ih =>
    cases item with
    | error error => exact ih
    | ok message =>
      cases message with
      | event event => exact congrArg (eventRecord event :: ·) ih
      | caughtUp => exact ih

theorem prefix_of_marker {α : Type} {marker : α} {part before behind : List α}
    (first : part <+: before ++ marker :: behind)
    (inside : marker ∈ part) (apart : marker ∉ before) : before <+: part := by
  by_contra shorter
  rcases List.prefix_or_prefix_of_prefix first (List.prefix_append before (marker :: behind)) with contained | contains
  · exact apart (contained.subset inside)
  · exact shorter contains

section
variable {session : Session}

theorem Tracks.delivered_first (tracks : Tracks session) :
    ∃ stop, delivered session.out = session.log.events.take stop := by
  have all : items subscribeAll session.log.events = session.log.events := List.filter_eq_self.mpr (fun _ _ => rfl)
  obtain ⟨first, stop, windowEq⟩ := delivered_window tracks.sound
  have headed := tracks.headed
  rw [Session.out] at headed ⊢
  rw [show session.server.log.events = session.log.events from rfl, all] at windowEq
  cases given : delivered session.server.subscription.out with
  | nil => exact ⟨0, rfl⟩
  | cons event rest =>
    -- the first event that was delivered has position 0, so the window starts there
    have early := headed event (by rw [given]; rfl)
    rw [windowEq] at given
    have numbered := Numbered.window tracks.wellFormed.positions first stop
    rw [given, numbered_cons] at numbered
    have position : event.globalPosition.toNat ≤ 0 := UInt64.le_iff_toNat_le.mp early
    have zero : first = 0 := by
      have here := numbered.1
      omega
    rw [zero] at given
    exact ⟨stop, given.symm⟩

theorem Flow.first {received lost : List SubscriptionMsg} {report : Option String}
    (flow : Flow session received lost report) :
    received <+: carried (session.out.take session.taken) ++ report.toList.map .error := by
  rw [← flow.pieces, List.append_assoc, List.append_assoc]
  exact List.prefix_append _ _

theorem eventsIn_errors (report : Option String) : eventsIn (report.toList.map .error) = [] := by
  cases report <;> rfl

theorem Flow.eventsIn_first {received lost : List SubscriptionMsg} {report : Option String}
    (flow : Flow session received lost report) : eventsIn received <+: (delivered session.out).map eventRecord := by
  have shown := flow.first.filterMap (fun
    | .event record => some record
    | _ => none)
  rw [List.filterMap_append] at shown
  have whole : eventsIn received <+:
      eventsIn (carried (session.out.take session.taken)) ++ eventsIn (report.toList.map .error) :=
    shown
  rw [eventsIn_errors, List.append_nil, eventsIn_carried] at whole
  exact whole.trans (((List.take_prefix _ _).filterMap _).map _)

theorem mem_carried {event : RecordedEvent} {items : List (Except Error SubscriptionMessage)}
    (member : .ok (.event event) ∈ items) : .event (eventRecord event) ∈ carried items :=
  List.mem_filterMap.mpr ⟨_, member, rfl⟩

theorem caughtUp_carried {items : List (Except Error SubscriptionMessage)} :
    .caughtUp ∈ carried items ↔ .ok .caughtUp ∈ items := by
  rw [carried, List.mem_filterMap]
  constructor
  · rintro ⟨item, member, same⟩
    cases item with
    | error error => cases same
    | ok message =>
      cases message with
      | event event => cases same
      | caughtUp => exact member
  · intro member
    exact ⟨_, member, rfl⟩

theorem mem_eventsIn {record : EventRecord} {messages : List SubscriptionMsg} (member : .event record ∈ messages) :
    record ∈ eventsIn messages := List.mem_filterMap.mpr ⟨_, member, rfl⟩

theorem Flow.registered {received lost : List SubscriptionMsg} {report : Option String} (tracks : Tracks session)
    (flow : Flow session received lost report) (marked : .caughtUp ∈ received) (event : RecordedEvent)
    (member : event ∈ session.server.registered) : eventRecord event ∈ eventsIn received := by
  have unreported : .caughtUp ∈ carried (session.out.take session.taken) := by
    rcases List.mem_append.mp (flow.first.subset marked) with inside | reported
    · exact inside
    · obtain ⟨detail, _, same⟩ := List.mem_map.mp reported
      cases same
  obtain ⟨before, behind, split⟩ := List.append_of_mem (caughtUp_carried.mp unreported)
  have whole : session.server.subscription.out = before ++ .ok .caughtUp :: (behind ++ session.out.drop session.taken) := by
    rw [← List.cons_append, ← List.append_assoc, ← split, List.take_append_drop]
    rfl
  obtain ⟨once, _, complete⟩ := caughtUp_of_sound tracks.sound before _ whole
  have inFront := complete event member rfl (UInt64.le_iff_toNat_le.mpr (Nat.zero_le _))
  have first := flow.first
  rw [split, carried_append, List.append_assoc] at first
  have contained := prefix_of_marker first marked (fun inside => once (caughtUp_carried.mp inside))
  exact mem_eventsIn (contained.subset (mem_carried inFront))

theorem Tracks.shown (tracks : Tracks session) : ∃ n, LiveShown session n := by
  obtain ⟨received, lost, report, flow⟩ := tracks.flow
  obtain ⟨stop, deliveredEq⟩ := tracks.delivered_first
  have first := flow.eventsIn_first
  rw [deliveredEq] at first
  have length := first.length_le
  rw [List.length_map, List.length_take] at length
  have received_eq : eventsIn received = (session.log.events.take (eventsIn received).length).map eventRecord := by
    have part := List.prefix_iff_eq_take.mp first
    rw [← List.map_take, List.take_take, Nat.min_eq_left (by omega)] at part
    exact part
  have inside : ∀ event, eventRecord event ∈ eventsIn received →
      event ∈ session.log.events.take (eventsIn received).length := by
    intro event member
    rw [received_eq] at member
    obtain ⟨other, here, same⟩ := List.mem_map.mp member
    rw [eventRecord_injective same] at here
    exact here
  refine ⟨(eventsIn received).length, by omega, ?_, ?_, ?_⟩
  · rw [flow.events, ← received_eq]
  · intro marked event member
    exact inside event (flow.registered tracks (flow.caughtUp.mp marked) event member)
  · intro reading all empty lastCatchup phase queue event published
    have going : session.tail ≠ .returned := by simp [reading]
    have pieces := flow.pieces
    rw [flow.kept going, flow.unreported going (by simp [reading]), reading, empty, all, List.take_length] at pieces
    simp only [held, List.append_nil, Option.toList_none, List.map_nil] at pieces
    have passed := drained_of_sound lawful_all tracks.sound lastCatchup phase queue event published rfl
      (UInt64.le_iff_toNat_le.mpr (Nat.zero_le _))
    apply inside event
    rw [pieces, eventsIn_carried]
    exact List.mem_map.mpr ⟨event, passed, rfl⟩

end

/-- The task has stopped and the channel is empty: nothing reaches the live tail any more. -/
structure Stopped (session : Session) : Prop where
  tail : session.tail = .panicked ∨ session.tail = .returned
  channel : session.channel = []

theorem stopped_next {crc : Crc32fast} {parser : UuidParser} {step : Session.Step} {session after : Session}
    (stopped : Stopped session) (moves : Moves crc parser session step after) :
    Stopped after ∧ SameTail session.state after.state := by
  have working : ∀ {tail : TailTask}, session.tail = tail → tail = .panicked ∨ tail = .returned := by
    intro tail same
    rw [← same]
    exact stopped.tail
  cases moves with
  | server step server moved => exact ⟨⟨stopped.tail, stopped.channel⟩, rfl, rfl⟩
  | looped step state updates => exact ⟨⟨stopped.tail, stopped.channel⟩, updates.tail⟩
  | dropped sending => exact ⟨⟨.inr rfl, stopped.channel⟩, rfl, rfl⟩
  | received message channel waiting =>
    rw [stopped.channel] at waiting
    cases waiting
  | connected connecting => exact absurd (working connecting) (by simp)
  | refused detail connecting => exact absurd (working connecting) (by simp)
  | arrived item response reading => exact absurd (working reading) (by simp)
  | panicked step reading => exact absurd (working reading) (by simp)
  | finished reading => exact absurd (working reading) (by simp)
  | sent message sending => exact absurd (working sending) (by simp)
  | reported detail reporting => exact absurd (working reporting) (by simp)

theorem Stopped.run {crc : Crc32fast} {parser : UuidParser} {session later : Session} (stopped : Stopped session)
    (run : Reaches (Session.next crc parser) Session.Permitted session later) : SameTail session.state later.state := by
  have both := run.invariant (fun later => Stopped later ∧ SameTail session.state later.state) ⟨stopped, rfl, rfl⟩
    (fun before step after kept _ moved => by
      obtain ⟨still, same⟩ := stopped_next kept.1 (moves_of_next moved)
      exact ⟨still, same.events.trans kept.2.events, same.caughtUp.trans kept.2.caughtUp⟩)
  exact both.2

theorem Flow.errors {session : Session} {received lost : List SubscriptionMsg} {report : Option String}
    (flow : Flow session received lost report) {detail : String} (member : .error detail ∈ session.channel) :
    session.taken = 0 ∧ session.state.liveEvents = [] := by
  have reported : report ≠ none := by
    intro none
    have pieces := flow.pieces
    rw [none, Option.toList_none, List.map_nil, List.append_nil] at pieces
    have inside : .error detail ∈ carried (session.out.take session.taken) := by
      rw [← pieces]
      exact List.mem_append_left _ (List.mem_append_left _ (List.mem_append_right _ member))
    obtain ⟨item, _, same⟩ := List.mem_filterMap.mp inside
    cases item with
    | error error => cases same
    | ok message => cases message <;> cases same
  have nothing := (flow.failed reported).1
  have first := flow.first.filterMap (fun
    | .event record => some record
    | _ => none)
  rw [nothing, List.take_zero] at first
  have empty : eventsIn received <+: eventsIn (report.toList.map .error) := first
  rw [eventsIn_errors, List.prefix_nil] at empty
  exact ⟨nothing, by rw [flow.events, empty]; rfl⟩

/-! ### The cursor of the live tail -/

theorem Updates.bounds {parser : UuidParser} {session : Session} {step : Session.Step} {state : AppState}
    (updates : Updates parser session step state) (bounds : LiveBounds session.state) : LiveBounds state := by
  cases updates with
  | streams iteration =>
    rw [fetchStreams]
    split_ifs <;> exact bounds.same ⟨rfl, rfl⟩
  | detail fails =>
    rw [fetchDetail]
    split_ifs <;> exact bounds.same ⟨rfl, rfl⟩
  | global fails =>
    rw [fetchGlobal]
    split_ifs <;> exact bounds.same ⟨rfl, rfl⟩
  | press key => exact bounds.run (reaches_pressKey (some key) session.state)

theorem liveBounds_moved {crc : Crc32fast} {parser : UuidParser} {step : Session.Step} {session after : Session}
    (bounds : LiveBounds session.state) (moves : Moves crc parser session step after) : LiveBounds after.state := by
  cases moves with
  | server | connected | refused | arrived | panicked | finished | dropped | sent | reported => exact bounds
  | received message channel waiting => exact bounds.run (reaches_receive session.state [message])
  | looped step state updates => exact updates.bounds bounds

structure ShowsLog (crc : Crc32fast) (parser : UuidParser) (session : Session) : Prop where
  live : ∃ n, LiveShown session n
  /-- The cursor of the live tail is on an event that it holds. -/
  cursor : LiveBounds session.state
  pages : Pages session.log session.state
  /-- The loop is told of an error only if the subscription was refused. -/
  errors : ∀ detail, .error detail ∈ session.channel → session.taken = 0 ∧ session.state.liveEvents = []
  /-- After a lag or a broken connection the tail stays as it is, with its status. -/
  frozen : Stopped session → ∀ later, Reaches (Session.next crc parser) Session.Permitted session later →
    SameTail session.state later.state

/-- For every server with a well-formed log, every interleaving, and a parser that reads back the ids that
the server shows. -/
theorem console_shows_log (crc : Crc32fast) (parser : UuidParser)
    (parses : ∀ streamId : Uuid, parser streamId.display = .ok streamId) (store : Store) (dedupCapacity : Nat)
    (wellFormed : WellFormed store.log) (canonical : Canonical store.log) (serverAddr : String) (session : Session)
    (run : Reaches (Session.next crc parser) Session.Permitted
      (Session.start (Writer.spawn store dedupCapacity) serverAddr) session) : ShowsLog crc parser session := by
  have tracks := run.invariant Tracks (tracks_start wellFormed canonical dedupCapacity serverAddr)
    (fun before step after holds permitted moved => tracks_next parses holds permitted moved)
  obtain ⟨received, lost, report, flow⟩ := tracks.flow
  have bounds : LiveBounds session.state :=
    run.invariant (fun later => LiveBounds later.state) ⟨Nat.le_refl _, Nat.zero_le _⟩
      (fun before step after holds _ moved => liveBounds_moved holds (moves_of_next moved))
  exact ⟨tracks.shown, bounds, tracks.pages, fun _ member => flow.errors member, fun stopped later => stopped.run⟩

theorem parser_exists : ∃ parser : UuidParser, ∀ streamId : Uuid, parser streamId.display = .ok streamId := by
  classical
  refine ⟨fun text => if found : ∃ id : Uuid, id.display = text then .ok found.choose else .error "", ?_⟩
  intro streamId
  have found : ∃ id : Uuid, id.display = streamId.display := ⟨streamId, rfl⟩
  dsimp only
  rw [dif_pos found]
  exact congrArg _ (UuidOrder.display_injective found.choose_spec)

section
open WriterSpec AppendSpec

theorem next_server {crc : Crc32fast} {parser : UuidParser} {step : System.Step} {session : Session} {server : System}
    (moved : System.next crc subscribeAll 0 step session.server = some server) :
    Session.next crc parser (.server step) session = some { session with server } := by
  rw [Session.next, moved]
  rfl

def indexedSession (crc : Crc32fast) : Session :=
  { Session.start freshWriter "test" with server := { System.start freshWriter with task := firstTask crc } }

theorem reaches_indexedSession (crc : Crc32fast) (parser : UuidParser) :
    Reaches (Session.next crc parser) Session.Permitted (Session.start freshWriter "test") (indexedSession crc) := by
  apply reaches_of_permitted
    [.server (.writer (.submit (plainRequest 0 .any [1]))), .server (.writer (.drain 1 0)), .server (.writer (.serve .none))]
  · simp [Session.Permitted, Task.Filled, plainRequest]
  · rw [feed, next_server (next_silent rfl rfl), Option.bind_some]
    rw [feed, next_server (next_silent (by rw [Task.next, if_pos ⟨rfl, rfl, rfl, Nat.one_pos, Nat.le_refl 1⟩]) rfl),
      Option.bind_some]
    rw [feed, next_server (next_silent (next_first crc _ rfl rfl rfl rfl rfl) rfl)]
    rfl

theorem console_shows_log_first :
    ∃ parser session, (∀ streamId : Uuid, parser streamId.display = .ok streamId) ∧
      Reaches (Session.next Crc32fast.ieee parser) Session.Permitted (Session.start freshWriter "test") session ∧
      session.state.liveEvents = firstBatch.events.map eventRecord ∧ session.state.liveCaughtUp = true ∧
      ShowsLog Crc32fast.ieee parser session := by
  obtain ⟨parser, parses⟩ := parser_exists
  have rest : Reaches (Session.next Crc32fast.ieee parser) Session.Permitted (indexedSession Crc32fast.ieee)
      { indexedSession Crc32fast.ieee with
        server := { (indexedSession Crc32fast.ieee).server with
          subscription := ⟨.live (some 0), [], firstBatch.events.map message ++ [.ok .caughtUp]⟩
          registered := firstBatch.events }
        taken := 2
        tail := .reading
        state := { AppState.start "test" with liveEvents := firstBatch.events.map eventRecord, liveCaughtUp := true } } :=
    reaches_of_permitted [.connect none, .server .register, .server .poll, .server .poll, .server .poll, .server .poll,
      .message, .send, .receive, .message, .send, .receive] (by simp [Session.Permitted]) _ _ rfl
  have run := (reaches_indexedSession Crc32fast.ieee parser).trans rest
  exact ⟨parser, _, parses, run, rfl, rfl,
    console_shows_log Crc32fast.ieee parser parses Store.create 4 wellFormed_empty rfl "test" _ run⟩

end

end EventfoldConsole
