import EventfoldDb.Console
import EventfoldDb.Lib.Outcome
import EventfoldDb.Types

/-! The live tail view: a window of the buffered events around the cursor. The cursor, the pause
flag and the buffer change independently, and still the window is always a part of the buffer
and shows the cursor. -/

namespace EventfoldConsole
open EventfoldDb (fromUtf8 hexDigits)
open Machine Outcome

/-! ### What is drawn -/

/-- `serde_json`: the pretty-printed text, if the bytes are JSON. -/
abbrev PrettyJson := List UInt8 → Option String

def formatBytes (pretty : PrettyJson) (bytes : List UInt8) (prettyJson : Bool) : String :=
  match if prettyJson then pretty bytes else none with
  | some text => text
  | none =>
      match fromUtf8 bytes with
      | .ok text => text
      | .error _ =>
          let limit := 128
          let hex := " ".intercalate ((bytes.take limit).map fun b => String.ofList (hexDigits false 2 b.toNat))
          if bytes.length > limit then hex ++ " ..." else hex

def truncate (text : String) (maxWidth : Nat) : String :=
  if text.toList.length ≤ maxWidth then text else String.ofList (text.toList.take (maxWidth - 3)) ++ "..."

structure Row where
  cells : List String
  highlighted : Bool
  deriving DecidableEq, Repr

structure EventsTable where
  title : String
  header : List String
  rows : List Row
  deriving DecidableEq, Repr

def statusText (state : AppState) : String :=
  if state.livePaused then "Paused" else if state.liveCaughtUp then "Live" else "Catching up..."

/-- The height left for events: borders and header take four lines. -/
def visibleHeight (areaHeight : UInt16) : Nat := areaHeight.toNat - 4

/-- Unless paused the view follows the newest event. -/
def displayCursor (state : AppState) : Nat :=
  if state.livePaused then state.liveCursor else state.liveEvents.length - 1

def windowStart (state : AppState) (areaHeight : UInt16) : Nat :=
  displayCursor state - (visibleHeight areaHeight - 1)

def windowEnd (state : AppState) (areaHeight : UInt16) : Nat :=
  min state.liveEvents.length (windowStart state areaHeight + visibleHeight areaHeight)

def eventRow (pretty : PrettyJson) (event : EventRecord) (highlighted : Bool) : Row where
  cells := [toString event.globalPosition, truncate event.streamId 12, toString event.streamVersion, event.eventType,
    truncate (formatBytes pretty event.payload false) 30]
  highlighted := highlighted

/-- The slice of the buffer panics when its bounds are out of order or out of range. -/
def eventRows (pretty : PrettyJson) (state : AppState) (areaHeight : UInt16) : Outcome Empty (List Row) :=
  if state.liveEvents.isEmpty then ok [⟨["Waiting for events...", "", "", "", ""], false⟩]
  else do
    let shown ← slice state.liveEvents (windowStart state areaHeight) (windowEnd state areaHeight)
    ok (shown.zipIdx.map fun entry =>
      eventRow pretty entry.1 (windowStart state areaHeight + entry.2 == displayCursor state))

def renderEventsTable (pretty : PrettyJson) (state : AppState) (areaHeight : UInt16) : Outcome Empty EventsTable := do
  let rows ← eventRows pretty state areaHeight
  ok
    { title := s!" Live Tail [{statusText state}] ({state.liveEvents.length} events) "
      header := ["Global Pos", "Stream ID", "Version", "Type", "Preview"]
      rows }

def detailEvent (state : AppState) : Option EventRecord := state.liveEvents[displayCursor state]?

/-! ### The cursor stays in the buffer -/

structure LiveBounds (state : AppState) : Prop where
  cursor : state.liveCursor ≤ state.liveEvents.length - 1
  buffer : state.liveEvents.length ≤ liveTailCapacity

theorem length_pushLiveEvent (event : EventRecord) (state : AppState)
    (bounded : state.liveEvents.length ≤ liveTailCapacity) :
    (state.pushLiveEvent event).liveEvents.length = min (state.liveEvents.length + 1) liveTailCapacity := by
  unfold AppState.pushLiveEvent liveTailCapacity at *
  dsimp only
  split
  · rw [List.length_append, List.length_drop, List.length_singleton]
    omega
  · rw [List.length_append, List.length_singleton]
    omega

theorem updateCurrentCursor_live (update : Nat → Nat) (state : AppState) :
    (state.updateCurrentCursor update).liveEvents = state.liveEvents ∧
      ((state.updateCurrentCursor update).liveCursor = state.liveCursor ∨
        state.activeTab = .liveTail ∧ (state.updateCurrentCursor update).liveCursor = update state.liveCursor) := by
  unfold AppState.updateCurrentCursor
  cases tab : state.activeTab with
  | streams => exact ⟨rfl, .inl rfl⟩
  | streamDetail => exact ⟨rfl, .inl rfl⟩
  | globalLog => exact ⟨rfl, .inl rfl⟩
  | liveTail => exact ⟨rfl, .inr ⟨rfl, rfl⟩⟩

def SameLive (before after : AppState) : Prop :=
  after.liveEvents = before.liveEvents ∧ after.liveCursor = before.liveCursor

theorem autoLoad_live (tab : Tab) (state : AppState) : SameLive state (state.autoLoad tab) := by
  unfold AppState.autoLoad
  cases tab with
  | streams => dsimp only; split <;> exact ⟨rfl, rfl⟩
  | streamDetail => exact ⟨rfl, rfl⟩
  | globalLog => dsimp only; split <;> exact ⟨rfl, rfl⟩
  | liveTail => exact ⟨rfl, rfl⟩

theorem select_live (state : AppState) : SameLive state state.select := by
  unfold AppState.select
  split
  · split <;> exact ⟨rfl, rfl⟩
  · exact ⟨rfl, rfl⟩

theorem refresh_live (state : AppState) : SameLive state state.refresh := by
  unfold AppState.refresh
  split <;> exact ⟨rfl, rfl⟩

theorem handleDataFetches_live (answers : Answers) (state : AppState) :
    SameLive state (handleDataFetches answers state) := by
  unfold handleDataFetches fetchGlobal fetchDetail fetchStreams
  constructor <;> split <;> split <;> split <;> rfl

/-- What an action can do to the live tail: at most move its cursor, downwards only inside the buffer. -/
theorem applyAction_live (action : Action) (state : AppState) :
    (state.applyAction action).liveEvents = state.liveEvents ∧
      ((state.applyAction action).liveCursor ≤ state.liveCursor ∨
        (state.applyAction action).liveCursor ≤ state.liveEvents.length - 1) := by
  cases action with
  | quit => exact ⟨rfl, .inl (Nat.le_refl _)⟩
  | switchTab tab =>
    have same := autoLoad_live tab { state with activeTab := tab }
    exact ⟨same.1, .inl (Nat.le_of_eq same.2)⟩
  | cursorUp =>
    obtain ⟨events, cursor | ⟨-, cursor⟩⟩ := updateCurrentCursor_live (· - 1) state
    · exact ⟨events, .inl (Nat.le_of_eq cursor)⟩
    · exact ⟨events, .inl (Nat.le_trans (Nat.le_of_eq cursor) (Nat.sub_le _ _))⟩
  | cursorDown =>
    rw [AppState.applyAction]
    split
    · obtain ⟨events, cursor | ⟨onTail, cursor⟩⟩ := updateCurrentCursor_live
        (fun cursor => min (cursor + 1) (state.currentListLen - 1)) state
      · exact ⟨events, .inl (Nat.le_of_eq cursor)⟩
      · have len : state.currentListLen = state.liveEvents.length := by rw [AppState.currentListLen, onTail]
        refine ⟨events, .inr (Nat.le_trans (Nat.le_of_eq cursor) ?_)⟩
        rw [len]
        exact Nat.min_le_right _ _
    · exact ⟨rfl, .inl (Nat.le_refl _)⟩
  | select => exact ⟨(select_live state).1, .inl (Nat.le_of_eq (select_live state).2)⟩
  | refresh => exact ⟨(refresh_live state).1, .inl (Nat.le_of_eq (refresh_live state).2)⟩
  | toggleFormat => exact ⟨rfl, .inl (Nat.le_refl _)⟩
  | togglePause =>
    rw [AppState.applyAction]
    split <;> exact ⟨rfl, .inl (Nat.le_refl _)⟩

theorem LiveBounds.same {before after : AppState} (bounds : LiveBounds before) (same : SameLive before after) :
    LiveBounds after :=
  ⟨by rw [same.1, same.2]; exact bounds.cursor, by rw [same.1]; exact bounds.buffer⟩

theorem liveBounds_next (state : AppState) (step : Step) (after : AppState) (bounds : LiveBounds state)
    (moved : next step state = some after) : LiveBounds after := by
  have cursor := bounds.cursor
  have buffer := bounds.buffer
  cases step with
  | action action =>
    cases moved
    obtain ⟨events, up | down⟩ := applyAction_live action state
    · exact ⟨by rw [events]; exact Nat.le_trans up cursor, by rw [events]; exact buffer⟩
    · exact ⟨by rw [events]; exact down, by rw [events]; exact buffer⟩
  | pushLiveEvent event =>
    cases moved
    -- Eviction keeps the buffer full, so the old cursor still has an event under it.
    have length := length_pushLiveEvent event state buffer
    have position : (state.pushLiveEvent event).liveCursor = state.liveCursor := rfl
    constructor
    · rw [position, length]
      omega
    · rw [length]
      exact Nat.min_le_right _ _
  | caughtUp =>
    cases moved
    exact bounds.same ⟨rfl, rfl⟩
  | loadStreams =>
    cases moved
    exact bounds.same ⟨rfl, rfl⟩
  | fetch answers =>
    cases moved
    exact bounds.same (handleDataFetches_live answers state)

theorem LiveBounds.run {state after : AppState} (bounds : LiveBounds state) (run : Reaches next always state after) :
    LiveBounds after :=
  run.invariant LiveBounds bounds (fun before step later holds _ moved => liveBounds_next before step later holds moved)

theorem liveBounds_new (serverAddr : String) : LiveBounds (AppState.new serverAddr) := ⟨Nat.le_refl _, Nat.zero_le _⟩

theorem liveBounds_of_run {serverAddr : String} {state : AppState}
    (run : Reaches next always (AppState.new serverAddr) state) : LiveBounds state :=
  (liveBounds_new serverAddr).run run

/-! ### The window -/

/-- The window is a part of the buffer that fits the area, and it shows the cursor whenever the
area shows anything. -/
structure WindowShown (state : AppState) (areaHeight : UInt16) : Prop where
  ordered : windowStart state areaHeight ≤ windowEnd state areaHeight
  inside : windowEnd state areaHeight ≤ state.liveEvents.length
  fits : windowEnd state areaHeight - windowStart state areaHeight ≤ visibleHeight areaHeight
  showsCursor : 1 ≤ visibleHeight areaHeight →
    windowStart state areaHeight ≤ displayCursor state ∧ displayCursor state < windowEnd state areaHeight
  /-- `start + visible_height` is far from overflowing a `usize`. -/
  noOverflow : windowStart state areaHeight + visibleHeight areaHeight < liveTailCapacity + UInt16.size

theorem displayCursor_lt {state : AppState} (bounds : LiveBounds state) (present : state.liveEvents ≠ []) :
    displayCursor state < state.liveEvents.length := by
  have cursor := bounds.cursor
  have positive := List.length_pos_of_ne_nil present
  unfold displayCursor
  split <;> omega

theorem windowShown_of_bounds {state : AppState} (bounds : LiveBounds state) (present : state.liveEvents ≠ [])
    (areaHeight : UInt16) : WindowShown state areaHeight := by
  have onEvent := displayCursor_lt bounds present
  have buffer := bounds.buffer
  have height : areaHeight.toNat < UInt16.size := areaHeight.toNat_lt
  constructor <;> simp only [windowEnd, windowStart, visibleHeight] <;> omega

theorem renderEventsTable_ok (pretty : PrettyJson) {state : AppState} {areaHeight : UInt16}
    (shown : state.liveEvents ≠ [] → WindowShown state areaHeight) :
    ∃ table, renderEventsTable pretty state areaHeight = ok table := by
  obtain ⟨rows, drawn⟩ : ∃ rows, eventRows pretty state areaHeight = ok rows := by
    unfold eventRows
    split
    next => exact ⟨_, rfl⟩
    next present =>
      have window := shown (fun empty => present (List.isEmpty_iff.mpr empty))
      rw [slice_ok _ _ _ window.ordered window.inside]
      exact ⟨_, rfl⟩
  rw [renderEventsTable, drawn]
  exact ⟨_, rfl⟩

/-- After any sequence of actions, pushed events and other writes, for any height of the area. -/
theorem live_window_shown (serverAddr : String) (state : AppState)
    (run : Reaches next always (AppState.new serverAddr) state) (present : state.liveEvents ≠ [])
    (areaHeight : UInt16) :
    WindowShown state areaHeight ∧ ∀ pretty, ∃ table, renderEventsTable pretty state areaHeight = ok table := by
  have shown := windowShown_of_bounds (liveBounds_of_run run) present areaHeight
  exact ⟨shown, fun pretty => renderEventsTable_ok pretty (fun _ => shown)⟩

def sampleRecord : EventRecord := ⟨"a", "s", 0, 0, 0, "A", [], []⟩

theorem live_window_shown_one_event :
    ∃ state, Reaches next always (AppState.new "test") state ∧ state.liveEvents = [sampleRecord] ∧
      state.livePaused = true ∧ WindowShown state 10 := by
  let state := (((AppState.new "test").pushLiveEvent sampleRecord).applyAction (.switchTab .liveTail)).applyAction
    .togglePause
  have run : Reaches next always (AppState.new "test") state :=
    reaches_of_feed [.pushLiveEvent sampleRecord, .action (.switchTab .liveTail), .action .togglePause] _ _ rfl
  have events : state.liveEvents = [sampleRecord] := rfl
  exact ⟨state, run, events, rfl, (live_window_shown "test" state run (by simp [events]) 10).1⟩

/-- Every frame of the event loop can be drawn, and the panel below the table shows the event
under the cursor. -/
theorem frames_drawn (serverAddr : String) (turns : List Turn) (frame : AppState)
    (drawn : frame ∈ frames turns (AppState.start serverAddr)) (areaHeight : UInt16) (pretty : PrettyJson) :
    (∃ table, renderEventsTable pretty frame areaHeight = ok table) ∧
      (frame.liveEvents ≠ [] → (detailEvent frame).isSome) := by
  have started : Reaches next always (AppState.new serverAddr) (AppState.start serverAddr) :=
    .single ⟨.loadStreams, trivial, rfl⟩
  have bounds := liveBounds_of_run (started.trans (reaches_frame turns _ frame drawn))
  constructor
  · exact renderEventsTable_ok pretty (fun present => windowShown_of_bounds bounds present areaHeight)
  · intro present
    rw [detailEvent, List.getElem?_eq_getElem (displayCursor_lt bounds present)]
    rfl

end EventfoldConsole
