import EventfoldDb.Lib.Machine

/-! The state of the terminal console and everything that changes it: keys through actions,
messages of the live subscription, and the answers to its data fetches. -/

namespace EventfoldConsole
open Machine

inductive Tab where
  | streams
  | streamDetail
  | globalLog
  | liveTail
  deriving DecidableEq, Repr

def tabOrder : List Tab := [.streams, .streamDetail, .globalLog, .liveTail]

def tabAt (place : Nat) : Tab := tabOrder.get ⟨place % tabOrder.length, Nat.mod_lt _ (by decide)⟩

def Tab.next (tab : Tab) : Tab := tabAt (tabOrder.idxOf tab + 1)
def Tab.prev (tab : Tab) : Tab := tabAt (tabOrder.idxOf tab + tabOrder.length - 1)

structure StreamInfo where
  streamId : String
  eventCount : UInt64
  latestVersion : UInt64
  deriving DecidableEq, Repr

structure EventRecord where
  eventId : String
  streamId : String
  streamVersion : UInt64
  globalPosition : UInt64
  recordedAt : UInt64
  eventType : String
  metadata : List UInt8
  payload : List UInt8
  deriving DecidableEq, Repr

inductive Action where
  | quit
  | switchTab (tab : Tab)
  | cursorUp
  | cursorDown
  | select
  | refresh
  | toggleFormat
  | togglePause
  deriving DecidableEq, Repr

structure AppState where
  activeTab : Tab
  shouldQuit : Bool
  serverAddr : String
  formatJson : Bool
  streams : List StreamInfo
  streamsCursor : Nat
  streamsLoading : Bool
  detailStreamId : Option String
  detailEvents : List EventRecord
  detailCursor : Nat
  detailLoading : Bool
  globalEvents : List EventRecord
  globalCursor : Nat
  globalLoading : Bool
  liveEvents : List EventRecord
  liveCaughtUp : Bool
  livePaused : Bool
  liveCursor : Nat
  deriving DecidableEq, Repr

def liveTailCapacity : Nat := 10000

namespace AppState

def new (serverAddr : String) : AppState where
  activeTab := .streams
  shouldQuit := false
  serverAddr := serverAddr
  formatJson := true
  streams := []
  streamsCursor := 0
  streamsLoading := false
  detailStreamId := none
  detailEvents := []
  detailCursor := 0
  detailLoading := false
  globalEvents := []
  globalCursor := 0
  globalLoading := false
  liveEvents := []
  liveCaughtUp := false
  livePaused := false
  liveCursor := 0

/-- At capacity the oldest event is dropped; the cursor is left where it is. -/
def pushLiveEvent (event : EventRecord) (state : AppState) : AppState :=
  let kept := if state.liveEvents.length ≥ liveTailCapacity then state.liveEvents.drop 1 else state.liveEvents
  { state with liveEvents := kept ++ [event] }

def currentListLen (state : AppState) : Nat :=
  match state.activeTab with
  | .streams => state.streams.length
  | .streamDetail => state.detailEvents.length
  | .globalLog => state.globalEvents.length
  | .liveTail => state.liveEvents.length

def updateCurrentCursor (update : Nat → Nat) (state : AppState) : AppState :=
  match state.activeTab with
  | .streams => { state with streamsCursor := update state.streamsCursor }
  | .streamDetail => { state with detailCursor := update state.detailCursor }
  | .globalLog => { state with globalCursor := update state.globalCursor }
  | .liveTail => { state with liveCursor := update state.liveCursor }

def autoLoad (tab : Tab) (state : AppState) : AppState :=
  match tab with
  | .streams =>
      if state.streams.isEmpty && !state.streamsLoading then { state with streamsLoading := true } else state
  | .globalLog =>
      if state.globalEvents.isEmpty && !state.globalLoading then { state with globalLoading := true } else state
  | _ => state

def select (state : AppState) : AppState :=
  if state.activeTab = .streams then
    match state.streams[state.streamsCursor]? with
    | some stream =>
        { state with
          detailStreamId := some stream.streamId
          detailEvents := []
          detailCursor := 0
          detailLoading := true
          activeTab := .streamDetail }
    | none => state
  else state

def refresh (state : AppState) : AppState :=
  match state.activeTab with
  | .streams => { state with streamsLoading := true }
  | .streamDetail => { state with detailLoading := true }
  | .globalLog => { state with globalLoading := true }
  | .liveTail => state

def applyAction (action : Action) (state : AppState) : AppState :=
  match action with
  | .quit => { state with shouldQuit := true }
  | .switchTab tab => autoLoad tab { state with activeTab := tab }
  | .cursorUp => state.updateCurrentCursor (· - 1)
  | .cursorDown =>
      let len := state.currentListLen
      if len > 0 then state.updateCurrentCursor (fun cursor => min (cursor + 1) (len - 1)) else state
  | .select => state.select
  | .refresh => state.refresh
  | .toggleFormat => { state with formatJson := !state.formatJson }
  | .togglePause => if state.activeTab = .liveTail then { state with livePaused := !state.livePaused } else state

end AppState

/-! ### Keys -/

inductive KeyCode where
  | char (key : Char)
  | esc
  | tab
  | backTab
  | down
  | up
  | enter
  | other
  deriving DecidableEq, Repr

structure KeyEvent where
  code : KeyCode
  control : Bool
  deriving DecidableEq, Repr

def handleKeyEvent (key : KeyEvent) (currentTab : Tab) : Option Action :=
  match key.code with
  | .char 'q' | .esc => some .quit
  | .char '1' => some (.switchTab .streams)
  | .char '2' => some (.switchTab .streamDetail)
  | .char '3' => some (.switchTab .globalLog)
  | .char '4' => some (.switchTab .liveTail)
  | .tab => some (.switchTab currentTab.next)
  | .backTab => some (.switchTab currentTab.prev)
  | .char 'j' | .down => some .cursorDown
  | .char 'k' | .up => some .cursorUp
  | .enter => some .select
  | .char 'r' => some .refresh
  | .char 'f' => some .toggleFormat
  | .char 'p' => some .togglePause
  | .char 'c' => if key.control then some .quit else none
  | _ => none

/-! ### The event loop -/

inductive SubscriptionMsg where
  | event (record : EventRecord)
  | caughtUp
  | error (detail : String)
  deriving DecidableEq, Repr

/-- An error of the subscription is only logged. -/
def AppState.receive (state : AppState) : SubscriptionMsg → AppState
  | .event record => state.pushLiveEvent record
  | .caughtUp => { state with liveCaughtUp := true }
  | .error _ => state

/-- What the server answers when it is asked; `none` is an error, which is only logged. -/
structure Answers where
  listStreams : Option (List StreamInfo)
  readStream : String → Option (List EventRecord)
  readAll : Option (List EventRecord)

def fetchStreams (answers : Answers) (state : AppState) : AppState :=
  if state.streamsLoading then
    { state with streams := answers.listStreams.getD state.streams, streamsLoading := false }
  else state

def fetchDetail (answers : Answers) (state : AppState) : AppState :=
  if state.detailLoading then
    { state with
      detailEvents := (state.detailStreamId.bind answers.readStream).getD state.detailEvents
      detailLoading := false }
  else state

def fetchGlobal (answers : Answers) (state : AppState) : AppState :=
  if state.globalLoading then
    { state with globalEvents := answers.readAll.getD state.globalEvents, globalLoading := false }
  else state

def handleDataFetches (answers : Answers) (state : AppState) : AppState :=
  fetchGlobal answers (fetchDetail answers (fetchStreams answers state))

structure Turn where
  answers : Answers
  messages : List SubscriptionMsg
  key : Option KeyEvent

def pressKey (key : Option KeyEvent) (state : AppState) : AppState :=
  match key.bind (handleKeyEvent · state.activeTab) with
  | some action => state.applyAction action
  | none => state

def runTurn (turn : Turn) (state : AppState) : AppState :=
  pressKey turn.key (turn.messages.foldl AppState.receive (handleDataFetches turn.answers state))

/-- The states `run_event_loop` renders, one at the start of every turn, until it quits. -/
def frames : List Turn → AppState → List AppState
  | [], state => [state]
  | turn :: turns, state =>
      let after := runTurn turn state
      state :: if after.shouldQuit then [] else frames turns after

def AppState.start (serverAddr : String) : AppState := { AppState.new serverAddr with streamsLoading := true }

/-- Everything that ever writes to the state, one write at a time. -/
inductive Step where
  | action (action : Action)
  | pushLiveEvent (event : EventRecord)
  | caughtUp
  | loadStreams
  | fetch (answers : Answers)

def next : Step → AppState → Option AppState
  | .action action, state => some (state.applyAction action)
  | .pushLiveEvent event, state => some (state.pushLiveEvent event)
  | .caughtUp, state => some { state with liveCaughtUp := true }
  | .loadStreams, state => some { state with streamsLoading := true }
  | .fetch answers, state => some (handleDataFetches answers state)

theorem reaches_receive (state : AppState) (messages : List SubscriptionMsg) :
    Reaches next always state (messages.foldl AppState.receive state) := by
  induction messages generalizing state with
  | nil => exact .refl
  | cons message messages ih =>
    have first : Reaches next always state (state.receive message) := by
      cases message with
      | event record => exact .single ⟨.pushLiveEvent record, trivial, rfl⟩
      | caughtUp => exact .single ⟨.caughtUp, trivial, rfl⟩
      | error detail => exact .refl
    exact first.trans (ih _)

theorem reaches_pressKey (key : Option KeyEvent) (state : AppState) :
    Reaches next always state (pressKey key state) := by
  unfold pressKey
  split
  next action _ => exact .single ⟨.action action, trivial, rfl⟩
  next => exact .refl

theorem reaches_runTurn (turn : Turn) (state : AppState) : Reaches next always state (runTurn turn state) := by
  have fetched : Reaches next always state (handleDataFetches turn.answers state) :=
    .single ⟨.fetch turn.answers, trivial, rfl⟩
  exact (fetched.trans (reaches_receive _ turn.messages)).trans (reaches_pressKey turn.key _)

theorem reaches_frame (turns : List Turn) (state frame : AppState) (drawn : frame ∈ frames turns state) :
    Reaches next always state frame := by
  induction turns generalizing state with
  | nil =>
    rw [List.mem_singleton.mp drawn]
  | cons turn turns ih =>
    rw [frames] at drawn
    rcases List.mem_cons.mp drawn with now | later
    · rw [now]
    · split at later
      · exact absurd later List.not_mem_nil
      · exact (reaches_runTurn turn state).trans (ih _ later)

end EventfoldConsole
