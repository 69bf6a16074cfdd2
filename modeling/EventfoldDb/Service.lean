import EventfoldDb.Writer

/-! The append handler of the gRPC service: it checks and converts the message, hands the request
to the writer, and answers with the first and the last recorded event. -/

namespace EventfoldDb
open Outcome

inductive Code where
  | failedPrecondition
  | notFound
  | internal
  | dataLoss
  | invalidArgument
  deriving DecidableEq, Repr

structure Status where
  code : Code
  message : String
  deriving DecidableEq, Repr

/-- `Display` for errors. What the operating system says about an I/O error is not modelled. -/
def Error.display : Error → String
  | .wrongExpectedVersion expected actual => s!"wrong expected version: expected {expected}, actual {actual}"
  | .streamNotFound streamId => s!"stream not found: {streamId.display}"
  | .io => "I/O error"
  | .corruptRecord position detail => s!"corrupt record at position {position}: {detail}"
  | .invalidHeader detail => s!"invalid file header: {detail}"
  | .eventTooLarge size max => s!"event too large: {size} bytes exceeds {max} byte limit"
  | .invalidArgument detail => s!"invalid argument: {detail}"

def errorToStatus (error : Error) : Status :=
  let message := error.display
  match error with
  | .wrongExpectedVersion _ _ => ⟨.failedPrecondition, message⟩
  | .streamNotFound _ => ⟨.notFound, message⟩
  | .io => ⟨.internal, message⟩
  | .corruptRecord _ _ => ⟨.dataLoss, message⟩
  | .invalidHeader _ => ⟨.dataLoss, message⟩
  | .eventTooLarge _ _ => ⟨.invalidArgument, message⟩
  | .invalidArgument _ => ⟨.invalidArgument, message⟩

namespace Proto

inductive Kind where
  | any
  | noStream
  | exact (version : UInt64)
  deriving DecidableEq, Repr

structure ExpectedVersion where
  kind : Option Kind
  deriving DecidableEq, Repr

structure ProposedEvent where
  eventId : String
  eventType : String
  metadata : Bytes
  payload : Bytes
  deriving DecidableEq, Repr

structure AppendRequest where
  streamId : String
  expectedVersion : Option ExpectedVersion
  events : List ProposedEvent
  deriving DecidableEq, Repr

structure AppendResponse where
  firstStreamVersion : UInt64
  lastStreamVersion : UInt64
  firstGlobalPosition : UInt64
  lastGlobalPosition : UInt64
  deriving DecidableEq, Repr

end Proto

/-- `FromStr` of the `uuid` crate: the parsed value or the text of its error. -/
abbrev UuidParser := String → Except String Uuid

def parseUuid (parser : UuidParser) (text fieldName : String) : Except Status Uuid :=
  match parser text with
  | .ok id => .ok id
  | .error reason => .error ⟨.invalidArgument, s!"invalid {fieldName}: {reason}"⟩

def protoToExpectedVersion (expected : Option Proto.ExpectedVersion) : Except Status ExpectedVersion :=
  match expected with
  | none => .error ⟨.invalidArgument, "expected_version is required"⟩
  | some version =>
      match version.kind with
      | some .any => .ok .any
      | some .noStream => .ok .noStream
      | some (.exact version) => .ok (.exact version)
      | none => .error ⟨.invalidArgument, "expected_version.kind is required"⟩

def protoToProposedEvent (parser : UuidParser) (proposed : Proto.ProposedEvent) : Except Status ProposedEvent := do
  let eventId ← parseUuid parser proposed.eventId "event_id"
  return { eventId, eventType := proposed.eventType, metadata := proposed.metadata, payload := proposed.payload }

namespace EventfoldService

def request (parser : UuidParser) (message : Proto.AppendRequest) : Except Status AppendRequest := do
  let streamId ← parseUuid parser message.streamId "stream_id"
  let expectedVersion ← protoToExpectedVersion message.expectedVersion
  if message.events.isEmpty then .error ⟨.invalidArgument, "events must not be empty"⟩
  else
    let events ← message.events.mapM (protoToProposedEvent parser)
    return { streamId, expectedVersion, events }

/-- The response is built from `recorded[0]` and `recorded[recorded.len() - 1]`. -/
def respond (recorded : List RecordedEvent) : Outcome Status Proto.AppendResponse := do
  let first ← index recorded 0
  let last ← index recorded (recorded.length - 1)
  return { firstStreamVersion := first.streamVersion, lastStreamVersion := last.streamVersion,
           firstGlobalPosition := first.globalPosition, lastGlobalPosition := last.globalPosition }

/-- The handler, given what the writer answers. -/
def append (parser : UuidParser) (writer : AppendRequest → Except Error (List RecordedEvent))
    (message : Proto.AppendRequest) : Outcome Status Proto.AppendResponse :=
  match request parser message with
  | .error status => .err status
  | .ok asked =>
      match writer asked with
      | .error error => .err (errorToStatus error)
      | .ok recorded => respond recorded

theorem request_filled (parser : UuidParser) (message : Proto.AppendRequest) (asked : AppendRequest)
    (passed : request parser message = .ok asked) : asked.events ≠ [] := by
  unfold request at passed
  generalize parseUuid parser message.streamId "stream_id" = streamId at passed
  generalize protoToExpectedVersion message.expectedVersion = expected at passed
  cases streamId with
  | error status => cases passed
  | ok streamId =>
    cases expected with
    | error status => cases passed
    | ok expected =>
      cases given : message.events with
      | nil =>
        rw [given] at passed
        cases passed
      | cons first rest =>
        rw [given, List.mapM_cons] at passed
        generalize protoToProposedEvent parser first = head at passed
        generalize rest.mapM (protoToProposedEvent parser) = tail at passed
        cases head with
        | error status => cases passed
        | ok event =>
          cases tail with
          | error status => cases passed
          | ok events =>
            cases passed
            exact List.cons_ne_nil _ _

end EventfoldService

end EventfoldDb
