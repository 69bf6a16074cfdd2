import Mathlib.Data.List.Basic

/-! The domain types of the event store: identifiers, proposed and recorded events, the
expected-version check and the unified error type. -/

namespace EventfoldDb

/-- A UUID is its sixteen raw bytes. -/
structure Uuid where
  bytes : List UInt8
  size : bytes.length = 16
  deriving DecidableEq, Repr

abbrev Bytes := List UInt8

def maxEventSize : Nat := 64 * 1024
def maxEventTypeLen : Nat := 256

structure ProposedEvent where
  eventId : Uuid
  eventType : String
  metadata : Bytes
  payload : Bytes
  deriving DecidableEq, Repr

structure RecordedEvent where
  eventId : Uuid
  streamId : Uuid
  streamVersion : UInt64
  globalPosition : UInt64
  recordedAt : UInt64
  eventType : String
  metadata : Bytes
  payload : Bytes
  deriving DecidableEq, Repr

inductive ExpectedVersion where
  | any
  | noStream
  | exact (version : UInt64)
  deriving DecidableEq, Repr

inductive Error where
  | wrongExpectedVersion (expected actual : String)
  | streamNotFound (streamId : Uuid)
  | io
  | corruptRecord (position : UInt64) (detail : String)
  | invalidHeader (detail : String)
  | eventTooLarge (size max : Nat)
  | invalidArgument (detail : String)
  deriving DecidableEq, Repr

inductive SubscriptionMessage where
  | event (recorded : RecordedEvent)
  | caughtUp
  deriving DecidableEq, Repr

def hexDigits (upper : Bool) : Nat → Nat → List Char
  | 0, _ => []
  | width + 1, value =>
      let digit := Nat.digitChar (value % 16)
      hexDigits upper width (value / 16) ++ [if upper then digit.toUpper else digit]

def Uuid.display (id : Uuid) : String :=
  let group (start stop : Nat) : List Char :=
    ((id.bytes.take stop).drop start).flatMap (fun byte => hexDigits false 2 byte.toNat)
  String.ofList (group 0 4 ++ '-' :: group 4 6 ++ '-' :: group 6 8 ++ '-' :: group 8 10 ++ '-' :: group 10 16)

/-- Where `std::str::from_utf8` stopped, as its `Utf8Error` reports it. -/
structure Utf8Error where
  validUpTo : Nat
  errorLen : Option Nat
  deriving DecidableEq, Repr

def Utf8Error.display (error : Utf8Error) : String :=
  match error.errorLen with
  | some len => s!"invalid utf-8 sequence of {len} bytes from index {error.validUpTo}"
  | none => s!"incomplete utf-8 byte sequence from index {error.validUpTo}"

def asBytes (text : String) : Bytes := text.toUTF8.data.toList

def secondByteOk (first second : Nat) : Bool :=
  if first = 0xE0 then 0xA0 ≤ second ∧ second ≤ 0xBF
  else if first = 0xED then 0x80 ≤ second ∧ second ≤ 0x9F
  else if first = 0xF0 then 0x90 ≤ second ∧ second ≤ 0xBF
  else if first = 0xF4 then 0x80 ≤ second ∧ second ≤ 0x8F
  else 0x80 ≤ second ∧ second ≤ 0xBF

def isContinuation (byte : UInt8) : Bool := 0x80 ≤ byte.toNat ∧ byte.toNat ≤ 0xBF

/-- `error_len` of the invalid sequence that starts these bytes; `none` when the input ended too soon. -/
def utf8ErrorLen : List UInt8 → Option Nat
  | [] => none
  | first :: rest =>
      let width := if 0xC2 ≤ first.toNat ∧ first.toNat ≤ 0xDF then 2
        else if 0xE0 ≤ first.toNat ∧ first.toNat ≤ 0xEF then 3
        else if 0xF0 ≤ first.toNat ∧ first.toNat ≤ 0xF4 then 4 else 0
      match width, rest with
      | 0, _ => some 1
      | _, [] => none
      | 2, _ => some 1
      | _, second :: rest =>
          if ¬secondByteOk first.toNat second.toNat then some 1
          else match rest with
            | [] => none
            | third :: rest =>
                if ¬isContinuation third then some 2
                else if rest.isEmpty then none else some 3

def utf8Error (bytes : Bytes) : Utf8Error :=
  let valid := ((List.range (bytes.length + 1)).filter fun count =>
    (ByteArray.mk (bytes.take count).toArray).validateUTF8).getLast?.getD 0
  { validUpTo := valid, errorLen := utf8ErrorLen (bytes.drop valid) }

def fromUtf8 (bytes : Bytes) : Except Utf8Error String :=
  if valid : (ByteArray.mk bytes.toArray).IsValidUTF8 then .ok (String.fromUTF8 _ valid)
  else .error (utf8Error bytes)

theorem fromUtf8_asBytes (text : String) : fromUtf8 (asBytes text) = .ok text := by
  have same : ByteArray.mk (asBytes text).toArray = text.toByteArray := by simp [asBytes]
  unfold fromUtf8
  rw [dif_pos (by rw [same]; exact text.isValidUTF8)]
  congr 1

theorem asBytes_fromUtf8 {bytes : Bytes} {text : String} (read : fromUtf8 bytes = .ok text) :
    asBytes text = bytes := by
  unfold fromUtf8 at read
  split at read
  · cases read
    rfl
  · cases read

end EventfoldDb
