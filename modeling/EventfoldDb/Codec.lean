import EventfoldDb.Types
import EventfoldDb.Lib.LittleEndian
import EventfoldDb.Lib.Outcome

/-! The binary codec of the append-only log file: file header, records, and the batch
envelope. The `crc32fast` crate is a parameter; the codec relies only on incremental
hashing agreeing with hashing the concatenation. -/

namespace EventfoldDb
open LittleEndian Outcome

/-- What the codec uses of `crc32fast`. -/
structure Crc32fast where
  hash : List UInt8 → UInt32
  Hasher : Type
  new : Hasher
  update : Hasher → List UInt8 → Hasher
  finalize : Hasher → UInt32
  incremental : ∀ chunks : List (List UInt8), finalize (chunks.foldl update new) = hash chunks.flatten

namespace Crc32fast

def ieeeByte (state : UInt32) (byte : UInt8) : UInt32 :=
  (List.range 8).foldl (fun crc _ => if crc &&& 1 = 1 then (crc >>> 1) ^^^ 0xEDB88320 else crc >>> 1)
    (state ^^^ byte.toUInt32)

/-- The IEEE CRC-32 itself: initial value and final xor `0xFFFFFFFF`. -/
def ieee : Crc32fast where
  hash := fun bytes => bytes.foldl ieeeByte 0xFFFFFFFF ^^^ 0xFFFFFFFF
  Hasher := UInt32
  new := 0xFFFFFFFF
  update := fun state bytes => bytes.foldl ieeeByte state
  finalize := fun state => state ^^^ 0xFFFFFFFF
  incremental := fun chunks => by rw [List.foldl_flatten]

end Crc32fast

def magic : List UInt8 := [0x45, 0x46, 0x44, 0x42]
def formatVersion : UInt32 := 3
def batchHeaderMagic : List UInt8 := [0x45, 0x46, 0x42, 0x42]
def batchFooterMagic : List UInt8 := [0x45, 0x46, 0x42, 0x46]

inductive DecodeOutcome (α : Type) where
  | complete (value : α) (consumed : Nat)
  | incomplete
  deriving DecidableEq, Repr

structure BatchHeader where
  recordCount : UInt32
  firstGlobalPos : UInt64
  deriving DecidableEq, Repr

structure BatchFooter where
  batchCrc : UInt32
  deriving DecidableEq, Repr

def encodeHeader : List UInt8 := magic ++ u32ToBytes formatVersion

def decodeHeader (buf : List UInt8) : Outcome Error UInt32 := do
  if (← slice buf 0 4) ≠ magic then
    .err (.invalidHeader "wrong magic bytes: expected EFDB")
  else
    let version := u32OfBytes (← slice buf 4 8)
    if version ≠ formatVersion then .err (.invalidHeader s!"unsupported format version: {version}")
    else .ok version

/-- `global_position(8) + recorded_at(8) + stream_id(16) + stream_version(8) + event_id(16) +
event_type_len(2) + metadata_len(4) + payload_len(4) + checksum(4)`. -/
def fixedBodySize : Nat := 8 + 8 + 16 + 8 + 16 + 2 + 4 + 4 + 4
def lengthPrefixSize : Nat := 4

/-- The CRC-protected part of a record, from `global_position` through `payload`. -/
def encodeBody (event : RecordedEvent) : List UInt8 :=
  u64ToBytes event.globalPosition ++ u64ToBytes event.recordedAt ++ event.streamId.bytes ++
    u64ToBytes event.streamVersion ++ event.eventId.bytes ++
    u16ToBytes (UInt16.ofNat (asBytes event.eventType).length) ++ asBytes event.eventType ++
    u32ToBytes (UInt32.ofNat event.metadata.length) ++ event.metadata ++
    u32ToBytes (UInt32.ofNat event.payload.length) ++ event.payload

def encodeRecord (crc : Crc32fast) (event : RecordedEvent) : List UInt8 :=
  let bodyLen := fixedBodySize + (asBytes event.eventType).length + event.metadata.length + event.payload.length
  let buf := u32ToBytes (UInt32.ofNat bodyLen) ++ encodeBody event
  buf ++ u32ToBytes (crc.hash (buf.drop lengthPrefixSize))

def corrupt {α : Type} (detail : String) : Outcome Error α := .err (.corruptRecord 0 detail)

/-- `read_bytes!`: the next `count` bytes at the cursor, and the cursor after them. -/
def readBytes (bytes : List UInt8) (cursor count : Nat) : Outcome Error (List UInt8 × Nat) := do
  if cursor + count > bytes.length then corrupt "unexpected end of record body"
  else return (← slice bytes cursor (cursor + count), cursor + count)

def uuidOfBytes (bytes : List UInt8) : Outcome Error Uuid :=
  if size : bytes.length = 16 then .ok ⟨bytes, size⟩ else .panic

def readText (bytes : List UInt8) : Outcome Error String :=
  match fromUtf8 bytes with
  | .ok text => .ok text
  | .error e => corrupt s!"invalid UTF-8 in event type: {e.display}"

def decodeBody (body : List UInt8) : Outcome Error RecordedEvent := do
  let (gpBytes, cursor) ← readBytes body 0 8
  let (raBytes, cursor) ← readBytes body cursor 8
  let (sidBytes, cursor) ← readBytes body cursor 16
  let streamId ← uuidOfBytes sidBytes
  let (svBytes, cursor) ← readBytes body cursor 8
  let (eidBytes, cursor) ← readBytes body cursor 16
  let eventId ← uuidOfBytes eidBytes
  let (etlBytes, cursor) ← readBytes body cursor 2
  let (etBytes, cursor) ← readBytes body cursor (u16OfBytes etlBytes).toNat
  let eventType ← readText etBytes
  let (mlBytes, cursor) ← readBytes body cursor 4
  let (metaBytes, cursor) ← readBytes body cursor (u32OfBytes mlBytes).toNat
  let (plBytes, cursor) ← readBytes body cursor 4
  let (payBytes, _) ← readBytes body cursor (u32OfBytes plBytes).toNat
  return { eventId, streamId, streamVersion := u64OfBytes svBytes, globalPosition := u64OfBytes gpBytes,
           recordedAt := u64OfBytes raBytes, eventType, metadata := metaBytes, payload := payBytes }

def crcHex (word : UInt32) : String := "0x" ++ String.ofList (hexDigits true 8 word.toNat)

/-- The checks and the parse of a record body that lies wholly in the buffer. -/
def decodeFrame (crc : Crc32fast) (body : List UInt8) : Outcome Error RecordedEvent :=
  if body.length < 4 then corrupt "record body too short for checksum"
  else do
    let crcOffset := body.length - 4
    let storedCrc := u32OfBytes (← slice body crcOffset (crcOffset + 4))
    let protectedBytes ← slice body 0 crcOffset
    let computedCrc := crc.hash protectedBytes
    if storedCrc ≠ computedCrc then
      corrupt s!"CRC32 mismatch: stored {crcHex storedCrc}, computed {crcHex computedCrc}"
    else decodeBody protectedBytes

def decodeRecord (crc : Crc32fast) (buf : List UInt8) : Outcome Error (DecodeOutcome RecordedEvent) :=
  if buf.length < lengthPrefixSize then .ok .incomplete
  else do
    let recordLength := (u32OfBytes (← slice buf 0 4)).toNat
    let total := lengthPrefixSize + recordLength
    if buf.length < total then .ok .incomplete
    else
      let event ← decodeFrame crc (← slice buf lengthPrefixSize total)
      .ok (.complete event total)

def batchHeaderSize : Nat := 16
def batchFooterSize : Nat := 8

def encodeBatchHeader (recordCount : UInt32) (firstGlobalPos : UInt64) : List UInt8 :=
  batchHeaderMagic ++ u32ToBytes recordCount ++ u64ToBytes firstGlobalPos

def decodeBatchHeader (buf : List UInt8) : Outcome Error (DecodeOutcome BatchHeader) :=
  if buf.length < batchHeaderSize then .ok .incomplete
  else do
    if (← slice buf 0 4) ≠ batchHeaderMagic then corrupt "wrong batch header magic bytes"
    else
      let recordCount := u32OfBytes (← slice buf 4 8)
      let firstGlobalPos := u64OfBytes (← slice buf 8 16)
      .ok (.complete { recordCount, firstGlobalPos } batchHeaderSize)

def encodeBatchFooter (batchCrc : UInt32) : List UInt8 :=
  batchFooterMagic ++ u32ToBytes batchCrc

def decodeBatchFooter (buf : List UInt8) : Outcome Error (DecodeOutcome BatchFooter) :=
  if buf.length < batchFooterSize then .ok .incomplete
  else do
    if (← slice buf 0 4) ≠ batchFooterMagic then corrupt "wrong batch footer magic bytes"
    else
      let batchCrc := u32OfBytes (← slice buf 4 8)
      .ok (.complete { batchCrc } batchFooterSize)

end EventfoldDb
