import EventfoldDb.Codec
import Mathlib.Data.Finmap

/-! The storage engine: the log file, the in-memory index, `append` and the recovery
performed by `open`. -/

namespace EventfoldDb
open LittleEndian Outcome

/-! ### The machine -/

/-- Memory that is asked for in one piece, by an amount that a file or the environment decides. -/
inductive Reservation where
  /-- `Vec::with_capacity` for the records that a batch header announces. -/
  | records (count : UInt32)
  /-- `LruCache::new`. -/
  | dedup (capacity : Nat)
  /-- `broadcast::channel`. -/
  | ring (capacity : Nat)
  deriving DecidableEq, Repr

/-- What the machine and the runtime decide. Refused memory ends the process, by an abort or a panic. -/
structure Platform where
  grants : Reservation → Bool
  /-- How many messages a broadcast channel keeps. -/
  slots : Nat → Nat
  slots_le : ∀ capacity, capacity ≤ slots capacity

def Platform.ample : Platform := ⟨fun _ => true, id, fun _ => Nat.le_refl _⟩

/-! ### Files and the index -/

/-- The log file: every byte written so far, and how many of them the last completed
`sync_all` covered. -/
structure File where
  bytes : List UInt8
  synced : Nat
  syncedInside : synced ≤ bytes.length
  deriving DecidableEq

namespace File

def write (file : File) (buf : List UInt8) : File where
  bytes := file.bytes ++ buf
  synced := file.synced
  syncedInside := by rw [List.length_append]; exact Nat.le_add_right_of_le file.syncedInside

def syncAll (file : File) : File where
  bytes := file.bytes
  synced := file.bytes.length
  syncedInside := Nat.le_refl _

def setLen (file : File) (len : Nat) : File where
  bytes := file.bytes.take len ++ List.replicate (len - file.bytes.length) 0
  synced := min file.synced len
  syncedInside := by
    have inside := file.syncedInside
    rw [List.length_append, List.length_take, List.length_replicate]
    omega

end File

abbrev Streams := Finmap (fun _ : Uuid => List UInt64)

@[ext] structure EventLog where
  events : List RecordedEvent
  streams : Streams
  deriving DecidableEq

structure Store where
  file : File
  log : EventLog
  deriving DecidableEq

def EventLog.empty : EventLog := ⟨[], ∅⟩

def headerSize : Nat := 8

/-! ### Append -/

/-- Which file operation of one append fails, and how many bytes `write_all` got out first. -/
inductive Fault where
  | none
  | seek
  | write (written : Nat)
  | sync
  deriving DecidableEq, Repr

def EventLog.checkExpectedVersion (log : EventLog) (streamId : Uuid) (expected : ExpectedVersion) :
    Except Error Unit :=
  match expected with
  | .any => .ok ()
  | .noStream =>
      match log.streams.lookup streamId with
      | none => .ok ()
      | some positions =>
          let actualVersion := UInt64.ofNat positions.length - 1
          .error (.wrongExpectedVersion "NoStream" (toString actualVersion))
  | .exact n =>
      match log.streams.lookup streamId with
      | none => .error (.wrongExpectedVersion (toString n) "NoStream")
      | some positions =>
          let currentVersion := UInt64.ofNat positions.length - 1
          if currentVersion ≠ n then
            .error (.wrongExpectedVersion (toString n) (toString currentVersion))
          else .ok ()

def EventLog.nextGlobal (log : EventLog) : UInt64 := UInt64.ofNat log.events.length

def EventLog.nextStreamVersion (log : EventLog) (streamId : Uuid) : UInt64 :=
  match log.streams.lookup streamId with
  | none => 0
  | some positions => UInt64.ofNat positions.length

def recordOf (streamId : Uuid) (recordedAt nextGlobal nextStreamVersion : UInt64) (proposed : ProposedEvent) :
    RecordedEvent where
  eventId := proposed.eventId
  streamId := streamId
  streamVersion := nextStreamVersion
  globalPosition := nextGlobal
  recordedAt := recordedAt
  eventType := proposed.eventType
  metadata := proposed.metadata
  payload := proposed.payload

/-- The loop over the proposed events: each is validated, numbered and encoded, and the first
bad one ends the whole append. -/
def recordAll (crc : Crc32fast) (streamId : Uuid) (recordedAt : UInt64) :
    UInt64 → UInt64 → List ProposedEvent → Except Error (List RecordedEvent × List UInt8)
  | _, _, [] => .ok ([], [])
  | nextGlobal, nextStreamVersion, proposed :: rest =>
      if (asBytes proposed.eventType).length = 0 then
        .error (.invalidArgument "event type must not be empty")
      else if (asBytes proposed.eventType).length > maxEventTypeLen then
        .error (.invalidArgument
          s!"event type exceeds {maxEventTypeLen} byte limit: {(asBytes proposed.eventType).length} bytes")
      else
        let event := recordOf streamId recordedAt nextGlobal nextStreamVersion proposed
        let encoded := encodeRecord crc event
        if encoded.length > maxEventSize then .error (.eventTooLarge encoded.length maxEventSize)
        else
          match recordAll crc streamId recordedAt (nextGlobal + 1) (nextStreamVersion + 1) rest with
          | .ok (recorded, encodedRecords) => .ok (event :: recorded, encoded ++ encodedRecords)
          | .error error => .error error

/-- The batch envelope. The record count is `recorded.len() as u32`. -/
def encodeBatch (crc : Crc32fast) (recordCount : Nat) (firstGlobalPos : UInt64) (encodedRecords : List UInt8) :
    List UInt8 :=
  let batchHeader := encodeBatchHeader (UInt32.ofNat recordCount) firstGlobalPos
  let batchCrc := crc.finalize (crc.update (crc.update crc.new batchHeader) encodedRecords)
  batchHeader ++ encodedRecords ++ encodeBatchFooter batchCrc

def EventLog.prepare (crc : Crc32fast) (log : EventLog) (streamId : Uuid) (expected : ExpectedVersion)
    (recordedAt : UInt64) (proposedEvents : List ProposedEvent) : Except Error (List RecordedEvent × List UInt8) :=
  match log.checkExpectedVersion streamId expected with
  | .error error => .error error
  | .ok () =>
      match recordAll crc streamId recordedAt log.nextGlobal (log.nextStreamVersion streamId) proposedEvents with
      | .error error => .error error
      | .ok (recorded, encodedRecords) =>
          .ok (recorded, encodeBatch crc recorded.length log.nextGlobal encodedRecords)

/-- Seek to the end, `write_all`, `sync_all`. -/
def File.appendBatch (file : File) (fault : Fault) (encodedBatch : List UInt8) : Except Error Unit × File :=
  match fault with
  | .none => (.ok (), (file.write encodedBatch).syncAll)
  | .seek => (.error .io, file)
  | .write written => (.error .io, file.write (encodedBatch.take written))
  | .sync => (.error .io, file.write encodedBatch)

/-- No `Vec` holds more than `isize::MAX` elements: growing past it panics. -/
def isizeMax : Nat := 2 ^ 63 - 1

def pushPositions (streams : Streams) (streamId : Uuid) (positions : List UInt64) : Streams :=
  streams.insert streamId ((streams.lookup streamId).getD [] ++ positions)

def EventLog.extend (log : EventLog) (streamId : Uuid) (recorded : List RecordedEvent) : Outcome Error EventLog :=
  if log.events.length + recorded.length ≤ isizeMax then
    .ok { events := log.events ++ recorded,
          streams := pushPositions log.streams streamId (recorded.map (·.globalPosition)) }
  else .panic

def Store.append (crc : Crc32fast) (fault : Fault) (store : Store) (streamId : Uuid) (expected : ExpectedVersion)
    (recordedAt : UInt64) (proposedEvents : List ProposedEvent) : Outcome Error (List RecordedEvent) × Store :=
  match store.log.prepare crc streamId expected recordedAt proposedEvents with
  | .error error => (.err error, store)
  | .ok (recorded, encodedBatch) =>
      match store.file.appendBatch fault encodedBatch with
      | (.error error, file) => (.err error, { store with file })
      | (.ok (), file) =>
          match store.log.extend streamId recorded with
          | .ok log => (.ok recorded, { file, log })
          | .err error => (.err error, { store with file })
          | .panic => (.panic, { store with file })

/-! ### Recovery -/

def anyBatchHeader (data : List UInt8) : List Nat → Outcome Error Bool
  | [] => .ok false
  | probe :: rest => do
      match decodeBatchHeader (← sliceFrom data probe) with
      | .ok (.complete _ _) => .ok true
      | .panic => .panic
      | _ => anyBatchHeader data rest

def hasValidBatchAfter (data : List UInt8) (start : Nat) : Outcome Error Bool :=
  anyBatchHeader data (List.range' (start + 1) (data.length - (start + 1)))

/-- Step 2 of the recovery loop. `none` is the exit that truncates the whole batch. -/
def decodeRecords (crc : Crc32fast) (data : List UInt8) :
    Nat → Nat → Outcome Error (Option (List RecordedEvent × Nat))
  | 0, offset => .ok (some ([], offset))
  | count + 1, offset => do
      match decodeRecord crc (← sliceFrom data offset) with
      | .ok (.complete value consumed) =>
          match ← decodeRecords crc data count (offset + consumed) with
          | some (values, next) => .ok (some (value :: values, next))
          | none => .ok none
      | .ok .incomplete => .ok none
      | .err (.corruptRecord _ _) => .ok none
      | .err error => .err error
      | .panic => .panic

/-- Steps 3 and 4: the footer that must stand at `offset`, and the batch CRC. -/
def checkFooter (crc : Crc32fast) (data : List UInt8) (batchStart offset : Nat) :
    Outcome Error (Option Nat) := do
  match decodeBatchFooter (← sliceFrom data offset) with
  | .ok (.complete footer consumed) =>
      let next := offset + consumed
      let headerPlusRecords ← slice data batchStart (next - batchFooterSize)
      if footer.batchCrc ≠ crc.hash headerPlusRecords then .ok none else .ok (some next)
  | .ok .incomplete => .ok none
  | .err (.corruptRecord _ _) => .ok none
  | .err error => .err error
  | .panic => .panic

/-- One turn of the recovery loop: the batch at `batchStart` and where the next one starts, or
`none` for the exits that truncate the file to `batchStart`. -/
def readBatchOn (platform : Platform) (crc : Crc32fast) (data : List UInt8) (batchStart validEvents : Nat) :
    Outcome Error (Option (List RecordedEvent × Nat)) := do
  match decodeBatchHeader (← sliceFrom data batchStart) with
  | .ok (.complete header consumed) =>
      -- `Vec::with_capacity(header.record_count)`, before any record is looked at
      if platform.grants (.records header.recordCount) then
        match ← decodeRecords crc data header.recordCount.toNat (batchStart + consumed) with
        | none => .ok none
        | some (batchEvents, offset) =>
            match ← checkFooter crc data batchStart offset with
            | none => .ok none
            | some next => .ok (some (batchEvents, next))
      else .panic
  | .ok .incomplete => .ok none
  | .err (.corruptRecord _ _) =>
      if ← hasValidBatchAfter data batchStart then
        .err (.corruptRecord (UInt64.ofNat validEvents) "mid-file corruption: valid batch follows corrupt data")
      else .ok none
  | .err error => .err error
  | .panic => .panic

def readBatch (crc : Crc32fast) (data : List UInt8) (batchStart validEvents : Nat) :
    Outcome Error (Option (List RecordedEvent × Nat)) := readBatchOn .ample crc data batchStart validEvents

theorem decodeRecords_next (crc : Crc32fast) (data : List UInt8) (count offset : Nat)
    (values : List RecordedEvent) (next : Nat)
    (read : decodeRecords crc data count offset = .ok (some (values, next))) : offset ≤ next := by
  induction count generalizing offset values with
  | zero =>
    cases read
    exact Nat.le_refl _
  | succ count ih =>
    rw [decodeRecords, bind_eq_ok] at read
    obtain ⟨remaining, -, read⟩ := read
    split at read <;> try cases read
    rw [bind_eq_ok] at read
    obtain ⟨tail, tailRead, read⟩ := read
    split at read <;> cases read
    exact Nat.le_of_add_right_le (ih _ _ tailRead)

theorem checkFooter_next (crc : Crc32fast) (data : List UInt8) (batchStart offset next : Nat)
    (read : checkFooter crc data batchStart offset = .ok (some next)) : next = offset + batchFooterSize := by
  rw [checkFooter, bind_eq_ok] at read
  obtain ⟨remaining, -, read⟩ := read
  split at read <;> try cases read
  rename_i footer consumed decoded
  have fixed : consumed = batchFooterSize := by
    unfold decodeBatchFooter at decoded
    split_ifs at decoded
    · cases decoded
    · rw [bind_eq_ok] at decoded
      obtain ⟨magicBytes, -, decoded⟩ := decoded
      split_ifs at decoded
      · cases decoded
      · rw [bind_eq_ok] at decoded
        obtain ⟨crcBytes, -, decoded⟩ := decoded
        cases decoded
        rfl
  rw [bind_eq_ok] at read
  obtain ⟨covered, -, read⟩ := read
  split_ifs at read <;> cases read
  rw [fixed]

/-- The loop always moves on: this is its termination measure. -/
theorem readBatchOn_next (platform : Platform) (crc : Crc32fast) (data : List UInt8) (batchStart validEvents next : Nat)
    (batchEvents : List RecordedEvent)
    (read : readBatchOn platform crc data batchStart validEvents = .ok (some (batchEvents, next))) :
    batchStart < next := by
  rw [readBatchOn, bind_eq_ok] at read
  obtain ⟨remaining, -, read⟩ := read
  split at read <;> try cases read
  · split_ifs at read
    rw [bind_eq_ok] at read
    obtain ⟨records, recordsRead, read⟩ := read
    split at read
    · cases read
    · rw [bind_eq_ok] at read
      obtain ⟨footer, footerRead, read⟩ := read
      split at read <;> cases read
      have moved := decodeRecords_next crc data _ _ _ _ recordsRead
      have fixed := checkFooter_next crc data _ _ _ footerRead
      unfold batchFooterSize at fixed
      omega
  · rw [bind_eq_ok] at read
    obtain ⟨follows, -, read⟩ := read
    split_ifs at read
    cases read

theorem readBatch_next (crc : Crc32fast) (data : List UInt8) (batchStart validEvents next : Nat)
    (batchEvents : List RecordedEvent)
    (read : readBatch crc data batchStart validEvents = .ok (some (batchEvents, next))) : batchStart < next :=
  readBatchOn_next .ample crc data batchStart validEvents next batchEvents read

def EventLog.push (log : EventLog) (event : RecordedEvent) : EventLog where
  events := log.events ++ [event]
  streams := pushPositions log.streams event.streamId [event.globalPosition]

def EventLog.commit (log : EventLog) (batchEvents : List RecordedEvent) : EventLog :=
  batchEvents.foldl EventLog.push log

set_option linter.unusedVariables false in
/-- The recovery loop. The result is the recovered index and, if the loop left through a
truncating exit, the offset to truncate to. -/
def recoverLoopOn (platform : Platform) (crc : Crc32fast) (data : List UInt8) (offset : Nat) (log : EventLog) :
    Outcome Error (EventLog × Option Nat) :=
  if data.length < offset then .panic
  else if atEnd : offset = data.length then .ok (log, none)
  else
    match read : readBatchOn platform crc data offset log.events.length with
    | .ok (some (batchEvents, next)) => recoverLoopOn platform crc data next (log.commit batchEvents)
    | .ok none => .ok (log, some offset)
    | .err error => .err error
    | .panic => .panic
termination_by data.length - offset
decreasing_by
  have moved := readBatchOn_next platform crc data _ _ _ _ read
  omega

def recoverLoop (crc : Crc32fast) (data : List UInt8) (offset : Nat) (log : EventLog) :
    Outcome Error (EventLog × Option Nat) := recoverLoopOn .ample crc data offset log

def recoverOn (platform : Platform) (crc : Crc32fast) (data : List UInt8) : Outcome Error (EventLog × Option Nat) :=
  if data.length < headerSize then
    .err (.invalidHeader s!"file too short for header: {data.length} bytes")
  else do
    let _ ← decodeHeader (← slice data 0 headerSize)
    recoverLoopOn platform crc data headerSize EventLog.empty

def recover (crc : Crc32fast) (data : List UInt8) : Outcome Error (EventLog × Option Nat) := recoverOn .ample crc data

def truncateAndReturn (file : File) (truncateTo : Nat) (log : EventLog) : Store where
  file := (file.setLen truncateTo).syncAll
  log := log

def Store.create : Store where
  file := { bytes := encodeHeader, synced := encodeHeader.length, syncedInside := Nat.le_refl _ }
  log := EventLog.empty

/-- `Store::open`, with the file at `path` (or its absence) before and after. A new file stays also
if its directory cannot be opened and synced behind it, as for a path without a directory. -/
def Store.openOn (platform : Platform) (crc : Crc32fast) (syncsParent : Bool) (path : Option File) :
    Outcome Error Store × Option File :=
  match path with
  | none => (if syncsParent then .ok Store.create else .err .io, some Store.create.file)
  | some file =>
      match recoverOn platform crc file.bytes with
      | .ok (log, none) => (.ok { file, log }, some file)
      | .ok (log, some truncateTo) =>
          (.ok (truncateAndReturn file truncateTo log), some (truncateAndReturn file truncateTo log).file)
      | .err error => (.err error, some file)
      | .panic => (.panic, some file)

/-- `Store::open` with memory for what it reads, in a directory that can be synced. -/
def Store.open (crc : Crc32fast) (path : Option File) : Outcome Error Store × Option File :=
  Store.openOn .ample crc true path

theorem Store.open_some (crc : Crc32fast) (file : File) :
    Store.open crc (some file) =
      match recover crc file.bytes with
      | .ok (log, none) => (.ok { file, log }, some file)
      | .ok (log, some truncateTo) =>
          (.ok (truncateAndReturn file truncateTo log), some (truncateAndReturn file truncateTo log).file)
      | .err error => (.err error, some file)
      | .panic => (.panic, some file) := rfl

end EventfoldDb
