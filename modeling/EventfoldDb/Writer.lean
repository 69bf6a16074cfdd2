import EventfoldDb.AppendSpec
import EventfoldDb.Lib.Lru

/-! The deduplication index and the writer task: requests arrive over a channel, are drained in
groups, and each is checked, answered from the index or appended, published and answered. -/

namespace EventfoldDb
open Outcome AppendSpec

/-- `LruCache` as it is documented: `get` and `put` make their key the most recent one, and a full cache
gives up the least recent one. -/
structure DedupIndex where
  cache : Lru Uuid (List RecordedEvent)

namespace DedupIndex

def new (capacity : Nat) : DedupIndex := ⟨Lru.new capacity⟩

/-- Only the first event of the proposed batch is looked up. -/
def check (dedup : DedupIndex) (proposed : List ProposedEvent) : Option (List RecordedEvent) × DedupIndex :=
  match proposed with
  | [] => (none, dedup)
  | first :: _ => ((dedup.cache.get first.eventId).1, ⟨(dedup.cache.get first.eventId).2⟩)

/-- One entry for each event id, all with the whole batch. -/
def record (dedup : DedupIndex) (recorded : List RecordedEvent) : DedupIndex :=
  ⟨recorded.foldl (fun cache event => cache.put event.eventId recorded) dedup.cache⟩

/-- Each recovered event becomes a batch of its own. -/
def seedFromLog (dedup : DedupIndex) (events : List RecordedEvent) : DedupIndex :=
  ⟨events.foldl (fun cache event => cache.put event.eventId [event]) dedup.cache⟩

end DedupIndex

structure AppendRequest where
  streamId : Uuid
  expectedVersion : ExpectedVersion
  events : List ProposedEvent
  deriving DecidableEq, Repr

def duplicateId : List Uuid → List ProposedEvent → Option Uuid
  | _, [] => none
  | seen, event :: events =>
      if event.eventId ∈ seen then some event.eventId else duplicateId (event.eventId :: seen) events

def validateBatchUniqueIds (events : List ProposedEvent) : Except Error Unit :=
  if events.length ≤ 1 then .ok ()
  else
    match duplicateId [] events with
    | some eventId => .error (.invalidArgument s!"duplicate event_id {eventId.display} within batch")
    | none => .ok ()

structure Writer where
  store : Store
  dedup : DedupIndex

/-- The dedup index is seeded from the log the store was opened with. -/
def Writer.spawn (store : Store) (dedupCapacity : Nat) : Writer where
  store := store
  dedup := (DedupIndex.new dedupCapacity).seedFromLog store.log.events

inductive Route where
  | invalid
  | cached
  | appended
  deriving DecidableEq, Repr

structure Served where
  result : Outcome Error (List RecordedEvent)
  route : Route
  writer : Writer
  publishes : List RecordedEvent

def AppendRequest.call (request : AppendRequest) (recordedAt : UInt64) : AppendCall where
  streamId := request.streamId
  expectedVersion := request.expectedVersion
  recordedAt := recordedAt
  proposedEvents := request.events

/-- The body of the loop over the drained requests. -/
def Writer.serve (crc : Crc32fast) (fault : Fault) (recordedAt : UInt64) (writer : Writer)
    (request : AppendRequest) : Served :=
  match validateBatchUniqueIds request.events with
  | .error error => ⟨.err error, .invalid, writer, []⟩
  | .ok () =>
      match writer.dedup.check request.events with
      | (some cached, dedup) => ⟨.ok cached, .cached, { writer with dedup }, []⟩
      | (none, dedup) =>
          match runCall crc fault writer.store (request.call recordedAt) with
          | (.ok recorded, store) => ⟨.ok recorded, .appended, { store, dedup := dedup.record recorded }, recorded⟩
          | (.err error, store) => ⟨.err error, .appended, { store, dedup }, []⟩
          | (.panic, store) => ⟨.panic, .appended, { store, dedup }, []⟩

/-! ### The task -/

/-- A request in the channel; the number stands for its response channel. -/
structure Ticket where
  number : Nat
  request : AppendRequest

structure Answer where
  ticket : Ticket
  route : Route
  result : Except Error (List RecordedEvent)

structure Task where
  writer : Writer
  /-- The channel: submitted and not yet drained. -/
  inbox : List Ticket
  /-- Drained together, not yet served. -/
  batch : List Ticket
  recordedAt : UInt64
  /-- Events of the append just made that are still to be sent to the broker. -/
  unsent : List RecordedEvent
  /-- The answer to the request being served. -/
  reply : Option Answer
  answers : List Answer
  submitted : Nat

inductive Task.Step where
  | submit (request : AppendRequest)
  /-- `recv` and then `try_recv`: the first `count` requests, stamped with one time. -/
  | drain (count : Nat) (recordedAt : UInt64)
  | serve (fault : Fault)
  | publish
  | respond

def Task.start (writer : Writer) : Task where
  writer := writer
  inbox := []
  batch := []
  recordedAt := 0
  unsent := []
  reply := none
  answers := []
  submitted := 0

def Task.afterServing (task : Task) (ticket : Ticket) (rest : List Ticket) (served : Served)
    (result : Except Error (List RecordedEvent)) : Task :=
  { task with
    writer := served.writer
    batch := rest
    unsent := served.publishes
    reply := some { ticket, route := served.route, result } }

/-- One step of the task; a panic in `append` ends it. -/
def Task.next (crc : Crc32fast) : Task.Step → Task → Option Task
  | .submit request, task =>
      some { task with inbox := task.inbox ++ [{ number := task.submitted, request }], submitted := task.submitted + 1 }
  | .drain count recordedAt, task =>
      if task.batch = [] ∧ task.unsent = [] ∧ task.reply.isNone ∧ 0 < count ∧ count ≤ task.inbox.length then
        some { task with batch := task.inbox.take count, inbox := task.inbox.drop count, recordedAt }
      else none
  | .serve fault, task =>
      match task.batch, task.unsent, task.reply with
      | ticket :: rest, [], none =>
          let served := task.writer.serve crc fault task.recordedAt ticket.request
          match served.result with
          | .ok recorded => some (task.afterServing ticket rest served (.ok recorded))
          | .err error => some (task.afterServing ticket rest served (.error error))
          | .panic => none
      | _, _, _ => none
  | .publish, task =>
      match task.unsent with
      | [] => none
      | _ :: unsent => some { task with unsent }
  | .respond, task =>
      match task.unsent, task.reply with
      | [], some reply => some { task with reply := none, answers := task.answers ++ [reply] }
      | _, _ => none

def Task.sends (step : Task.Step) (task : Task) : List RecordedEvent :=
  match step with
  | .publish => task.unsent.take 1
  | _ => []

end EventfoldDb
