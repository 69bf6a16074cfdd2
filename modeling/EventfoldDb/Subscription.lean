import EventfoldDb.Writer
import EventfoldDb.Reader

/-! The broker and one subscription next to the writer task. The subscription registers its
receiver, reads the index in chunks, marks the end of the catch-up and then forwards what it
receives. -/

namespace EventfoldDb
open Outcome

def catchupBatchSize : UInt64 := 500

/-- What `subscribe_all` and `subscribe_stream` differ in. -/
structure Feed where
  read : EventLog → UInt64 → Outcome Error (List RecordedEvent)
  /-- The number that a subscription counts in. -/
  rank : RecordedEvent → UInt64
  wanted : RecordedEvent → Bool

def subscribeAll : Feed where
  read := fun log cursor => log.readAll cursor catchupBatchSize
  rank := fun event => event.globalPosition
  wanted := fun _ => true

def subscribeStream (streamId : Uuid) : Feed where
  read := fun log cursor => log.readStream streamId cursor catchupBatchSize
  rank := fun event => event.streamVersion
  wanted := fun event => event.streamId = streamId

inductive Phase where
  | unregistered
  | reading (cursor : UInt64) (lastCatchup : Option UInt64)
  /-- Inside the loop over a batch that had `batchLen` events. -/
  | yielding (batch : List RecordedEvent) (batchLen : UInt64) (cursor : UInt64) (lastCatchup : Option UInt64)
  /-- About to emit the `CaughtUp` marker. -/
  | marking (lastCatchup : Option UInt64)
  | live (lastCatchup : Option UInt64)
  | ended

structure Subscription where
  phase : Phase
  queue : List RecordedEvent
  out : List (Except Error SubscriptionMessage)

def laggedError : Error := .invalidArgument "subscription lagged: re-subscribe from last checkpoint"

/-- The live phase skips what the catch-up has sent already. -/
def alreadySent (feed : Feed) (lastCatchup : Option UInt64) (event : RecordedEvent) : Bool :=
  match lastCatchup with
  | some last => feed.rank event ≤ last
  | none => false

/-- Run the generator up to its next read, yield or receive. -/
def Subscription.poll (feed : Feed) (log : EventLog) (subscription : Subscription) : Option Subscription :=
  match subscription.phase with
  | .unregistered => none
  | .reading cursor lastCatchup =>
      match feed.read log cursor with
      | .ok batch =>
          some { subscription with phase := .yielding batch (UInt64.ofNat batch.length) cursor lastCatchup }
      | .err (.streamNotFound _) => some { subscription with phase := .marking lastCatchup }
      | .err error => some { subscription with phase := .ended, out := subscription.out ++ [.error error] }
      | .panic => some { subscription with phase := .ended }
  | .yielding (event :: batch) batchLen _ _ =>
      some { subscription with
        phase := .yielding batch batchLen (feed.rank event + 1) (some (feed.rank event))
        out := subscription.out ++ [.ok (.event event)] }
  | .yielding [] batchLen cursor lastCatchup =>
      if batchLen < catchupBatchSize then some { subscription with phase := .marking lastCatchup }
      else some { subscription with phase := .reading cursor lastCatchup }
  | .marking lastCatchup =>
      some { subscription with phase := .live lastCatchup, out := subscription.out ++ [.ok .caughtUp] }
  | .live lastCatchup =>
      match subscription.queue with
      | [] => none
      | event :: queue =>
          if feed.wanted event = true ∧ alreadySent feed lastCatchup event = false then
            some { subscription with queue, out := subscription.out ++ [.ok (.event event)] }
          else some { subscription with queue }
  | .ended => none

/-- The writer task and one subscription. The last three fields only record what happened: the
log when the receiver was registered, the part of it that had been published by then, and what
has been published since the start. -/
structure System where
  task : Task
  subscription : Subscription
  registered : List RecordedEvent
  missed : List RecordedEvent
  published : List RecordedEvent

def System.log (system : System) : EventLog := system.task.writer.store.log

/-- The part of the log that is not waiting to be published. -/
def System.settled (system : System) : List RecordedEvent :=
  system.log.events.take (system.log.events.length - system.task.unsent.length)

def System.start (writer : Writer) : System where
  task := Task.start writer
  subscription := ⟨.unregistered, [], []⟩
  registered := []
  missed := []
  published := []

inductive System.Step where
  | writer (step : Task.Step)
  | register
  | poll
  /-- `recv` returns `Lagged`. -/
  | lag
  /-- `recv` returns `Closed`. -/
  | close

/-- A receiver holds every message sent after it was created. -/
def Subscription.receive (subscription : Subscription) (sent : List RecordedEvent) : Subscription :=
  match subscription.phase with
  | .unregistered => subscription
  | _ => { subscription with queue := subscription.queue ++ sent }

def System.next (crc : Crc32fast) (feed : Feed) (start : UInt64) : System.Step → System → Option System
  | .writer step, system =>
      (Task.next crc step system.task).map fun task =>
        { system with
          task
          subscription := system.subscription.receive (Task.sends step system.task)
          published := system.published ++ Task.sends step system.task }
  | .register, system =>
      match system.subscription.phase with
      | .unregistered =>
          some { system with
            subscription := { system.subscription with phase := .reading start none }
            registered := system.log.events
            missed := system.settled }
      | _ => none
  | .poll, system =>
      (system.subscription.poll feed system.log).map fun subscription => { system with subscription }
  | .lag, system =>
      match system.subscription.phase with
      | .live _ =>
          some { system with
            subscription := { system.subscription with
              phase := .ended
              out := system.subscription.out ++ [.error laggedError] } }
      | _ => none
  | .close, system =>
      match system.subscription.phase, system.subscription.queue with
      | .live _, [] => some { system with subscription := { system.subscription with phase := .ended } }
      | _, _ => none

end EventfoldDb
