import EventfoldDb.LogInvariant
import EventfoldDb.Lib.Window

/-! The read side of the in-memory index. On a well-formed log both reads return a window, of the
log or of one stream. -/

namespace EventfoldDb
open Outcome

def saturatingAdd (left right : UInt64) : UInt64 :=
  if left.toNat + right.toNat < 2 ^ 64 then left + right else UInt64.ofNat (2 ^ 64 - 1)

def EventLog.readAll (log : EventLog) (fromPosition maxCount : UInt64) : Outcome Error (List RecordedEvent) :=
  let len := UInt64.ofNat log.events.length
  let start := min fromPosition len
  let stop := min (saturatingAdd fromPosition maxCount) len
  slice log.events start.toNat stop.toNat

def EventLog.eventsAt (log : EventLog) : List UInt64 → Outcome Error (List RecordedEvent)
  | [] => .ok []
  | globalPos :: rest => do
      let event ← index log.events globalPos.toNat
      let events ← log.eventsAt rest
      .ok (event :: events)

def EventLog.readStream (log : EventLog) (streamId : Uuid) (fromVersion maxCount : UInt64) :
    Outcome Error (List RecordedEvent) :=
  match log.streams.lookup streamId with
  | none => .err (.streamNotFound streamId)
  | some positions => do
      let streamLen := UInt64.ofNat positions.length
      let start := min fromVersion streamLen
      let stop := min (saturatingAdd fromVersion maxCount) streamLen
      let picked ← slice positions start.toNat stop.toNat
      log.eventsAt picked

def EventLog.streamVersion (log : EventLog) (streamId : Uuid) : Option UInt64 :=
  (log.streams.lookup streamId).map fun positions => UInt64.ofNat positions.length - 1

def EventLog.globalPosition (log : EventLog) : UInt64 := UInt64.ofNat log.events.length

structure StreamInfo where
  streamId : Uuid
  eventCount : UInt64
  latestVersion : UInt64
  deriving DecidableEq, Repr

def StreamInfo.of (entry : Uuid × List UInt64) : StreamInfo where
  streamId := entry.1
  eventCount := UInt64.ofNat entry.2.length
  latestVersion := UInt64.ofNat entry.2.length - 1

/-- `ReadIndex::list_streams`, for the order in which the hash map hands out its entries. -/
def listStreams (iteration : List (Uuid × List UInt64)) : List StreamInfo :=
  (iteration.map StreamInfo.of).mergeSort fun left right =>
    decide (left.streamId.display ≤ right.streamId.display)

/-- The entries of the map in some order. -/
structure Iterates (streams : Streams) (iteration : List (Uuid × List UInt64)) : Prop where
  distinct : (iteration.map Prod.fst).Nodup
  entries : ∀ streamId positions, (streamId, positions) ∈ iteration ↔ streams.lookup streamId = some positions

/-! The store answers the same reads itself. -/

def Store.streamVersion (store : Store) (streamId : Uuid) : Option UInt64 :=
  (store.log.streams.lookup streamId).map fun positions => UInt64.ofNat positions.length - 1

def Store.readAll (store : Store) (fromPosition maxCount : UInt64) : Outcome Error (List RecordedEvent) :=
  let len := UInt64.ofNat store.log.events.length
  let start := min fromPosition len
  let stop := min (saturatingAdd fromPosition maxCount) len
  slice store.log.events start.toNat stop.toNat

def Store.readStream (store : Store) (streamId : Uuid) (fromVersion maxCount : UInt64) :
    Outcome Error (List RecordedEvent) :=
  match store.log.streams.lookup streamId with
  | none => .err (.streamNotFound streamId)
  | some positions => do
      let streamLen := UInt64.ofNat positions.length
      let start := min fromVersion streamLen
      let stop := min (saturatingAdd fromVersion maxCount) streamLen
      let picked ← slice positions start.toNat stop.toNat
      store.log.eventsAt picked

namespace Reader
open LogInvariant Window

theorem toNat_min (left right : UInt64) : (min left right).toNat = min left.toNat right.toNat := by
  show (if left ≤ right then left else right).toNat = _
  split_ifs with ordered
  · exact (Nat.min_eq_left (UInt64.le_iff_toNat_le.mp ordered)).symm
  · rw [UInt64.le_iff_toNat_le] at ordered
    exact (Nat.min_eq_right (by omega)).symm

theorem toNat_saturatingAdd (left right : UInt64) :
    (saturatingAdd left right).toNat = min (left.toNat + right.toNat) (2 ^ 64 - 1) := by
  rw [saturatingAdd]
  split_ifs with room
  · rw [UInt64.toNat_add, Nat.mod_eq_of_lt room]
    omega
  · have largest : (UInt64.ofNat (2 ^ 64 - 1)).toNat = 2 ^ 64 - 1 := by decide
    rw [largest]
    omega

/-- Both reads clip their bounds at the length, so the saturation is never noticed. -/
theorem slice_clipped {α : Type} (items : List α) (start count : UInt64) (fits : items.length ≤ isizeMax) :
    (slice items (min start (UInt64.ofNat items.length)).toNat
      (min (saturatingAdd start count) (UInt64.ofNat items.length)).toNat : Outcome Error (List α)) =
      ok (window start.toNat (start.toNat + count.toNat) items) := by
  unfold isizeMax at fits
  have len : (UInt64.ofNat items.length).toNat = items.length := by
    rw [UInt64.toNat_ofNat']
    exact Nat.mod_eq_of_lt (by omega)
  have stop : min (saturatingAdd start count).toNat items.length = min (start.toNat + count.toNat) items.length := by
    rw [toNat_saturatingAdd]
    omega
  rw [toNat_min, toNat_min, len, stop, slice_ok _ _ _ (by omega) (Nat.min_le_right _ _)]
  exact congrArg ok (window_clip start.toNat (start.toNat + count.toNat) items)

section
variable {log : EventLog} (wellFormed : WellFormed log)
include wellFormed

theorem readAll_eq (fromPosition maxCount : UInt64) :
    log.readAll fromPosition maxCount =
      ok (window fromPosition.toNat (fromPosition.toNat + maxCount.toNat) log.events) :=
  slice_clipped log.events fromPosition maxCount wellFormed.capacity

theorem eventsAt_positions (events : List RecordedEvent) (inside : events ⊆ log.events) :
    log.eventsAt (events.map (·.globalPosition)) = ok events := by
  induction events with
  | nil => rfl
  | cons event events ih =>
    have here : log.events[event.globalPosition.toNat]? = some event :=
      wellFormed.positions.getElem?_of_mem (inside (List.mem_cons_self ..))
    have rest := ih (fun other member => inside (List.mem_cons_of_mem _ member))
    rw [List.map_cons, EventLog.eventsAt, index, here]
    simp only [ok_bind, rest]

theorem readStream_eq (streamId : Uuid) (fromVersion maxCount : UInt64) :
    log.readStream streamId fromVersion maxCount =
        ok (window fromVersion.toNat (fromVersion.toNat + maxCount.toNat) (streamEvents streamId log.events)) ∨
      log.readStream streamId fromVersion maxCount = err (.streamNotFound streamId) ∧
        streamEvents streamId log.events = [] := by
  rw [EventLog.readStream]
  cases found : log.streams.lookup streamId with
  | none => exact .inr ⟨rfl, wellFormed.streamEvents_of_unlisted found⟩
  | some positions =>
    left
    have listed := wellFormed.listed_eq found
    have fits : positions.length ≤ isizeMax := by
      rw [wellFormed.length_listed found]
      exact wellFormed.length_streamEvents_le streamId
    dsimp only
    rw [slice_clipped positions fromVersion maxCount fits, ok_bind, listed, window_map]
    apply eventsAt_positions wellFormed
    intro event member
    exact List.mem_of_mem_filter (window_subset _ _ _ member)

end

end Reader

end EventfoldDb
