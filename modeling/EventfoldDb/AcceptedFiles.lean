import EventfoldDb.DiskInvariant
import EventfoldDb.GreedyRecovery
import EventfoldDb.Reader

/-! Which files `Store::open` not only accepts but can also serve. Recovery copies positions,
versions and stream ids out of the records and checks none of them, so the index is sound
exactly for the files whose records say where they stand. -/

namespace EventfoldDb.AcceptedFiles
open Outcome CodecRoundTrip Recovery RecoveryLoop BatchGrammar GreedyRecovery LogInvariant AppendSpec Numbering
open DiskInvariant (Indexes indexes_empty open_clean)

structure InOrder (events : List RecordedEvent) : Prop where
  positions : Numbered (·.globalPosition.toNat) 0 events
  versions : ∀ streamId, Numbered (·.streamVersion.toNat) 0 (streamEvents streamId events)

/-- What the code that reads and appends takes for granted about the index. -/
structure Servable (store : Store) : Prop where
  positions : ∀ (i : Nat) (event : RecordedEvent), store.log.events[i]? = some event → event.globalPosition.toNat = i
  /-- The index lists the places of each stream's events, in order. -/
  listed : ∀ streamId : Uuid, ((store.log.streams.lookup streamId).getD []).map (·.toNat) =
    store.log.events.findIdxs (·.streamId = streamId)
  versions : ∀ (streamId : Uuid) (listed : List UInt64) (version : Nat) (position : UInt64),
    store.log.streams.lookup streamId = some listed → listed[version]? = some position →
      ∃ event, store.log.events[position.toNat]? = some event ∧ event.streamId = streamId ∧
        event.streamVersion.toNat = version
  /-- No read of a stream leaves the log or returns an event of another stream. -/
  reads : ∀ (streamId : Uuid) (fromVersion maxCount : UInt64),
    store.log.readStream streamId fromVersion maxCount ≠ .panic ∧
      ∀ events, store.log.readStream streamId fromVersion maxCount = ok events →
        ∀ event ∈ events, event.streamId = streamId
  /-- The next append goes on behind the last event. -/
  appends : ∀ (crc : Crc32fast) (fault : Fault) (call : AppendCall) (first : RecordedEvent)
    (others : List RecordedEvent) (after : Store) (last : RecordedEvent),
    runCall crc fault store call = (ok (first :: others), after) → store.log.events.getLast? = some last →
      first.globalPosition.toNat = last.globalPosition.toNat + 1

/-! ### Reads that stay inside -/

theorem slice_clipped_ok {α : Type} (items : List α) (start count : UInt64) :
    ∃ picked, (slice items (min start (UInt64.ofNat items.length)).toNat
      (min (saturatingAdd start count) (UInt64.ofNat items.length)).toNat : Outcome Error (List α)) = ok picked ∧
      picked ⊆ items := by
  have later : start.toNat ≤ (saturatingAdd start count).toNat := by
    have bound := start.toNat_lt
    rw [Reader.toNat_saturatingAdd]
    omega
  have length : (UInt64.ofNat items.length).toNat ≤ items.length := by
    rw [UInt64.toNat_ofNat']
    exact Nat.mod_le _ _
  rw [Reader.toNat_min, Reader.toNat_min, slice_ok _ _ _ (by omega) (by omega)]
  exact ⟨_, rfl, fun item member => List.mem_of_mem_take (List.mem_of_mem_drop member)⟩

theorem eventsAt_ok (log : EventLog) (streamId : Uuid) (positions : List UInt64)
    (known : ∀ position ∈ positions, ∃ event, log.events[position.toNat]? = some event ∧ event.streamId = streamId) :
    ∃ events, log.eventsAt positions = ok events ∧ ∀ event ∈ events, event.streamId = streamId := by
  induction positions with
  | nil => exact ⟨[], rfl, by simp⟩
  | cons position positions ih =>
    obtain ⟨event, here, stream⟩ := known position (List.mem_cons_self ..)
    obtain ⟨events, read, streams⟩ := ih (fun other member => known other (List.mem_cons_of_mem _ member))
    refine ⟨event :: events, ?_, List.forall_mem_cons.mpr ⟨stream, streams⟩⟩
    rw [EventLog.eventsAt, index, here, read]
    rfl

theorem readStream_inside (log : EventLog) (streamId : Uuid)
    (known : ∀ listed position, log.streams.lookup streamId = some listed → position ∈ listed →
      ∃ event, log.events[position.toNat]? = some event ∧ event.streamId = streamId)
    (fromVersion maxCount : UInt64) :
    log.readStream streamId fromVersion maxCount ≠ .panic ∧
      ∀ events, log.readStream streamId fromVersion maxCount = ok events →
        ∀ event ∈ events, event.streamId = streamId := by
  rw [EventLog.readStream]
  cases found : log.streams.lookup streamId with
  | none => simp
  | some listed =>
    obtain ⟨picked, sliced, inside⟩ := slice_clipped_ok listed fromVersion maxCount
    obtain ⟨events, read, streams⟩ := eventsAt_ok log streamId picked
      (fun position member => known listed position found (inside member))
    dsimp only
    rw [sliced, ok_bind, read]
    refine ⟨by simp, ?_⟩
    intro others same
    cases same
    exact streams

/-! ### The recovered index -/

section
variable {store : Store} {events : List RecordedEvent} (recovered : store.log = EventLog.empty.commit events)
include recovered

theorem events_eq : store.log.events = events := by
  rw [recovered, commit_events]
  rfl

theorem listed_getD (streamId : Uuid) :
    (store.log.streams.lookup streamId).getD [] = (streamEvents streamId events).map (·.globalPosition) := by
  rw [recovered, lookup_recovered]
  split_ifs with unknown
  · rw [unknown]
    rfl
  · rfl

theorem listed_event (positions : Numbered (·.globalPosition.toNat) 0 events) {streamId : Uuid}
    {listed : List UInt64} {version : Nat} {position : UInt64}
    (found : store.log.streams.lookup streamId = some listed) (here : listed[version]? = some position) :
    ∃ event, (streamEvents streamId events)[version]? = some event ∧ store.log.events[position.toNat]? = some event ∧
      event.streamId = streamId := by
  have same := listed_getD recovered streamId
  rw [found, Option.getD_some] at same
  rw [same, List.getElem?_map, Option.map_eq_some_iff] at here
  obtain ⟨event, inStream, rfl⟩ := here
  have member := List.mem_of_getElem? inStream
  have stream : event.streamId = streamId := by simpa using List.of_mem_filter member
  rw [events_eq recovered]
  exact ⟨event, inStream, positions.getElem?_of_mem (List.mem_of_mem_filter member), stream⟩

theorem servable_of_inOrder (inOrder : InOrder events) : Servable store where
  positions := by
    intro i event here
    rw [events_eq recovered] at here
    rw [inOrder.positions.getElem? here, Nat.zero_add]
  listed := by
    intro streamId
    rw [listed_getD recovered, events_eq recovered, List.map_map]
    exact inOrder.positions.filter (fun event => decide (event.streamId = streamId))
  versions := by
    intro streamId listed version position found here
    obtain ⟨event, inStream, inLog, stream⟩ := listed_event recovered inOrder.positions found here
    refine ⟨event, inLog, stream, ?_⟩
    rw [(inOrder.versions streamId).getElem? inStream, Nat.zero_add]
  reads := by
    intro streamId
    apply readStream_inside
    intro listed position found member
    obtain ⟨version, here⟩ := List.mem_iff_getElem?.mp member
    obtain ⟨event, -, inLog, stream⟩ := listed_event recovered inOrder.positions found here
    exact ⟨event, inLog, stream⟩
  appends := by
    intro crc fault call first others after last ran atEnd
    rcases append_cases crc fault store after call _ ran with
      ⟨error, -, failed, -⟩ | ⟨batch, -, -, failed, -⟩ | ⟨batch, accepts, -, returned, fits, -⟩ | panicked
    · cases failed
    · cases failed
    · rw [ok.injEq] at returned
      have numbered := Accepts.positions accepts fits
      rw [← returned] at numbered
      have next := (numbered_cons.mp numbered).1
      rw [List.getLast?_eq_getElem?, events_eq recovered] at atEnd
      have lastPosition := inOrder.positions.getElem? atEnd
      have present := (List.getElem?_eq_some_iff.mp atEnd).1
      rw [events_eq recovered] at next
      omega
    · cases panicked

theorem inOrder_of_servable (servable : Servable store) : InOrder events := by
  have positions : Numbered (·.globalPosition.toNat) 0 events := by
    apply numbered_iff_getElem?.mpr
    intro i event here
    rw [← events_eq recovered] at here
    rw [servable.positions i event here, Nat.zero_add]
  refine ⟨positions, ?_⟩
  intro streamId
  apply numbered_iff_getElem?.mpr
  intro version event inStream
  -- The event is what the index names as this version of the stream.
  have listed := listed_getD recovered streamId
  cases found : store.log.streams.lookup streamId with
  | none =>
    rw [found, Option.getD_none, eq_comm, List.map_eq_nil_iff] at listed
    rw [listed] at inStream
    cases inStream
  | some positionsOf =>
    rw [found, Option.getD_some] at listed
    have here : positionsOf[version]? = some event.globalPosition := by
      rw [listed, List.getElem?_map, inStream]
      rfl
    obtain ⟨other, atPosition, -, numbered⟩ := servable.versions streamId positionsOf version _ found here
    have member := List.mem_of_mem_filter (List.mem_of_getElem? inStream)
    rw [events_eq recovered, positions.getElem?_of_mem member] at atPosition
    cases atPosition
    rw [numbered, Nat.zero_add]

end

theorem open_commits {crc : Crc32fast} {file : File} {store : Store} {after : Option File}
    (opened : Store.open crc (some file) = (ok store, after)) :
    ∃ kept events, LongestLog crc file.bytes kept events ∧ store.log = EventLog.empty.commit events := by
  obtain ⟨cut, recovered⟩ := recover_of_open opened
  obtain ⟨count, batches, rest, events, bytes, frames, committed, leaves⟩ := recover_parses recovered
  refine ⟨encodeHeader ++ batches, events, ?_, committed⟩
  rw [bytes]
  exact longestLog_of_stuck frames leaves.stuck

def twoBatches : File := ⟨fileBytes .ieee [firstBatch, secondBatch], 0, Nat.zero_le _⟩

/-- A file that opens can be served exactly if the records of its longest log stand in order. -/
theorem servable_iff_inOrder (crc : Crc32fast) (file : File) (store : Store) (after : Option File)
    (opened : Store.open crc (some file) = (ok store, after)) :
    (∃ kept events, LongestLog crc file.bytes kept events) ∧
      ∀ kept events, LongestLog crc file.bytes kept events → (Servable store ↔ InOrder events) := by
  obtain ⟨kept, events, longest, recovered⟩ := open_commits opened
  refine ⟨⟨kept, events, longest⟩, ?_⟩
  intro kept' others longest'
  rw [← longest.events_eq longest']
  exact ⟨inOrder_of_servable recovered, servable_of_inOrder recovered⟩

theorem servable_two_batches :
    ∃ store kept events, Store.open .ieee (some twoBatches) = (ok store, some store.file) ∧
      LongestLog .ieee twoBatches.bytes kept events ∧ InOrder events ∧ Servable store := by
  have first := indexes_empty.append firstBatch_accepted (by decide) firstBatch_small
  have second : Indexes [firstBatch, secondBatch] _ :=
    first.append secondBatch_accepted (by decide : firstLog.events.length + secondBatch.events.length ≤ isizeMax)
      secondBatch_small
  have opened := open_clean second.small (rfl : twoBatches.bytes = fileBytes .ieee [firstBatch, secondBatch])
  have inOrder : InOrder (eventsOf [firstBatch, secondBatch]) := by
    rw [← second.events]
    exact ⟨second.wellFormed.positions, second.wellFormed.versions⟩
  obtain ⟨⟨kept, events, longest⟩, servableIff⟩ := servable_iff_inOrder _ _ _ _ opened
  have servable : Servable ⟨twoBatches, EventLog.empty.commit (eventsOf [firstBatch, secondBatch])⟩ :=
    servable_of_inOrder rfl inOrder
  exact ⟨_, kept, events, opened, longest, (servableIff kept events longest).mp servable, servable⟩

/-! ### A file without its first batch -/

def beheaded : File := ⟨fileBytes .ieee [secondBatch], 0, Nat.zero_le _⟩

/-- The file is accepted; its only event says position 1, and there every read of its stream goes. -/
theorem beheaded_unservable :
    ∃ store, Store.open .ieee (some beheaded) = (ok store, some beheaded) ∧
      store.log.readStream (idOf 0) 0 1 = .panic ∧ ¬Servable store := by
  have small : ∀ batch ∈ [secondBatch], batch.Small := List.forall_mem_singleton.mpr secondBatch_small
  have opened := open_clean small (rfl : beheaded.bytes = fileBytes .ieee [secondBatch])
  have outside : (EventLog.empty.commit (eventsOf [secondBatch])).readStream (idOf 0) 0 1 = .panic := by decide
  refine ⟨_, opened, outside, ?_⟩
  intro servable
  exact (servable.reads (idOf 0) 0 1).1 outside

end EventfoldDb.AcceptedFiles
