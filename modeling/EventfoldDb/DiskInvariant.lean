import EventfoldDb.LogInvariant

/-! The file and the index describe the same batches. An accepted append extends both by
one batch, and a clean reopen changes neither. -/

namespace EventfoldDb.DiskInvariant
open Outcome CodecRoundTrip Recovery RecoveryLoop AppendSpec LogInvariant Numbering

/-- Every batch header announces the number of events before its batch. -/
def Placed : Nat → List Batch → Prop
  | _, [] => True
  | count, batch :: batches => batch.first = UInt64.ofNat count ∧ Placed (count + batch.events.length) batches

theorem placed_append (count : Nat) (batches : List Batch) (batch : Batch) (placed : Placed count batches)
    (next : batch.first = UInt64.ofNat (count + (eventsOf batches).length)) : Placed count (batches ++ [batch]) := by
  induction batches generalizing count with
  | nil => exact ⟨next, trivial⟩
  | cons first batches ih =>
    refine ⟨placed.1, ih _ placed.2 ?_⟩
    rw [next, eventsOf, List.flatMap_cons, List.length_append, ← Nat.add_assoc, eventsOf]

def encodeFrom (crc : Crc32fast) : Nat → List (List RecordedEvent) → List UInt8
  | _, [] => []
  | count, events :: rest =>
      encodeBatch crc events.length (UInt64.ofNat count) (events.flatMap (encodeRecord crc)) ++
        encodeFrom crc (count + events.length) rest

theorem encodeAll_eq_encodeFrom (crc : Crc32fast) (count : Nat) (batches : List Batch)
    (placed : Placed count batches) : encodeAll crc batches = encodeFrom crc count (batches.map Batch.events) := by
  induction batches generalizing count with
  | nil => rfl
  | cons batch batches ih =>
    have head : batch.encode crc = encodeBatch crc batch.events.length (UInt64.ofNat count)
        (batch.events.flatMap (encodeRecord crc)) := by
      rw [Batch.encode, placed.1, recordBytes]
    rw [List.map_cons, encodeFrom, ← ih _ placed.2, ← head, encodeAll, encodeAll, List.flatMap_cons]

theorem eventsOf_append (first second : List Batch) : eventsOf (first ++ second) = eventsOf first ++ eventsOf second :=
  List.flatMap_append ..

theorem eventsOf_singleton (batch : Batch) : eventsOf [batch] = batch.events := by
  rw [eventsOf, List.flatMap_cons, List.flatMap_nil, List.append_nil]

theorem fileBytes_append (crc : Crc32fast) (batches : List Batch) (batch : Batch) :
    fileBytes crc (batches ++ [batch]) = fileBytes crc batches ++ batch.encode crc := by
  rw [fileBytes, encodeAll, List.flatMap_append, List.flatMap_cons, List.flatMap_nil, List.append_nil,
    ← List.append_assoc, fileBytes, encodeAll]

theorem fileBytes_split (crc : Crc32fast) (first rest : List Batch) (batch : Batch) :
    fileBytes crc (first ++ batch :: rest) = fileBytes crc first ++ (batch.encode crc ++ encodeAll crc rest) := by
  rw [fileBytes, encodeAll, List.flatMap_append, ← encodeAll, ← encodeAll, encodeAll_cons, fileBytes,
    List.append_assoc]

structure Indexes (batches : List Batch) (log : EventLog) : Prop where
  events : log.events = eventsOf batches
  placed : Placed 0 batches
  small : ∀ batch ∈ batches, batch.Small
  wellFormed : WellFormed log

structure Holds (crc : Crc32fast) (batches : List Batch) (store : Store) : Prop extends
    Indexes batches store.log where
  bytes : store.file.bytes = fileBytes crc batches

theorem indexes_empty : Indexes [] EventLog.empty where
  events := rfl
  placed := trivial
  small := by simp
  wellFormed := wellFormed_empty

theorem holds_create (crc : Crc32fast) : Holds crc [] Store.create where
  toIndexes := indexes_empty
  bytes := by simp [Store.create, fileBytes, encodeAll]

theorem Indexes.append {batches : List Batch} {log : EventLog} {call : AppendCall} {batch : Batch}
    (indexes : Indexes batches log) (accepts : Accepts log call batch)
    (fits : log.events.length + batch.events.length ≤ isizeMax) (small : batch.Small) :
    Indexes (batches ++ [batch]) (extended log call.streamId batch.events) where
  events := by
    rw [eventsOf_append, eventsOf_singleton, ← indexes.events]
    rfl
  placed := by
    apply placed_append 0 batches batch indexes.placed
    rw [accepts.first, EventLog.nextGlobal, indexes.events, Nat.zero_add]
  small := by
    intro other member
    rcases List.mem_append.mp member with old | new
    · exact indexes.small other old
    · rw [List.mem_singleton.mp new]
      exact small
  wellFormed := (Accepts.continues indexes.wellFormed accepts fits).wellFormed indexes.wellFormed fits

theorem Indexes.recovered {batches : List Batch} {log : EventLog} (indexes : Indexes batches log) :
    Indexes batches (EventLog.empty.commit (eventsOf batches)) where
  events := by rw [commit_events, EventLog.empty, List.nil_append]
  placed := indexes.placed
  small := indexes.small
  wellFormed := by
    rw [← indexes.events]
    exact indexes.wellFormed.recovered (List.prefix_refl _)

def Store.withBatch (crc : Crc32fast) (store : Store) (streamId : Uuid) (batch : Batch) : Store where
  file := (store.file.write (batch.encode crc)).syncAll
  log := extended store.log streamId batch.events

theorem Holds.append {crc : Crc32fast} {batches : List Batch} {store : Store} {call : AppendCall} {batch : Batch}
    (holds : Holds crc batches store) (accepts : Accepts store.log call batch)
    (fits : store.log.events.length + batch.events.length ≤ isizeMax) (small : batch.Small) :
    Holds crc (batches ++ [batch]) (Store.withBatch crc store call.streamId batch) where
  toIndexes := holds.toIndexes.append accepts fits small
  bytes := by
    rw [fileBytes_append, ← holds.bytes]
    rfl

theorem length_eventsOf_le (crc : Crc32fast) (batches : List Batch) :
    (eventsOf batches).length ≤ (fileBytes crc batches).length := by
  have records : ∀ events : List RecordedEvent, events.length ≤ (recordBytes crc events).length := by
    intro events
    induction events with
    | nil => exact Nat.zero_le _
    | cons event events ih =>
      rw [recordBytes, List.flatMap_cons, List.length_append, length_encodeRecord, ← recordBytes, List.length_cons,
        recordSize, lengthPrefixSize]
      omega
  induction batches with
  | nil => exact Nat.zero_le _
  | cons batch batches ih =>
    have head := records batch.events
    have size := length_encode crc batch
    simp only [fileBytes, encodeAll, eventsOf, List.flatMap_cons, List.length_append] at ih ⊢
    omega

/-- What an interrupted append can leave behind the last whole batch. -/
def Torn (crc : Crc32fast) (tail : List UInt8) : Prop :=
  tail = [] ∨ ∃ batch kept, Batch.Small batch ∧ 0 < kept ∧ kept < (batch.encode crc).length ∧
    tail = (batch.encode crc).take kept

theorem torn_take (crc : Crc32fast) (batch : Batch) (small : batch.Small) (kept : Nat)
    (short : kept < (batch.encode crc).length) : Torn crc ((batch.encode crc).take kept) := by
  by_cases started : 0 < kept
  · exact .inr ⟨batch, kept, small, started, short, rfl⟩
  · left
    rw [Nat.eq_zero_of_not_pos started, List.take_zero]

def cutBehind (crc : Crc32fast) (batches : List Batch) (file : File) : Store :=
  truncateAndReturn file (fileBytes crc batches).length (EventLog.empty.commit (eventsOf batches))

theorem cutBehind_bytes {crc : Crc32fast} {batches : List Batch} {file : File} {tail : List UInt8}
    (bytes : file.bytes = fileBytes crc batches ++ tail) :
    (cutBehind crc batches file).file.bytes = fileBytes crc batches :=
  truncateAndReturn_bytes file _ tail _ bytes

section
variable {crc : Crc32fast} {batches : List Batch} (small : ∀ batch ∈ batches, batch.Small) {file : File}
include small

theorem open_clean (bytes : file.bytes = fileBytes crc batches) :
    Store.open crc (some file) = (ok { file, log := EventLog.empty.commit (eventsOf batches) }, some file) := by
  rw [Store.open_some, bytes, recover_intact crc batches small]

theorem open_at_torn {tail : List UInt8} (bytes : file.bytes = fileBytes crc batches ++ tail) (present : tail ≠ [])
    (torn : ∀ validEvents, readBatch crc (fileBytes crc batches ++ tail) (fileBytes crc batches).length validEvents =
      ok none) :
    Store.open crc (some file) = (ok (cutBehind crc batches file), some (cutBehind crc batches file).file) := by
  rw [Store.open_some, bytes, recover_torn crc batches small tail present torn]
  rfl

theorem open_cut {tail : List UInt8} (bytes : file.bytes = fileBytes crc batches ++ tail) (torn : Torn crc tail)
    (present : tail ≠ []) :
    Store.open crc (some file) = (ok (cutBehind crc batches file), some (cutBehind crc batches file).file) := by
  rcases torn with empty | ⟨batch, kept, batchSmall, started, short, tailEq⟩
  · exact absurd empty present
  · rw [Store.open_some, bytes, tailEq, recover_cut crc batches small batch batchSmall kept started short]
    rfl

/-- A batch of 2^32 events or more has a wrapped count in its header and is cut off as well,
although all of it is there. -/
theorem open_oversize {batch : Batch} (large : ¬batch.Small) (rest : List UInt8)
    (bytes : file.bytes = fileBytes crc batches ++ (batch.encode crc ++ rest)) :
    Store.open crc (some file) = (ok (cutBehind crc batches file), some (cutBehind crc batches file).file) := by
  apply open_at_torn small bytes
  · apply List.ne_nil_of_length_pos
    rw [List.length_append, length_encode]
    omega
  · intro validEvents
    exact readBatch_oversize crc batch large _ rest _ validEvents (by simp) List.drop_left

end

theorem exists_first_large (batches : List Batch) (some_large : ¬∀ batch ∈ batches, batch.Small) :
    ∃ first large rest, batches = first ++ large :: rest ∧ (∀ batch ∈ first, batch.Small) ∧ ¬Batch.Small large := by
  induction batches with
  | nil => exact absurd (by simp) some_large
  | cons batch batches ih =>
    by_cases small : batch.Small
    · have rest_large : ¬∀ other ∈ batches, other.Small := by
        intro rest
        exact some_large (List.forall_mem_cons.mpr ⟨small, rest⟩)
      obtain ⟨first, large, rest, split, firstSmall, notSmall⟩ := ih rest_large
      exact ⟨batch :: first, large, rest, by rw [split, List.cons_append],
        List.forall_mem_cons.mpr ⟨small, firstSmall⟩, notSmall⟩
    · exact ⟨[], batch, batches, rfl, by simp, small⟩

theorem open_batches {crc : Crc32fast} {batches : List Batch} {file : File}
    (bytes : file.bytes = fileBytes crc batches) :
    ∃ kept recovered, kept <+: batches ∧ Store.open crc (some file) = (ok recovered, some recovered.file) ∧
      recovered.file.bytes = fileBytes crc kept ∧ recovered.log = EventLog.empty.commit (eventsOf kept) := by
  by_cases small : ∀ batch ∈ batches, batch.Small
  · exact ⟨batches, _, List.prefix_refl _, open_clean small bytes, bytes, rfl⟩
  · obtain ⟨first, large, rest, split, firstSmall, notSmall⟩ := exists_first_large batches small
    rw [split, fileBytes_split] at bytes
    refine ⟨first, _, ?_, open_oversize firstSmall notSmall _ bytes, cutBehind_bytes bytes, rfl⟩
    rw [split]
    exact List.prefix_append _ _

theorem open_first_oversize (crc : Crc32fast) (streamId : Uuid) {batch : Batch} (large : ¬batch.Small) :
    Store.open crc (some (Store.withBatch crc Store.create streamId batch).file) =
      (ok (cutBehind crc [] (Store.withBatch crc Store.create streamId batch).file),
        some (cutBehind crc [] (Store.withBatch crc Store.create streamId batch).file).file) := by
  have bytes : (Store.withBatch crc Store.create streamId batch).file.bytes =
      fileBytes crc [] ++ (batch.encode crc ++ []) := by
    rw [fileBytes, encodeAll, List.flatMap_nil, List.append_nil, List.append_nil]
    rfl
  exact open_oversize (by simp) large [] bytes

theorem Indexes.open_torn {crc : Crc32fast} {batches : List Batch} {log : EventLog} {file : File} {tail : List UInt8}
    (indexes : Indexes batches log) (bytes : file.bytes = fileBytes crc batches ++ tail) (torn : Torn crc tail) :
    ∃ recovered, Store.open crc (some file) = (ok recovered, some recovered.file) ∧ Holds crc batches recovered ∧
      recovered.log = EventLog.empty.commit (eventsOf batches) := by
  by_cases empty : tail = []
  · rw [empty, List.append_nil] at bytes
    exact ⟨_, open_clean indexes.small bytes, ⟨indexes.recovered, bytes⟩, rfl⟩
  · refine ⟨_, open_cut indexes.small bytes torn empty, ⟨indexes.recovered, ?_⟩, rfl⟩
    exact cutBehind_bytes bytes

/-- What is on disk of an append that has not finished on this log, if there is one. -/
def Pending (crc : Crc32fast) (log : EventLog) (tail : List UInt8) : Prop :=
  tail = [] ∨ ∃ call batch, Accepts log call batch ∧ Batch.Small batch ∧ tail <+: batch.encode crc

theorem Pending.torn_or_whole {crc : Crc32fast} {log : EventLog} {tail : List UInt8} (pending : Pending crc log tail) :
    Torn crc tail ∨ ∃ call batch, Accepts log call batch ∧ Batch.Small batch ∧ tail = batch.encode crc := by
  rcases pending with nothing | ⟨call, batch, accepts, small, inside⟩
  · exact .inl (.inl nothing)
  have taken := List.prefix_iff_eq_take.mp inside
  by_cases short : tail.length < (batch.encode crc).length
  · left
    rw [taken]
    exact torn_take crc batch small tail.length short
  · right
    exact ⟨call, batch, accepts, small, inside.eq_of_length (Nat.le_antisymm inside.length_le (Nat.le_of_not_lt short))⟩

theorem Indexes.whole {crc : Crc32fast} {batches : List Batch} {log : EventLog} {call : AppendCall} {batch : Batch}
    (indexes : Indexes batches log) (accepts : Accepts log call batch) (small : batch.Small)
    (fits : (fileBytes crc batches ++ batch.encode crc).length ≤ isizeMax) :
    Indexes (batches ++ [batch]) (extended log call.streamId batch.events) := by
  apply indexes.append accepts _ small
  have bound := length_eventsOf_le crc (batches ++ [batch])
  rw [eventsOf_append, eventsOf_singleton, List.length_append, ← indexes.events, fileBytes_append] at bound
  omega

theorem Indexes.open_pending {crc : Crc32fast} {batches : List Batch} {log : EventLog} {file : File}
    {tail : List UInt8} (indexes : Indexes batches log) (bytes : file.bytes = fileBytes crc batches ++ tail)
    (pending : Pending crc log tail) (fits : file.bytes.length ≤ isizeMax) :
    ∃ recovered batches', Store.open crc (some file) = (ok recovered, some recovered.file) ∧
      Holds crc batches' recovered ∧ log.events <+: recovered.log.events ∧
      recovered.file.bytes <+: file.bytes := by
  rcases pending.torn_or_whole with torn | ⟨call, batch, accepts, small, whole⟩
  · obtain ⟨recovered, opened, holds, _⟩ := indexes.open_torn bytes torn
    refine ⟨recovered, batches, opened, holds, by rw [indexes.events, holds.events], ?_⟩
    rw [holds.bytes, bytes]
    exact List.prefix_append _ _
  · rw [whole] at bytes
    have more := indexes.whole accepts small (bytes ▸ fits)
    rw [← fileBytes_append] at bytes
    refine ⟨_, batches ++ [batch], open_clean more.small bytes, ⟨more.recovered, bytes⟩, ?_, List.prefix_refl _⟩
    rw [more.recovered.events, eventsOf_append, ← indexes.events]
    exact List.prefix_append _ _

/-- An index that recovery would rebuild exactly: no stream was registered by an empty batch. -/
def Canonical (log : EventLog) : Prop := log = EventLog.empty.commit log.events

theorem Canonical.lookup {log : EventLog} (canonical : Canonical log) (streamId : Uuid) :
    log.streams.lookup streamId = if streamEvents streamId log.events = [] then none
      else some ((streamEvents streamId log.events).map (·.globalPosition)) := by
  have rebuilt := lookup_recovered log.events streamId
  rwa [← canonical] at rebuilt

theorem Canonical.extended {log : EventLog} {streamId : Uuid} {recorded : List RecordedEvent}
    (canonical : Canonical log) (present : recorded ≠ [])
    (stream : ∀ event ∈ recorded, event.streamId = streamId) :
    Canonical (extended log streamId recorded) := by
  have both : AppendSpec.extended log streamId recorded =
      EventLog.empty.commit (log.events ++ recorded) := by
    rw [← commit_eq_extended log streamId recorded present stream, ← commit_append, ← canonical]
  exact both

end EventfoldDb.DiskInvariant
