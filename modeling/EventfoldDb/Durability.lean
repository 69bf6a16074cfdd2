import EventfoldDb.DiskInvariant
import EventfoldDb.Lib.Machine

/-! Histories of several process lives. `append` and `open` are taken apart into their file
operations, and a crash between any two of them leaves some prefix of the written bytes that is
no shorter than what was synced. -/

namespace EventfoldDb.Durability
open Outcome CodecRoundTrip Recovery RecoveryLoop AppendSpec LogInvariant DiskInvariant Machine

inductive State where
  | serving (store : Store)
  /-- Inside `append`, with these bytes of the batch still to be written. -/
  | writing (store : Store) (streamId : Uuid) (recorded : List RecordedEvent) (rest : List UInt8)
  /-- Inside `append`, after `sync_all` and before the index update. -/
  | flushed (store : Store) (streamId : Uuid) (recorded : List RecordedEvent)
  | down (file : File)
  /-- Inside `truncate_and_return`, before `set_len`. -/
  | truncating (file : File) (truncateTo : Nat) (log : EventLog)
  /-- Inside `truncate_and_return`, before `sync_all`. -/
  | resized (file : File) (log : EventLog)
  /-- `open` returned an error. -/
  | failed (file : File)

inductive Step where
  | append (call : AppendCall)
  | write (count : Nat)
  /-- The next operation of the call under way. -/
  | advance
  | crash (kept : Nat)
  | reopen

def State.file : State → File
  | .serving store => store.file
  | .writing store _ _ _ => store.file
  | .flushed store _ _ => store.file
  | .down file => file
  | .truncating file _ _ => file
  | .resized file _ => file
  | .failed file => file

def State.visible : State → Option (List RecordedEvent)
  | .serving store => some store.log.events
  | .writing store _ _ _ => some store.log.events
  | .flushed store _ _ => some store.log.events
  | .down _ => none
  | .truncating _ _ _ => none
  | .resized _ _ => none
  | .failed _ => none

/-- What a crash leaves: the synced bytes and perhaps more of those written. -/
def File.afterCrash (file : File) (kept : Nat) : Option File :=
  if fits : file.synced ≤ kept ∧ kept ≤ file.bytes.length then
    some { bytes := file.bytes.take kept
           synced := file.synced
           syncedInside := by
             rw [List.length_take]
             omega }
  else none

def next (crc : Crc32fast) : Step → State → Option State
  | .append call, .serving store =>
      match prepareCall crc store.log call with
      | .error _ => some (.serving store)
      | .ok (recorded, encodedBatch) =>
          -- past the largest `off_t` the write would be an I/O error
          if store.file.bytes.length + encodedBatch.length ≤ isizeMax then
            some (.writing store call.streamId recorded encodedBatch)
          else none
  | .write count, .writing store streamId recorded rest =>
      some (.writing { store with file := store.file.write (rest.take count) } streamId recorded (rest.drop count))
  | .advance, .writing store streamId recorded [] =>
      some (.flushed { store with file := store.file.syncAll } streamId recorded)
  | .advance, .flushed store streamId recorded =>
      match store.log.extend streamId recorded with
      | .ok log => some (.serving { store with log })
      | _ => some (.down store.file)
  | .advance, .truncating file truncateTo log => some (.resized (file.setLen truncateTo) log)
  | .advance, .resized file log => some (.serving { file := file.syncAll, log })
  | .crash _, .failed _ => none
  | .crash kept, state => (File.afterCrash state.file kept).map .down
  | .reopen, .down file =>
      match recover crc file.bytes with
      | .ok (log, none) => some (.serving { file, log })
      | .ok (log, some truncateTo) => some (.truncating file truncateTo log)
      | _ => some (.failed file)
  | _, _ => none

/-! ### The steps put together are `append` and `open` -/

theorem feed_append (crc : Crc32fast) (store after : Store) (call : AppendCall) (recorded : List RecordedEvent)
    (encodedBatch : List UInt8) (prepared : prepareCall crc store.log call = .ok (recorded, encodedBatch))
    (room : store.file.bytes.length + encodedBatch.length ≤ isizeMax)
    (ran : runCall crc .none store call = (.ok recorded, after)) :
    feed (next crc) [.append call, .write encodedBatch.length, .advance, .advance] (.serving store) =
      some (.serving after) := by
  have prepared' := prepared
  unfold prepareCall at prepared'
  rw [runCall, Store.append, prepared'] at ran
  dsimp only [File.appendBatch] at ran
  cases updated : store.log.extend call.streamId recorded with
  | ok log =>
    rw [updated] at ran
    cases ran
    simp only [feed, next, prepared, if_pos room, Option.bind_some, List.take_length, List.drop_length, updated]
  | err error =>
    rw [updated] at ran
    cases ran
  | panic =>
    rw [updated] at ran
    cases ran

theorem feed_open (crc : Crc32fast) (file : File) (recovered : Store)
    (opened : (Store.open crc (some file)).1 = .ok recovered) :
    feed (next crc) [.reopen] (.down file) = some (.serving recovered) ∨
      feed (next crc) [.reopen, .advance, .advance] (.down file) = some (.serving recovered) := by
  rw [Store.open_some] at opened
  split at opened
  next log found =>
    left
    cases opened
    simp only [feed, next, found, Option.bind_some]
  next log truncateTo found =>
    right
    cases opened
    simp only [feed, next, found, Option.bind_some]
    rfl
  next => cases opened
  next => cases opened

/-! ### What holds between crashes -/

def Whole (crc : Crc32fast) (file : File) : Prop :=
  ∃ batches : List Batch, (∀ batch ∈ batches, batch.Small) ∧ file.bytes = fileBytes crc batches

/-- Batches have fewer than 2^32 events, and `open` runs on a file that is synced to its end or
that ends in the middle of a batch. -/
def Careful (crc : Crc32fast) : State → Step → Prop
  | _, .append call => call.proposedEvents.length < 2 ^ 32
  | .down file, .reopen => file.synced = file.bytes.length ∨ ¬Whole crc file
  | _, _ => True

structure Settled (crc : Crc32fast) (seen : List RecordedEvent) (batches : List Batch) (log : EventLog)
    (file : File) : Prop where
  indexes : Indexes batches log
  synced : (fileBytes crc batches).length ≤ file.synced
  fits : file.bytes.length ≤ isizeMax
  kept : seen <+: log.events

def OnDisk (crc : Crc32fast) (seen : List RecordedEvent) (file : File) : Prop :=
  ∃ batches log tail, Settled crc seen batches log file ∧ file.bytes = fileBytes crc batches ++ tail ∧
    Pending crc log tail

structure Underway (crc : Crc32fast) (seen : List RecordedEvent) (batches : List Batch) (batch : Batch) (store : Store)
    (streamId : Uuid) (recorded : List RecordedEvent) (rest : List UInt8) : Prop where
  settled : Settled crc seen batches store.log store.file
  accepts : ∃ call, Accepts store.log call batch ∧ call.streamId = streamId
  small : batch.Small
  recorded : recorded = batch.events
  bytes : store.file.bytes ++ rest = fileBytes crc batches ++ batch.encode crc
  room : store.file.bytes.length + rest.length ≤ isizeMax

def Upholds (crc : Crc32fast) (seen : List RecordedEvent) : State → Prop
  | .serving store => ∃ batches, Settled crc seen batches store.log store.file ∧
      store.file.bytes = fileBytes crc batches
  | .writing store streamId recorded rest =>
      ∃ batches batch, Underway crc seen batches batch store streamId recorded rest
  | .flushed store streamId recorded =>
      (∃ batches batch, Underway crc seen batches batch store streamId recorded []) ∧
        store.file.synced = store.file.bytes.length
  | .down file => OnDisk crc seen file
  | .truncating file truncateTo log => OnDisk crc seen file ∧ ∃ batches tail, Settled crc seen batches log file ∧
      file.bytes = fileBytes crc batches ++ tail ∧ truncateTo = (fileBytes crc batches).length
  | .resized file log => ∃ batches, Settled crc seen batches log file ∧ file.bytes = fileBytes crc batches
  | .failed _ => False

theorem Settled.onDisk {crc : Crc32fast} {seen : List RecordedEvent} {batches : List Batch} {log : EventLog}
    {file : File} (settled : Settled crc seen batches log file) (bytes : file.bytes = fileBytes crc batches) :
    OnDisk crc seen file :=
  ⟨batches, log, [], settled, by rw [List.append_nil]; exact bytes, Or.inl rfl⟩

section
variable {crc : Crc32fast} {seen : List RecordedEvent} {batches : List Batch} {batch : Batch} {store : Store}
  {streamId : Uuid} {recorded : List RecordedEvent} {rest : List UInt8}

theorem Underway.onDisk (underway : Underway crc seen batches batch store streamId recorded rest) :
    OnDisk crc seen store.file := by
  obtain ⟨call, accepts, _⟩ := underway.accepts
  have base : (fileBytes crc batches).length ≤ store.file.bytes.length :=
    Nat.le_trans underway.settled.synced store.file.syncedInside
  have parts : fileBytes crc batches ++ store.file.bytes.drop (fileBytes crc batches).length = store.file.bytes := by
    have start := congrArg (List.take (fileBytes crc batches).length) underway.bytes
    rw [List.take_left, List.take_append_of_le_length base] at start
    rw [← start, List.length_take_of_le base, List.take_append_drop]
  refine ⟨batches, store.log, _, underway.settled, parts.symm, Or.inr ⟨call, batch, accepts, underway.small, rest, ?_⟩⟩
  have whole := underway.bytes
  rw [← parts, List.append_assoc] at whole
  exact List.append_cancel_left whole

end

theorem Upholds.onDisk {crc : Crc32fast} {seen : List RecordedEvent} {state : State}
    (upholds : Upholds crc seen state) : OnDisk crc seen state.file := by
  cases state with
  | serving store =>
    obtain ⟨batches, settled, bytes⟩ := upholds
    exact settled.onDisk bytes
  | writing store streamId recorded rest =>
    obtain ⟨batches, batch, underway⟩ := upholds
    exact underway.onDisk
  | flushed store streamId recorded =>
    obtain ⟨⟨batches, batch, underway⟩, _⟩ := upholds
    exact underway.onDisk
  | down file => exact upholds
  | truncating file truncateTo log => exact upholds.1
  | resized file log =>
    obtain ⟨batches, settled, bytes⟩ := upholds
    exact settled.onDisk bytes
  | failed file => exact upholds.elim

theorem OnDisk.crash {crc : Crc32fast} {seen : List RecordedEvent} {file after : File} {kept : Nat}
    (onDisk : OnDisk crc seen file) (crashed : File.afterCrash file kept = some after) : OnDisk crc seen after := by
  obtain ⟨batches, log, tail, settled, bytes, pending⟩ := onDisk
  rw [File.afterCrash] at crashed
  split_ifs at crashed with fits
  cases crashed
  have base : (fileBytes crc batches).length ≤ kept := Nat.le_trans settled.synced fits.1
  have cut : file.bytes.take kept =
      fileBytes crc batches ++ tail.take (kept - (fileBytes crc batches).length) := by
    rw [bytes, List.take_append, List.take_of_length_le base]
  refine ⟨batches, log, _, ⟨settled.indexes, settled.synced, ?_, settled.kept⟩, cut, ?_⟩
  · have bound := settled.fits
    rw [List.length_take]
    omega
  · rcases pending with nothing | ⟨call, batch, accepts, small, inside⟩
    · rw [nothing, List.take_nil]
      exact Or.inl rfl
    · exact Or.inr ⟨call, batch, accepts, small, (List.take_prefix _ _).trans inside⟩

/-! ### One lemma per step -/

section
variable {crc : Crc32fast} {seen : List RecordedEvent}

theorem upholds_append {store : Store} {call : AppendCall} {after : State} (upholds : Upholds crc seen (.serving store))
    (counted : call.proposedEvents.length < 2 ^ 32)
    (moved : next crc (.append call) (.serving store) = some after) : Upholds crc seen after := by
  rw [next] at moved
  cases prepared : prepareCall crc store.log call with
  | error error =>
    rw [prepared] at moved
    cases moved
    exact upholds
  | ok pair =>
    obtain ⟨batch, accepts, recorded, encoded⟩ := prepareCall_ok crc store.log call pair.1 pair.2 prepared
    obtain ⟨batches, settled, bytes⟩ := upholds
    rw [prepared] at moved
    dsimp only at moved
    split_ifs at moved with room
    cases moved
    refine ⟨batches, batch, settled, ⟨call, accepts, rfl⟩, ?_, recorded, by rw [bytes, encoded], room⟩
    rw [Batch.Small, accepts.length_events]
    exact counted

theorem upholds_write {store : Store} {streamId : Uuid} {recorded : List RecordedEvent} {rest : List UInt8}
    (count : Nat) (upholds : Upholds crc seen (.writing store streamId recorded rest)) :
    Upholds crc seen (.writing { store with file := store.file.write (rest.take count) } streamId recorded
      (rest.drop count)) := by
  obtain ⟨batches, batch, underway⟩ := upholds
  have settled := underway.settled
  have total : (store.file.write (rest.take count)).bytes ++ rest.drop count = store.file.bytes ++ rest := by
    rw [File.write, List.append_assoc, List.take_append_drop]
  have room := underway.room
  have lengths := congrArg List.length total
  rw [List.length_append, List.length_append] at lengths
  refine ⟨batches, batch, ⟨settled.indexes, settled.synced, ?_, settled.kept⟩, underway.accepts, underway.small,
    underway.recorded, total.trans underway.bytes, ?_⟩
  · show (store.file.write (rest.take count)).bytes.length ≤ isizeMax
    omega
  · show (store.file.write (rest.take count)).bytes.length + (rest.drop count).length ≤ isizeMax
    omega

theorem upholds_sync {store : Store} {streamId : Uuid} {recorded : List RecordedEvent}
    (upholds : Upholds crc seen (.writing store streamId recorded [])) :
    Upholds crc seen (.flushed { store with file := store.file.syncAll } streamId recorded) := by
  obtain ⟨batches, batch, underway⟩ := upholds
  have settled := underway.settled
  have synced : (fileBytes crc batches).length ≤ store.file.bytes.length :=
    Nat.le_trans settled.synced store.file.syncedInside
  exact ⟨⟨batches, batch, ⟨settled.indexes, synced, settled.fits, settled.kept⟩, underway.accepts, underway.small,
    underway.recorded, underway.bytes, underway.room⟩, rfl⟩

/-- Only now, after the sync, the batch becomes visible. -/
theorem upholds_index {store : Store} {streamId : Uuid} {recorded : List RecordedEvent} {after : State}
    (upholds : Upholds crc seen (.flushed store streamId recorded))
    (moved : next crc .advance (.flushed store streamId recorded) = some after) : Upholds crc seen after := by
  obtain ⟨⟨batches, batch, underway⟩, synced⟩ := upholds
  obtain ⟨call, accepts, sameStream⟩ := underway.accepts
  have bytes := underway.bytes
  have fits := underway.settled.fits
  rw [List.append_nil] at bytes
  rw [next] at moved
  cases updated : store.log.extend streamId recorded with
  | ok log =>
    have logEq : log = extended store.log call.streamId batch.events := by
      rw [EventLog.extend] at updated
      split_ifs at updated
      cases updated
      rw [underway.recorded, sameStream]
      rfl
    rw [updated] at moved
    cases moved
    rw [logEq]
    refine ⟨batches ++ [batch], ⟨?_, ?_, fits, ?_⟩, bytes.trans (fileBytes_append crc batches batch).symm⟩
    · exact underway.settled.indexes.whole accepts underway.small (bytes ▸ fits)
    · rw [synced, bytes, fileBytes_append]
    · exact underway.settled.kept.trans (List.prefix_append _ _)
  | err error =>
    rw [updated] at moved
    cases moved
    exact underway.onDisk
  | panic =>
    rw [updated] at moved
    cases moved
    exact underway.onDisk

theorem upholds_setLen {file : File} {truncateTo : Nat} {log : EventLog}
    (upholds : Upholds crc seen (.truncating file truncateTo log)) :
    Upholds crc seen (.resized (file.setLen truncateTo) log) := by
  obtain ⟨_, batches, tail, settled, bytes, cut⟩ := upholds
  have shortened : (file.setLen truncateTo).bytes = fileBytes crc batches := by
    have kept := truncateAndReturn_bytes file (fileBytes crc batches) tail log bytes
    rw [cut]
    exact kept
  refine ⟨batches, ⟨settled.indexes, ?_, ?_, settled.kept⟩, shortened⟩
  · have synced := settled.synced
    show (fileBytes crc batches).length ≤ min file.synced truncateTo
    omega
  · have bound := settled.fits
    rw [bytes, List.length_append] at bound
    rw [shortened]
    omega

theorem upholds_syncCut {file : File} {log : EventLog} (upholds : Upholds crc seen (.resized file log)) :
    Upholds crc seen (.serving { file := file.syncAll, log }) := by
  obtain ⟨batches, settled, bytes⟩ := upholds
  exact ⟨batches, ⟨settled.indexes, Nat.le_trans settled.synced file.syncedInside, settled.fits, settled.kept⟩, bytes⟩

theorem upholds_clean {file : File} {batches : List Batch} {log : EventLog} {after : State}
    (settled : Settled crc seen batches log file) (bytes : file.bytes = fileBytes crc batches)
    (moved : next crc .reopen (.down file) = some after) : Upholds crc seen after := by
  rw [next, bytes, recover_intact crc batches settled.indexes.small] at moved
  cases moved
  refine ⟨batches, ⟨settled.indexes.recovered, settled.synced, settled.fits, ?_⟩, bytes⟩
  have kept := settled.kept
  rw [settled.indexes.events] at kept
  rw [settled.indexes.recovered.events]
  exact kept

theorem upholds_open {file : File} {after : State} (onDisk : OnDisk crc seen file)
    (careful : file.synced = file.bytes.length ∨ ¬Whole crc file)
    (moved : next crc .reopen (.down file) = some after) : Upholds crc seen after := by
  obtain ⟨batches, log, tail, settled, bytes, pending⟩ := onDisk
  have indexes := settled.indexes
  rcases pending.torn_or_whole with torn | ⟨call, batch, accepts, small, whole⟩
  · rcases torn with nothing | ⟨batch, kept, small, started, short, tailEq⟩
    · rw [nothing, List.append_nil] at bytes
      exact upholds_clean settled bytes moved
    · have cut := recover_cut crc batches indexes.small batch small kept started short
      rw [← tailEq, ← bytes] at cut
      rw [next, cut] at moved
      cases moved
      refine ⟨⟨batches, log, tail, settled, bytes, pending⟩, batches, tail, ?_, bytes, rfl⟩
      refine ⟨indexes.recovered, settled.synced, settled.fits, ?_⟩
      rw [indexes.recovered.events, ← indexes.events]
      exact settled.kept
  · rw [whole] at bytes
    have more := indexes.whole accepts small (bytes ▸ settled.fits)
    rw [← fileBytes_append] at bytes
    -- the file ends with a whole batch, so it has to be synced already
    have synced : file.synced = file.bytes.length := careful.resolve_right (not_not_intro ⟨_, more.small, bytes⟩)
    have settledMore : Settled crc seen (batches ++ [batch]) (extended log call.streamId batch.events) file :=
      ⟨more, by rw [synced, bytes], settled.fits, settled.kept.trans (List.prefix_append _ _)⟩
    exact upholds_clean settledMore bytes moved

end

theorem upholds_next (crc : Crc32fast) (seen : List RecordedEvent) (state : State) (step : Step) (after : State)
    (upholds : Upholds crc seen state) (careful : Careful crc state step) (moved : next crc step state = some after) :
    Upholds crc seen after := by
  cases step with
  | append call =>
    cases state with
    | serving store => exact upholds_append upholds careful moved
    | _ => cases moved
  | write count =>
    cases state with
    | writing store streamId recorded rest =>
      cases moved
      exact upholds_write count upholds
    | _ => cases moved
  | advance =>
    cases state with
    | writing store streamId recorded rest =>
      cases rest with
      | nil =>
        cases moved
        exact upholds_sync upholds
      | cons byte rest => cases moved
    | flushed store streamId recorded => exact upholds_index upholds moved
    | truncating file truncateTo log =>
      cases moved
      exact upholds_setLen upholds
    | resized file log =>
      cases moved
      exact upholds_syncCut upholds
    | _ => cases moved
  | crash kept =>
    have onDisk := upholds.onDisk
    cases state with
    | failed file => exact upholds.elim
    | _ =>
      obtain ⟨file, crashed, same⟩ := Option.map_eq_some_iff.mp moved
      rw [← same]
      exact onDisk.crash crashed
  | reopen =>
    cases state with
    | down file => exact upholds_open upholds careful moved
    | _ => cases moved

/-! ### Whole histories -/

def State.start : State := .serving Store.create

theorem upholds_start (crc : Crc32fast) : Upholds crc [] State.start :=
  ⟨[], ⟨indexes_empty, Nat.le_refl _, by decide, List.nil_prefix⟩, (holds_create crc).bytes⟩

theorem Upholds.visible {crc : Crc32fast} {seen events : List RecordedEvent} {state : State}
    (upholds : Upholds crc seen state) (visible : state.visible = some events) :
    seen <+: events ∧ Upholds crc events state := by
  have again : ∀ {batches : List Batch} {log : EventLog} {file : File}, Settled crc seen batches log file →
      Settled crc log.events batches log file :=
    fun settled => ⟨settled.indexes, settled.synced, settled.fits, List.prefix_refl _⟩
  cases state with
  | serving store =>
    cases visible
    obtain ⟨batches, settled, bytes⟩ := upholds
    exact ⟨settled.kept, batches, again settled, bytes⟩
  | writing store streamId recorded rest =>
    cases visible
    obtain ⟨batches, batch, underway⟩ := upholds
    exact ⟨underway.settled.kept, batches, batch, { underway with settled := again underway.settled }⟩
  | flushed store streamId recorded =>
    cases visible
    obtain ⟨⟨batches, batch, underway⟩, synced⟩ := upholds
    exact ⟨underway.settled.kept, ⟨batches, batch, { underway with settled := again underway.settled }⟩, synced⟩
  | _ => cases visible

/-! ### One event, appended on a fresh log -/

def onlyBytes : List UInt8 := firstBatch.encode Crc32fast.ieee

theorem onlyBytes_fit : Store.create.file.bytes.length + onlyBytes.length ≤ isizeMax := by
  have size : onlyBytes.length ≤ 24 + 1 * maxEventSize := length_firstBatch_le Crc32fast.ieee
  have header : Store.create.file.bytes.length = 8 := length_encodeHeader
  simp only [maxEventSize] at size
  rw [isizeMax]
  omega

theorem next_begin :
    next Crc32fast.ieee (.append (plainCall 0 .any [1])) State.start =
      some (.writing Store.create (idOf 0) firstBatch.events onlyBytes) := by
  have prepared : prepareCall Crc32fast.ieee Store.create.log (plainCall 0 .any [1]) =
      .ok (firstBatch.events, onlyBytes) := prepareCall_accepts Crc32fast.ieee firstBatch_accepted
  rw [State.start, next, prepared]
  exact if_pos onlyBytes_fit

theorem next_write :
    next Crc32fast.ieee (.write onlyBytes.length) (.writing Store.create (idOf 0) firstBatch.events onlyBytes) =
      some (.writing { Store.create with file := Store.create.file.write onlyBytes } (idOf 0) firstBatch.events []) := by
  rw [next, List.take_length, List.drop_length]

theorem afterCrash_of_le (file : File) (kept : Nat) (least : file.synced ≤ kept) (most : kept ≤ file.bytes.length) :
    ∃ after, File.afterCrash file kept = some after ∧ after.bytes = file.bytes.take kept ∧
      after.synced = file.synced := by
  rw [File.afterCrash, dif_pos ⟨least, most⟩]
  exact ⟨_, rfl, rfl, rfl⟩

theorem next_crash (crc : Crc32fast) (state : State) (kept : Nat) (after : File) (alive : ∀ file, state ≠ .failed file)
    (crashed : File.afterCrash state.file kept = some after) : next crc (.crash kept) state = some (.down after) := by
  cases state with
  | failed file => exact absurd rfl (alive file)
  | _ => exact congrArg (Option.map State.down) crashed

theorem next_reopen_batches (crc : Crc32fast) (file : File) (batches : List Batch)
    (small : ∀ batch ∈ batches, batch.Small) (bytes : file.bytes = fileBytes crc batches) :
    next crc .reopen (.down file) =
      some (.serving { file, log := EventLog.empty.commit (eventsOf batches) }) := by
  rw [next, bytes, recover_intact crc batches small]

theorem firstBatch_all_small : ∀ batch ∈ [firstBatch], Batch.Small batch := by
  intro batch member
  rw [List.mem_singleton.mp member]
  exact firstBatch_small

theorem firstBatch_file : Store.create.file.bytes ++ onlyBytes = fileBytes Crc32fast.ieee [firstBatch] := by
  rw [fileBytes, encodeAll_cons]
  exact congrArg (encodeHeader ++ ·) (List.append_nil onlyBytes).symm

/-- If every reopen finds a synced file or a torn one, no reopen fails and nothing that was ever
visible is lost, over any number of crashes. -/
theorem visible_persists (crc : Crc32fast) (earlier later : State)
    (before : Reaches (next crc) (Careful crc) State.start earlier)
    (after : Reaches (next crc) (Careful crc) earlier later) :
    (∀ file, later ≠ .failed file) ∧
      ∀ seen now, earlier.visible = some seen → later.visible = some now → seen <+: now := by
  have first := before.invariant (Upholds crc []) (upholds_start crc) (upholds_next crc [])
  constructor
  · intro file same
    have last := after.invariant (Upholds crc []) first (upholds_next crc [])
    rw [same] at last
    exact last
  · intro seen now wasVisible isVisible
    have last := after.invariant (Upholds crc seen) (first.visible wasVisible).2 (upholds_next crc seen)
    exact (last.visible isVisible).1

theorem visible_persists_one_crash :
    ∃ earlier later, Reaches (next Crc32fast.ieee) (Careful Crc32fast.ieee) State.start earlier ∧
      Reaches (next Crc32fast.ieee) (Careful Crc32fast.ieee) earlier later ∧
      earlier.visible = some firstBatch.events ∧ later.visible = some firstBatch.events ∧
      ∀ seen now, earlier.visible = some seen → later.visible = some now → seen <+: now := by
  let written : Store := { Store.create with file := (Store.create.file.write onlyBytes).syncAll }
  let served : Store := { written with log := extended EventLog.empty (idOf 0) firstBatch.events }
  have bytes : served.file.bytes = fileBytes Crc32fast.ieee [firstBatch] := firstBatch_file
  have before : Reaches (next Crc32fast.ieee) (Careful Crc32fast.ieee) State.start (.serving served) := by
    refine .head ⟨.append (plainCall 0 .any [1]), (by decide : [plainEvent 1].length < 2 ^ 32), next_begin⟩ ?_
    refine .head ⟨.write onlyBytes.length, trivial, next_write⟩ ?_
    refine .head ⟨.advance, trivial, rfl⟩ ?_
    exact .single ⟨.advance, trivial, rfl⟩
  obtain ⟨file, crashed, kept, synced⟩ := afterCrash_of_le served.file served.file.bytes.length (Nat.le_refl _)
    (Nat.le_refl _)
  rw [List.take_length] at kept
  have after : Reaches (next Crc32fast.ieee) (Careful Crc32fast.ieee) (.serving served)
      (.serving { file, log := EventLog.empty.commit (eventsOf [firstBatch]) }) := by
    refine .head ⟨.crash served.file.bytes.length, trivial, next_crash _ _ _ file (by simp) crashed⟩ ?_
    exact .single ⟨.reopen, .inl (by rw [synced, kept]; rfl),
      next_reopen_batches Crc32fast.ieee file [firstBatch] firstBatch_all_small (kept.trans bytes)⟩
  exact ⟨_, _, before, after, rfl, rfl, (visible_persists Crc32fast.ieee _ _ before after).2⟩

/-- A crash before `sync_all` leaves a whole batch, which the next life shows; a second crash
takes it away. -/
theorem visible_lost_by_second_crash :
    ∃ earlier later,
      feed (next Crc32fast.ieee) [.append (plainCall 0 .any [1]), .write onlyBytes.length,
        .crash (8 + onlyBytes.length), .reopen] State.start = some earlier ∧
      feed (next Crc32fast.ieee) [.crash 8, .reopen] earlier = some later ∧
      earlier.visible = some firstBatch.events ∧ later.visible = some [] ∧
      ¬∀ seen now, earlier.visible = some seen → later.visible = some now → seen <+: now := by
  have header : Store.create.file.bytes.length = 8 := length_encodeHeader
  have written : (Store.create.file.write onlyBytes).bytes.length = 8 + onlyBytes.length := by
    rw [File.write, List.length_append, header]
  obtain ⟨first, firstCrash, firstBytes, firstSynced⟩ := afterCrash_of_le (Store.create.file.write onlyBytes)
    (8 + onlyBytes.length) (Nat.le_add_right 8 _) (Nat.le_of_eq written.symm)
  rw [← written, List.take_length] at firstBytes
  have firstSynced' : first.synced = 8 := firstSynced
  obtain ⟨second, secondCrash, secondBytes, _⟩ := afterCrash_of_le first 8 (Nat.le_of_eq firstSynced') (by
    rw [firstBytes, written]
    omega)
  have shown := next_reopen_batches Crc32fast.ieee first [firstBatch] firstBatch_all_small (firstBytes.trans firstBatch_file)
  have cut : second.bytes = fileBytes Crc32fast.ieee [] := by
    rw [secondBytes, firstBytes, File.write, List.take_left' header]
    exact (holds_create Crc32fast.ieee).bytes
  have crashes := next_crash Crc32fast.ieee
    (.writing { Store.create with file := Store.create.file.write onlyBytes } (idOf 0) firstBatch.events [])
    (8 + onlyBytes.length) first (by simp) firstCrash
  have crashesAgain := next_crash Crc32fast.ieee
    (.serving { file := first, log := EventLog.empty.commit (eventsOf [firstBatch]) }) 8 second (by simp) secondCrash
  have gone := next_reopen_batches Crc32fast.ieee second [] (by simp) cut
  refine ⟨.serving { file := first, log := EventLog.empty.commit (eventsOf [firstBatch]) },
    .serving { file := second, log := EventLog.empty.commit (eventsOf []) }, ?_, ?_, rfl, rfl, ?_⟩
  · rw [feed, next_begin, Option.bind_some, feed, next_write, Option.bind_some, feed, crashes, Option.bind_some, feed,
      shown, Option.bind_some, feed]
  · rw [feed, crashesAgain, Option.bind_some, feed, gone, Option.bind_some, feed]
  · intro property
    have short : firstBatch.events.length ≤ 0 := (property firstBatch.events [] rfl rfl).length_le
    rw [firstBatch, length_plainBatch] at short
    exact absurd short (by decide)

end EventfoldDb.Durability
