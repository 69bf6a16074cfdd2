import EventfoldDb.BatchGrammar

/-! The whole recovery: the loop over a file of whole batches, and what `open` makes of a
file that ends cleanly, ends inside a batch, or is damaged in the middle. -/

namespace EventfoldDb.RecoveryLoop
open LittleEndian Outcome CodecRoundTrip Recovery BatchGrammar

section
variable (platform : Platform) (crc : Crc32fast) (data : List UInt8) (offset : Nat) (log : EventLog)

theorem recoverLoopOn_atEnd : recoverLoopOn platform crc data data.length log = ok (log, none) := by
  rw [recoverLoopOn, if_neg (Nat.lt_irrefl _), dif_pos rfl]

theorem recoverLoopOn_take (batchEvents : List RecordedEvent) (next : Nat) (inside : offset < data.length)
    (read : readBatchOn platform crc data offset log.events.length = ok (some (batchEvents, next))) :
    recoverLoopOn platform crc data offset log = recoverLoopOn platform crc data next (log.commit batchEvents) := by
  rw [recoverLoopOn, if_neg (by omega), dif_neg (by omega)]
  split
  next taken => rw [read] at taken; cases taken; rfl
  next torn => rw [read] at torn; cases torn
  next failed => rw [read] at failed; cases failed
  next panicked => rw [read] at panicked; cases panicked

theorem recoverLoopOn_torn (inside : offset < data.length)
    (read : readBatchOn platform crc data offset log.events.length = ok none) :
    recoverLoopOn platform crc data offset log = ok (log, some offset) := by
  rw [recoverLoopOn, if_neg (by omega), dif_neg (by omega)]
  split
  next taken => rw [read] at taken; cases taken
  next torn => rfl
  next failed => rw [read] at failed; cases failed
  next panicked => rw [read] at panicked; cases panicked

theorem recoverLoopOn_failed (error : Error) (inside : offset < data.length)
    (read : readBatchOn platform crc data offset log.events.length = err error) :
    recoverLoopOn platform crc data offset log = err error := by
  rw [recoverLoopOn, if_neg (by omega), dif_neg (by omega)]
  split
  next taken => rw [read] at taken; cases taken
  next torn => rw [read] at torn; cases torn
  next failed => rw [read] at failed; cases failed; rfl
  next panicked => rw [read] at panicked; cases panicked

theorem recoverLoopOn_panicked (inside : offset < data.length)
    (read : readBatchOn platform crc data offset log.events.length = panic) :
    recoverLoopOn platform crc data offset log = panic := by
  rw [recoverLoopOn, if_neg (by omega), dif_neg (by omega)]
  split
  next taken => rw [read] at taken; cases taken
  next torn => rw [read] at torn; cases torn
  next failed => rw [read] at failed; cases failed
  next panicked => rfl

end

section
variable (crc : Crc32fast) (data : List UInt8) (offset : Nat) (log : EventLog)

theorem recoverLoop_atEnd : recoverLoop crc data data.length log = ok (log, none) := recoverLoopOn_atEnd ..

theorem recoverLoop_take (batchEvents : List RecordedEvent) (next : Nat) (inside : offset < data.length)
    (read : readBatch crc data offset log.events.length = ok (some (batchEvents, next))) :
    recoverLoop crc data offset log = recoverLoop crc data next (log.commit batchEvents) :=
  recoverLoopOn_take .ample crc data offset log batchEvents next inside read

theorem recoverLoop_torn (inside : offset < data.length)
    (read : readBatch crc data offset log.events.length = ok none) :
    recoverLoop crc data offset log = ok (log, some offset) :=
  recoverLoopOn_torn .ample crc data offset log inside read

theorem recoverLoop_failed (error : Error) (inside : offset < data.length)
    (read : readBatch crc data offset log.events.length = err error) :
    recoverLoop crc data offset log = err error :=
  recoverLoopOn_failed .ample crc data offset log error inside read

end

/-- Whatever bytes follow: the loop ends with an index, cut or not, or reports corruption. -/
theorem recoverLoop_ends (crc : Crc32fast) (data : List UInt8) (offset : Nat) (log : EventLog)
    (inside : offset ≤ data.length) :
    (∃ recovered, recoverLoop crc data offset log = ok (recovered, none)) ∨
    (∃ recovered cut, recoverLoop crc data offset log = ok (recovered, some cut) ∧ offset ≤ cut ∧ cut ≤ data.length) ∨
    ∃ position detail, recoverLoop crc data offset log = err (.corruptRecord position detail) := by
  induction left : data.length - offset using Nat.strong_induction_on generalizing offset log with
  | _ remaining ih =>
    by_cases atEnd : offset = data.length
    · rw [atEnd]
      exact .inl ⟨log, recoverLoop_atEnd crc data log⟩
    have before : offset < data.length := Nat.lt_of_le_of_ne inside atEnd
    rcases readBatch_ends crc data offset log.events.length inside with ⟨result, read, bound⟩ | ⟨position, detail, read⟩
    · cases result with
      | none => exact .inr (.inl ⟨log, offset, recoverLoop_torn crc data offset log before read, Nat.le_refl _, inside⟩)
      | some pair =>
        have moved := readBatch_next crc data offset _ pair.2 pair.1 read
        have within := bound pair.1 pair.2 rfl
        rw [recoverLoop_take crc data offset log pair.1 pair.2 before read]
        rcases ih (data.length - pair.2) (by omega) pair.2 (log.commit pair.1) within rfl with
          whole | ⟨recovered, cut, loop, later, least⟩ | failed
        · exact .inl whole
        · exact .inr (.inl ⟨recovered, cut, loop, by omega, least⟩)
        · exact .inr (.inr failed)
    · exact .inr (.inr ⟨position, detail, recoverLoop_failed crc data offset log _ before read⟩)

theorem commit_append (log : EventLog) (first second : List RecordedEvent) :
    (log.commit first).commit second = log.commit (first ++ second) := by
  rw [EventLog.commit, EventLog.commit, EventLog.commit, List.foldl_append]

@[simp] theorem commit_events (log : EventLog) (batchEvents : List RecordedEvent) :
    (log.commit batchEvents).events = log.events ++ batchEvents := by
  induction batchEvents generalizing log with
  | nil => simp [EventLog.commit]
  | cons event batchEvents ih =>
    have tail := ih (log.push event)
    simp only [EventLog.commit, List.foldl_cons] at tail ⊢
    rw [tail, EventLog.push, List.append_assoc]
    rfl

theorem recoverLoop_frames {crc : Crc32fast} {data batches rest : List UInt8} {count offset : Nat}
    {events : List RecordedEvent} (log : EventLog) (frames : (batchFraming crc).Frames count batches events)
    (inside : offset ≤ data.length) (here : data.drop offset = batches ++ rest) :
    recoverLoop crc data offset log = recoverLoop crc data (offset + batches.length) (log.commit events) := by
  induction frames generalizing offset log with
  | nil => rfl
  | cons head _ ih =>
    rw [List.append_assoc] at here
    obtain ⟨within, behind⟩ := drop_inside here inside
    have long := IsBatch.length head
    have read := (readBatch_some crc data offset log.events.length _ _ inside).mpr ⟨_, _, here, head, rfl⟩
    rw [recoverLoop_take crc data offset log _ _ (by omega) read, ih _ within behind, commit_append,
      List.length_append, Nat.add_assoc]

theorem length_encodeHeader : encodeHeader.length = headerSize := by decide

theorem recoverOn_header (platform : Platform) (crc : Crc32fast) (rest : List UInt8) :
    recoverOn platform crc (encodeHeader ++ rest) =
      recoverLoopOn platform crc (encodeHeader ++ rest) encodeHeader.length EventLog.empty := by
  have header : ((encodeHeader ++ rest).take headerSize).drop 0 = encodeHeader := by
    rw [List.drop_zero, ← length_encodeHeader, List.take_left]
  have long : headerSize ≤ (encodeHeader ++ rest).length := by
    rw [List.length_append, length_encodeHeader]
    omega
  rw [recoverOn, if_neg (Nat.not_lt.mpr long), slice_ok _ _ _ (Nat.zero_le _) long, ok_bind, header,
    decodeHeader_encodeHeader, ok_bind, length_encodeHeader]

theorem recover_header (crc : Crc32fast) (rest : List UInt8) :
    recover crc (encodeHeader ++ rest) =
      recoverLoop crc (encodeHeader ++ rest) encodeHeader.length EventLog.empty := recoverOn_header .ample crc rest

theorem recover_batches (crc : Crc32fast) (batches : List Batch) (small : ∀ batch ∈ batches, batch.Small)
    (rest : List UInt8) :
    recover crc (fileBytes crc batches ++ rest) =
      recoverLoop crc (fileBytes crc batches ++ rest) (fileBytes crc batches).length
        (EventLog.empty.commit (eventsOf batches)) := by
  have behind : (encodeHeader ++ (encodeAll crc batches ++ rest)).drop encodeHeader.length =
      encodeAll crc batches ++ rest := List.drop_left
  rw [fileBytes, List.append_assoc, recover_header,
    recoverLoop_frames _ (frames_encodeAll crc batches small) (by simp) behind, List.length_append]

section
variable (crc : Crc32fast) (batches : List Batch) (small : ∀ batch ∈ batches, batch.Small)
include small

theorem recover_intact :
    recover crc (fileBytes crc batches) = ok (EventLog.empty.commit (eventsOf batches), none) := by
  have reached := recover_batches crc batches small []
  rw [List.append_nil] at reached
  rw [reached, recoverLoop_atEnd]

theorem recover_torn (rest : List UInt8) (present : rest ≠ [])
    (torn : ∀ validEvents, readBatch crc (fileBytes crc batches ++ rest) (fileBytes crc batches).length
      validEvents = ok none) :
    recover crc (fileBytes crc batches ++ rest) =
      ok (EventLog.empty.commit (eventsOf batches), some (fileBytes crc batches).length) := by
  have inside : (fileBytes crc batches).length < (fileBytes crc batches ++ rest).length := by
    rw [List.length_append]
    have := List.length_pos_of_ne_nil present
    omega
  rw [recover_batches crc batches small, recoverLoop_torn crc _ _ _ inside (torn _)]

theorem recover_cut (batch : Batch) (batchSmall : batch.Small) (kept : Nat) (started : 0 < kept)
    (short : kept < (batch.encode crc).length) :
    recover crc (fileBytes crc batches ++ (batch.encode crc).take kept) =
      ok (EventLog.empty.commit (eventsOf batches), some (fileBytes crc batches).length) := by
  apply recover_torn crc batches small
  · intro empty
    have lengths := congrArg List.length empty
    rw [List.length_take, List.length_nil] at lengths
    omega
  · intro validEvents
    exact readBatch_cut crc batch batchSmall _ _ _ kept (by simp) short List.drop_left

end

theorem truncateAndReturn_bytes (file : File) (kept rest : List UInt8) (log : EventLog)
    (bytes : file.bytes = kept ++ rest) : (truncateAndReturn file kept.length log).file.bytes = kept := by
  have noPadding : kept.length - (kept ++ rest).length = 0 := by
    rw [List.length_append]
    omega
  simp only [truncateAndReturn, File.syncAll, File.setLen, bytes, noPadding, List.replicate_zero,
    List.append_nil, List.take_left]

end EventfoldDb.RecoveryLoop
