import EventfoldDb.WriterSteps

/-! The order of durability, visibility, publication and acknowledgement, between any two operations
of `run_writer`. -/

namespace EventfoldDb.PublicationOrder
open Outcome Recovery AppendSpec LogInvariant DiskInvariant WriterSpec WriterSteps Numbering Machine

def Faultless (_ : Loop) (step : Step) : Prop := step ≠ .fail

def Working (loop : Loop) (step : Step) : Prop := Faultless loop step ∧ ∀ request, step ≠ .submit request

def current : LoopPhase → Option (List RecordedEvent)
  | .writing _ recorded _ => some recorded
  | .flushed _ recorded => some recorded
  | .indexed _ recorded => some recorded
  | .publishing _ recorded _ => some recorded
  | _ => none

def taken : LoopPhase → List Ticket
  | .between => []
  | .checked ticket => [ticket]
  | .writing ticket _ _ => [ticket]
  | .flushed ticket _ => [ticket]
  | .indexed ticket _ => [ticket]
  | .publishing ticket _ _ => [ticket]
  | .answering answer => [answer.ticket]

def pending (loop : Loop) : List Ticket := taken loop.phase ++ loop.batch ++ loop.inbox

def Once (loop : Loop) : Prop :=
  (loop.answers.map (·.ticket) ++ pending loop).map (·.number) = List.range loop.submitted

/-- The next index update would make a `Vec` longer than `isize::MAX`, and panics. -/
def Overflows (loop : Loop) : Prop :=
  ∃ ticket recorded, loop.phase = .flushed ticket recorded ∧
    isizeMax < loop.writer.store.log.events.length + recorded.length

/-- Beyond the batches of the requests that were freshly appended and answered, the file, the index
and the published sequence have only what belongs to the batch that is being appended. -/
def Accounted (crc : Crc32fast) (origin : Store) (loop : Loop) : Prop :=
  ∃ (batches : List Batch) (under : Option Batch) (bytes : List UInt8) (indexed sent : List RecordedEvent),
    loop.answers.filterMap written = batches.map Batch.events ∧ under.map Batch.events = current loop.phase ∧
    loop.writer.store.file.bytes = origin.file.bytes ++ encodeAll crc batches ++ bytes ∧
    loop.writer.store.log.events = origin.log.events ++ eventsOf batches ++ indexed ∧
    loop.published = eventsOf batches ++ sent ∧
    bytes <+: encodeAll crc under.toList ∧ indexed <+: eventsOf under.toList ∧ sent <+: indexed

/-- What holds at every point of every run. What is published is in the index, and what is in the index
is in the synced part of the file; a fresh answer comes after both. -/
structure InOrder (crc : Crc32fast) (origin : Store) (loop : Loop) : Prop where
  published : ∃ unsent, loop.writer.store.log.events = origin.log.events ++ (loop.published ++ unsent)
  distinct : loop.published.Nodup
  durable : ∃ batches : List Batch, loop.writer.store.log.events = origin.log.events ++ eventsOf batches ∧
    (batches ≠ [] → origin.file.bytes ++ encodeAll crc batches <+:
      loop.writer.store.file.bytes.take loop.writer.store.file.synced)
  acknowledged : ∀ answer ∈ loop.answers, ∀ recorded, written answer = some recorded → recorded <:+: loop.published
  accounted : Accounted crc origin loop
  once : Once loop
  /-- The loop comes to rest by itself, and only when it has answered everything. -/
  rests : Acc (fun after before => StepsTo (next crc) Working before after) loop
  answered : ∀ rest, Reaches (next crc) Working loop rest → (∀ after, ¬StepsTo (next crc) Working rest after) →
    rest.answers.map (·.ticket.number) = List.range loop.submitted ∨ Overflows rest

/-! ### File, index and broker -/

/-- These batches are in the index, those on disk with some bytes of the next one, and these events
have been sent. -/
structure Stage (crc : Crc32fast) (origin store : Store) (published : List RecordedEvent)
    (indexed stored : List Batch) (bytes : List UInt8) (sent : List RecordedEvent) : Prop where
  log : store.log.events = origin.log.events ++ eventsOf indexed
  numbered : Numbered (·.globalPosition.toNat) origin.log.events.length (eventsOf indexed)
  published : published = sent
  bytes : store.file.bytes = origin.file.bytes ++ encodeAll crc stored ++ bytes
  synced : stored = [] ∨ (origin.file.bytes ++ encodeAll crc stored).length ≤ store.file.synced

def Staged (crc : Crc32fast) (origin : Store) (batches : List Batch) (loop : Loop) : Prop :=
  match loop.phase with
  | .between => Stage crc origin loop.writer.store loop.published batches batches [] (eventsOf batches)
  | .checked _ => Stage crc origin loop.writer.store loop.published batches batches [] (eventsOf batches)
  | .writing ticket recorded rest => ∃ built bytes, recorded = built.events ∧ built.encode crc = bytes ++ rest ∧
      Accepts loop.writer.store.log (ticket.request.call loop.recordedAt) built ∧
      Stage crc origin loop.writer.store loop.published batches batches bytes (eventsOf batches)
  | .flushed ticket recorded => ∃ built, recorded = built.events ∧
      Accepts loop.writer.store.log (ticket.request.call loop.recordedAt) built ∧
      Stage crc origin loop.writer.store loop.published batches (batches ++ [built]) [] (eventsOf batches)
  | .indexed _ recorded => ∃ built, recorded = built.events ∧
      Stage crc origin loop.writer.store loop.published (batches ++ [built]) (batches ++ [built]) [] (eventsOf batches)
  | .publishing _ recorded unsent => ∃ built sent, recorded = built.events ∧ built.events = sent ++ unsent ∧
      Stage crc origin loop.writer.store loop.published (batches ++ [built]) (batches ++ [built]) [] (eventsOf batches ++ sent)
  | .answering answer => written answer = none ∧
      Stage crc origin loop.writer.store loop.published batches batches [] (eventsOf batches)

structure Balanced (crc : Crc32fast) (origin : Store) (batches : List Batch) (loop : Loop) : Prop where
  fresh : loop.answers.filterMap written = batches.map Batch.events
  staged : Staged crc origin batches loop

section
variable {crc : Crc32fast} {origin store : Store} {batches : List Batch} {loop after : Loop} {step : WriterSteps.Step}

theorem encodeAll_snoc (crc : Crc32fast) (batches : List Batch) (batch : Batch) :
    encodeAll crc (batches ++ [batch]) = encodeAll crc batches ++ batch.encode crc := by
  rw [encodeAll, List.flatMap_append, List.flatMap_singleton]
  rfl

theorem eventsOf_snoc (batches : List Batch) (batch : Batch) :
    eventsOf (batches ++ [batch]) = eventsOf batches ++ batch.events := by
  rw [eventsOf_append]
  exact congrArg (eventsOf batches ++ ·) (List.flatMap_singleton ..)

theorem Stage.write {published sent : List RecordedEvent} {indexed : List Batch} {bytes : List UInt8}
    (stage : Stage crc origin store published indexed batches bytes sent) (more : List UInt8) :
    Stage crc origin { store with file := store.file.write more } published indexed batches (bytes ++ more) sent where
  log := stage.log
  numbered := stage.numbered
  published := stage.published
  bytes := by
    show store.file.bytes ++ more = _
    rw [stage.bytes, List.append_assoc]
  synced := stage.synced

theorem Stage.sync {published sent : List RecordedEvent} {indexed : List Batch} {built : Batch}
    (stage : Stage crc origin store published indexed batches (built.encode crc) sent) :
    Stage crc origin { store with file := store.file.syncAll } published indexed (batches ++ [built]) [] sent := by
  have bytes : store.file.bytes = origin.file.bytes ++ encodeAll crc (batches ++ [built]) := by
    rw [stage.bytes, encodeAll_snoc, List.append_assoc]
  refine ⟨stage.log, stage.numbered, stage.published, ?_, .inr ?_⟩
  · rw [List.append_nil]
    exact bytes
  · rw [← bytes]
    exact Nat.le_refl _

theorem Stage.index {published sent : List RecordedEvent} {stored : List Batch} {bytes : List UInt8} {built : Batch}
    {call : AppendCall} (stage : Stage crc origin store published batches stored bytes sent)
    (accepts : Accepts store.log call built) (fits : store.log.events.length + built.events.length ≤ isizeMax)
    (streamId : Uuid) :
    Stage crc origin { store with log := extended store.log streamId built.events } published (batches ++ [built])
      stored bytes sent where
  log := by
    show store.log.events ++ built.events = _
    rw [stage.log, eventsOf_snoc, List.append_assoc]
  numbered := by
    have positions := Accepts.positions accepts fits
    rw [stage.log, List.length_append] at positions
    rw [eventsOf_snoc, numbered_append]
    exact ⟨stage.numbered, positions⟩
  published := stage.published
  bytes := stage.bytes
  synced := stage.synced

theorem Balanced.simulates (balanced : Balanced crc origin batches loop) (moves : Moves crc loop step after)
    (faultless : step ≠ .fail) : ∃ batches, Balanced crc origin batches after := by
  obtain ⟨fresh, staged⟩ := balanced
  cases moves with
  | submit request => exact ⟨batches, fresh, staged⟩
  | drain count recordedAt phase idle positive inside =>
    rw [Staged, phase] at staged
    refine ⟨batches, fresh, ?_⟩
    rw [Staged]
    dsimp only
    rw [phase]
    exact staged
  | invalid ticket batch error phase drained refused =>
    rw [Staged, phase] at staged
    exact ⟨batches, fresh, rfl, staged⟩
  | cached ticket batch recorded phase drained unique hit =>
    rw [Staged, phase] at staged
    exact ⟨batches, fresh, rfl, staged⟩
  | missed ticket batch phase drained unique missed =>
    rw [Staged, phase] at staged
    exact ⟨batches, fresh, staged⟩
  | refused ticket error phase refused =>
    rw [Staged, phase] at staged
    exact ⟨batches, fresh, rfl, staged⟩
  | prepared ticket built phase accepts =>
    rw [Staged, phase] at staged
    exact ⟨batches, fresh, built, [], rfl, rfl, accepts, staged⟩
  | write ticket recorded rest count phase positive inside =>
    rw [Staged, phase] at staged
    obtain ⟨built, bytes, recordedEq, encoded, accepts, stage⟩ := staged
    refine ⟨batches, fresh, built, bytes ++ rest.take count, recordedEq, ?_, accepts, stage.write _⟩
    rw [List.append_assoc, List.take_append_drop]
    exact encoded
  | sync ticket recorded phase =>
    rw [Staged, phase] at staged
    obtain ⟨built, bytes, recordedEq, encoded, accepts, stage⟩ := staged
    rw [List.append_nil] at encoded
    rw [← encoded] at stage
    exact ⟨batches, fresh, built, recordedEq, accepts, stage.sync⟩
  | fail ticket recorded rest phase => exact absurd rfl faultless
  | index ticket recorded phase fits =>
    rw [Staged, phase] at staged
    obtain ⟨built, recordedEq, accepts, stage⟩ := staged
    rw [recordedEq] at fits ⊢
    exact ⟨batches, fresh, built, rfl, stage.index accepts fits _⟩
  | record ticket recorded phase =>
    rw [Staged, phase] at staged
    obtain ⟨built, recordedEq, stage⟩ := staged
    refine ⟨batches, fresh, built, [], recordedEq, recordedEq.symm, ?_⟩
    rw [List.append_nil]
    exact stage
  | publish ticket recorded event unsent phase =>
    rw [Staged, phase] at staged
    obtain ⟨built, sent, recordedEq, split, stage⟩ := staged
    refine ⟨batches, fresh, built, sent ++ [event], recordedEq, ?_, ?_⟩
    · rw [split, List.append_assoc]
      rfl
    · obtain ⟨log, numbered, published, bytes, synced⟩ := stage
      refine ⟨log, numbered, ?_, bytes, synced⟩
      show loop.published ++ [event] = _
      rw [published, List.append_assoc]
  | respond ticket recorded phase =>
    rw [Staged, phase] at staged
    obtain ⟨built, sent, recordedEq, split, stage⟩ := staged
    rw [List.append_nil] at split
    refine ⟨batches ++ [built], ?_, ?_⟩
    · show (loop.answers ++ [_]).filterMap written = _
      rw [List.filterMap_append, fresh, List.map_append, recordedEq]
      rfl
    · show Stage crc origin loop.writer.store loop.published _ _ [] (eventsOf (batches ++ [built]))
      rw [eventsOf_snoc, split]
      exact stage
  | answer answer phase =>
    rw [Staged, phase] at staged
    obtain ⟨nothing, stage⟩ := staged
    refine ⟨batches, ?_, stage⟩
    show (loop.answers ++ [answer]).filterMap written = _
    rw [List.filterMap_append, List.filterMap_cons_none nothing, List.filterMap_nil, List.append_nil]
    exact fresh

/-! ### What follows at every point -/

/-- Index, disk and broker differ by parts of one batch, each ahead of the next. -/
structure Ahead (crc : Crc32fast) (origin : Store) (batches : List Batch) (loop : Loop) (under : Option Batch)
    (indexed stored : List Batch) (bytes : List UInt8) (sent : List RecordedEvent) : Prop where
  batch : under.map Batch.events = current loop.phase
  stage : Stage crc origin loop.writer.store loop.published (batches ++ indexed) (batches ++ stored) bytes
    (eventsOf batches ++ sent)
  onDisk : encodeAll crc stored ++ bytes <+: encodeAll crc under.toList
  visible : indexed <+: stored
  begun : indexed <+: under.toList
  sent : sent <+: eventsOf indexed

theorem Staged.ahead (staged : Staged crc origin batches loop) :
    ∃ under indexed stored bytes sent, Ahead crc origin batches loop under indexed stored bytes sent := by
  have idle : ∀ {phase : LoopPhase}, loop.phase = phase → current phase = none →
      Stage crc origin loop.writer.store loop.published batches batches [] (eventsOf batches) →
      ∃ under indexed stored bytes sent, Ahead crc origin batches loop under indexed stored bytes sent := by
    intro phase here nothing stage
    refine ⟨none, [], [], [], [], by rw [here, nothing]; rfl, ?_, List.nil_prefix, List.nil_prefix, List.nil_prefix,
      List.nil_prefix⟩
    rw [List.append_nil, List.append_nil]
    exact stage
  have single : ∀ built : Batch, encodeAll crc [built] = built.encode crc := fun built => by
    rw [encodeAll, List.flatMap_singleton]
  cases phase : loop.phase with
  | between =>
    rw [Staged, phase] at staged
    exact idle phase rfl staged
  | checked ticket =>
    rw [Staged, phase] at staged
    exact idle phase rfl staged
  | answering answer =>
    rw [Staged, phase] at staged
    exact idle phase rfl staged.2
  | writing ticket recorded rest =>
    rw [Staged, phase] at staged
    obtain ⟨built, bytes, recordedEq, encoded, _, stage⟩ := staged
    refine ⟨some built, [], [], bytes, [], by rw [phase, recordedEq]; rfl, ?_, ?_, List.nil_prefix, List.nil_prefix,
      List.nil_prefix⟩
    · rw [List.append_nil, List.append_nil]
      exact stage
    · rw [Option.toList_some, single, encoded]
      exact List.prefix_append _ _
  | flushed ticket recorded =>
    rw [Staged, phase] at staged
    obtain ⟨built, recordedEq, _, stage⟩ := staged
    refine ⟨some built, [], [built], [], [], by rw [phase, recordedEq]; rfl, ?_, ?_, List.nil_prefix, List.nil_prefix,
      List.nil_prefix⟩
    · rw [List.append_nil, List.append_nil]
      exact stage
    · rw [List.append_nil]
      exact List.prefix_refl _
  | indexed ticket recorded =>
    rw [Staged, phase] at staged
    obtain ⟨built, recordedEq, stage⟩ := staged
    refine ⟨some built, [built], [built], [], [], by rw [phase, recordedEq]; rfl, ?_, ?_, List.prefix_refl _,
      List.prefix_refl _, List.nil_prefix⟩
    · rw [List.append_nil]
      exact stage
    · rw [List.append_nil]
      exact List.prefix_refl _
  | publishing ticket recorded unsent =>
    rw [Staged, phase] at staged
    obtain ⟨built, sent, recordedEq, split, stage⟩ := staged
    refine ⟨some built, [built], [built], [], sent, by rw [phase, recordedEq]; rfl, stage, ?_, List.prefix_refl _,
      List.prefix_refl _, ?_⟩
    · rw [List.append_nil]
      exact List.prefix_refl _
    · rw [eventsOf, List.flatMap_singleton, split]
      exact List.prefix_append _ _

section
variable {under : Option Batch} {indexed stored : List Batch} {bytes : List UInt8} {sent : List RecordedEvent}

theorem Ahead.log (ahead : Ahead crc origin batches loop under indexed stored bytes sent) :
    loop.writer.store.log.events = origin.log.events ++ eventsOf batches ++ eventsOf indexed := by
  rw [ahead.stage.log, eventsOf_append, List.append_assoc]

theorem Ahead.added (ahead : Ahead crc origin batches loop under indexed stored bytes sent) :
    loop.published <+: eventsOf (batches ++ indexed) := by
  rw [ahead.stage.published, eventsOf_append, List.prefix_append_right_inj]
  exact ahead.sent

theorem Ahead.durable (ahead : Ahead crc origin batches loop under indexed stored bytes sent)
    (present : batches ++ indexed ≠ []) :
    origin.file.bytes ++ encodeAll crc (batches ++ indexed) <+:
      loop.writer.store.file.bytes.take loop.writer.store.file.synced := by
  obtain ⟨rest, split⟩ := ahead.visible
  have nonempty : batches ++ stored ≠ [] := by
    rw [← split, ← List.append_assoc]
    exact List.append_ne_nil_of_left_ne_nil present _
  have covered := ahead.stage.synced.resolve_left nonempty
  have inside : origin.file.bytes ++ encodeAll crc (batches ++ indexed) <+:
      origin.file.bytes ++ encodeAll crc (batches ++ stored) := by
    rw [List.prefix_append_right_inj, ← split, ← List.append_assoc]
    exact ⟨encodeAll crc rest, List.flatMap_append.symm⟩
  refine List.IsPrefix.trans inside ?_
  rw [List.prefix_take_iff, ahead.stage.bytes]
  exact ⟨List.prefix_append _ _, covered⟩

theorem Ahead.accounted (ahead : Ahead crc origin batches loop under indexed stored bytes sent)
    (fresh : loop.answers.filterMap written = batches.map Batch.events) : Accounted crc origin loop := by
  refine ⟨batches, under, encodeAll crc stored ++ bytes, eventsOf indexed, sent, fresh, ahead.batch, ?_, ahead.log,
    ahead.stage.published, ahead.onDisk, ?_, ahead.sent⟩
  · rw [ahead.stage.bytes, encodeAll, List.flatMap_append, ← List.append_assoc, ← List.append_assoc]
    rfl
  · obtain ⟨rest, split⟩ := ahead.begun
    rw [← split, eventsOf_append]
    exact List.prefix_append _ _

theorem Ahead.acknowledged (ahead : Ahead crc origin batches loop under indexed stored bytes sent)
    (fresh : loop.answers.filterMap written = batches.map Batch.events) {answer : Answer}
    (member : answer ∈ loop.answers)
    {recorded : List RecordedEvent} (wrote : written answer = some recorded) : recorded <:+: loop.published := by
  have listed : recorded ∈ batches.map Batch.events := by
    rw [← fresh]
    exact List.mem_filterMap.mpr ⟨answer, member, wrote⟩
  obtain ⟨batch, here, batchEq⟩ := List.mem_map.mp listed
  obtain ⟨before, behind, split⟩ := List.append_of_mem here
  rw [ahead.stage.published, split, eventsOf_append, ← batchEq]
  refine ⟨eventsOf before, eventsOf behind ++ sent, ?_⟩
  rw [eventsOf, eventsOf, eventsOf, List.flatMap_cons]
  simp only [List.append_assoc]

end

/-! ### Every request once -/

theorem tickets_kept (moves : Moves crc loop step after) (quiet : ∀ request, step ≠ .submit request) :
    after.answers.map (·.ticket) ++ pending after = loop.answers.map (·.ticket) ++ pending loop ∧
      after.submitted = loop.submitted := by
  cases moves with
  | submit request => exact absurd rfl (quiet request)
  | drain count recordedAt phase idle positive inside => simp [pending, taken, phase, idle]
  | invalid ticket batch error phase drained refused => simp [pending, taken, phase, drained]
  | cached ticket batch recorded phase drained unique hit => simp [pending, taken, phase, drained]
  | missed ticket batch phase drained unique missed => simp [pending, taken, phase, drained]
  | refused ticket error phase refused => simp [pending, taken, phase]
  | prepared ticket built phase accepts => simp [pending, taken, phase]
  | write ticket recorded rest count phase positive inside => simp [pending, taken, phase, Loop.withFile]
  | sync ticket recorded phase => simp [pending, taken, phase, Loop.withFile]
  | fail ticket recorded rest phase => simp [pending, taken, phase]
  | index ticket recorded phase fits => simp [pending, taken, phase]
  | record ticket recorded phase => simp [pending, taken, phase]
  | publish ticket recorded event unsent phase => simp [pending, taken, phase]
  | respond ticket recorded phase => simp [pending, taken, phase]
  | answer answer phase => simp [pending, taken, phase]

theorem Once.next (once : Once loop) (moves : Moves crc loop step after) : Once after := by
  by_cases submits : ∃ request, step = .submit request
  · obtain ⟨request, isSubmit⟩ := submits
    rw [isSubmit] at moves
    cases moves with
    | submit =>
      rw [Once] at once ⊢
      rw [List.range_succ, ← once]
      simp [pending]
  · obtain ⟨tickets, submitted⟩ := tickets_kept moves (fun request isSubmit => submits ⟨request, isSubmit⟩)
    rw [Once, tickets, submitted]
    exact once

/-! ### The loop comes to rest -/

def rank (loop : Loop) : Nat :=
  match loop.phase, loop.batch with
  | .between, [] => 8
  | .between, _ :: _ => 7
  | .checked _, _ => 6
  | .writing _ _ _, _ => 5
  | .flushed _ _, _ => 4
  | .indexed _ _, _ => 3
  | .publishing _ _ _, _ => 2
  | .answering _, _ => 1

def remaining : LoopPhase → Nat
  | .writing _ _ rest => rest.length
  | .publishing _ _ unsent => unsent.length
  | _ => 0

/-- Requests without an answer, how far the loop has got with the first of them, and what is left of
the operation under way. -/
def work (loop : Loop) : Nat × Nat × Nat := ((pending loop).length, rank loop, remaining loop.phase)

abbrev Less : Nat × Nat × Nat → Nat × Nat × Nat → Prop := Prod.Lex (· < ·) (Prod.Lex (· < ·) (· < ·))

theorem work_decreases (moves : Moves crc loop step after) (quiet : ∀ request, step ≠ .submit request) :
    Less (work after) (work loop) := by
  rw [Less, Prod.lex_def, Prod.lex_def]
  cases moves with
  | submit request => exact absurd rfl (quiet request)
  | drain count recordedAt phase idle positive inside =>
    have some : loop.inbox.take count ≠ [] := by
      apply List.ne_nil_of_length_pos
      rw [List.length_take]
      omega
    obtain ⟨ticket, batch, drained⟩ := List.exists_cons_of_ne_nil some
    have size := congrArg List.length drained
    rw [List.length_take, List.length_cons] at size
    simp [work, pending, taken, rank, phase, idle, drained]
    omega
  | invalid ticket batch error phase drained refused => simp [work, pending, taken, rank, phase, drained]
  | cached ticket batch recorded phase drained unique hit => simp [work, pending, taken, rank, phase, drained]
  | missed ticket batch phase drained unique missed => simp [work, pending, taken, rank, phase, drained]
  | refused ticket error phase refused => simp [work, pending, taken, rank, phase]
  | prepared ticket built phase accepts => simp [work, pending, taken, rank, phase]
  | write ticket recorded rest count phase positive inside =>
    simp [work, pending, taken, rank, remaining, phase, Loop.withFile]
    omega
  | sync ticket recorded phase => simp [work, pending, taken, rank, phase, Loop.withFile]
  | fail ticket recorded rest phase => simp [work, pending, taken, rank, phase]
  | index ticket recorded phase fits => simp [work, pending, taken, rank, phase]
  | record ticket recorded phase => simp [work, pending, taken, rank, phase]
  | publish ticket recorded event unsent phase => simp [work, pending, taken, rank, remaining, phase]
  | respond ticket recorded phase => simp [work, pending, taken, phase]
  | answer answer phase => simp [work, pending, taken, phase]

theorem comes_to_rest (crc : Crc32fast) :
    WellFounded (fun after before => StepsTo (next crc) Working before after) := by
  have bounded : WellFounded Less := WellFounded.prod_lex Nat.lt_wfRel.wf (WellFounded.prod_lex Nat.lt_wfRel.wf Nat.lt_wfRel.wf)
  apply Subrelation.wf _ (InvImage.wf work bounded)
  intro after before steps
  obtain ⟨step, working, moved⟩ := steps
  exact work_decreases (moves_of_next moved) working.2

theorem goes_on (crc : Crc32fast) {loop : Loop} (waits : pending loop ≠ []) :
    Overflows loop ∨ ∃ after, StepsTo (next crc) Working loop after := by
  have moves : ∀ {step : WriterSteps.Step}, Working loop step → (next crc step loop).isSome →
      Overflows loop ∨ ∃ after, StepsTo (next crc) Working loop after := by
    intro step working enabled
    obtain ⟨after, moved⟩ := Option.isSome_iff_exists.mp enabled
    exact .inr ⟨after, step, working, moved⟩
  cases phase : loop.phase with
  | between =>
    cases drained : loop.batch with
    | nil =>
      have arrived : 1 ≤ loop.inbox.length := by
        apply List.length_pos_of_ne_nil
        intro empty
        exact waits (by rw [pending, phase, drained, empty]; rfl)
      apply moves (show Working loop (.drain 1 0) by simp [Working, Faultless])
      simp [next, phase, drained, arrived]
    | cons ticket batch =>
      apply moves (show Working loop .check by simp [Working, Faultless])
      rw [next, phase, drained]
      dsimp only
      split
      · rfl
      · split <;> rfl
  | checked ticket =>
    apply moves (show Working loop .prepare by simp [Working, Faultless])
    rw [next, phase]
    dsimp only
    split <;> rfl
  | writing ticket recorded rest =>
    cases rest with
    | nil =>
      apply moves (show Working loop .sync by simp [Working, Faultless])
      rw [next, phase]
      rfl
    | cons byte rest =>
      apply moves (show Working loop (.write 1) by simp [Working, Faultless])
      simp [next, phase]
  | flushed ticket recorded =>
    by_cases fits : loop.writer.store.log.events.length + recorded.length ≤ isizeMax
    · apply moves (show Working loop .index by simp [Working, Faultless])
      simp [next, phase, EventLog.extend, fits]
    · exact .inl ⟨ticket, recorded, phase, Nat.lt_of_not_le fits⟩
  | indexed ticket recorded =>
    apply moves (show Working loop .record by simp [Working, Faultless])
    rw [next, phase]
    rfl
  | publishing ticket recorded unsent =>
    cases unsent with
    | nil =>
      apply moves (show Working loop .respond by simp [Working, Faultless])
      rw [next, phase]
      rfl
    | cons event unsent =>
      apply moves (show Working loop .publish by simp [Working, Faultless])
      rw [next, phase]
      rfl
  | answering answer =>
    apply moves (show Working loop .respond by simp [Working, Faultless])
    rw [next, phase]
    rfl

theorem answered_at_rest (once : Once loop) {rest : Loop} (run : Reaches (next crc) Working loop rest)
    (stuck : ∀ after, ¬StepsTo (next crc) Working rest after) :
    rest.answers.map (·.ticket.number) = List.range loop.submitted ∨ Overflows rest := by
  have kept : Once rest ∧ rest.submitted = loop.submitted := by
    apply run.invariant (fun loop' => Once loop' ∧ loop'.submitted = loop.submitted) ⟨once, rfl⟩
    rintro before step after ⟨onceBefore, same⟩ working moved
    have moves := moves_of_next moved
    exact ⟨onceBefore.next moves, (tickets_kept moves working.2).2.trans same⟩
  by_cases waits : pending rest = []
  · left
    have numbers := kept.1
    rw [Once, waits, List.append_nil, List.map_map, kept.2] at numbers
    exact numbers
  · right
    rcases goes_on crc waits with overflows | ⟨after, steps⟩
    · exact overflows
    · exact absurd steps (stuck after)

end

/-- Whatever is in the index is on disk and synced, whatever is published is in the index, whatever is
acknowledged is published, at every point between two operations of the loop. -/
theorem writer_in_order (crc : Crc32fast) (writer : Writer) (loop : Loop)
    (run : Reaches (next crc) Faultless (start writer) loop) : InOrder crc writer.store loop := by
  have initially : ∃ batches, Balanced crc writer.store batches (start writer) := by
    refine ⟨[], rfl, (List.append_nil _).symm, Numbered.nil, rfl, ?_, .inl rfl⟩
    rw [List.append_nil]
    exact (List.append_nil _).symm
  obtain ⟨batches, fresh, staged⟩ := run.invariant (fun loop => ∃ batches, Balanced crc writer.store batches loop) initially
    (fun before step after holds faultless moved => by
      obtain ⟨batches, balanced⟩ := holds
      exact balanced.simulates (moves_of_next moved) faultless)
  have first : Once (start writer) := rfl
  have once : Once loop := run.invariant Once first (fun _ _ _ holds _ moved => holds.next (moves_of_next moved))
  obtain ⟨under, indexed, stored, bytes, sent, ahead⟩ := staged.ahead
  obtain ⟨unsent, added⟩ := ahead.added
  refine ⟨⟨unsent, ?_⟩, ?_, ⟨batches ++ indexed, ahead.stage.log, ahead.durable⟩, ?_, ahead.accounted fresh, once,
    (comes_to_rest crc).apply loop, fun rest more stuck => answered_at_rest once more stuck⟩
  · rw [added]
    exact ahead.stage.log
  · have distinct := ahead.stage.numbered.nodup
    rw [← added] at distinct
    exact distinct.of_append_left
  · exact fun answer member recorded wrote => ahead.acknowledged fresh member wrote

def firstLoop (writer : Writer) (phase : LoopPhase) : Loop :=
  { start writer with phase, submitted := 1 }

theorem reaches_first (crc : Crc32fast) :
    Reaches (next crc) Faultless (start freshWriter)
      { start (firstWriter crc) with
        published := firstBatch.events
        answers := [⟨⟨0, plainRequest 0 .any [1]⟩, .appended, .ok firstBatch.events⟩]
        submitted := 1 } := by
  let ticket : Ticket := ⟨0, plainRequest 0 .any [1]⟩
  let encoded := firstBatch.encode crc
  let file := Store.create.file.write encoded
  let written : Writer := ⟨⟨file, EventLog.empty⟩, freshWriter.dedup⟩
  let synced : Writer := ⟨⟨file.syncAll, EventLog.empty⟩, freshWriter.dedup⟩
  let indexed : Writer := ⟨Store.withBatch crc Store.create (idOf 0) firstBatch, freshWriter.dedup⟩
  have submits : next crc (.submit (plainRequest 0 .any [1])) (start freshWriter) =
      some { firstLoop freshWriter .between with inbox := [ticket] } := rfl
  have drains : next crc (.drain 1 0) { firstLoop freshWriter .between with inbox := [ticket] } =
      some { firstLoop freshWriter .between with batch := [ticket] } := rfl
  have checks : next crc .check { firstLoop freshWriter .between with batch := [ticket] } =
      some (firstLoop freshWriter (.checked ticket)) := rfl
  have prepares : next crc .prepare (firstLoop freshWriter (.checked ticket)) =
      some (firstLoop freshWriter (.writing ticket firstBatch.events encoded)) := by
    have prepared : prepareCall crc freshWriter.store.log (ticket.request.call 0) = .ok (firstBatch.events, encoded) :=
      prepareCall_accepts crc firstBatch_accepted
    rw [next]
    dsimp only [firstLoop, start]
    rw [prepared]
  have writes : next crc (.write encoded.length) (firstLoop freshWriter (.writing ticket firstBatch.events encoded)) =
      some (firstLoop written (.writing ticket firstBatch.events [])) := by
    have some : 0 < encoded.length := by
      rw [length_encode]
      omega
    rw [next]
    dsimp only [firstLoop, start]
    rw [if_pos ⟨some, Nat.le_refl _⟩, List.take_length, List.drop_length]
    rfl
  have syncs : next crc .sync (firstLoop written (.writing ticket firstBatch.events [])) =
      some (firstLoop synced (.flushed ticket firstBatch.events)) := rfl
  have indexes : next crc .index (firstLoop synced (.flushed ticket firstBatch.events)) =
      some (firstLoop indexed (.indexed ticket firstBatch.events)) := rfl
  have records : next crc .record (firstLoop indexed (.indexed ticket firstBatch.events)) =
      some (firstLoop (firstWriter crc) (.publishing ticket firstBatch.events firstBatch.events)) := rfl
  have publishes : next crc .publish (firstLoop (firstWriter crc) (.publishing ticket firstBatch.events firstBatch.events)) =
      some { firstLoop (firstWriter crc) (.publishing ticket firstBatch.events []) with published := firstBatch.events } := rfl
  have responds : next crc .respond
      { firstLoop (firstWriter crc) (.publishing ticket firstBatch.events []) with published := firstBatch.events } =
      some _ := rfl
  have one : ∀ {before after : Loop} {step : WriterSteps.Step}, step ≠ .fail → next crc step before = some after →
      Reaches (next crc) Faultless before after := fun faultless moved => .single ⟨_, faultless, moved⟩
  have toFile := (one (by simp) submits).trans ((one (by simp) drains).trans ((one (by simp) checks).trans
    (one (by simp) prepares)))
  have toIndex := (one (by simp) writes).trans ((one (by simp) syncs).trans (one (by simp) indexes))
  have toAnswer := (one (by simp) records).trans ((one (by simp) publishes).trans (one (by simp) responds))
  exact toFile.trans (toIndex.trans toAnswer)

theorem writer_in_order_first_request :
    ∃ loop, Reaches (next Crc32fast.ieee) Faultless (start freshWriter) loop ∧ loop.published = firstBatch.events ∧
      loop.answers.length = 1 ∧ InOrder Crc32fast.ieee Store.create loop := by
  have run := reaches_first Crc32fast.ieee
  exact ⟨_, run, rfl, rfl, writer_in_order Crc32fast.ieee freshWriter _ run⟩

end EventfoldDb.PublicationOrder
