import EventfoldDb.ServiceReads

/-! The metrics of the writer task. They are set after an append from what the append left, and they
count from the start of the process: the counters do not know what was recovered, and the gauges
have no value before the first append. -/

namespace EventfoldDb

/-- A gauge has no value until it is set. Its value is the number that is converted to an `f64`. -/
structure WriterMetrics where
  appendsTotal : UInt64
  eventsTotal : UInt64
  streamsTotal : Option Nat
  logBytes : Option Nat
  globalPosition : Option UInt64
  /-- How many durations the histogram has. -/
  appendDurations : Nat

namespace WriterMetrics

def new : WriterMetrics := ⟨0, 0, none, none, none, 0⟩

/-- After a successful append; reading the length of the file may fail. -/
def recordAppend (metrics : WriterMetrics) (store : Store) (recorded : List RecordedEvent) (measured : Bool) :
    WriterMetrics where
  appendsTotal := metrics.appendsTotal + 1
  eventsTotal := metrics.eventsTotal + UInt64.ofNat recorded.length
  streamsTotal := some store.log.streams.keys.card
  logBytes := if measured then some store.file.bytes.length else metrics.logBytes
  globalPosition :=
    match recorded.getLast? with
    | some last => some (last.globalPosition + 1)
    | none => metrics.globalPosition
  appendDurations := metrics.appendDurations + 1

end WriterMetrics

/-- The writer task with its metrics. The last field only records whether a write has failed or the
length could not be read since the length was read last. -/
structure Metered where
  task : Task
  metrics : WriterMetrics
  disturbed : Bool

namespace Metered

def start (writer : Writer) : Metered := ⟨Task.start writer, .new, false⟩

def appended (step : Task.Step) (after : Task) : Option (List RecordedEvent) :=
  match step, after.reply with
  | .serve _, some ⟨_, .appended, .ok recorded⟩ => some recorded
  | _, _ => none

def faulty : Task.Step → Bool
  | .serve fault => fault ≠ .none
  | _ => false

def next (crc : Crc32fast) (step : Task.Step × Bool) (metered : Metered) : Option Metered :=
  (Task.next crc step.1 metered.task).map fun task =>
    match appended step.1 task with
    | some recorded =>
        { task, metrics := metered.metrics.recordAppend task.writer.store recorded step.2, disturbed := !step.2 }
    | none => { task, metrics := metered.metrics, disturbed := metered.disturbed || faulty step.1 }

def Permitted (metered : Metered) (step : Task.Step × Bool) : Prop := metered.task.Filled step.1

end Metered

namespace Metrics
open Outcome Recovery AppendSpec LogInvariant DiskInvariant WriterSpec Acknowledgement AnswerSegments EventStore
  StreamSummaries Numbering Machine

/-! ### What a step records -/

theorem appended_quiet {step : Task.Step} (after : Task) (quiet : ∀ fault, step ≠ .serve fault) :
    Metered.appended step after = none := by
  cases step with
  | serve fault => exact absurd rfl (quiet fault)
  | submit | drain | publish | respond => rfl

theorem appended_serve {crc : Crc32fast} {fault : Fault} {task after : Task}
    (moved : Task.next crc (.serve fault) task = some after) :
    ∃ answer, answered after = answered task ++ [answer] ∧ Metered.appended (.serve fault) after = written answer := by
  obtain ⟨ticket, rest, served, result, batch, unsent, reply, how, same, isResult⟩ := next_serve moved
  refine ⟨⟨ticket, served.route, result⟩, ?_, ?_⟩
  · rw [same, answered, answered, reply, Option.toList_none, List.append_nil]
    rfl
  · rw [same]
    cases how with
    | invalid error refused =>
      rw [returned_eq_err] at isResult
      rw [isResult]
      rfl
    | cached recorded unique hit => rfl
    | failed error store unique missed sameLog refused =>
      rw [returned_eq_err] at isResult
      rw [isResult]
      rfl
    | appended batch unique missed accepts fits =>
      rw [returned_eq_ok] at isResult
      rw [isResult]
      rfl
    | panicked writer => exact absurd rfl (ne_panic_of_returned isResult)

theorem card_keys {log : EventLog} (canonical : Canonical log) :
    log.streams.keys.card = (log.events.map (·.streamId)).dedup.length := by
  rw [← List.card_toFinset]
  congr 1
  ext streamId
  rw [Finmap.mem_keys, List.mem_toFinset, ← List.mem_dedup, mem_streamIds, ← Finmap.lookup_isSome, canonical.lookup]
  split_ifs with empty
  · simp [empty]
  · simp [empty]

theorem length_listStreams {log : EventLog} (canonical : Canonical log) {iteration : List (Uuid × List UInt64)}
    (iterates : Iterates log.streams iteration) : (listStreams iteration).length = log.streams.keys.card := by
  rw [card_keys canonical, listStreams_unique iterates (iterates_entriesOf canonical), (perm_infoOf log).length_eq,
    List.length_map]

/-! ### Whole runs -/

structure Reports (initial : Store) (metered : Metered) : Prop where
  segmented : Segmented initial.log.events metered.task
  canonical : Canonical metered.task.writer.store.log
  events : initial.log.events.length + metered.metrics.eventsTotal.toNat = metered.task.writer.store.log.events.length
  appends : metered.metrics.appendsTotal.toNat = ((answered metered.task).filterMap written).length
  fewer : metered.metrics.appendsTotal.toNat ≤ metered.metrics.eventsTotal.toNat
  durations : metered.metrics.appendDurations = metered.metrics.appendsTotal.toNat
  gauges : metered.metrics.appendsTotal = 0 ∧ metered.metrics.streamsTotal = none ∧ metered.metrics.logBytes = none ∧
      metered.metrics.globalPosition = none ∨
    metered.metrics.appendsTotal ≠ 0 ∧
      metered.metrics.streamsTotal = some metered.task.writer.store.log.streams.keys.card ∧
      metered.metrics.globalPosition = some metered.task.writer.store.log.globalPosition ∧
      (metered.disturbed = false → metered.metrics.logBytes = some metered.task.writer.store.file.bytes.length)

theorem reports_start {store : Store} (wellFormed : WellFormed store.log) (canonical : Canonical store.log)
    (dedupCapacity : Nat) : Reports store (Metered.start (Writer.spawn store dedupCapacity)) where
  segmented := segmented_start wellFormed dedupCapacity
  canonical := canonical
  events := rfl
  appends := rfl
  fewer := Nat.le_refl _
  durations := rfl
  gauges := .inl ⟨rfl, rfl, rfl, rfl⟩

section
variable {crc : Crc32fast} {initial : Store} {metered : Metered} {task : Task}

theorem Reports.idle (reports : Reports initial metered) (segmented : Segmented initial.log.events task)
    (log : task.writer.store.log = metered.task.writer.store.log)
    (answers : (answered task).filterMap written = (answered metered.task).filterMap written) {disturbed : Bool}
    (file : disturbed = false → metered.disturbed = false ∧ task.writer.store.file = metered.task.writer.store.file) :
    Reports initial ⟨task, metered.metrics, disturbed⟩ where
  segmented := segmented
  canonical := by
    show Canonical task.writer.store.log
    rw [log]
    exact reports.canonical
  events := by
    show _ = task.writer.store.log.events.length
    rw [log]
    exact reports.events
  appends := by
    rw [answers]
    exact reports.appends
  fewer := reports.fewer
  durations := reports.durations
  gauges := by
    rcases reports.gauges with unset | ⟨some, streams, position, bytes⟩
    · exact .inl unset
    · refine .inr ⟨some, ?_, ?_, ?_⟩
      · show _ = Option.some task.writer.store.log.streams.keys.card
        rw [log]
        exact streams
      · show _ = Option.some task.writer.store.log.globalPosition
        rw [log]
        exact position
      · intro calm
        obtain ⟨before, sameFile⟩ := file calm
        show _ = Option.some task.writer.store.file.bytes.length
        rw [sameFile]
        exact bytes before

theorem toNat_add_count (total : UInt64) (count : Nat) (fits : total.toNat + count ≤ isizeMax) :
    (total + UInt64.ofNat count).toNat = total.toNat + count := by
  have exactly := ServiceReads.toNat_ofNat_count (show count ≤ isizeMax by omega)
  rw [isizeMax] at fits
  rw [UInt64.toNat_add, exactly, Nat.mod_eq_of_lt (by omega)]

theorem position_behind {log : EventLog} {before recorded : List RecordedEvent} {last : RecordedEvent}
    (wellFormed : WellFormed log) (split : log.events = before ++ recorded) (isLast : recorded.getLast? = some last) :
    last.globalPosition + 1 = log.globalPosition := by
  have atEnd : log.events[log.events.length - 1]? = some last := by
    rw [← List.getLast?_eq_getElem?, split, List.getLast?_append, isLast]
    rfl
  obtain ⟨inside, _⟩ := List.getElem?_eq_some_iff.mp atEnd
  have position := wellFormed.positions.getElem? atEnd
  have capacity := wellFormed.capacity
  apply UInt64.toNat_inj.mp
  rw [show last.globalPosition + 1 = last.globalPosition + UInt64.ofNat 1 from rfl, toNat_add_count _ 1 (by omega),
    EventLog.globalPosition, ServiceReads.toNat_ofNat_count capacity]
  omega

theorem Reports.append (reports : Reports initial metered) {answer : Answer} {batch : Batch} {dedup : DedupIndex}
    (segmented : Segmented initial.log.events task) (canonical : Canonical task.writer.store.log)
    (answers : answered task = answered metered.task ++ [answer])
    (present : answer.ticket.request.events ≠ []) (wrote : Wrote crc metered.task task answer batch dedup)
    (measured : Bool) :
    Reports initial
      ⟨task, metered.metrics.recordAppend task.writer.store batch.events measured, !measured⟩ := by
  have log : task.writer.store.log.events = metered.task.writer.store.log.events ++ batch.events := by
    rw [wrote.writer]
    rfl
  have length : batch.events.length = answer.ticket.request.events.length := wrote.accepts.length_events
  have positive := List.length_pos_of_ne_nil present
  have capacity := segmented.wellFormed.capacity
  rw [log, List.length_append] at capacity
  have events := reports.events
  have fewer := reports.fewer
  have total := toNat_add_count metered.metrics.eventsTotal batch.events.length (by omega)
  have one : (metered.metrics.appendsTotal + 1).toNat = metered.metrics.appendsTotal.toNat + 1 :=
    toNat_add_count metered.metrics.appendsTotal 1 (by omega)
  refine ⟨segmented, canonical, ?_, ?_, ?_, ?_, .inr ⟨?_, rfl, ?_, ?_⟩⟩
  · show _ + (metered.metrics.eventsTotal + UInt64.ofNat batch.events.length).toNat = task.writer.store.log.events.length
    rw [total, log, List.length_append]
    omega
  · show (metered.metrics.appendsTotal + 1).toNat = _
    rw [one, answers, List.filterMap_append, List.length_append, reports.appends]
    congr 1
    rw [List.filterMap_cons, wrote.recorded]
    rfl
  · show (metered.metrics.appendsTotal + 1).toNat ≤ (metered.metrics.eventsTotal + UInt64.ofNat batch.events.length).toNat
    rw [one, total]
    omega
  · show metered.metrics.appendDurations + 1 = (metered.metrics.appendsTotal + 1).toNat
    rw [one, reports.durations]
  · intro zero
    have none : (metered.metrics.appendsTotal + 1).toNat = 0 := congrArg UInt64.toNat zero
    omega
  · have some : batch.events ≠ [] := List.ne_nil_of_length_pos (by omega)
    have isLast := List.getLast?_eq_getLast_of_ne_nil some
    show (match batch.events.getLast? with
      | Option.some last => Option.some (last.globalPosition + 1)
      | none => metered.metrics.globalPosition) = Option.some task.writer.store.log.globalPosition
    rw [isLast]
    exact congrArg Option.some (position_behind segmented.wellFormed log isLast)
  · intro calm
    have read : measured = true := by
      cases measured with
      | true => rfl
      | false => cases calm
    show (if measured then _ else _) = _
    rw [if_pos read]

theorem reports_next {step : Task.Step × Bool} {after : Metered} (reports : Reports initial metered)
    (permitted : Metered.Permitted metered step) (moved : Metered.next crc step metered = some after) :
    Reports initial after := by
  obtain ⟨task, movedTask, same⟩ := Option.map_eq_some_iff.mp moved
  have segmented := segmented_next reports.segmented permitted movedTask
  rw [← same]
  rcases serve_or_quiet step.1 with ⟨fault, isServe⟩ | quiet
  · rw [isServe] at movedTask ⊢
    obtain ⟨answer, answers, recorded⟩ := appended_serve movedTask
    obtain ⟨other, batch, _, _, answersAgain, how⟩ := next_answered movedTask
    have isOther : answer = other := by
      rw [answers] at answersAgain
      exact (List.cons.inj (List.append_cancel_left answersAgain)).1
    rw [← isOther] at batch how
    rcases how with unwritten | ⟨built, dedup, wrote⟩
    · rw [recorded, unwritten.nothing]
      refine reports.idle segmented unwritten.log ?_ ?_
      · rw [answers, List.filterMap_append, List.filterMap_cons, unwritten.nothing]
        exact List.append_nil _
      · intro calm
        obtain ⟨before, faultless⟩ := Bool.or_eq_false_iff.mp calm
        have none : fault = .none := by simpa [Metered.faulty] using faultless
        exact ⟨before, by rw [unwritten.store none]⟩
    · rw [recorded, wrote.recorded]
      have present := reports.segmented.queued answer.ticket (by
        rw [batch]
        exact List.mem_append_right _ (List.mem_cons_self ..))
      exact reports.append segmented (canonical_serve reports.segmented reports.canonical movedTask) answers present wrote _
  · obtain ⟨writer, answers, _⟩ := next_quiet movedTask quiet
    rw [appended_quiet task quiet]
    refine reports.idle segmented (by rw [writer]) (by rw [answers]) ?_
    intro calm
    exact ⟨(Bool.or_eq_false_iff.mp calm).1, by rw [writer]⟩

end

structure Truthful (initial : Store) (metered : Metered) : Prop where
  events : initial.log.events.length + metered.metrics.eventsTotal.toNat =
    metered.task.writer.store.log.globalPosition.toNat
  appends : metered.metrics.appendsTotal.toNat = ((answered metered.task).filterMap written).length
  durations : metered.metrics.appendDurations = metered.metrics.appendsTotal.toNat
  /-- Before the first append no gauge has a value, whatever was recovered. -/
  unset : metered.metrics.appendsTotal = 0 → metered.metrics.streamsTotal = none ∧ metered.metrics.logBytes = none ∧
    metered.metrics.globalPosition = none
  position : metered.metrics.appendsTotal ≠ 0 →
    metered.metrics.globalPosition = some metered.task.writer.store.log.globalPosition
  streams : metered.metrics.appendsTotal ≠ 0 → ∀ iteration, Iterates metered.task.writer.store.log.streams iteration →
    metered.metrics.streamsTotal = some (listStreams iteration).length
  bytes : metered.metrics.appendsTotal ≠ 0 → metered.disturbed = false →
    metered.metrics.logBytes = some metered.task.writer.store.file.bytes.length

theorem Reports.truthful {initial : Store} {metered : Metered} (reports : Reports initial metered) :
    Truthful initial metered := by
  have position : metered.task.writer.store.log.globalPosition.toNat =
      metered.task.writer.store.log.events.length := by
    rw [EventLog.globalPosition, ServiceReads.toNat_ofNat_count reports.segmented.wellFormed.capacity]
  rcases reports.gauges with ⟨zero, unset⟩ | ⟨some, streams, head, bytes⟩
  · exact ⟨by rw [position]; exact reports.events, reports.appends, reports.durations, fun _ => unset,
      fun some => absurd zero some, fun some => absurd zero some, fun some => absurd zero some⟩
  · refine ⟨by rw [position]; exact reports.events, reports.appends, reports.durations, fun zero => absurd zero some,
      fun _ => head, ?_, fun _ => bytes⟩
    intro _ iteration iterates
    rw [length_listStreams reports.canonical iterates]
    exact streams

/-- After any run on a well-formed log, with any faults of the disk. -/
theorem metrics_truthful (crc : Crc32fast) (store : Store) (dedupCapacity : Nat) (metered : Metered)
    (wellFormed : WellFormed store.log) (canonical : Canonical store.log)
    (run : Reaches (Metered.next crc) Metered.Permitted (Metered.start (Writer.spawn store dedupCapacity)) metered) :
    Truthful store metered := by
  have reports := run.invariant (Reports store) (reports_start wellFormed canonical dedupCapacity)
    (fun before step after holds permitted moved => reports_next holds permitted moved)
  exact reports.truthful

theorem metrics_truthful_first :
    ∃ metered, Reaches (Metered.next Crc32fast.ieee) Metered.Permitted (Metered.start freshWriter) metered ∧
      metered.metrics.eventsTotal = 1 ∧ metered.metrics.streamsTotal = some 1 ∧ metered.metrics.globalPosition = some 1 ∧
      metered.disturbed = false ∧ Truthful Store.create metered := by
  have waiting : Reaches (Metered.next Crc32fast.ieee) Metered.Permitted (Metered.start freshWriter)
      ⟨drained freshWriter [] 0 0 (plainRequest 0 .any [1]), .new, false⟩ := by
    apply reaches_of_permitted [(.submit (plainRequest 0 .any [1]), true), (.drain 1 0, true)]
    · simp [Metered.Permitted, Task.Filled, plainRequest]
    · rfl
  have serves : Metered.next Crc32fast.ieee (.serve .none, true)
      ⟨drained freshWriter [] 0 0 (plainRequest 0 .any [1]), .new, false⟩ =
      some ⟨firstTask Crc32fast.ieee,
        WriterMetrics.new.recordAppend (firstWriter Crc32fast.ieee).store firstBatch.events true, false⟩ := by
    rw [Metered.next, next_first Crc32fast.ieee _ rfl rfl rfl rfl rfl]
    rfl
  have run := waiting.trans (.single ⟨(.serve .none, true), trivial, serves⟩)
  exact ⟨_, run, rfl, rfl, rfl, rfl, metrics_truthful Crc32fast.ieee Store.create 4 _ wellFormed_empty rfl run⟩

end Metrics

end EventfoldDb
