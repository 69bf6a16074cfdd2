import EventfoldDb.Acknowledgement
import EventfoldDb.Lifecycle
import EventfoldDb.Service

/-! Every `Ok` answer is a piece of the log. The dedup index holds only batches that were appended
or recovered, and each of them stays where it is while the log grows. -/

namespace EventfoldDb.AnswerSegments
open Outcome Recovery AppendSpec LogInvariant DiskInvariant WriterSpec Acknowledgement Numbering Machine

/-- Consecutive events of the log, of one stream and with consecutive versions. -/
structure Segment (events segment : List RecordedEvent) : Prop where
  present : segment ≠ []
  contiguous : segment <:+: events
  stream : ∃ streamId, ∀ event ∈ segment, event.streamId = streamId
  versions : ∃ first, Numbered (·.streamVersion.toNat) first segment

theorem segment_single {events : List RecordedEvent} {event : RecordedEvent} (member : event ∈ events) :
    Segment events [event] where
  present := List.cons_ne_nil _ _
  contiguous := by
    obtain ⟨before, after, split⟩ := List.append_of_mem member
    exact ⟨before, after, by rw [split, List.append_assoc, List.singleton_append]⟩
  stream := ⟨event.streamId, by simp⟩
  versions := ⟨event.streamVersion.toNat, rfl⟩

theorem Segment.grow {events segment : List RecordedEvent} (segment' : Segment events segment)
    (more : List RecordedEvent) : Segment (events ++ more) segment where
  present := segment'.present
  contiguous := segment'.contiguous.trans (List.prefix_append _ _).isInfix
  stream := segment'.stream
  versions := segment'.versions

theorem segment_recorded {log : EventLog} {call : AppendCall} {batch : Batch} (wellFormed : WellFormed log)
    (accepts : Accepts log call batch) (fits : log.events.length + batch.events.length ≤ isizeMax)
    (present : call.proposedEvents ≠ []) : Segment (log.events ++ batch.events) batch.events where
  present := by
    apply List.ne_nil_of_length_pos
    rw [accepts.length_events]
    exact List.length_pos_of_ne_nil present
  contiguous := (List.suffix_append _ _).isInfix
  stream := ⟨call.streamId, accepts.stream⟩
  versions := ⟨_, (Accepts.continues wellFormed accepts fits).versions⟩

/-! ### The response of the handler -/

theorem numbered_span {number : RecordedEvent → UInt64} {start : Nat} {segment : List RecordedEvent}
    (numbered : Numbered (fun event => (number event).toNat) start segment) {first last : RecordedEvent} {i : Nat}
    (atFirst : segment[0]? = some first) (atLast : segment[i]? = some last) :
    (number last - number first).toNat = i := by
  have low := numbered.getElem? atFirst
  have high := numbered.getElem? atLast
  have ordered : number first ≤ number last := by
    rw [UInt64.le_iff_toNat_le]
    omega
  rw [UInt64.toNat_sub_of_le _ _ ordered]
  omega

theorem Segment.response {log : EventLog} {segment : List RecordedEvent} (wellFormed : WellFormed log)
    (segment' : Segment log.events segment) :
    ∃ response, EventfoldService.respond segment = ok response ∧
      response.lastGlobalPosition - response.firstGlobalPosition =
        response.lastStreamVersion - response.firstStreamVersion := by
  have some := List.length_pos_of_ne_nil segment'.present
  obtain ⟨before, after, split⟩ := segment'.contiguous
  have positions := wellFormed.positions
  rw [← split, List.append_assoc, numbered_append, numbered_append] at positions
  obtain ⟨start, versions⟩ := segment'.versions
  have atFirst := List.getElem?_eq_getElem some
  have atLast := List.getElem?_eq_getElem (Nat.sub_one_lt_of_lt some)
  refine ⟨_, by rw [EventfoldService.respond, index, atFirst, ok_bind, index, atLast, ok_bind]; rfl, ?_⟩
  apply UInt64.toNat_inj.mp
  calc (segment[segment.length - 1].globalPosition - segment[0].globalPosition).toNat
      = segment.length - 1 := numbered_span positions.2.1 atFirst atLast
    _ = (segment[segment.length - 1].streamVersion - segment[0].streamVersion).toNat :=
        (numbered_span versions atFirst atLast).symm

/-! ### Runs of the writer task -/

structure Segmented (recovered : List RecordedEvent) (task : Task) : Prop where
  wellFormed : WellFormed task.writer.store.log
  cached : Cached (history recovered (answered task)) task.writer.dedup
  segments : ∀ batch ∈ history recovered (answered task), Segment task.writer.store.log.events batch
  answers : ∀ answer ∈ answered task, ∀ recorded, answer.result = .ok recorded →
    Segment task.writer.store.log.events recorded
  queued : ∀ ticket ∈ task.inbox ++ task.batch, ticket.request.events ≠ []

theorem segmented_start {store : Store} (wellFormed : WellFormed store.log) (dedupCapacity : Nat) :
    Segmented store.log.events (Task.start (Writer.spawn store dedupCapacity)) where
  wellFormed := wellFormed
  cached := cached_spawn store dedupCapacity
  segments := by
    show ∀ batch ∈ history store.log.events [], Segment store.log.events batch
    rw [history_nil]
    intro batch member
    obtain ⟨event, here, same⟩ := List.mem_map.mp member
    rw [← same]
    exact segment_single here
  answers := fun _ member => absurd member List.not_mem_nil
  queued := fun _ member => absurd member List.not_mem_nil

section
variable {recovered : List RecordedEvent} {task after : Task}

theorem Segmented.unwritten {fault : Fault} {answer : Answer} (segmented : Segmented recovered task)
    (answers : answered after = answered task ++ [answer]) (unwritten : Unwritten fault task after answer)
    (queued : ∀ ticket ∈ after.inbox ++ after.batch, ticket.request.events ≠ []) : Segmented recovered after := by
  have same : history recovered (answered after) = history recovered (answered task) := by
    rw [answers, history_snoc, unwritten.nothing, Option.toList_none, List.append_nil]
  constructor
  · rw [unwritten.log]
    exact segmented.wellFormed
  · rw [same]
    exact segmented.cached.fewer unwritten.fewer
  · rw [same, unwritten.log]
    exact segmented.segments
  · rw [answers, unwritten.log]
    intro other member recorded isOk
    rcases List.mem_append.mp member with earlier | last
    · exact segmented.answers other earlier recorded isOk
    · -- an answer from the dedup index is a batch of the history
      rw [List.mem_singleton.mp last] at isOk
      obtain ⟨first, others, -, known⟩ := unwritten.known recorded isOk
      exact segmented.segments recorded (mem_of_lastWith (segmented.cached _ known))
  · exact queued

theorem Segmented.wrote {crc : Crc32fast} {answer : Answer} {batch : Batch} {dedup : DedupIndex}
    (segmented : Segmented recovered task) (answers : answered after = answered task ++ [answer])
    (wrote : Wrote crc task after answer batch dedup) (present : answer.ticket.request.events ≠ [])
    (queued : ∀ ticket ∈ after.inbox ++ after.batch, ticket.request.events ≠ []) : Segmented recovered after := by
  have log : after.writer.store.log = extended task.writer.store.log answer.ticket.request.streamId batch.events := by
    rw [wrote.writer]
    rfl
  have events : after.writer.store.log.events = task.writer.store.log.events ++ batch.events := by
    rw [log]
    rfl
  have longer : history recovered (answered after) = history recovered (answered task) ++ [batch.events] := by
    rw [answers, history_snoc, wrote.recorded, Option.toList_some]
  have new := segment_recorded segmented.wellFormed wrote.accepts wrote.fits present
  constructor
  · rw [log]
    exact (Accepts.continues segmented.wellFormed wrote.accepts wrote.fits).wellFormed segmented.wellFormed wrote.fits
  · rw [longer, wrote.writer]
    exact (segmented.cached.fewer wrote.fewer).record batch.events
  · rw [longer, events]
    intro other member
    rcases List.mem_append.mp member with earlier | last
    · exact (segmented.segments other earlier).grow _
    · rw [List.mem_singleton.mp last]
      exact new
  · rw [answers, events]
    intro other member recorded isOk
    rcases List.mem_append.mp member with earlier | last
    · exact (segmented.answers other earlier recorded isOk).grow _
    · rw [List.mem_singleton.mp last, wrote.result] at isOk
      rw [← Except.ok.inj isOk]
      exact new
  · exact queued

theorem segmented_serve {crc : Crc32fast} {fault : Fault} (segmented : Segmented recovered task)
    (moved : Task.next crc (.serve fault) task = some after) : Segmented recovered after := by
  obtain ⟨answer, batchEq, inboxEq, _, answers, how⟩ := next_answered moved
  have queued : ∀ ticket ∈ after.inbox ++ after.batch, ticket.request.events ≠ [] :=
    fun ticket member => segmented.queued ticket (queued_subset batchEq inboxEq member)
  have present := segmented.queued answer.ticket (by
    rw [batchEq]
    exact List.mem_append_right _ (List.mem_cons_self ..))
  rcases how with unwritten | ⟨batch, dedup, wrote⟩
  · exact segmented.unwritten answers unwritten queued
  · exact segmented.wrote answers wrote present queued

theorem segmented_next {crc : Crc32fast} {step : Task.Step} (segmented : Segmented recovered task)
    (filled : task.Filled step) (moved : Task.next crc step task = some after) : Segmented recovered after := by
  rcases serve_or_quiet step with ⟨fault, isServe⟩ | quiet
  · rw [isServe] at moved
    exact segmented_serve segmented moved
  · obtain ⟨writer, answers, tickets⟩ := next_quiet moved quiet
    obtain ⟨wellFormed, cached, segments, segmentAnswers, queued⟩ := segmented
    rw [← writer] at wellFormed cached segments segmentAnswers
    rw [← answers] at cached segments segmentAnswers
    refine ⟨wellFormed, cached, segments, segmentAnswers, ?_⟩
    intro ticket member
    rcases tickets ticket member with known | ⟨request, isSubmit, new⟩
    · exact queued ticket known
    · rw [isSubmit] at filled
      rw [new]
      exact filled

end

structure AnswersAreSegments (task : Task) : Prop where
  cached : ∀ entry ∈ task.writer.dedup.cache.entries,
    Segment task.writer.store.log.events entry.2 ∧ entry.1 ∈ entry.2.map (·.eventId)
  answers : ∀ answer ∈ task.answers, ∀ recorded, answer.result = .ok recorded →
    Segment task.writer.store.log.events recorded
  responses : ∀ answer ∈ task.answers, ∀ recorded, answer.result = .ok recorded →
    ∀ parser message, EventfoldService.request parser message = .ok answer.ticket.request →
      ∃ response, EventfoldService.append parser (fun _ => answer.result) message = ok response ∧
        response.lastGlobalPosition - response.firstGlobalPosition =
          response.lastStreamVersion - response.firstStreamVersion

theorem Segmented.answersAreSegments {recovered : List RecordedEvent} {task : Task}
    (segmented : Segmented recovered task) : AnswersAreSegments task where
  cached := by
    intro entry member
    have last := segmented.cached entry member
    exact ⟨segmented.segments entry.2 (mem_of_lastWith last), id_of_lastWith last⟩
  answers := fun answer member => segmented.answers answer (List.mem_append_left _ member)
  responses := by
    intro answer member recorded isOk parser message asked
    have segment := segmented.answers answer (List.mem_append_left _ member) recorded isOk
    obtain ⟨response, responded, inStep⟩ := segment.response segmented.wellFormed
    refine ⟨response, ?_, inStep⟩
    rw [EventfoldService.append, asked, isOk]
    exact responded

/-- For any log that this program wrote without I/O errors, any dedup capacity and any requests
with events. -/
theorem answers_are_segments (crc : Crc32fast) (store : Store) (dedupCapacity : Nat) (task : Task)
    (life : Reaches (Lifecycle.next crc) Lifecycle.Faultless (.caller Store.create) (.caller store))
    (run : Reaches (Task.next crc) Task.Filled (Task.start (Writer.spawn store dedupCapacity)) task) :
    AnswersAreSegments task := by
  have wellFormed : WellFormed store.log := Lifecycle.wellFormed_of_run (fun _ _ faultless => faultless) life
  have segmented := run.invariant (Segmented store.log.events) (segmented_start wellFormed dedupCapacity)
    (fun before step after holds filled moved => segmented_next holds filled moved)
  exact segmented.answersAreSegments

theorem answers_are_segments_retry :
    ∃ store task, Reaches (Lifecycle.next Crc32fast.ieee) Lifecycle.Faultless (.caller Store.create) (.caller store) ∧
      Reaches (Task.next Crc32fast.ieee) Task.Filled (Task.start (Writer.spawn store 8)) task ∧
      store.log.events.length = 3 ∧ task.answers.map (·.route) = [.appended, .cached] ∧ AnswersAreSegments task := by
  let store := Lifecycle.twoStreams Crc32fast.ieee
  let request := plainRequest 1 .any [4, 5]
  let batch := plainBatch store.log 1 .any [4, 5]
  have life := (Lifecycle.reaches_twoStreams Crc32fast.ieee).weaken (fun _ _ clean => clean.2)
  have accepts : Accepts store.log (request.call 0) batch := accepts_batchOf _ _ (plainCall_valid 1 .any [4, 5]) rfl
  have filled : ∀ (task : Task) (step : Task.Step), Calm request step → task.Filled step :=
    fun task _ calm => calm.filled task (List.cons_ne_nil _ _)
  have written : (Writer.spawn store 8).serve Crc32fast.ieee .none 0 request = _ :=
    serve_accepted Crc32fast.ieee rfl rfl accepts (by decide)
  have once : Reaches (Task.next Crc32fast.ieee) Task.Filled (Task.start (Writer.spawn store 8)) _ :=
    reaches_answer (fun task step calm _ _ => filled task step calm) written
  have known : ((Writer.spawn store 8).dedup.record batch.events |>.check request.events).1 = some batch.events := rfl
  have again := @serve_cached Crc32fast.ieee .none 0
    ⟨Store.withBatch Crc32fast.ieee store (idOf 1) batch, (Writer.spawn store 8).dedup.record batch.events⟩
    request _ rfl known
  have run := once.trans (reaches_answer (fun task step calm _ _ => filled task step calm) again)
  exact ⟨store, _, life, run, rfl, rfl, answers_are_segments Crc32fast.ieee store 8 _ life run⟩

end EventfoldDb.AnswerSegments
