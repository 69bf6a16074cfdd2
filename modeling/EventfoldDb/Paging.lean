import EventfoldDb.Lifecycle
import EventfoldDb.Reader

/-! Reads are filters of the log, and a client that reads page after page, each from behind the
last event it has seen, gets every event once and in order while the log grows. -/

namespace EventfoldDb.Paging
open Outcome Recovery AppendSpec LogInvariant DiskInvariant Reader Window Numbering Lifecycle Machine

/-- Over the unbounded integers: `from <= number < from + max`. -/
def between (fromNumber maxCount number : UInt64) : Bool :=
  decide (fromNumber.toNat ≤ number.toNat ∧ number.toNat < fromNumber.toNat + maxCount.toNat)

structure ReadsFilter (store : Store) : Prop where
  all : ∀ fromPosition maxCount, store.log.readAll fromPosition maxCount =
    ok (store.log.events.filter fun event => between fromPosition maxCount event.globalPosition)
  missing : ∀ streamId fromVersion maxCount,
    store.log.readStream streamId fromVersion maxCount = err (.streamNotFound streamId) ↔
      ∀ event ∈ store.log.events, event.streamId ≠ streamId
  stream : ∀ streamId fromVersion maxCount, (∃ event ∈ store.log.events, event.streamId = streamId) →
    store.log.readStream streamId fromVersion maxCount =
      ok (store.log.events.filter fun event =>
        decide (event.streamId = streamId) && between fromVersion maxCount event.streamVersion)
  sameAll : ∀ fromPosition maxCount, store.readAll fromPosition maxCount = store.log.readAll fromPosition maxCount
  sameStream : ∀ streamId fromVersion maxCount,
    store.readStream streamId fromVersion maxCount = store.log.readStream streamId fromVersion maxCount

theorem readStream_found {log : EventLog} (wellFormed : WellFormed log) (canonical : Canonical log) (streamId : Uuid)
    (fromVersion maxCount : UInt64) :
    (streamEvents streamId log.events = [] ∧
      log.readStream streamId fromVersion maxCount = err (.streamNotFound streamId)) ∨
    (streamEvents streamId log.events ≠ [] ∧ log.readStream streamId fromVersion maxCount =
      ok (window fromVersion.toNat (fromVersion.toNat + maxCount.toNat) (streamEvents streamId log.events))) := by
  have found := canonical.lookup streamId
  by_cases empty : streamEvents streamId log.events = []
  · rw [if_pos empty] at found
    exact .inl ⟨empty, by rw [EventLog.readStream, found]⟩
  · rcases readStream_eq wellFormed streamId fromVersion maxCount with read | ⟨-, none⟩
    · exact .inr ⟨empty, read⟩
    · exact absurd none empty

theorem readsFilter {store : Store} (wellFormed : WellFormed store.log) (canonical : Canonical store.log) :
    ReadsFilter store where
  all := by
    intro fromPosition maxCount
    rw [readAll_eq wellFormed]
    exact congrArg ok (filter_between wellFormed.positions _ _).symm
  missing := by
    intro streamId fromVersion maxCount
    rw [← streamEvents_eq_nil]
    rcases readStream_found wellFormed canonical streamId fromVersion maxCount with ⟨empty, read⟩ | ⟨present, read⟩
    · exact iff_of_true read empty
    · rw [read]
      exact iff_of_false (fun same => by cases same) present
  stream := by
    rintro streamId fromVersion maxCount ⟨event, member, same⟩
    rcases readStream_found wellFormed canonical streamId fromVersion maxCount with ⟨empty, -⟩ | ⟨-, read⟩
    · exact absurd same ((streamEvents_eq_nil streamId _).mp empty event member)
    · have picked := filter_between (wellFormed.versions streamId) fromVersion.toNat
        (fromVersion.toNat + maxCount.toNat)
      rw [read]
      refine congrArg ok (picked.symm.trans ?_)
      rw [streamEvents, List.filter_filter]
      simp only [between, Bool.and_comm]
  sameAll := fun _ _ => rfl
  sameStream := fun _ _ _ => rfl

/-! ### Pages -/

inductive Target where
  | all
  | stream (streamId : Uuid)

def Target.read (target : Target) (log : EventLog) (start size : UInt64) : Outcome Error (List RecordedEvent) :=
  match target with
  | .all => log.readAll start size
  | .stream streamId => log.readStream streamId start size

def Target.number : Target → RecordedEvent → UInt64
  | .all, event => event.globalPosition
  | .stream _, event => event.streamVersion

def Target.events : Target → EventLog → List RecordedEvent
  | .all, log => log.events
  | .stream streamId, log => streamEvents streamId log.events

structure Pager where
  owner : Owner
  seen : List RecordedEvent

def Pager.start (target : Target) (pager : Pager) : UInt64 :=
  match pager.seen.getLast? with
  | none => 0
  | some event => target.number event + 1

inductive PageStep where
  | page (size : UInt64)
  | life (step : Step)

/-- A stream that is not there yet has no page. -/
def nextPage (crc : Crc32fast) (target : Target) : PageStep → Pager → Option Pager
  | .page size, pager =>
      match target.read pager.owner.store.log (pager.start target) size with
      | .ok events => some { pager with seen := pager.seen ++ events }
      | .err _ => some pager
      | .panic => none
  | .life step, pager => (next crc step pager.owner).map fun owner => { pager with owner }

def Between (_ : Pager) : PageStep → Prop
  | .page size => 1 ≤ size.toNat
  | .life step => step ≠ .reopen

/-- What the client has seen is a first part of what there is; a page adds the next `size` events
of it, so enough pages in a row give everything. -/
structure Paged (crc : Crc32fast) (target : Target) (pager : Pager) : Prop where
  inOrder : pager.seen <+: target.events pager.owner.store.log
  once : pager.seen.Nodup
  page : ∀ size, ∃ after, nextPage crc target (.page size) pager = some after ∧ after.owner = pager.owner ∧
    after.seen = (target.events pager.owner.store.log).take (pager.seen.length + size.toNat)
  complete : ∀ sizes : List UInt64, (∀ size ∈ sizes, 1 ≤ size.toNat) →
    (target.events pager.owner.store.log).length ≤ pager.seen.length + sizes.length →
    ∃ after, feed (nextPage crc target) (sizes.map .page) pager = some after ∧
      after.seen = target.events pager.owner.store.log

section
variable {log : EventLog} (wellFormed : WellFormed log) (target : Target)
include wellFormed

theorem numbered_events : Numbered (fun event => (target.number event).toNat) 0 (target.events log) := by
  cases target with
  | all => exact wellFormed.positions
  | stream streamId => exact wellFormed.versions streamId

theorem length_events_le : (target.events log).length ≤ isizeMax := by
  cases target with
  | all => exact wellFormed.capacity
  | stream streamId => exact wellFormed.length_streamEvents_le streamId

theorem target_read (start size : UInt64) :
    target.read log start size = ok (window start.toNat (start.toNat + size.toNat) (target.events log)) ∨
      ∃ error, target.read log start size = err error ∧ target.events log = [] := by
  cases target with
  | all => exact .inl (readAll_eq wellFormed start size)
  | stream streamId =>
    rcases readStream_eq wellFormed streamId start size with read | ⟨read, none⟩
    · exact .inl read
    · exact .inr ⟨_, read, none⟩

end

structure Sound (target : Target) (pager : Pager) : Prop where
  wellFormed : WellFormed pager.owner.store.log
  inOrder : pager.seen <+: target.events pager.owner.store.log

section
variable {crc : Crc32fast} {target : Target} {pager : Pager} (sound : Sound target pager)
include sound

theorem start_eq : (pager.start target).toNat = pager.seen.length := by
  obtain ⟨rest, split⟩ := sound.inOrder
  have numbered := numbered_events sound.wellFormed target
  have bound := length_events_le sound.wellFormed target
  rw [← split, numbered_append] at numbered
  rw [← split, List.length_append, isizeMax] at bound
  rw [Pager.start, List.getLast?_eq_getElem?]
  split
  next nothing =>
    have empty := List.getElem?_eq_none_iff.mp nothing
    show 0 = pager.seen.length
    omega
  next event here =>
    obtain ⟨inside, -⟩ := List.getElem?_eq_some_iff.mp here
    have number := numbered.1.getElem? here
    rw [succ_toNat _ (by omega), number]
    omega

theorem page_takes (size : UInt64) :
    ∃ after, nextPage crc target (.page size) pager = some after ∧ after.owner = pager.owner ∧
      after.seen = (target.events pager.owner.store.log).take (pager.seen.length + size.toNat) := by
  obtain ⟨rest, split⟩ := sound.inOrder
  rw [nextPage]
  rcases target_read sound.wellFormed target (pager.start target) size with read | ⟨error, read, nothing⟩
  · refine ⟨{ pager with seen := pager.seen ++ _ }, by rw [read], rfl, ?_⟩
    rw [start_eq sound, window, ← split, List.take_length_add_append, List.drop_left]
  · refine ⟨pager, by rw [read], rfl, ?_⟩
    rw [nothing] at split
    rw [nothing, List.take_nil]
    exact (List.append_eq_nil_iff.mp split).1

theorem sound_page {size : UInt64} {after : Pager} (moved : nextPage crc target (.page size) pager = some after) :
    Sound target after := by
  obtain ⟨other, moved', owner, seen⟩ := @page_takes crc target pager sound size
  rw [moved'] at moved
  cases moved
  constructor
  · rw [owner]
    exact sound.wellFormed
  · rw [owner, seen]
    exact List.take_prefix _ _

theorem pages_complete (sizes : List UInt64) (filled : ∀ size ∈ sizes, 1 ≤ size.toNat)
    (enough : (target.events pager.owner.store.log).length ≤ pager.seen.length + sizes.length) :
    ∃ after, feed (nextPage crc target) (sizes.map .page) pager = some after ∧
      after.seen = target.events pager.owner.store.log := by
  induction sizes generalizing pager with
  | nil => exact ⟨pager, rfl, sound.inOrder.eq_of_length_le enough⟩
  | cons size sizes ih =>
    obtain ⟨middle, moved, owner, seen⟩ := @page_takes crc target pager sound size
    have some := filled size (List.mem_cons_self ..)
    have reached : (target.events middle.owner.store.log).length ≤ middle.seen.length + sizes.length := by
      rw [List.length_cons] at enough
      rw [owner, seen, List.length_take]
      omega
    obtain ⟨after, fed, all⟩ := ih (sound_page sound moved)
      (fun other member => filled other (List.mem_cons_of_mem _ member)) reached
    refine ⟨after, ?_, by rw [all, owner]⟩
    rw [List.map_cons, feed, moved]
    exact fed

end

theorem events_extended (target : Target) (log : EventLog) (streamId : Uuid) (recorded : List RecordedEvent) :
    target.events log <+: target.events (extended log streamId recorded) := by
  cases target with
  | all => exact List.prefix_append _ _
  | stream other =>
    rw [Target.events, Target.events, extended, streamEvents_append]
    exact List.prefix_append _ _

theorem sound_life {crc : Crc32fast} {target : Target} {pager : Pager} {step : Step} {owner : Owner}
    (sound : Sound target pager) (grows : step ≠ .reopen)
    (moved : next crc step pager.owner = some owner) : Sound target { pager with owner } := by
  rcases next_store moved with ⟨same, -⟩ | ⟨call, batch, -, accepts, fits, storeEq⟩ | ⟨reopened, -⟩
  · exact ⟨by rw [same]; exact sound.wellFormed, by rw [same]; exact sound.inOrder⟩
  · have log : owner.store.log = extended pager.owner.store.log call.streamId batch.events := by rw [storeEq]; rfl
    constructor
    · rw [log]
      exact (Accepts.continues sound.wellFormed accepts fits).wellFormed sound.wellFormed fits
    · rw [log]
      exact sound.inOrder.trans (events_extended target _ _ _)
  · exact absurd reopened grows

theorem sound_next (crc : Crc32fast) (target : Target) (pager : Pager) (step : PageStep) (after : Pager)
    (sound : Sound target pager) (between : Between pager step) (moved : nextPage crc target step pager = some after) :
    Sound target after := by
  cases step with
  | page size => exact sound_page sound moved
  | life step =>
    rw [nextPage, Option.map_eq_some_iff] at moved
    obtain ⟨owner, lived, rfl⟩ := moved
    exact sound_life sound between lived

theorem Sound.paged {crc : Crc32fast} {target : Target} {pager : Pager} (sound : Sound target pager) :
    Paged crc target pager where
  inOrder := sound.inOrder
  once := by
    have numbered : (target.events pager.owner.store.log).map (fun event => (target.number event).toNat) = _ :=
      numbered_events sound.wellFormed target
    have distinct : (target.events pager.owner.store.log).Nodup := by
      apply List.Nodup.of_map (fun event => (target.number event).toNat)
      rw [numbered]
      exact List.nodup_range'
    exact distinct.sublist sound.inOrder.sublist
  page := page_takes sound
  complete := pages_complete sound

/-- In every state that non-empty appends and clean reopens lead to, for all arguments. -/
theorem reads_filter_the_log (crc : Crc32fast) (owner : Owner)
    (run : Reaches (next crc) Clean (.caller Store.create) owner) :
    ReadsFilter owner.store ∧
      ∀ target pager, Reaches (nextPage crc target) Between ⟨owner, []⟩ pager → Paged crc target pager := by
  have wellFormed := wellFormed_of_run (fun _ _ clean => clean.2) run
  have canonical : Canonical owner.store.log := @canonical_of_run crc Clean none _ _ _ rfl (fun _ _ clean => clean.1) run
  refine ⟨readsFilter wellFormed canonical, ?_⟩
  intro target pager pages
  have sound := pages.invariant (Sound target) ⟨wellFormed, List.nil_prefix⟩ (sound_next crc target)
  exact sound.paged

theorem reads_filter_the_log_two_streams :
    ∃ owner pager, Reaches (next Crc32fast.ieee) Clean (.caller Store.create) owner ∧
      Reaches (nextPage Crc32fast.ieee (.stream (idOf 1))) Between ⟨owner, []⟩ pager ∧
      pager.seen.map (·.eventId) = [idOf 2] ∧ pager.owner.store.log.events.length = 4 ∧
      ReadsFilter owner.store ∧ Paged Crc32fast.ieee (.stream (idOf 1)) pager := by
  have run := reaches_twoStreams Crc32fast.ieee
  obtain ⟨filters, paged⟩ := reads_filter_the_log Crc32fast.ieee _ run
  have paging : Reaches (nextPage Crc32fast.ieee (.stream (idOf 1))) Between ⟨.caller (twoStreams Crc32fast.ieee), []⟩
      ⟨.caller (twoStreams Crc32fast.ieee), otherBatch.events.take 1⟩ :=
    .single ⟨.page 1, Nat.le_refl 1, by rfl⟩
  have accepts := accepts_batchOf (twoStreams Crc32fast.ieee).log _ (plainCall_valid 1 .any [4]) rfl
  have grown := @next_accepts Crc32fast.ieee (twoStreams Crc32fast.ieee) _ _ accepts (by decide)
  have pages := paging.tail ⟨.life (.append .none (plainCall 1 .any [4])), by simp [Between], by rw [nextPage, grown]; rfl⟩
  exact ⟨_, _, run, pages, rfl, rfl, filters, paged _ _ pages⟩

end EventfoldDb.Paging
