import EventfoldDb.ServerRuns

/-! How the server stops: it answers what it has accepted, drops its handles, and waits for the writer
task. -/

namespace EventfoldDb.Shutdown
open Outcome Recovery AppendSpec WriterSpec WriterHandle FanOut Launch Server Server.Process ServerRuns Evolution Machine

/-! ### Open subscriptions -/

section
variable {crc : Crc32fast} {hub after : Hub} {index : Nat}

theorem poll_replaces (moved : Hub.next crc (.poll index) hub = some after) :
    ∃ old new, hub.subscribers[index]? = some old ∧ old.alive = true ∧ after.subscribers = hub.subscribers.set index new := by
  obtain ⟨subscriber, here, rest⟩ := Option.bind_eq_some_iff.mp moved
  obtain ⟨polled, pollMoved, same⟩ := Option.bind_eq_some_iff.mp rest
  cases same
  refine ⟨subscriber, polled, here, ?_, rfl⟩
  rw [alive_iff]
  intro ended
  rw [Subscriber.poll, ended] at pollMoved
  cases pollMoved

theorem drop_replaces (moved : Hub.next crc (.drop index) hub = some after) :
    ∃ old new, hub.subscribers[index]? = some old ∧ old.alive = true ∧ after.subscribers = hub.subscribers.set index new := by
  obtain ⟨subscriber, here, rest⟩ := Option.bind_eq_some_iff.mp moved
  split_ifs at rest with alive
  cases rest
  exact ⟨subscriber, _, here, alive, rfl⟩

end

def Gauged (process : Process) : Prop :=
  process.subscriptionsActive = (process.subscribers.countP Subscriber.alive : Int)

section
variable {crc : Crc32fast} {parser : UuidParser} {decode : Decoder} {process after : Process} {step : Step}

theorem Gauged.withHub (gauged : Gauged process) {index : Nat} {hub : Hub} {old new : Subscriber}
    (here : process.subscribers[index]? = some old) (alive : old.alive = true)
    (same : hub.subscribers = process.subscribers.set index new) : Gauged (process.withHub index hub) := by
  have count := countP_set_add Subscriber.alive here new
  obtain ⟨inside, _⟩ := List.getElem?_eq_some_iff.mp here
  rw [if_pos alive] at count
  rw [Gauged] at gauged
  rw [Gauged, Process.withHub]
  dsimp only
  rw [same, List.getElem?_set_self inside, Option.elim_some, gauged]
  split_ifs at count ⊢ <;> omega

theorem Gauged.next (gauged : Gauged process) (moves : Moves crc parser decode process step after) : Gauged after := by
  cases moves with
  | rejected | called | served | opened | watched | worked | published | answered | withdrawn | missed | closed
  | unwatched | signalled | released | joined => exact gauged
  | subscribed index exchange target start hub here progress moved =>
    rw [Hub.next] at moved
    split_ifs at moved
    cases moved
    show process.subscriptionsActive + 1 = ((process.subscribers ++ [_]).countP Subscriber.alive : Int)
    rw [List.countP_append, gauged]
    rfl
  | polled index place exchange hub here progress moved =>
    obtain ⟨old, new, found, alive, same⟩ := poll_replaces moved
    exact gauged.withHub found alive same
  | dropped index place exchange hub here progress moved =>
    obtain ⟨old, new, found, alive, same⟩ := drop_replaces moved
    exact gauged.withHub found alive same

end

/-! ### The stages -/

def serving : Stage → Bool
  | .listening => true
  | .draining => true
  | .joining => false
  | .stopped => false
  | .panicked => false

/-- Handles are held as long as requests are served, and nothing is served afterwards. -/
structure Staged (process : Process) : Prop where
  handles : process.system.handles = if serving process.stage then 2 else 0
  idle : serving process.stage = false → ∀ exchange ∈ process.exchanges, process.inFlight exchange = false
  stopped : process.stage = .stopped → process.system.status = .finished
  panicked : process.stage = .panicked → process.system.status = .panicked

section
variable {crc : Crc32fast} {system after : WriterSystem} {step : WriterSystem.Step}

theorem handles_of_moves (moves : WriterHandle.Moves crc system step after) (noClone : step ≠ .clone)
    (noDrop : step ≠ .drop) : after.handles = system.handles := by
  cases moves with
  | clone => exact absurd rfl noClone
  | drop => exact absurd rfl noDrop
  | append | send | refused | answered | dropped | cancel | recv | stamp | panic | own | abort | exit => rfl

theorem status_of_moves (moves : WriterHandle.Moves crc system step after) (ended : system.status ≠ .running) :
    after.status = system.status := by
  cases moves with
  | clone | drop | append | send | refused | answered | dropped | cancel | recv | stamp | own => rfl
  | panic fault running => exact absurd running ended
  | abort running => exact absurd running ended
  | exit running => exact absurd running ended

end

section
variable {crc : Crc32fast} {parser : UuidParser} {decode : Decoder} {process after : Process} {step : Step}

theorem staged_of_serving (serves : serving process.stage = true) (handles : process.system.handles = 2) :
    Staged process where
  handles := by rw [handles, if_pos serves]
  idle := by
    intro ended
    rw [serves] at ended
    cases ended
  stopped := by
    intro stopped
    rw [stopped] at serves
    cases serves
  panicked := by
    intro panicked
    rw [panicked] at serves
    cases serves

theorem Staged.serving_of_inFlight (staged : Staged process) {index : Nat} {exchange : Exchange}
    (here : process.exchanges[index]? = some exchange) (flying : process.inFlight exchange = true) :
    serving process.stage = true := by
  by_contra ended
  rw [staged.idle (eq_false_of_ne_true ended) exchange (List.mem_of_getElem? here)] at flying
  cases flying

theorem Staged.serve (staged : Staged process) (serves : serving process.stage = true)
    (stage : after.stage = process.stage)
    (handles : after.system.handles = process.system.handles) : Staged after := by
  apply staged_of_serving
  · rw [stage, serves]
  · rw [handles, staged.handles, if_pos serves]

theorem Staged.work (staged : Staged process) {inner : WriterSystem.Step} {system : WriterSystem}
    (own : working inner = true) (moved : WriterSystem.next crc inner process.system = some system)
    (same : after.system = system) (stage : after.stage = process.stage)
    (exchanges : after.exchanges = process.exchanges)
    (subscribers : after.subscribers = process.subscribers) : Staged after := by
  have moves := WriterHandle.moves_of_next moved
  have handles : system.handles = process.system.handles := by
    apply handles_of_moves moves
    · intro isClone
      rw [isClone] at own
      cases own
    · intro isDrop
      rw [isDrop] at own
      cases own
  constructor
  case handles => rw [same, handles, stage, staged.handles]
  case idle =>
    intro ended exchange member
    rw [exchanges] at member
    rw [stage] at ended
    have idle := staged.idle ended exchange member
    rwa [Process.inFlight, ← subscribers] at idle
  case stopped =>
    intro stopped
    have finished := staged.stopped (stage.symm.trans stopped)
    rw [same, status_of_moves moves (by rw [finished]; decide), finished]
  case panicked =>
    intro panicked
    have failed := staged.panicked (stage.symm.trans panicked)
    rw [same, status_of_moves moves (by rw [failed]; decide), failed]

theorem inFlight_appending {exchange : Exchange} {call : Nat} (progress : exchange.progress = .appending call) :
    process.inFlight exchange = true := by
  rw [Process.inFlight, progress]

theorem inFlight_opened {exchange : Exchange} {target : Target} {start : UInt64}
    (progress : exchange.progress = .opened target start) : process.inFlight exchange = true := by
  rw [Process.inFlight, progress]

theorem inFlight_watching {exchange : Exchange} (progress : exchange.progress = .watching) :
    process.inFlight exchange = true := by
  rw [Process.inFlight, progress]

theorem inFlight_streaming {exchange : Exchange} {index : Nat} {subscriber : Subscriber}
    (progress : exchange.progress = .streaming index) (here : process.subscribers[index]? = some subscriber)
    (alive : subscriber.alive = true) : process.inFlight exchange = true := by
  rw [Process.inFlight, progress]
  dsimp only
  rw [here]
  exact alive

theorem serving_of_listening (listening : process.stage = .listening) : serving process.stage = true := by
  rw [listening]
  rfl

theorem Staged.next (staged : Staged process) (moves : Moves crc parser decode process step after) : Staged after := by
  cases moves with
  | rejected authorization now rpc iteration message listening refused =>
    exact staged.serve (serving_of_listening listening) rfl rfl
  | called authorization now rpc iteration request system listening admitted asks moved =>
    refine staged.serve (serving_of_listening listening) rfl ?_
    exact handles_of_moves (WriterHandle.moves_of_next moved) (fun impossible => by cases impossible)
      (fun impossible => by cases impossible)
  | served authorization now rpc iteration reply listening admitted modest =>
    exact staged.serve (serving_of_listening listening) rfl rfl
  | opened authorization now rpc iteration target start listening admitted opens =>
    exact staged.serve (serving_of_listening listening) rfl rfl
  | watched authorization now iteration listening => exact staged.serve (serving_of_listening listening) rfl rfl
  | worked step system own quiet moved => exact staged.work own moved rfl rfl rfl rfl
  | published system moved => exact @Staged.work crc process _ staged .publish system rfl moved rfl rfl rfl rfl
  | answered index place exchange made result here progress found returned =>
    exact staged.serve (staged.serving_of_inFlight here (inFlight_appending progress)) rfl rfl
  | subscribed index exchange target start hub here progress moved =>
    exact staged.serve (staged.serving_of_inFlight here (inFlight_opened progress)) rfl rfl
  | polled index place exchange hub here progress moved =>
    obtain ⟨old, _, found, alive, _⟩ := poll_replaces moved
    exact staged.serve (staged.serving_of_inFlight here (inFlight_streaming progress found alive)) rfl rfl
  | withdrawn index place exchange system here progress moved =>
    refine staged.serve (staged.serving_of_inFlight here (inFlight_appending progress)) rfl ?_
    exact handles_of_moves (WriterHandle.moves_of_next moved) (fun impossible => by cases impossible)
      (fun impossible => by cases impossible)
  | missed index place exchange here progress finished =>
    exact staged.serve (staged.serving_of_inFlight here (inFlight_appending progress)) rfl rfl
  | closed index exchange target start here progress =>
    exact staged.serve (staged.serving_of_inFlight here (inFlight_opened progress)) rfl rfl
  | unwatched index exchange here progress =>
    exact staged.serve (staged.serving_of_inFlight here (inFlight_watching progress)) rfl rfl
  | dropped index place exchange hub here progress moved =>
    obtain ⟨old, _, found, alive, _⟩ := drop_replaces moved
    exact staged.serve (staged.serving_of_inFlight here (inFlight_streaming progress found alive)) rfl rfl
  | signalled listening =>
    apply staged_of_serving
    · rfl
    · show process.system.handles = 2
      rw [staged.handles, if_pos (serving_of_listening listening)]
  | released half system draining idle first second =>
    have both : process.system.handles = 2 := by
      rw [staged.handles, draining]
      rfl
    have none : system.handles = 0 := by
      cases WriterHandle.moves_of_next first with
      | own _ _ _ same => cases same
      | drop =>
        cases WriterHandle.moves_of_next second with
        | own _ _ _ same => cases same
        | drop =>
          show process.system.handles - 1 - 1 = 0
          rw [both]
    exact ⟨none, fun _ => idle, (fun impossible => by cases impossible), (fun impossible => by cases impossible)⟩
  | joined stage joining finished same =>
    have nobody : process.system.handles = 0 := by
      rw [staged.handles, joining]
      rfl
    have idle := staged.idle (by rw [joining]; rfl)
    by_cases clean : process.system.status = .finished
    · rw [if_pos clean] at same
      rw [same]
      exact ⟨nobody, fun _ => idle, fun _ => clean, (fun impossible => by cases impossible)⟩
    · rw [if_neg clean] at same
      have failed : process.system.status = .panicked := by
        cases status : process.system.status with
        | running => exact absurd status finished
        | finished => exact absurd status clean
        | panicked => rfl
      rw [same]
      exact ⟨nobody, fun _ => idle, (fun impossible => by cases impossible), fun _ => failed⟩

end

/-! ### Calls of the requests in flight -/

/-- Every request that waits for the writer has a call of its own, which nobody has given up. -/
structure Answerable (process : Process) : Prop where
  distinct : ∀ (i j : Nat) (first second : Exchange) (call : Nat), process.exchanges[i]? = some first →
    process.exchanges[j]? = some second → first.progress = .appending call → second.progress = .appending call → i = j
  waited : ∀ (i : Nat) (exchange : Exchange) (index : Nat) (call : Call), process.exchanges[i]? = some exchange →
    exchange.progress = .appending index → process.system.calls[index]? = some call → call.phase ≠ .cancelled

section
variable {crc : Crc32fast} {system after : WriterSystem} {step : WriterSystem.Step}

theorem replaced_back {calls later : List Call} {index place : Nat} {call other found : Call}
    (replaced : Replaced calls index call other later) (here : later[place]? = some found) :
    place = index ∧ found = other ∨ calls[place]? = some found := by
  rw [replaced.set] at here
  by_cases hit : index = place
  · obtain ⟨inside, _⟩ := List.getElem?_eq_some_iff.mp replaced.here
    rw [← hit, List.getElem?_set_self inside] at here
    exact .inl ⟨hit.symm, (Option.some.inj here).symm⟩
  · rw [List.getElem?_set_ne hit] at here
    exact .inr here

theorem cancelled_back (moves : WriterHandle.Moves crc system step after) {place : Nat} {call : Call}
    (here : after.calls[place]? = some call) (cancelled : call.phase = .cancelled) :
    step = .cancel place ∨ system.calls[place]? = some call := by
  cases moves with
  | clone | drop | recv | stamp | panic | own | abort | exit => exact .inr here
  | append request handle =>
    rcases getElem?_snoc here with old | ⟨_, new⟩
    · exact .inr old
    · rw [new] at cancelled
      cases cancelled
  | send index request calls running room replaced =>
    rcases replaced_back replaced here with ⟨_, new⟩ | old
    · rw [new] at cancelled
      cases cancelled
    · exact .inr old
  | refused index request calls ended replaced =>
    rcases replaced_back replaced here with ⟨_, new⟩ | old
    · rw [new] at cancelled
      cases cancelled
    · exact .inr old
  | answered index request answer calls found replaced =>
    rcases replaced_back replaced here with ⟨_, new⟩ | old
    · rw [new] at cancelled
      cases cancelled
    · exact .inr old
  | dropped index request number calls nothing ended replaced =>
    rcases replaced_back replaced here with ⟨_, new⟩ | old
    · rw [new] at cancelled
      cases cancelled
    · exact .inr old
  | cancel index made calls pending replaced =>
    rcases replaced_back replaced here with ⟨same, _⟩ | old
    · rw [same]
      exact .inl rfl
    · exact .inr old

end

section
variable {crc : Crc32fast} {parser : UuidParser} {decode : Decoder} {process after : Process} {step : Step}

theorem Answerable.same (answerable : Answerable process) (exchanges : after.exchanges = process.exchanges)
    (calls : ∀ (index : Nat) (call : Call), after.system.calls[index]? = some call → call.phase = .cancelled →
      process.system.calls[index]? = some call) : Answerable after := by
  constructor
  · rw [exchanges]
    exact answerable.distinct
  · rw [exchanges]
    intro i exchange index call here appending found cancelled
    exact answerable.waited i exchange index call here appending (calls index call found cancelled) cancelled

theorem Answerable.snoc (answerable : Answerable process) {exchange : Exchange}
    (exchanges : after.exchanges = process.exchanges ++ [exchange])
    (new : ∀ index, exchange.progress = .appending index → process.system.calls.length ≤ index ∧
      ∀ call, after.system.calls[index]? = some call → call.phase ≠ .cancelled)
    (old : ∀ other ∈ process.exchanges, ∀ index, other.progress = .appending index → index < process.system.calls.length)
    (calls : ∀ (index : Nat) (call : Call), after.system.calls[index]? = some call → call.phase = .cancelled →
      process.system.calls[index]? = some call) : Answerable after := by
  have apart : ∀ (i : Nat) (other : Exchange) (index : Nat), process.exchanges[i]? = some other →
      other.progress = .appending index → exchange.progress ≠ .appending index := by
    intro i other index here appending same
    have := old other (List.mem_of_getElem? here) index appending
    have := (new index same).1
    omega
  constructor
  · rw [exchanges]
    intro i j first second call atFirst atSecond appending again
    rcases getElem?_snoc atFirst with oldFirst | ⟨lastFirst, isFirst⟩
    · rcases getElem?_snoc atSecond with oldSecond | ⟨_, isSecond⟩
      · exact answerable.distinct i j first second call oldFirst oldSecond appending again
      · rw [isSecond] at again
        exact absurd again (apart i first call oldFirst appending)
    · rcases getElem?_snoc atSecond with oldSecond | ⟨lastSecond, _⟩
      · rw [isFirst] at appending
        exact absurd appending (apart j second call oldSecond again)
      · rw [lastFirst, lastSecond]
  · rw [exchanges]
    intro i other index call here appending found
    rcases getElem?_snoc here with isOld | ⟨_, isNew⟩
    · intro cancelled
      exact answerable.waited i other index call isOld appending (calls index call found cancelled) cancelled
    · rw [isNew] at appending
      exact (new index appending).2 call found

theorem Answerable.put (answerable : Answerable process) {index : Nat} {exchange : Exchange} {progress : Progress}
    (here : process.exchanges[index]? = some exchange)
    (exchanges : after.exchanges = process.exchanges.set index { exchange with progress })
    (done : ∀ call, progress ≠ .appending call)
    (calls : ∀ (place : Nat) (call : Call), after.system.calls[place]? = some call → call.phase = .cancelled →
      exchange.progress = .appending place ∨ process.system.calls[place]? = some call) : Answerable after := by
  obtain ⟨inside, _⟩ := List.getElem?_eq_some_iff.mp here
  have back : ∀ (i : Nat) (other : Exchange) (call : Nat), after.exchanges[i]? = some other →
      other.progress = .appending call → i ≠ index ∧ process.exchanges[i]? = some other := by
    intro i other call found appending
    rw [exchanges] at found
    by_cases hit : index = i
    · rw [← hit, List.getElem?_set_self inside] at found
      cases found
      exact absurd appending (done call)
    · rw [List.getElem?_set_ne hit] at found
      exact ⟨fun same => hit same.symm, found⟩
  constructor
  · intro i j first second call atFirst atSecond appending again
    exact answerable.distinct i j first second call (back i first call atFirst appending).2
      (back j second call atSecond again).2 appending again
  · intro i other place call found appending present cancelled
    obtain ⟨elsewhere, before⟩ := back i other place found appending
    rcases calls place call present cancelled with own | old
    · exact elsewhere (answerable.distinct i index other exchange place before here appending own)
    · exact answerable.waited i other place call before appending old cancelled

theorem Answerable.next (answerable : Answerable process) (traced : Traced parser decode process)
    (moves : Moves crc parser decode process step after) : Answerable after := by
  have old : ∀ other ∈ process.exchanges, ∀ index, other.progress = .appending index →
      index < process.system.calls.length := by
    intro other member index appending
    obtain ⟨call, here, _⟩ := (traced.exchanges other member).appending index appending
    exact (List.getElem?_eq_some_iff.mp here).1
  cases moves with
  | rejected authorization now rpc iteration message listening refused =>
    exact answerable.snoc rfl (fun _ impossible => by cases impossible) old (fun _ _ here _ => here)
  | served authorization now rpc iteration reply listening admitted modest =>
    exact answerable.snoc rfl (fun _ impossible => by cases impossible) old (fun _ _ here _ => here)
  | opened authorization now rpc iteration target start listening admitted opens =>
    exact answerable.snoc rfl (fun _ impossible => by cases impossible) old (fun _ _ here _ => here)
  | watched authorization now iteration listening =>
    exact answerable.snoc rfl (fun _ impossible => by cases impossible) old (fun _ _ here _ => here)
  | called authorization now rpc iteration request system listening admitted asks moved =>
    have back : ∀ (index : Nat) (call : Call), system.calls[index]? = some call → call.phase = .cancelled →
        process.system.calls[index]? = some call := by
      intro index call here cancelled
      rcases cancelled_back (WriterHandle.moves_of_next moved) here cancelled with impossible | earlier
      · cases impossible
      · exact earlier
    refine answerable.snoc rfl ?_ old back
    intro index appending
    cases appending
    refine ⟨Nat.le_refl _, ?_⟩
    intro call here cancelled
    obtain ⟨inside, _⟩ := List.getElem?_eq_some_iff.mp (back _ call here cancelled)
    omega
  | worked step system own quiet moved =>
    refine answerable.same rfl ?_
    intro index call here cancelled
    rcases cancelled_back (WriterHandle.moves_of_next moved) here cancelled with isCancel | earlier
    · rw [isCancel] at own
      cases own
    · exact earlier
  | published system moved =>
    refine answerable.same rfl ?_
    intro index call here cancelled
    rcases cancelled_back (WriterHandle.moves_of_next moved) here cancelled with impossible | earlier
    · cases impossible
    · exact earlier
  | answered index place exchange made result here progress found returned =>
    exact answerable.put here rfl (fun _ impossible => by cases impossible) (fun _ _ present _ => .inr present)
  | subscribed index exchange target start hub here progress moved =>
    exact answerable.put here rfl (fun _ impossible => by cases impossible) (fun _ _ present _ => .inr present)
  | polled index place exchange hub here progress moved => exact answerable.same rfl (fun _ _ present _ => present)
  | withdrawn index place exchange system here progress moved =>
    refine answerable.put here rfl (fun _ impossible => by cases impossible) ?_
    intro other call present cancelled
    rcases cancelled_back (WriterHandle.moves_of_next moved) present cancelled with own | earlier
    · cases own
      exact .inl progress
    · exact .inr earlier
  | missed index place exchange here progress finished =>
    exact answerable.put here rfl (fun _ impossible => by cases impossible) (fun _ _ present _ => .inr present)
  | closed index exchange target start here progress =>
    exact answerable.put here rfl (fun _ impossible => by cases impossible) (fun _ _ present _ => .inr present)
  | unwatched index exchange here progress =>
    exact answerable.put here rfl (fun _ impossible => by cases impossible) (fun _ _ present _ => .inr present)
  | dropped index place exchange hub here progress moved =>
    exact answerable.put here rfl (fun _ impossible => by cases impossible) (fun _ _ present _ => .inr present)
  | signalled listening => exact answerable.same rfl (fun _ _ present _ => present)
  | joined stage joining finished same => exact answerable.same rfl (fun _ _ present _ => present)
  | released half system draining idle first second =>
    refine answerable.same rfl ?_
    intro index call here cancelled
    rcases cancelled_back (WriterHandle.moves_of_next second) here cancelled with impossible | halfway
    · cases impossible
    · rcases cancelled_back (WriterHandle.moves_of_next first) halfway cancelled with impossible | earlier
      · cases impossible
      · exact earlier

end

/-! ### Steps that nobody has to ask for -/

/-- Those of the writer and of its callers, the replies, and those of `main`. Streams are polled as
their clients take what they yield. -/
def internal : Step → Bool
  | .writer step => CallProgress.internal step
  | .reply _ => true
  | .release => true
  | .join => true
  | .request _ _ _ _ => false
  | .poll _ => false
  | .disconnect _ => false
  | .signal => false

def appending (exchange : Exchange) : Bool :=
  match exchange.progress with
  | .appending _ => true
  | _ => false

/-- What `main` has still to do after the server has returned, and before. -/
def ahead : Stage → Nat
  | .listening => 2
  | .draining => 2
  | .joining => 1
  | .stopped => 0
  | .panicked => 0

def remaining (process : Process) : Nat :=
  CallProgress.remaining process.system + process.exchanges.countP appending + ahead process.stage

section
variable {crc : Crc32fast} {parser : UuidParser} {decode : Decoder} {process after : Process} {step : Step}

theorem decreases (kept : WriterHandle.Kept process.system) (moves : Moves crc parser decode process step after)
    (own : internal step = true) : remaining after < remaining process := by
  cases moves with
  | rejected | called | served | opened | watched | subscribed | polled | withdrawn | missed | closed | unwatched | dropped
  | signalled => cases own
  | worked step system working quiet moved =>
    have less := CallProgress.decreases kept (WriterHandle.moves_of_next moved) own
    rw [remaining, remaining]
    dsimp only
    omega
  | published system moved =>
    have less := CallProgress.decreases kept (WriterHandle.moves_of_next moved) own
    rw [remaining, remaining]
    dsimp only
    omega
  | answered index place exchange made result here progress found returned =>
    have count := countP_set_add appending here { exchange with progress := .replied (Process.answer result) }
    have waits : appending exchange = true := by rw [appending, progress]
    have done : appending { exchange with progress := .replied (Process.answer result) } = false := rfl
    rw [if_pos waits, done, if_neg (by decide)] at count
    rw [remaining, remaining, Process.put]
    dsimp only
    omega
  | released half system draining idle first second =>
    have same : CallProgress.remaining system = CallProgress.remaining process.system := by
      cases WriterHandle.moves_of_next first with
      | own _ _ _ same => cases same
      | drop =>
        cases WriterHandle.moves_of_next second with
        | own _ _ _ same => cases same
        | drop => rfl
    rw [remaining, remaining, same, draining]
    exact Nat.lt_succ_self _
  | joined stage joining finished same =>
    have last : ahead stage = 0 := by
      rw [same]
      split_ifs <;> rfl
    rw [remaining, remaining, last, joining]
    exact Nat.lt_succ_self _

end

/-! ### When nothing more can be done -/

/-- No request waits for the writer, `main` waits for nothing but streams of subscriptions or of the
health service, and there is one. -/
structure Rests (process : Process) : Prop where
  system : CallProgress.AtRest process.system
  replied : ∀ exchange ∈ process.exchanges, ∀ call, exchange.progress ≠ .appending call
  joined : process.stage ≠ .joining
  waits : process.stage = .draining → ∃ exchange ∈ process.exchanges, process.inFlight exchange = true ∧
    ((∃ target start, exchange.progress = .opened target start) ∨
      (∃ subscriber, exchange.progress = .streaming subscriber) ∨ exchange.progress = .watching)

section
variable {crc : Crc32fast} {parser : UuidParser} {decode : Decoder} {process : Process}

theorem working_of_internal {step : WriterSystem.Step} (own : CallProgress.internal step = true) :
    working step = true := by
  cases step with
  | clone | drop | append | cancel => exact own
  | send | response | recv | stamp | serve | publish | respond | exit | abort => rfl

theorem system_stuck
    (stuck : ∀ step, internal step = true → Process.next crc parser decode step process = none) :
    ¬CallProgress.GoesOn crc process.system := by
  rintro ⟨step, own, moves⟩
  have blocked := stuck (.writer step) own
  rw [Process.next, if_pos (working_of_internal own), Option.map_eq_none_iff] at blocked
  rw [blocked] at moves
  cases moves

theorem reply_of_returned {index place : Nat} {exchange : Exchange} {call : Call}
    {result : Except Error (List RecordedEvent)} (here : process.exchanges[index]? = some exchange)
    (progress : exchange.progress = .appending place) (found : process.system.calls[place]? = some call)
    (returned : call.phase = .returned result) :
    (Process.next crc parser decode (.reply index) process).isSome := by
  obtain ⟨authorization, receivedAt, rpc, _⟩ := exchange
  cases progress
  obtain ⟨request, number, _⟩ := call
  cases returned
  rw [Process.next, here]
  dsimp only
  rw [found]
  rfl

theorem release_of_idle (draining : process.stage = .draining)
    (idle : ∀ exchange ∈ process.exchanges, process.inFlight exchange = false) (handles : process.system.handles = 2)
    (rest : process.system.pending = false) : (Process.next crc parser decode .release process).isSome := by
  have all : process.exchanges.all (fun exchange => !process.inFlight exchange) = true := by
    rw [List.all_eq_true]
    intro exchange member
    rw [idle exchange member]
    rfl
  have first : WriterSystem.next crc .drop process.system = some { process.system with handles := 1 } := by
    rw [WriterSystem.next, handles, if_pos (.inl (by decide))]
  have second : WriterSystem.next crc .drop { process.system with handles := 1 } =
      some { process.system with handles := 0 } := if_pos (.inr ⟨rfl, rest⟩)
  rw [Process.next, if_pos ⟨draining, all⟩, first, Option.bind_some, second]
  rfl

theorem join_of_ended (joining : process.stage = .joining) (ended : process.system.status ≠ .running) :
    (Process.next crc parser decode .join process).isSome := by
  rw [Process.next, if_pos joining]
  cases status : process.system.status with
  | running => exact absurd status ended
  | finished => rfl
  | panicked => rfl

theorem rests_of_stuck (kept : WriterHandle.Kept process.system) (traced : Traced parser decode process)
    (staged : Staged process) (answerable : Answerable process)
    (stuck : ∀ step, internal step = true → Process.next crc parser decode step process = none) : Rests process := by
  have system : CallProgress.AtRest process.system := CallProgress.atRest_of_stuck kept (system_stuck stuck)
  have blocked : ∀ step, internal step = true → ¬(Process.next crc parser decode step process).isSome := by
    intro step own
    rw [stuck step own]
    exact Bool.false_ne_true
  have replied : ∀ exchange ∈ process.exchanges, ∀ call, exchange.progress ≠ .appending call := by
    intro exchange member place progress
    obtain ⟨index, here⟩ := List.mem_iff_getElem?.mp member
    obtain ⟨call, found, _⟩ := (traced.exchanges exchange member).appending place progress
    have ended := system.calls call (List.mem_of_getElem? found)
    have waited := answerable.waited index exchange place call here progress found
    cases phase : call.phase with
    | sending =>
      rw [phase] at ended
      cases ended
    | awaiting =>
      rw [phase] at ended
      cases ended
    | cancelled => exact waited phase
    | returned result => exact blocked (.reply index) rfl (reply_of_returned here progress found phase)
  refine ⟨system, replied, ?_, ?_⟩
  · intro joining
    have nobody : process.system.handles = 0 := by
      rw [staged.handles, joining]
      rfl
    exact blocked .join rfl (join_of_ended joining (system.ended nobody))
  · intro draining
    by_contra nothing
    have both : process.system.handles = 2 := by
      rw [staged.handles, draining]
      rfl
    have rest : process.system.pending = false := by
      rw [WriterSystem.pending, List.any_eq_false]
      intro call member
      rw [system.calls call member]
      exact Bool.false_ne_true
    refine blocked .release rfl (release_of_idle draining ?_ both rest)
    intro exchange member
    by_contra flying
    apply nothing
    refine ⟨exchange, member, eq_true_of_ne_false flying, ?_⟩
    cases progress : exchange.progress with
    | appending call => exact absurd progress (replied exchange member call)
    | opened target start => exact .inl ⟨target, start, rfl⟩
    | streaming subscriber => exact .inr (.inl ⟨subscriber, rfl⟩)
    | watching => exact .inr (.inr rfl)
    | replied reply => exact absurd (by rw [Process.inFlight, progress]) flying
    | cancelled => exact absurd (by rw [Process.inFlight, progress]) flying

end

/-! ### Whole runs -/

section
variable {Addr : Type} {crc : Crc32fast} {parser : UuidParser} {decode : Decoder} {platform : Platform}
  {config : Config Addr} {store : Store} {start process : Process}

theorem inOrder_of_run (started : Started platform config store start)
    (run : Reaches (Process.next crc parser decode) Process.Permitted start process) :
    Gauged process ∧ Staged process ∧ Answerable process := by
  induction run with
  | refl =>
    refine ⟨?_, staged_of_serving (serving_of_listening started.stage) ?_, ?_, ?_⟩
    · rw [Gauged, started.subscriptionsActive, started.subscribers]
      rfl
    · obtain ⟨spawned, isSpawned, same⟩ := started.system
      unfold spawnWriter at isSpawned
      split_ifs at isSpawned
      cases isSpawned
      rw [same]
    · intro i j first second call here
      rw [started.exchanges] at here
      cases here
    · intro i exchange index call here
      rw [started.exchanges] at here
      cases here
  | tail earlier step ih =>
    obtain ⟨label, _, moved⟩ := step
    obtain ⟨gauged, staged, answerable⟩ := ih
    have moves := moves_of_next moved
    exact ⟨gauged.next moves, staged.next moves, answerable.next (kept_of_run started earlier).traced moves⟩

theorem published_of_run {writer : Writer} {broker : Broker} {hub : Hub}
    (run : Reaches (Hub.next crc) always (Hub.start writer broker) hub) :
    hub.log.events = writer.store.log.events ++ hub.published ++ hub.task.unsent := by
  apply run.invariant (fun hub => hub.log.events = writer.store.log.events ++ hub.published ++ hub.task.unsent)
  · show writer.store.log.events = writer.store.log.events ++ [] ++ []
    rw [List.append_nil, List.append_nil]
  · intro before step after split _ moved
    cases step with
    | writer inner =>
      rw [Hub.next] at moved
      split_ifs at moved
      obtain ⟨task, taskMoved, same⟩ := Option.map_eq_some_iff.mp moved
      have grown := (next_grows taskMoved).2 _ split
      rw [← same, ← List.append_assoc]
      exact grown
    | close =>
      cases moved
      exact split
    | subscribe | poll | drop =>
      obtain ⟨task, published, _⟩ := hub_frame (fun _ impossible => by cases impossible)
        (fun impossible => by cases impossible) moved
      rw [Hub.log, task, published]
      exact split

structure Concluded (start process : Process) : Prop where
  answered : process.system.task.answers.length = process.system.task.submitted
  published : process.log.events = start.log.events ++ process.published
  streams : process.subscriptionsActive = 0

structure Orderly (start process : Process) : Prop where
  /-- The gauge and the broker agree on the streams that are served. -/
  gauge : process.subscriptionsActive = (process.subscribers.countP Subscriber.alive : Int)
  receivers : process.broker.tx.receivers = process.subscribers.countP Subscriber.alive
  /-- Nothing is cut off: when the server returns, every request is done. -/
  served : serving process.stage = false → ∀ exchange ∈ process.exchanges, process.inFlight exchange = false
  stopped : process.stage = .stopped → Concluded start process
  panicked : process.stage = .panicked → process.system.status = .panicked

theorem countP_alive_eq_zero (traced : Traced parser decode process)
    (idle : ∀ exchange ∈ process.exchanges, process.inFlight exchange = false) :
    process.subscribers.countP Subscriber.alive = 0 := by
  rw [List.countP_eq_zero]
  intro subscriber member alive
  obtain ⟨index, here⟩ := List.mem_iff_getElem?.mp member
  obtain ⟨exchange, present, streaming⟩ := traced.alive index subscriber here alive
  have flying := inFlight_streaming streaming here alive
  rw [idle exchange present] at flying
  cases flying

theorem concluded_of_stopped (started : Started platform config store start)
    (kept : ServerRuns.Kept crc parser decode platform config store process) (gauged : Gauged process)
    (staged : Staged process)
    (stopped : process.stage = .stopped) : Concluded start process := by
  have finished := staged.stopped stopped
  constructor
  case answered => exact (kept.systemKept.shutdown finished).1
  case published =>
    obtain ⟨broker, _, run⟩ := kept.hub
    have split := published_of_run run
    obtain ⟨_, ⟨_, unsent, _⟩, _⟩ := kept.systemKept.ended finished
    rw [show process.hub.task.unsent = [] from unsent, List.append_nil] at split
    rw [started_log started]
    exact split
  case streams =>
    have nobody := countP_alive_eq_zero kept.traced (staged.idle (by rw [stopped]; rfl))
    rw [gauged, nobody]
    rfl

end

theorem shutdown_orderly {Addr : Type} (crc : Crc32fast) (parsers : Parsers Addr) (host : Host Addr) (start : Process)
    (files : String → Option File) (launched : launch crc parsers host = (ok start, files)) (parser : UuidParser)
    (decode : Decoder) (process : Process)
    (run : Reaches (Process.next crc parser decode) Process.Permitted start process) : Orderly start process := by
  obtain ⟨config, store, _, _, started⟩ := started_of_launch launched
  obtain ⟨gauged, staged, _⟩ := inOrder_of_run started run
  have kept := kept_of_run started run
  obtain ⟨broker, created, hubRun⟩ := kept.hub
  obtain ⟨sent, mirrored⟩ := mirrored_of_run created hubRun
  exact ⟨gauged, mirrored.receivers, staged.idle, concluded_of_stopped started kept gauged staged, staged.panicked⟩

def signalled (crc : Crc32fast) : Process :=
  { visited "k" (firstTask crc) (some 0) .awaiting [] (.appending 0) with stage := .draining }

def halted (crc : Crc32fast) : Process :=
  { visited "k" (firstAnswered crc) (some 0) (.returned (.ok firstBatch.events)) firstBatch.events
      (.replied (Process.answer (.ok firstBatch.events))) with
    system := { oneCall (firstAnswered crc) 0 (some 0) (.returned (.ok firstBatch.events)) with
      handles := 0, status := .finished }
    stage := .stopped }

def lastSteps : List Step :=
  [.writer .publish, .writer .respond, .writer (.response 0), .reply 1, .release, .writer .exit, .join]

theorem reaches_signalled (crc : Crc32fast) :
    Reaches (Process.next crc plainParser plainDecode) Process.Permitted (plainServer "k" newSystem [] [])
      (signalled crc) :=
  (permitted_of_undisturbed (reaches_served crc "k")).tail ⟨.signal, trivial, rfl⟩

theorem feed_halted (crc : Crc32fast) :
    feed (Process.next crc plainParser plainDecode) lastSteps (signalled crc) = some (halted crc) := rfl

theorem shutdown_orderly_first :
    ∃ start files process, launch Crc32fast.ieee plainParsers (plainHost "k") = (ok start, files) ∧
      Reaches (Process.next Crc32fast.ieee plainParser plainDecode) Process.Permitted start process ∧
      process.stage = .stopped ∧ process.log.events.length = 1 ∧ Orderly start process := by
  have launched := launch_plain Crc32fast.ieee (show "k" ≠ "" by decide)
  have run := (reaches_signalled Crc32fast.ieee).trans
    (reaches_of_permitted lastSteps (by simp [lastSteps, Process.Permitted]) _ _ (feed_halted Crc32fast.ieee))
  exact ⟨_, _, _, launched, run, rfl, rfl,
    shutdown_orderly Crc32fast.ieee plainParsers (plainHost "k") _ _ launched plainParser plainDecode _ run⟩

/-- From any state that can be reached, the server makes a bounded number of steps on its own, in
whatever order. When it can make no more it has answered every append, and once a signal has come it
has stopped, or it waits for a client that keeps its stream open. -/
theorem shutdown_completes {Addr : Type} (crc : Crc32fast) (parsers : Parsers Addr) (host : Host Addr) (start : Process)
    (files : String → Option File) (launched : launch crc parsers host = (ok start, files)) (parser : UuidParser)
    (decode : Decoder) (process : Process)
    (run : Reaches (Process.next crc parser decode) Process.Permitted start process)
    (steps : List Step) (own : ∀ step ∈ steps, internal step = true) (after : Process)
    (fed : feed (Process.next crc parser decode) steps process = some after) :
    steps.length ≤ remaining process ∧
      ((∀ step, internal step = true → Process.next crc parser decode step after = none) → Rests after) := by
  obtain ⟨config, store, _, _, started⟩ := started_of_launch launched
  have permitted : ∀ (before : Process) (step : Step), internal step = true → before.Permitted step := by
    intro before step isInternal
    cases step with
    | request => cases isInternal
    | writer | reply | poll | disconnect | signal | release | join => trivial
  have bound := length_le_of_decreases remaining (Reaches (Process.next crc parser decode) Process.Permitted start)
    (internal · = true)
    (fun before step later reached isInternal moved =>
      ⟨reached.tail ⟨step, permitted before step isInternal, moved⟩,
        decreases (kept_of_run started reached).systemKept (moves_of_next moved) isInternal⟩)
    steps own process after run fed
  refine ⟨by omega, ?_⟩
  intro stuck
  have reached : Reaches (Process.next crc parser decode) Process.Permitted start after :=
    run.trans (reaches_of_permitted steps (fun step member before => permitted before step (own step member)) _ _ fed)
  have kept := kept_of_run started reached
  obtain ⟨_, staged, answerable⟩ := inOrder_of_run started reached
  exact rests_of_stuck kept.systemKept kept.traced staged answerable stuck

theorem halted_stuck (crc : Crc32fast) (step : Step) (own : internal step = true) :
    Process.next crc plainParser plainDecode step (halted crc) = none := by
  cases step with
  | request | poll | disconnect | signal => cases own
  | reply index => rcases index with _ | _ | index <;> rfl
  | release | join => rfl
  | writer step =>
    cases step with
    | clone | drop | append | cancel | abort => cases own
    | send index => cases index <;> rfl
    | response index => cases index <;> rfl
    | recv | stamp | serve | publish | respond | exit => rfl

theorem shutdown_completes_first :
    ∃ start files process after, launch Crc32fast.ieee plainParsers (plainHost "k") = (ok start, files) ∧
      Reaches (Process.next Crc32fast.ieee plainParser plainDecode) Process.Permitted start process ∧
      process.stage = .draining ∧ feed (Process.next Crc32fast.ieee plainParser plainDecode) lastSteps process = some after ∧
      lastSteps.length ≤ remaining process ∧ after.stage = .stopped ∧ Rests after := by
  have launched := launch_plain Crc32fast.ieee (show "k" ≠ "" by decide)
  have run := reaches_signalled Crc32fast.ieee
  have fed := feed_halted Crc32fast.ieee
  obtain ⟨bound, rests⟩ := shutdown_completes Crc32fast.ieee plainParsers (plainHost "k") _ _ launched plainParser plainDecode
    _ run lastSteps (by simp [lastSteps, internal, CallProgress.internal]) _ fed
  exact ⟨_, _, _, _, launched, run, rfl, fed, bound, rfl, rests (halted_stuck Crc32fast.ieee)⟩

end EventfoldDb.Shutdown
