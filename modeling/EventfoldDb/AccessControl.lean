import EventfoldDb.ServerRuns

/-! A server with a secret does nothing for a request without a valid token: such a request is answered
by the interceptor, and everything that is written or streamed goes back to one that has a token. -/

namespace EventfoldDb.AccessControl
open Outcome Recovery AppendSpec LogInvariant WriterSpec WriterHandle ServiceReads Launch Server Server.Process ServerRuns
  Machine

/-! ### Where the events of the log come from -/

def Records (request : AppendRequest) (event : RecordedEvent) : Prop :=
  ∃ proposed ∈ request.events, ∃ recordedAt position version,
    event = recordOf request.streamId recordedAt position version proposed

theorem mem_numberedFrom {streamId : Uuid} {recordedAt global version : UInt64} {proposedEvents : List ProposedEvent}
    {event : RecordedEvent} (member : event ∈ numberedFrom streamId recordedAt global version proposedEvents) :
    ∃ proposed ∈ proposedEvents, ∃ position streamVersion,
      event = recordOf streamId recordedAt position streamVersion proposed := by
  induction proposedEvents generalizing global version with
  | nil => cases member
  | cons first rest ih =>
    rcases List.mem_cons.mp member with same | later
    · exact ⟨first, List.mem_cons_self .., global, version, same⟩
    · obtain ⟨proposed, here, position, streamVersion, same⟩ := ih later
      exact ⟨proposed, List.mem_cons_of_mem _ here, position, streamVersion, same⟩

/-- Behind the recovered events the log has only events of requests that were answered. -/
def Sourced (recovered : List RecordedEvent) (task : Task) : Prop :=
  ∃ new, task.writer.store.log.events = recovered ++ new ∧
    ∀ event ∈ new, ∃ answer ∈ answered task, Records answer.ticket.request event

section
variable {crc : Crc32fast} {recovered : List RecordedEvent} {task after : Task}

theorem Sourced.serve {fault : Fault} (sourced : Sourced recovered task)
    (moved : Task.next crc (.serve fault) task = some after) : Sourced recovered after := by
  obtain ⟨new, split, source⟩ := sourced
  obtain ⟨answer, _, _, _, answers, how⟩ := next_answered moved
  have earlier : ∀ event ∈ new, ∃ other ∈ answered after, Records other.ticket.request event := by
    intro event member
    obtain ⟨other, given, records⟩ := source event member
    exact ⟨other, by rw [answers]; exact List.mem_append_left _ given, records⟩
  rcases how with unwritten | ⟨batch, dedup, wrote⟩
  · exact ⟨new, by rw [unwritten.log]; exact split, earlier⟩
  · have log : after.writer.store.log.events = task.writer.store.log.events ++ batch.events := by
      rw [wrote.writer]
      rfl
    refine ⟨new ++ batch.events, by rw [log, split, List.append_assoc], ?_⟩
    intro event member
    rcases List.mem_append.mp member with old | added
    · exact earlier event old
    · rw [wrote.accepts.events] at added
      obtain ⟨proposed, here, position, version, same⟩ := mem_numberedFrom added
      refine ⟨answer, ?_, proposed, here, _, position, version, same⟩
      rw [answers]
      exact List.mem_append_right _ (List.mem_singleton_self _)

theorem Sourced.next {step : Task.Step} (sourced : Sourced recovered task)
    (moved : Task.next crc step task = some after) :
    Sourced recovered after := by
  rcases serve_or_quiet step with ⟨fault, isServe⟩ | quiet
  · rw [isServe] at moved
    exact sourced.serve moved
  · obtain ⟨writer, answers, _⟩ := next_quiet moved quiet
    rw [Sourced, writer, answers]
    exact sourced

end

def Bears (parser : UuidParser) (message : Proto.AppendRequest) (event : RecordedEvent) : Prop :=
  shown parser message.streamId = event.streamId.display ∧
    ∃ proposed ∈ message.events, shown parser proposed.eventId = event.eventId.display ∧
      proposed.eventType = event.eventType ∧ proposed.metadata = event.metadata ∧ proposed.payload = event.payload

theorem mem_converted {parser : UuidParser} {proposed : List Proto.ProposedEvent} {events : List ProposedEvent}
    (converted : proposed.mapM (protoToProposedEvent parser) = .ok events) {event : ProposedEvent}
    (member : event ∈ events) :
    ∃ given ∈ proposed, protoToProposedEvent parser given = .ok event := by
  induction proposed generalizing events with
  | nil =>
    cases converted
    cases member
  | cons given proposed ih =>
    rw [List.mapM_cons] at converted
    cases first : protoToProposedEvent parser given with
    | error status =>
      rw [first] at converted
      cases converted
    | ok head =>
      rw [first] at converted
      cases rest : proposed.mapM (protoToProposedEvent parser) with
      | error status =>
        rw [rest] at converted
        cases converted
      | ok others =>
        rw [rest] at converted
        cases converted
        rcases List.mem_cons.mp member with same | later
        · exact ⟨given, List.mem_cons_self .., by rw [first, same]⟩
        · obtain ⟨other, here, same⟩ := ih rest later
          exact ⟨other, List.mem_cons_of_mem _ here, same⟩

theorem bears_of_records {parser : UuidParser} {message : Proto.AppendRequest} {request : AppendRequest}
    {event : RecordedEvent} (passed : EventfoldService.request parser message = .ok request)
    (records : Records request event) : Bears parser message event := by
  obtain ⟨proposed, here, recordedAt, position, version, same⟩ := records
  obtain ⟨stream, converted⟩ := request_ok passed
  obtain ⟨given, member, conversion⟩ := mem_converted converted here
  rw [same]
  exact ⟨shown_of_parsed stream, given, member, converted_ok conversion⟩

/-! ### The guarantee -/

def Authorised (decode : Decoder) (secret : String) (exchange : Exchange) : Prop :=
  ∃ token, exchange.authorization = .text ("Bearer " ++ token) ∧
    decode exchange.receivedAt secret (JwtInterceptor.new secret).validation token = .ok ()

structure Guarded (parser : UuidParser) (decode : Decoder) (secret : String) (recovered : List RecordedEvent)
    (process : Process) : Prop where
  /-- The answer depends on nothing but the token and the time. -/
  rejected : ∀ exchange ∈ process.exchanges, exchange.rpc.guarded = true → ¬Authorised decode secret exchange →
    ∃ message, (JwtInterceptor.new secret).call decode exchange.receivedAt exchange.authorization = .error message ∧
      exchange.progress = .replied (.unauthenticated message)
  /-- The health service asks for no token. -/
  admitted : ∀ exchange ∈ process.exchanges, exchange.rpc.guarded = false ∨ Authorised decode secret exchange →
    ∀ message, exchange.progress ≠ .replied (.unauthenticated message)
  written : ∃ new, process.log.events = recovered ++ new ∧ ∀ event ∈ new, ∃ exchange ∈ process.exchanges,
    Authorised decode secret exchange ∧ ∃ message, exchange.rpc = .append message ∧ Bears parser message event
  streamed : ∀ subscriber ∈ process.subscribers, ∃ exchange ∈ process.exchanges, Authorised decode secret exchange ∧
    Opens parser exchange.rpc subscriber.target subscriber.start

section
variable {Addr : Type} {crc : Crc32fast} {parser : UuidParser} {decode : Decoder} {platform : Platform}
  {config : Config Addr} {store : Store} {start process : Process} {secret : String}

theorem admits_guarded (interceptor : process.interceptor = some (JwtInterceptor.new secret)) {exchange : Exchange}
    (guarded : exchange.rpc.guarded = true) :
    process.admits decode exchange.receivedAt exchange.authorization exchange.rpc =
      (JwtInterceptor.new secret).call decode exchange.receivedAt exchange.authorization := by
  rw [Process.admits, interceptor]
  exact if_pos guarded

theorem admitted_iff (interceptor : process.interceptor = some (JwtInterceptor.new secret)) {exchange : Exchange}
    (guarded : exchange.rpc.guarded = true) : Admitted decode process exchange ↔ Authorised decode secret exchange := by
  rw [Admitted, admits_guarded interceptor guarded]
  exact JwtInterceptor.call_eq_ok

theorem admitted_of_unguarded {exchange : Exchange} (free : exchange.rpc.guarded = false) :
    Admitted decode process exchange := by
  rw [Admitted, Process.admits]
  split
  · rw [free]
    rfl
  · rfl

theorem guarded_of_opens {rpc : Rpc} {target : Target} {from_ : UInt64} (opens : Opens parser rpc target from_) :
    rpc.guarded = true := by
  cases opens <;> rfl

theorem sourced_of_run (started : Started platform config store start)
    (run : Reaches (Process.next crc parser decode) Process.Permitted start process) :
    Sourced store.log.events process.system.task :=
  (task_of_run started run).invariant (Sourced store.log.events)
    ⟨[], (List.append_nil _).symm, fun _ member => absurd member List.not_mem_nil⟩
    (fun _ _ _ sourced _ moved => sourced.next moved)

theorem source_of_kept (kept : ServerRuns.Kept crc parser decode platform config store process) {answer : Answer}
    (given : answer ∈ answered process.system.task) : ∃ exchange ∈ process.exchanges, Admitted decode process exchange ∧
      Asks parser exchange.rpc answer.ticket.request := by
  have listed : answer.ticket ∈ ledger process.system.task := List.mem_append_left _ (List.mem_map_of_mem given)
  obtain ⟨call, member, same⟩ := call_of_ticket kept.systemKept listed
  obtain ⟨index, here⟩ := List.mem_iff_getElem?.mp member
  rw [← same]
  exact kept.traced.calls index call here

theorem guarded_of_kept (kept : ServerRuns.Kept crc parser decode platform config store process)
    (sourced : Sourced store.log.events process.system.task)
    (interceptor : process.interceptor = some (JwtInterceptor.new secret)) :
    Guarded parser decode secret store.log.events process where
  rejected := by
    intro exchange member guarded unauthorised
    rw [← admitted_iff interceptor guarded] at unauthorised
    cases checked : process.admits decode exchange.receivedAt exchange.authorization exchange.rpc with
    | ok _ => exact absurd checked unauthorised
    | error message =>
      refine ⟨message, ?_, (kept.traced.exchanges exchange member).refused message checked⟩
      rw [← admits_guarded interceptor guarded]
      exact checked
  admitted := by
    intro exchange member free message replied
    have admitted : Admitted decode process exchange := by
      cases guarded : exchange.rpc.guarded with
      | false => exact admitted_of_unguarded guarded
      | true => exact (admitted_iff interceptor guarded).mpr (free.resolve_left (by rw [guarded]; simp))
    rw [Admitted, (kept.traced.exchanges exchange member).rejects message replied] at admitted
    cases admitted
  written := by
    obtain ⟨new, split, source⟩ := sourced
    refine ⟨new, split, ?_⟩
    intro event member
    obtain ⟨answer, given, records⟩ := source event member
    obtain ⟨exchange, present, admitted, message, isAppend, passed⟩ := source_of_kept kept given
    have guarded : exchange.rpc.guarded = true := by
      rw [isAppend]
      rfl
    exact ⟨exchange, present, (admitted_iff interceptor guarded).mp admitted, message, isAppend,
      bears_of_records passed records⟩
  streamed := by
    intro subscriber member
    obtain ⟨index, here⟩ := List.mem_iff_getElem?.mp member
    obtain ⟨exchange, present, admitted, opens⟩ := kept.traced.subscribers index subscriber here
    exact ⟨exchange, present, (admitted_iff interceptor (guarded_of_opens opens)).mp admitted, opens⟩

end

/-- In every state of a server that was started with a secret, whatever its clients send. -/
theorem access_controlled {Addr : Type} (crc : Crc32fast) (parsers : Parsers Addr) (host : Host Addr) (secret : String)
    (given : host.env "EVENTFOLD_JWT_SECRET" = some secret) (present : secret ≠ "") (start : Process)
    (files : String → Option File) (launched : launch crc parsers host = (ok start, files)) (parser : UuidParser)
    (decode : Decoder) (process : Process)
    (run : Reaches (Process.next crc parser decode) Process.Permitted start process) :
    Guarded parser decode secret start.log.events process := by
  obtain ⟨config, store, described, _, started⟩ := started_of_launch launched
  have kept := kept_of_run started run
  have interceptor : process.interceptor = some (JwtInterceptor.new secret) := by
    rw [kept.interceptor, described.jwtSecret, given]
    simp [Option.filter, present]
  rw [started_log started]
  exact guarded_of_kept kept (sourced_of_run started run) interceptor

theorem access_controlled_first :
    ∃ start files process, launch Crc32fast.ieee plainParsers (plainHost "k") = (ok start, files) ∧
      Reaches (Process.next Crc32fast.ieee plainParser plainDecode) Process.Permitted start process ∧
      process.exchanges.length = 2 ∧ process.log.events.length = 1 ∧
      Guarded plainParser plainDecode "k" start.log.events process := by
  have present : "k" ≠ "" := by decide
  have launched := launch_plain Crc32fast.ieee present
  have run := permitted_of_undisturbed (reaches_replied Crc32fast.ieee "k")
  exact ⟨_, _, _, launched, run, rfl, rfl,
    access_controlled Crc32fast.ieee plainParsers (plainHost "k") "k" rfl present _ _ launched plainParser plainDecode _ run⟩

end EventfoldDb.AccessControl
