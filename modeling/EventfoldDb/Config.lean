import EventfoldDb.Lib.Outcome
import Mathlib.Tactic.SplitIfs

/-! The configuration of the server, read from environment variables one after the other. The first
variable that cannot be used ends the reading, with a message that names it. -/

namespace EventfoldDb
open Outcome

/-- `std::env::var`; a value that is not Unicode counts as absent. -/
abbrev Env := String → Option String

namespace Config

def defaultListenAddr : String := "[::]:2113"
def defaultBrokerCapacity : UInt64 := 4096
def defaultDedupCapacity : UInt64 := 65536
def defaultMetricsListenAddr : String := "[::]:9090"

end Config

/-- `FromStr` for socket addresses and for `usize`: the value, or the text of the error. The default
addresses are addresses. -/
structure Parsers (Addr : Type) where
  socketAddr : String → Except String Addr
  usize : String → Except String UInt64
  listens : (socketAddr Config.defaultListenAddr).isOk
  exports : (socketAddr Config.defaultMetricsListenAddr).isOk

structure TlsConfig where
  certPath : String
  keyPath : String
  caPath : Option String
  deriving DecidableEq, Repr

abbrev NonZeroUsize := { capacity : UInt64 // capacity ≠ 0 }

structure Config (Addr : Type) where
  dataPath : String
  listenAddr : Addr
  brokerCapacity : UInt64
  dedupCapacity : NonZeroUsize
  tls : Option TlsConfig
  metricsListen : Option Addr
  jwtSecret : Option String

namespace Env
open Config
variable {Addr α : Type}

def parse (parser : String → Except String α) (what name value : String) : Outcome String α :=
  match parser value with
  | .ok parsed => ok parsed
  | .error reason => err s!"{name} is not a valid {what}: {reason}"

def expect : Except String α → Outcome String α
  | .ok value => ok value
  | .error _ => panic

def dataPath (env : Env) : Outcome String String :=
  match env "EVENTFOLD_DATA" with
  | some value => ok value
  | none => err "EVENTFOLD_DATA environment variable is required"

def listenAddr (parsers : Parsers Addr) (env : Env) : Outcome String Addr :=
  match env "EVENTFOLD_LISTEN" with
  | some value => parse parsers.socketAddr "socket address" "EVENTFOLD_LISTEN" value
  | none => expect (parsers.socketAddr defaultListenAddr)

def brokerCapacity (parsers : Parsers Addr) (env : Env) : Outcome String UInt64 :=
  match env "EVENTFOLD_BROKER_CAPACITY" with
  | some value => parse parsers.usize "usize" "EVENTFOLD_BROKER_CAPACITY" value
  | none => ok defaultBrokerCapacity

/-- Only here zero is refused. -/
def dedupCapacity (parsers : Parsers Addr) (env : Env) : Outcome String NonZeroUsize :=
  match env "EVENTFOLD_DEDUP_CAPACITY" with
  | some value => do
      let raw ← parse parsers.usize "usize" "EVENTFOLD_DEDUP_CAPACITY" value
      if nonzero : raw ≠ 0 then ok ⟨raw, nonzero⟩ else err "EVENTFOLD_DEDUP_CAPACITY must be nonzero"
  | none => if nonzero : defaultDedupCapacity ≠ 0 then ok ⟨defaultDedupCapacity, nonzero⟩ else panic

/-- An empty value disables the endpoint. -/
def metricsListen (parsers : Parsers Addr) (env : Env) : Outcome String (Option Addr) :=
  match env "EVENTFOLD_METRICS_LISTEN" with
  | some value =>
      if value = "" then ok none
      else do return some (← parse parsers.socketAddr "socket address" "EVENTFOLD_METRICS_LISTEN" value)
  | none => do return some (← expect (parsers.socketAddr defaultMetricsListenAddr))

def tls (env : Env) : Outcome String (Option TlsConfig) :=
  match env "EVENTFOLD_TLS_CERT", env "EVENTFOLD_TLS_KEY", env "EVENTFOLD_TLS_CA" with
  | none, none, none => ok none
  | some certPath, some keyPath, none => ok (some { certPath, keyPath, caPath := none })
  | some certPath, some keyPath, some caPath => ok (some { certPath, keyPath, caPath := some caPath })
  | some _, none, _ => err "EVENTFOLD_TLS_CERT is set but EVENTFOLD_TLS_KEY is missing"
  | none, some _, _ => err "EVENTFOLD_TLS_KEY is set but EVENTFOLD_TLS_CERT is missing"
  | none, none, some _ => err "EVENTFOLD_TLS_CA is set but EVENTFOLD_TLS_CERT and EVENTFOLD_TLS_KEY are both missing"

/-- An empty secret counts as none. -/
def jwtSecret (env : Env) : Option String :=
  match env "EVENTFOLD_JWT_SECRET" with
  | some value => if value ≠ "" then some value else none
  | none => none

end Env

namespace Config
variable {Addr : Type}

def fromEnv (parsers : Parsers Addr) (env : Env) : Outcome String (Config Addr) := do
  let dataPath ← Env.dataPath env
  let listenAddr ← Env.listenAddr parsers env
  let brokerCapacity ← Env.brokerCapacity parsers env
  let dedupCapacity ← Env.dedupCapacity parsers env
  let metricsListen ← Env.metricsListen parsers env
  let tls ← Env.tls env
  return { dataPath, listenAddr, brokerCapacity, dedupCapacity, tls, metricsListen, jwtSecret := Env.jwtSecret env }

/-! ### What is accepted -/

/-- What the variables say for this configuration. Each field depends on its own variables only. -/
structure Describes (parsers : Parsers Addr) (env : Env) (config : Config Addr) : Prop where
  dataPath : env "EVENTFOLD_DATA" = some config.dataPath
  listenAddr : parsers.socketAddr ((env "EVENTFOLD_LISTEN").getD defaultListenAddr) = .ok config.listenAddr
  brokerCapacity : (env "EVENTFOLD_BROKER_CAPACITY").elim (.ok defaultBrokerCapacity) parsers.usize =
    .ok config.brokerCapacity
  dedupCapacity : (env "EVENTFOLD_DEDUP_CAPACITY").elim (.ok defaultDedupCapacity) parsers.usize =
    .ok config.dedupCapacity.val
  metricsListen : (env "EVENTFOLD_METRICS_LISTEN" = some "" ∧ config.metricsListen = none) ∨
    ∃ addr, env "EVENTFOLD_METRICS_LISTEN" ≠ some "" ∧ config.metricsListen = some addr ∧
      parsers.socketAddr ((env "EVENTFOLD_METRICS_LISTEN").getD defaultMetricsListenAddr) = .ok addr
  tls : config.tls.map (·.certPath) = env "EVENTFOLD_TLS_CERT" ∧ config.tls.map (·.keyPath) = env "EVENTFOLD_TLS_KEY" ∧
    config.tls.bind (·.caPath) = env "EVENTFOLD_TLS_CA"
  jwtSecret : config.jwtSecret = (env "EVENTFOLD_JWT_SECRET").filter (· ≠ "")

inductive Complaint (parsers : Parsers Addr) (env : Env) : String → Prop
  | required (absent : env "EVENTFOLD_DATA" = none) :
      Complaint parsers env "EVENTFOLD_DATA environment variable is required"
  | address (name value reason : String) (listed : name ∈ ["EVENTFOLD_LISTEN", "EVENTFOLD_METRICS_LISTEN"])
      (given : env name = some value) (refused : parsers.socketAddr value = .error reason) :
      Complaint parsers env s!"{name} is not a valid socket address: {reason}"
  | number (name value reason : String) (listed : name ∈ ["EVENTFOLD_BROKER_CAPACITY", "EVENTFOLD_DEDUP_CAPACITY"])
      (given : env name = some value) (refused : parsers.usize value = .error reason) :
      Complaint parsers env s!"{name} is not a valid usize: {reason}"
  | zero (value : String) (given : env "EVENTFOLD_DEDUP_CAPACITY" = some value) (zero : parsers.usize value = .ok 0) :
      Complaint parsers env "EVENTFOLD_DEDUP_CAPACITY must be nonzero"
  | missing (name other : String)
      (listed : (name, other) ∈ [("EVENTFOLD_TLS_CERT", "EVENTFOLD_TLS_KEY"), ("EVENTFOLD_TLS_KEY", "EVENTFOLD_TLS_CERT")])
      (given : (env name).isSome) (absent : env other = none) :
      Complaint parsers env s!"{name} is set but {other} is missing"
  | alone (given : (env "EVENTFOLD_TLS_CA").isSome) (absent : env "EVENTFOLD_TLS_CERT" = none)
      (absentToo : env "EVENTFOLD_TLS_KEY" = none) :
      Complaint parsers env
        "EVENTFOLD_TLS_CA is set but EVENTFOLD_TLS_CERT and EVENTFOLD_TLS_KEY are both missing"

section
variable {α : Type} {parsers : Parsers Addr} {env : Env}

theorem parse_eq_ok {parser : String → Except String α} {what name value : String} {parsed : α} :
    Env.parse parser what name value = ok parsed ↔ parser value = .ok parsed := by
  unfold Env.parse
  cases parser value <;> simp

theorem parse_eq_err {parser : String → Except String α} {what name value message : String} :
    Env.parse parser what name value = err message ↔
      ∃ reason, parser value = .error reason ∧ message = s!"{name} is not a valid {what}: {reason}" := by
  unfold Env.parse
  cases parser value <;> simp [eq_comm]

theorem parse_ne_panic {parser : String → Except String α} {what name value : String} :
    Env.parse parser what name value ≠ panic := by
  unfold Env.parse
  cases parser value <;> simp

theorem expect_eq_ok {result : Except String α} {value : α} : Env.expect result = ok value ↔ result = .ok value := by
  cases result <;> simp [Env.expect]

theorem expect_ne_panic {result : Except String α} (valid : result.isOk) : Env.expect result ≠ panic := by
  cases result <;> simp_all [Env.expect, Except.isOk, Except.toBool]

theorem expect_ne_err {result : Except String α} {message : String} : Env.expect result ≠ err message := by
  cases result <;> simp [Env.expect]

/-! One reader after the other: when it returns a value, and what its error says. -/

theorem dataPath_eq_ok {path : String} : Env.dataPath env = ok path ↔ env "EVENTFOLD_DATA" = some path := by
  unfold Env.dataPath
  cases env "EVENTFOLD_DATA" <;> simp

theorem complaint_dataPath {message : String} (failed : Env.dataPath env = err message) :
    Complaint parsers env message := by
  unfold Env.dataPath at failed
  cases given : env "EVENTFOLD_DATA" with
  | some value => simp [given] at failed
  | none =>
    rw [given] at failed
    cases failed
    exact .required given

theorem listenAddr_eq_ok {addr : Addr} : Env.listenAddr parsers env = ok addr ↔
    parsers.socketAddr ((env "EVENTFOLD_LISTEN").getD defaultListenAddr) = .ok addr := by
  unfold Env.listenAddr
  cases env "EVENTFOLD_LISTEN" with
  | some value => exact parse_eq_ok
  | none => exact expect_eq_ok

theorem complaint_listenAddr {message : String} (failed : Env.listenAddr parsers env = err message) :
    Complaint parsers env message := by
  unfold Env.listenAddr at failed
  cases given : env "EVENTFOLD_LISTEN" with
  | some value =>
    rw [given] at failed
    obtain ⟨reason, refused, same⟩ := parse_eq_err.mp failed
    rw [same]
    exact .address _ value reason (by simp) given refused
  | none =>
    rw [given] at failed
    exact absurd failed expect_ne_err

theorem brokerCapacity_eq_ok {capacity : UInt64} : Env.brokerCapacity parsers env = ok capacity ↔
    (env "EVENTFOLD_BROKER_CAPACITY").elim (.ok defaultBrokerCapacity) parsers.usize = .ok capacity := by
  unfold Env.brokerCapacity
  cases env "EVENTFOLD_BROKER_CAPACITY" with
  | some value => exact parse_eq_ok
  | none => simp

theorem complaint_brokerCapacity {message : String} (failed : Env.brokerCapacity parsers env = err message) :
    Complaint parsers env message := by
  unfold Env.brokerCapacity at failed
  cases given : env "EVENTFOLD_BROKER_CAPACITY" with
  | some value =>
    rw [given] at failed
    obtain ⟨reason, refused, same⟩ := parse_eq_err.mp failed
    rw [same]
    exact .number _ value reason (by simp) given refused
  | none =>
    rw [given] at failed
    cases failed

theorem dedupCapacity_eq_ok {capacity : NonZeroUsize} : Env.dedupCapacity parsers env = ok capacity ↔
    (env "EVENTFOLD_DEDUP_CAPACITY").elim (.ok defaultDedupCapacity) parsers.usize = .ok capacity.val := by
  obtain ⟨capacity, nonzero⟩ := capacity
  unfold Env.dedupCapacity
  cases env "EVENTFOLD_DEDUP_CAPACITY" with
  | some value =>
    simp only [bind_eq_ok, parse_eq_ok, Option.elim_some]
    constructor
    · rintro ⟨raw, parsed, kept⟩
      split_ifs at kept with isNonzero
      cases kept
      exact parsed
    · intro parsed
      exact ⟨capacity, parsed, dif_pos nonzero⟩
  | none =>
    dsimp only [Option.elim_none]
    rw [dif_pos (show defaultDedupCapacity ≠ 0 by decide)]
    simp

theorem complaint_dedupCapacity {message : String} (failed : Env.dedupCapacity parsers env = err message) :
    Complaint parsers env message := by
  unfold Env.dedupCapacity at failed
  cases given : env "EVENTFOLD_DEDUP_CAPACITY" with
  | some value =>
    rw [given] at failed
    rcases bind_eq_err.mp failed with refused | ⟨raw, parsed, refused⟩
    · obtain ⟨reason, refused, same⟩ := parse_eq_err.mp refused
      rw [same]
      exact .number _ value reason (by simp) given refused
    · split_ifs at refused with zero
      cases refused
      rw [parse_eq_ok, Classical.not_not.mp zero] at parsed
      exact .zero value given parsed
  | none =>
    rw [given] at failed
    dsimp only at failed
    rw [dif_pos (show defaultDedupCapacity ≠ 0 by decide)] at failed
    cases failed

theorem metricsListen_eq_ok {listen : Option Addr} : Env.metricsListen parsers env = ok listen ↔
    (env "EVENTFOLD_METRICS_LISTEN" = some "" ∧ listen = none) ∨
      ∃ addr, env "EVENTFOLD_METRICS_LISTEN" ≠ some "" ∧ listen = some addr ∧
        parsers.socketAddr ((env "EVENTFOLD_METRICS_LISTEN").getD defaultMetricsListenAddr) = .ok addr := by
  unfold Env.metricsListen
  cases env "EVENTFOLD_METRICS_LISTEN" with
  | some value =>
    by_cases empty : value = ""
    · simp [empty, eq_comm]
    · dsimp only
      rw [if_neg empty, bind_eq_ok]
      simp only [parse_eq_ok, pure_eq, Option.some.injEq, empty, false_and, false_or, ne_eq, not_false_eq_true, true_and,
        Option.getD_some]
      constructor
      · rintro ⟨addr, parsed, same⟩
        exact ⟨addr, (ok.inj same).symm, parsed⟩
      · rintro ⟨addr, same, parsed⟩
        exact ⟨addr, parsed, by rw [same]⟩
  | none =>
    simp only [bind_eq_ok, expect_eq_ok, pure_eq, reduceCtorEq, false_and, false_or, ne_eq, not_false_eq_true, true_and,
      Option.getD_none]
    constructor
    · rintro ⟨addr, parsed, same⟩
      exact ⟨addr, (ok.inj same).symm, parsed⟩
    · rintro ⟨addr, same, parsed⟩
      exact ⟨addr, parsed, by rw [same]⟩

theorem complaint_metricsListen {message : String} (failed : Env.metricsListen parsers env = err message) :
    Complaint parsers env message := by
  unfold Env.metricsListen at failed
  cases given : env "EVENTFOLD_METRICS_LISTEN" with
  | some value =>
    rw [given] at failed
    dsimp only at failed
    split_ifs at failed with empty
    rcases bind_eq_err.mp failed with refused | ⟨addr, _, impossible⟩
    · obtain ⟨reason, refused, same⟩ := parse_eq_err.mp refused
      rw [same]
      exact .address _ value reason (by simp) given refused
    · cases impossible
  | none =>
    rw [given] at failed
    rcases bind_eq_err.mp failed with refused | ⟨addr, _, impossible⟩
    · exact absurd refused expect_ne_err
    · cases impossible

theorem tls_eq_ok {tls : Option TlsConfig} : Env.tls env = ok tls ↔
    tls.map (·.certPath) = env "EVENTFOLD_TLS_CERT" ∧ tls.map (·.keyPath) = env "EVENTFOLD_TLS_KEY" ∧
      tls.bind (·.caPath) = env "EVENTFOLD_TLS_CA" := by
  unfold Env.tls
  cases env "EVENTFOLD_TLS_CERT" <;> cases env "EVENTFOLD_TLS_KEY" <;> cases env "EVENTFOLD_TLS_CA" <;>
    rcases tls with _ | ⟨certPath, keyPath, caPath⟩ <;> simp [eq_comm]

theorem complaint_tls {message : String} (failed : Env.tls env = err message) : Complaint parsers env message := by
  unfold Env.tls at failed
  cases cert : env "EVENTFOLD_TLS_CERT" with
  | some certPath =>
    cases key : env "EVENTFOLD_TLS_KEY" with
    | some keyPath =>
      rw [cert, key] at failed
      cases authority : env "EVENTFOLD_TLS_CA" <;> simp [authority] at failed
    | none =>
      rw [cert, key] at failed
      cases failed
      exact .missing "EVENTFOLD_TLS_CERT" "EVENTFOLD_TLS_KEY" (by simp) (by simp [cert]) key
  | none =>
    cases key : env "EVENTFOLD_TLS_KEY" with
    | some keyPath =>
      rw [cert, key] at failed
      cases failed
      exact .missing "EVENTFOLD_TLS_KEY" "EVENTFOLD_TLS_CERT" (by simp) (by simp [key]) cert
    | none =>
      cases authority : env "EVENTFOLD_TLS_CA" with
      | some caPath =>
        rw [cert, key, authority] at failed
        cases failed
        exact .alone (by simp [authority]) cert key
      | none => simp [cert, key, authority] at failed

theorem jwtSecret_eq (env : Env) : Env.jwtSecret env = (env "EVENTFOLD_JWT_SECRET").filter (· ≠ "") := by
  unfold Env.jwtSecret
  cases env "EVENTFOLD_JWT_SECRET" <;> simp [Option.filter]

/-! All of them. -/

theorem fromEnv_eq_ok {config : Config Addr} : fromEnv parsers env = ok config ↔ Describes parsers env config := by
  simp only [fromEnv, bind_eq_ok, dataPath_eq_ok, listenAddr_eq_ok, brokerCapacity_eq_ok, dedupCapacity_eq_ok,
    metricsListen_eq_ok, tls_eq_ok, pure_eq, ok.injEq]
  constructor
  · rintro ⟨path, data, addr, listen, capacity, broker, dedup, sized, metrics, exported, tls, secured, same⟩
    rw [← same]
    exact ⟨data, listen, broker, sized, exported, secured, jwtSecret_eq env⟩
  · rintro ⟨data, listen, broker, sized, exported, secured, secret⟩
    refine ⟨_, data, _, listen, _, broker, _, sized, _, exported, _, secured, ?_⟩
    rw [jwtSecret_eq, ← secret]

theorem complaint_of_fromEnv {message : String} (failed : fromEnv parsers env = err message) :
    Complaint parsers env message := by
  simp only [fromEnv, bind_eq_err, pure_eq, reduceCtorEq, and_false, exists_false, or_false] at failed
  rcases failed with failed | ⟨_, _, failed | ⟨_, _, failed | ⟨_, _, failed | ⟨_, _, failed | ⟨_, _, failed⟩⟩⟩⟩⟩
  · exact complaint_dataPath failed
  · exact complaint_listenAddr failed
  · exact complaint_brokerCapacity failed
  · exact complaint_dedupCapacity failed
  · exact complaint_metricsListen failed
  · exact complaint_tls failed

theorem fromEnv_ne_panic : fromEnv parsers env ≠ panic := by
  intro panicked
  simp only [fromEnv, bind_eq_panic, pure_eq, reduceCtorEq, and_false, exists_false, or_false] at panicked
  rcases panicked with panicked | ⟨_, _, panicked | ⟨_, _, panicked | ⟨_, _, panicked | ⟨_, _, panicked | ⟨_, _, panicked⟩⟩⟩⟩⟩
  · unfold Env.dataPath at panicked
    cases given : env "EVENTFOLD_DATA" <;> simp [given] at panicked
  · unfold Env.listenAddr at panicked
    split at panicked
    · exact parse_ne_panic panicked
    · exact expect_ne_panic parsers.listens panicked
  · unfold Env.brokerCapacity at panicked
    split at panicked
    · exact parse_ne_panic panicked
    · cases panicked
  · unfold Env.dedupCapacity at panicked
    split at panicked
    · rcases bind_eq_panic.mp panicked with panicked | ⟨raw, _, panicked⟩
      · exact parse_ne_panic panicked
      · split_ifs at panicked
    · rw [dif_pos (show defaultDedupCapacity ≠ 0 by decide)] at panicked
      cases panicked
  · unfold Env.metricsListen at panicked
    split at panicked
    · split_ifs at panicked
      rcases bind_eq_panic.mp panicked with panicked | ⟨_, _, impossible⟩
      · exact parse_ne_panic panicked
      · cases impossible
    · rcases bind_eq_panic.mp panicked with panicked | ⟨_, _, impossible⟩
      · exact expect_ne_panic parsers.exports panicked
      · cases impossible
  · unfold Env.tls at panicked
    cases cert : env "EVENTFOLD_TLS_CERT" <;> cases key : env "EVENTFOLD_TLS_KEY" <;>
      cases authority : env "EVENTFOLD_TLS_CA" <;> simp [cert, key, authority] at panicked

end

end Config

end EventfoldDb
