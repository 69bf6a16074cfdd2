import Mathlib.Tactic.Common

/-! How a call ends: it returns a value, returns an error, or panics. Slicing and
indexing are calls that may panic, so that "no read leaves the buffer" is a statement
about the model and not an assumption of it. -/

inductive Outcome (ε α : Type) where
  | ok (value : α)
  | err (error : ε)
  | panic
  deriving DecidableEq, Repr

namespace Outcome
variable {ε α β : Type}

def bind (call : Outcome ε α) (next : α → Outcome ε β) : Outcome ε β :=
  match call with
  | ok value => next value
  | err error => err error
  | panic => panic

instance : Monad (Outcome ε) where
  pure := ok
  bind := bind

@[simp] theorem ok_bind (value : α) (next : α → Outcome ε β) : (ok value >>= next) = next value := rfl
@[simp] theorem err_bind (error : ε) (next : α → Outcome ε β) : (err error >>= next) = err error := rfl
@[simp] theorem panic_bind (next : α → Outcome ε β) : (panic >>= next) = panic := rfl
@[simp] theorem pure_eq (value : α) : (pure value : Outcome ε α) = ok value := rfl

theorem bind_eq_ok {call : Outcome ε α} {next : α → Outcome ε β} {result : β} :
    (call >>= next) = ok result ↔ ∃ value, call = ok value ∧ next value = ok result := by
  cases call with
  | ok value => simp
  | err error => simp
  | panic => simp

theorem bind_eq_err {call : Outcome ε α} {next : α → Outcome ε β} {error : ε} :
    (call >>= next) = err error ↔ call = err error ∨ ∃ value, call = ok value ∧ next value = err error := by
  cases call with
  | ok value => simp
  | err error => simp
  | panic => simp

theorem bind_eq_panic {call : Outcome ε α} {next : α → Outcome ε β} :
    (call >>= next) = panic ↔ call = panic ∨ ∃ value, call = ok value ∧ next value = panic := by
  cases call with
  | ok value => simp
  | err error => simp
  | panic => simp

def returned : Except ε α → Outcome ε α
  | .ok value => ok value
  | .error error => err error

@[simp] theorem returned_eq_ok {result : Except ε α} {value : α} : returned result = ok value ↔ result = .ok value := by
  cases result <;> simp [returned]

@[simp] theorem returned_eq_err {result : Except ε α} {error : ε} :
    returned result = err error ↔ result = .error error := by
  cases result <;> simp [returned]

theorem ne_panic_of_returned {result : Except ε α} {outcome : Outcome ε α} (same : returned result = outcome) :
    outcome ≠ panic := by
  rw [← same]
  cases result <;> simp [returned]

/-- `&items[start..stop]`. -/
def slice (items : List α) (start stop : Nat) : Outcome ε (List α) :=
  if start ≤ stop ∧ stop ≤ items.length then ok ((items.take stop).drop start) else panic

/-- `&items[start..]`. -/
def sliceFrom (items : List α) (start : Nat) : Outcome ε (List α) :=
  slice items start items.length

/-- `items[position]`. -/
def index (items : List α) (position : Nat) : Outcome ε α :=
  match items[position]? with
  | some item => ok item
  | none => panic

theorem slice_ok (items : List α) (start stop : Nat) (ordered : start ≤ stop) (inside : stop ≤ items.length) :
    (slice items start stop : Outcome ε (List α)) = ok ((items.take stop).drop start) :=
  if_pos ⟨ordered, inside⟩

/-- The call does not panic; its value meets `post` and its error meets `fails`. -/
def Ends (call : Outcome ε α) (post : α → Prop) (fails : ε → Prop) : Prop :=
  match call with
  | ok value => post value
  | err error => fails error
  | panic => False

theorem Ends.bind {call : Outcome ε α} {next : α → Outcome ε β} {post : α → Prop} {post' : β → Prop}
    {fails : ε → Prop} (first : Ends call post fails) (rest : ∀ value, post value → Ends (next value) post' fails) :
    Ends (call >>= next) post' fails := by
  cases call with
  | ok value => exact rest value first
  | err error => exact first
  | panic => exact first

theorem sliceFrom_ok (items : List α) (start : Nat) (inside : start ≤ items.length) :
    (sliceFrom items start : Outcome ε (List α)) = ok (items.drop start) := by
  rw [sliceFrom, slice_ok items start items.length inside (Nat.le_refl _), List.take_length]

end Outcome
