import Mathlib.Logic.Relation

/-! State machines given by a partial step function, their runs, and the rule that
carries an invariant from one step to a whole run. -/

namespace Machine
variable {State Label : Type}

/-- One step under a label that the side condition allows in the state before it. -/
def StepsTo (next : Label → State → Option State) (allowed : State → Label → Prop)
    (before after : State) : Prop :=
  ∃ label, allowed before label ∧ next label before = some after

abbrev Reaches (next : Label → State → Option State) (allowed : State → Label → Prop) :
    State → State → Prop :=
  Relation.ReflTransGen (StepsTo next allowed)

def always : State → Label → Prop := fun _ _ => True

variable {next : Label → State → Option State} {allowed : State → Label → Prop}

theorem Reaches.invariant {start finish : State} (holds : State → Prop)
    (initially : holds start)
    (preserved : ∀ before label after, holds before → allowed before label →
      next label before = some after → holds after)
    (run : Reaches next allowed start finish) : holds finish := by
  induction run with
  | refl => exact initially
  | tail _ step ih =>
    obtain ⟨label, permitted, moved⟩ := step
    exact preserved _ label _ ih permitted moved

theorem Reaches.weaken {start finish : State} {wider : State → Label → Prop} (run : Reaches next allowed start finish)
    (weaker : ∀ state label, allowed state label → wider state label) : Reaches next wider start finish := by
  induction run with
  | refl => exact .refl
  | tail _ step ih =>
    obtain ⟨label, permitted, moved⟩ := step
    exact ih.tail ⟨label, weaker _ label permitted, moved⟩

def feed (next : Label → State → Option State) : List Label → State → Option State
  | [], state => some state
  | label :: labels, state => (next label state).bind (feed next labels)

theorem reaches_of_permitted (labels : List Label) (permitted : ∀ label ∈ labels, ∀ state, allowed state label)
    (start finish : State) (fed : feed next labels start = some finish) : Reaches next allowed start finish := by
  induction labels generalizing start with
  | nil =>
    cases fed
    exact .refl
  | cons label labels ih =>
    rw [feed, Option.bind_eq_some_iff] at fed
    obtain ⟨middle, moved, rest⟩ := fed
    exact .head ⟨label, permitted label (List.mem_cons_self ..) start, moved⟩
      (ih (fun other later => permitted other (List.mem_cons_of_mem _ later)) middle rest)

theorem reaches_of_feed (labels : List Label) (start finish : State)
    (fed : feed next labels start = some finish) : Reaches next always start finish :=
  reaches_of_permitted labels (fun _ _ _ => trivial) start finish fed

/-- A quantity that every permitted step uses up bounds the number of such steps. -/
theorem length_le_of_decreases (amount : State → Nat) (holds : State → Prop) (permitted : Label → Prop)
    (uses : ∀ before label after, holds before → permitted label → next label before = some after →
      holds after ∧ amount after < amount before)
    (labels : List Label) (all : ∀ label ∈ labels, permitted label) (start finish : State) (initially : holds start)
    (fed : feed next labels start = some finish) : labels.length + amount finish ≤ amount start := by
  induction labels generalizing start with
  | nil =>
    cases fed
    exact Nat.le_of_eq (Nat.zero_add _)
  | cons label labels ih =>
    rw [feed, Option.bind_eq_some_iff] at fed
    obtain ⟨middle, moved, rest⟩ := fed
    obtain ⟨kept, less⟩ := uses start label middle initially (all label (List.mem_cons_self ..)) moved
    have bound := ih (fun other later => all other (List.mem_cons_of_mem _ later)) middle kept rest
    rw [List.length_cons]
    omega

end Machine
