import Mathlib.Data.List.Nodup

/-! Calls that overlap in time, and a sequential order of them. Each call takes effect at one moment
between its invocation and its response; the rules follow these three events. -/

namespace Linearizable
variable {Id Op Result State : Type}

inductive Event (Id Op Result : Type) where
  | invoke (id : Id) (op : Op)
  | respond (id : Id) (result : Result)

structure Entry (Id Op Result : Type) where
  id : Id
  op : Op
  result : Result

inductive Legal (does : State → Op → Result → State → Prop) (start : State) :
    List (Entry Id Op Result) → State → Prop
  | nil : Legal does start [] start
  | snoc {order : List (Entry Id Op Result)} {entry : Entry Id Op Result} {middle finish : State}
      (before : Legal does start order middle) (step : does middle entry.op entry.result finish) :
      Legal does start (order ++ [entry]) finish

/-- The order explains every response that tells the outcome of its call, and respects the order in
time of calls that do not overlap. Calls without such a response may be in it or not. -/
structure Linearizes (does : State → Op → Result → State → Prop) (tells : Result → Prop) (start : State)
    (history : List (Event Id Op Result)) (order : List (Entry Id Op Result)) (finish : State) : Prop where
  legal : Legal does start order finish
  distinct : (order.map Entry.id).Nodup
  invoked : ∀ entry ∈ order, .invoke entry.id entry.op ∈ history
  responded : ∀ id result, .respond id result ∈ history → tells result →
    ∃ entry ∈ order, entry.id = id ∧ entry.result = result
  inTime : ∀ first result second op, List.Sublist [.respond first result, .invoke second op] history →
    ∀ earlier ∈ order, earlier.id = first → ∀ later ∈ order, later.id = second → List.Sublist [earlier, later] order

/-- No call is made twice or answered twice, and an answer comes after its call. -/
structure Proper (history : List (Event Id Op Result)) : Prop where
  calls : history.Pairwise fun first second => ∀ id op other, first = .invoke id op → second ≠ .invoke id other
  answers : history.Pairwise fun first second => ∀ id result other, first = .respond id result → second ≠ .respond id other
  order : ∀ before id result behind, history = before ++ .respond id result :: behind → ∃ op, .invoke id op ∈ before

theorem pair_sublist_snoc {α : Type} {first second last : α} {items : List α}
    (inside : List.Sublist [first, second] (items ++ [last])) :
    List.Sublist [first, second] items ∨ (first ∈ items ∧ second = last) := by
  obtain ⟨front, rear, split, frontIn, rearIn⟩ := List.sublist_append_iff.mp inside
  rcases List.sublist_singleton.mp rearIn with none | one
  · left
    rw [none, List.append_nil] at split
    rw [split]
    exact frontIn
  · right
    rw [one] at split
    obtain ⟨frontEq, rearEq⟩ := List.append_inj' (show [first] ++ [second] = front ++ [last] from split) rfl
    refine ⟨?_, (List.cons.inj rearEq).1⟩
    rw [← frontEq] at frontIn
    exact List.singleton_sublist.mp frontIn

section
variable {does : State → Op → Result → State → Prop} {tells : Result → Prop} {initial finish : State}
  {history : List (Event Id Op Result)} {order : List (Entry Id Op Result)}

theorem Linearizes.start (does : State → Op → Result → State → Prop) (tells : Result → Prop) (initial : State) :
    Linearizes does tells initial ([] : List (Event Id Op Result)) [] initial where
  legal := .nil
  distinct := List.nodup_nil
  invoked := fun _ member => absurd member List.not_mem_nil
  responded := fun _ _ member => absurd member List.not_mem_nil
  inTime := fun _ _ _ _ _ _ member => absurd member List.not_mem_nil

theorem Linearizes.invoke (linearizes : Linearizes does tells initial history order finish) {id : Id}
    (fresh : ∀ op, .invoke id op ∉ history) (op : Op) :
    Linearizes does tells initial (history ++ [.invoke id op]) order finish where
  legal := linearizes.legal
  distinct := linearizes.distinct
  invoked := fun entry member => List.mem_append_left _ (linearizes.invoked entry member)
  responded := by
    intro other result member known
    rcases List.mem_append.mp member with earlier | last
    · exact linearizes.responded other result earlier known
    · exact absurd (List.mem_singleton.mp last) (by simp)
  inTime := by
    intro first result second other inside earlier here isFirst later member same
    rcases pair_sublist_snoc inside with before | ⟨_, last⟩
    · exact linearizes.inTime first result second other before earlier here isFirst later member same
    · cases last
      have called := linearizes.invoked later member
      rw [same] at called
      exact absurd called (fresh _)

theorem Linearizes.commit (linearizes : Linearizes does tells initial history order finish) {entry : Entry Id Op Result}
    {after : State} (called : .invoke entry.id entry.op ∈ history)
    (unanswered : ∀ result, .respond entry.id result ∉ history) (new : ∀ other ∈ order, other.id ≠ entry.id)
    (step : does finish entry.op entry.result after) :
    Linearizes does tells initial history (order ++ [entry]) after where
  legal := .snoc linearizes.legal step
  distinct := by
    rw [List.map_append, List.nodup_append]
    refine ⟨linearizes.distinct, List.nodup_singleton _, ?_⟩
    intro id earlier last isLast
    obtain ⟨other, member, same⟩ := List.mem_map.mp earlier
    rw [← same, List.mem_singleton.mp isLast]
    exact new other member
  invoked := by
    intro other member
    rcases List.mem_append.mp member with earlier | last
    · exact linearizes.invoked other earlier
    · rw [List.mem_singleton.mp last]
      exact called
  responded := by
    intro id result member known
    obtain ⟨other, earlier, same⟩ := linearizes.responded id result member known
    exact ⟨other, List.mem_append_left _ earlier, same⟩
  inTime := by
    intro first result second op inside earlier here isFirst later member same
    -- the call that takes effect now is not the one that was answered
    have answered := inside.subset (List.mem_cons_self ..)
    have old : earlier ∈ order := by
      rcases List.mem_append.mp here with old | last
      · exact old
      · rw [← isFirst, List.mem_singleton.mp last] at answered
        exact absurd answered (unanswered result)
    rcases List.mem_append.mp member with before | last
    · exact (linearizes.inTime first result second op inside earlier old isFirst later before same).trans
        (List.sublist_append_left _ _)
    · rw [List.mem_singleton.mp last]
      exact List.Sublist.append (List.singleton_sublist.mpr old) (List.Sublist.refl [entry])

theorem Linearizes.respond (linearizes : Linearizes does tells initial history order finish) {id : Id} {result : Result}
    (explained : tells result → ∃ entry ∈ order, entry.id = id ∧ entry.result = result) :
    Linearizes does tells initial (history ++ [.respond id result]) order finish where
  legal := linearizes.legal
  distinct := linearizes.distinct
  invoked := fun other here => List.mem_append_left _ (linearizes.invoked other here)
  responded := by
    intro other given answered known
    rcases List.mem_append.mp answered with earlier | last
    · exact linearizes.responded other given earlier known
    · cases List.mem_singleton.mp last
      exact explained known
  inTime := by
    intro first given second op inside earlier here isFirst later member same
    rcases pair_sublist_snoc inside with before | ⟨_, last⟩
    · exact linearizes.inTime first given second op before earlier here isFirst later member same
    · cases last

theorem Proper.start : Proper ([] : List (Event Id Op Result)) where
  calls := List.Pairwise.nil
  answers := List.Pairwise.nil
  order := fun _ _ _ _ split => absurd split (by simp)

theorem Proper.invoke (proper : Proper history) {id : Id} (fresh : ∀ op, .invoke id op ∉ history) (op : Op) :
    Proper (history ++ [.invoke id op]) where
  calls := by
    rw [List.pairwise_append]
    refine ⟨proper.calls, List.pairwise_singleton _ _, ?_⟩
    intro first member second last other op' op'' isFirst isSecond
    rw [List.mem_singleton.mp last] at isSecond
    cases isSecond
    rw [isFirst] at member
    exact fresh op' member
  answers := by
    rw [List.pairwise_append]
    refine ⟨proper.answers, List.pairwise_singleton _ _, ?_⟩
    intro first _ second last other result result' _ isSecond
    rw [List.mem_singleton.mp last] at isSecond
    cases isSecond
  order := by
    intro before other result behind split
    rcases List.eq_nil_or_concat behind with none | ⟨front, rear, both⟩
    · rw [none] at split
      exact absurd (List.append_inj' split rfl).2 (by simp)
    · rw [both, List.concat_eq_append, ← List.cons_append, ← List.append_assoc] at split
      exact proper.order before other result front (List.append_inj' split rfl).1

theorem Proper.respond (proper : Proper history) {id : Id} {op : Op} (called : .invoke id op ∈ history)
    (open_ : ∀ result, .respond id result ∉ history) (result : Result) : Proper (history ++ [.respond id result]) where
  calls := by
    rw [List.pairwise_append]
    refine ⟨proper.calls, List.pairwise_singleton _ _, ?_⟩
    intro first _ second last other op' op'' _ isSecond
    rw [List.mem_singleton.mp last] at isSecond
    cases isSecond
  answers := by
    rw [List.pairwise_append]
    refine ⟨proper.answers, List.pairwise_singleton _ _, ?_⟩
    intro first member second last other result' result'' isFirst isSecond
    rw [List.mem_singleton.mp last] at isSecond
    cases isSecond
    rw [isFirst] at member
    exact open_ result' member
  order := by
    intro before other result' behind split
    rcases List.eq_nil_or_concat behind with none | ⟨front, rear, both⟩
    · rw [none] at split
      obtain ⟨same, last⟩ := List.append_inj' split rfl
      cases last
      rw [← same]
      exact ⟨op, called⟩
    · rw [both, List.concat_eq_append, ← List.cons_append, ← List.append_assoc] at split
      exact proper.order before other result' front (List.append_inj' split rfl).1

end

end Linearizable
