import Mathlib.Data.List.Basic

/-! Strings cut into frames. A framing says which strings are one frame and which items a
frame carries; no frame is empty, and at the head of a string stands at most one frame. Then the
beginning of a string that reads as frames and after which no frame begins is the longest one. -/

structure Framing (α β : Type) where
  Frame : List α → List β → Prop
  nonempty : ∀ items, ¬Frame [] items
  unambiguous : ∀ frame items other others rest left, Frame frame items → Frame other others →
    frame ++ rest = other ++ left → frame = other ∧ items = others

namespace Framing
variable {α β : Type} (framing : Framing α β)

/-- So many frames, one behind the other, and the items of all of them. -/
inductive Frames : Nat → List α → List β → Prop where
  | nil : Frames 0 [] []
  | cons {count : Nat} {frame tail : List α} {items more : List β} (head : framing.Frame frame items)
      (rest : Frames count tail more) : Frames (count + 1) (frame ++ tail) (items ++ more)

def Begins (string : List α) : Prop := ∃ frame items rest, framing.Frame frame items ∧ string = frame ++ rest

variable {framing}

/-- Where no further frame begins, nothing longer can be read from the head of the string. -/
theorem Frames.longest {count others : Nat} {string other rest left : List α} {items more : List β}
    (frames : framing.Frames count string items) (stuck : ¬framing.Begins rest)
    (frames' : framing.Frames others other more) (same : string ++ rest = other ++ left) :
    other.length ≤ string.length := by
  induction frames generalizing other others more with
  | nil =>
    cases frames' with
    | nil => exact Nat.le_refl _
    | cons head' tail' =>
      rw [List.nil_append, List.append_assoc] at same
      exact absurd ⟨_, _, _, head', same⟩ stuck
  | cons head _ ih =>
    cases frames' with
    | nil => exact Nat.zero_le _
    | cons head' tail' =>
      rw [List.append_assoc, List.append_assoc] at same
      obtain ⟨sameFrame, -⟩ := framing.unambiguous _ _ _ _ _ _ head head' same
      subst sameFrame
      rw [List.length_append, List.length_append]
      exact Nat.add_le_add_left (ih tail' (List.append_cancel_left same)) _

theorem Frames.append {count others : Nat} {string other : List α} {items more : List β}
    (frames : framing.Frames count string items) (frames' : framing.Frames others other more) :
    framing.Frames (others + count) (string ++ other) (items ++ more) := by
  induction frames with
  | nil => exact frames'
  | cons head _ ih =>
    rw [List.append_assoc, List.append_assoc]
    exact .cons head ih

theorem exists_stuck (framing : Framing α β) (string : List α) :
    ∃ count taken items rest, framing.Frames count taken items ∧ string = taken ++ rest ∧ ¬framing.Begins rest := by
  induction size : string.length using Nat.strongRecOn generalizing string with
  | ind length ih =>
    by_cases begins : framing.Begins string
    · obtain ⟨frame, items, rest, head, rfl⟩ := begins
      have nonempty : frame ≠ [] := fun empty => framing.nonempty items (empty ▸ head)
      have shorter : rest.length < length := by
        have := List.length_pos_of_ne_nil nonempty
        rw [List.length_append] at size
        omega
      obtain ⟨count, taken, more, left, frames, rfl, stuck⟩ := ih _ shorter rest rfl
      exact ⟨count + 1, frame ++ taken, items ++ more, left, .cons head frames, (List.append_assoc ..).symm, stuck⟩
    · exact ⟨0, [], [], string, .nil, rfl, begins⟩

theorem Frames.items_eq {count others : Nat} {string : List α} {items more : List β}
    (frames : framing.Frames count string items) (frames' : framing.Frames others string more) : items = more := by
  induction frames generalizing others more with
  | nil =>
    generalize empty : ([] : List α) = string at frames'
    cases frames' with
    | nil => rfl
    | cons head' tail' =>
      rw [(List.append_eq_nil_iff.mp empty.symm).1] at head'
      exact absurd head' (framing.nonempty _)
  | @cons count frame tail items rest head _ ih =>
    generalize whole : frame ++ tail = string at frames'
    cases frames' with
    | nil =>
      rw [(List.append_eq_nil_iff.mp whole).1] at head
      exact absurd head (framing.nonempty _)
    | cons head' tail' =>
      obtain ⟨sameFrame, sameItems⟩ := framing.unambiguous _ _ _ _ _ _ head head' whole
      subst sameFrame
      rw [← List.append_cancel_left whole] at tail'
      rw [sameItems, ih tail']

end Framing
