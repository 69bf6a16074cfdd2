import Mathlib.Data.List.Basic

/-! Lists whose items change in place: every index keeps an item that follows from the one before. -/

namespace Evolution
variable {α : Type} {follows : α → α → Prop}

def Carried (follows : α → α → Prop) (before after : List α) : Prop :=
  ∀ (index : Nat) (item : α), before[index]? = some item → ∃ later, after[index]? = some later ∧ follows item later

theorem carried_refl (same : ∀ item, follows item item) (items : List α) : Carried follows items items :=
  fun _ item here => ⟨item, here, same item⟩

theorem carried_set (same : ∀ item, follows item item) {items : List α} {index : Nat} {item later : α}
    (here : items[index]? = some item) (next : follows item later) : Carried follows items (items.set index later) := by
  intro other found present
  by_cases hit : index = other
  · rw [← hit, here] at present
    cases present
    obtain ⟨inside, _⟩ := List.getElem?_eq_some_iff.mp here
    exact ⟨later, by rw [← hit, List.getElem?_set_self inside], next⟩
  · exact ⟨found, by rw [List.getElem?_set_ne hit]; exact present, same found⟩

theorem carried_append (same : ∀ item, follows item item) (items more : List α) :
    Carried follows items (items ++ more) := by
  intro index item here
  obtain ⟨inside, _⟩ := List.getElem?_eq_some_iff.mp here
  exact ⟨item, by rw [List.getElem?_append_left inside]; exact here, same item⟩

theorem Carried.back {before after : List α} (carried : Carried follows before after)
    (length : after.length = before.length) {index : Nat} {later : α} (here : after[index]? = some later) :
    ∃ item, before[index]? = some item ∧ follows item later := by
  obtain ⟨inside, _⟩ := List.getElem?_eq_some_iff.mp here
  have present := List.getElem?_eq_getElem (show index < before.length by omega)
  obtain ⟨other, found, next⟩ := carried index _ present
  rw [here] at found
  cases found
  exact ⟨_, present, next⟩

theorem getElem?_snoc {items : List α} {last item : α} {index : Nat} (here : (items ++ [last])[index]? = some item) :
    items[index]? = some item ∨ index = items.length ∧ item = last := by
  rcases Nat.lt_trichotomy index items.length with inside | atEnd | beyond
  · rw [List.getElem?_append_left inside] at here
    exact .inl here
  · rw [atEnd, List.getElem?_concat_length] at here
    exact .inr ⟨atEnd, (Option.some.inj here).symm⟩
  · rw [List.getElem?_eq_none (by rw [List.length_append, List.length_singleton]; omega)] at here
    cases here

theorem countP_set_add (counted : α → Bool) {items : List α} {index : Nat} {item : α}
    (here : items[index]? = some item) (later : α) :
    (items.set index later).countP counted + (if counted item then 1 else 0) =
      items.countP counted + if counted later then 1 else 0 := by
  obtain ⟨inside, same⟩ := List.getElem?_eq_some_iff.mp here
  have present : (if counted items[index] then 1 else 0) ≤ items.countP counted := List.boole_getElem_le_countP inside
  rw [List.countP_set inside]
  rw [same] at present ⊢
  omega

end Evolution
