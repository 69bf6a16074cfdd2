import EventfoldDb.Lib.Window

/-! Conditional appends to a log that is divided by a key. A write may say how many items must
be under its key already. Writes that were let in one after another never share a place. -/

namespace SerialLog
open Numbering Window
variable {ε κ : Type}

structure Write (ε κ : Type) where
  target : κ
  /-- The number of items that have to be under the key, if the writer cares. -/
  base : Option Nat
  items : List ε

def itemsOf (writes : List (Write ε κ)) : List ε := writes.flatMap (·.items)

theorem append_itemsOf_cons (log : List ε) (write : Write ε κ) (writes : List (Write ε κ)) :
    log ++ itemsOf (write :: writes) = log ++ write.items ++ itemsOf writes := by
  rw [itemsOf, itemsOf, List.flatMap_cons, List.append_assoc]

variable [DecidableEq κ]

section
variable (key : ε → κ)

def under (target : κ) (log : List ε) : List ε := log.filter (key · = target)

structure Admitted (log : List ε) (write : Write ε κ) : Prop where
  present : write.items ≠ []
  keyed : ∀ item ∈ write.items, key item = write.target
  counted : ∀ base, write.base = some base → base = (under key write.target log).length

/-- Each write is admitted on top of the log and the writes before it. -/
def Serial (log : List ε) : List (Write ε κ) → Prop
  | [] => True
  | write :: writes => Admitted key log write ∧ Serial (log ++ write.items) writes

end

variable {key : ε → κ} {log : List ε}

theorem under_append (target : κ) (first second : List ε) :
    under key target (first ++ second) = under key target first ++ under key target second :=
  List.filter_append ..

theorem mem_under {target : κ} {item : ε} : item ∈ under key target log ↔ item ∈ log ∧ key item = target := by
  rw [under, List.mem_filter, decide_eq_true_eq]

theorem Admitted.under_items {write : Write ε κ} (admitted : Admitted key log write) :
    under key write.target write.items = write.items :=
  List.filter_eq_self.mpr (fun item inside => decide_eq_true (admitted.keyed item inside))

theorem serial_append (first second : List (Write ε κ)) :
    Serial key log (first ++ second) ↔ Serial key log first ∧ Serial key (log ++ itemsOf first) second := by
  induction first generalizing log with
  | nil => simp [Serial, itemsOf]
  | cons write writes ih =>
    rw [List.cons_append, Serial, Serial, ih, append_itemsOf_cons, and_assoc]

theorem Serial.admitted {writes : List (Write ε κ)} (serial : Serial key log writes) {write : Write ε κ}
    (member : write ∈ writes) : ∃ grown, Admitted key grown write := by
  induction writes generalizing log with
  | nil => cases member
  | cons first writes ih =>
    obtain ⟨admitted, rest⟩ := serial
    rcases List.mem_cons.mp member with same | later
    · rw [same]
      exact ⟨log, admitted⟩
    · exact ih rest later

theorem Serial.base_ge {writes : List (Write ε κ)} (serial : Serial key log writes) {write : Write ε κ}
    (member : write ∈ writes) {base : Nat} (expects : write.base = some base) :
    (under key write.target log).length ≤ base := by
  induction writes generalizing log with
  | nil => cases member
  | cons first writes ih =>
    obtain ⟨admitted, rest⟩ := serial
    rcases List.mem_cons.mp member with same | later
    · rw [same] at expects ⊢
      exact Nat.le_of_eq (admitted.counted base expects).symm
    · have longer := ih rest later
      rw [under_append, List.length_append] at longer
      omega

theorem Serial.occupies {writes : List (Write ε κ)} (serial : Serial key log writes) {write : Write ε κ}
    (member : write ∈ writes) {base : Nat} (expects : write.base = some base) :
    window base (base + write.items.length) (under key write.target (log ++ itemsOf writes)) = write.items := by
  induction writes generalizing log with
  | nil => cases member
  | cons first writes ih =>
    obtain ⟨admitted, rest⟩ := serial
    rw [append_itemsOf_cons]
    rcases List.mem_cons.mp member with same | later
    · rw [same] at expects ⊢
      rw [admitted.counted base expects, under_append, under_append, admitted.under_items,
        window_append _ (Nat.le_of_eq List.length_append.symm), window_behind]
    · exact ih rest later

section
variable (rank : ε → Nat)

/-- The earlier write ends where the later one may begin, on the key of either. -/
def Precedes (key : ε → κ) (earlier later : Write ε κ) : Prop :=
  (∀ base, earlier.base = some base → ∀ item ∈ later.items, key item = earlier.target →
    base + earlier.items.length ≤ rank item) ∧
  ∀ base, later.base = some base → ∀ item ∈ earlier.items, key item = later.target → rank item < base

variable {rank}

theorem rank_lt {first second : List ε} {item : ε}
    (numbered : Numbered rank 0 (under key (key item) (first ++ second))) (member : item ∈ first) :
    rank item < (under key (key item) first).length := by
  rw [under_append, numbered_append] at numbered
  obtain ⟨i, found⟩ := List.mem_iff_getElem?.mp (mem_under.mpr ⟨member, rfl⟩ : item ∈ under key (key item) first)
  have at_i := numbered.1.getElem? found
  have inside := (List.getElem?_eq_some_iff.mp found).1
  omega

theorem le_rank {first second : List ε} {item : ε}
    (numbered : Numbered rank 0 (under key (key item) (first ++ second))) (member : item ∈ second) :
    (under key (key item) first).length ≤ rank item := by
  rw [under_append, numbered_append] at numbered
  obtain ⟨i, found⟩ := List.mem_iff_getElem?.mp (mem_under.mpr ⟨member, rfl⟩ : item ∈ under key (key item) second)
  have at_i := numbered.2.getElem? found
  omega

theorem Serial.pairwise {writes : List (Write ε κ)} (serial : Serial key log writes)
    (numbered : ∀ target, Numbered rank 0 (under key target (log ++ itemsOf writes))) :
    writes.Pairwise (Precedes rank key) := by
  induction writes generalizing log with
  | nil => exact List.Pairwise.nil
  | cons first writes ih =>
    obtain ⟨admitted, rest⟩ := serial
    simp only [append_itemsOf_cons] at numbered
    refine List.pairwise_cons.mpr ⟨?_, ih rest numbered⟩
    intro later member
    constructor
    · intro base expects item inside same
      have behind := le_rank (numbered (key item)) (List.mem_flatMap.mpr ⟨later, member, inside⟩)
      rw [same, under_append, admitted.under_items, List.length_append, ← admitted.counted base expects] at behind
      exact behind
    · intro base expects item inside same
      have before := rank_lt (numbered (key item)) (List.mem_append_right log inside)
      have counted := rest.base_ge member expects
      rw [same] at before
      omega

end
end SerialLog
