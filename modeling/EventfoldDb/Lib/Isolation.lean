import Mathlib.Data.List.Basic

/-! A system whose requests are divided by a key. If a request acts on the view of its own key as a
function of that view and leaves every other view alone, then what one key sees of a run is a
function of the requests to that key. -/

namespace Isolation
variable {State Request Outcome Key View : Type} [DecidableEq Key]

inductive Run (serves : State → Request → Outcome → State → Prop) (start : State) :
    List (Request × Outcome) → State → Prop
  | nil : Run serves start [] start
  | snoc {answers : List (Request × Outcome)} {middle final : State} {request : Request} {outcome : Outcome}
      (run : Run serves start answers middle) (step : serves middle request outcome final) :
      Run serves start (answers ++ [(request, outcome)]) final

def runPart (part : View → Request → Outcome × View) : View → List Request → List Outcome × View
  | view, [] => ([], view)
  | view, request :: requests =>
      ((part view request).1 :: (runPart part (part view request).2 requests).1,
        (runPart part (part view request).2 requests).2)

theorem runPart_snoc (part : View → Request → Outcome × View) (view : View) (requests : List Request)
    (request : Request) :
    runPart part view (requests ++ [request]) =
      ((runPart part view requests).1 ++ [(part (runPart part view requests).2 request).1],
        (part (runPart part view requests).2 request).2) := by
  induction requests generalizing view with
  | nil => rfl
  | cons first requests ih => simp only [List.cons_append, runPart, ih]

/-- A request is a step of its own key and of no other. -/
structure Divided (serves : State → Request → Outcome → State → Prop) (key : Request → Key)
    (view : Key → State → View) (part : Key → View → Request → Outcome × View) : Prop where
  own : ∀ {before request outcome after}, serves before request outcome after →
    part (key request) (view (key request) before) request = (outcome, view (key request) after)
  other : ∀ {before request outcome after which}, serves before request outcome after → key request ≠ which →
    view which after = view which before

def addressed (key : Request → Key) (which : Key) (answers : List (Request × Outcome)) : List (Request × Outcome) :=
  answers.filter fun answer => key answer.1 = which

section
variable {serves : State → Request → Outcome → State → Prop} {key : Request → Key} {view : Key → State → View}
  {part : Key → View → Request → Outcome × View} (divided : Divided serves key view part)
include divided

theorem Divided.run {start final : State} {answers : List (Request × Outcome)} (run : Run serves start answers final)
    (which : Key) :
    runPart (part which) (view which start) ((addressed key which answers).map Prod.fst) =
      ((addressed key which answers).map Prod.snd, view which final) := by
  induction run with
  | nil => rfl
  | snoc run step ih =>
    rename_i answers middle final request outcome
    rw [addressed, List.filter_append]
    by_cases mine : key request = which
    · have one : [(request, outcome)].filter (fun answer => key answer.1 = which) = [(request, outcome)] := by
        simp [mine]
      have acts := divided.own step
      rw [mine] at acts
      rw [addressed] at ih
      rw [one, List.map_append, List.map_append, List.map_singleton, List.map_singleton, runPart_snoc, ih, acts]
    · have none : [(request, outcome)].filter (fun answer => key answer.1 = which) = [] := by
        simp [mine]
      rw [none, List.append_nil, divided.other step mine]
      exact ih

/-- Two runs with the same requests to a key look the same to it. -/
theorem Divided.agree {start final last : State} {answers others : List (Request × Outcome)}
    (first : Run serves start answers final) (second : Run serves start others last) {which : Key}
    (same : (addressed key which answers).map Prod.fst = (addressed key which others).map Prod.fst) :
    (addressed key which answers).map Prod.snd = (addressed key which others).map Prod.snd ∧
      view which final = view which last := by
  have here := divided.run first which
  rw [same, divided.run second which] at here
  obtain ⟨outcomes, views⟩ := Prod.mk.inj here
  exact ⟨outcomes.symm, views.symm⟩

end

end Isolation
