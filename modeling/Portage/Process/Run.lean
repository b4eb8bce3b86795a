import Mathlib.Data.List.Basic

/-! Finite runs of a deterministic component. Each step is taken in a state on
an input and may be refused; what the component answered is kept in the history,
so that a property can speak about any earlier step of the same run. -/
namespace Portage.Process

structure Step (σ ι ο : Type) where
  before : σ
  input : ι
  output : ο

/-- Runs from `start`, with the steps taken so far and the state reached. -/
inductive Run {σ ι ο : Type} (act : σ → ι → Option ο) (next : σ → ι → ο → σ) (start : σ) :
    List (Step σ ι ο) → σ → Prop where
  | nil : Run act next start [] start
  | snoc (earlier : Run act next start steps state) (taken : act state input = some output) :
      Run act next start (steps ++ [⟨state, input, output⟩]) (next state input output)

section
variable {σ ι ο : Type} {act : σ → ι → Option ο} {next : σ → ι → ο → σ} {start state : σ}
variable {steps : List (Step σ ι ο)}

/-- An invariant of the history and the state holds along every run. -/
theorem Run.history (run : Run act next start steps state)
    (property : List (Step σ ι ο) → σ → Prop) (initial : property [] start)
    (preserved : ∀ steps state input output, Run act next start steps state →
      property steps state → act state input = some output →
      property (steps ++ [⟨state, input, output⟩]) (next state input output)) :
    property steps state := by
  induction run with
  | nil => exact initial
  | snoc earlier taken ih => exact preserved _ _ _ _ earlier ih taken

/-- Every step of a run was taken in a state that the run had reached. -/
theorem Run.reached (run : Run act next start steps state) (earlier later : List (Step σ ι ο))
    (step : Step σ ι ο) (split : steps = earlier ++ step :: later) :
    Run act next start earlier step.before ∧ act step.before step.input = some step.output := by
  induction run generalizing earlier later with
  | nil => simp at split
  | @snoc taken reached input output before done ih =>
    rcases List.eq_nil_or_concat later with none | ⟨initial, last, same⟩
    · subst none
      obtain ⟨sameSteps, sameStep⟩ := List.append_inj' split rfl
      obtain rfl : step = ⟨reached, input, output⟩ := by simpa using sameStep.symm
      exact ⟨sameSteps ▸ before, done⟩
    · subst same
      rw [List.concat_eq_append, ← List.cons_append, ← List.append_assoc] at split
      exact ih earlier initial (List.append_inj' split rfl).1

theorem Run.taken (run : Run act next start steps state) (step : Step σ ι ο)
    (member : step ∈ steps) : act step.before step.input = some step.output := by
  obtain ⟨earlier, later, split⟩ := List.append_of_mem member
  exact (run.reached earlier later step split).2

/-- Feed a list of inputs to the component, stopping at the first refusal. -/
def execute (act : σ → ι → Option ο) (next : σ → ι → ο → σ) (start : σ) :
    List ι → Option (List (Step σ ι ο) × σ)
  | [] => some ([], start)
  | input :: rest =>
    match act start input with
    | none => none
    | some output =>
      match execute act next (next start input output) rest with
      | none => none
      | some (steps, last) => some (⟨start, input, output⟩ :: steps, last)

theorem Run.cons (first : Step σ ι ο) (taken : act first.before first.input = some first.output)
    (rest : Run act next (next first.before first.input first.output) steps state) :
    Run act next first.before (first :: steps) state := by
  induction rest with
  | nil => exact Run.snoc Run.nil taken
  | snoc earlier done ih => exact Run.snoc ih done

/-- What `execute` computes is a run. -/
theorem Run.ofExecute {inputs : List ι}
    (computed : execute act next start inputs = some (steps, state)) :
    Run act next start steps state := by
  induction inputs generalizing start steps with
  | nil =>
    obtain ⟨rfl, rfl⟩ : [] = steps ∧ start = state := by simpa [execute] using computed
    exact .nil
  | cons input rest ih =>
    cases answered : act start input with
    | none => simp [execute, answered] at computed
    | some output =>
      cases followed : execute act next (next start input output) rest with
      | none => simp [execute, answered, followed] at computed
      | some pair =>
        obtain ⟨tail, last⟩ := pair
        obtain ⟨rfl, rfl⟩ : (⟨start, input, output⟩ :: tail : List (Step σ ι ο)) = steps ∧ last = state := by
          simpa [execute, answered, followed] using computed
        exact Run.cons ⟨start, input, output⟩ answered (ih followed)

/-- Evaluate a run on given inputs and check a fact about it. -/
theorem Run.exists_of_execute {fact : List (Step σ ι ο) → σ → Prop} [∀ steps state, Decidable (fact steps state)]
    (inputs : List ι) (passes : (execute act next start inputs).any (fun done => fact done.1 done.2) = true) :
    ∃ steps state, Run act next start steps state ∧ fact steps state := by
  obtain ⟨⟨steps, state⟩, computed, checks⟩ := Option.any_eq_true _ _ |>.mp passes
  exact ⟨steps, state, Run.ofExecute computed, of_decide_eq_true checks⟩

end

end Portage.Process
