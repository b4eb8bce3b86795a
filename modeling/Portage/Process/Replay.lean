import Portage.Process.Run
import Mathlib.Logic.Function.Basic

/-! Programs that share a state and take turns between their calls. A program in flight
is kept as the state that it began in and what each of its calls so far has found and
been answered; where it stands is found by running it again on these. -/
namespace Portage.Process.Replay

variable {γ χ τ ε : Type}

structure Flight (γ χ τ : Type) where
  job : χ
  began : γ
  calls : List (γ × τ) := []

structure System (γ χ τ : Type) where
  state : γ
  flights : Nat → Option (Flight γ χ τ) := fun _ => none

/-- A job is started, a flight makes its next call, or somebody else moves. -/
inductive Turn (χ τ ε : Type) where
  | start (id : Nat) (job : χ)
  | call (id : Nat) (answer : τ)
  | move (what : ε)

/-- Whether a flight goes on to another call, the state that its calls have left, and
how the others move. -/
structure Rules (γ χ τ ε : Type) where
  calling : Flight γ χ τ → Bool
  after : Flight γ χ τ → γ
  moved : ε → γ → γ

/-- The flight after its next call, which found `state`. -/
def Flight.step (flight : Flight γ χ τ) (state : γ) (answer : τ) : Flight γ χ τ :=
  { flight with calls := flight.calls ++ [(state, answer)] }

/-- One turn, if it can be taken. -/
def act (rules : Rules γ χ τ ε) (system : System γ χ τ) : Turn χ τ ε → Option (System γ χ τ)
  | .start id job =>
    match system.flights id with
    | some _ => none
    | none => some { system with
        flights := Function.update system.flights id (some { job, began := system.state }) }
  | .call id answer =>
    match system.flights id with
    | none => none
    | some flight =>
      if rules.calling flight then
        let next := flight.step system.state answer
        some { state := rules.after next, flights := Function.update system.flights id (some next) }
      else none
  | .move what => some { system with state := rules.moved what system.state }

abbrev Runs (rules : Rules γ χ τ ε) (start : System γ χ τ) :=
  Process.Run (act rules) (fun _ _ after => after) start

/-- Every state that the flight has found satisfies `inv`. -/
structure Flight.Found (inv : γ → Prop) (flight : Flight γ χ τ) : Prop where
  began : inv flight.began
  calls : ∀ entry ∈ flight.calls, inv entry.1

theorem Flight.Found.step {inv : γ → Prop} {flight : Flight γ χ τ} {state : γ} (found : flight.Found inv)
    (holds : inv state) (answer : τ) : (flight.step state answer).Found inv := by
  refine ⟨found.began, fun entry member => ?_⟩
  rcases List.mem_append.mp member with earlier | last
  · exact found.calls entry earlier
  · rw [List.mem_singleton.mp last]
    exact holds

section
variable {rules : Rules γ χ τ ε} {inv : γ → Prop} {fits : χ → Prop}

/-- The invariant holds now, and held whenever a flight looked. -/
structure Sound (inv : γ → Prop) (fits : χ → Prop) (system : System γ χ τ) : Prop where
  state : inv system.state
  found : ∀ id flight, system.flights id = some flight → flight.Found inv
  jobs : ∀ id flight, system.flights id = some flight → fits flight.job

private theorem Sound.update {system : System γ χ τ} (sound : Sound inv fits system) (id : Nat)
    {flight : Flight γ χ τ} {state : γ} (holds : inv state) (found : flight.Found inv) (fit : fits flight.job) :
    Sound inv fits { state, flights := Function.update system.flights id (some flight) } := by
  refine ⟨holds, fun other running taken => ?_, fun other running taken => ?_⟩
  · by_cases same : other = id
    · obtain rfl : flight = running := by simpa [same] using taken
      exact found
    · exact sound.found other running (by simpa [same] using taken)
  · by_cases same : other = id
    · obtain rfl : flight = running := by simpa [same] using taken
      exact fit
    · exact sound.jobs other running (by simpa [same] using taken)

/-- A turn that starts a job that fits, or moves the state within the invariant. -/
def Turn.Fits (rules : Rules γ χ τ ε) (inv : γ → Prop) (fits : χ → Prop) : Turn χ τ ε → Prop
  | .start _ job => fits job
  | .call _ _ => True
  | .move what => ∀ state, inv state → inv (rules.moved what state)

theorem act_sound (left : ∀ flight : Flight γ χ τ, fits flight.job → flight.Found inv → inv (rules.after flight))
    {system after : System γ χ τ} {turn : Turn χ τ ε} (sound : Sound inv fits system)
    (fit : turn.Fits rules inv fits) (taken : act rules system turn = some after) : Sound inv fits after := by
  cases turn with
  | start id job =>
    cases found : system.flights id with
    | some flight => simp [act, found] at taken
    | none =>
      obtain rfl := Option.some.inj (by simpa only [act, found] using taken)
      exact sound.update id sound.state ⟨sound.state, by simp⟩ fit
  | call id answer =>
    cases found : system.flights id with
    | none => simp [act, found] at taken
    | some flight =>
      by_cases calling : rules.calling flight = true
      · obtain rfl := Option.some.inj (by simpa only [act, found, calling, if_true] using taken)
        have next := (sound.found id flight found).step sound.state answer
        have job : fits (flight.step system.state answer).job := sound.jobs id flight found
        exact sound.update id (left _ job next) next job
      · simp [act, found, calling] at taken
  | move what =>
    obtain rfl := Option.some.inj taken
    exact ⟨fit _ sound.state, sound.found, sound.jobs⟩

/-- An invariant that holds at the start, that the others keep to, and that every flight
leaves if it only ever finds it, holds along every run. -/
theorem Runs.invariant {start state : System γ χ τ}
    {steps : List (Step (System γ χ τ) (Turn χ τ ε) (System γ χ τ))} (run : Runs rules start steps state)
    (left : ∀ flight : Flight γ χ τ, fits flight.job → flight.Found inv → inv (rules.after flight))
    (idle : ∀ id, start.flights id = none) (initial : inv start.state)
    (fit : ∀ step ∈ steps, step.input.Fits rules inv fits) : inv state.state := by
  suffices sound : Sound inv fits state from sound.state
  induction run with
  | nil => exact ⟨initial, by simp [idle], by simp [idle]⟩
  | @snoc steps state turn after earlier taken ih =>
    exact act_sound left (ih fun step member => fit step (by simp [member]))
      (fit ⟨state, turn, after⟩ (by simp)) taken

end

end Portage.Process.Replay
