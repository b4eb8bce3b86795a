import Portage.Cutover.Machine
import Mathlib.Data.List.Forall2

/-! What a run of the Cutover machine went through before it succeeds. -/
namespace Portage.Cutover

open Go Process

variable {steps : List AdvanceStep} {status : ActionStatus} {facts : Facts}

theorem passes_of_unproven_none {workloads : List WorkloadActionStatus} (proven : unproven workloads = none) :
    ∀ w ∈ workloads, w.ready = true ∧ (w.cls = .stateless ∨ w.probeOK = true) := by
  intro w member
  unfold unproven at proven
  split at proven
  · rename_i missing
    have passed := List.find?_eq_none.mp missing w member
    simpa [WorkloadActionStatus.passes, imp_iff_or_not, or_comm] using passed
  · contradiction

/-- The list a Cutover may succeed with: not empty, all Ready and all probed. -/
def Proven (workloads : List WorkloadActionStatus) : Prop :=
  workloads ≠ [] ∧ ∀ w ∈ workloads, w.ready = true ∧ (w.cls = .stateless ∨ w.probeOK = true)

theorem prove_phase (workloads : List WorkloadActionStatus) (now : Time) :
    (prove workloads now).phase = .waitingReady ∨
      (prove workloads now).phase = .succeeded ∧ Proven workloads := by
  unfold prove
  cases answer : unproven workloads with
  | some message => exact .inl rfl
  | none =>
    cases opened : (canSucceed workloads).1 with
    | false => simp [opened]
    | true =>
      obtain ⟨⟨w, member, _⟩, _⟩ := (canSucceed_iff workloads).mp opened
      simp only [opened]
      exact .inr ⟨rfl, List.ne_nil_of_mem member, passes_of_unproven_none answer⟩

theorem prove_workloads (workloads : List WorkloadActionStatus) (now : Time) :
    (prove workloads now).workloads = workloads := by
  unfold prove
  split
  · rfl
  · dsimp only
    split <;> rfl

/-- Every branch of a step emits the seeded list. -/
@[simp] theorem advance_workloads (status : ActionStatus) (facts : Facts) :
    (advance status facts).workloads = seed status.workloads facts := by
  unfold advance
  dsimp only
  generalize (if status.phase = .unset then .pending else status.phase) = phase
  split
  · rfl
  · split <;> (repeat' split) <;> first | rfl | exact prove_workloads _ _

/-- The four confirmations a Cutover waits for. -/
inductive Stage where
  | frozen
  | caughtUp
  | promoted
  | switched
  deriving DecidableEq, Repr

/-- A step that confirms the stage, in the phase that waits for it. -/
def Stage.confirmedBy : Stage → AdvanceStep → Prop
  | .frozen, step => step.before.phase = .quiescing ∧ step.input.frozen = true
  | .caughtUp, step => step.before.phase = .catchingUp ∧ step.input.lagZero = true
  | .promoted, step => step.before.phase = .promoting ∧ step.input.promoted = true
  | .switched, step => step.before.phase = .switching ∧ step.input.switched = true

/-- The stages that lie behind a phase. -/
def stagesBehind : ActionPhase → List Stage
  | .catchingUp => [.frozen]
  | .promoting => [.frozen, .caughtUp]
  | .switching => [.frozen, .caughtUp, .promoted]
  | .waitingReady | .healing | .attesting | .succeeded => [.frozen, .caughtUp, .promoted, .switched]
  | _ => []

/-- Steps of the history confirmed the stages one after the other. -/
def Confirmed (stages : List Stage) (steps : List AdvanceStep) : Prop :=
  ∃ marks, marks.Sublist steps ∧ List.Forall₂ Stage.confirmedBy stages marks

theorem confirmed_nil (steps : List AdvanceStep) : Confirmed [] steps :=
  ⟨[], List.nil_sublist steps, .nil⟩

theorem Confirmed.extend {stages : List Stage} (confirmed : Confirmed stages steps) (step : AdvanceStep) :
    Confirmed stages (steps ++ [step]) := by
  obtain ⟨marks, within, matching⟩ := confirmed
  exact ⟨marks, within.trans (List.sublist_append_left _ _), matching⟩

theorem Confirmed.snoc {stages : List Stage} {stage : Stage} {step : AdvanceStep} (confirmed : Confirmed stages steps)
    (done : stage.confirmedBy step) : Confirmed (stages ++ [stage]) (steps ++ [step]) := by
  obtain ⟨marks, within, matching⟩ := confirmed
  exact ⟨marks ++ [step], within.append (List.Sublist.refl _),
    List.rel_append matching (.cons done .nil)⟩

/-- The phase a confirmed stage leads to. -/
def Stage.next : Stage → ActionPhase
  | .frozen => .catchingUp
  | .caughtUp => .promoting
  | .promoted => .switching
  | .switched => .waitingReady

/-- What one step can do to the phase, by the branch it takes. -/
inductive Move (status : ActionStatus) (facts : Facts) (result : ActionResult) : Prop where
  | rolledBack (asked : facts.rollback = true) (phase : result.phase = .rolledBack)
  | finished
      (ended : status.phase = .succeeded ∨ status.phase = .failed ∨ status.phase = .rolledBack)
      (phase : result.phase = status.phase)
  | started (phase : result.phase = .preflight ∨ result.phase = .quiescing)
  | rehearsed (dry : facts.dryRun = true) (phase : result.phase = .succeeded)
  | held (during : status.phase = .catchingUp ∨ status.phase = .promoting ∨ status.phase = .switching)
      (phase : result.phase = status.phase)
  | confirmed (stage : Stage) (done : stage.confirmedBy ⟨status, facts, result⟩)
      (phase : result.phase = stage.next)
  | waited
      (after : status.phase = .waitingReady ∨ status.phase = .healing ∨ status.phase = .attesting)
      (gate : result.phase = .waitingReady ∨
        result.phase = .succeeded ∧ Proven (seed status.workloads facts))

private theorem forward_move (forward : facts.rollback = false) : Move status facts (advance status facts) := by
  have proving := prove_phase (seed status.workloads facts) facts.now
  cases phase : status.phase with
  | quiescing =>
    cases answer : facts.frozen with
    | false => exact .started (.inr (by simp [advance, phase, forward, answer]))
    | true => exact .confirmed .frozen ⟨phase, answer⟩ (by simp [advance, phase, forward, answer, Stage.next])
  | catchingUp =>
    cases answer : facts.lagZero with
    | false => exact .held (.inl phase) (by simp [advance, phase, forward, answer])
    | true => exact .confirmed .caughtUp ⟨phase, answer⟩ (by simp [advance, phase, forward, answer, Stage.next])
  | promoting =>
    cases answer : facts.promoted with
    | false => exact .held (.inr (.inl phase)) (by simp [advance, phase, forward, answer])
    | true => exact .confirmed .promoted ⟨phase, answer⟩ (by simp [advance, phase, forward, answer, Stage.next])
  | switching =>
    cases answer : facts.switched with
    | false => exact .held (.inr (.inr phase)) (by simp [advance, phase, forward, answer])
    | true => exact .confirmed .switched ⟨phase, answer⟩ (by simp [advance, phase, forward, answer, Stage.next])
  | waitingReady => exact .waited (.inl phase) (by simpa [advance, phase, forward] using proving)
  | healing => exact .waited (.inr (.inl phase)) (by simpa [advance, phase, forward] using proving)
  | attesting => exact .waited (.inr (.inr phase)) (by simpa [advance, phase, forward] using proving)
  | succeeded => exact .finished (.inl phase) (by simp [advance, phase, forward])
  | failed => exact .finished (.inr (.inl phase)) (by simp [advance, phase, forward])
  | rolledBack => exact .finished (.inr (.inr phase)) (by simp [advance, phase, forward])
  | unset | pending | preflight =>
    cases dry : facts.dryRun with
    | false => exact .started (.inr (by simp [advance, phase, forward, dry]))
    | true => exact .rehearsed dry (by simp [advance, phase, forward, dry])
  | rehydrating | applying | other => exact .started (.inl (by simp [advance, phase, forward]))

/-- Every step is one of these moves. -/
theorem advance_move (status : ActionStatus) (facts : Facts) :
    Move status facts (advance status facts) := by
  cases asked : facts.rollback with
  | false => exact forward_move asked
  | true => exact .rolledBack asked (advance_rollback asked)

/-- A step without rollback or dry run starts over, stays behind the same
stages, or confirms the next one. -/
theorem advance_stages (forward : facts.rollback = false) (live : facts.dryRun = false) :
    stagesBehind (advance status facts).phase = [] ∨
      stagesBehind (advance status facts).phase = stagesBehind status.phase ∨
      ∃ stage : Stage, stagesBehind (advance status facts).phase = stagesBehind status.phase ++ [stage] ∧
        stage.confirmedBy ⟨status, facts, advance status facts⟩ := by
  cases advance_move status facts with
  | rolledBack asked _ => simp [forward] at asked
  | rehearsed dry _ => simp [live] at dry
  | finished _ phase => exact .inr (.inl (by rw [phase]))
  | held _ phase => exact .inr (.inl (by rw [phase]))
  | started phase => exact .inl (by rcases phase with phase | phase <;> rw [phase] <;> rfl)
  | confirmed stage done phase =>
    refine .inr (.inr ⟨stage, ?_, done⟩)
    rw [phase]
    cases stage <;> rw [show status.phase = _ from done.1] <;> rfl
  | waited after gate =>
    refine .inr (.inl ?_)
    rcases gate with phase | ⟨phase, _⟩ <;> rcases after with before | before | before <;>
      rw [phase, before] <;> rfl

/-- A step that newly succeeds outside a dry run emits a proven list. -/
theorem advance_proven (live : facts.dryRun = false) (newly : status.phase ≠ .succeeded)
    (succeeded : (advance status facts).phase = .succeeded) : Proven (seed status.workloads facts) := by
  cases advance_move status facts with
  | rehearsed dry _ => simp [live] at dry
  | waited _ gate => exact (gate.resolve_left (by simp [succeeded])).2
  | rolledBack _ phase => simp [succeeded] at phase
  | finished _ phase => exact absurd (phase ▸ succeeded) newly
  | started phase => simp [succeeded] at phase
  | held during phase => exact absurd (phase ▸ succeeded) newly
  | confirmed stage _ phase => cases stage <;> simp [succeeded, Stage.next] at phase

/-- A step goes forward: no rollback is asked for and it is not a dry run. -/
def Forward (facts : Facts) : Prop := facts.rollback = false ∧ facts.dryRun = false

/-- Along a forward run, the stages behind the current phase were confirmed in
their order. -/
theorem run_confirmed (run : AdvanceRun steps status) (forward : ∀ step ∈ steps, Forward step.input) :
    Confirmed (stagesBehind status.phase) steps := by
  induction run with
  | nil => exact confirmed_nil []
  | @snoc steps status facts result _ taken ih =>
    obtain rfl : advance status facts = result := Option.some.inj taken
    obtain ⟨onward, live⟩ := forward ⟨status, facts, advance status facts⟩ (by simp)
    have known := ih fun step member => forward step (by simp [member])
    rw [ActionStatus.feedBack_phase]
    rcases advance_stages onward live with ended | same | ⟨stage, next, done⟩
    · exact ended ▸ confirmed_nil _
    · exact same ▸ known.extend _
    · exact next ▸ known.snoc done

private theorem stagesBehind_of_succeeds (forward : Forward facts)
    (succeeded : (advance status facts).phase = .succeeded) :
    stagesBehind status.phase = [.frozen, .caughtUp, .promoted, .switched] := by
  cases advance_move status facts with
  | rehearsed dry _ => simp [forward.2] at dry
  | waited after _ => rcases after with phase | phase | phase <;> rw [phase] <;> rfl
  | rolledBack _ phase => simp [succeeded] at phase
  | finished _ phase => rw [← phase, succeeded]; rfl
  | started phase => simp [succeeded] at phase
  | held _ phase => rw [← phase, succeeded]; rfl
  | confirmed stage _ phase => cases stage <;> simp [succeeded, Stage.next] at phase

/-- A Cutover that succeeds has frozen the source, caught up, promoted and
switched, in this order, and a step that newly succeeds lists only Ready and
probed workloads. -/
theorem run_succeeds_in_order {steps earlier later : List AdvanceStep} {status : ActionStatus}
    {step : AdvanceStep} (run : AdvanceRun steps status)
    (forward : ∀ step ∈ steps, step.input.rollback = false ∧ step.input.dryRun = false)
    (split : steps = earlier ++ step :: later) (succeeded : step.output.phase = .succeeded) :
    (∃ froze caughtUp promoted switched : AdvanceStep,
      [froze, caughtUp, promoted, switched].Sublist earlier ∧
        (froze.before.phase = .quiescing ∧ froze.input.frozen = true) ∧
        (caughtUp.before.phase = .catchingUp ∧ caughtUp.input.lagZero = true) ∧
        (promoted.before.phase = .promoting ∧ promoted.input.promoted = true) ∧
        switched.before.phase = .switching ∧ switched.input.switched = true) ∧
      (step.before.phase ≠ .succeeded →
        step.output.workloads ≠ [] ∧ ∀ w ∈ step.output.workloads,
          w.ready = true ∧ (w.cls = .stateless ∨ w.probeOK = true)) := by
  obtain ⟨before, taken⟩ := run.reached earlier later step split
  have output : advance step.before step.input = step.output := Option.some.inj taken
  rw [← output] at succeeded ⊢
  have onward : Forward step.input := forward step (by simp [split])
  constructor
  · have confirmed := run_confirmed before fun past member => forward past (by simp [split, member])
    rw [stagesBehind_of_succeeds onward succeeded] at confirmed
    obtain ⟨marks, within, matching⟩ := confirmed
    simp only [List.forall₂_cons_left_iff, List.forall₂_nil_left_iff] at matching
    obtain ⟨froze, _, first, ⟨caughtUp, _, second, ⟨promoted, _, third, ⟨switched, _, fourth, rfl, rfl⟩,
      rfl⟩, rfl⟩, rfl⟩ := matching
    exact ⟨froze, caughtUp, promoted, switched, within, first, second, third, fourth⟩
  · intro newly
    rw [advance_workloads]
    exact advance_proven onward.2 newly succeeded

private def ledger : Workload :=
  { namespace_ := "shop", name := "ledger", kind := "StatefulSet", cls := .sqlLogical }

/-- A reconcile that confirms everything it is asked about. -/
private def pass (ready : Bool) : Facts where
  inventory := [ledger]
  frozen := true
  lagZero := true
  promoted := true
  switched := true
  ready := .table [(ledger.key, ready)]
  probes := .table [(ledger.key, { ok := true })]

theorem run_succeeds_in_order_ledger : ∃ earlier step status,
    AdvanceRun (earlier ++ [step]) status ∧ step.output.phase = .succeeded ∧
      step.output.workloads ≠ [] ∧ ∃ froze ∈ earlier, froze.input.frozen = true := by
  obtain ⟨steps, status, run, forward, step, last, succeeded, newly⟩ : ∃ steps status, AdvanceRun steps status ∧
      (∀ step ∈ steps, step.input.rollback = false ∧ step.input.dryRun = false) ∧
      ∃ step ∈ steps.getLast?, step.output.phase = .succeeded ∧ step.before.phase ≠ .succeeded :=
    Run.exists_of_execute (List.replicate 6 (pass true)) (by decide)
  obtain ⟨earlier, rfl⟩ := List.getLast?_eq_some_iff.mp last
  obtain ⟨⟨froze, _, _, _, within, frozen, _⟩, proven⟩ := run_succeeds_in_order run forward rfl succeeded
  exact ⟨earlier, step, status, run, succeeded, (proven newly).1, froze,
    within.subset (by simp), frozen.2⟩

/-- A step taken after success repeats it over whatever list it is given, so
the workloads it emits need not be Ready. -/
theorem run_repeats_success_unready : ∃ steps status, AdvanceRun steps status ∧
    (∀ step ∈ steps, step.input.rollback = false ∧ step.input.dryRun = false) ∧
      ∃ step ∈ steps, step.output.phase = .succeeded ∧ ∃ w ∈ step.output.workloads, w.ready = false := by
  exact Run.exists_of_execute (List.replicate 6 (pass true) ++ [pass false]) (by decide)

end Portage.Cutover
