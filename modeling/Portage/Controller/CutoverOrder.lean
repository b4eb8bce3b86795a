import Portage.Controller.ActivePassive

/-! What a Cutover has confirmed before it raises the destination or succeeds, and what
it writes once it has found the source frozen. Each reconcile reads the Action as the one
before it left it stored. -/
namespace Portage

open Go Kube Process Program Cutover

/-! ### The step of the machine that a reconcile takes -/

/-- The Action, unless something that the runner needs was not resolved. -/
def PassInput.resolved (input : PassInput) (act : Action) : Option Action :=
  if input.pairError.isSome ∨ input.resolveError.isSome ∨ input.walkError.isSome then none else some act

/-- The Action that a reconcile comes to its runner with, if it does: `reconcile` up to
`runAndStore`. -/
def PassInput.reaches (input : PassInput) : Prog (Option Action) := do
  match ← readStored .readAction with
  | .error _ => pure none
  | .ok act =>
    match resume act.spec act.status with
    | none => pure none
    | some status =>
      if act.spec.policyRef = "" ∨ input.policyError.isSome then pure none
      else if status.phase = .unset then do
        let pending := { status with phase := .pending, message := "pending" }
        match ← writeStatus pending with
        | .error _ => pure none
        | .ok _ => pure (input.resolved { act with status := pending })
      else pure (input.resolved { act with status })

/-- The step that the reconcile of a Cutover takes: the status and the facts that its own
runner hands to the machine, and what the machine answers. -/
def PassInput.advanceStep (input : PassInput) (action : Action) : Option AdvanceStep :=
  match input.reaches input.oracle (input.opening action) with
  | (none, _) => none
  | (some act, u) =>
    let act := { act with status := { act.status with startTime := some (act.status.startTime.getD input.env.now) } }
    some ⟨act.status, (cutoverFacts input.covered act input.oracle u).1, (runCutover input.covered act input.oracle u).1⟩

section
variable {input : PassInput} {o : Oracle} {s : World} {action : Action}

private theorem fail_unadvanced (status : ActionStatus) (message : String) (u : World) :
    ∀ result stored, (fail input status message o u).1 ≠ .advanced result stored := by
  simp only [fail, bind_run]
  cases (writeStatus _ o u).1 <;> simp

/-- What holds of a reconcile that comes to this point with the Action, or stops before. -/
private def Reaches (input : PassInput) (o : Oracle) (s : World) (answer : Outcome × World) :
    Option Action × World → Prop
  | (none, _) => ∀ result stored, answer.1 ≠ .advanced result stored
  | (some act, u) => answer = runAndStore input act o u ∧ act.spec = s.action.spec ∧
      act.status.phase = calledIn s.action.status.phase

private theorem resolveAndRun_reaches (act : Action) (spec : act.spec = s.action.spec)
    (phase : act.status.phase = calledIn s.action.status.phase) (u : World) :
    Reaches input o s (resolveAndRun input act o u) (input.resolved act, u) := by
  unfold PassInput.resolved resolveAndRun
  cases input.pairError with
  | some text => exact fail_unadvanced _ _ _
  | none =>
    cases input.resolveError with
    | some text => simp [Reaches]
    | none =>
      cases input.walkError with
      | some text => simp [Reaches]
      | none => exact ⟨rfl, spec, phase⟩

private theorem reconcile_reaches (input : PassInput) (o : Oracle) (s : World) :
    Reaches input o s (reconcile input o s) (input.reaches o s) := by
  cases unread : o.fault s.calls .readAction with
  | some fault => simp [reconcile, PassInput.reaches, readStored_failed unread, Reaches]
  | none =>
    simp only [reconcile, PassInput.reaches, bind_run, readStored_served unread]
    cases resumes : resume s.action.spec s.action.status with
    | none => simp [Reaches]
    | some status =>
      have phase := resume_phase resumes
      dsimp only
      by_cases unnamed : s.action.spec.policyRef = ""
      · simp only [unnamed, true_or, ↓reduceIte]
        exact fail_unadvanced _ _ _
      · cases input.policyError with
        | some text =>
          simp only [unnamed, Option.isSome_some, or_true, ↓reduceIte]
          exact fail_unadvanced _ _ _
        | none =>
          simp only [unnamed, Option.isSome_none, Bool.false_eq_true, or_self, ↓reduceIte, markPending]
          by_cases unset : status.phase = .unset
          · have first : s.action.status.phase = .unset := by
              rcases phase with ⟨_, same⟩ | ⟨_, rehydrating⟩
              · exact same.symm.trans unset
              · simp [rehydrating] at unset
            simp only [unset, ↓reduceIte, bind_run]
            cases (writeStatus _ o (tick o s).2).1 with
            | error refused => simp [Reaches]
            | ok _ =>
              dsimp only [pure_run]
              refine resolveAndRun_reaches _ ?_ ?_ _
              · rfl
              · rw [first]; rfl
          · simp only [unset, ↓reduceIte, pure_run]
            refine resolveAndRun_reaches _ ?_ ?_ _
            · rfl
            · rcases phase with ⟨unfailed, same⟩ | ⟨failed, rehydrating⟩
              · rw [same] at unset
                change status.phase = _
                rw [same]
                unfold calledIn
                split <;> simp_all
              · exact rehydrating.trans (by rw [failed]; rfl)

/-- A reconcile that reports a result took a step of the machine, from the phase it was
called in and for the spec of the time. -/
private theorem pass_advances {result : ActionResult} {stored : Bool} (cutover : input.spec.type = .cutover)
    (reported : (input.pass action).outcome = .advanced result stored) :
    ∃ step, input.advanceStep action = some step ∧ result.phase = (advance step.before step.input).phase ∧
      step.output = advance step.before step.input ∧ step.before.phase = calledIn action.status.phase ∧
      step.input.rollback = input.spec.rollback ∧ step.input.dryRun = input.spec.dryRun := by
  have outcome : (reconcile input input.oracle (input.opening action)).1 = .advanced result stored := reported
  have reaches := reconcile_reaches input input.oracle (input.opening action)
  unfold PassInput.advanceStep
  generalize input.reaches input.oracle (input.opening action) = reached at reaches
  obtain ⟨_ | act, u⟩ := reached
  · exact absurd outcome (reaches result stored)
  · obtain ⟨ran, spec, phase⟩ := reaches
    refine ⟨_, rfl, ?_, rfl, phase, congrArg ActionSpec.rollback spec, congrArg ActionSpec.dryRun spec⟩
    simp only [ran, runAndStore, runAction, cutover, bind_run, map_run, pure_run] at outcome
    rw [← (Outcome.advanced.inj outcome).1, ActionResult.named_phase]
    rfl

end

/-! ### Stages -/

/-- The reconcile reported a result, and the facts that it gathered confirm the stage. -/
def Cutover.Stage.passedBy (stage : Stage) (step : ReconcileStep) : Prop :=
  (∃ result stored, step.output.outcome = .advanced result stored) ∧
    ∃ taken ∈ step.input.advanceStep step.before, stage.confirmedBy taken

/-- The reconciles are those of a Cutover that is no dry run. -/
abbrev LiveCutovers (steps : List ReconcileStep) : Prop :=
  ∀ step ∈ steps, step.input.spec.type = .cutover ∧ step.input.spec.dryRun = false

/-- Reconciles of the history passed the stages in this order. -/
def StagesPassed (stages : List Stage) (steps : List ReconcileStep) : Prop :=
  ∃ marks, marks.Sublist steps ∧ List.Forall₂ Stage.passedBy stages marks

section
variable {start state action : Action} {steps earlier later : List ReconcileStep} {step : ReconcileStep}
variable {stages : List Stage} {input : PassInput}

private theorem stagesPassed_nil : StagesPassed [] steps := ⟨[], List.nil_sublist _, .nil⟩

private theorem StagesPassed.extend (passed : StagesPassed stages steps) (step : ReconcileStep) :
    StagesPassed stages (steps ++ [step]) := by
  obtain ⟨marks, within, matching⟩ := passed
  exact ⟨marks, within.trans (List.sublist_append_left _ _), matching⟩

private theorem StagesPassed.snoc {stage : Stage} (passed : StagesPassed stages steps) (done : stage.passedBy step) :
    StagesPassed (stages ++ [stage]) (steps ++ [step]) := by
  obtain ⟨marks, within, matching⟩ := passed
  exact ⟨marks ++ [step], within.append (List.Sublist.refl _), List.rel_append matching (.cons done .nil)⟩

/-- A result starts over, stays behind the same stages, or passes the next one. -/
private theorem pass_stages {result : ActionResult} {stored : Bool} (cutover : input.spec.type = .cutover)
    (live : input.spec.dryRun = false) (reported : (input.pass action).outcome = .advanced result stored)
    (known : StagesPassed (stagesBehind action.status.phase) steps) :
    StagesPassed (stagesBehind result.phase) (steps ++ [⟨action, input, input.pass action⟩]) := by
  obtain ⟨taken, own, computed, output, phase, _, wet⟩ := pass_advances cutover reported
  have same : stagesBehind taken.before.phase = stagesBehind action.status.phase := by
    rw [phase]
    cases action.status.phase <;> rfl
  rw [← same] at known
  rw [computed]
  cases asked : taken.input.rollback with
  | true => rw [advance_rollback asked]; exact stagesPassed_nil
  | false =>
    rcases advance_stages asked (wet.trans live) with ended | same | ⟨stage, next, done⟩
    · rw [ended]; exact stagesPassed_nil
    · rw [same]; exact known.extend _
    · rw [next]; exact known.snoc ⟨⟨result, stored, reported⟩, taken, own, by rw [← output] at done; exact done⟩

/-- The stages behind the stored phase were passed in their order. -/
private theorem run_passed (run : ReconcileRun start steps state) (new : start.status.phase = .unset)
    (cutovers : LiveCutovers steps) : StagesPassed (stagesBehind state.status.phase) steps := by
  induction run with
  | nil => rw [new]; exact stagesPassed_nil
  | @snoc steps state input output earlier taken ih =>
    obtain rfl : input.pass state = output := by simpa using taken
    have known := ih fun step member => cutovers step (by simp [member])
    obtain ⟨cutover, live⟩ := cutovers ⟨state, input, input.pass state⟩ (by simp)
    have stored : Stored state.status (input.pass state).action.status (input.pass state).outcome :=
      reconcile_stored input input.oracle (input.opening state)
    cases stored with
    | kept same => rw [same]; exact known.extend _
    | closed phase => rcases phase with phase | phase <;> rw [phase] <;> exact stagesPassed_nil
    | advanced result stored reported phase _ => rw [phase]; exact pass_stages cutover live reported known

/-- Whatever calls fail and whenever a rollback is asked for, a reconcile that scales a
workload up on the destination or promotes it comes after one that found the source
frozen and a later one that found the replica caught up. -/
theorem run_raises_passed (run : ReconcileRun start steps state) (new : start.status.phase = .unset)
    (cutovers : LiveCutovers steps) (split : steps = earlier ++ step :: later)
    (distinct : step.input.env.source.kube ≠ step.input.env.dest.kube) {e : Event} {w : Workload}
    (logged : e ∈ step.output.log) (raises : e.raises step.input.env.dest.kube w = true) :
    StagesPassed [.frozen, .caughtUp] earlier := by
  obtain ⟨reached, taken⟩ := run.reached earlier later step split
  obtain ⟨before, input, output⟩ := step
  obtain rfl : input.pass before = output := by simpa using taken
  have during := pass_raisesDest (cutovers ⟨before, input, input.pass before⟩ (by simp [split])).1 distinct logged raises
  obtain ⟨marks, within, matching⟩ := run_passed reached new fun other member => cutovers other (by simp [split, member])
  have first : (stagesBehind before.status.phase).take 2 = [.frozen, .caughtUp] := by
    cases phase : before.status.phase <;> simp_all [raisesDest, stagesBehind]
  exact ⟨marks.take 2, (List.take_sublist 2 marks).trans within, first ▸ List.forall₂_take 2 matching⟩

/-- The Action is stored as succeeded only after reconciles that confirmed the freeze, the
catch-up, the promotion and the switch, in this order. -/
theorem run_succeeded_passed (run : ReconcileRun start steps state) (new : start.status.phase = .unset)
    (cutovers : LiveCutovers steps) (succeeded : state.status.phase = .succeeded) :
    StagesPassed [.frozen, .caughtUp, .promoted, .switched] steps := by
  have passed := run_passed run new cutovers
  rwa [succeeded] at passed

/-- The phases of a Cutover that has found the source frozen, or is over. -/
def pastFreeze : ActionPhase → Bool
  | .unset | .pending | .preflight | .quiescing | .rehydrating | .applying | .other _ => false
  | _ => true

private theorem advance_pastFreeze {status : ActionStatus} (past : pastFreeze status.phase = true) (facts : Facts) :
    pastFreeze (advance status facts).phase = true := by
  cases asked : facts.rollback with
  | true => rw [advance_rollback asked]; rfl
  | false =>
    have proving := prove_phase (seed status.workloads facts) facts.now
    cases phase : status.phase with
    | catchingUp | promoting | switching => simp [advance, phase, asked]; split <;> rfl
    | waitingReady | healing | attesting =>
      simp only [advance, phase, asked]
      rcases proving with waiting | ⟨done, _⟩ <;> simp [pastFreeze, *]
    | succeeded | failed | rolledBack => simp [advance, phase, asked, pastFreeze]
    | _ => simp [phase, pastFreeze] at past

private theorem pass_pastFreeze (cutover : input.spec.type = .cutover) (past : pastFreeze action.status.phase = true) :
    pastFreeze (input.pass action).action.status.phase = true := by
  change pastFreeze (reconcile input input.oracle (input.opening action)).2.action.status.phase = true
  by_cases finished : resume input.spec action.status = none
  · rw [(reconcile_finished (s := input.opening action) finished).1]
    exact past
  · have later : action.status.phase ≠ .unset := fun unset => by simp [unset, pastFreeze] at past
    rcases reconcile_marked (s := input.opening action) later with kept | failed | ⟨result, stored, reported, phase⟩
    · rw [kept]; exact past
    · rw [failed]; rfl
    · obtain ⟨act, u, called, computed, _⟩ := pass_ran cutover reported
      rw [phase, computed]
      have still : act.status.phase = action.status.phase := by
        rw [called.phase]
        cases before : action.status.phase <;> simp_all [pastFreeze, resume, calledIn, PassInput.opening]
      exact advance_pastFreeze (by rwa [still]) _

/-- Once the source was found frozen, and unless a rollback is asked for, a reconcile
only promotes and raises workloads of the destination and syncs the object graph to it;
if the clusters are two, it updates nothing on the source. -/
theorem run_pastFreeze_touches (run : ReconcileRun start steps state) (past : pastFreeze start.status.phase = true)
    (cutovers : ∀ step ∈ steps, step.input.spec.type = .cutover) :
    ∀ step ∈ steps, step.input.spec.rollback = false → ∀ e ∈ step.output.log, e.touches = true →
      (PromoteEvent step.input.covered e ∨
        ∃ c objects, e = .synced c objects ∧ step.input.covered.destDynamic = .ok (some c)) ∧
      (step.input.env.source.kube ≠ step.input.env.dest.kube →
        ∀ resource key, e ≠ .wrote (.update step.input.env.source.kube resource key)) := by
  have kept : pastFreeze state.status.phase = true ∧ ∀ step ∈ steps, pastFreeze step.before.status.phase = true := by
    induction run with
    | nil => exact ⟨past, by simp⟩
    | @snoc steps state input output earlier taken ih =>
      obtain rfl : input.pass state = output := by simpa using taken
      obtain ⟨before, all⟩ := ih fun step member => cutovers step (by simp [member])
      refine ⟨pass_pastFreeze (cutovers ⟨state, input, input.pass state⟩ (by simp)) before, ?_⟩
      simpa [or_imp, forall_and] using ⟨all, before⟩
  intro step member forward e logged touches
  have during := kept.2 step member
  have taken := run.taken step member
  obtain ⟨before, input, output⟩ := step
  obtain rfl : input.pass before = output := by simpa using taken
  have confined : PromoteEvent input.covered e ∨
      ∃ c objects, e = .synced c objects ∧ input.covered.destDynamic = .ok (some c) := by
    cases pass_logs (cutovers _ member) logged with
    | quiet quiet => simp [quiet] at touches
    | synced client objects => exact .inr ⟨_, objects, rfl, client⟩
    | froze due => cases phase : before.status.phase <;> simp_all [pastFreeze, calledIn, freezes]
    | promoted _ promoted => exact .inl promoted
    | raised _ kind key => exact .inl (.wrote kind key)
    | unfroze due => simp [show input.spec.rollback = false from forward] at due
  refine ⟨confined, fun distinct resource key source => ?_⟩
  subst source
  rcases confined with promoted | ⟨_, _, synced, _⟩
  · generalize write : Event.wrote (.update input.env.source.kube resource key) = e at promoted
    cases promoted with
    | wrote => simp [distinct, PassInput.covered] at write
    | exec | moved => simp at write
  · simp at synced

end

def newCutover : Action := { spec := { type := .cutover, policyRef := "shop" } }

def walletPromoting : Action := { newCutover with status := { phase := .promoting } }

/-- A reconcile that finds the frozen wallet up on the destination. -/
def walletUp : PassInput := walletPass false frozenWallet { replicas := some 1, readyReplicas := 1 }

theorem run_raises_passed_wallet : ∃ earlier step state, ReconcileRun newCutover (earlier ++ [step]) state ∧
    StagesPassed [.frozen, .caughtUp] earlier := by
  obtain ⟨steps, state, run, cutovers, step, last, distinct, e, logged, raises⟩ : ∃ steps state,
      ReconcileRun newCutover steps state ∧ LiveCutovers steps ∧
      ∃ step ∈ steps.getLast?, step.input.env.source.kube ≠ step.input.env.dest.kube ∧
        ∃ e ∈ step.output.log, e.raises step.input.env.dest.kube wallet = true :=
    Run.exists_of_execute (walletForward ++ [walletUp]) (by decide +kernel)
  obtain ⟨earlier, rfl⟩ := List.getLast?_eq_some_iff.mp last
  exact ⟨earlier, step, state, run, run_raises_passed run rfl cutovers rfl distinct logged raises⟩

theorem run_succeeded_passed_wallet : ∃ steps state, ReconcileRun newCutover steps state ∧
    StagesPassed [.frozen, .caughtUp, .promoted, .switched] steps := by
  obtain ⟨steps, state, run, cutovers, succeeded⟩ : ∃ steps state, ReconcileRun newCutover steps state ∧
      LiveCutovers steps ∧ state.status.phase = .succeeded :=
    Run.exists_of_execute (walletForward ++ List.replicate 4 walletUp) (by decide +kernel)
  exact ⟨steps, state, run, run_succeeded_passed run rfl cutovers succeeded⟩

theorem run_pastFreeze_touches_wallet : ∃ steps state, ReconcileRun walletPromoting steps state ∧ steps.length = 3 ∧
    ∃ step ∈ steps, ∃ e ∈ step.output.log, PromoteEvent step.input.covered e ∨
      ∃ c objects, e = .synced c objects ∧ step.input.covered.destDynamic = .ok (some c) := by
  obtain ⟨steps, state, run, cutovers, length, step, member, forward, e, logged, touches⟩ : ∃ steps state,
      ReconcileRun walletPromoting steps state ∧ (∀ step ∈ steps, step.input.spec.type = .cutover) ∧
      steps.length = 3 ∧ ∃ step ∈ steps.drop 2, step.input.spec.rollback = false ∧
        ∃ e ∈ step.output.log, e.touches = true :=
    Run.exists_of_execute (List.replicate 3 walletUp) (by decide +kernel)
  have member := List.mem_of_mem_drop member
  exact ⟨steps, state, run, length, step, member, e, logged,
    (run_pastFreeze_touches run rfl cutovers step member forward e logged touches).1⟩

end Portage
