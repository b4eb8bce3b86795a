import Portage.Controller.Backup
import Portage.Controller.Reconcile

/-! When a stored status says that the Action is over. The phase and the completion
time are written by different exits of a reconcile. -/
namespace Portage

open Go Kube Process Program

/-- The phases of an Action that is over. -/
def ActionPhase.finished : ActionPhase → Bool
  | .succeeded | .failed | .rolledBack => true
  | _ => false

/-- A status has a completion time exactly in those phases. -/
def ActionStatus.Timed (status : ActionStatus) : Prop :=
  status.completionTime.isSome = status.phase.finished

/-- A result is terminal exactly in those phases. -/
def ActionResult.Closes (result : ActionResult) : Prop := result.terminal = result.phase.finished

/-! ### The runners -/

namespace Cutover

theorem prove_closes (workloads : List WorkloadActionStatus) (now : Time) : (prove workloads now).Closes := by
  unfold prove
  cases unproven workloads with
  | some message => rfl
  | none =>
    dsimp only
    split <;> rfl

theorem advance_closes (status : ActionStatus) (facts : Facts) : (advance status facts).Closes := by
  unfold advance
  dsimp only
  generalize (if status.phase = .unset then .pending else status.phase) = phase
  split
  · rfl
  · cases phase with
    | pending | preflight =>
      dsimp only
      split
      · rfl
      · split <;> rfl
    | quiescing | catchingUp | promoting | switching => dsimp only; split <;> rfl
    | waitingReady | healing | attesting => exact prove_closes _ _
    | _ => rfl

end Cutover

namespace Restore

theorem attest_closes (workloads : List WorkloadActionStatus) (now : Time) : (attest workloads now).Closes := by
  unfold attest
  dsimp only
  split <;> rfl

theorem awaitReady_closes (workloads : List WorkloadActionStatus) (now : Time) :
    (awaitReady workloads now).Closes := by
  unfold awaitReady
  dsimp only
  split
  · rfl
  · split
    · rfl
    · exact attest_closes _ _

theorem preflightStep_closes {workloads : List WorkloadActionStatus} {facts : Facts} {result : ActionResult}
    (stepped : preflightStep workloads facts = some result) : result.Closes := by
  unfold preflightStep at stepped
  cases checked : preflight workloads facts with
  | none => simp [checked] at stepped
  | some marked =>
    simp only [checked] at stepped
    split at stepped
    · obtain rfl := Option.some.inj stepped
      rfl
    · split at stepped <;> obtain rfl := Option.some.inj stepped <;> rfl

theorem advance_closes {status : ActionStatus} {facts : Facts} {result : ActionResult}
    (advanced : advance status facts = some result) : result.Closes := by
  unfold advance at advanced
  dsimp only at advanced
  cases phase : status.phase with
  | unset | pending | preflight =>
    simp only [phase] at advanced
    exact preflightStep_closes advanced
  | rehydrating | applying =>
    simp only [phase] at advanced
    split at advanced <;> obtain rfl := Option.some.inj advanced
    · rfl
    · exact awaitReady_closes _ _
  | waitingReady | healing =>
    simp only [phase] at advanced
    obtain rfl := Option.some.inj advanced
    exact awaitReady_closes _ _
  | attesting =>
    simp only [phase] at advanced
    obtain rfl := Option.some.inj advanced
    exact attest_closes _ _
  | _ =>
    simp only [phase] at advanced
    obtain rfl := Option.some.inj advanced
    rfl

end Restore

theorem applyFailed_closes (act : Action) (text : String) : (applyFailed act text).Closes := by
  unfold applyFailed
  dsimp only
  split <;> rfl

theorem replicateResult_closes (env : Env) (act : Action) (seen : ReplicateSeen) :
    (replicateResult env act seen).Closes := by
  unfold replicateResult
  dsimp only
  split
  · rfl
  · split
    · rfl
    · split <;> rfl

theorem backupResult_closes (env : LiveEnv) (artifacts : List ArtifactHealth) :
    (backupResult env artifacts).Closes := by
  unfold backupResult
  cases artifacts.find? waiting with
  | some a => rfl
  | none =>
    unfold Backup.advance
    dsimp only
    split <;> rfl

theorem ActionResult.Closes.named {result : ActionResult} (closes : result.Closes) (env : Env) :
    (result.named env).Closes := by
  unfold ActionResult.named
  split <;> exact closes

/-- The Backup result of a reconcile is one that its runner computes. -/
def PassInput.Backed (input : PassInput) : Prop :=
  ∀ result, input.backup = .ok result → ∃ env o s, (runBackup env o s).1 = .ok result

theorem PassInput.Backed.closes {input : PassInput} (backed : input.Backed) {result : ActionResult}
    (answered : input.backup = .ok result) : result.Closes := by
  obtain ⟨env, o, s, computed⟩ := backed result answered
  simp only [runBackup, bind_run] at computed
  cases written : env.policyWritten with
  | some text => simp [written] at computed
  | none =>
    simp only [written, pure_run, Except.ok.injEq] at computed
    rw [← computed]
    exact backupResult_closes _ _

section
variable {o : Oracle} {input : PassInput} {act : Action}

private theorem runRestore_closes (env : Env) (act : Action) (s : World) {result : ActionResult}
    (ran : (runRestore env act o s).1 = .ok result) : result.Closes := by
  simp only [runRestore, bind_run] at ran
  cases applied : (applyIfDue env act.status.phase o s).1 with
  | error text =>
    simp only [applied, pure_run, Except.ok.injEq] at ran
    rw [← ran]
    exact applyFailed_closes _ _
  | ok _ =>
    simp only [applied, bind_run] at ran
    cases looped : (restoreLoop env act o (applyIfDue env act.status.phase o s).2).1 with
    | error stop => simp [looped] at ran
    | ok seen =>
      simp only [looped] at ran
      cases stepped : Restore.advance act.status (seen.gathered env act) with
      | none => simp [stepped] at ran
      | some computed =>
        simp only [stepped, pure_run, Except.ok.injEq] at ran
        rw [← ran]
        exact Restore.advance_closes stepped

/-- Whatever the type of the Action, its runner marks a result as terminal exactly
in a phase that ends the Action. -/
theorem runAction_closes (backed : input.Backed) (act : Action) (s : World) {result : ActionResult}
    (ran : (runAction input act o s).1 = .ok result) : result.Closes := by
  unfold runAction at ran
  cases type : input.spec.type with
  | backup =>
    cases answered : input.backup with
    | error text => simp [type, answered, Except.mapError] at ran
    | ok computed =>
      obtain rfl : computed = result := by simpa [type, answered, Except.mapError] using ran
      exact backed.closes answered
  | restore =>
    simp only [type] at ran
    exact runRestore_closes _ _ _ ran
  | replicate =>
    simp only [type, map_run, Except.ok.injEq] at ran
    rw [← ran]
    exact replicateResult_closes _ _ _
  | cutover =>
    simp only [type, map_run, Except.ok.injEq] at ran
    rw [← ran]
    exact Cutover.advance_closes _ _

/-! ### One reconcile -/

/-- A Replicate that a dry run has completed, reconciled with the dry run switched off. -/
def revived (spec : ActionSpec) (status : ActionStatus) : Bool :=
  status.phase == .succeeded && spec.type == .replicate && !spec.dryRun

/-- Any other Action that a reconcile goes on with has no completion time. -/
theorem resume_open {spec : ActionSpec} {status resumed : ActionStatus} (timed : status.Timed)
    (other : revived spec status = false) (resumes : resume spec status = some resumed) :
    resumed.completionTime = none := by
  unfold ActionStatus.Timed at timed
  cases phase : status.phase with
  | succeeded =>
    cases type : spec.type <;> cases dry : spec.dryRun <;> simp_all [resume, revived]
  | rolledBack => simp [resume, phase] at resumes
  | failed =>
    simp only [resume, phase] at resumes
    split at resumes
    · contradiction
    · obtain rfl := Option.some.inj resumes
      rfl
  | _ =>
    simp only [resume, phase, Option.some.injEq] at resumes
    obtain rfl := resumes
    simpa [phase, ActionPhase.finished] using timed

/-- The stored status is timed. -/
private def timed (s : World) : Prop := s.action.status.Timed

private theorem holds_writeStatus {desired : ActionStatus} (fits : desired.Timed) :
    Holds o timed (writeStatus desired) fun _ => timed := by
  intro s before
  rcases (moves_writeStatus o desired s).status with kept | written
  · unfold timed
    rwa [kept]
  · unfold timed
    rwa [written]

private theorem holds_fail (status : ActionStatus) (message : String) :
    Holds o timed (fail input status message) fun _ => timed := by
  refine Holds.bind (holds_writeStatus rfl) fun answer => ?_
  cases answer <;> exact Holds.pure fun _ after => after

private theorem timed_advanced {status : ActionStatus} {result : ActionResult} (still : status.completionTime = none)
    (closes : result.Closes) (generation : Int) (now : Time) : (status.advanced result generation now).Timed := by
  unfold ActionResult.Closes at closes
  simp only [ActionStatus.Timed, ActionStatus.advanced, still, ← closes]
  cases result.terminal <;> rfl

private theorem holds_runAction (backed : input.Backed) (act : Action) :
    Holds o timed (runAction input act)
      (Until (fun _ => timed) fun result s => timed s ∧ result.Closes) := by
  intro s before
  have after : timed (runAction input act o s).2 := by
    unfold timed
    rwa [(proceeds_runAction input act s).status]
  cases ran : (runAction input act o s).1 with
  | error stop => exact after
  | ok result => exact ⟨after, runAction_closes backed act s ran⟩

private theorem holds_runAndStore (backed : input.Backed) (still : act.status.completionTime = none) :
    Holds o timed (runAndStore input act) fun _ => timed := by
  refine Holds.bind (holds_runAction backed _) fun answer => ?_
  cases answer with
  | error stop => cases stop <;> exact Holds.pure fun _ after => after
  | ok result =>
    intro s after
    obtain ⟨after, closes⟩ := after
    simp only [bind_run, pure_run]
    apply holds_writeStatus (timed_advanced _ (closes.named _) _ _) s after
    exact still

private theorem holds_resolveAndRun (backed : input.Backed) (still : act.status.completionTime = none) :
    Holds o timed (resolveAndRun input act) fun _ => timed := by
  unfold resolveAndRun
  cases input.pairError with
  | some text => exact holds_fail _ _
  | none =>
    cases input.resolveError with
    | some text => exact Holds.pure fun _ before => before
    | none =>
      cases input.walkError with
      | some text => exact Holds.pure fun _ before => before
      | none => exact holds_runAndStore backed still

private theorem holds_markPending (backed : input.Backed) (still : act.status.completionTime = none) :
    Holds o timed (markPending input act) fun _ => timed := by
  unfold markPending
  split
  · have pending : ({ act.status with phase := .pending, message := "pending" } : ActionStatus).Timed := by
      simp [ActionStatus.Timed, still, ActionPhase.finished]
    refine Holds.bind (holds_writeStatus pending) fun answer => ?_
    cases answer with
    | error refused => exact Holds.pure fun _ after => after
    | ok _ => exact holds_resolveAndRun backed still
  · exact holds_resolveAndRun backed still

/-- A reconcile keeps the completion time in step with the phase, unless it revives
a Replicate that a dry run has completed. -/
theorem reconcile_timed {s : World} (backed : input.Backed) (before : s.action.status.Timed)
    (other : revived s.action.spec s.action.status = false) :
    (reconcile input o s).2.action.status.Timed := by
  cases unread : o.fault s.calls .readAction with
  | some fault => simpa [reconcile, readStored_failed unread, tick] using before
  | none =>
    simp only [reconcile, bind_run, readStored_served unread]
    have ticked : timed (tick o s).2 := before
    cases resumes : resume s.action.spec s.action.status with
    | none => exact ticked
    | some status =>
      have still := resume_open before other resumes
      dsimp only
      split
      · exact holds_fail _ _ _ ticked
      · cases input.policyError with
        | some text => exact holds_fail _ _ _ ticked
        | none => exact holds_markPending backed still _ ticked

/-! ### Runs -/

variable {start state : Action} {steps : List ReconcileStep}

/-- In every run from a status that is timed, such as that of a new Action, in which
no reconcile revives a Replicate that a dry run has completed, every stored status is
timed. -/
theorem run_timed (run : ReconcileRun start steps state) (opened : start.status.Timed)
    (backed : ∀ step ∈ steps, step.input.Backed)
    (others : ∀ step ∈ steps, revived step.input.spec step.before.status = false) :
    state.status.Timed ∧ ∀ step ∈ steps, step.before.status.Timed := by
  induction run with
  | nil => exact ⟨opened, by simp⟩
  | @snoc steps state input output earlier taken ih =>
    obtain rfl : input.pass state = output := by simpa using taken
    obtain ⟨before, all⟩ := ih (fun step member => backed step (by simp [member]))
      fun step member => others step (by simp [member])
    have other : revived input.spec state.status = false := others ⟨state, input, input.pass state⟩ (by simp)
    refine ⟨reconcile_timed (backed ⟨state, input, input.pass state⟩ (by simp)) before other, ?_⟩
    intro step member
    rcases List.mem_append.mp member with inside | here
    · exact all step inside
    · obtain rfl := List.mem_singleton.mp here
      exact before

end

/-! ### A Replicate that is tried as a dry run first -/

/-- A reconcile of a Replicate between two clusters. -/
def tryReplicate (dryRun : Bool) : PassInput where
  spec := { type := .replicate, policyRef := "shop", dryRun }
  env := { source := { kube := 0, dynamic := some 0 }, dest := { kube := 1, dynamic := some 1 }, now := 7 }

private theorem backed_of_unused {input : PassInput} (unused : input.backup.toOption = none) : input.Backed := by
  intro result answered
  simp [answered, Except.toOption] at unused

/-- A further reconcile of the dry run leaves it completed. -/
theorem run_timed_dryRun : ∃ steps state,
    ReconcileRun { spec := (tryReplicate true).spec } steps state ∧ steps.length = 2 ∧
      state.status.phase = .succeeded ∧ state.status.Timed := by
  obtain ⟨steps, state, run, two, ended, unrevived, unused⟩ : ∃ steps state,
      ReconcileRun { spec := (tryReplicate true).spec } steps state ∧ steps.length = 2 ∧
      state.status.phase = .succeeded ∧ (∀ step ∈ steps, revived step.input.spec step.before.status = false) ∧
      ∀ step ∈ steps, step.input.backup.toOption = none :=
    Run.exists_of_execute [tryReplicate true, tryReplicate true] (by decide +kernel)
  exact ⟨steps, state, run, two, ended,
    (run_timed run rfl (fun step member => backed_of_unused (unused step member)) unrevived).1⟩

/-- A live reconcile after the dry run stores CatchingUp with the completion time of the
dry run. -/
theorem run_untimed : ∃ steps state,
    ReconcileRun { spec := (tryReplicate true).spec } steps state ∧
      (∀ step ∈ steps, step.input.spec.type = .replicate) ∧ (∀ step ∈ steps, step.input.Backed) ∧
      state.status.phase = .catchingUp ∧ state.status.completionTime = some 7 := by
  obtain ⟨steps, state, run, typed, unused, phase, completed⟩ : ∃ steps state,
      ReconcileRun { spec := (tryReplicate true).spec } steps state ∧
      (∀ step ∈ steps, step.input.spec.type = .replicate) ∧ (∀ step ∈ steps, step.input.backup.toOption = none) ∧
      state.status.phase = .catchingUp ∧ state.status.completionTime = some 7 :=
    Run.exists_of_execute [tryReplicate true, tryReplicate false] (by decide +kernel)
  exact ⟨steps, state, run, typed, fun step member => backed_of_unused (unused step member), phase, completed⟩

end Portage
