import Portage.Controller.Cutover
import Portage.Controller.Replicate
import Portage.Controller.Restore
import Portage.Process.Run

/-! The reconcile of an Action around its runner, and runs of reconciles of one
stored Action. -/
namespace Portage

open Go Kube Process Program

/-- What a reconcile meets: the spec at that time, what it resolves before the
runner is called, or why it cannot, and how the outside answers. The inventory of
`env` is the walked one. -/
structure PassInput where
  spec : ActionSpec
  env : Env
  policyError : Option String := none
  pairError : Option String := none
  resolveError : Option String := none
  walkError : Option String := none
  backup : Except String ActionResult := .error ""
  clusters : Clusters := fun _ => {}
  oracle : Oracle := {}

/-- The environment of the runner, with the object graph in the inventory. -/
def PassInput.covered (input : PassInput) : Env :=
  { input.env with inventory := withClusterObjects input.env.policy input.env.inventory }

/-- How a reconcile ended. -/
inductive Outcome where
  | idle
  | retried (text : String)
  | failed (message : String)
  | advanced (result : ActionResult) (stored : Bool)
  | panicked
  deriving DecidableEq, Repr

/-- The status a reconcile goes on with; a finished Action is left alone, except a
live Replicate and a Restore that failed on the destination. -/
def resume (spec : ActionSpec) (status : ActionStatus) : Option ActionStatus :=
  match status.phase with
  | .succeeded => if spec.type ≠ .replicate ∨ spec.dryRun = true then none else some status
  | .rolledBack => none
  | .failed =>
    if spec.type ≠ .restore ∨ restoreRetryable status.message = false then none
    else some { status with phase := .rehydrating, completionTime := none }
  | _ => some status

/-- A reconcile goes on in the stored phase, or resumes a failed Restore. -/
theorem resume_phase {spec : ActionSpec} {status resumed : ActionStatus}
    (resumes : resume spec status = some resumed) :
    status.phase ≠ .failed ∧ resumed.phase = status.phase ∨
      status.phase = .failed ∧ resumed.phase = .rehydrating := by
  unfold resume at resumes
  split at resumes
  · split at resumes <;> simp_all
  · contradiction
  · split at resumes
    · contradiction
    · obtain rfl := Option.some.inj resumes
      exact .inr ⟨‹_›, rfl⟩
  · rename_i unfailed
    obtain rfl := Option.some.inj resumes
    exact .inl ⟨unfailed, rfl⟩

def fail (input : PassInput) (status : ActionStatus) (message : String) : Prog Outcome := do
  match ← writeStatus { status with
      phase := .failed, message, completionTime := some input.env.now } with
  | .error refused => pure (.retried refused.message)
  | .ok _ => pure (.failed message)

/-- Call the runner for the Action's type. -/
def runAction (input : PassInput) (act : Action) : Prog (Except Stop ActionResult) :=
  match input.spec.type with
  | .backup => pure (input.backup.mapError .error)
  | .restore => runRestore input.covered act
  | .replicate => .ok <$> runReplicate input.covered act
  | .cutover => .ok <$> runCutover input.covered act

/-- The message names the destination of a pair. -/
def ActionResult.named (result : ActionResult) (env : Env) : ActionResult :=
  if env.pair.isSome ∧ env.dest.name ≠ "" then
    { result with message := trimSpace (result.message ++ "; dest=" ++ env.dest.name) }
  else result

@[simp] theorem ActionResult.named_phase (result : ActionResult) (env : Env) :
    (result.named env).phase = result.phase := by
  unfold ActionResult.named
  split <;> rfl

@[simp] theorem ActionResult.named_workloads (result : ActionResult) (env : Env) :
    (result.named env).workloads = result.workloads := by
  unfold ActionResult.named
  split <;> rfl

/-- The status after a result. -/
def ActionStatus.advanced (status : ActionStatus) (result : ActionResult) (generation : Int) (now : Time) :
    ActionStatus :=
  { status with
    phase := result.phase, message := result.message, workloads := result.workloads
    observedGeneration := generation
    attestation := result.attestation.or status.attestation
    completionTime := if result.terminal then some now else status.completionTime }

/-- Run and store the result. -/
def runAndStore (input : PassInput) (act : Action) : Prog Outcome := do
  let act := { act with status := { act.status with
    startTime := some (act.status.startTime.getD input.env.now) } }
  match ← runAction input act with
  | .error .panic => pure .panicked
  | .error (.error text) => pure (.retried text)
  | .ok result => do
    let result := result.named input.env
    let stored ← writeStatus (act.status.advanced result act.generation input.env.now)
    pure (.advanced result (stored.toOption.isSome))

/-- Resolve the pair, the clients and the inventory, and run. -/
def resolveAndRun (input : PassInput) (act : Action) : Prog Outcome :=
  match input.pairError, input.resolveError, input.walkError with
  | some text, _, _ => fail input act.status text
  | none, some text, _ => pure (.retried ("resolve ClusterPair: " ++ text))
  | none, none, some text => pure (.retried ("classify: " ++ text))
  | none, none, none => runAndStore input act

/-- Mark a new Action as pending before anything is resolved. -/
def markPending (input : PassInput) (act : Action) : Prog Outcome :=
  if act.status.phase = .unset then do
    let pending := { act.status with phase := .pending, message := "pending" }
    match ← writeStatus pending with
    | .error refused => pure (.retried ("mark action pending: " ++ refused.message))
    | .ok _ => resolveAndRun input { act with status := pending }
  else resolveAndRun input act

def reconcile (input : PassInput) : Prog Outcome := do
  match ← readStored .readAction with
  | .error refused => pure (.retried refused.message)
  | .ok act =>
    match resume act.spec act.status with
    | none => pure .idle
    | some status =>
      if act.spec.policyRef = "" then fail input status "spec.policyRef is required"
      else
        match input.policyError with
        | some text => fail input status ("policy: " ++ text)
        | none => markPending input { act with status }

/-! ### What a reconcile can do -/

/-- The phase that the runner is called in. -/
def calledIn : ActionPhase → ActionPhase
  | .unset => .pending
  | .failed => .rehydrating
  | phase => phase

/-- A call of the runner with `act` in the world `u`, in a reconcile from `s`; a
new Action may have been marked as pending before. -/
structure Called (o : Oracle) (s u : World) (act : Action) : Prop where
  before : ∃ desired : ActionStatus, desired.phase = .pending ∧ StatusWritten o desired s u
  annotations : act.annotations = s.action.annotations
  spec : act.spec = s.action.spec
  phase : act.status.phase = calledIn s.action.status.phase
  resumed : s.action.status.phase = .succeeded → s.action.spec.type = .replicate

/-- The branches of a reconcile: one that calls no runner and may close or mark the
Action, one whose runner stopped, and one that stores a result. -/
inductive Reconciled (input : PassInput) (o : Oracle) (s : World) : Outcome × World → Prop where
  | closed {outcome : Outcome} {t : World} (desired : ActionStatus)
      (closing : desired.phase = .failed ∨ desired.phase = .pending)
      (written : StatusWritten o desired s t) (idle : ∀ result stored, outcome ≠ .advanced result stored) :
      Reconciled input o s (outcome, t)
  | stopped {outcome : Outcome} {t u : World} {act : Action} {stop : Stop} (called : Called o s u act)
      (ran : runAction input act o u = (.error stop, t))
      (idle : ∀ result stored, outcome ≠ .advanced result stored) : Reconciled input o s (outcome, t)
  | advanced {t u v : World} {act : Action} {result : ActionResult} {stored : Bool}
      (called : Called o s u act) (ran : runAction input act o u = (.ok result, t))
      (written : StatusWritten o
        (act.status.advanced (result.named input.env) act.generation input.env.now) t v) :
      Reconciled input o s (.advanced (result.named input.env) stored, v)

section
variable {o : Oracle} {input : PassInput} {s u : World} {act : Action}

private theorem fail_reconciled (before : ∃ desired : ActionStatus, desired.phase = .pending ∧
    StatusWritten o desired s u) (status : ActionStatus) (message : String) :
    Reconciled input o s (fail input status message o u) := by
  obtain ⟨pending, phase, marked⟩ := before
  have failed := moves_writeStatus o
    { status with phase := .failed, message, completionTime := some input.env.now } u
  have closed : ∀ outcome, (∀ result stored, outcome ≠ .advanced result stored) →
      Reconciled input o s (outcome, (writeStatus _ o u).2) := fun outcome idle =>
    (marked.after failed).elim (fun written => .closed pending (.inr phase) written idle)
      fun written => .closed _ (.inl rfl) written idle
  simp only [fail, bind_run]
  cases (writeStatus _ o u).1 <;> exact closed _ (by simp)

private theorem runAndStore_reconciled (called : Called o s u act) :
    Reconciled input o s (runAndStore input act o u) := by
  have timed : Called o s u { act with status := { act.status with
      startTime := some (act.status.startTime.getD input.env.now) } } :=
    { called with phase := called.phase }
  simp only [runAndStore, bind_run]
  generalize ran : runAction input _ o u = answer
  obtain ⟨answer, t⟩ := answer
  cases answer with
  | error stop => cases stop <;> exact .stopped timed ran (by simp)
  | ok result => exact .advanced timed ran (moves_writeStatus o _ t)

private theorem resolveAndRun_reconciled (called : Called o s u act) :
    Reconciled input o s (resolveAndRun input act o u) := by
  obtain ⟨pending, phase, marked⟩ := called.before
  unfold resolveAndRun
  cases input.pairError with
  | some text => exact fail_reconciled called.before _ _
  | none =>
    cases input.resolveError with
    | some text => exact .closed pending (.inr phase) marked (by simp)
    | none =>
      cases input.walkError with
      | some text => exact .closed pending (.inr phase) marked (by simp)
      | none => exact runAndStore_reconciled called

/-- Every reconcile takes one of the branches. -/
theorem reconcile_reconciled (input : PassInput) (o : Oracle) (s : World) :
    Reconciled input o s (reconcile input o s) := by
  have ticked := statusWritten_tick o { phase := .pending } s
  cases unread : o.fault s.calls .readAction with
  | some fault =>
    simp only [reconcile, bind_run, readStored_failed unread, pure_run]
    exact .closed _ (.inr rfl) ticked (by simp)
  | none =>
    simp only [reconcile, bind_run, readStored_served unread]
    cases resumes : resume s.action.spec s.action.status with
    | none => exact .closed _ (.inr rfl) ticked (by simp)
    | some status =>
      have resumed : s.action.status.phase = .succeeded → s.action.spec.type = .replicate := by
        intro succeeded
        by_contra other
        simp [resume, succeeded, other] at resumes
      dsimp only
      split
      · exact fail_reconciled ⟨_, rfl, ticked⟩ _ _
      · cases input.policyError with
        | some text => exact fail_reconciled ⟨_, rfl, ticked⟩ _ _
        | none =>
          dsimp only
          unfold markPending
          split
          · rename_i unset
            have written := moves_writeStatus o { status with phase := .pending, message := "pending" } (tick o s).2
            have marked : StatusWritten o { status with phase := .pending, message := "pending" } s _ :=
              (statusWritten_chains o _).trans (statusWritten_tick o _ s) written
            have first : s.action.status.phase = .unset := by
              rcases resume_phase resumes with ⟨_, same⟩ | ⟨_, rehydrating⟩
              · exact same.symm.trans unset
              · simp [rehydrating] at unset
            simp only [bind_run]
            generalize writeStatus _ o (tick o s).2 = answer at marked
            obtain ⟨answer, t⟩ := answer
            cases answer with
            | error refused => exact .closed _ (.inr rfl) marked (by simp)
            | ok _ =>
              exact resolveAndRun_reconciled ⟨⟨_, rfl, marked⟩, rfl, rfl, by rw [first]; rfl, resumed⟩
          · rename_i later
            refine resolveAndRun_reconciled ⟨⟨_, rfl, ticked⟩, rfl, rfl, ?_, resumed⟩
            rcases resume_phase resumes with ⟨unfailed, same⟩ | ⟨failed, rehydrating⟩
            · dsimp only at later ⊢
              rw [same] at later ⊢
              unfold calledIn
              split <;> simp_all
            · rw [failed, rehydrating]; rfl

/-- A runner leaves the stored status to the reconcile. -/
theorem proceeds_runAction (input : PassInput) (act : Action) :
    Moves o (Proceeds o fun _ => True) (runAction input act) := by
  unfold runAction
  cases input.spec.type with
  | backup => exact proceeds_pure _
  | restore => exact proceeds_runRestore input.covered (fun _ _ => trivial) act
  | replicate => exact Moves.proceeds (moves_map (moves_runReplicate input.covered (fun _ => trivial) act))
  | cutover => exact Moves.proceeds (moves_map (moves_runCutover input.covered act fun _ _ => trivial))

/-- Where the status after a reconcile comes from. -/
inductive Stored (before after : ActionStatus) (outcome : Outcome) : Prop where
  | kept (same : after = before)
  | closed (phase : after.phase = .failed ∨ after.phase = .pending)
  | advanced (result : ActionResult) (stored : Bool) (reported : outcome = .advanced result stored)
      (phase : after.phase = result.phase) (workloads : after.workloads = result.workloads)

theorem reconcile_stored (input : PassInput) (o : Oracle) (s : World) :
    Stored s.action.status (reconcile input o s).2.action.status (reconcile input o s).1 := by
  have branch := reconcile_reconciled input o s
  generalize reconcile input o s = answer at branch
  have called_kept : ∀ {u t : World} {act : Action} {stop : Except Stop ActionResult}, Called o s u act →
      runAction input act o u = (stop, t) → Stored s.action.status t.action.status answer.1 := by
    intro u t act stop called ran
    obtain ⟨desired, pending, written⟩ := called.before
    have same : t.action.status = u.action.status := by
      simpa [ran] using (proceeds_runAction (o := o) input act u).status
    rcases written.status with kept | marked
    · exact .kept (same.trans kept)
    · exact .closed (.inr (by rw [same, marked, pending]))
  cases branch with
  | closed desired closing written _ =>
    rcases written.status with kept | closed
    · exact .kept kept
    · exact .closed (by simpa only [closed] using closing)
  | stopped called ran _ => exact called_kept called ran
  | @advanced _ _ _ act result stored called ran written =>
    rcases written.status with kept | advanced
    · simp only [kept]
      exact called_kept called ran
    · exact .advanced _ stored rfl (by simp only [advanced]; rfl) (by simp only [advanced]; rfl)

/-- A finished Action is left alone. -/
theorem reconcile_finished (finished : resume s.action.spec s.action.status = none) :
    (reconcile input o s).2.action = s.action ∧ (reconcile input o s).2.log = s.log := by
  cases unread : o.fault s.calls .readAction with
  | some fault => simp [reconcile, readStored_failed unread, tick]
  | none => simp [reconcile, readStored_served unread, finished, tick]

private theorem fail_status (status : ActionStatus) (message : String) :
    (fail input status message o u).2.action.status = u.action.status ∨
      (fail input status message o u).2.action.status.phase = .failed := by
  have written := (moves_writeStatus o
    { status with phase := .failed, message, completionTime := some input.env.now } u).status.imp_right
      (congrArg ActionStatus.phase)
  simp only [fail, bind_run]
  cases (writeStatus _ o u).1 <;> exact written

private theorem runAndStore_status (act : Action) :
    (runAndStore input act o u).2.action.status = u.action.status ∨
      ∃ result stored, (runAndStore input act o u).1 = .advanced result stored ∧
        (runAndStore input act o u).2.action.status.phase = result.phase := by
  have kept (act : Action) := (proceeds_runAction (o := o) input act u).status
  simp only [runAndStore, bind_run]
  generalize ran : runAction input _ o u = answer
  obtain ⟨answer, t⟩ := answer
  have same : t.action.status = u.action.status := by
    rw [← kept, ran]
  cases answer with
  | error stop => cases stop <;> exact .inl same
  | ok result =>
    refine (moves_writeStatus o _ t).status.imp (·.trans same) fun desired => ⟨_, _, rfl, ?_⟩
    exact congrArg ActionStatus.phase desired

/-- A reconcile of an Action that is not new keeps its phase, fails it, or stores
what the runner answered. -/
theorem reconcile_marked (later : s.action.status.phase ≠ .unset) :
    (reconcile input o s).2.action.status = s.action.status ∨
      (reconcile input o s).2.action.status.phase = .failed ∨
      ∃ result stored, (reconcile input o s).1 = .advanced result stored ∧
        (reconcile input o s).2.action.status.phase = result.phase := by
  cases unread : o.fault s.calls .readAction with
  | some fault => exact .inl (by simp [reconcile, readStored_failed unread, tick])
  | none =>
    simp only [reconcile, bind_run, readStored_served unread]
    cases resumes : resume s.action.spec s.action.status with
    | none => exact .inl rfl
    | some status =>
      have marked : status.phase ≠ .unset := by
        rcases resume_phase resumes with ⟨_, same⟩ | ⟨_, rehydrating⟩
        · rwa [same]
        · simp [rehydrating]
      dsimp only
      split
      · exact (fail_status _ _).imp_right .inl
      · cases input.policyError with
        | some text => exact (fail_status _ _).imp_right .inl
        | none =>
          simp only [markPending, marked, ↓reduceIte]
          unfold resolveAndRun
          cases input.pairError with
          | some text => exact (fail_status _ _).imp_right .inl
          | none =>
            cases input.resolveError with
            | some text => exact .inl rfl
            | none =>
              cases input.walkError with
              | some text => exact .inl rfl
              | none => exact (runAndStore_status _).imp_right .inr

end

/-! ### Runs -/

/-- What a reconcile leaves: how it ended, what it issued, and the stored Action. -/
structure PassOutput where
  outcome : Outcome
  log : List Event
  action : Action

/-- The world that a reconcile starts in. -/
def PassInput.opening (input : PassInput) (action : Action) : World :=
  { clusters := input.clusters, action := { action with spec := input.spec } }

def PassInput.pass (input : PassInput) (action : Action) : PassOutput :=
  let (outcome, world) := reconcile input input.oracle (input.opening action)
  { outcome, log := world.log, action := world.action }

/-- Reconciles of one stored Action, one after the other. Between two of them the
clusters, the Policy and the spec may change in any way. -/
abbrev ReconcileRun (start : Action) :=
  Process.Run (fun action (input : PassInput) => some (input.pass action)) (fun _ _ output => output.action)
    start

abbrev ReconcileStep := Process.Step Action PassInput PassOutput

/-- The clusters that a reconcile leaves. -/
def PassInput.after (input : PassInput) (action : Action) : Clusters :=
  (reconcile input input.oracle (input.opening action)).2.clusters

/-- A result of a Cutover was computed by its runner, whose log is the reconcile's. -/
theorem pass_ran {input : PassInput} {action : Action} {result : ActionResult} {stored : Bool}
    (cutover : input.spec.type = .cutover) (reported : (input.pass action).outcome = .advanced result stored) :
    ∃ act u, Called input.oracle (input.opening action) u act ∧
      result.phase = (runCutover input.covered act input.oracle u).1.phase ∧
      (input.pass action).log = (runCutover input.covered act input.oracle u).2.log := by
  have branch := reconcile_reconciled input input.oracle (input.opening action)
  have outcome : (reconcile input input.oracle (input.opening action)).1 = .advanced result stored := reported
  have log : (input.pass action).log = (reconcile input input.oracle (input.opening action)).2.log := rfl
  rw [log]
  generalize reconcile input input.oracle (input.opening action) = answer at branch outcome
  cases branch with
  | closed _ _ _ idle => exact absurd outcome (idle result stored)
  | stopped _ _ idle => exact absurd outcome (idle result stored)
  | @advanced t u v act computed _ called ran written =>
    obtain ⟨rfl, _⟩ := Outcome.advanced.inj outcome
    simp only [runAction, cutover, map_run, Prod.mk.injEq, Except.ok.injEq] at ran
    exact ⟨act, u, called, by rw [ran.1]; simp, by rw [ran.2]; exact written.record.1⟩

/-- A Cutover whose runner was not called logs nothing. -/
theorem pass_unrun {input : PassInput} {action : Action} (cutover : input.spec.type = .cutover)
    (unrun : ∀ result stored, (input.pass action).outcome ≠ .advanced result stored) :
    (input.pass action).log = [] := by
  have branch := reconcile_reconciled input input.oracle (input.opening action)
  have outcome (result : ActionResult) (stored : Bool) :
      (reconcile input input.oracle (input.opening action)).1 ≠ .advanced result stored := unrun result stored
  have log : (input.pass action).log = (reconcile input input.oracle (input.opening action)).2.log := rfl
  rw [log]
  generalize reconcile input input.oracle (input.opening action) = answer at branch outcome
  cases branch with
  | closed _ _ written _ => exact written.record.1
  | stopped _ ran _ => simp [runAction, cutover] at ran
  | advanced _ _ _ => exact absurd rfl (outcome _ _)

end Portage
