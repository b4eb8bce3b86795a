import Portage.Controller.Reconcile
import Portage.Cutover.RunInvariant

/-! Whether a Cutover that was rolled back leaves a workload up on both clusters. -/
namespace Portage

open Go Kube Process Program

/-- Whether the controller behind a workload asks for replicas. -/
def Kube.Cluster.above (cluster : Cluster) (w : Workload) : Bool :=
  match ControllerKind.of? w.kind with
  | none => false
  | some kind => (kind.table cluster w.objKey).any fun controller => decide (0 < controller.wanted)

/-- An event that scales a workload up on the destination, or promotes it. -/
def Kube.Event.raises (dest : ClusterId) (w : Workload) : Event → Bool
  | .wrote (.update c resource key) =>
    c == dest && key == w.objKey && (ControllerKind.of? w.kind).any (·.resource == resource)
  | .moved .promote _ key => key == w.key
  | _ => false

/-- Some step of a run has raised the workload on the destination. -/
def Raised (dest : ClusterId) (w : Workload) (steps : List ReconcileStep) : Prop :=
  ∃ step ∈ steps, ∃ e ∈ step.output.log, e.raises dest w = true

/-- After its last step the run leaves the workload up on both clusters, on the
destination by what the run issued. -/
def LeftActive (source dest : ClusterId) (w : Workload) (steps : List ReconcileStep) : Prop :=
  Raised dest w steps ∧ ∃ last, steps.getLast? = some last ∧
    (last.input.after last.before source).above w = true ∧ (last.input.after last.before dest).above w = true

/-- The phases in which a pass raises the destination. -/
def raisesDest : ActionPhase → Bool
  | .promoting | .switching | .waitingReady => true
  | _ => false

/-- The phases of an Action that has raised the destination and was not rolled back. -/
def raisedDest : ActionPhase → Bool
  | .succeeded | .failed => true
  | phase => raisesDest phase

theorem raisedDest_of_raisesDest {phase : ActionPhase} (raises : raisesDest phase = true) :
    raisedDest phase = true := by cases phase <;> first | rfl | exact raises

/-- A pass raises the destination only in those phases. -/
theorem CutoverEvent.raisesDest {env : Env} {phase : ActionPhase} {rollback : Bool} {e : Event} {w : Workload}
    (distinct : env.source.kube ≠ env.dest.kube) (logged : CutoverEvent env phase rollback e)
    (raises : e.raises env.dest.kube w = true) : raisesDest phase = true := by
  cases logged with
  | quiet quiet =>
    cases e with
    | wrote | moved => simp [Event.touches] at quiet
    | exec | replay | saw | synced | hooked => simp [Event.raises] at raises
  | synced => simp [Event.raises] at raises
  | froze | unfroze => simp [Event.raises, distinct] at raises
  | promoted due => simp [Portage.raisesDest, due]
  | raised due => cases phase <;> first | rfl | contradiction

/-- Without a rollback an Action stays where it was raised. -/
theorem advance_raisedDest {status : ActionStatus} {facts : Cutover.Facts} (forward : facts.rollback = false)
    (raised : raisesDest status.phase = true) : raisedDest (Cutover.advance status facts).phase = true := by
  cases phase : status.phase with
  | promoting => cases answer : facts.promoted <;> simp [Cutover.advance, phase, forward, answer, raisedDest, raisesDest]
  | switching => cases answer : facts.switched <;> simp [Cutover.advance, phase, forward, answer, raisedDest, raisesDest]
  | waitingReady =>
    have proving := Cutover.prove_phase (Cutover.seed status.workloads facts) facts.now
    simp only [Cutover.advance, phase, forward]
    rcases proving with waiting | ⟨done, _⟩ <;> simp [raisedDest, raisesDest, *]
  | _ => simp [phase, raisesDest] at raised

section
variable {start state : Action} {steps : List ReconcileStep} {source dest : ClusterId} {w : Workload}

private theorem raisesDest_calledIn (phase : ActionPhase) :
    raisesDest (calledIn phase) = raisesDest phase := by cases phase <;> rfl

private theorem calledIn_of_raisesDest {phase : ActionPhase} (raises : raisesDest phase = true) :
    calledIn phase = phase := by cases phase <;> first | rfl | contradiction

private theorem resume_of_raisedDest {spec : ActionSpec} {status : ActionStatus} (cutover : spec.type = .cutover)
    (raised : raisedDest status.phase = true) (done : ¬ raisesDest status.phase = true) :
    resume spec status = none := by
  cases phase : status.phase with
  | succeeded => simp [resume, phase, cutover]
  | failed => simp [resume, phase, cutover]
  | _ => simp_all [raisedDest]

/-- What a reconcile of a Cutover logs belongs to the stored phase. -/
theorem pass_logs {input : PassInput} {action : Action} (cutover : input.spec.type = .cutover) {e : Event}
    (logged : e ∈ (input.pass action).log) :
    CutoverEvent input.covered (calledIn action.status.phase) input.spec.rollback e := by
  cases reported : (input.pass action).outcome with
  | advanced result stored =>
    obtain ⟨act, u, called, _, log⟩ := pass_ran cutover reported
    obtain ⟨_, _, marked⟩ := called.before
    obtain ⟨_, added, grown, allowed, _⟩ :=
      moves_runCutover (o := input.oracle) input.covered act (fun _ logged => logged) u
    rw [log, grown, show u.log = [] from marked.record.1, List.nil_append] at logged
    have found := allowed e logged
    rwa [called.phase, called.spec] at found
  | _ =>
    have none : (input.pass action).log = [] := pass_unrun cutover (by simp [reported])
    simp [none] at logged

/-- The log of a pass raises the workload only if the stored phase says so. -/
theorem pass_raisesDest {input : PassInput} {action : Action} (cutover : input.spec.type = .cutover)
    (distinct : input.env.source.kube ≠ input.env.dest.kube) {e : Event} (logged : e ∈ (input.pass action).log)
    (raises : e.raises input.env.dest.kube w = true) : raisesDest action.status.phase = true := by
  have apart : input.covered.source.kube ≠ input.covered.dest.kube := distinct
  have during := (pass_logs cutover logged).raisesDest apart raises
  rwa [raisesDest_calledIn] at during

/-- A pass of an Action that has been raised, without a rollback, leaves it so. -/
theorem pass_raisedDest {input : PassInput} {action : Action} (cutover : input.spec.type = .cutover)
    (raised : raisedDest action.status.phase = true)
    (forward : raisesDest action.status.phase = true → input.spec.rollback = false) :
    raisedDest (input.pass action).action.status.phase = true := by
  by_cases during : raisesDest action.status.phase = true
  · have later : (input.opening action).action.status.phase ≠ .unset := by
      intro unset
      have phase : action.status.phase = .unset := unset
      simp [phase, raisesDest] at during
    have marked : (input.pass action).action.status = action.status ∨
        (input.pass action).action.status.phase = .failed ∨
        ∃ result stored, (input.pass action).outcome = .advanced result stored ∧
          (input.pass action).action.status.phase = result.phase := reconcile_marked later
    rcases marked with kept | failed | ⟨result, stored, reported, phase⟩
    · rwa [kept]
    · simp [failed, raisedDest]
    · obtain ⟨act, u, called, computed, _⟩ := pass_ran cutover reported
      rw [phase, computed]
      have still : act.status.phase = action.status.phase := called.phase.trans (calledIn_of_raisesDest during)
      refine advance_raisedDest ?_ (by rw [still]; exact during)
      have asked : act.spec.rollback = input.spec.rollback := by rw [called.spec]; rfl
      exact asked.trans (forward during)
  · have finished : resume (input.opening action).action.spec (input.opening action).action.status = none :=
      resume_of_raisedDest cutover raised during
    have same : (input.pass action).action = _ := (reconcile_finished finished).1
    rw [same]
    exact raised

/-- An Action that has raised the destination is in one of the phases for that. -/
private theorem run_raisedDest (run : ReconcileRun start steps state)
    (cutovers : ∀ step ∈ steps, step.input.spec.type = .cutover)
    (pair : ∀ step ∈ steps, step.input.env.source.kube = source ∧ step.input.env.dest.kube = dest)
    (distinct : source ≠ dest)
    (early : ∀ step ∈ steps, step.input.spec.rollback = true → raisesDest step.before.status.phase = false)
    (raised : Raised dest w steps) : raisedDest state.status.phase = true := by
  induction run with
  | nil => simp [Raised] at raised
  | @snoc steps state input output earlier taken ih =>
    obtain rfl : input.pass state = output := by simpa using taken
    have last : (⟨state, input, input.pass state⟩ : ReconcileStep) ∈ steps ++ [⟨state, input, input.pass state⟩] := by
      simp
    have cutover : input.spec.type = .cutover := cutovers _ last
    obtain ⟨origin, target⟩ : input.env.source.kube = source ∧ input.env.dest.kube = dest := pair _ last
    have before : raisedDest state.status.phase = true := by
      obtain ⟨step, member, e, logged, raises⟩ := raised
      rcases List.mem_append.mp member with inside | here
      · exact ih (fun step member => cutovers step (by simp [member])) (fun step member => pair step (by simp [member]))
          (fun step member => early step (by simp [member])) ⟨step, inside, e, logged, raises⟩
      · obtain rfl := List.mem_singleton.mp here
        have during := pass_raisesDest cutover (by rw [origin, target]; exact distinct) logged (target ▸ raises)
        exact raisedDest_of_raisesDest during
    refine pass_raisedDest cutover before fun during => ?_
    by_contra asked
    have forward : raisesDest state.status.phase = false := early _ last (by simpa using asked)
    simp [forward] at during

/-- In every run of a Cutover between two clusters in which a rollback is never
asked for while the Action is promoting, switching or waiting, an Action that is
rolled back leaves no workload up on both clusters. -/
theorem run_rolledBack_passive (run : ReconcileRun start steps state)
    (cutovers : ∀ step ∈ steps, step.input.spec.type = .cutover)
    (pair : ∀ step ∈ steps, step.input.env.source.kube = source ∧ step.input.env.dest.kube = dest)
    (distinct : source ≠ dest)
    (early : ∀ step ∈ steps, step.input.spec.rollback = true → raisesDest step.before.status.phase = false)
    (ended : state.status.phase = .rolledBack) (w : Workload) : ¬ LeftActive source dest w steps := by
  rintro ⟨raised, _⟩
  have phase := run_raisedDest run cutovers pair distinct early raised
  simp [ended, raisedDest, raisesDest] at phase

end

/-! ### A wallet that is rolled back -/

def wallet : Workload :=
  { namespace_ := "shop", name := "wallet", kind := "StatefulSet", cls := .genericPVC, pvcNames := ["data-wallet-0"] }

def walletCopy : ReplicationDestination where
  key := ⟨"shop", "portage-wallet"⟩
  lastSyncTime := "t5"
  finished := [5]
  reported := by simp

/-- A reconcile that finds the given controllers and a claim that VolSync has copied. -/
def walletPass (rollback : Bool) (source dest : Controller) : PassInput where
  spec := { type := .cutover, policyRef := "shop", rollback }
  env := {
    source := { kube := 0, dynamic := some 0 }
    dest := { kube := 1, dynamic := some 1, exec := some 1 }
    inventory := [wallet] }
  clusters
    | 0 => {
      statefulSets := fun key => if key = wallet.objKey then some source else none
      replicationSources := [{ key := ⟨"shop", "portage-wallet"⟩, lastSyncTime := "t5" }] }
    | _ => {
      statefulSets := fun key => if key = wallet.objKey then some dest else none
      replicationDestinations := [walletCopy] }

/-- The source's controller with three replicas, once it is frozen. -/
def frozenWallet : Controller :=
  { annotations := .table [(originalReplicasAnn, "3")], replicas := some 0 }

/-- The wallet is frozen, found frozen, and found caught up. -/
def walletForward : List PassInput :=
  [walletPass false { replicas := some 3 } { replicas := some 0 },
    walletPass false frozenWallet { replicas := some 0 }, walletPass false frozenWallet { replicas := some 0 }]

/-- A rollback while the replica catches up leaves only the source up. -/
theorem run_rolledBack_passive_wallet : ∃ steps state,
    ReconcileRun { spec := { type := .cutover, policyRef := "shop" } } steps state ∧
      state.status.phase = .rolledBack ∧ ¬ LeftActive 0 1 wallet steps := by
  obtain ⟨steps, state, run, cutovers, pair, ended, early⟩ : ∃ steps state,
      ReconcileRun { spec := { type := .cutover, policyRef := "shop" } } steps state ∧
      (∀ step ∈ steps, step.input.spec.type = .cutover) ∧
      (∀ step ∈ steps, step.input.env.source.kube = 0 ∧ step.input.env.dest.kube = 1) ∧
      state.status.phase = .rolledBack ∧
      ∀ step ∈ steps, step.input.spec.rollback = true → raisesDest step.before.status.phase = false :=
    Run.exists_of_execute (walletForward.take 2 ++ [walletPass true frozenWallet { replicas := some 0 }])
      (by decide +kernel)
  exact ⟨steps, state, run, ended, run_rolledBack_passive run cutovers pair (by decide) early ended wallet⟩

/-- A rollback while traffic is switched scales the source back to three replicas
and, in the same pass, the destination up to one. -/
theorem run_rolledBack_active : ∃ steps state,
    ReconcileRun { spec := { type := .cutover, policyRef := "shop" } } steps state ∧
      (∀ step ∈ steps, step.input.spec.type = .cutover) ∧
      (∀ step ∈ steps, step.input.env.source.kube = 0 ∧ step.input.env.dest.kube = 1) ∧
      state.status.phase = .rolledBack ∧ LeftActive 0 1 wallet steps := by
  obtain ⟨steps, state, run, cutovers, pair, ended, raised, last, final, up⟩ : ∃ steps state,
      ReconcileRun { spec := { type := .cutover, policyRef := "shop" } } steps state ∧
      (∀ step ∈ steps, step.input.spec.type = .cutover) ∧
      (∀ step ∈ steps, step.input.env.source.kube = 0 ∧ step.input.env.dest.kube = 1) ∧
      state.status.phase = .rolledBack ∧ (∃ step ∈ steps, ∃ e ∈ step.output.log, e.raises 1 wallet = true) ∧
      ∃ last ∈ steps.getLast?, (last.input.after last.before 0).above wallet = true ∧
        (last.input.after last.before 1).above wallet = true :=
    Run.exists_of_execute (walletForward ++ [walletPass false frozenWallet { replicas := some 0 },
      walletPass true frozenWallet { replicas := some 0 }]) (by decide +kernel)
  exact ⟨steps, state, run, cutovers, pair, ended, raised, last, final, up⟩

end Portage
