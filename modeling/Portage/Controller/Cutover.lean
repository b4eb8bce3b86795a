import Portage.Controller.Pass
import Portage.Cutover.Machine

/-! One reconcile of a Cutover Action: freeze the source, judge the replica's
lag, promote, and hand what was seen to the state machine. -/
namespace Portage

open Go Kube Process Program

/-- What the loop over the inventory has gathered so far. -/
structure CutoverSeen where
  lagZero : Bool := true
  promoted : Bool := true
  ready : GoMap String Bool := .empty
  probes : GoMap String ProbeResult := .empty
  deriving DecidableEq

/-- The phases in which every pass scales the source to zero. -/
def freezes : ActionPhase → Bool
  | .unset | .pending | .preflight | .quiescing => true
  | _ => false

/-- The phases before the freeze is judged. -/
def startsCutover : ActionPhase → Bool
  | .unset | .pending | .preflight => true
  | _ => false

/-- The phases in which every pass scales the destination up. -/
def bringsUp : ActionPhase → Bool
  | .waitingReady | .switching => true
  | _ => false

/-- Scale, dropping the outcome. -/
def tryScale (c : ClusterId) (w : Workload) (replicas : Int32) : Prog Unit := do
  let _ ← scale c w replicas
  pure ()

def freezeSource (env : Env) (phase : ActionPhase) (w : Workload) : Prog Unit :=
  if freezes phase then tryScale env.source.kube w 0 else pure ()

/-- Whether the workload leaves `lagZero` standing: the standby's lag if it
answered, and else the VolSync pair. -/
def caughtUp (env : Env) (w : Workload) : Prog Bool := do
  match ← lagSeconds env.dest w with
  | .ok (some lag) => pure (decide (lag ≤ 0))
  | .ok none | .error _ => lagZero env.source.dynamic (env.dest.dynamic.or env.source.dynamic) w

/-- Promote one workload through its mover, the streaming replica, or by scaling
it up; the answer says whether `promoted` still stands. -/
def promoteWorkload (env : Env) (w : Workload) : Prog Bool :=
  match replicator env.movers env.policy w with
  | some m => do
    let failed ← m.promote env.dest w
    pure failed.isNone
  | none =>
    if w.engine = "postgres" ∨ w.engine = "timescale" then do
      let failed ← Mover.postgresStreaming.promote env.dest w
      pure failed.isNone
    else do
      tryScale env.dest.kube w 1
      pure true

def promoteIfDue (env : Env) (phase : ActionPhase) (w : Workload) : Prog Bool :=
  if phase = .promoting then promoteWorkload env w else pure true

def bringUp (env : Env) (phase : ActionPhase) (w : Workload) : Prog Unit :=
  if bringsUp phase then tryScale env.dest.kube w 1 else pure ()

def CutoverSeen.report (seen : CutoverSeen) (key : String) (ready : Bool) (probe : Option ProbeResult) :
    CutoverSeen :=
  { seen with
    ready := seen.ready.insert key ready
    probes := match probe with
      | some result => seen.probes.insert key result
      | none => seen.probes }

def cutoverGraph (env : Env) (seen : CutoverSeen) (w : Workload) : Prog CutoverSeen := do
  match ← syncClusterObjectsLive env with
  | .error text => pure (seen.report w.key false (some ⟨false, text⟩))
  | .ok (ok, message) => pure (seen.report w.key ok (some ⟨ok, message⟩))

def cutoverWorkload (env : Env) (phase : ActionPhase) (seen : CutoverSeen) (w : Workload) :
    Prog CutoverSeen := do
  freezeSource env phase w
  let caught ← caughtUp env w
  let promoted ← promoteIfDue env phase w
  bringUp env phase w
  let up ← isReady env.dest.kube w
  let probe ← probeReady env w up
  pure ({ seen with lagZero := seen.lagZero && caught, promoted := seen.promoted && promoted }.report
    w.key up probe)

/-- The body of the first loop. -/
def cutoverStep (env : Env) (phase : ActionPhase) (seen : CutoverSeen) (w : Workload) :
    Prog CutoverSeen :=
  if w.isObjectGraph then cutoverGraph env seen w else cutoverWorkload env phase seen w

/-- The workloads whose controllers are frozen and rolled back. -/
def Env.frozenWorkloads (env : Env) : List Workload := env.stateful.filter fun w => !w.isObjectGraph

/-- Whether every source workload is seen at zero replicas. -/
def sourceFrozen (env : Env) : Prog Bool :=
  Program.fold (fun frozen w => do
    let zero ← scaledToZero env.source.kube w
    pure (frozen && zero)) env.frozenWorkloads true

/-- Call the traffic hook; without a webhook it is a no-op that succeeds. -/
def callHook (env : Env) (action : String) : Prog (Option String) :=
  if env.policy.spec.trafficHook = "" then pure none
  else do
    record (.hooked action)
    let n ← tick
    let o ← Program.answers
    pure (o.hook n)

/-- The count a rollback scales a workload to: what the StatefulSet of its name
remembers, and one without such a StatefulSet. -/
def rollbackReplicas (env : Env) (w : Workload) : Prog Int32 := do
  match ← getObject env.source.kube .statefulSets w.objKey (·.statefulSets w.objKey) with
  | .error _ => pure 1
  | .ok sts => pure (originalReplicas sts.annotations)

def rollbackWorkload (env : Env) (w : Workload) : Prog Unit := do
  let n ← rollbackReplicas env w
  tryScale env.source.kube w n

def rollbackSource (env : Env) : Prog Unit := do
  let _ ← callHook env "rollback"
  Program.fold (fun _ w => rollbackWorkload env w) env.frozenWorkloads ()

def frozenIfDue (env : Env) (phase : ActionPhase) : Prog Bool :=
  if phase = .quiescing then sourceFrozen env else pure true

def switchIfDue (env : Env) (phase : ActionPhase) : Prog Bool :=
  if phase = .switching then do
    let failed ← callHook env "switch"
    pure failed.isNone
  else pure false

def rollbackIfDue (env : Env) (act : Action) : Prog Unit :=
  if act.spec.rollback then rollbackSource env else pure ()

/-- The facts of one reconcile. -/
def cutoverFacts (env : Env) (act : Action) : Prog Cutover.Facts := do
  let phase := act.status.phase
  let seen ← Program.fold (cutoverStep env phase) env.stateful {}
  let frozen ← frozenIfDue env phase
  let switched ← switchIfDue env phase
  rollbackIfDue env act
  pure {
    inventory := env.inventory
    frozen := frozen && !startsCutover phase
    lagZero := seen.lagZero && !startsCutover phase
    promoted := seen.promoted && !startsCutover phase
    switched, rolled := act.spec.rollback
    ready := seen.ready, probes := seen.probes
    dryRun := act.spec.dryRun, rollback := act.spec.rollback, now := env.now }

def runCutover (env : Env) (act : Action) : Prog ActionResult := do
  let facts ← cutoverFacts env act
  pure (Cutover.advance act.status facts)

/-! ### What the parts of a pass log -/

/-- What the promotion of a workload can log. -/
inductive PromoteEvent (env : Env) : Event → Prop where
  | wrote (kind : ControllerKind) (key : ObjKey) :
      PromoteEvent env (.wrote (.update env.dest.kube kind.resource key))
  | exec {workload : String} {c : ClusterId} {pod : ObjKey} {container : String} {command : List String}
      {answer : ExecAnswer} : PromoteEvent env (.exec workload c pod container command answer)
  | moved {m workload : String} : PromoteEvent env (.moved .promote m workload)

/-- What a pass in a phase can log, and when. -/
inductive CutoverEvent (env : Env) (phase : ActionPhase) (rollback : Bool) : Event → Prop where
  | quiet {event : Event} (quiet : event.touches = false) : CutoverEvent env phase rollback event
  | synced {c : ClusterId} (client : env.destDynamic = .ok (some c)) (objects : List String) :
      CutoverEvent env phase rollback (.synced c objects)
  | froze (due : freezes phase = true) (kind : ControllerKind) (key : ObjKey) :
      CutoverEvent env phase rollback (.wrote (.update env.source.kube kind.resource key))
  | promoted (due : phase = .promoting) {event : Event} (logged : PromoteEvent env event) :
      CutoverEvent env phase rollback event
  | raised (due : bringsUp phase = true) (kind : ControllerKind) (key : ObjKey) :
      CutoverEvent env phase rollback (.wrote (.update env.dest.kube kind.resource key))
  | unfroze (due : rollback = true) (kind : ControllerKind) (key : ObjKey) :
      CutoverEvent env phase rollback (.wrote (.update env.source.kube kind.resource key))

section
variable {o : Oracle} {allowed : Event → Prop} (env : Env) (w : Workload)

theorem moves_tryScale (c : ClusterId)
    (fits : ∀ kind : ControllerKind, allowed (.wrote (.update c kind.resource w.objKey))) (replicas : Int32) :
    Moves o (Extends o allowed) (tryScale c w replicas) :=
  moves_bind (moves_scale c w fits replicas) fun _ => moves_pure _

theorem moves_caughtUp (fits : ∀ e, e.touches = false → allowed e) :
    Moves o (Extends o allowed) (caughtUp env w) := by
  refine moves_bind (moves_lagSeconds _ _ fun _ _ _ _ => fits _ rfl) fun answer => ?_
  match answer with
  | .ok (some lag) => exact moves_pure _
  | .ok none => exact moves_lagZero _ _ _ fun _ _ => fits _ rfl
  | .error text => exact moves_lagZero _ _ _ fun _ _ => fits _ rfl

theorem moves_promoteWorkload (fits : ∀ e, PromoteEvent env e → allowed e) :
    Moves o (Extends o allowed) (promoteWorkload env w) := by
  unfold promoteWorkload
  have promotes (m : Mover) : Moves o (Extends o allowed) (m.promote env.dest w) :=
    moves_promote env.dest (fits _ .moved) (fun _ => fits _ (.wrote _ _)) fun _ _ _ _ => fits _ .exec
  cases replicator env.movers env.policy w with
  | some m => exact moves_bind (promotes m) fun _ => moves_pure _
  | none =>
    exact moves_ite (fun _ => moves_bind (promotes _) fun _ => moves_pure _) fun _ =>
      moves_bind (moves_tryScale w _ (fun _ => fits _ (.wrote _ _)) _) fun _ => moves_pure _

theorem moves_frozenIfDue (phase : ActionPhase) :
    Moves o (Extends o allowed) (frozenIfDue env phase) :=
  moves_ite (fun _ => Moves.fold (extends_chains o allowed) (fun _ w _ =>
    moves_bind (moves_scaledToZero _ w) fun _ => moves_pure _) _) fun _ => moves_pure _

theorem moves_callHook (fits : ∀ e, e.touches = false → allowed e) (action : String) :
    Moves o (Extends o allowed) (callHook env action) :=
  moves_ite (fun _ => moves_pure _) fun _ => moves_bind (moves_record (fits _ rfl)) fun _ =>
    moves_bind moves_tick fun _ => moves_bind moves_answers fun _ => moves_pure _

theorem moves_switchIfDue (fits : ∀ e, e.touches = false → allowed e) (phase : ActionPhase) :
    Moves o (Extends o allowed) (switchIfDue env phase) :=
  moves_ite (fun _ => moves_bind (moves_callHook env fits _) fun _ => moves_pure _) fun _ => moves_pure _

theorem moves_rollbackReplicas : Moves o (Extends o allowed) (rollbackReplicas env w) := by
  refine moves_bind (moves_getObject _ _ _ _) fun answer => ?_
  cases answer <;> exact moves_pure _

theorem moves_rollbackWorkload
    (fits : ∀ kind : ControllerKind, allowed (.wrote (.update env.source.kube kind.resource w.objKey))) :
    Moves o (Extends o allowed) (rollbackWorkload env w) :=
  moves_bind (moves_rollbackReplicas env w) fun _ => moves_tryScale w _ fits _

section
variable {phase : ActionPhase} (fits : ∀ e, CutoverEvent env phase false e → allowed e)
include fits

theorem moves_freezeSource : Moves o (Extends o allowed) (freezeSource env phase w) :=
  moves_ite (fun due => moves_tryScale w _ (fun kind => fits _ (.froze due kind _)) _) fun _ => moves_pure _

theorem moves_promoteIfDue : Moves o (Extends o allowed) (promoteIfDue env phase w) :=
  moves_ite (fun due => moves_promoteWorkload env w fun e logged => fits e (.promoted due logged)) fun _ => moves_pure _

theorem moves_bringUp : Moves o (Extends o allowed) (bringUp env phase w) :=
  moves_ite (fun due => moves_tryScale w _ (fun kind => fits _ (.raised due kind _)) _) fun _ => moves_pure _

theorem moves_cutoverGraph (seen : CutoverSeen) : Moves o (Extends o allowed) (cutoverGraph env seen w) := by
  refine moves_bind (moves_writeGraph _ _ fun _ _ _ client => fits _ (.synced client _)) fun answer => ?_
  cases answer <;> exact moves_pure _

theorem moves_cutoverWorkload (seen : CutoverSeen) :
    Moves o (Extends o allowed) (cutoverWorkload env phase seen w) :=
  moves_bind (moves_freezeSource env w fits) fun _ =>
    moves_bind (moves_caughtUp env w fun e quiet => fits e (.quiet quiet)) fun _ =>
      moves_bind (moves_promoteIfDue env w fits) fun _ =>
        moves_bind (moves_bringUp env w fits) fun _ =>
          moves_bind (moves_isReady _ w) fun _ =>
            moves_bind (moves_probeReady env w (fun e quiet => fits e (.quiet quiet)) _) fun _ => moves_pure _

theorem moves_cutoverStep (seen : CutoverSeen) : Moves o (Extends o allowed) (cutoverStep env phase seen w) :=
  moves_ite (fun _ => moves_cutoverGraph env w fits seen) fun _ => moves_cutoverWorkload env w fits seen

end

/-- What a pass without a rollback can log, one with a rollback can log too. -/
theorem CutoverEvent.of_forward {phase : ActionPhase} {event : Event} (rollback : Bool)
    (logged : CutoverEvent env phase false event) : CutoverEvent env phase rollback event := by
  cases logged with
  | quiet quiet => exact .quiet quiet
  | synced client objects => exact .synced client objects
  | froze due kind key => exact .froze due kind key
  | promoted due logged => exact .promoted due logged
  | raised due kind key => exact .raised due kind key
  | unfroze due => simp at due

variable (act : Action) (fits : ∀ e, CutoverEvent env act.status.phase act.spec.rollback e → allowed e)
include fits

theorem moves_rollbackIfDue : Moves o (Extends o allowed) (rollbackIfDue env act) :=
  moves_ite (fun due => moves_bind (moves_callHook env (fun e quiet => fits e (.quiet quiet)) _) fun _ =>
    Moves.fold (extends_chains o allowed) (fun _ w _ =>
      moves_rollbackWorkload env w fun kind => fits _ (.unfroze due kind _)) _) fun _ => moves_pure _

theorem moves_runCutover : Moves o (Extends o allowed) (runCutover env act) :=
  moves_bind
    (moves_bind (Moves.fold (extends_chains o allowed) (fun seen w _ =>
        moves_cutoverStep env w (fun e logged => fits e (logged.of_forward _ _)) seen) _) fun _ =>
      moves_bind (moves_frozenIfDue env _) fun _ =>
        moves_bind (moves_switchIfDue env (fun e quiet => fits e (.quiet quiet)) _) fun _ =>
          moves_bind (moves_rollbackIfDue env act fits) fun _ => moves_pure _)
    fun _ => moves_pure _

end

end Portage
