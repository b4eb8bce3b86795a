import Portage.Controller.Pass

/-! One reconcile of a Replicate Action: the object graph first, then the movers,
then the VolSync pairs that nothing needs any more. -/
namespace Portage

open Go Kube Process Program

def statusOf (w : Workload) : WorkloadActionStatus :=
  { name := w.name, key := w.key, cls := w.cls, engine := w.engine }

/-- Whether a stateless workload is up on the destination. -/
def destStatelessStatus (c : ClusterId) (w : Workload) : Prog WorkloadActionStatus := do
  match ← ready c w with
  | .error text => pure { statusOf w with message := text }
  | .ok false => pure { statusOf w with message := "dest not Ready" }
  | .ok true => pure { statusOf w with ready := true, probeOK := true, message := "dest Ready" }

/-- The object graph's status and its failure, of the last graph that was synced. -/
structure GraphSeen where
  status : Option WorkloadActionStatus := none
  failed : String := ""

def replicateGraph (env : Env) (seen : GraphSeen) (w : Workload) : Prog GraphSeen := do
  match ← syncClusterObjectsLive env with
  | .error text => pure { status := some { statusOf w with message := text }, failed := text }
  | .ok (ok, message) => pure {
      status := some { statusOf w with ready := ok, probeOK := ok, probe := message, message }
      failed := if ok then seen.failed else "waiting for replica sync: " ++ message }

structure ReplicateSeen where
  failed : String := ""
  workloads : List WorkloadActionStatus := []

def ReplicateSeen.add (seen : ReplicateSeen) (status : WorkloadActionStatus) : ReplicateSeen :=
  { seen with workloads := seen.workloads ++ [status] }

/-- Report a failure in the workload's status and as the pass's. -/
def ReplicateSeen.fail (seen : ReplicateSeen) (w : Workload) (text : String) : ReplicateSeen :=
  { failed := text, workloads := seen.workloads ++ [{ statusOf w with message := text }] }

/-- Take the graph over; one that is not attested yet does not hide a mover's failure. -/
def ReplicateSeen.addGraph (seen : ReplicateSeen) (graph : GraphSeen) : ReplicateSeen :=
  let seen := match graph.status with
    | some status => seen.add status
    | none => seen
  if graph.failed ≠ "" ∧
      (seen.failed = "" ∨ hasPrefix graph.failed "waiting for replica sync" = false) then
    { seen with failed := graph.failed }
  else seen

/-- How the movers are called. -/
structure MoverCalls where
  replicate : Mover → Workload → Prog (Option String)
  probe : Mover → Workload → Prog ProbeResult

/-- Calls whose effects and answers are left to the outside. -/
def MoverCalls.outside : MoverCalls := ⟨Mover.replicate, fun _ _ => Mover.probe⟩

def replicateStepWith (calls : MoverCalls) (env : Env) (graph : GraphSeen) (seen : ReplicateSeen)
    (w : Workload) : Prog ReplicateSeen :=
  if w.cls = .stateless then seen.add <$> destStatelessStatus env.dest.kube w
  else if w.isObjectGraph then pure (seen.addGraph graph)
  else
    match select env.movers w (moverOverride env.policy w .replicate) with
    | .error text => pure (seen.fail w text)
    | .ok (none, _) => pure (seen.fail w "no replicate-capable mover")
    | .ok (some m, capability) =>
      if !capability.replicate then pure (seen.fail w "no replicate-capable mover")
      else do
        match ← calls.replicate m w with
        | some text => pure (seen.fail w text)
        | none => do
          let probe ← calls.probe m w
          let status := { statusOf w with
            probe := probe.message, probeOK := probe.ok, message := probe.message, ready := probe.ok }
          let seen := seen.add status
          pure (if !probe.ok ∧ seen.failed = "" then
            { seen with failed := "waiting for replica sync: " ++ probe.message } else seen)

def replicateStep (env : Env) (graph : GraphSeen) (seen : ReplicateSeen) (w : Workload) :
    Prog ReplicateSeen :=
  replicateStepWith .outside env graph seen w

/-- The namespaces a Policy covers. -/
def namespaces (requested : List String) (defaultNS : String) : List String :=
  if requested ≠ [] then requested else if defaultNS = "" then ["default"] else [defaultNS]

def Env.namespaces (env : Env) : List String :=
  Portage.namespaces env.policy.spec.selectorNamespaces env.policy.namespace_

/-- The workloads of a namespace whose VolSync pair is kept. -/
def Env.kept (env : Env) (ns : String) : List String :=
  (env.inventory.filter fun w => w.namespace_ = ns ∧ w.pvcNames ≠ []).map fun w => w.name

def pruneVolSync (env : Env) : Prog Unit :=
  Program.fold (fun _ ns => do
    let _ ← prune env.source env.dest ns (env.kept ns)
    pure ()) env.namespaces ()

/-- The poll interval: the RPO is a target lag, not an interval. -/
def replicateRequeue (rpo : Option Duration) : Duration :=
  match rpo with
  | none => seconds 5
  | some d => if d ≤ 0 then seconds 5 else if d > seconds 15 then seconds 15 else d

def replicateResult (env : Env) (act : Action) (seen : ReplicateSeen) : ActionResult :=
  let workloads := seen.workloads
  if act.spec.dryRun then
    { phase := .succeeded, message := "dry-run replicate", workloads, terminal := true }
  else if seen.failed = "no replicate-capable mover" then
    { phase := .failed, message := seen.failed, workloads, terminal := true }
  else if seen.failed ≠ "" then
    { phase := .catchingUp
      message := if hasPrefix seen.failed "waiting for replica sync" then seen.failed
        else "waiting for replica sync: " ++ seen.failed
      workloads, requeueAfter := replicateRequeue env.rpo }
  else
    { phase := .catchingUp, message := "replica lag=0; dest probed; live-sync", workloads
      requeueAfter := replicateRequeue env.rpo
      attestation := some { recordedAt := env.now, source := "controller", workloads } }

def runReplicateWith (calls : MoverCalls) (env : Env) (act : Action) : Prog ActionResult := do
  let graph ← Program.fold (replicateGraph env) (env.inventory.filter Workload.isObjectGraph) {}
  let seen ← Program.fold (replicateStepWith calls env graph) env.inventory {}
  pruneVolSync env
  pure (replicateResult env act seen)

def runReplicate (env : Env) (act : Action) : Prog ActionResult := runReplicateWith .outside env act

section
variable {o : Oracle} {allowed : Event → Prop} (env : Env) (w : Workload)

theorem moves_destStatelessStatus (c : ClusterId) :
    Moves o (Extends o allowed) (destStatelessStatus c w) := by
  refine moves_bind (moves_ready c w) fun answer => ?_
  match answer with
  | .error text => exact moves_pure _
  | .ok false => exact moves_pure _
  | .ok true => exact moves_pure _

theorem moves_replicateGraph (fits : ∀ c objects, env.destDynamic = .ok (some c) → allowed (.synced c objects))
    (seen : GraphSeen) : Moves o (Extends o allowed) (replicateGraph env seen w) := by
  refine moves_bind (moves_writeGraph _ _ fun objects c _ client => fits c objects client) fun answer => ?_
  cases answer <;> exact moves_pure _

theorem moves_replicateStepWith {calls : MoverCalls}
    (replicates : ∀ m ∈ env.movers, Moves o (Extends o allowed) (calls.replicate m w))
    (probes : ∀ m ∈ env.movers, Moves o (Extends o allowed) (calls.probe m w)) (graph : GraphSeen)
    (seen : ReplicateSeen) : Moves o (Extends o allowed) (replicateStepWith calls env graph seen w) := by
  refine moves_ite (fun _ => moves_map (moves_destStatelessStatus w _)) fun _ =>
    moves_ite (fun _ => moves_pure _) fun _ => ?_
  split
  · exact moves_pure _
  · exact moves_pure _
  · rename_i m capability selected
    have registered := mem_of_select selected
    refine moves_ite (fun _ => moves_pure _) fun _ => moves_bind (replicates m registered) fun answer => ?_
    cases answer with
    | some text => exact moves_pure _
    | none => exact moves_bind (probes m registered) fun _ => moves_pure _

theorem moves_replicateStep (fits : ∀ e, allowed e) (graph : GraphSeen) (seen : ReplicateSeen) :
    Moves o (Extends o allowed) (replicateStep env graph seen w) :=
  moves_replicateStepWith env w (fun _ _ => moves_callMover (fits _)) (fun _ _ => moves_moverProbe) graph seen

theorem moves_pruneVolSync (fits : ∀ req, PruneRequest env.source env.dest req → allowed (.wrote req)) :
    Moves o (Extends o allowed) (pruneVolSync env) :=
  Moves.fold (extends_chains o allowed) (fun _ ns _ =>
    moves_bind (moves_prune _ _ ns _ fits) fun _ => moves_pure _) ()

theorem moves_runReplicateWith {calls : MoverCalls}
    (replicates : ∀ m ∈ env.movers, ∀ w ∈ env.inventory, Moves o (Extends o allowed) (calls.replicate m w))
    (probes : ∀ m ∈ env.movers, ∀ w ∈ env.inventory, Moves o (Extends o allowed) (calls.probe m w))
    (syncs : ∀ c objects, env.destDynamic = .ok (some c) → allowed (.synced c objects))
    (prunes : ∀ req, PruneRequest env.source env.dest req → allowed (.wrote req)) (act : Action) :
    Moves o (Extends o allowed) (runReplicateWith calls env act) :=
  moves_bind (Moves.fold (extends_chains o allowed) (fun seen w _ =>
      moves_replicateGraph env w syncs seen) _) fun _ =>
    moves_bind (Moves.fold (extends_chains o allowed) (fun seen w member =>
        moves_replicateStepWith env w (fun m registered => replicates m registered w member)
          (fun m registered => probes m registered w member) _ seen) _) fun _ =>
      moves_bind (moves_pruneVolSync env prunes) fun _ => moves_pure _

theorem moves_runReplicate (fits : ∀ e, allowed e) (act : Action) :
    Moves o (Extends o allowed) (runReplicate env act) :=
  moves_runReplicateWith env (fun _ _ _ _ => moves_callMover (fits _)) (fun _ _ _ _ => moves_moverProbe)
    (fun _ _ _ => fits _) (fun _ _ => fits _) act

end

end Portage
