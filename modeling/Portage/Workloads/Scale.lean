import Portage.Classify.Workload
import Portage.Kube.Rules

/-! Scaling and readiness of the controllers behind workloads. -/
namespace Portage

open Go Kube Process Program

def Workload.objKey (w : Workload) : ObjKey := ⟨w.namespace_, w.name⟩

/-- The kinds that can be scaled. -/
inductive ControllerKind where
  | statefulSet
  | deployment
  deriving DecidableEq, Repr

namespace ControllerKind

def of? (kind : String) : Option ControllerKind :=
  if kind = "StatefulSet" then some statefulSet
  else if kind = "Deployment" then some deployment
  else none

def resource : ControllerKind → Resource
  | statefulSet => .statefulSets
  | deployment => .deployments

def table : ControllerKind → Cluster → ObjKey → Option Controller
  | statefulSet, cluster => cluster.statefulSets
  | deployment, cluster => cluster.deployments

def put (kind : ControllerKind) (cluster : Cluster) (key : ObjKey) (controller : Controller) : Cluster :=
  match kind with
  | statefulSet => { cluster with
      statefulSets := fun other => if other = key then some controller else cluster.statefulSets other }
  | deployment => { cluster with
      deployments := fun other => if other = key then some controller else cluster.deployments other }

@[simp] theorem table_put_self (kind : ControllerKind) (cluster : Cluster) (key : ObjKey)
    (controller : Controller) : kind.table (kind.put cluster key controller) key = some controller := by
  cases kind <;> simp [table, put]

theorem table_put_other {kind other : ControllerKind} {key wanted : ObjKey}
    (different : ¬ (other = kind ∧ wanted = key)) (cluster : Cluster) (controller : Controller) :
    other.table (kind.put cluster key controller) wanted = other.table cluster wanted := by
  cases kind <;> cases other <;> simp_all [table, put]

end ControllerKind

/-- Update a controller under optimistic concurrency: `before` is the copy that
was read. -/
def updateController (c : ClusterId) (kind : ControllerKind) (key : ObjKey) (before after : Controller) :
    Prog (Except ApiError Unit) :=
  send (.update c kind.resource key) c fun cluster =>
    match kind.table cluster key with
    | none => .error (notFound kind.resource key)
    | some now =>
      if now = before then .ok (kind.put cluster key after)
      else .error ⟨.conflict, "the object has been modified"⟩

def originalReplicasAnn : String := "portage.io/original-replicas"

/-- The controller as `Scale` writes it: the count before is remembered, unless
an annotation is there already. -/
def Kube.Controller.scaled (controller : Controller) (replicas : Int32) : Controller :=
  { controller with
    annotations := match controller.annotations.find? originalReplicasAnn with
      | some _ => controller.annotations
      | none => controller.annotations.insert originalReplicasAnn (itoa controller.wanted.toInt)
    replicas := some replicas }

/-- Set replicas, remembering the previous count for a rollback. -/
def scale (c : ClusterId) (w : Workload) (replicas : Int32) : Prog (Except String Unit) :=
  match ControllerKind.of? w.kind with
  | none => pure (.error ("scale: unsupported kind " ++ w.kind))
  | some kind => do
    match ← getObject c kind.resource w.objKey (kind.table · w.objKey) with
    | .error refused => pure (.error refused.message)
    | .ok controller => do
      match ← updateController c kind w.objKey controller (controller.scaled replicas) with
      | .error refused => pure (.error refused.message)
      | .ok _ => pure (.ok ())

/-- Whether `spec.replicas` is zero. -/
def scaledToZero (c : ClusterId) (w : Workload) : Prog Bool :=
  match ControllerKind.of? w.kind with
  | none => pure false
  | some kind => do
    match ← getObject c kind.resource w.objKey (kind.table · w.objKey) with
    | .error _ => pure false
    | .ok controller => pure (controller.replicas == some 0)

/-- The count that the freeze annotation remembers, one by default. -/
def originalReplicas (annotations : GoMap String String) : Int32 :=
  match annotations with
  | .nil => 1
  | annotations =>
    match atoi (annotations.get originalReplicasAnn) with
    | none => 1
    | some n => if n < 0 then 1 else Int32.ofInt n

/-- The pods of a workload: owned by it, or by a ReplicaSet of its Deployment. -/
def ownedPods (w : Workload) (pods : List Pod) (replicaSets : List ReplicaSet) : List Pod :=
  let owners := w.name :: (replicaSets.filter fun rs => rs.owners.contains ("Deployment", w.name)).map
    fun rs => rs.key.name
  pods.filter fun p => p.owners.any owners.contains

def podsIn (ns : String) (cluster : Cluster) : List Pod :=
  cluster.pods.filter fun p => p.key.namespace_ = ns

def replicaSetsIn (ns : String) (cluster : Cluster) : List ReplicaSet :=
  cluster.replicaSets.filter fun rs => rs.key.namespace_ = ns

def listPods (c : ClusterId) (w : Workload) : Prog (Except String (List Pod)) := do
  match ← listObjects c .pods w.namespace_ (podsIn w.namespace_) with
  | .error refused => pure (.error ("list pods in " ++ w.namespace_ ++ ": " ++ refused.message))
  | .ok pods =>
    if w.kind = "Deployment" then do
      match ← listObjects c .replicaSets w.namespace_ (replicaSetsIn w.namespace_) with
      | .error refused => pure (.error refused.message)
      | .ok replicaSets => pure (.ok (ownedPods w pods replicaSets))
    else pure (.ok (ownedPods w pods []))

def isPodReady (p : Pod) : Bool := p.running && p.ready

/-- A Ready pod and the container to exec into. -/
def firstReadyPod (c : ClusterId) (w : Workload) : Prog (Except String (Pod × String)) := do
  match ← listPods c w with
  | .error text => pure (.error text)
  | .ok pods =>
    match pods.find? isPodReady with
    | some p => pure (.ok (p, p.containers.headD ""))
    | none =>
      if pods.isEmpty then pure (.error ("no pods for " ++ w.key))
      else pure (.error (w.key ++ " has no Ready pod"))

/-- Whether the owning controller has a Ready replica. -/
def ready (c : ClusterId) (w : Workload) : Prog (Except String Bool) :=
  match ControllerKind.of? w.kind with
  | some kind => do
    match ← getObject c kind.resource w.objKey (kind.table · w.objKey) with
    | .error refused => pure (.error refused.message)
    | .ok controller => pure (.ok (controller.wanted != 0 && decide (1 ≤ controller.readyReplicas)))
  | none =>
    if w.kind = "DaemonSet" then do
      match ← getObject c .daemonSets w.objKey (·.daemonSets w.objKey) with
      | .error refused => pure (.error refused.message)
      | .ok ds => pure (.ok (decide (1 ≤ ds.numberReady)))
    else do
      match ← listPods c w with
      | .error text => pure (.error text)
      | .ok pods => pure (.ok (pods.any isPodReady))

/-- A cluster after a served `scale`. -/
def Kube.Cluster.scaled (cluster : Cluster) (w : Workload) (replicas : Int32) : Cluster :=
  match ControllerKind.of? w.kind with
  | none => cluster
  | some kind =>
    match kind.table cluster w.objKey with
    | none => cluster
    | some controller => kind.put cluster w.objKey (controller.scaled replicas)

theorem table_scaled_self {cluster : Cluster} {w : Workload} {kind : ControllerKind} {controller : Controller}
    (scalable : ControllerKind.of? w.kind = some kind)
    (present : kind.table cluster w.objKey = some controller) (replicas : Int32) :
    kind.table (cluster.scaled w replicas) w.objKey = some (controller.scaled replicas) := by
  simp [Kube.Cluster.scaled, scalable, present]

theorem table_scaled_other {w : Workload} {kind : ControllerKind} {key : ObjKey}
    (different : ¬ (ControllerKind.of? w.kind = some kind ∧ key = w.objKey)) (cluster : Cluster)
    (replicas : Int32) : kind.table (cluster.scaled w replicas) key = kind.table cluster key := by
  unfold Kube.Cluster.scaled
  cases scalable : ControllerKind.of? w.kind with
  | none => rfl
  | some other =>
    dsimp only
    cases other.table cluster w.objKey with
    | none => rfl
    | some controller =>
      exact ControllerKind.table_put_other (fun ⟨same, key⟩ => different ⟨same ▸ scalable, key⟩) _ _

theorem scale_serene {o : Oracle} (serene : o.Serene) (c : ClusterId) (w : Workload) (replicas : Int32)
    (s : World) : (scale c w replicas o s).2.clusters =
      fun other => if other = c then (s.clusters c).scaled w replicas else s.clusters other := by
  have unchanged : s.clusters = fun other => if other = c then s.clusters c else s.clusters other := by
    funext other
    split <;> simp_all
  unfold scale Kube.Cluster.scaled
  cases ControllerKind.of? w.kind with
  | none => exact unchanged
  | some kind =>
    cases present : kind.table (s.clusters c) w.objKey with
    | none => simpa [getObject_serene serene, present] using unchanged
    | some controller =>
      simp only [bind_run, getObject_serene serene, present, found_some]
      rw [updateController, send_serene serene rfl (by simp only [present, ↓reduceIte]; rfl)]
      rfl

section
variable {o : Oracle} {allowed : Event → Prop} (c : ClusterId) (w : Workload)

theorem moves_scale (fits : ∀ kind : ControllerKind, allowed (.wrote (.update c kind.resource w.objKey)))
    (replicas : Int32) : Moves o (Extends o allowed) (scale c w replicas) := by
  unfold scale
  cases ControllerKind.of? w.kind with
  | none => exact moves_pure _
  | some kind =>
    refine moves_bind (moves_getObject _ _ _ _) fun answer => ?_
    cases answer with
    | error refused => exact moves_pure _
    | ok controller =>
      refine moves_bind (moves_send (fits _)) fun answer => ?_
      cases answer <;> exact moves_pure _

theorem moves_scaledToZero : Moves o (Extends o allowed) (scaledToZero c w) := by
  unfold scaledToZero
  cases ControllerKind.of? w.kind with
  | none => exact moves_pure _
  | some kind =>
    refine moves_bind (moves_getObject _ _ _ _) fun answer => ?_
    cases answer <;> exact moves_pure _

theorem moves_listPods : Moves o (Extends o allowed) (listPods c w) := by
  refine moves_bind (moves_listObjects _ _ _ _) fun answer => ?_
  cases answer with
  | error refused => exact moves_pure _
  | ok pods =>
    refine moves_ite (fun _ => moves_bind (moves_listObjects _ _ _ _) fun answer => ?_)
      fun _ => moves_pure _
    cases answer <;> exact moves_pure _

theorem moves_firstReadyPod : Moves o (Extends o allowed) (firstReadyPod c w) := by
  refine moves_bind (moves_listPods c w) fun answer => ?_
  cases answer with
  | error text => exact moves_pure _
  | ok pods =>
    dsimp only
    cases pods.find? isPodReady with
    | some p => exact moves_pure _
    | none => exact moves_ite (fun _ => moves_pure _) fun _ => moves_pure _

theorem moves_ready : Moves o (Extends o allowed) (ready c w) := by
  unfold ready
  cases ControllerKind.of? w.kind with
  | some kind =>
    refine moves_bind (moves_getObject _ _ _ _) fun answer => ?_
    cases answer <;> exact moves_pure _
  | none =>
    refine moves_ite (fun _ => moves_bind (moves_getObject _ _ _ _) fun answer => ?_)
      fun _ => moves_bind (moves_listPods c w) fun answer => ?_
    · cases answer <;> exact moves_pure _
    · cases answer <;> exact moves_pure _

end

end Portage
