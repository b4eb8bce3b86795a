import Portage.Workloads.Claims
import Mathlib.Data.List.Sort

/-! Rendering the source objects of a workload and writing them to the
destination: claims first, then configuration, then workloads. -/
namespace Portage

open Go Kube Process Program

/-- A rendered object. An object whose content does not decode into its kind
keeps the decoder's text, and a kind without a typed form is `ignored`. -/
inductive Manifest where
  | claim (key : ObjKey) (claim : Claim)
  | payload (kind : PayloadKind) (key : ObjKey) (content : String)
  | controller (kind : ControllerKind) (key : ObjKey) (controller : Controller)
  | daemonSet (key : ObjKey) (daemonSet : DaemonSet)
  | ignored (kind : String) (key : ObjKey)
  | undecodable (kind : String) (key : ObjKey) (text : String)

def ControllerKind.text : ControllerKind → String
  | statefulSet => "StatefulSet"
  | deployment => "Deployment"

def Kube.PayloadKind.text : PayloadKind → String
  | configMap => "ConfigMap"
  | secret => "Secret"
  | service => "Service"

namespace Manifest

def kind : Manifest → String
  | claim .. => "PersistentVolumeClaim"
  | payload kind .. => kind.text
  | controller kind .. => kind.text
  | daemonSet .. => "DaemonSet"
  | ignored kind _ => kind
  | undecodable kind .. => kind

def key : Manifest → ObjKey
  | claim key _ | payload _ key _ | controller _ key _ | daemonSet key _ | ignored _ key
  | undecodable _ key _ => key

end Manifest

/-- The order of application; an unlisted kind has the zero value. -/
def order (kind : String) : Nat :=
  (["Namespace", "PersistentVolumeClaim", "Secret", "ConfigMap", "Service", "StatefulSet",
    "Deployment", "DaemonSet"].findIdx? (· = kind)).getD 0

/-- The claims and the controller of a workload that could be read on the source. -/
def exportClaim (c : ClusterId) (w : Workload) (out : List Manifest) (name : String) :
    Prog (List Manifest) := do
  match ← exportObject c .claims ⟨w.namespace_, name⟩ (·.claims ⟨w.namespace_, name⟩) with
  | .error _ => pure out
  | .ok claim => pure (out ++ [.claim ⟨w.namespace_, name⟩ claim])

def exportClaims (c : ClusterId) (w : Workload) : List String → Prog (List Manifest) :=
  fun names => Program.fold (exportClaim c w) names []

def exportController (c : ClusterId) (w : Workload) : Prog (List Manifest) :=
  match ControllerKind.of? w.kind with
  | some kind => do
    match ← exportObject c kind.resource w.objKey (kind.table · w.objKey) with
    | .error _ => pure []
    | .ok controller => pure [.controller kind w.objKey controller]
  | none =>
    if w.kind = "DaemonSet" then do
      match ← exportObject c .daemonSets w.objKey (·.daemonSets w.objKey) with
      | .error _ => pure []
      | .ok daemonSet => pure [.daemonSet w.objKey daemonSet]
    else pure []

def exportWorkload (c : ClusterId) (w : Workload) : Prog (List Manifest) := do
  let claims ← exportClaims c w w.pvcNames
  let controller ← exportController c w
  pure (claims ++ controller)

def Kube.Cluster.putPayload (cluster : Cluster) (kind : PayloadKind) (key : ObjKey) (content : String) :
    Cluster :=
  { cluster with payloads := fun other name =>
      if other = kind ∧ name = key then some content else cluster.payloads other name }

/-- Create, or read and update: the path that ConfigMaps, Secrets, StatefulSets
and Deployments take. -/
def createOrUpdate [DecidableEq β] (c : ClusterId) (resource : Resource) (key : ObjKey)
    (select : Cluster → Option β) (created : Cluster → Cluster) (updated : β → Cluster → Cluster) :
    Prog (Except ApiError Unit) := do
  match ← send (.create c resource key) c fun cluster =>
      match select cluster with
      | some _ => .error (alreadyExists resource key)
      | none => .ok (created cluster) with
  | .ok _ => pure (.ok ())
  | .error refused =>
    if refused.reason ≠ .alreadyExists then pure (.error refused)
    else do
      match ← getObject c resource key select with
      | .error missing => pure (.error missing)
      | .ok current =>
        send (.update c resource key) c fun cluster =>
          match select cluster with
          | none => .error (notFound resource key)
          | some now =>
            if now = current then .ok (updated current cluster)
            else .error ⟨.conflict, "the object has been modified"⟩

/-- The kinds that are decoded and applied; any other is passed over. -/
def typedKinds : List String := [
  "PersistentVolumeClaim", "ConfigMap", "Secret", "Service", "StatefulSet", "Deployment"]

def createTyped (c : ClusterId) : Manifest → Prog (Except ApiError Unit)
  | .claim key claim => do
    match ← getObject c .claims key (·.claims key) with
    | .ok _ => pure (.ok ())
    | .error refused =>
      if refused.reason ≠ .notFound then pure (.error refused) else createClaim c key claim
  | .payload .service key content =>
    send (.create c .services key) c fun cluster =>
      match cluster.payloads .service key with
      | some _ => .error (alreadyExists .services key)
      | none => .ok (cluster.putPayload .service key content)
  | .payload kind key content =>
    createOrUpdate c kind.resource key (·.payloads kind key) (·.putPayload kind key content)
      fun _ cluster => cluster.putPayload kind key content
  | .controller kind key controller =>
    createOrUpdate c kind.resource key (kind.table · key) (kind.put · key controller)
      fun current cluster =>
        kind.put cluster key { controller with readyReplicas := current.readyReplicas }
  | .daemonSet .. | .ignored .. => pure (.ok ())
  | .undecodable kind _ text =>
    if typedKinds.contains kind then pure (.error ⟨.other, text⟩) else pure (.ok ())

def typedStep (c : ClusterId) (_ : Unit) (object : Manifest) : Prog (Except String Unit) := do
  match ← createTyped c object with
  | .error refused =>
    if refused.reason = .alreadyExists then pure (.ok ())
    else pure (.error ("apply " ++ object.kind ++ "/" ++ object.key.name ++ ": " ++ refused.message))
  | .ok _ => pure (.ok ())

/-- Write the objects in order, stopping at the first that cannot be written. -/
def typed (c : ClusterId) (objects : List Manifest) : Prog (Except String Unit) :=
  Program.foldUntil (typedStep c) (objects.insertionSort fun a b => order a.kind ≤ order b.kind) ()

namespace Manifest

/-- The writes that an object may cause. -/
def Requests (c : ClusterId) : Manifest → Request → Prop
  | .claim key _, req => req = .create c .claims key
  | .payload kind key _, req => req = .create c kind.resource key ∨ req = .update c kind.resource key
  | .controller kind key _, req => req = .create c kind.resource key ∨ req = .update c kind.resource key
  | _, _ => False

/-- What a write of an object that is accepted makes of a cluster. -/
inductive Leaves : Manifest → Cluster → Cluster → Prop where
  | claim {key : ObjKey} {claim : Claim} {before : Cluster} (absent : before.claims key = none) :
      Leaves (.claim key claim) before (before.putClaim key claim)
  | payload {kind : PayloadKind} {key : ObjKey} {content : String} {before : Cluster} :
      Leaves (.payload kind key content) before (before.putPayload kind key content)
  | controller {kind : ControllerKind} {key : ObjKey} {controller stored : Controller} {before : Cluster} :
      Leaves (.controller kind key controller) before (kind.put before key stored)

end Manifest

/-! ### Walks -/

section
variable {o : Oracle} {c : ClusterId} {R : World → World → Prop}

theorem walk_createOrUpdate [DecidableEq β] {resource : Resource} {key : ObjKey} {select : Cluster → Option β}
    {created : Cluster → Cluster} {updated : β → Cluster → Cluster} (chains : Chains R)
    (reads : Moves o R (getObject c resource key select))
    (writes : ∀ req change, req = .create c resource key ∨ req = .update c resource key →
      (∀ before after, change before = .ok after → after = created before ∨ ∃ current, after = updated current before) →
      Moves o R (send req c change)) :
    Moves o R (createOrUpdate c resource key select created updated) := by
  refine .bind chains (writes _ _ (.inl rfl) fun before after changed => ?_) fun answer => ?_
  · split at changed
    · cases changed
    · cases changed
      exact .inl rfl
  · cases answer with
    | ok _ => exact .pure chains _
    | error refused =>
      dsimp only
      split
      · exact .pure chains _
      · refine .bind chains reads fun answer => ?_
        cases answer with
        | error missing => exact .pure chains _
        | ok current =>
          refine writes _ _ (.inr rfl) fun before after changed => ?_
          split at changed
          · cases changed
          · split at changed
            · cases changed
              exact .inr ⟨current, rfl⟩
            · cases changed

/-- The calls of one object: reads, and writes of its own that leave it. -/
theorem walk_createTyped (chains : Chains R) (object : Manifest)
    (reads : ∀ {β : Type} (resource : Resource) (select : Cluster → Option β),
      Moves o R (getObject c resource object.key select))
    (writes : ∀ req change, object.Requests c req →
      (∀ before after, change before = .ok after → object.Leaves before after) → Moves o R (send req c change)) :
    Moves o R (createTyped c object) := by
  cases object with
  | claim key claim =>
    refine .bind chains (reads _ _) fun answer => ?_
    cases answer with
    | ok _ => exact .pure chains _
    | error refused =>
      dsimp only
      split
      · exact .pure chains _
      · refine writes _ _ rfl fun before after changed => ?_
        split at changed
        · cases changed
        · cases changed
          exact .claim ‹_›
  | payload kind key content =>
    have whole : Moves o R (createOrUpdate c kind.resource key (·.payloads kind key)
        (·.putPayload kind key content) fun _ cluster => cluster.putPayload kind key content) := by
      refine walk_createOrUpdate chains (reads _ _) fun req change own effect =>
        writes req change own fun before after changed => ?_
      rcases effect before after changed with rfl | ⟨_, rfl⟩ <;> exact .payload
    cases kind with
    | service =>
      refine writes _ _ (.inl rfl) fun before after changed => ?_
      split at changed
      · cases changed
      · cases changed
        exact .payload
    | configMap | secret => exact whole
  | controller kind key controller =>
    refine walk_createOrUpdate chains (reads _ _) fun req change own effect =>
        writes req change own fun before after changed => ?_
    rcases effect before after changed with rfl | ⟨_, rfl⟩ <;> exact .controller
  | daemonSet | ignored => exact .pure chains _
  | undecodable kind key text =>
    rw [createTyped]
    split <;> exact .pure chains _

theorem walk_typedStep (chains : Chains R) {object : Manifest} (moves : Moves o R (createTyped c object)) :
    Moves o R (typedStep c () object) := by
  refine .bind chains moves fun answer => ?_
  cases answer with
  | ok _ => exact .pure chains _
  | error refused =>
    dsimp only
    split <;> exact .pure chains _

end

section
variable {o : Oracle} {allowed : Event → Prop}

theorem moves_exportWorkload (c : ClusterId) (w : Workload) :
    Moves o (Extends o allowed) (exportWorkload c w) := by
  refine moves_bind (Moves.fold (extends_chains o allowed) (fun out name _ =>
    moves_bind (moves_exportObject _ _ _ _) fun answer => ?_) _) fun _ => moves_bind ?_ fun _ => moves_pure _
  · cases answer <;> exact moves_pure _
  · unfold exportController
    cases ControllerKind.of? w.kind with
    | some kind =>
      refine moves_bind (moves_exportObject _ _ _ _) fun answer => ?_
      cases answer <;> exact moves_pure _
    | none =>
      refine moves_ite (fun _ => moves_bind (moves_exportObject _ _ _ _) fun answer => ?_)
        fun _ => moves_pure _
      cases answer <;> exact moves_pure _

theorem moves_createTyped (c : ClusterId) (object : Manifest)
    (fits : ∀ req, req.cluster = some c → allowed (.wrote req)) :
    Moves o (Extends o allowed) (createTyped c object) := by
  refine walk_createTyped (extends_chains o allowed) object (fun _ _ => moves_getObject _ _ _ _) fun req _ own _ =>
    moves_send (fits req ?_)
  cases object with
  | claim key claim =>
    obtain rfl := own
    rfl
  | payload | controller => rcases own with rfl | rfl <;> rfl
  | daemonSet | ignored | undecodable => exact own.elim

theorem moves_typed (c : ClusterId) (objects : List Manifest)
    (fits : ∀ req, req.cluster = some c → allowed (.wrote req)) :
    Moves o (Extends o allowed) (typed c objects) :=
  Moves.foldUntil (extends_chains o allowed) (fun _ object _ =>
    walk_typedStep (extends_chains o allowed) (moves_createTyped c object fits)) _

end

end Portage
