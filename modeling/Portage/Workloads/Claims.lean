import Portage.Workloads.Heal

/-! Claims on the destination, and the VolumeSnapshots they are restored from. -/
namespace Portage

open Go Kube Process Program

def Kube.Cluster.putClaim (cluster : Cluster) (key : ObjKey) (claim : Claim) : Cluster :=
  { cluster with claims := fun other => if other = key then some claim else cluster.claims other }

def createClaim (c : ClusterId) (key : ObjKey) (claim : Claim) : Prog (Except ApiError Unit) :=
  send (.create c .claims key) c fun cluster =>
    match cluster.claims key with
    | some _ => .error (alreadyExists .claims key)
    | none => .ok (cluster.putClaim key claim)

def updateClaim (c : ClusterId) (key : ObjKey) (before after : Claim) : Prog (Except ApiError Unit) :=
  send (.update c .claims key) c fun cluster =>
    match cluster.claims key with
    | none => .error (notFound .claims key)
    | some now =>
      if now = before then .ok (cluster.putClaim key after)
      else .error ⟨.conflict, "the object has been modified"⟩

structure RehydrateOptions where
  storageClass : String := ""
  transform : Transform.Options := {}
  defaultSize : String := ""
  deriving DecidableEq, Repr

/-- The snapshots that carry the labels of a workload. -/
def snapshotsOf (w : Workload) (cluster : Cluster) : List VolumeSnapshot :=
  cluster.snapshots.filter fun snap =>
    snap.key.namespace_ = w.namespace_ ∧ snap.workloadName = w.name ∧ snap.workloadKind = w.kind

/-- Whether some snapshot of the workload is ready to use, and its name. -/
def latestReady (dynamic : Option ClusterId) (w : Workload) : Prog (Except String (Bool × String)) :=
  match dynamic with
  | none => pure (.ok (false, ""))
  | some c => do
    match ← listObjects c .snapshots w.namespace_ (snapshotsOf w) with
    | .error refused =>
      if refused.reason = .notFound then pure (.ok (false, "")) else pure (.error refused.message)
    | .ok items =>
      match items.find? fun snap => snap.readyToUse with
      | some snap => pure (.ok (true, snap.key.name))
      | none => pure (.ok (false, (items.head?.map fun snap => snap.key.name).getD ""))

def restoreSize (dynamic : Option ClusterId) (key : ObjKey) : Prog String :=
  match dynamic with
  | none => pure ""
  | some c => do
    match ← getObject c .snapshots key fun cluster => cluster.snapshots.find? fun snap => snap.key = key with
    | .error _ => pure ""
    | .ok snap => pure snap.restoreSize

/-- The claim that restores `pvcName` from a snapshot. -/
def claimFromSnapshot (w : Workload) (pvcName snapName size : String) (opt : RehydrateOptions) : Claim :=
  let sc := if opt.storageClass = "" then opt.transform.defaultStorageClass else opt.storageClass
  let created : Claim := {
    labels := .table [("portage.io/name", w.name), ("portage.io/namespace", w.namespace_),
      ("portage.io/kind", w.kind), ("portage.io/pvc", pvcName)]
    annotations := .table [(bindPVCByName, snapName)]
    storageClassName := if sc = "" then none else some sc
    size }
  { transformPVC created opt.transform with dataSource := some snapName }

/-- Bind a dest claim by its original name: a missing claim is created from the
latest snapshot, a Bound or Pending one is left alone. -/
def ensurePVCFromSnapshot (c : ClusterId) (dynamic : Option ClusterId) (w : Workload) (pvcName : String)
    (opt : RehydrateOptions) : Prog (Except String Bool × List String) := do
  let key : ObjKey := ⟨w.namespace_, pvcName⟩
  if pvcName = "" then pure (.error "rehydrate: kube client and pvc name required", [])
  else
    match ← getObject c .claims key (·.claims key) with
    | .ok claim =>
      if claim.phase = .bound then pure (.ok true, [])
      else if claim.phase = .pending then pure (.ok false, [])
      else
        let (after, healed) := healPVC claim opt.transform
        if healed.isEmpty then pure (.ok false, [])
        else do
          match ← updateClaim c key claim after with
          | .error refused => pure (.error refused.message, healed)
          | .ok _ => pure (.ok false, healed)
    | .error refused =>
      if refused.reason ≠ .notFound then pure (.error refused.message, [])
      else do
        match ← latestReady dynamic w with
        | .error text => pure (.error text, [])
        | .ok (ready, snapName) =>
          if ready = false ∨ snapName = "" then
            pure (.error ("no ReadyToUse VolumeSnapshot for " ++ w.key ++ " pvc " ++ pvcName), [])
          else do
            let restored ← restoreSize dynamic ⟨w.namespace_, snapName⟩
            let fallback := if opt.defaultSize = "" then "10Gi" else opt.defaultSize
            let size := if restored = "" then fallback else restored
            match ← createClaim c key (claimFromSnapshot w pvcName snapName size opt) with
            | .ok _ => pure (.ok false, [bindPVCByName])
            | .error refused =>
              if refused.reason = .alreadyExists then pure (.ok false, [bindPVCByName])
              else pure (.error refused.message, [])

section
variable {o : Oracle} {allowed : Event → Prop}

theorem moves_latestReady (dynamic : Option ClusterId) (w : Workload) :
    Moves o (Extends o allowed) (latestReady dynamic w) := by
  cases dynamic with
  | none => exact moves_pure _
  | some c =>
    refine moves_bind (moves_listObjects _ _ _ _) fun answer => ?_
    cases answer with
    | error refused => exact moves_ite (fun _ => moves_pure _) fun _ => moves_pure _
    | ok items =>
      dsimp only
      split <;> exact moves_pure _

theorem moves_restoreSize (dynamic : Option ClusterId) (key : ObjKey) :
    Moves o (Extends o allowed) (restoreSize dynamic key) := by
  cases dynamic with
  | none => exact moves_pure _
  | some c =>
    refine moves_bind (moves_getObject _ _ _ _) fun answer => ?_
    cases answer <;> exact moves_pure _

theorem moves_ensurePVCFromSnapshot (c : ClusterId) (dynamic : Option ClusterId) (w : Workload)
    (pvcName : String) (opt : RehydrateOptions)
    (fits : ∀ req, req.cluster = some c → allowed (.wrote req)) :
    Moves o (Extends o allowed) (ensurePVCFromSnapshot c dynamic w pvcName opt) := by
  refine moves_ite (fun _ => moves_pure _) fun _ => moves_bind (moves_getObject _ _ _ _) fun answer => ?_
  cases answer with
  | ok claim =>
    refine moves_ite (fun _ => moves_pure _) fun _ => moves_ite (fun _ => moves_pure _) fun _ =>
      moves_ite (fun _ => moves_pure _) fun _ => moves_bind (moves_send (fits _ rfl)) fun answer => ?_
    cases answer <;> exact moves_pure _
  | error refused =>
    refine moves_ite (fun _ => moves_pure _) fun _ => moves_bind (moves_latestReady _ _) fun answer => ?_
    cases answer with
    | error text => exact moves_pure _
    | ok latest =>
      refine moves_ite (fun _ => moves_pure _) fun _ => moves_bind (moves_restoreSize _ _) fun _ =>
        moves_bind (moves_send (fits _ rfl)) fun answer => ?_
      cases answer with
      | ok _ => exact moves_pure _
      | error refused => exact moves_ite (fun _ => moves_pure _) fun _ => moves_pure _

end

end Portage
