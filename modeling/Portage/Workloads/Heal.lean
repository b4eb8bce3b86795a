import Portage.Transform.Sanitize
import Portage.Workloads.Scale

/-! Bounded, named fixes that let restored workloads schedule. -/
namespace Portage

open Go Kube Process Program
open Transform (mapSC dropsAnn dropLabelKeys)

def stripSelectedNode : String := "strip-selected-node"

def remapStorageClass : String := "remap-storageclass"

def stripNodeAffinity : String := "strip-node-affinity"

def stripZoneLabels : String := "strip-zone-labels"

def bindPVCByName : String := "bind-pvc-by-name"

def stripRootFSGroup : String := "strip-root-fsgroup"

/-- Drop the given keys of a map; an empty result is a nil map. -/
def filterKeys (drop : String → Bool) : GoMap String String → GoMap String String
  | .nil => .nil
  | .table entries =>
    match entries.filter fun entry => !drop entry.1 with
    | [] => .nil
    | kept => .table kept

private theorem lookup_filter_keys (drop : String → Bool) (key : String) (entries : List (String × String)) :
    (entries.filter fun entry => !drop entry.1).lookup key = if drop key then none else entries.lookup key := by
  induction entries with
  | nil => simp
  | cons entry rest ih =>
    obtain ⟨name, value⟩ := entry
    by_cases here : key = name
    · subst here
      cases dropped : drop key with
      | true => simpa [dropped] using ih
      | false => simp [dropped]
    · have other : (key == name) = false := by simpa using here
      cases dropped : drop name <;> simp [dropped, List.lookup_cons, other, ih]

/-- A key that is dropped is not found, and any other is found as before. -/
theorem find?_filterKeys (drop : String → Bool) (m : GoMap String String) (key : String) :
    (filterKeys drop m).find? key = if drop key then none else m.find? key := by
  cases m with
  | nil => simp [filterKeys, GoMap.find?]
  | table entries =>
    have listed : (filterKeys drop (.table entries)).find? key =
        (entries.filter fun entry => !drop entry.1).lookup key := by
      simp only [filterKeys]
      cases entries.filter fun entry => !drop entry.1 <;> rfl
    rw [listed, lookup_filter_keys]
    rfl

def filterAnns : GoMap String String → GoMap String String := filterKeys dropsAnn

def filterLabels : GoMap String String → GoMap String String := filterKeys dropLabelKeys.contains

/-- `transform.PVC`. -/
def transformPVC (claim : Claim) (opt : Transform.Options) : Claim :=
  { claim with
    annotations := filterAnns claim.annotations
    labels := filterLabels claim.labels
    volumeName := ""
    storageClassName := match claim.storageClassName with
      | some source => some (mapSC source opt)
      | none => if opt.defaultStorageClass ≠ "" then some opt.defaultStorageClass else none
    dataSource := none
    phase := .other
    owners := [] }

/-- Strip cluster-local pins of a claim and remap its storage class; the names
say which fixes were applied. -/
def healPVC (claim : Claim) (opt : Transform.Options) : Claim × List String :=
  let pinned := if (claim.annotations.find? "volume.kubernetes.io/selected-node").isSome then
    [stripSelectedNode] else []
  let zoned := if (claim.labels.find? "topology.kubernetes.io/zone").isSome then
    [stripZoneLabels] else []
  if claim.phase = .bound then
    ({ claim with
        annotations := filterKeys (· == "volume.kubernetes.io/selected-node") claim.annotations
        labels := filterKeys (· == "topology.kubernetes.io/zone") claim.labels },
      (pinned ++ zoned).eraseDups)
  else
    let after := { transformPVC claim opt with phase := claim.phase }
    let old := claim.storageClassName.getD ""
    let remapped := match after.storageClassName with
      | some now => if now ≠ old ∧ old ≠ "" then [remapStorageClass] else []
      | none => []
    (after, (pinned ++ zoned ++ remapped).eraseDups)

def postgresImage (image : String) : Bool := (matchImage image).any fun e => e.name = "postgres"

def clusterLocalTol (key : String) : Bool :=
  ["sandbox.gke.io/runtime", "nvidia.com/gpu", "kubernetes.io/hostname"].contains key

/-- Drop the pins that keep dest pods Pending, and an `fsGroup` that rewrites
restored file modes. -/
def healPodSpec (spec : PodSpec) : PodSpec × List String :=
  let selector := if spec.nodeSelector.isEmpty then [] else [stripNodeAffinity]
  let node := if spec.nodeName = "" then [] else [stripNodeAffinity]
  let affinity := if spec.nodeAffinity.isSome then [stripNodeAffinity] else []
  let tolerations := spec.tolerations.filter fun t => !clusterLocalTol t.key
  let dropped := if tolerations.length < spec.tolerations.length then [stripNodeAffinity] else []
  let rewrites := match spec.fsGroup with
    | none => false
    | some group => group == 0 || (spec.initImages ++ spec.images).any postgresImage
  ({ spec with
      nodeSelector := [], nodeName := "", nodeAffinity := none, topologySpreadConstraints := []
      tolerations, fsGroup := if rewrites then none else spec.fsGroup },
    (selector ++ node ++ affinity ++ dropped ++ if rewrites then [stripRootFSGroup] else []).eraseDups)

/-- Heal the pod template of a workload on the destination and report the fixes. -/
def healWorkloadOn (c : ClusterId) (w : Workload) : Prog (List String) :=
  match ControllerKind.of? w.kind with
  | none => pure []
  | some kind => do
    match ← getObject c kind.resource w.objKey (kind.table · w.objKey) with
    | .error _ => pure []
    | .ok controller =>
      let (template, names) := healPodSpec controller.template
      if names.isEmpty then pure []
      else do
        let _ ← updateController c kind w.objKey controller { controller with template }
        pure names

theorem moves_healWorkloadOn {o : Oracle} {allowed : Event → Prop} (c : ClusterId) (w : Workload)
    (fits : ∀ req, req.cluster = some c → allowed (.wrote req)) :
    Moves o (Extends o allowed) (healWorkloadOn c w) := by
  unfold healWorkloadOn
  cases ControllerKind.of? w.kind with
  | none => exact moves_pure _
  | some kind =>
    refine moves_bind (moves_getObject _ _ _ _) fun answer => ?_
    cases answer with
    | error refused => exact moves_pure _
    | ok controller =>
      exact moves_ite (fun _ => moves_pure _) fun _ =>
        moves_bind (moves_send (fits _ rfl)) fun _ => moves_pure _

end Portage
