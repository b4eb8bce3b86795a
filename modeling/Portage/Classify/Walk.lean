import Mathlib.Data.List.Sort
import Portage.Classify.Catalog
import Portage.Classify.Workload
import Portage.Kube.Objects

/-! The walk over namespaces that makes the inventory: controllers with the claims they
use, and the claims that no controller uses. -/
namespace Portage

open Go Kube

/-- Whether a claim of this name is a cache or a clone that VolSync made. -/
def scratchPVCName (name : String) : Bool :=
  if name = "" then false
  else hasPrefix name "volsync-src-" || hasPrefix name "volsync-dst-" ||
    (hasPrefix name "volsync-" && hasSuffix name "-cache")

/-- Whether a claim holds a mover's scratch data, by its label, its owner or its name. -/
def isMoverScratchPVC (name : String) (claim : Claim) : Bool :=
  claim.labels.get "app.kubernetes.io/created-by" == "volsync" ||
  (claim.owners.any fun owner => hasPrefix owner.1 "volsync.backube/" &&
    (owner.2 == "ReplicationSource" || owner.2 == "ReplicationDestination")) ||
  scratchPVCName name

/-! ### What is listed -/

/-- The parts of a pod template that the walk reads. `volumes` are the volumes in order,
with the claim of those that are backed by one. -/
structure WalkedTemplate where
  initImages : List String := []
  images : List String := []
  volumes : List (Option String) := []
  fsGroup : Option Int := none
  runAsUser : Option Int := none
  containerUsers : List (Option Int) := []
  deriving DecidableEq, Repr

/-- A listed StatefulSet; `claimTemplates` are the names of its claim templates. -/
structure WalkedStatefulSet where
  name : String
  template : WalkedTemplate := {}
  replicas : Option Int32 := none
  claimTemplates : List String := []
  deriving DecidableEq

/-- A listed Deployment; the walk does not look at its replicas. -/
structure WalkedDeployment where
  name : String
  template : WalkedTemplate := {}
  replicas : Option Int32 := none
  deriving DecidableEq

structure WalkedDaemonSet where
  name : String
  template : WalkedTemplate := {}
  deriving DecidableEq, Repr

structure WalkedClaim where
  name : String
  claim : Claim := {}
  deriving DecidableEq, Repr

/-- How the API server answers the lists of a walk, by namespace. -/
structure Listing where
  statefulSets : String → Except String (List WalkedStatefulSet) := fun _ => .ok []
  deployments : String → Except String (List WalkedDeployment) := fun _ => .ok []
  daemonSets : String → Except String (List WalkedDaemonSet) := fun _ => .ok []
  claims : String → Except String (List WalkedClaim) := fun _ => .ok []

/-! ### Claims of a template -/

/-- Add a name unless it is there. -/
def addName (names : List String) (name : String) : List String :=
  if names.contains name then names else names ++ [name]

def podPVCs (template : WalkedTemplate) : List String := (template.volumes.filterMap id).foldl addName []

/-- The replicas that the walk counts; absent, zero and negative numbers count as one. -/
def WalkedStatefulSet.counted (sts : WalkedStatefulSet) : Nat :=
  match sts.replicas with
  | some replicas => if 0 < replicas then replicas.toInt.toNat else 1
  | none => 1

/-- The claim that the pod with an ordinal gets from a claim template. -/
def WalkedStatefulSet.realized (sts : WalkedStatefulSet) (template : String) (ordinal : Nat) : String :=
  template ++ "-" ++ sts.name ++ "-" ++ itoa ordinal

/-- The claims of a StatefulSet: those of its volumes, then one for each claim template
and ordinal. -/
def stsPVCs (sts : WalkedStatefulSet) : List String :=
  let claims := sts.claimTemplates.flatMap fun template => (List.range sts.counted).map (sts.realized template)
  claims.foldl addName (podPVCs sts.template)

/-! ### The walk -/

def WalkedTemplate.allImages (template : WalkedTemplate) : List String := template.initImages ++ template.images

def matchImages (images : List String) : Option Engine := images.findSome? matchImage

def fromPodOwner (ns kind name : String) (template : WalkedTemplate) (pvcs : List String) : Workload :=
  let engine := matchImages template.allImages
  { namespace_ := ns, name, kind, pvcNames := pvcs
    fsGroup := template.fsGroup
    runAsUser := template.runAsUser.or (template.containerUsers.findSome? id)
    engine := (engine.map Engine.name).getD ""
    cls := match engine with
      | some engine => engine.cls
      | none => if pvcs = [] then .stateless else .genericPVC }

/-- A claim that no controller uses. -/
def leftoverClaim (ns name : String) : Workload :=
  { namespace_ := ns, name, kind := "PersistentVolumeClaim", cls := .unknownStateful, pvcNames := [name]
    unclassified := true }

/-- The workloads so far, and the claims that they use as `namespace/claim`. -/
structure Walked where
  workloads : List Workload := []
  claimed : List String := []
  deriving DecidableEq

/-- Add a controller and mark its claims. -/
def Walked.add (seen : Walked) (w : Workload) : Walked where
  workloads := seen.workloads ++ [w]
  claimed := seen.claimed ++ w.pvcNames.map fun pvc => w.namespace_ ++ "/" ++ pvc

def Walked.addLeftover (ns : String) (seen : Walked) (item : WalkedClaim) : Walked :=
  if seen.claimed.contains (ns ++ "/" ++ item.name) then seen
  else if isMoverScratchPVC item.name item.claim then seen
  else { seen with workloads := seen.workloads ++ [leftoverClaim ns item.name] }

/-- The controllers of a namespace as workloads, in the order they are listed. -/
def walkedControllers (ns : String) (sts : List WalkedStatefulSet) (deployments : List WalkedDeployment)
    (daemonSets : List WalkedDaemonSet) : List Workload :=
  sts.map (fun item => fromPodOwner ns "StatefulSet" item.name item.template (stsPVCs item)) ++
    deployments.map (fun item => fromPodOwner ns "Deployment" item.name item.template (podPVCs item.template)) ++
    daemonSets.map fun item => fromPodOwner ns "DaemonSet" item.name item.template (podPVCs item.template)

/-- Say which list failed. -/
def listing (what ns : String) (answer : Except String α) : Except String α :=
  answer.mapError fun text => "list " ++ what ++ " in " ++ ns ++ ": " ++ text

def walkNamespace (api : Listing) (seen : Walked) (ns : String) : Except String Walked := do
  let sts ← listing "StatefulSets" ns (api.statefulSets ns)
  let deployments ← listing "Deployments" ns (api.deployments ns)
  let daemonSets ← listing "DaemonSets" ns (api.daemonSets ns)
  let claims ← listing "PVCs" ns (api.claims ns)
  pure (claims.foldl (Walked.addLeftover ns) ((walkedControllers ns sts deployments daemonSets).foldl Walked.add seen))

/-- The order of the inventory: by namespace, then kind, then name. Go leaves open how
workloads that agree in all three are ordered. -/
def Workload.before (a b : Workload) : Bool :=
  if a.namespace_ ≠ b.namespace_ then a.namespace_ < b.namespace_
  else if a.kind ≠ b.kind then a.kind < b.kind
  else a.name ≤ b.name

/-- Inventory the controllers of some namespaces and the claims that none of them uses. -/
def walk (api : Listing) (namespaces : List String) : Except String (List Workload) := do
  let seen ← namespaces.foldlM (walkNamespace api) {}
  pure (seen.workloads.insertionSort fun a b => a.before b)

/-! ### Where the workloads come from -/

/-- The names that a namespace lists. -/
inductive Listing.Names (api : Listing) (ns : String) : String → Prop where
  | statefulSet {items : List WalkedStatefulSet} {item : WalkedStatefulSet} (listed : api.statefulSets ns = .ok items)
      (member : item ∈ items) : Names api ns item.name
  | deployment {items : List WalkedDeployment} {item : WalkedDeployment} (listed : api.deployments ns = .ok items)
      (member : item ∈ items) : Names api ns item.name
  | daemonSet {items : List WalkedDaemonSet} {item : WalkedDaemonSet} (listed : api.daemonSets ns = .ok items)
      (member : item ∈ items) : Names api ns item.name
  | claim {items : List WalkedClaim} {item : WalkedClaim} (listed : api.claims ns = .ok items)
      (member : item ∈ items) : Names api ns item.name

theorem Walked.add_workloads (controllers : List Workload) (seen : Walked) :
    (controllers.foldl Walked.add seen).workloads = seen.workloads ++ controllers := by
  induction controllers generalizing seen with
  | nil => simp
  | cons w rest ih => simp [ih, Walked.add]

theorem Walked.mem_addLeftover {ns : String} {items : List WalkedClaim} {seen : Walked} {w : Workload}
    (member : w ∈ (items.foldl (Walked.addLeftover ns) seen).workloads) :
    w ∈ seen.workloads ∨ ∃ item ∈ items, w = leftoverClaim ns item.name := by
  induction items generalizing seen with
  | nil => exact .inl member
  | cons item rest ih =>
    rcases ih member with earlier | ⟨other, listed, same⟩
    · unfold Walked.addLeftover at earlier
      split at earlier
      · exact .inl earlier
      · split at earlier
        · exact .inl earlier
        · rcases List.mem_append.mp earlier with before | last
          · exact .inl before
          · exact .inr ⟨item, by simp, List.mem_singleton.mp last⟩
    · exact .inr ⟨other, by simp [listed], same⟩

theorem listing_ok {what ns : String} {answer : Except String α} {value : α}
    (done : listing what ns answer = .ok value) : answer = .ok value := by
  cases answer with
  | error text => cases done
  | ok found => exact done

/-- A walk over one namespace adds workloads of that namespace, under listed names. -/
theorem walkNamespace_mem {api : Listing} {seen next : Walked} {ns : String}
    (done : walkNamespace api seen ns = .ok next) {w : Workload} (member : w ∈ next.workloads) :
    w ∈ seen.workloads ∨ (w.namespace_ = ns ∧ api.Names ns w.name) := by
  simp only [walkNamespace, bind, Except.bind] at done
  split at done
  · cases done
  · rename_i sts listedSts
    split at done
    · cases done
    · rename_i deployments listedDeployments
      split at done
      · cases done
      · rename_i daemonSets listedDaemonSets
        split at done
        · cases done
        · rename_i claims listedClaims
          cases done
          rcases Walked.mem_addLeftover member with earlier | ⟨item, listed, rfl⟩
          · rw [Walked.add_workloads, walkedControllers] at earlier
            simp only [List.mem_append, List.mem_map] at earlier
            rcases earlier with before | (⟨item, listed, rfl⟩ | ⟨item, listed, rfl⟩) | ⟨item, listed, rfl⟩
            · exact .inl before
            · exact .inr ⟨rfl, .statefulSet (listing_ok listedSts) listed⟩
            · exact .inr ⟨rfl, .deployment (listing_ok listedDeployments) listed⟩
            · exact .inr ⟨rfl, .daemonSet (listing_ok listedDaemonSets) listed⟩
          · exact .inr ⟨rfl, .claim (listing_ok listedClaims) listed⟩

/-- Every workload of the inventory is of a walked namespace, under a listed name. -/
theorem walk_mem {api : Listing} {namespaces : List String} {inventory : List Workload}
    (walked : walk api namespaces = .ok inventory) {w : Workload} (member : w ∈ inventory) :
    w.namespace_ ∈ namespaces ∧ api.Names w.namespace_ w.name := by
  have run : ∀ {seen final : Walked}, namespaces.foldlM (walkNamespace api) seen = .ok final →
      ∀ w ∈ final.workloads, w ∈ seen.workloads ∨ (w.namespace_ ∈ namespaces ∧ api.Names w.namespace_ w.name) := by
    clear walked
    induction namespaces with
    | nil =>
      intro seen final done w member
      cases done
      exact .inl member
    | cons ns rest ih =>
      intro seen final done w member
      simp only [List.foldlM_cons, bind, Except.bind] at done
      split at done
      · cases done
      · rename_i next step
        rcases ih done w member with earlier | ⟨inside, named⟩
        · rcases walkNamespace_mem step earlier with before | ⟨rfl, named⟩
          · exact .inl before
          · exact .inr ⟨by simp, named⟩
        · exact .inr ⟨by simp [inside], named⟩
  simp only [walk, bind, Except.bind] at walked
  split at walked
  · cases walked
  · rename_i final done
    cases walked
    rw [List.mem_insertionSort] at member
    exact (run done w member).resolve_left (by simp)

end Portage
