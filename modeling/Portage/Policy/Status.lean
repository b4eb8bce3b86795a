import Portage.Classify.Workload
import Portage.Go.Map

/-! Policies and their status: the inventory and the backup health that Policy
reconciles and Backup Actions write to it. -/
namespace Portage

open Go

inductive PolicyPhase where
  | unset
  | pending
  | healthy
  | degraded
  | unhealthy
  deriving DecidableEq, Repr, Inhabited

/-- One classified workload as the status lists it. -/
structure InventoryItem where
  namespace_ : String
  name : String
  kind : String
  cls : WorkloadClass
  engine : String := ""
  pvcNames : List String := []
  unclassified : Bool := false
  deriving DecidableEq, Repr

/-- Usefulness of the latest backup for one workload. An empty artifact ID means
that there is a snapshot only. -/
structure ArtifactHealth where
  workload : String
  useful : Bool
  sizeBytes : Int := 0
  artifactID : String := ""
  message : String := ""
  deriving DecidableEq, Repr

structure PolicyStatus where
  phase : PolicyPhase := .unset
  message : String := ""
  inventory : List InventoryItem := []
  artifacts : List ArtifactHealth := []
  backupHealthy : Bool := false
  replicaLag : String := ""
  observedGeneration : Int := 0
  deriving DecidableEq, Repr, Inhabited

/-- The parts of a Policy's spec that Actions read: the covered namespaces, the
movers pinned for each kind of Action and for each class, whether the object graph
is covered, and the traffic hook. -/
structure PolicySpec where
  selectorNamespaces : List String := []
  backupMover : String := ""
  replicateMover : String := ""
  restoreMover : String := ""
  moverOverrides : GoMap String String := .nil
  clusterObjects : Bool := false
  trafficHook : String := ""
  deriving DecidableEq, Repr

structure Policy where
  namespace_ : String := ""
  name : String := ""
  generation : Int := 0
  spec : PolicySpec := {}
  status : PolicyStatus := {}
  deriving DecidableEq, Repr

def InventoryItem.ofWorkload (w : Workload) : InventoryItem :=
  { namespace_ := w.namespace_, name := w.name, kind := w.kind, cls := w.cls, engine := w.engine
    pvcNames := w.pvcNames, unclassified := w.unclassified }

/-- The workload that health is judged on. -/
def InventoryItem.workload (item : InventoryItem) : Workload :=
  { namespace_ := item.namespace_, name := item.name, kind := item.kind, cls := item.cls
    engine := item.engine }

def InventoryItem.key (item : InventoryItem) : String := item.workload.key

def InventoryItem.stateful (item : InventoryItem) : Bool := item.workload.stateful

/-- Whether every stateful workload has a useful artifact, and the keys of those
that have none. -/
def healthy (inventory : List Workload) (artifacts : List ArtifactHealth) : Bool × List String :=
  let byKey := GoMap.indexBy ArtifactHealth.workload artifacts
  let missing := ((inventory.filter Workload.stateful).map Workload.key).filter fun key =>
    match byKey.find? key with
    | some a => !a.useful
    | none => true
  (missing.isEmpty, missing)

theorem useful_of_healthy {inventory : List Workload} {artifacts : List ArtifactHealth}
    (good : (healthy inventory artifacts).1 = true) {w : Workload} (member : w ∈ inventory)
    (stateful : w.stateful = true) : ∃ a ∈ artifacts, a.workload = w.key ∧ a.useful = true := by
  have absent := List.filter_eq_nil_iff.mp (List.isEmpty_iff.mp good) w.key
    (List.mem_map_of_mem (List.mem_filter.mpr ⟨member, stateful⟩))
  cases found : (GoMap.indexBy ArtifactHealth.workload artifacts).find? w.key with
  | none => simp [found] at absent
  | some a =>
    obtain ⟨listed, named⟩ := GoMap.mem_of_find?_indexBy found
    exact ⟨a, listed, named, by simpa [found] using absent⟩

/-- The object graph as a workload. -/
def synthetic (ns : String) : Workload :=
  { namespace_ := if ns = "" then "default" else ns, name := "cluster-objects"
    kind := "ObjectGraph", cls := .clusterObjects }

/-- Add the object graph to the walked inventory when the Policy covers it. -/
def withClusterObjects (pol : Policy) (inventory : List Workload) : List Workload :=
  if !pol.spec.clusterObjects then inventory
  else if inventory.any Workload.isObjectGraph then inventory
  else
    let ns := if pol.namespace_ = "" then pol.spec.selectorNamespaces.headD "" else pol.namespace_
    inventory ++ [synthetic ns]

/-- The status that a Policy reconcile computes from the copy it read. -/
def observeInventory (pol : Policy) (inventory : List Workload) : PolicyStatus :=
  let items := inventory.map InventoryItem.ofWorkload
  let stateful := inventory.countP Workload.stateful
  let unclassified := inventory.countP Workload.unclassified
  let (ok, missing) := healthy (items.map InventoryItem.workload) pol.status.artifacts
  let (phase, message) :=
    if stateful > 0 ∧ ok = false then
      (PolicyPhase.unhealthy, match missing with
        | first :: _ => "backup not useful: " ++ first
        | [] => "stateful workloads have no useful backup")
    else if unclassified > 0 then
      (.degraded, s!"{items.length} workloads ({stateful} stateful, {unclassified} unclassified)")
    else (.healthy, s!"{items.length} workloads ({stateful} stateful)")
  { pol.status with
    phase, message, inventory := items, backupHealthy := ok, observedGeneration := pol.generation }

/-- The fields that `writeStatus` of a Policy reconcile takes over; artifacts
and replica lag belong to other passes. -/
def mergeStatus (desired latest : PolicyStatus) : PolicyStatus :=
  { latest with
    phase := desired.phase, message := desired.message, inventory := desired.inventory
    backupHealthy := desired.backupHealthy, observedGeneration := desired.observedGeneration }

/-- The merge of `writePolicyArtifacts`. -/
def mergeArtifacts (inventory : List Workload) (artifacts : List ArtifactHealth)
    (latest : PolicyStatus) : PolicyStatus :=
  let (ok, missing) := healthy inventory artifacts
  let latest := { latest with artifacts, backupHealthy := ok }
  if !ok then
    { latest with
      phase := .unhealthy
      message := match missing with
        | first :: _ => "backup not useful: " ++ first
        | [] => latest.message }
  else if latest.phase = .unhealthy then
    { latest with phase := .healthy, message := "all stateful artifacts useful" }
  else latest

/-- A status that calls its backups healthy has a useful artifact for every
stateful item of its inventory. -/
def PolicyStatus.Honest (status : PolicyStatus) : Prop :=
  status.backupHealthy = true → ∀ item ∈ status.inventory, item.stateful = true →
    ∃ a ∈ status.artifacts, a.workload = item.key ∧ a.useful = true

instance (status : PolicyStatus) : Decidable status.Honest := by
  delta PolicyStatus.Honest
  infer_instance

@[simp] theorem mergeArtifacts_inventory (inventory : List Workload) (artifacts : List ArtifactHealth)
    (latest : PolicyStatus) : (mergeArtifacts inventory artifacts latest).inventory = latest.inventory := by
  unfold mergeArtifacts
  dsimp only
  repeat' split
  all_goals rfl

@[simp] theorem mergeArtifacts_artifacts (inventory : List Workload) (artifacts : List ArtifactHealth)
    (latest : PolicyStatus) : (mergeArtifacts inventory artifacts latest).artifacts = artifacts := by
  unfold mergeArtifacts
  dsimp only
  repeat' split
  all_goals rfl

@[simp] theorem mergeArtifacts_backupHealthy (inventory : List Workload)
    (artifacts : List ArtifactHealth) (latest : PolicyStatus) :
    (mergeArtifacts inventory artifacts latest).backupHealthy = (healthy inventory artifacts).1 := by
  unfold mergeArtifacts
  dsimp only
  repeat' split
  all_goals rfl

/-- Judged against the artifacts it read, a reconcile's status is honest. -/
theorem observeInventory_honest (pol : Policy) (inventory : List Workload) :
    (observeInventory pol inventory).Honest := by
  intro good item member stateful
  exact useful_of_healthy good (List.mem_map_of_mem member) stateful

/-- Merging keeps honesty when the artifacts are still those that were judged. -/
theorem mergeStatus_honest {desired latest : PolicyStatus} (honest : desired.Honest)
    (same : latest.artifacts = desired.artifacts) : (mergeStatus desired latest).Honest := by
  intro good item member stateful
  obtain ⟨a, listed, found⟩ := honest good item member stateful
  exact ⟨a, by simpa [mergeStatus, same] using listed, found⟩

/-- New artifacts keep honesty when they were judged on an inventory that has
every stateful item of the stored one. -/
theorem mergeArtifacts_honest {inventory : List Workload} {artifacts : List ArtifactHealth}
    {latest : PolicyStatus}
    (covers : ∀ item ∈ latest.inventory, item.stateful = true →
      ∃ w ∈ inventory, w.stateful = true ∧ w.key = item.key) :
    (mergeArtifacts inventory artifacts latest).Honest := by
  intro good item member stateful
  rw [mergeArtifacts_backupHealthy] at good
  rw [mergeArtifacts_inventory] at member
  obtain ⟨w, listed, durable, same⟩ := covers item member stateful
  rw [mergeArtifacts_artifacts, ← same]
  exact useful_of_healthy good listed durable

end Portage
