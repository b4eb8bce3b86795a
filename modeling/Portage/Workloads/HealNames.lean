import Portage.Workloads.Heal

/-! Whether the names that healing reports tell that something was fixed. -/
namespace Portage

open Go Kube
open Transform (mapSC dropsAnn dropLabelKeys)

/-- A map with nil for an empty one. -/
def Go.GoMap.normal {κ ν : Type} : GoMap κ ν → GoMap κ ν
  | .table [] => .nil
  | m => m

/-- Whether a map has one of the given keys. -/
def hasKey (wanted : String → Bool) : GoMap String String → Bool
  | .nil => false
  | .table entries => entries.any fun entry => wanted entry.1

theorem normal_filterKeys (drop : String → Bool) (m : GoMap String String) :
    (filterKeys drop m).normal = m.normal ↔ hasKey drop m = false := by
  cases m with
  | nil => simp [filterKeys, hasKey]
  | table entries =>
    have filtered : (filterKeys drop (.table entries)).normal =
        (GoMap.table (entries.filter fun entry => !drop entry.1)).normal := by
      simp only [filterKeys]
      cases entries.filter fun entry => !drop entry.1 <;> rfl
    have table_inj {first second : List (String × String)} :
        (GoMap.table first).normal = (GoMap.table second).normal ↔ first = second := by
      cases first <;> cases second <;> simp [GoMap.normal]
    rw [filtered, table_inj, List.filter_eq_self]
    simp [hasKey]

theorem isSome_find?_iff (m : GoMap String String) (key : String) :
    (m.find? key).isSome = true ↔ hasKey (· == key) m = true := by
  cases m with
  | nil => simp [hasKey]
  | table entries =>
    induction entries with
    | nil => simp [GoMap.find?, hasKey]
    | cons entry rest ih =>
      obtain ⟨name, value⟩ := entry
      simp only [GoMap.find?, hasKey] at ih
      by_cases here : key = name
      · simp [GoMap.find?, hasKey, here]
      · have other : (key == name) = false := by simpa using here
        have other' : (name == key) = false := by simpa using Ne.symm here
        simp [GoMap.find?, hasKey, List.lookup_cons, other, other', ih]

theorem hasKey_mono {wanted wider : String → Bool} (implies : ∀ key, wanted key = true → wider key = true)
    {m : GoMap String String} (has : hasKey wanted m = true) : hasKey wider m = true := by
  cases m with
  | nil => simp [hasKey] at has
  | table entries =>
    obtain ⟨entry, member, named⟩ := List.any_eq_true.mp has
    exact List.any_eq_true.mpr ⟨entry, member, implies _ named⟩

theorem hasKey_filterKeys {wanted drop : String → Bool} (implies : ∀ key, wanted key = true → drop key = true)
    (m : GoMap String String) : hasKey wanted (filterKeys drop m) = false := by
  cases m with
  | nil => rfl
  | table entries =>
    have filtered : hasKey wanted (filterKeys drop (.table entries)) =
        hasKey wanted (.table (entries.filter fun entry => !drop entry.1)) := by
      simp only [filterKeys]
      cases entries.filter fun entry => !drop entry.1 <;> rfl
    rw [filtered]
    refine List.any_eq_false.mpr fun entry member named => ?_
    have kept := (List.mem_filter.mp member).2
    simp [implies _ named] at kept

/-! ### What it means to name the fixes -/

/-- No name is reported exactly if the object is the same, and none is reported of what was
healed. -/
structure NamesFixes {α : Type} (same : α → α → Prop) (heal : α → α × List String) (x : α) : Prop where
  named : (heal x).2 = [] ↔ same (heal x).1 x
  settled : (heal (heal x).1).2 = []

/-! ### Pod specs -/

/-- Nothing in a pod spec has a fix with a name. -/
structure Kube.PodSpec.Unpinned (spec : PodSpec) : Prop where
  selector : spec.nodeSelector = []
  node : spec.nodeName = ""
  affinity : spec.nodeAffinity = none
  tolerations : ∀ t ∈ spec.tolerations, clusterLocalTol t.key = false
  group : ∀ group, spec.fsGroup = some group →
    group ≠ 0 ∧ ∀ image ∈ spec.initImages ++ spec.images, postgresImage image = false

private theorem eraseDups_eq_nil {names : List String} : names.eraseDups = [] ↔ names = [] := by
  cases names <;> simp [List.eraseDups_cons]

/-- Whether the group of the volumes is taken away. -/
def stripsVolumeFSGroup (spec : PodSpec) : Bool :=
  match spec.fsGroup with
  | none => false
  | some group => group == 0 || (spec.initImages ++ spec.images).any postgresImage

private theorem stripsVolumeFSGroup_false (spec : PodSpec) : stripsVolumeFSGroup spec = false ↔
    ∀ group, spec.fsGroup = some group →
      group ≠ 0 ∧ ∀ image ∈ spec.initImages ++ spec.images, postgresImage image = false := by
  unfold stripsVolumeFSGroup
  cases spec.fsGroup with
  | none => simp
  | some group =>
    rw [Bool.or_eq_false_iff, List.any_eq_false]
    simp

/-- The names of the fixes, one list for each part of the spec. -/
private theorem healPodSpec_names_eq (spec : PodSpec) : (healPodSpec spec).2 =
    ((if spec.nodeSelector.isEmpty then [] else [stripNodeAffinity]) ++
      (if spec.nodeName = "" then [] else [stripNodeAffinity]) ++
      (if spec.nodeAffinity.isSome then [stripNodeAffinity] else []) ++
      (if (spec.tolerations.filter fun t => !clusterLocalTol t.key).length < spec.tolerations.length then
        [stripNodeAffinity] else []) ++
      if stripsVolumeFSGroup spec then [stripRootFSGroup] else []).eraseDups := rfl

private theorem healPodSpec_spec_eq (spec : PodSpec) : (healPodSpec spec).1 = { spec with
    nodeSelector := [], nodeName := "", nodeAffinity := none, topologySpreadConstraints := []
    tolerations := spec.tolerations.filter fun t => !clusterLocalTol t.key
    fsGroup := if stripsVolumeFSGroup spec then none else spec.fsGroup } := rfl

private theorem filter_local_iff (spec : PodSpec) :
    ¬ (spec.tolerations.filter fun t => !clusterLocalTol t.key).length < spec.tolerations.length ↔
      ∀ t ∈ spec.tolerations, clusterLocalTol t.key = false := by
  rw [List.length_filter_lt_length_iff_exists]
  simp

theorem healPodSpec_names (spec : PodSpec) : (healPodSpec spec).2 = [] ↔ spec.Unpinned := by
  rw [healPodSpec_names_eq, eraseDups_eq_nil]
  simp only [List.append_eq_nil_iff, ite_eq_left_iff, ite_eq_right_iff, List.cons_ne_nil, imp_false, not_not,
    List.isEmpty_iff, Option.isSome_iff_ne_none, filter_local_iff, Bool.not_eq_true, stripsVolumeFSGroup_false]
  constructor
  · rintro ⟨⟨⟨⟨selector, node⟩, affinity⟩, tolerations⟩, group⟩
    exact ⟨selector, node, affinity, tolerations, group⟩
  · rintro ⟨selector, node, affinity, tolerations, group⟩
    exact ⟨⟨⟨⟨selector, node⟩, affinity⟩, tolerations⟩, group⟩

theorem healPodSpec_same (spec : PodSpec) :
    (healPodSpec spec).1 = spec ↔ spec.Unpinned ∧ spec.topologySpreadConstraints = [] := by
  rw [healPodSpec_spec_eq]
  constructor
  · intro same
    have group := congrArg PodSpec.fsGroup same
    refine ⟨⟨(congrArg PodSpec.nodeSelector same).symm, (congrArg PodSpec.nodeName same).symm,
      (congrArg PodSpec.nodeAffinity same).symm, ?_, (stripsVolumeFSGroup_false spec).mp ?_⟩,
      (congrArg PodSpec.topologySpreadConstraints same).symm⟩
    · simpa using List.filter_eq_self.mp (congrArg PodSpec.tolerations same)
    · cases strips : stripsVolumeFSGroup spec with
      | false => rfl
      | true =>
        have absent : none = spec.fsGroup := by simpa [strips] using group
        simp [stripsVolumeFSGroup, ← absent] at strips
  · rintro ⟨unpinned, spread⟩
    have strips := (stripsVolumeFSGroup_false spec).mpr unpinned.group
    have tolerations : (spec.tolerations.filter fun t => !clusterLocalTol t.key) = spec.tolerations :=
      List.filter_eq_self.mpr (by simpa using unpinned.tolerations)
    rw [tolerations, strips]
    obtain ⟨selector, node, affinity, _, _⟩ := unpinned
    cases spec
    simp_all

theorem healPodSpec_unpinned (spec : PodSpec) : (healPodSpec spec).1.Unpinned := by
  rw [healPodSpec_spec_eq]
  refine ⟨rfl, rfl, rfl, fun t member => ?_, fun group there => ?_⟩
  · simpa using (List.mem_filter.mp member).2
  · cases strips : stripsVolumeFSGroup spec with
    | true => simp [strips] at there
    | false => exact (stripsVolumeFSGroup_false spec).mp strips group (by simpa [strips] using there)

/-- The names tell of every fix of a pod spec exactly if no spread constraint is dropped
without another fix. -/
theorem namesFixes_podSpec_iff (spec : PodSpec) :
    NamesFixes (· = ·) healPodSpec spec ↔ spec.Unpinned → spec.topologySpreadConstraints = [] := by
  constructor
  · intro names unpinned
    exact ((healPodSpec_same spec).mp (names.named.mp ((healPodSpec_names spec).mpr unpinned))).2
  · intro spread
    refine ⟨?_, (healPodSpec_names _).mpr (healPodSpec_unpinned spec)⟩
    rw [healPodSpec_names, healPodSpec_same]
    exact ⟨fun unpinned => ⟨unpinned, spread unpinned⟩, And.left⟩

/-! ### Claims -/

/-- A claim with what else of its object the sanitizer clears: what the server keeps about
it, the labels its selector matches, and the status apart from the phase. -/
structure ClaimObject where
  claim : Claim
  uid : String := ""
  resourceVersion : String := ""
  generation : Int := 0
  managedFields : List String := []
  selector : Option (GoMap String String) := none
  dataSourceRef : Option String := none
  status : List String := []
  deriving DecidableEq, Repr

namespace ClaimObject

/-- `heal.PVC`. A Bound claim keeps its spec, and any other is sanitized but for its phase. -/
def heal (opt : Transform.Options) (obj : ClaimObject) : ClaimObject × List String :=
  if obj.claim.phase = .bound then ({ obj with claim := (healPVC obj.claim opt).1 }, (healPVC obj.claim opt).2)
  else ({ claim := (healPVC obj.claim opt).1, selector := obj.selector.map filterLabels }, (healPVC obj.claim opt).2)

/-- The object with nil for every empty map. -/
def normal (obj : ClaimObject) : ClaimObject :=
  { obj with
    claim := { obj.claim with annotations := obj.claim.annotations.normal, labels := obj.claim.labels.normal }
    selector := obj.selector.map GoMap.normal }

def SameUpToNil (first second : ClaimObject) : Prop := first.normal = second.normal

instance (first second : ClaimObject) : Decidable (first.SameUpToNil second) :=
  inferInstanceAs (Decidable (first.normal = second.normal))

end ClaimObject

/-- The class that sanitizing gives a claim. -/
def Kube.Claim.mappedClass (claim : Claim) (opt : Transform.Options) : Option String :=
  match claim.storageClassName with
  | some source => some (mapSC source opt)
  | none => if opt.defaultStorageClass ≠ "" then some opt.defaultStorageClass else none

/-- No fix of the claim has a name. -/
structure Kube.Claim.Unnamed (claim : Claim) (opt : Transform.Options) : Prop where
  node : hasKey (· == "volume.kubernetes.io/selected-node") claim.annotations = false
  zone : hasKey (· == "topology.kubernetes.io/zone") claim.labels = false
  class_ : claim.phase ≠ .bound → ∀ source, claim.storageClassName = some source → source ≠ "" → mapSC source opt = source

section
variable (claim : Claim) (opt : Transform.Options)

/-- The names of a claim's fixes; the class is remapped unless the claim is Bound. -/
private theorem healPVC_names_eq : (healPVC claim opt).2 =
    ((if (claim.annotations.find? "volume.kubernetes.io/selected-node").isSome then [stripSelectedNode] else []) ++
      (if (claim.labels.find? "topology.kubernetes.io/zone").isSome then [stripZoneLabels] else []) ++
      if claim.phase ≠ .bound ∧ claim.storageClassName.getD "" ≠ "" ∧
        mapSC (claim.storageClassName.getD "") opt ≠ claim.storageClassName.getD "" then
        [remapStorageClass] else []).eraseDups := by
  unfold healPVC
  by_cases bound : claim.phase = .bound
  · simp [bound]
  · cases storage : claim.storageClassName with
    | none => by_cases unset : opt.defaultStorageClass = "" <;> simp [bound, transformPVC, storage, unset]
    | some source => simp [bound, transformPVC, storage, and_comm]

theorem healPVC_names : (healPVC claim opt).2 = [] ↔ claim.Unnamed opt := by
  rw [healPVC_names_eq, eraseDups_eq_nil]
  simp only [List.append_eq_nil_iff, ite_eq_right_iff, List.cons_ne_nil, imp_false, Bool.not_eq_true,
    isSome_find?_iff]
  constructor
  · rintro ⟨⟨node, zone⟩, remaps⟩
    refine ⟨by simpa using node, by simpa using zone, fun unbound source storage named => ?_⟩
    by_contra changed
    exact remaps ⟨unbound, by simpa [storage] using named, by simpa [storage] using changed⟩
  · rintro ⟨node, zone, kept⟩
    refine ⟨⟨by simpa using node, by simpa using zone⟩, ?_⟩
    rintro ⟨unbound, named, changed⟩
    cases storage : claim.storageClassName with
    | none => simp [storage] at named
    | some source =>
      rw [storage, Option.getD_some] at named changed
      exact changed (kept unbound source storage named)

end

/-- Nothing of the object is changed by sanitizing it. -/
structure ClaimObject.Clean (opt : Transform.Options) (obj : ClaimObject) : Prop where
  annotations : hasKey dropsAnn obj.claim.annotations = false
  labels : hasKey dropLabelKeys.contains obj.claim.labels = false
  class_ : obj.claim.mappedClass opt = obj.claim.storageClassName
  volume : obj.claim.volumeName = ""
  source : obj.claim.dataSource = none
  owners : obj.claim.owners = []
  uid : obj.uid = ""
  version : obj.resourceVersion = ""
  generation : obj.generation = 0
  managed : obj.managedFields = []
  selector : ∀ labels, obj.selector = some labels → hasKey dropLabelKeys.contains labels = false
  sourceRef : obj.dataSourceRef = none
  status : obj.status = []

namespace ClaimObject

variable (opt : Transform.Options) (obj : ClaimObject)

theorem heal_names : (obj.heal opt).2 = (healPVC obj.claim opt).2 := by
  unfold heal
  split <;> rfl

theorem heal_same_bound (bound : obj.claim.phase = .bound) :
    (obj.heal opt).1.SameUpToNil obj ↔ obj.claim.Unnamed opt := by
  have healed : (obj.heal opt).1 = { obj with claim := { obj.claim with
      annotations := filterKeys (· == "volume.kubernetes.io/selected-node") obj.claim.annotations
      labels := filterKeys (· == "topology.kubernetes.io/zone") obj.claim.labels } } := by
    simp [heal, healPVC, bound]
  rw [healed]
  constructor
  · intro same
    exact ⟨(normal_filterKeys _ _).mp (congrArg (fun obj => obj.claim.annotations) same),
      (normal_filterKeys _ _).mp (congrArg (fun obj => obj.claim.labels) same), fun unbound => absurd bound unbound⟩
  · intro unnamed
    unfold SameUpToNil normal
    simp only [(normal_filterKeys _ _).mpr unnamed.node, (normal_filterKeys _ _).mpr unnamed.zone]

private theorem map_normal_filterLabels {selector : Option (GoMap String String)} :
    (selector.map filterLabels).map GoMap.normal = selector.map GoMap.normal ↔
      ∀ labels, selector = some labels → hasKey dropLabelKeys.contains labels = false := by
  cases selector with
  | none => simp
  | some labels =>
    simp only [Option.map_some, Option.some.injEq, forall_eq']
    exact normal_filterKeys dropLabelKeys.contains labels

theorem heal_same_unbound (unbound : obj.claim.phase ≠ .bound) : (obj.heal opt).1.SameUpToNil obj ↔ obj.Clean opt := by
  have healed : (obj.heal opt).1 = { selector := obj.selector.map filterLabels, claim := { obj.claim with
      annotations := filterKeys dropsAnn obj.claim.annotations
      labels := filterKeys dropLabelKeys.contains obj.claim.labels
      volumeName := "", storageClassName := obj.claim.mappedClass opt, dataSource := none, owners := [] } } := by
    simp only [heal, unbound, ↓reduceIte, healPVC]
    rfl
  rw [healed]
  constructor
  · intro same
    have field {β : Type} (read : ClaimObject → β) := congrArg read same
    exact {
      annotations := (normal_filterKeys _ _).mp (field (·.claim.annotations))
      labels := (normal_filterKeys _ _).mp (field (·.claim.labels))
      class_ := field (·.claim.storageClassName)
      volume := (field (·.claim.volumeName)).symm
      source := (field (·.claim.dataSource)).symm
      owners := (field (·.claim.owners)).symm
      uid := (field (·.uid)).symm
      version := (field (·.resourceVersion)).symm
      generation := (field (·.generation)).symm
      managed := (field (·.managedFields)).symm
      selector := map_normal_filterLabels.mp (field (·.selector))
      sourceRef := (field (·.dataSourceRef)).symm
      status := (field (·.status)).symm }
  · intro clean
    unfold SameUpToNil normal
    simp only [(normal_filterKeys _ _).mpr clean.annotations, (normal_filterKeys _ _).mpr clean.labels, clean.class_,
      clean.volume, clean.source, clean.owners, clean.uid, clean.version, clean.generation, clean.managed,
      map_normal_filterLabels.mpr clean.selector, clean.sourceRef, clean.status]

private theorem selectedNode_dropped (key : String) (same : (key == "volume.kubernetes.io/selected-node") = true) :
    dropsAnn key = true := by
  obtain rfl : key = "volume.kubernetes.io/selected-node" := by simpa using same
  decide

private theorem zone_dropped (key : String) (same : (key == "topology.kubernetes.io/zone") = true) :
    dropLabelKeys.contains key = true := by
  obtain rfl : key = "topology.kubernetes.io/zone" := by simpa using same
  decide

theorem Clean.unnamed {opt : Transform.Options} {obj : ClaimObject} (clean : obj.Clean opt) : obj.claim.Unnamed opt where
  node := by
    by_contra pinned
    have dropped := hasKey_mono selectedNode_dropped (by simpa using pinned)
    simp [clean.annotations] at dropped
  zone := by
    by_contra zoned
    have dropped := hasKey_mono zone_dropped (by simpa using zoned)
    simp only [clean.labels, Bool.false_eq_true] at dropped
  class_ := by
    intro _ source storage _
    have mapped := clean.class_
    simpa [Claim.mappedClass, storage] using mapped

/-- Healing again finds a class to remap or nothing. -/
theorem heal_settled : ((obj.heal opt).1.heal opt).2 = [] ↔
    (obj.claim.phase ≠ .bound → ∀ now, obj.claim.mappedClass opt = some now → now ≠ "" → mapSC now opt = now) := by
  rw [heal_names, healPVC_names]
  by_cases bound : obj.claim.phase = .bound
  · have healed : (obj.heal opt).1.claim = { obj.claim with
        annotations := filterKeys (· == "volume.kubernetes.io/selected-node") obj.claim.annotations
        labels := filterKeys (· == "topology.kubernetes.io/zone") obj.claim.labels } := by
      simp [heal, healPVC, bound]
    rw [healed]
    exact iff_of_true ⟨hasKey_filterKeys (fun _ same => same) _, hasKey_filterKeys (fun _ same => same) _,
      fun unbound => absurd bound unbound⟩ fun unbound => absurd bound unbound
  · have healed : (obj.heal opt).1.claim = { obj.claim with
        annotations := filterKeys dropsAnn obj.claim.annotations
        labels := filterKeys dropLabelKeys.contains obj.claim.labels
        volumeName := "", storageClassName := obj.claim.mappedClass opt, dataSource := none, owners := [] } := by
      simp only [heal, bound, ↓reduceIte, healPVC]
      rfl
    rw [healed]
    constructor
    · exact fun unnamed => unnamed.class_
    · exact fun settled => ⟨hasKey_filterKeys selectedNode_dropped _, hasKey_filterKeys zone_dropped _, settled⟩

/-- The names tell of every fix of a claim exactly if the claim is Bound, or has nothing to
clear besides what has a name, and the class it gets is not mapped on. -/
theorem namesFixes_iff : NamesFixes SameUpToNil (heal opt) obj ↔ (obj.claim.phase ≠ .bound →
    (obj.claim.Unnamed opt → obj.Clean opt) ∧
      ∀ now, obj.claim.mappedClass opt = some now → now ≠ "" → mapSC now opt = now) := by
  by_cases bound : obj.claim.phase = .bound
  · refine iff_of_true ⟨?_, ?_⟩ fun unbound => absurd bound unbound
    · rw [heal_names, healPVC_names, heal_same_bound opt obj bound]
    · exact (heal_settled opt obj).mpr fun unbound => absurd bound unbound
  · constructor
    · rintro ⟨named, settled⟩ _
      rw [heal_names, healPVC_names, heal_same_unbound opt obj bound] at named
      exact ⟨named.mp, (heal_settled opt obj).mp settled bound⟩
    · intro given
      obtain ⟨named, settled⟩ := given bound
      refine ⟨?_, (heal_settled opt obj).mpr fun _ => settled⟩
      rw [heal_names, healPVC_names, heal_same_unbound opt obj bound]
      exact ⟨named, Clean.unnamed⟩

end ClaimObject

/-- The names that healing reports tell of every fix, and healing settles at once, exactly if
a pod spec has no spread constraints besides what else is fixed, and a claim that is not
Bound has nothing to clear that has no name and gets a class that is not mapped on. -/
theorem heal_namesFixes_iff (spec : PodSpec) (opt : Transform.Options) (obj : ClaimObject) :
    NamesFixes (· = ·) healPodSpec spec ∧ NamesFixes ClaimObject.SameUpToNil (ClaimObject.heal opt) obj ↔
      (spec.Unpinned → spec.topologySpreadConstraints = []) ∧ (obj.claim.phase ≠ .bound →
        (obj.claim.Unnamed opt → obj.Clean opt) ∧
          ∀ now, obj.claim.mappedClass opt = some now → now ≠ "" → mapSC now opt = now) := by
  rw [namesFixes_podSpec_iff, ClaimObject.namesFixes_iff]

/-- A spread constraint is dropped without a name, the volume of a Lost claim is cleared
without a name, and two classes that are mapped to each other are swapped every time. -/
theorem heal_drops_unnamed :
    ¬ NamesFixes (· = ·) healPodSpec { topologySpreadConstraints := ["zone"] } ∧
    ¬ NamesFixes ClaimObject.SameUpToNil (ClaimObject.heal {}) { claim := { volumeName := "pv-1" } } ∧
    ¬ NamesFixes ClaimObject.SameUpToNil
      (ClaimObject.heal { storageClassMap := .table [("fast", "slow"), ("slow", "fast")] })
      { claim := { storageClassName := some "fast" } } := by
  refine ⟨fun names => absurd (names.named.mp rfl) (by decide), fun names => absurd (names.named.mp rfl) (by decide),
    fun names => absurd names.settled (by decide)⟩

end Portage
