import Mathlib.Data.List.Basic
import Portage.Transform.FSGroup
import Portage.Workloads.Heal

/-! The two sanitizers of pod templates: the walks over untyped maps, and the healer of typed
pod specs. -/
namespace Portage.Transform

open Go Kube

/-! ### Reading a template -/

/-- The items of a list. -/
def itemsOf : Json → List Json
  | .array items => items
  | _ => []

/-- The items of the list under a key. -/
def listUnder (key : String) (spec : Fields) : List Json := (spec.lookup key).elim [] itemsOf

def tolerationKey (item : Json) : String := (item.fields?.bind fun fields => fields.lookup "key").elim "" Json.text

/-- A toleration of a typed pod spec. -/
def readToleration (render : Json → String) (item : Json) : Toleration :=
  { key := tolerationKey item, rest := render item }

/-- The typed pod spec that an untyped one spells; `render` is the text that stands for what
the healer does not look into. -/
def readPodSpec (render : Json → String) (spec : Fields) : PodSpec where
  nodeSelector := spec.nestedStrings ["nodeSelector"]
  nodeName := (spec.lookup "nodeName").elim "" Json.text
  nodeAffinity := ((spec.nested ["affinity", "nodeAffinity"]).filter (· ≠ .null)).map render
  topologySpreadConstraints := (listUnder "topologySpreadConstraints" spec).map render
  tolerations := (listUnder "tolerations" spec).map (readToleration render)
  fsGroup := groupOf spec
  initImages := (spec.lookup "initContainers").elim [] imagesIn
  images := (spec.lookup "containers").elim [] imagesIn

theorem localToleration_eq (item : Json) : localToleration item = clusterLocalTolerationKey (tolerationKey item) := by
  have unnamed : clusterLocalTolerationKey "" = false := by decide +kernel
  cases item with
  | object fields => rfl
  | _ => exact unnamed.symm

/-! ### Tolerations -/

theorem mapsAmong_eq_flatMap (items : List Json) : mapsAmong items = items.flatMap mapsOfItem := by
  induction items with
  | nil => rfl
  | cons item rest ih => rw [mapsAmong, ih, List.flatMap_cons]

theorem itemsOf_stripTolerationValue (value : Json) : itemsOf (stripTolerationValue true value) =
    ((itemsOf value).filter fun item => !localToleration item).map stripTolerationItem := by
  cases value with
  | array items => exact stripTolerationItems_true items
  | _ => rfl

/-- What is left of a list of tolerations. -/
theorem listUnder_stripClusterLocalTolerations {fields : Fields} (distinct : Distinct fields) :
    listUnder "tolerations" (stripClusterLocalTolerations fields) =
      ((listUnder "tolerations" fields).filter fun item => !localToleration item).map stripTolerationItem := by
  induction fields with
  | nil => rfl
  | cons entry rest ih =>
    obtain ⟨key, value⟩ := entry
    obtain ⟨fresh, others⟩ := List.nodup_cons.mp distinct
    by_cases here : key = "tolerations"
    · subst here
      have gone : (stripClusterLocalTolerations rest).lookup "tolerations" = none :=
        lookup_eq_none_iff_keys.mpr fun listed => fresh ((keys_stripClusterLocalTolerations rest).subset listed)
      have before : listUnder "tolerations" (("tolerations", value) :: rest) = itemsOf value := by simp [listUnder]
      rw [before, ← itemsOf_stripTolerationValue]
      simp only [stripClusterLocalTolerations, decide_true, true_and]
      by_cases emptied : stripTolerationValue true value = .array []
      · rw [if_pos emptied, emptied, listUnder, gone]
        rfl
      · rw [if_neg emptied]
        simp [listUnder]
    · have apart : "tolerations" ≠ key := Ne.symm here
      simpa [stripClusterLocalTolerations, here, listUnder, Fields.lookup_cons, apart] using ih others

/-- The lists of tolerations that a template may have hold no maps that a walk acts on. -/
theorem listUnder_settle (classes : GoMap String String) (paths : List (List String)) (kept : ["tolerations"] ∉ paths)
    (nothing : tailsUnder "tolerations" paths = []) {spec : Fields} (distinct : Distinct spec)
    (inert : ∀ value, spec.lookup "tolerations" = some value → ∀ below ∈ mapsIn value, Inert below) :
    listUnder "tolerations" (settle classes paths spec) =
      (listUnder "tolerations" spec).filter fun item => !localToleration item := by
  have walked : (removeAll paths (walkRuntimeClass classes spec)).lookup "tolerations" = spec.lookup "tolerations" := by
    rw [lookup_removeAll kept, nothing, removeBelow_nil, Option.map_id, id_eq, lookup_walkRuntimeClass classes (by decide)]
    cases found : spec.lookup "tolerations" with
    | none => rfl
    | some value =>
      refine congrArg some ((walkRuntimeValue_eq_iff classes value).mpr fun below member => ?_)
      exact ((inert value found below member).quiet classes).runtime
  have fewer : Distinct (removeAll paths (walkRuntimeClass classes spec)) :=
    distinct.sublist ((keys_removeAll paths _).trans (keys_walkRuntimeClass classes spec))
  have still : ∀ item ∈ listUnder "tolerations" spec, ∀ below ∈ mapsOfItem item, Inert below := by
    intro item member below inside
    cases found : spec.lookup "tolerations" with
    | none => simp [listUnder, found] at member
    | some value =>
      cases value with
      | array items =>
        refine inert _ found below ?_
        rw [mapsIn, mapsAmong_eq_flatMap, List.mem_flatMap]
        exact ⟨item, by simpa [listUnder, found, itemsOf] using member, inside⟩
      | _ => simp [listUnder, found, itemsOf] at member
  have same : listUnder "tolerations" (removeAll paths (walkRuntimeClass classes spec)) = listUnder "tolerations" spec := by
    rw [listUnder, walked, listUnder]
  have settled : listUnder "tolerations" (settle classes paths spec) =
      (listUnder "tolerations" (stage classes paths spec)).map stripFSGroupItem := by
    rw [listUnder, settle, stripPodFSGroup, lookup_stripFSGroupEntries (by decide) (by decide), listUnder]
    cases (stage classes paths spec).lookup "tolerations" with
    | none => rfl
    | some value =>
      cases value with
      | array items => exact stripFSGroupItems_eq_map items
      | _ => rfl
  rw [settled, stage, listUnder_stripClusterLocalTolerations fewer, same, List.map_map]
  refine (List.map_congr_left fun item member => ?_).trans (List.map_id _)
  have within := still item (List.mem_of_mem_filter member)
  have untouched : stripTolerationItem item = item := (stripTolerationItem_eq_iff item).mpr fun below inside =>
    ((within below inside).quiet classes).tolerations
  have ungrouped : stripFSGroupItem item = item := (stripFSGroupItem_eq_iff item).mpr fun below inside =>
    ((within below inside).quiet classes).fsGroup
  rw [Function.comp_apply, untouched, ungrouped]
  rfl

/-! ### Agreement -/

/-- The template of a Deployment as the API has it. -/
structure TypedTemplate (spec : Fields) : Prop where
  distinct : Distinct spec
  context : ∀ value, spec.lookup "securityContext" = some value → ∀ below ∈ mapsIn value, Inert below
  tolerations : ∀ value, spec.lookup "tolerations" = some value → ∀ below ∈ mapsIn value, Inert below
  listed : spec.lookup "containers" ≠ none

theorem imagesIn_settleValue (classes : GoMap String String) (value : Json) :
    imagesIn (settleValue classes [] value) = imagesIn value := by
  cases value with
  | array items =>
    rw [settleValue_array]
    simp only [imagesIn, List.filterMap_map]
    congr 1
    funext item
    rw [Function.comp_apply, fields?_settledItem]
    cases item with
    | object container =>
      have image : (settle classes [] container).lookup "image" =
          (container.lookup "image").map (settleValue classes []) :=
        lookup_settle classes (by decide) List.not_mem_nil container
      show some (((settle classes [] container).lookup "image").elim "" Json.text) =
        some ((container.lookup "image").elim "" Json.text)
      rw [image]
      cases container.lookup "image" with
      | none => rfl
      | some value => cases value <;> rfl
    | _ => rfl
  | _ => rfl

/-- Two filters of which one drops more leave the same just if it drops no more here. -/
theorem filter_map_eq_iff {items : List α} {more less : α → Bool} (weaker : ∀ item, less item = true → more item = true)
    (read : α → β) : (items.filter fun item => !more item).map read = (items.filter fun item => !less item).map read ↔
      ∀ item ∈ items, more item = true → less item = true := by
  induction items with
  | nil => simp
  | cons item rest ih =>
    have fewer : (rest.filter fun item => !more item).length ≤ (rest.filter fun item => !less item).length := by
      refine (List.monotone_filter_right rest fun item kept => ?_).length_le
      cases dropped : less item with
      | false => rfl
      | true => simp [weaker item dropped] at kept
    rw [List.forall_mem_cons]
    cases dropsMore : more item with
    | true =>
      cases dropsLess : less item with
      | true => simpa [dropsMore, dropsLess] using ih
      | false =>
        refine iff_of_false (fun same => ?_) (by simp)
        have lengths := congrArg List.length same
        simp only [List.length_map, dropsMore, dropsLess, List.filter_cons, Bool.not_true, Bool.not_false,
          Bool.false_eq_true, if_false, if_true, List.length_cons] at lengths
        omega
    | false =>
      cases dropsLess : less item with
      | true => simp [weaker item dropsLess] at dropsMore
      | false => simpa [dropsMore, dropsLess] using ih

section
variable (render : Json → String) (opt : Options) {obj spec : Fields}

/-- The healer drops the group that the walk drops. -/
theorem healPodSpec_fsGroup (listed : spec.lookup "containers" ≠ none) :
    (healPodSpec (readPodSpec render spec)).1.fsGroup = if dropsFSGroup spec = true then none else groupOf spec := by
  have containers : hasContainers spec = true :=
    List.any_eq_true.mpr ⟨"containers", by decide, Option.isSome_iff_ne_none.mpr listed⟩
  have images : ((readPodSpec render spec).initImages ++ (readPodSpec render spec).images).any postgresImage =
      runsEngine "postgres" spec := by
    simp only [readPodSpec, runsEngine, podImages, containerKeys, List.flatMap_cons, List.flatMap_nil, List.append_nil,
      List.any_append]
    exact Bool.or_comm _ _
  have decided : dropsFSGroup spec = true ↔
      ∃ group, groupOf spec = some group ∧ (group = 0 ∨ runsEngine "postgres" spec = true) := by
    rw [dropsFSGroup_iff]
    simp [containers]
  have group : (readPodSpec render spec).fsGroup = groupOf spec := rfl
  simp only [healPodSpec, images, group]
  cases found : groupOf spec with
  | none => simp
  | some value =>
    have drops : dropsFSGroup spec = (value == 0 || runsEngine "postgres" spec) := by
      rw [Bool.eq_iff_iff, decided]
      simp [found]
    rw [drops]

theorem clusterLocalTol_weaker (key : String) (dropped : clusterLocalTol key = true) :
    clusterLocalTolerationKey key = true := by
  unfold clusterLocalTolerationKey
  unfold clusterLocalTol at dropped
  rw [dropped]
  rfl

/-- Apart from the tolerations, the healer computes the fields that the walks leave. -/
theorem readPodSpec_healed {healed : Fields} (listed : spec.lookup "containers" ≠ none) (unpinned : Unpinned healed)
    (group : groupOf healed = if dropsFSGroup spec = true then none else groupOf spec)
    (images : ∀ key ∈ containerKeys, (healed.lookup key).elim [] imagesIn = (spec.lookup key).elim [] imagesIn) :
    readPodSpec render healed =
      { (healPodSpec (readPodSpec render spec)).1 with
        tolerations := (listUnder "tolerations" healed).map (readToleration render) } := by
  rw [← healPodSpec_fsGroup render listed] at group
  have selector : healed.nestedStrings ["nodeSelector"] = [] := by
    rw [Fields.nestedStrings, Fields.nested, unpinned.nodeSelector]
    rfl
  simp only [readPodSpec, selector, unpinned.nodeName, unpinned.nodeAffinity, listUnder,
    unpinned.topologySpreadConstraints, group, images "containers" (by decide), images "initContainers" (by decide)]
  rfl

/-- The two sanitizers agree on a template just if the healer knows every toleration that the
walk drops. -/
theorem object_heal_iff (carried : obj.below PodKind.deployment.podSpecPath = some spec) (typed : TypedTemplate spec) :
    ∃ after, (object opt obj).below PodKind.deployment.podSpecPath = some after ∧
      (readPodSpec render after = (healPodSpec (readPodSpec render spec)).1 ↔
        ∀ item ∈ listUnder "tolerations" spec, clusterLocalTolerationKey (tolerationKey item) = true →
          clusterLocalTol (tolerationKey item) = true) := by
  have prepared : (remapStorageClass opt (dropLocal obj)).below PodKind.deployment.podSpecPath = some spec :=
    (below_deeper opt obj (by decide) (by decide) _).trans carried
  have after : (object opt obj).below PodKind.deployment.podSpecPath =
      some (settle opt.runtimeClassMap (tailsBelow PodKind.deployment.podSpecPath affinityPaths) spec) := by
    rw [object_eq_settle, below_settle _ (podSpecPath_past _), prepared]
    rfl
  have unpinned : Unpinned (settle opt.runtimeClassMap (tailsBelow PodKind.deployment.podSpecPath affinityPaths) spec) :=
    (object_unpinned_iff opt obj .deployment).mpr (fun _ none_ => absurd none_ List.not_mem_nil) _ after
  have spares : sparesPods (tailsBelow PodKind.deployment.podSpecPath affinityPaths) = true := by decide
  have left := listUnder_settle opt.runtimeClassMap (tailsBelow PodKind.deployment.podSpecPath affinityPaths)
    (by decide) rfl typed.distinct typed.tolerations
  have field := contextField_settle opt.runtimeClassMap spares typed.distinct typed.context "fsGroup"
  have images : ∀ key ∈ containerKeys,
      ((settle opt.runtimeClassMap (tailsBelow PodKind.deployment.podSpecPath affinityPaths) spec).lookup key).elim []
        imagesIn = (spec.lookup key).elim [] imagesIn := by
    intro key member
    have plain : ∀ key ∈ containerKeys, key ∈ ownershipKeys ∧ key ∉ walkedKeys := by decide
    obtain ⟨owning, unwalked⟩ := plain key member
    obtain ⟨kept, nothing⟩ := spared_of_mem spares owning
    rw [lookup_settle _ unwalked kept, nothing]
    cases spec.lookup key with
    | none => rfl
    | some value => exact imagesIn_settleValue _ value
  generalize settle opt.runtimeClassMap (tailsBelow PodKind.deployment.podSpecPath affinityPaths) spec = healed
    at after unpinned left field images
  have group : groupOf healed = if dropsFSGroup spec = true then none else groupOf spec := by
    rw [groupOf, field, groupOf]
    cases dropsFSGroup spec <;> simp
  refine ⟨healed, after, ?_⟩
  have kept : (healPodSpec (readPodSpec render spec)).1.tolerations =
      ((listUnder "tolerations" spec).filter fun item => !clusterLocalTol (tolerationKey item)).map
        (readToleration render) := List.filter_map
  have agree : readPodSpec render healed = (healPodSpec (readPodSpec render spec)).1 ↔
      (listUnder "tolerations" healed).map (readToleration render) =
        (healPodSpec (readPodSpec render spec)).1.tolerations := by
    rw [readPodSpec_healed render typed.listed unpinned group images]
    generalize (healPodSpec (readPodSpec render spec)).1 = typedSpec
    constructor
    · exact congrArg PodSpec.tolerations
    · intro same
      rw [same]
  rw [agree, kept, left]
  simp only [localToleration_eq]
  exact filter_map_eq_iff (fun item => clusterLocalTol_weaker (tolerationKey item)) _

end

/-- A Deployment whose pods tolerate one taint. -/
def tolerantSpec (taint : String) : Fields := [
  ("containers", .array [.object [("name", .string "web"), ("image", .string "nginx")]]),
  ("tolerations", .array [.object [("key", .string taint), ("operator", .string "Exists")]])]

def tolerantDeployment (taint : String) : Fields := [
  ("kind", .string "Deployment"),
  ("metadata", .object [("name", .string "web")]),
  ("spec", .object [("template", .object [("spec", .object (tolerantSpec taint))])])]

theorem tolerantSpec_typed (taint : String) : TypedTemplate (tolerantSpec taint) where
  distinct := (by decide : ["containers", "tolerations"].Nodup)
  context := fun value missing => by cases missing
  tolerations := by
    intro value found below member
    obtain rfl : _ = value := Option.some.inj found
    obtain rfl := List.mem_singleton.mp member
    simp [Inert, foreignKeys]
  listed := Option.some_ne_none _

/-- The text that stands for a value does not matter here. -/
def unread : Json → String := fun _ => ""

theorem object_heal_gpu : ∃ after,
    (object {} (tolerantDeployment "nvidia.com/gpu")).below PodKind.deployment.podSpecPath = some after ∧
      readPodSpec unread after = (healPodSpec (readPodSpec unread (tolerantSpec "nvidia.com/gpu"))).1 := by
  obtain ⟨after, carried, agree⟩ := object_heal_iff unread {}
    (rfl : (tolerantDeployment "nvidia.com/gpu").below PodKind.deployment.podSpecPath = _)
    (tolerantSpec_typed "nvidia.com/gpu")
  refine ⟨after, carried, agree.mpr fun item member _ => ?_⟩
  obtain rfl := List.mem_singleton.mp member
  decide +kernel

/-- The walk drops a toleration of a runtime class that the healer keeps. -/
theorem object_heal_differ :
    ((object {} (tolerantDeployment "example.com/runtime")).below PodKind.deployment.podSpecPath).map
        (fun after => (readPodSpec unread after).tolerations) = some [] ∧
    (healPodSpec (readPodSpec unread (tolerantSpec "example.com/runtime"))).1.tolerations =
      [{ key := "example.com/runtime" }] := by
  decide +kernel

end Portage.Transform
