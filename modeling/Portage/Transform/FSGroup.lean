import Mathlib.Data.List.Nodup
import Portage.Transform.Payload

/-! Which volume groups the sanitizer takes off pod specs. -/
namespace Portage.Transform

open Go

/-! ### Keys -/

/-- No key occurs twice, as in any map. -/
def Distinct (fields : Fields) : Prop := (fields.map Prod.fst).Nodup

variable {fields spec obj : Fields}

theorem lookup_eq_none_iff_keys {key : String} : fields.lookup key = none ↔ key ∉ fields.map Prod.fst := by
  induction fields with
  | nil => simp
  | cons entry rest ih =>
    obtain ⟨name, value⟩ := entry
    rw [Fields.lookup_cons]
    by_cases same : key = name
    · simp [same]
    · simpa [same] using ih

theorem keys_walkRuntimeClass (classes : GoMap String String) (fields : Fields) :
    ((walkRuntimeClass classes fields).map Prod.fst).Sublist (fields.map Prod.fst) := by
  induction fields with
  | nil => exact .refl _
  | cons entry rest ih =>
    obtain ⟨key, value⟩ := entry
    rw [walkRuntimeClass]
    split
    · split
      · exact ih.cons_cons _
      · exact ih.cons _
    · exact ih.cons_cons _

theorem keys_stripClusterLocalTolerations (fields : Fields) :
    ((stripClusterLocalTolerations fields).map Prod.fst).Sublist (fields.map Prod.fst) := by
  induction fields with
  | nil => exact .refl _
  | cons entry rest ih =>
    obtain ⟨key, value⟩ := entry
    rw [stripClusterLocalTolerations]
    split
    · exact ih.cons _
    · exact ih.cons_cons _

theorem keys_stripFSGroupEntries (drops skips : Bool) (fields : Fields) :
    ((stripFSGroupEntries drops skips fields).map Prod.fst).Sublist (fields.map Prod.fst) := by
  induction fields with
  | nil => exact .refl _
  | cons entry rest ih =>
    obtain ⟨key, value⟩ := entry
    rw [stripFSGroupEntries]
    split
    · exact ih.cons _
    · split
      · exact ih.cons _
      · exact ih.cons_cons _

theorem keys_erase (key : String) (fields : Fields) :
    ((fields.erase key).map Prod.fst).Sublist (fields.map Prod.fst) := List.filter_sublist.map _

/-- A value that is put under a key that is there changes no key; otherwise the key is
added. -/
theorem keys_put (key : String) (value : Json) (fields : Fields) : (fields.put key value).map Prod.fst =
    if fields.lookup key = none then fields.map Prod.fst ++ [key] else fields.map Prod.fst := by
  induction fields with
  | nil => rfl
  | cons entry rest ih =>
    obtain ⟨name, old⟩ := entry
    by_cases here : name = key
    · subst here
      simp [Fields.put]
    · rw [Fields.put, if_neg here, List.map_cons, ih, Fields.lookup_cons, if_neg (Ne.symm here)]
      split <;> rfl

theorem keys_removeNested (path : List String) (fields : Fields) :
    ((fields.removeNested path).map Prod.fst).Sublist (fields.map Prod.fst) := by
  match path with
  | [] => exact .refl _
  | [key] => exact keys_erase key fields
  | key :: next :: rest =>
    rw [Fields.removeNested_cons]
    cases child : fields.child key with
    | none => exact .refl _
    | some inner =>
      have there : fields.lookup key ≠ none := by
        intro missing
        simp [Fields.child, missing] at child
      rw [Option.elim_some, keys_put, if_neg there]

theorem keys_removeAll (paths : List (List String)) (fields : Fields) :
    ((removeAll paths fields).map Prod.fst).Sublist (fields.map Prod.fst) := by
  induction paths generalizing fields with
  | nil => exact .refl _
  | cons path paths ih => exact (ih _).trans (keys_removeNested path fields)

theorem Distinct.stage (distinct : Distinct fields) (classes : GoMap String String) (paths : List (List String)) :
    Distinct (stage classes paths fields) :=
  distinct.sublist ((keys_stripClusterLocalTolerations _).trans
    ((keys_removeAll paths _).trans (keys_walkRuntimeClass classes fields)))

theorem Distinct.put (distinct : Distinct fields) (key : String) (value : Json) :
    Distinct (fields.put key value) := by
  unfold Distinct
  rw [keys_put]
  split
  · rename_i missing
    refine List.nodup_append.mpr ⟨distinct, List.nodup_singleton _, ?_⟩
    rintro other member _ single rfl
    obtain rfl := List.mem_singleton.mp single
    exact lookup_eq_none_iff_keys.mp missing member
  · exact distinct

/-! ### Security contexts -/

/-- A field of the security context. -/
def contextField (key : String) (spec : Fields) : Option Json :=
  (spec.child "securityContext").bind fun sc => sc.lookup key

/-- The `fsGroup`, read as the code reads numbers. -/
def groupOf (spec : Fields) : Option Int := (contextField "fsGroup" spec).bind intFromUnstructured

/-- The keys that no map inside of a security context has. -/
def foreignKeys : List String := ["runtimeClassName", "tolerations", "securityContext"]

def Inert (fields : Fields) : Prop := ∀ entry ∈ fields, entry.1 ∉ foreignKeys

theorem Inert.quiet (inert : Inert fields) (classes : GoMap String String) : Quiet classes fields where
  runtime entry member named _ := absurd (by rw [named]; decide) (inert entry member)
  tolerations entry member named _ _ := absurd (by rw [named]; decide) (inert entry member)
  fsGroup := by
    have missing : fields.lookup "securityContext" = none := by
      refine lookup_eq_none_iff_keys.mpr fun listed => ?_
      obtain ⟨entry, member, named⟩ := List.mem_map.mp listed
      exact inert entry member (by rw [named]; decide)
    simp [dropsFSGroup, missing]

/-- A value that came out of a security context stays as it is. -/
theorem settleValue_inert (classes : GoMap String String) {value : Json} (inert : ∀ below ∈ mapsIn value, Inert below) :
    settleValue classes [] value = value :=
  (settleValue_eq_iff_quiet classes value).mpr fun below member => (inert below member).quiet classes

/-- Without the group, the entries of a security context stay as they are. -/
theorem stripFSGroupEntries_inert {sc : Fields} (below : ∀ other ∈ mapsBelow sc, Inert other) :
    stripFSGroupEntries false true sc = sc.erase "fsGroup" := by
  induction sc with
  | nil => rfl
  | cons entry rest ih =>
    obtain ⟨key, value⟩ := entry
    rw [mapsBelow, List.forall_mem_append] at below
    have kept : stripFSGroupValue false value = value :=
      (stripFSGroupValue_eq_iff value).mpr fun other member => ((below.1 other member).quiet .nil).fsGroup
    have later := ih below.2
    unfold Fields.erase at later ⊢
    by_cases group : key = "fsGroup"
    · simpa [stripFSGroupEntries, group] using later
    · simpa [stripFSGroupEntries, group, kept] using later

theorem lookup_securityContext_kept (fields : Fields) : (stripFSGroupEntries false false fields).lookup "securityContext" =
    (fields.lookup "securityContext").map (stripFSGroupValue false) := by
  induction fields with
  | nil => rfl
  | cons entry rest ih =>
    obtain ⟨key, value⟩ := entry
    have step : stripFSGroupEntries false false ((key, value) :: rest) =
        (key, stripFSGroupValue false value) :: stripFSGroupEntries false false rest := by
      simp [stripFSGroupEntries]
    rw [step, Fields.lookup_cons, Fields.lookup_cons, ih]
    split <;> rfl

/-- What a pod spec that loses its group has for a security context. -/
theorem lookup_securityContext_dropped {sc : Fields} (distinct : Distinct fields)
    (context : fields.lookup "securityContext" = some (.object sc)) :
    (stripFSGroupEntries true false fields).lookup "securityContext" =
      if sc.erase "fsGroup" = [] then none
      else some (.object (stripFSGroupEntries (dropsFSGroup sc) true sc)) := by
  induction fields with
  | nil => cases context
  | cons entry rest ih =>
    obtain ⟨key, value⟩ := entry
    obtain ⟨fresh, others⟩ := List.nodup_cons.mp distinct
    by_cases named : key = "securityContext"
    · subst named
      obtain rfl : value = .object sc := by simpa using context
      have gone : (stripFSGroupEntries true false rest).lookup "securityContext" = none :=
        lookup_eq_none_iff_keys.mpr fun listed => fresh ((keys_stripFSGroupEntries true false rest).subset listed)
      rw [stripFSGroupEntries, if_neg (by simp)]
      by_cases only : sc.erase "fsGroup" = []
      · simpa [onlyFSGroup, only] using gone
      · simp [onlyFSGroup, only, stripFSGroupValue]
    · have later := ih others (by simpa [Fields.lookup_cons, Ne.symm named] using context)
      have step : stripFSGroupEntries true false ((key, value) :: rest) =
          (key, stripFSGroupValue false value) :: stripFSGroupEntries true false rest := by
        simp [stripFSGroupEntries, named]
      rw [step, Fields.lookup_cons, if_neg (Ne.symm named), later]

/-! ### Engines -/

/-- The images of a list of containers. -/
def imagesIn : Json → List String
  | .array items => items.filterMap fun item => item.fields?.map fun container => (container.lookup "image").elim "" Json.text
  | _ => []

def containerKeys : List String := ["containers", "initContainers"]

/-- The images of the containers and the init containers. -/
def podImages (spec : Fields) : List String :=
  containerKeys.flatMap fun key => (spec.lookup key).elim [] imagesIn

/-- Whether some image belongs to the engine. -/
def runsEngine (engine : String) (spec : Fields) : Bool :=
  (podImages spec).any fun image => (matchImage image).any (·.name = engine)

def hasContainers (spec : Fields) : Bool := containerKeys.any fun key => (spec.lookup key).isSome

theorem containersMatchPostgres_eq (value : Json) : containersMatchPostgres value =
    (imagesIn value).any fun image => (matchImage image).any (·.name = "postgres") := by
  cases value with
  | array items =>
    simp only [containersMatchPostgres, imagesIn, List.any_filterMap]
    congr 1
    funext item
    cases item <;> rfl
  | _ => rfl

theorem postgresContainers_eq (spec : Fields) : postgresContainers spec = runsEngine "postgres" spec := by
  simp only [postgresContainers, runsEngine, podImages, containerKeys, List.flatMap_cons, List.flatMap_nil,
    List.append_nil, List.any_append]
  congr 1
  · cases spec.lookup "containers" with
    | none => rfl
    | some value => exact containersMatchPostgres_eq value
  · cases spec.lookup "initContainers" with
    | none => rfl
    | some value => exact containersMatchPostgres_eq value

theorem hasContainers_of_runsEngine {engine : String} (runs : runsEngine engine spec = true) :
    hasContainers spec = true := by
  by_contra bare
  have missing : ∀ key ∈ containerKeys, spec.lookup key = none := by
    intro key member
    by_contra there
    exact bare (List.any_eq_true.mpr ⟨key, member, Option.isSome_iff_ne_none.mpr there⟩)
  have images : podImages spec = [] := by
    rw [podImages, List.flatMap_eq_nil_iff]
    intro key member
    rw [missing key member]
    rfl
  simp [runsEngine, images] at runs

/-- The groups that go. -/
theorem dropsFSGroup_iff (spec : Fields) : dropsFSGroup spec = true ↔
    hasContainers spec = true ∧ ∃ group, groupOf spec = some group ∧ (group = 0 ∨ runsEngine "postgres" spec = true) := by
  have listed : hasContainers spec = ((spec.lookup "containers").isSome || (spec.lookup "initContainers").isSome) := by
    simp [hasContainers, containerKeys]
  rw [listed, dropsFSGroup, postgresContainers_eq, groupOf, contextField, Fields.child]
  cases spec.lookup "securityContext" with
  | none => simp
  | some context =>
    cases context with
    | object sc =>
      simp only [Json.fields?, Option.bind_some, Bool.and_eq_true, Option.any_eq_true, Bool.or_eq_true,
        decide_eq_true_eq]
    | _ => simp [Json.fields?]

/-! ### Pod specs -/

/-- The fields of a pod spec that the volume ownership is decided on. -/
def ownershipKeys : List String := ["securityContext", "containers", "initContainers"]

/-- The decision depends on nothing else. -/
theorem dropsFSGroup_congr {other : Fields} (same : ∀ key ∈ ownershipKeys, other.lookup key = spec.lookup key) :
    dropsFSGroup other = dropsFSGroup spec := by
  simp only [ownershipKeys, List.forall_mem_cons] at same
  obtain ⟨context, containers, inits, _⟩ := same
  simp only [dropsFSGroup, postgresContainers, context, containers, inits]

/-- The paths leave what the volume ownership is decided on. -/
def sparesPods (paths : List (List String)) : Bool :=
  ownershipKeys.all fun key => !paths.contains [key] && (tailsUnder key paths).isEmpty

theorem imagesIn_stageValue (classes : GoMap String String) (value : Json) :
    imagesIn (stageValue classes [] value) = imagesIn value := by
  cases value with
  | array items =>
    have staged : stageValue classes [] (.array items) =
        .array (items.map fun item => stripTolerationItem (walkRuntimeItem classes item)) := by
      have same : stageValue classes [] (.array items) =
          .array (stripTolerationItems false (walkRuntimeItems classes items)) := rfl
      rw [same, walkRuntimeItems_eq_map, stripTolerationItems_false, List.map_map]
      rfl
    rw [staged]
    simp only [imagesIn, List.filterMap_map]
    congr 1
    funext item
    cases item with
    | object container =>
      have image : (stage classes [] container).lookup "image" =
          (container.lookup "image").map (stageValue classes []) :=
        lookup_stage classes (by decide) (by decide) List.not_mem_nil container
      show some (((stage classes [] container).lookup "image").elim "" Json.text) =
        some ((container.lookup "image").elim "" Json.text)
      rw [image]
      cases container.lookup "image" with
      | none => rfl
      | some value => cases value <;> rfl
    | _ => rfl
  | _ => rfl

section
variable (classes : GoMap String String) {paths : List (List String)} (spares : sparesPods paths = true)
include spares

omit classes in
theorem spared_of_mem {key : String} (member : key ∈ ownershipKeys) : [key] ∉ paths ∧ tailsUnder key paths = [] := by
  have spared : ∀ key ∈ ownershipKeys, [key] ∉ paths ∧ tailsUnder key paths = [] := by
    simpa only [sparesPods, List.all_eq_true, Bool.and_eq_true, Bool.not_eq_true', List.contains_eq_mem,
      decide_eq_false_iff_not, List.isEmpty_iff] using spares
  exact spared key member

theorem lookup_stage_pod (spec : Fields) {key : String} (member : key ∈ ownershipKeys) :
    (stage classes paths spec).lookup key = (spec.lookup key).map (stageValue classes []) := by
  have plain : ∀ key ∈ ownershipKeys, key ≠ "runtimeClassName" ∧ key ≠ "tolerations" := by decide
  obtain ⟨kept, nothing⟩ := spared_of_mem spares member
  rw [lookup_stage classes (plain key member).1 (plain key member).2 kept, nothing]

theorem groupOf_stage (spec : Fields) : groupOf (stage classes paths spec) = groupOf spec := by
  rw [groupOf, contextField, Fields.child, lookup_stage_pod classes spares spec (by decide), groupOf, contextField,
    Fields.child]
  cases spec.lookup "securityContext" with
  | none => rfl
  | some context =>
    cases context with
    | object sc =>
      have group : (stage classes [] sc).lookup "fsGroup" = (sc.lookup "fsGroup").map (stageValue classes []) :=
        lookup_stage classes (by decide) (by decide) List.not_mem_nil sc
      show ((stage classes [] sc).lookup "fsGroup").bind intFromUnstructured =
        (sc.lookup "fsGroup").bind intFromUnstructured
      rw [group]
      cases sc.lookup "fsGroup" with
      | none => rfl
      | some value => cases value <;> rfl
    | _ => rfl

theorem dropsFSGroup_stage (spec : Fields) : dropsFSGroup (stage classes paths spec) = dropsFSGroup spec := by
  have member : ∀ key ∈ containerKeys, key ∈ ownershipKeys := by decide
  have containers : hasContainers (stage classes paths spec) = hasContainers spec := by
    simp only [hasContainers, containerKeys, List.any_cons, List.any_nil, Bool.or_false,
      lookup_stage_pod classes spares spec (by decide : "containers" ∈ ownershipKeys),
      lookup_stage_pod classes spares spec (by decide : "initContainers" ∈ ownershipKeys), Option.isSome_map]
  have images : podImages (stage classes paths spec) = podImages spec := by
    refine List.flatMap_congr fun key inside => ?_
    rw [lookup_stage_pod classes spares spec (member key inside)]
    cases spec.lookup key with
    | none => rfl
    | some value => exact imagesIn_stageValue classes value
  rw [Bool.eq_iff_iff, dropsFSGroup_iff, dropsFSGroup_iff, containers, groupOf_stage classes spares, runsEngine,
    runsEngine, images]

/-- The security context of a pod spec after the sanitizer: without its group if that has to
go, and else as it was. -/
theorem contextField_settle {spec : Fields} (distinct : Distinct spec)
    (inert : ∀ value, spec.lookup "securityContext" = some value → ∀ below ∈ mapsIn value, Inert below) (key : String) :
    contextField key (settle classes paths spec) =
      if dropsFSGroup spec = true ∧ key = "fsGroup" then none else contextField key spec := by
  have staged := lookup_stage_pod classes spares spec (by decide : "securityContext" ∈ ownershipKeys)
  rw [contextField, Fields.child, settle, stripPodFSGroup, dropsFSGroup_stage classes spares]
  cases drops : dropsFSGroup spec with
  | false =>
    have same : (spec.lookup "securityContext").map (settleValue classes []) = spec.lookup "securityContext" := by
      cases found : spec.lookup "securityContext" with
      | none => rfl
      | some value => exact congrArg some (settleValue_inert classes (inert value found))
    have kept : ((spec.lookup "securityContext").map (stageValue classes [])).map (stripFSGroupValue false) =
        spec.lookup "securityContext" := by
      rw [Option.map_map]
      exact same
    rw [lookup_securityContext_kept, staged, kept, contextField, Fields.child]
    simp
  | true =>
    obtain ⟨sc, context, _⟩ := dropsFSGroup_grouped drops
    have within := inert _ context
    rw [mapsIn, List.forall_mem_cons] at within
    have still : stage classes [] sc = sc := by
      have walked : walkRuntimeClass classes sc = sc :=
        (walkRuntimeClass_eq_iff classes sc).mpr ⟨(within.1.quiet classes).runtime,
          fun below member => ((within.2 below member).quiet classes).runtime⟩
      have stripped : stripClusterLocalTolerations sc = sc :=
        (stripClusterLocalTolerations_eq_iff sc).mpr ⟨(within.1.quiet classes).tolerations,
          fun below member => ((within.2 below member).quiet classes).tolerations⟩
      rw [stage, walked]
      exact stripped
    have placed : (stage classes paths spec).lookup "securityContext" = some (.object sc) := by
      rw [staged, context]
      exact congrArg (some ∘ Json.object) still
    rw [lookup_securityContext_dropped (distinct.stage classes paths) placed, (within.1.quiet classes).fsGroup,
      stripFSGroupEntries_inert within.2, contextField, Fields.child, context]
    have erased := Fields.lookup_erase "fsGroup" key sc
    by_cases only : Fields.erase "fsGroup" sc = []
    · rw [if_pos only, Option.bind_none, Option.bind_none]
      rw [only] at erased
      by_cases group : key = "fsGroup"
      · rw [if_pos ⟨rfl, group⟩]
      · rw [if_neg fun both => group both.2]
        rw [if_neg group] at erased
        exact erased
    · rw [if_neg only]
      by_cases group : key = "fsGroup"
      · rw [if_pos ⟨rfl, group⟩]
        rw [if_pos group] at erased
        exact erased
      · rw [if_neg fun both => group both.2]
        rw [if_neg group] at erased
        exact erased

end

/-! ### Containers -/

/-- The security contexts of a list of containers. -/
def contextsIn : Json → List (Option Json)
  | .array items => items.map fun item => item.fields?.bind fun container => container.lookup "securityContext"
  | _ => []

/-- A container as the API has it: it holds no containers, and its security context is one. -/
structure TypedContainer (container : Fields) : Prop where
  bare : hasContainers container = false
  context : ∀ value, container.lookup "securityContext" = some value → ∀ below ∈ mapsIn value, Inert below

/-- A container keeps its security context. -/
theorem TypedContainer.lookup_settle {container : Fields} (typed : TypedContainer container)
    (classes : GoMap String String) :
    (settle classes [] container).lookup "securityContext" = container.lookup "securityContext" := by
  have kept : dropsFSGroup container = false := by
    by_contra drops
    have both := (dropsFSGroup_iff container).mp (by simpa using drops)
    exact Bool.false_ne_true (typed.bare.symm.trans both.1)
  rw [settle, stripPodFSGroup, dropsFSGroup_stage classes (by decide), kept, lookup_securityContext_kept,
    lookup_stage_pod classes (by decide) container (by decide), Option.map_map]
  cases found : container.lookup "securityContext" with
  | none => rfl
  | some value => exact congrArg some (settleValue_inert classes (typed.context value found))

theorem contextsIn_settleValue (classes : GoMap String String) {value : Json}
    (typed : ∀ items, value = .array items → ∀ container, .object container ∈ items → TypedContainer container) :
    contextsIn (settleValue classes [] value) = contextsIn value := by
  cases value with
  | array items =>
    rw [settleValue_array]
    simp only [contextsIn, List.map_map]
    refine List.map_congr_left fun item member => ?_
    rw [Function.comp_apply, fields?_settledItem]
    cases item with
    | object container => exact (typed items rfl container member).lookup_settle classes
    | _ => rfl
  | _ => rfl

/-- A pod spec as the API has it. -/
structure TypedPod (spec : Fields) : Prop where
  distinct : Distinct spec
  context : ∀ value, spec.lookup "securityContext" = some value → ∀ below ∈ mapsIn value, Inert below
  containers : ∀ key ∈ containerKeys, ∀ items, spec.lookup key = some (.array items) →
    ∀ container, .object container ∈ items → TypedContainer container

/-! ### The pod spec before the walks -/

theorem child_remapStorageClass (opt : Options) (carried : obj.child "spec" = some spec) :
    (remapStorageClass opt obj).child "spec" = some spec ∨
      ∃ value, (remapStorageClass opt obj).child "spec" = some (spec.put "storageClassName" value) := by
  have set (value : Json) : (obj.setNested storageClassPath value).child "spec" =
      some (spec.put "storageClassName" value) := by
    rw [Fields.child] at carried
    rw [Fields.child, storageClassPath, Fields.lookup_setNested_self]
    cases found : obj.lookup "spec" with
    | none => simp [found] at carried
    | some inner =>
      rw [found, Option.bind_some] at carried
      rw [Option.getD_some, carried]
      rfl
  simp only [remapStorageClass]
  split
  · split
    · exact .inr ⟨_, set _⟩
    · exact .inl carried
  · exact .inr ⟨_, set _⟩

theorem child_dropLocal (obj : Fields) :
    (dropLocal obj).child "spec" = (obj.child "spec").map (removeAll (tailsUnder "spec" localPaths)) := by
  rw [Fields.child, lookup_dropLocal (by decide) (by decide), Fields.child]
  cases obj.lookup "spec" with
  | none => rfl
  | some value => cases value <;> rfl

/-- The spec that the walks are given has the other fields of the source's. -/
theorem child_prepared (opt : Options) (carried : obj.child "spec" = some spec) (distinct : Distinct spec) :
    ∃ before, (remapStorageClass opt (dropLocal obj)).child "spec" = some before ∧ Distinct before ∧
      ∀ key ∉ localKeys, key ≠ "storageClassName" → before.lookup key = spec.lookup key := by
  have dropped : (dropLocal obj).child "spec" = some (removeAll (tailsUnder "spec" localPaths) spec) := by
    rw [child_dropLocal, carried]
    rfl
  have fewer : Distinct (removeAll (tailsUnder "spec" localPaths) spec) := distinct.sublist (keys_removeAll _ _)
  have others : ∀ key ∉ localKeys, (removeAll (tailsUnder "spec" localPaths) spec).lookup key = spec.lookup key := by
    intro key untouched
    have kept : [key] ∉ tailsUnder "spec" localPaths := by
      simpa [tailsUnder, localPaths, localKeys] using untouched
    have nothing : tailsUnder key (tailsUnder "spec" localPaths) = [] := rfl
    rw [lookup_removeAll kept, nothing, removeBelow_nil, Option.map_id]
    rfl
  rcases child_remapStorageClass opt dropped with same | ⟨value, set⟩
  · exact ⟨_, same, fewer, fun key untouched _ => others key untouched⟩
  · refine ⟨_, set, fewer.put _ value, fun key untouched storage => ?_⟩
    rw [Fields.lookup_put, if_neg storage, others key untouched]

/-- Further down, the walks are given what the source has. -/
theorem below_deeper (opt : Options) (obj : Fields) {key : String} (untouched : key ∉ localKeys)
    (storage : key ≠ "storageClassName") (rest : List String) :
    (remapStorageClass opt (dropLocal obj)).below ("spec" :: key :: rest) = obj.below ("spec" :: key :: rest) := by
  rw [Fields.below_eq_nested, nested_prepared untouched storage, Fields.below_eq_nested]

/-- The pod spec that the walks are given has the other fields of the source's. -/
theorem below_prepared (opt : Options) (kind : PodKind) (carried : obj.below kind.podSpecPath = some spec)
    (distinct : Distinct spec) :
    ∃ before, (remapStorageClass opt (dropLocal obj)).below kind.podSpecPath = some before ∧ Distinct before ∧
      ∀ key ∉ localKeys, key ≠ "storageClassName" → before.lookup key = spec.lookup key := by
  have single : ∀ fields : Fields, fields.below ["spec"] = fields.child "spec" := by
    intro fields
    rw [Fields.below]
    cases fields.child "spec" <;> rfl
  cases kind with
  | pod =>
    simp only [PodKind.podSpecPath, single] at carried ⊢
    exact child_prepared opt carried distinct
  | cronJob => exact ⟨spec, (below_deeper opt obj (by decide) (by decide) _).trans carried, distinct, fun _ _ _ => rfl⟩
  | _ => exact ⟨spec, (below_deeper opt obj (by decide) (by decide) _).trans carried, distinct, fun _ _ _ => rfl⟩

/-! ### The whole -/

/-- Whether some image belongs to a Postgres engine. -/
def runsPostgres (spec : Fields) : Prop := runsEngine "postgres" spec = true ∨ runsEngine "timescale" spec = true

/-- What the sanitizer is to do about the volume group of a pod spec. -/
structure GroupSafe (before after : Fields) : Prop where
  nonzero : groupOf after ≠ some 0
  postgres : runsPostgres before → groupOf after = none
  others : ¬runsPostgres before → groupOf before ≠ some 0 → contextField "fsGroup" after = contextField "fsGroup" before
  context : ∀ key ≠ "fsGroup", contextField key after = contextField key before
  containers : ∀ key ∈ containerKeys, (after.lookup key).map contextsIn = (before.lookup key).map contextsIn

/-- The group, if it has to go, is one that the sanitizer sees: the pod spec has containers,
and the Postgres image among them is no Timescale one. -/
def GroupSeen (spec : Fields) : Prop :=
  ∀ group, groupOf spec = some group →
    (group = 0 → hasContainers spec = true) ∧
      (group ≠ 0 → runsEngine "timescale" spec = true → runsEngine "postgres" spec = true)

theorem groupSafe_iff {before after : Fields}
    (field : contextField "fsGroup" after = if dropsFSGroup before = true then none else contextField "fsGroup" before)
    (context : ∀ key ≠ "fsGroup", contextField key after = contextField key before)
    (containers : ∀ key ∈ containerKeys, (after.lookup key).map contextsIn = (before.lookup key).map contextsIn) :
    GroupSafe before after ↔ GroupSeen before := by
  have group : groupOf after = if dropsFSGroup before = true then none else groupOf before := by
    rw [groupOf, field, groupOf]
    split <;> rfl
  constructor
  · intro safe value found
    constructor
    · rintro rfl
      by_contra bare
      have kept : ¬dropsFSGroup before = true := fun drops => bare ((dropsFSGroup_iff before).mp drops).1
      rw [if_neg kept, found] at group
      exact safe.nonzero group
    · intro nonzero timescale
      have gone := safe.postgres (.inr timescale)
      rw [group] at gone
      split at gone
      · rename_i drops
        obtain ⟨_, same, read, reason⟩ := (dropsFSGroup_iff before).mp drops
        obtain rfl := Option.some.inj (found.symm.trans read)
        exact reason.resolve_left nonzero
      · simp [found] at gone
  · intro seen
    have drops : ∀ value, groupOf before = some value → value = 0 ∨ runsPostgres before →
        dropsFSGroup before = true := by
      intro value found reason
      refine (dropsFSGroup_iff before).mpr ?_
      by_cases zero : value = 0
      · exact ⟨(seen value found).1 zero, value, found, .inl zero⟩
      · have engine : runsEngine "postgres" before = true :=
          (reason.resolve_left zero).elim id ((seen value found).2 zero)
        exact ⟨hasContainers_of_runsEngine engine, value, found, .inr engine⟩
    refine ⟨?_, ?_, ?_, context, containers⟩
    · intro zero
      rw [group] at zero
      split at zero
      · cases zero
      · rename_i kept
        exact kept (drops 0 zero (.inl rfl))
    · intro postgres
      rw [group]
      split
      · rfl
      · rename_i kept
        cases found : groupOf before with
        | none => rfl
        | some value => exact absurd (drops value found (.inr postgres)) kept
    · intro other nonzero
      rw [field, if_neg]
      intro drops
      obtain ⟨_, value, found, reason⟩ := (dropsFSGroup_iff before).mp drops
      rcases reason with rfl | engine
      · exact nonzero found
      · exact other (.inl engine)

/-- The sanitizer does what it should about the volume group just if it sees it. -/
theorem object_fsGroup_iff (opt : Options) (kind : PodKind) {obj spec : Fields}
    (carried : obj.below kind.podSpecPath = some spec) (typed : TypedPod spec) :
    ∃ after, (object opt obj).below kind.podSpecPath = some after ∧ (GroupSafe spec after ↔ GroupSeen spec) := by
  obtain ⟨before, prepared, distinct, same⟩ := below_prepared opt kind carried typed.distinct
  have spares : sparesPods (tailsBelow kind.podSpecPath affinityPaths) = true := by cases kind <;> decide
  have owned : ∀ key ∈ ownershipKeys, before.lookup key = spec.lookup key := by
    have untouched : ∀ key ∈ ownershipKeys, key ∉ localKeys ∧ key ≠ "storageClassName" := by decide
    exact fun key member => same key (untouched key member).1 (untouched key member).2
  have contexts := owned "securityContext" (by decide)
  have field : ∀ key, contextField key before = contextField key spec := by
    intro key
    rw [contextField, Fields.child, contexts, contextField, Fields.child]
  have inert : ∀ value, before.lookup "securityContext" = some value → ∀ below ∈ mapsIn value, Inert below := by
    rw [contexts]
    exact typed.context
  have settled := contextField_settle opt.runtimeClassMap spares distinct inert
  refine ⟨_, by rw [object_eq_settle, below_settle _ (podSpecPath_past kind), prepared]; rfl, groupSafe_iff ?_ ?_ ?_⟩
  · rw [settled, dropsFSGroup_congr owned, field]
    cases dropsFSGroup spec <;> simp
  · intro key other
    rw [settled, if_neg fun both => other both.2, field]
  · intro key member
    have plain : ∀ key ∈ containerKeys, key ∈ ownershipKeys ∧ key ∉ walkedKeys := by decide
    obtain ⟨owning, unwalked⟩ := plain key member
    obtain ⟨kept, nothing⟩ := spared_of_mem spares owning
    rw [lookup_settle _ unwalked kept, nothing, owned key owning, Option.map_map]
    cases found : spec.lookup key with
    | none => rfl
    | some value =>
      refine congrArg some (contextsIn_settleValue _ ?_)
      rintro items rfl
      exact typed.containers key member items found

/-- The spec of a pod of one container, with a volume group. -/
def groupedSpec (image : String) (group : Int) : Fields := [
  ("containers", .array [.object [("name", .string "db"), ("image", .string image)]]),
  ("securityContext", .object [("fsGroup", .int group), ("runAsUser", .int 70)])]

def groupedPod (image : String) (group : Int) : Fields := [
  ("kind", .string "Pod"),
  ("metadata", .object [("name", .string "db-0")]),
  ("spec", .object (groupedSpec image group))]

theorem groupedSpec_typed (image : String) (group : Int) : TypedPod (groupedSpec image group) where
  distinct := (by decide : ["containers", "securityContext"].Nodup)
  context := by
    intro value found below member
    obtain rfl : _ = value := Option.some.inj found
    obtain rfl := List.mem_singleton.mp member
    simp [Inert, foreignKeys]
  containers := by
    intro key listed items found container member
    have single : items = [.object [("name", .string "db"), ("image", .string image)]] := by
      rcases List.mem_pair.mp listed with rfl | rfl
      · exact (Json.array.inj (Option.some.inj found)).symm
      · cases found
    subst single
    obtain rfl := Json.object.inj (List.mem_singleton.mp member)
    exact ⟨rfl, fun value missing => by cases missing⟩

theorem object_fsGroup_postgres : ∃ after, (object {} (groupedPod "postgres:16" 999)).below ["spec"] = some after ∧
    GroupSafe (groupedSpec "postgres:16" 999) after := by
  obtain ⟨after, carried, safe⟩ := object_fsGroup_iff {} .pod (rfl : (groupedPod "postgres:16" 999).below ["spec"] = _)
    (groupedSpec_typed "postgres:16" 999)
  refine ⟨after, carried, safe.mpr fun group found => ⟨fun _ => rfl, fun _ _ => ?_⟩⟩
  decide +kernel

/-- A Timescale pod keeps its group. -/
theorem object_fsGroup_timescale :
    runsPostgres (groupedSpec "timescale/timescaledb:2" 999) ∧
    ((object {} (groupedPod "timescale/timescaledb:2" 999)).below ["spec"]).bind groupOf = some 999 := by
  unfold runsPostgres
  decide +kernel

end Portage.Transform
