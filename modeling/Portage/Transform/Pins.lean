import Portage.Transform.Settle

/-! Which pins to nodes the sanitizer takes off pod specs. -/
namespace Portage.Transform

open Go

/-! ### Before the walks -/

section
variable {key : String}

theorem lookup_setStrings {first : String} (apart : key ≠ first) (path : List String)
    (entries : List (String × String)) (obj : Fields) :
    (setStrings (first :: path) entries obj).lookup key = obj.lookup key := by
  unfold setStrings
  split
  · exact Fields.lookup_removeNested_ne apart _ _
  · exact Fields.lookup_setNested_ne apart _ _ _

/-- Outside of the metadata, dropping the cluster-local fields removes some paths. -/
theorem lookup_dropLocal (apart : key ≠ "metadata") (kept : [key] ∉ localPaths) (obj : Fields) :
    (dropLocal obj).lookup key = (obj.lookup key).map (removeBelow (tailsUnder key localPaths)) := by
  rw [dropLocal, labelsPath, lookup_setStrings apart, annotationsPath, lookup_setStrings apart, lookup_removeAll kept]

theorem lookup_remapStorageClass (apart : key ≠ "spec") (opt : Options) (obj : Fields) :
    (remapStorageClass opt obj).lookup key = obj.lookup key := by
  have set (value : Json) : (obj.setNested storageClassPath value).lookup key = obj.lookup key :=
    Fields.lookup_setNested_ne apart _ _ _
  simp only [remapStorageClass]
  split
  · split
    · exact set _
    · rfl
  · exact set _

/-- Setting the storage class leaves the other fields of the spec. -/
theorem nested_remapStorageClass (apart : key ≠ "storageClassName") (opt : Options) (obj : Fields) :
    (remapStorageClass opt obj).nested ["spec", key] = obj.nested ["spec", key] := by
  have set (value : Json) : (obj.setNested storageClassPath value).nested ["spec", key] = obj.nested ["spec", key] := by
    rw [Fields.nested_cons, Fields.nested_cons, Fields.child, Fields.child, storageClassPath,
      Fields.lookup_setNested_self]
    cases obj.lookup "spec" with
    | none => simp [Json.fields?, Fields.nested, Fields.setNested, Fields.lookup_put, apart]
    | some value =>
      cases value with
      | object inner => simp [Json.fields?, Fields.nested, Fields.setNested, Fields.lookup_put, apart]
      | _ => rfl
  simp only [remapStorageClass]
  split
  · split
    · exact set _
    · rfl
  · exact set _

/-- The fields of the spec that are removed first. -/
def localKeys : List String := ["volumeName", "clusterIP", "clusterIPs", "nodeName"]

theorem nested_dropLocal (untouched : key ∉ localKeys) (obj : Fields) :
    (dropLocal obj).nested ["spec", key] = obj.nested ["spec", key] := by
  rw [Fields.nested_cons, Fields.nested_cons, Fields.child, Fields.child, lookup_dropLocal (by decide) (by decide)]
  cases obj.lookup "spec" with
  | none => rfl
  | some value =>
    cases value with
    | object inner =>
      have kept : [key] ∉ tailsUnder "spec" localPaths := by
        simpa [tailsUnder, localPaths, localKeys] using untouched
      have nothing : tailsUnder key (tailsUnder "spec" localPaths) = [] := rfl
      exact (lookup_removeAll kept inner).trans (by rw [nothing, removeBelow_nil, Option.map_id]; rfl)
    | _ => rfl

theorem nested_prepared (untouched : key ∉ localKeys) (storage : key ≠ "storageClassName") (rest : List String)
    (opt : Options) (obj : Fields) :
    (remapStorageClass opt (dropLocal obj)).nested ("spec" :: key :: rest) = obj.nested ("spec" :: key :: rest) := by
  refine Fields.nested_eq_of_start "spec" [key] rest ?_
  rw [nested_remapStorageClass storage, nested_dropLocal untouched]

end

/-! ### Pins -/

/-- The kinds of objects that carry a pod spec. -/
inductive PodKind where
  | pod
  | deployment
  | statefulSet
  | daemonSet
  | job
  | cronJob
  deriving DecidableEq, Repr

/-- Where the pod spec is. -/
def PodKind.podSpecPath : PodKind → List String
  | pod => ["spec"]
  | deployment | statefulSet | daemonSet | job => ["spec", "template", "spec"]
  | cronJob => ["spec", "jobTemplate", "spec", "template", "spec"]

/-- A pod spec that any node of any cluster fits. -/
structure Unpinned (spec : Fields) : Prop where
  nodeSelector : spec.lookup "nodeSelector" = none
  nodeName : spec.lookup "nodeName" = none
  nodeAffinity : spec.nested ["affinity", "nodeAffinity"] = none
  topologySpreadConstraints : spec.lookup "topologySpreadConstraints" = none
  tolerations : ∀ items, spec.lookup "tolerations" = some (.array items) → ∀ item ∈ items, localToleration item = false


section
variable (classes : GoMap String String) (paths : List (List String)) (spec : Fields)

theorem localToleration_stripTolerationItem (item : Json) :
    localToleration (stripTolerationItem item) = localToleration item := by
  cases item with
  | object fields =>
    simp only [stripTolerationItem, localToleration, lookup_stripClusterLocalTolerations (by decide : "key" ≠ "tolerations")]
    cases fields.lookup "key" with
    | none => rfl
    | some value => cases value <;> rfl
  | _ => rfl

theorem localToleration_stripFSGroupItem (item : Json) :
    localToleration (stripFSGroupItem item) = localToleration item := by
  cases item with
  | object fields =>
    simp only [stripFSGroupItem, localToleration,
      lookup_stripFSGroupEntries (by decide : "key" ≠ "securityContext") (by decide : "key" ≠ "fsGroup")]
    cases fields.lookup "key" with
    | none => rfl
    | some value => cases value <;> rfl
  | _ => rfl

/-- The items that are kept of a list of tolerations. -/
theorem stripTolerationItems_true (items : List Json) : stripTolerationItems true items =
    (items.filter fun item => !localToleration item).map stripTolerationItem := by
  induction items with
  | nil => rfl
  | cons item rest ih =>
    rw [stripTolerationItems, List.filter_cons]
    cases localToleration item with
    | true => simpa using ih
    | false => simpa using ih

/-- No cluster-local toleration is left in a map. -/
theorem stripClusterLocalTolerations_foreign {fields : Fields} {items : List Json}
    (left : (stripClusterLocalTolerations fields).lookup "tolerations" = some (.array items)) :
    ∀ item ∈ items, localToleration item = false := by
  induction fields with
  | nil => simp [stripClusterLocalTolerations] at left
  | cons entry rest ih =>
    obtain ⟨name, value⟩ := entry
    rw [stripClusterLocalTolerations] at left
    by_cases here : name = "tolerations"
    · subst here
      by_cases emptied : stripTolerationValue true value = .array []
      · exact ih (by simpa [emptied] using left)
      · have stripped : stripTolerationValue true value = .array items := by simpa [emptied] using left
        cases value with
        | array before =>
          obtain rfl : stripTolerationItems true before = items := Json.array.inj stripped
          intro item member
          rw [stripTolerationItems_true] at member
          obtain ⟨kept, within, rfl⟩ := List.mem_map.mp member
          rw [localToleration_stripTolerationItem]
          simpa using (List.mem_filter.mp within).2
        | _ => simp [stripTolerationValue] at stripped
    · have other : "tolerations" ≠ name := Ne.symm here
      simp only [here, false_and, if_false, Fields.lookup_cons, other] at left
      exact ih left

theorem settle_foreign {items : List Json} (left : (settle classes paths spec).lookup "tolerations" = some (.array items)) :
    ∀ item ∈ items, localToleration item = false := by
  rw [settle, stripPodFSGroup, lookup_stripFSGroupEntries (by decide) (by decide)] at left
  obtain ⟨before, found, stripped⟩ := Option.map_eq_some_iff.mp left
  cases before with
  | array kept =>
    obtain rfl : stripFSGroupItems kept = items := Json.array.inj stripped
    intro item member
    rw [stripFSGroupItems_eq_map] at member
    obtain ⟨source, within, rfl⟩ := List.mem_map.mp member
    rw [localToleration_stripFSGroupItem]
    exact stripClusterLocalTolerations_foreign found source within
  | _ => simp [stripFSGroupValue] at stripped

/-- A field of a pod spec is gone just if it is removed or was not there. -/
theorem lookup_settle_eq_none_iff {key : String} (plain : key ∉ walkedKeys) :
    (settle classes paths spec).lookup key = none ↔ [key] ∈ paths ∨ spec.lookup key = none := by
  by_cases removed : [key] ∈ paths
  · simp [removed, lookup_settle_mem classes plain removed]
  · rw [lookup_settle classes plain removed, Option.map_eq_none_iff]
    simp [removed]

end

section
variable (opt : Options) (obj : Fields)

/-- A field under a path is gone just if it is removed or was not there. -/
theorem nested_object_eq_none_iff {front : List String} {key : String} (past : leadsPast affinityPaths front = true)
    (plain : key ∉ walkedKeys) : (object opt obj).nested (front ++ [key]) = none ↔
      [key] ∈ tailsBelow front affinityPaths ∨
        (remapStorageClass opt (dropLocal obj)).nested (front ++ [key]) = none := by
  rw [object_eq_settle, Fields.nested_append, below_settle _ past, Fields.nested_append]
  cases (remapStorageClass opt (dropLocal obj)).below front with
  | none => simp
  | some spec => exact lookup_settle_eq_none_iff _ _ _ plain

def pinPaths : List (List String) :=
  [["nodeSelector"], ["nodeName"], ["affinity", "nodeAffinity"], ["topologySpreadConstraints"]]

theorem podSpecPath_past (kind : PodKind) : leadsPast affinityPaths kind.podSpecPath = true := by
  cases kind <;> decide

/-- The tolerations never pin a pod spec that went through the sanitizer. -/
theorem unpinned_iff_pinPaths (kind : PodKind) :
    (∀ spec, (object opt obj).below kind.podSpecPath = some spec → Unpinned spec) ↔
      ∀ pin ∈ pinPaths, (object opt obj).nested (kind.podSpecPath ++ pin) = none := by
  have under : ∀ key rest, (object opt obj).nested (kind.podSpecPath ++ key :: rest) =
      ((object opt obj).below kind.podSpecPath).bind (Fields.nested (key :: rest)) :=
    fun key rest => Fields.nested_append _ _ _ _
  simp only [pinPaths, List.forall_mem_cons, List.not_mem_nil, false_imp_iff, implies_true, and_true, under]
  cases carried : (object opt obj).below kind.podSpecPath with
  | none => simp
  | some spec =>
    have settled : ∃ before, spec = settle opt.runtimeClassMap (tailsBelow kind.podSpecPath affinityPaths) before := by
      rw [object_eq_settle, below_settle _ (podSpecPath_past kind)] at carried
      obtain ⟨before, _, same⟩ := Option.map_eq_some_iff.mp carried
      exact ⟨before, same.symm⟩
    constructor
    · intro unpinned
      obtain ⟨selector, name, affinity, spread, _⟩ := unpinned spec rfl
      exact ⟨selector, name, affinity, spread⟩
    · rintro ⟨selector, name, affinity, spread⟩ _ found
      obtain rfl := Option.some.inj found
      obtain ⟨before, rfl⟩ := settled
      exact ⟨selector, name, affinity, spread, fun items left => settle_foreign _ _ _ left⟩

/-- The pins that are on no list of removed paths for the kind. -/
def PodKind.unlisted : PodKind → List (List String)
  | pod => [["topologySpreadConstraints"]]
  | deployment | statefulSet | daemonSet | job => []
  | cronJob => [["affinity", "nodeAffinity"], ["topologySpreadConstraints"]]

theorem nested_unlisted {kind : PodKind} {pin : List String} (unlisted : pin ∈ kind.unlisted) :
    (remapStorageClass opt (dropLocal obj)).nested (kind.podSpecPath ++ pin) = obj.nested (kind.podSpecPath ++ pin) := by
  cases kind with
  | pod =>
    obtain rfl := List.mem_singleton.mp unlisted
    exact nested_prepared (by decide) (by decide) _ opt obj
  | cronJob =>
    have listed : ∀ pin ∈ PodKind.cronJob.unlisted, ∃ rest, PodKind.cronJob.podSpecPath ++ pin = "spec" :: "jobTemplate" :: rest :=
      fun pin _ => ⟨_, rfl⟩
    obtain ⟨rest, split⟩ := listed pin unlisted
    rw [split]
    exact nested_prepared (by decide) (by decide) rest opt obj
  | _ => exact absurd unlisted List.not_mem_nil

/-- Which pins are on a list, kind by kind. -/
theorem mem_tailsBelow_pin (kind : PodKind) : ∀ pin ∈ pinPaths,
    leadsPast affinityPaths (kind.podSpecPath ++ pin.dropLast) = true ∧ pin.getLastD "" ∉ walkedKeys ∧
      pin.dropLast ++ [pin.getLastD ""] = pin ∧
      ([pin.getLastD ""] ∈ tailsBelow (kind.podSpecPath ++ pin.dropLast) affinityPaths ↔ pin ∉ kind.unlisted) := by
  cases kind <;> decide

/-- The sanitizer unpins a pod spec just if the pins that it has no path for were not set. -/
theorem object_unpinned_iff (kind : PodKind) :
    (∀ spec, (object opt obj).below kind.podSpecPath = some spec → Unpinned spec) ↔
      ∀ pin ∈ kind.unlisted, obj.nested (kind.podSpecPath ++ pin) = none := by
  have each : ∀ pin ∈ pinPaths, (object opt obj).nested (kind.podSpecPath ++ pin) = none ↔
      (pin ∈ kind.unlisted → obj.nested (kind.podSpecPath ++ pin) = none) := by
    intro pin member
    obtain ⟨past, plain, split, removed⟩ := mem_tailsBelow_pin kind pin member
    have gone := nested_object_eq_none_iff opt obj past plain
    rw [List.append_assoc, split, removed] at gone
    rw [gone]
    by_cases unlisted : pin ∈ kind.unlisted
    · simp [unlisted, nested_unlisted opt obj unlisted]
    · simp [unlisted]
  have pins : ∀ pin ∈ kind.unlisted, pin ∈ pinPaths := by cases kind <;> decide
  rw [unpinned_iff_pinPaths]
  constructor
  · intro gone pin unlisted
    exact (each pin (pins pin unlisted)).mp (gone pin (pins pin unlisted)) unlisted
  · intro absent pin member
    exact (each pin member).mpr fun unlisted => absent pin unlisted

end

/-- Spread over the zones of the source. -/
def zoneSpread : Json := .array [.object [("topologyKey", .string "topology.kubernetes.io/zone"), ("maxSkew", .int 1)]]

def spreadPod : Fields := [
  ("kind", .string "Pod"),
  ("metadata", .object [("name", .string "web")]),
  ("spec", .object [("nodeName", .string "node-1"), ("topologySpreadConstraints", zoneSpread)])]

/-- Required to run on a node of the source. -/
def nodePin : Json := .object [("requiredDuringSchedulingIgnoredDuringExecution", .object [("nodeSelectorTerms", .array [])])]

def pinnedCronJob : Fields := [
  ("kind", .string "CronJob"),
  ("metadata", .object [("name", .string "nightly")]),
  ("spec", .object [("jobTemplate", .object [("spec", .object [("template", .object [("spec", .object [
    ("affinity", .object [("nodeAffinity", nodePin)]),
    ("topologySpreadConstraints", zoneSpread)])])])])])]

/-- A Pod keeps its spread constraints, and a CronJob keeps them and its node affinity. -/
theorem object_pinned :
    (object {} spreadPod).nested ["spec", "topologySpreadConstraints"] = some zoneSpread ∧
    (object {} pinnedCronJob).nested (PodKind.cronJob.podSpecPath ++ ["affinity", "nodeAffinity"]) = some nodePin ∧
    (object {} pinnedCronJob).nested (PodKind.cronJob.podSpecPath ++ ["topologySpreadConstraints"]) = some zoneSpread ∧
    ¬∀ spec, (object {} spreadPod).below PodKind.pod.podSpecPath = some spec → Unpinned spec := by
  refine ⟨by decide +kernel, by decide +kernel, by decide +kernel, fun unpinned => ?_⟩
  have spread := (unpinned _ rfl).topologySpreadConstraints
  revert spread
  decide +kernel

end Portage.Transform
