import Mathlib.Data.List.Infix
import Mathlib.Data.List.Nodup
import Portage.ClusterObjects.Exclude
import Portage.Go.Format
import Portage.Process.Keyed

/-! Which resources of a cluster belong to its object graph. -/
namespace Portage.ClusterObjects

open Go Process

def skipResource : List String := [
  "pods", "replicasets", "replicationcontrollers",
  "endpoints", "endpointslices", "events", "bindings",
  "componentstatuses", "limitranges",
  "tokenreviews", "subjectaccessreviews", "selfsubjectaccessreviews",
  "selfsubjectrulesreviews", "localsubjectaccessreviews",
  "leases", "nodes", "persistentvolumes", "persistentvolumeclaims",
  "volumeattachments", "csidrivers", "csinodes", "csistoragecapacities",
  "certificatesigningrequests", "apiservices",
  "flowschemas", "prioritylevelconfigurations",
  "runtimeclasses", "controllerrevisions", "evictions",
  "podtemplates", "statefulsets", "deployments", "daemonsets",
  "storageclasses", "volumeattributesclasses", "jobs",
  "volumesnapshots", "volumesnapshotcontents", "volumesnapshotclasses",
  "servicecidrs", "ipaddresses",
  "capsuleconfigurations",
  "replicationsources",
  "replicationdestinations"]

def skipGroup : List String := [
  "events.k8s.io", "metrics.k8s.io", "discovery.k8s.io", "coordination.k8s.io", "node.k8s.io",
  "authentication.k8s.io", "authorization.k8s.io", "portage.io", "apiregistration.k8s.io",
  "flowcontrol.apiserver.k8s.io", "admissionregistration.k8s.io", "volsync.backube",
  "k8up.io", "k8up.synextreme.com", "backup.appuio.io", "velero.io", "stash.appscode.com"]

/-- What a Policy says about the object graph. -/
structure ClusterObjectsSpec where
  includeClusterScoped : Option Bool := none
  excludeGVKs : List String := []
  deriving DecidableEq, Repr

def includeClusterScoped (spec : ClusterObjectsSpec) : Bool := spec.includeClusterScoped.getD true

structure APIResource where
  name : String
  namespaced : Bool := false
  kind : String := ""
  verbs : List String := []
  deriving DecidableEq, Repr

structure APIResourceList where
  groupVersion : String
  resources : List APIResource := []
  deriving DecidableEq, Repr

/-- What the two calls of the discovery client answer. Lists may come with an error. -/
structure Discovery where
  preferred : List APIResourceList × Option String := ([], none)
  all : List APIResourceList × Option String := ([], none)
  deriving DecidableEq, Repr

/-- The preferred resources, or all of them if there are none. -/
def Discovery.answer (d : Discovery) : List APIResourceList × Option String :=
  if d.preferred.1.isEmpty then d.all else d.preferred

/-- `schema.ParseGroupVersion`. -/
def parseGroupVersion (gv : String) : Option (String × String) :=
  if gv = "" ∨ gv = "/" then some ("", "")
  else
    match split '/' gv.toList with
    | [version] => some ("", String.ofList version)
    | [group, version] => some (String.ofList group, String.ofList version)
    | _ => none

/-- The key that a resource is remembered under, in any of its versions. -/
def seenKey (group resource : String) : String := group ++ "/" ++ resource

/-- One resource of a group version: add it, unless it was added in another version. -/
def discoverResource (spec : ClusterObjectsSpec) (group version : String) (seen : List String × List Ref)
    (r : APIResource) : List String × List Ref :=
  if contains r.name "/" then seen
  else if skipResource.contains r.name then seen
  else
    let key := seenKey group r.name
    if seen.1.contains key then seen
    else if r.namespaced = false ∧ r.name ≠ "customresourcedefinitions" ∧ includeClusterScoped spec = false then seen
    else
      let verbs := String.intercalate "," r.verbs
      if !contains verbs "list" || !contains verbs "create" then seen
      else
        let ref : Ref := { gvr := ⟨group, version, r.name⟩, namespaced := r.namespaced }
        if excludedGVR ref.gvr r.kind spec.excludeGVKs then seen
        else (key :: seen.1, seen.2 ++ [ref])

def discoverList (spec : ClusterObjectsSpec) (seen : List String × List Ref) (list : APIResourceList) :
    List String × List Ref :=
  match parseGroupVersion list.groupVersion with
  | none => seen
  | some (group, version) =>
    if skipGroup.contains group then seen
    else list.resources.foldl (discoverResource spec group version) seen

def discover (d : Discovery) (spec : ClusterObjectsSpec) : Except String (List Ref) :=
  match d.answer with
  | ([], some text) => .error text
  | (lists, _) => .ok (lists.foldl (discoverList spec) ([], [])).2

/-! ### The loop as one pass over the listed versions -/

/-- A listed version of a resource. -/
structure Entry where
  group : String
  version : String
  resource : APIResource
  deriving DecidableEq, Repr

def APIResourceList.entries (list : APIResourceList) : List Entry :=
  match parseGroupVersion list.groupVersion with
  | none => []
  | some (group, version) => list.resources.map (⟨group, version, ·⟩)

def Discovery.entries (d : Discovery) : List Entry := d.answer.1.flatMap APIResourceList.entries

def Entry.gvr (entry : Entry) : GVR := ⟨entry.group, entry.version, entry.resource.name⟩

/-- A listed version that can be copied, that no entry excludes, and that is in the scope. -/
structure Entry.Served (spec : ClusterObjectsSpec) (entry : Entry) : Prop where
  list : "list" ∈ entry.resource.verbs
  create : "create" ∈ entry.resource.verbs
  included : excludedGVR entry.gvr entry.resource.kind spec.excludeGVKs = false
  scope : entry.resource.namespaced = true ∨ entry.resource.name = "customresourcedefinitions" ∨
    includeClusterScoped spec = true

/-- The verbs of API resources and of access to them. -/
def kubeVerbs : List String := [
  "get", "list", "watch", "create", "update", "patch", "delete", "deletecollection", "proxy", "connect",
  "use", "bind", "escalate", "impersonate", "approve", "sign", "attest"]

/-- The verbs of every listed version are known ones. -/
def Discovery.Legal (d : Discovery) : Prop := ∀ entry ∈ d.entries, ∀ verb ∈ entry.resource.verbs, verb ∈ kubeVerbs

instance (d : Discovery) : Decidable d.Legal :=
  inferInstanceAs (Decidable (∀ entry ∈ d.entries, ∀ verb ∈ entry.resource.verbs, verb ∈ kubeVerbs))

def Ref.key (ref : Ref) : String := seenKey ref.gvr.group ref.gvr.resource

def Entry.key (entry : Entry) : String := seenKey entry.group entry.resource.name

/-- The reference to a listed version that passes every check. -/
def Entry.accepted (spec : ClusterObjectsSpec) (entry : Entry) : Option Ref :=
  if skipGroup.contains entry.group then none
  else if contains entry.resource.name "/" then none
  else if skipResource.contains entry.resource.name then none
  else if entry.resource.namespaced = false ∧ entry.resource.name ≠ "customresourcedefinitions" ∧
      includeClusterScoped spec = false then none
  else if !contains (String.intercalate "," entry.resource.verbs) "list" ||
      !contains (String.intercalate "," entry.resource.verbs) "create" then none
  else if excludedGVR entry.gvr entry.resource.kind spec.excludeGVKs then none
  else some { gvr := entry.gvr, namespaced := entry.resource.namespaced }

section
variable (spec : ClusterObjectsSpec)
variable {entry : Entry} {group : String} {verbs : List String}

private theorem takeNew_none (refused : entry.accepted spec = none) (seen : List String × List Ref) :
    Keyed.takeNew (Entry.accepted spec) Entry.key seen entry = seen := by
  simp [Keyed.takeNew, refused]

private theorem discoverResource_eq (kept : skipGroup.contains group = false) (version : String)
    (seen : List String × List Ref) (r : APIResource) :
    discoverResource spec group version seen r =
      Keyed.takeNew (Entry.accepted spec) Entry.key seen ⟨group, version, r⟩ := by
  unfold discoverResource Keyed.takeNew Entry.accepted
  simp only [kept, Entry.key, Entry.gvr, List.contains_iff_mem]
  split
  · simp
  · split
    · simp
    · split
      · simp
      · split
        · simp
        · split
          · simp
          · split <;> (rename_i excluded; simp [excluded])

private theorem discoverList_eq (seen : List String × List Ref) (list : APIResourceList) :
    discoverList spec seen list = list.entries.foldl (Keyed.takeNew (Entry.accepted spec) Entry.key) seen := by
  unfold discoverList APIResourceList.entries
  cases parseGroupVersion list.groupVersion with
  | none => rfl
  | some gv =>
    obtain ⟨group, version⟩ := gv
    dsimp only
    rw [List.foldl_map]
    split
    · rename_i skipped
      have refused (r : APIResource) : (⟨group, version, r⟩ : Entry).accepted spec = none := by
        simp only [Entry.accepted, skipped, ↓reduceIte]
      simp only [takeNew_none spec (refused _)]
      exact (List.foldl_fixed list.resources).symm
    · rename_i kept
      congr 1
      funext seen r
      exact discoverResource_eq spec (by simpa using kept) version seen r

private theorem foldl_discoverList (lists : List APIResourceList) (seen : List String × List Ref) :
    lists.foldl (discoverList spec) seen =
      (lists.flatMap APIResourceList.entries).foldl (Keyed.takeNew (Entry.accepted spec) Entry.key) seen := by
  rw [List.foldl_flatMap]
  congr 1
  funext seen list
  exact discoverList_eq spec seen list

/-! ### Verbs -/

omit spec in
/-- Of the known verbs only the verb itself contains one of the two that are looked for. -/
private theorem contains_verbs (legal : ∀ verb ∈ verbs, verb ∈ kubeVerbs) {wanted : String}
    (plain : ',' ∉ wanted.toList) (some : wanted.toList ≠ [])
    (alone : ∀ verb ∈ kubeVerbs, wanted.toList <:+: verb.toList → verb = wanted) :
    contains (String.intercalate "," verbs) wanted = true ↔ wanted ∈ verbs := by
  have comma : ",".toList = [','] := rfl
  rw [contains_iff, String.toList_intercalate, comma, infix_intercalate plain some]
  simp only [List.mem_map, exists_exists_and_eq_and]
  constructor
  · rintro ⟨verb, listed, inside⟩
    exact alone verb (legal verb listed) inside ▸ listed
  · intro listed
    exact ⟨wanted, listed, List.infix_refl _⟩

private theorem contains_list (legal : ∀ verb ∈ verbs, verb ∈ kubeVerbs) :
    contains (String.intercalate "," verbs) "list" = true ↔ "list" ∈ verbs :=
  contains_verbs legal (by decide) (by decide) (by decide)

private theorem contains_create (legal : ∀ verb ∈ verbs, verb ∈ kubeVerbs) :
    contains (String.intercalate "," verbs) "create" = true ↔ "create" ∈ verbs :=
  contains_verbs legal (by decide) (by decide) (by decide)

omit spec in
theorem contains_slash (name : String) : contains name "/" = true ↔ '/' ∈ name.toList := by
  have slash : "/".toList = ['/'] := rfl
  rw [contains_iff, slash]
  exact List.singleton_infix_iff '/' name.toList

/-- What the checks ask of a listed version. -/
theorem isSome_accepted (legal : ∀ verb ∈ entry.resource.verbs, verb ∈ kubeVerbs) :
    (entry.accepted spec).isSome = true ↔ '/' ∉ entry.resource.name.toList ∧ entry.group ∉ skipGroup ∧
      entry.resource.name ∉ skipResource ∧ entry.Served spec := by
  have verbs : (!contains (String.intercalate "," entry.resource.verbs) "list" ||
      !contains (String.intercalate "," entry.resource.verbs) "create") = true ↔
        ¬ ("list" ∈ entry.resource.verbs ∧ "create" ∈ entry.resource.verbs) := by
    rw [← contains_list legal, ← contains_create legal]
    simp only [Bool.or_eq_true, Bool.not_eq_true', not_and_or, Bool.not_eq_true]
  unfold Entry.accepted
  simp only [verbs, contains_slash, List.contains_iff_mem]
  constructor
  · intro given
    obtain ⟨ref, accepted⟩ := Option.isSome_iff_exists.mp given
    split_ifs at accepted with group slash name scope supported excluded
    obtain ⟨list, create⟩ := supported
    refine ⟨slash, group, name, list, create, by simpa using excluded, ?_⟩
    by_contra outside
    simp only [not_or, Bool.not_eq_true] at outside
    exact scope outside
  · rintro ⟨slash, group, name, list, create, included, scope⟩
    have inside : ¬ (entry.resource.namespaced = false ∧ entry.resource.name ≠ "customresourcedefinitions" ∧
        includeClusterScoped spec = false) := by
      rintro ⟨cluster, other, out⟩
      simp [cluster, other, out] at scope
    simp [slash, group, name, inside, list, create, included]

omit spec in
private theorem seenKey_inj {group' resource resource' : String} (plain : '/' ∉ resource.toList)
    (plain' : '/' ∉ resource'.toList) (same : seenKey group resource = seenKey group' resource') :
    group = group' ∧ resource = resource' := by
  have text : group.toList ++ '/' :: resource.toList = group'.toList ++ '/' :: resource'.toList := by
    simpa [seenKey] using congrArg String.toList same
  -- The last slash parts the two, since the resource has none.
  have reversed := congrArg (fun text => cutAt '/' text.reverse) text
  simp only [List.reverse_append, List.reverse_cons, List.append_assoc, List.singleton_append] at reversed
  rw [cutAt_append (by simpa using plain), cutAt_append (by simpa using plain')] at reversed
  simp only [Prod.mk.injEq, List.reverse_inj, Option.some.injEq, String.toList_inj] at reversed
  exact reversed.symm

private theorem of_accepted {ref : Ref} (accepted : entry.accepted spec = some ref) :
    ref.gvr = entry.gvr ∧ '/' ∉ ref.gvr.resource.toList := by
  unfold Entry.accepted at accepted
  split_ifs at accepted with group slash name scope verbs excluded
  obtain rfl := Option.some.inj accepted
  exact ⟨rfl, fun inside => slash ((contains_slash _).mpr inside)⟩

/-- What the loop has collected at its end. -/
private def Discovery.found (d : Discovery) : List String × List Ref :=
  d.entries.foldl (Keyed.takeNew (Entry.accepted spec) Entry.key) ([], [])

private theorem discover_cases (d : Discovery) :
    (∃ text, d.answer = ([], some text) ∧ discover d spec = .error text) ∨ discover d spec = .ok (d.found spec).2 := by
  rw [Discovery.found, Discovery.entries, ← foldl_discoverList]
  unfold discover
  rcases d.answer with ⟨lists, failure⟩
  cases lists with
  | cons list rest => exact .inr (by cases failure <;> rfl)
  | nil =>
    cases failure with
    | none => exact .inr rfl
    | some text => exact .inl ⟨text, rfl, rfl⟩

private theorem found_keys (d : Discovery) :
    (d.found spec).2.map Ref.key = (d.found spec).1.reverse ∧ (d.found spec).1.Nodup := by
  refine Keyed.foldl_takeNew_keys (fun entry ref accepted => ?_) d.entries rfl List.nodup_nil
  rw [Ref.key, (of_accepted spec accepted).1]
  rfl

private theorem found_plain {d : Discovery} {ref : Ref} (member : ref ∈ (d.found spec).2) :
    '/' ∉ ref.gvr.resource.toList := by
  rcases Keyed.of_mem_foldl_takeNew d.entries member with none | ⟨entry, _, accepted⟩
  · simp at none
  · exact (of_accepted spec accepted).2

/-- A resource is found if one of its listed versions is accepted. -/
private theorem mem_found_iff {d : Discovery} {resource : String} (plain : '/' ∉ resource.toList) :
    (∃ ref ∈ (d.found spec).2, ref.gvr.group = group ∧ ref.gvr.resource = resource) ↔
      ∃ entry ∈ d.entries, entry.key = seenKey group resource ∧ (entry.accepted spec).isSome = true := by
  have noted : seenKey group resource ∈ (d.found spec).1 ↔ seenKey group resource ∈ [] ∨
      ∃ entry ∈ d.entries, entry.key = seenKey group resource ∧ (entry.accepted spec).isSome = true :=
    Keyed.mem_foldl_takeNew d.entries ([], []) (seenKey group resource)
  rw [List.mem_nil_iff, false_or] at noted
  rw [← noted, ← List.mem_reverse, ← (found_keys spec d).1, List.mem_map]
  constructor
  · rintro ⟨ref, member, rfl, rfl⟩
    exact ⟨ref, member, rfl⟩
  · rintro ⟨ref, member, key⟩
    exact ⟨ref, member, seenKey_inj (found_plain spec member) plain key⟩

end

/-- Unless the answer is an error without a list, the resources of an answer over the known
verbs that belong to the object graph are returned, each in one version. -/
theorem discover_refs {d : Discovery} (legal : d.Legal) (spec : ClusterObjectsSpec) :
    (∃ text, d.answer = ([], some text) ∧ discover d spec = .error text) ∨ ∃ refs, discover d spec = .ok refs ∧
      (refs.map fun ref => (ref.gvr.group, ref.gvr.resource)).Nodup ∧
      ∀ group resource, (∃ ref ∈ refs, ref.gvr.group = group ∧ ref.gvr.resource = resource) ↔
        '/' ∉ resource.toList ∧ group ∉ skipGroup ∧ resource ∉ skipResource ∧
          ∃ entry ∈ d.entries, entry.group = group ∧ entry.resource.name = resource ∧ entry.Served spec := by
  refine (discover_cases spec d).imp_right fun computed => ⟨_, computed, ?_, fun group resource => ?_⟩
  · obtain ⟨keys, once⟩ := found_keys spec d
    have distinct : ((d.found spec).2.map Ref.key).Nodup := by
      rw [keys]
      exact List.nodup_reverse.mpr once
    have through : (d.found spec).2.map Ref.key =
        ((d.found spec).2.map fun ref => (ref.gvr.group, ref.gvr.resource)).map fun pair => seenKey pair.1 pair.2 := by
      rw [List.map_map]
      rfl
    exact List.Nodup.of_map _ (through ▸ distinct)
  · by_cases plain : '/' ∈ resource.toList
    · refine iff_of_false ?_ fun given => given.1 plain
      rintro ⟨ref, member, _, rfl⟩
      exact found_plain spec member plain
    · rw [mem_found_iff spec plain]
      constructor
      · rintro ⟨entry, listed, key, accepted⟩
        obtain ⟨slash, kept, name, served⟩ := (isSome_accepted spec (legal entry listed)).mp accepted
        obtain ⟨rfl, rfl⟩ := seenKey_inj slash plain key
        exact ⟨slash, kept, name, entry, listed, rfl, rfl, served⟩
      · rintro ⟨_, kept, name, entry, listed, rfl, rfl, served⟩
        exact ⟨entry, listed, rfl, (isSome_accepted spec (legal entry listed)).mpr ⟨plain, kept, name, served⟩⟩

/-- A custom resource in two versions, the first of which is excluded, next to its status
and to a cluster-scoped kind of another group. -/
def widgetDiscovery : Discovery where
  all := ([
    { groupVersion := "acme.io/v1", resources := [
        { name := "widgets", namespaced := true, kind := "Widget", verbs := ["get", "list", "create"] },
        { name := "widgets/status", namespaced := true, kind := "Widget", verbs := ["get", "update"] }] },
    { groupVersion := "acme.io/v1beta1", resources := [
        { name := "widgets", namespaced := true, kind := "Widget", verbs := ["deletecollection", "create", "list"] }] }],
    some "unable to retrieve the complete list of server APIs")

/-- The second version stands for the resource. -/
theorem discover_refs_widget : ∃ refs, discover widgetDiscovery { excludeGVKs := ["acme.io/v1/Widget"] } = .ok refs ∧
    ∃ ref ∈ refs, ref.gvr.group = "acme.io" ∧ ref.gvr.resource = "widgets" := by
  have legal : widgetDiscovery.Legal := by decide
  obtain ⟨text, empty, _⟩ | ⟨refs, computed, _, found⟩ := discover_refs legal { excludeGVKs := ["acme.io/v1/Widget"] }
  · simp [widgetDiscovery, Discovery.answer] at empty
  refine ⟨refs, computed, (found "acme.io" "widgets").mpr ⟨by decide, by decide, by decide, ?_⟩⟩
  exact ⟨⟨"acme.io", "v1beta1",
      { name := "widgets", namespaced := true, kind := "Widget", verbs := ["deletecollection", "create", "list"] }⟩,
    by decide, rfl, rfl, by decide, by decide, by decide, .inl rfl⟩

end Portage.ClusterObjects
