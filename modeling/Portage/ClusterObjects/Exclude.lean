import Portage.ClusterObjects.Graph

/-! Entries that keep resources out of the object graph: how one is read, and what it
matches of a custom resource and of its definition. -/
namespace Portage.ClusterObjects

open Go

structure ExcludePat where
  group : String := ""
  version : String := ""
  kind : String := ""
  resource : String := ""
  crdName : String := ""
  deriving DecidableEq, Repr

def parseExclude (raw : String) : ExcludePat :=
  let s := trimSpace raw
  match split '/' s.toList with
  | [group, version, kind] =>
    { group := String.ofList group, version := String.ofList version, kind := String.ofList kind }
  | [group, kind] => { group := String.ofList group, kind := String.ofList kind }
  | _ =>
    match cutAt '.' s.toList with
    | (resource, some group) => { crdName := s, resource := String.ofList resource, group := String.ofList group }
    | (_, none) => { resource := s }

/-- Whether a resource is the usual plural of a kind. -/
def kindMatchesResource (kind resource : String) : Bool :=
  if kind = "" ∨ resource = "" then false
  else
    let (k, r) := (toLower kind, toLower resource)
    (k == r || k ++ "s" == r || k ++ "es" == r) ||
      (hasSuffix k "y" && String.ofList k.toList.dropLast ++ "ies" == r) ||
      (hasSuffix k "ss" && k ++ "es" == r) ||
      (hasSuffix k "class" && String.ofList (k.toList.take (k.length - 5)) ++ "classes" == r)

/-- Whether an entry matches the instances of a resource. -/
def ExcludePat.matchGVR (p : ExcludePat) (gvr : GVR) (kind : String) : Bool :=
  if p.crdName ≠ "" ∧ gvr.group ≠ "" ∧ (equalFold (gvr.resource ++ "." ++ gvr.group) p.crdName ∨
      equalFold gvr.resource p.resource ∧ equalFold gvr.group p.group) then true
  else if p.resource ≠ "" ∧ p.group = "" ∧ equalFold gvr.resource p.resource then true
  else if p.resource ≠ "" ∧ p.group ≠ "" ∧ p.kind = "" ∧ p.crdName = "" ∧ equalFold gvr.resource p.resource ∧
      equalFold gvr.group p.group then true
  else if p.group = "" ∨ p.kind = "" then false
  else if !equalFold gvr.group p.group then false
  else if p.version ≠ "" ∧ !equalFold gvr.version p.version then false
  else if kind ≠ "" ∧ equalFold kind p.kind then true
  else kindMatchesResource p.kind gvr.resource

/-- Whether an entry matches the definition of a resource. -/
def ExcludePat.matchCRD (p : ExcludePat) (obj : Fields) : Bool :=
  let name := nameOf obj
  let g := (obj.nestedString ["spec", "group"]).getD ""
  let k := (obj.nestedString ["spec", "names", "kind"]).getD ""
  let plural := (obj.nestedString ["spec", "names", "plural"]).getD ""
  if p.crdName ≠ "" ∧ equalFold name p.crdName then true
  else if p.resource ≠ "" ∧ p.group ≠ "" ∧ equalFold name (p.resource ++ "." ++ p.group) then true
  else if p.kind ≠ "" ∧ p.group ≠ "" ∧ (equalFold g p.group ∧ equalFold k p.kind ∨
      equalFold g p.group ∧ kindMatchesResource p.kind plural ∨
      (cutAt '.' name.toList).2.any fun group => (cutAt '.' name.toList).1 != [] &&
        equalFold (String.ofList group) p.group &&
        kindMatchesResource p.kind (String.ofList (cutAt '.' name.toList).1)) then true
  else if p.resource ≠ "" ∧ p.group = "" ∧ equalFold plural p.resource then true
  else decide (p.crdName ≠ "" ∧ g ≠ "" ∧ plural ≠ "" ∧ equalFold (plural ++ "." ++ g) p.crdName)

def excludedGVR (gvr : GVR) (kind : String) (exclude : List String) : Bool :=
  exclude.any fun raw => (parseExclude raw).matchGVR gvr kind

def excludedObj (gvr : GVR) (obj : Fields) (exclude : List String) : Bool :=
  exclude.any fun raw =>
    (parseExclude raw).matchGVR gvr (kindOf obj) ||
      (gvr.resource == "customresourcedefinitions" && (parseExclude raw).matchCRD obj)

/-! ### Definitions -/

def crdGVR : GVR := ⟨"apiextensions.k8s.io", "v1", "customresourcedefinitions"⟩

/-- A CustomResourceDefinition and the versions that it serves. -/
structure Definition where
  group : String
  kind : String
  plural : String
  served : List String
  obj : Fields
  isDefinition : kindOf obj = "CustomResourceDefinition"
  named : nameOf obj = plural ++ "." ++ group
  grouped : obj.nestedString ["spec", "group"] = some group
  kinded : obj.nestedString ["spec", "names", "kind"] = some kind
  pluralled : obj.nestedString ["spec", "names", "plural"] = some plural
  group_ne : group ≠ ""
  kind_ne : kind ≠ ""
  plural_ne : plural ≠ ""
  label : '.' ∉ plural.toList

/-- The resource of a definition at one version. -/
def Definition.gvr (crd : Definition) (version : String) : GVR := ⟨crd.group, version, crd.plural⟩

/-- Whether the group and the kind of an entry are those of a definition. -/
def ExcludePat.NamesKind (p : ExcludePat) (crd : Definition) : Prop :=
  p.kind ≠ "" ∧ equalFold crd.group p.group = true ∧
    (equalFold crd.kind p.kind = true ∨ kindMatchesResource p.kind crd.plural = true)

/-! ### Entries -/

/-- What an entry can look like once it is read. -/
inductive ExcludePat.Shape : ExcludePat → Prop where
  | kinded (group version kind : String) : Shape { group, version, kind }
  | named (resource group : String) : Shape { crdName := resource ++ "." ++ group, resource, group }
  | plain (resource : String) : Shape { resource }

theorem parseExclude_shape (raw : String) : (parseExclude raw).Shape := by
  unfold parseExclude
  simp only
  split
  · exact .kinded _ _ _
  · exact .kinded _ "" _
  · split
    · rename_i resource group cut
      have whole := (cutAt_some cut).1
      have text : trimSpace raw = String.ofList resource ++ "." ++ String.ofList group := by
        rw [← String.toList_inj]
        simpa using whole
      rw [text]
      exact .named _ _
    · exact .plain _

/-- What matches a definition is what matches its instances, once the version of the
entry is forgotten. -/
theorem matchCRD_eq {p : ExcludePat} (shape : p.Shape) (crd : Definition) (version : String) :
    p.matchCRD crd.obj = { p with version := "" }.matchGVR (crd.gvr version) crd.kind := by
  have cut : cutAt '.' (crd.plural ++ "." ++ crd.group).toList = (crd.plural.toList, some crd.group.toList) := by
    rw [String.toList_append, String.toList_append, List.append_assoc]
    exact cutAt_append crd.label
  have front : crd.plural.toList ≠ [] := fun empty => crd.plural_ne (String.toList_inj.mp empty)
  simp only [ExcludePat.matchCRD, ExcludePat.matchGVR, Definition.gvr, crd.named, crd.grouped, crd.kinded, crd.pluralled,
    Option.getD_some, cut, Option.any_some, String.ofList_toList]
  cases shape with
  | kinded group other kind =>
    by_cases noGroup : group = ""
    · simp [noGroup]
    · by_cases noKind : kind = ""
      · simp [noKind]
      · by_cases grouped : equalFold crd.group group = true
        · by_cases kinds : equalFold crd.kind kind = true
          · simp [noGroup, noKind, grouped, kinds, crd.kind_ne]
          · simp [noGroup, noKind, grouped, kinds, front]
        · simp [noGroup, noKind, grouped]
  | named resource group =>
    have joined : equalFold crd.plural resource = true → equalFold crd.group group = true →
        equalFold (crd.plural ++ "." ++ crd.group) (resource ++ "." ++ group) = true := by
      intro plurals groups
      simp only [equalFold, beq_iff_eq, String.toList_append, List.map_append] at plurals groups ⊢
      rw [plurals, groups]
    have some_ : resource ++ "." ++ group ≠ "" := by
      intro empty
      have length := congrArg String.length empty
      simp at length
    by_cases whole : equalFold (crd.plural ++ "." ++ crd.group) (resource ++ "." ++ group) = true
    · simp [whole, some_, crd.group_ne]
    · have parts : ¬ (equalFold crd.plural resource = true ∧ equalFold crd.group group = true) :=
        fun both => whole (joined both.1 both.2)
      simp [whole, some_, parts]
  | plain resource =>
    by_cases plurals : equalFold crd.plural resource = true
    · simp [plurals]
    · simp [plurals]

theorem equalFold_empty {text : String} (some_ : text ≠ "") : equalFold text "" = false := by
  have longer : text.toList ≠ [] := fun empty => some_ (String.toList_inj.mp empty)
  simp [equalFold, longer]

/-- At one version an entry matches as if it named none, unless it names the kind and
another version. -/
theorem matchGVR_version {p : ExcludePat} (shape : p.Shape) (crd : Definition) (version : String) :
    p.matchGVR (crd.gvr version) crd.kind = { p with version := "" }.matchGVR (crd.gvr version) crd.kind ↔
      (p.version ≠ "" → p.NamesKind crd → equalFold version p.version = true) := by
  cases shape with
  | kinded group other kind =>
    simp only [ExcludePat.matchGVR, Definition.gvr, ExcludePat.NamesKind]
    by_cases noGroup : group = ""
    · simp [noGroup, equalFold_empty crd.group_ne]
    · by_cases noKind : kind = ""
      · simp [noKind]
      · by_cases grouped : equalFold crd.group group = true
        · by_cases same : equalFold version other = true
          · simp [noGroup, noKind, grouped, same]
          · by_cases noVersion : other = ""
            · simp [noVersion]
            · simp [noGroup, noKind, grouped, same, noVersion, crd.kind_ne]
        · simp [noGroup, noKind, grouped]
  | named resource group => simp
  | plain resource => simp

/-- An entry that does not name the definitions' own resource excludes a definition and
its instances together at every served version, just if the version that it names for
their kind, if any, is every served one. -/
theorem excluded_agree_iff (entry : String) (crd : Definition)
    (unnamed : excludedGVR crdGVR "CustomResourceDefinition" [entry] = false) :
    (∀ version ∈ crd.served, (excludedObj crdGVR crd.obj [entry] = true ↔
      excludedGVR (crd.gvr version) crd.kind [entry] = true)) ↔
    ((parseExclude entry).version ≠ "" → (parseExclude entry).NamesKind crd →
      ∀ version ∈ crd.served, equalFold version (parseExclude entry).version = true) := by
  have shape := parseExclude_shape entry
  simp only [excludedGVR, List.any_cons, List.any_nil, Bool.or_false] at unnamed
  have agree : ∀ version, (excludedObj crdGVR crd.obj [entry] = true ↔
      excludedGVR (crd.gvr version) crd.kind [entry] = true) ↔
      ((parseExclude entry).version ≠ "" → (parseExclude entry).NamesKind crd →
        equalFold version (parseExclude entry).version = true) := by
    intro version
    rw [← matchGVR_version shape, ← matchCRD_eq shape]
    simp only [excludedObj, excludedGVR, List.any_cons, List.any_nil, Bool.or_false, crd.isDefinition, unnamed,
      Bool.false_or]
    rw [show (crdGVR.resource == "customresourcedefinitions") = true from rfl, Bool.true_and, ← Bool.eq_iff_iff]
    exact eq_comm
  simp only [agree]
  exact ⟨fun all versioned named version served => all version served versioned named,
    fun all version served versioned named => all versioned named version served⟩

/-- A definition that serves two versions. -/
def widgets : Definition where
  group := "stable.example.com"
  kind := "Widget"
  plural := "widgets"
  served := ["v1", "v2"]
  obj := [("kind", .string "CustomResourceDefinition"),
    ("metadata", .object [("name", .string "widgets.stable.example.com")]),
    ("spec", .object [("group", .string "stable.example.com"),
      ("names", .object [("kind", .string "Widget"), ("plural", .string "widgets")])])]
  isDefinition := by decide +kernel
  named := by decide +kernel
  grouped := by decide +kernel
  kinded := by decide +kernel
  pluralled := by decide +kernel
  group_ne := by decide
  kind_ne := by decide
  plural_ne := by decide
  label := by decide

theorem excluded_agree_widget :
    excludedObj crdGVR widgets.obj ["stable.example.com/Widget"] = true ∧
    excludedGVR (widgets.gvr "v2") widgets.kind ["stable.example.com/Widget"] = true := by
  have agree := (excluded_agree_iff "stable.example.com/Widget" widgets (by decide +kernel)).mpr
    fun versioned => absurd (by decide +kernel) versioned
  have dropped : excludedObj crdGVR widgets.obj ["stable.example.com/Widget"] = true := by decide +kernel
  exact ⟨dropped, (agree "v2" (by decide)).mp dropped⟩

/-- An entry with a version drops the definition and leaves the instances that are
served at another version. -/
theorem excluded_version_apart :
    excludedGVR crdGVR "CustomResourceDefinition" ["stable.example.com/v1/Widget"] = false ∧
    excludedObj crdGVR widgets.obj ["stable.example.com/v1/Widget"] = true ∧
    excludedGVR (widgets.gvr "v1") widgets.kind ["stable.example.com/v1/Widget"] = true ∧
    excludedGVR (widgets.gvr "v2") widgets.kind ["stable.example.com/v1/Widget"] = false := by
  decide +kernel

end Portage.ClusterObjects
