import Portage.Transform.Pins

/-! Which storage classes the sanitizer maps. -/
namespace Portage.Transform

open Go

/-- The kinds of objects that describe claims. -/
inductive ClaimKind where
  | persistentVolumeClaim
  | statefulSet
  deriving DecidableEq, Repr

/-- The storage classes of the claims that an object describes: of its own spec, or of
each of its claim templates. -/
def ClaimKind.classes : ClaimKind → Fields → List (Option String)
  | persistentVolumeClaim, obj => [obj.nestedString storageClassPath]
  | statefulSet, obj =>
    match obj.nested ["spec", "volumeClaimTemplates"] with
    | some (.array templates) => templates.map fun template => template.fields?.bind (Fields.nestedString storageClassPath)
    | _ => []

/-- The class that the map gives a class; one that is not in the map is kept. -/
def Options.mapped (opt : Options) (src : String) : String := (opt.storageClassMap.find? src).getD src

section
variable {opt : Options} (undefaulted : opt.defaultStorageClass = "") (obj : Fields)

include undefaulted in
theorem mapSC_eq_mapped (src : String) : mapSC src opt = opt.mapped src := by
  unfold mapSC Options.mapped
  cases opt.storageClassMap.find? src with
  | none => simp [undefaulted]
  | some dst => rfl

include undefaulted in
/-- The class of the object's own spec: mapped, unless it is the empty one. -/
theorem nestedString_remapStorageClass : (remapStorageClass opt obj).nestedString storageClassPath =
    (obj.nestedString storageClassPath).map fun src => if src = "" then "" else opt.mapped src := by
  have set (src : String) (found : obj.nestedString storageClassPath = some src) (value : String) :
      (obj.setNested storageClassPath (.string value)).nestedString storageClassPath = some value := by
    rw [Fields.nestedString, storageClassPath, Fields.nested_cons, Fields.child] at found
    rw [Fields.nestedString, storageClassPath, Fields.nested_cons, Fields.child, Fields.lookup_setNested_self]
    cases spec : obj.lookup "spec" with
    | none => simp [spec] at found
    | some inner =>
      cases inner with
      | object fields => simp [Json.fields?, Fields.setNested, Fields.nested, Fields.lookup_put, Json.string?]
      | _ => simp [spec, Json.fields?] at found
  simp only [remapStorageClass]
  cases found : obj.nestedString storageClassPath with
  | none => simpa [undefaulted] using found
  | some src =>
    by_cases unset : src = ""
    · simpa [unset, undefaulted] using found
    · simp only [Option.getD_some, unset, if_false, Option.map_some, ← mapSC_eq_mapped undefaulted]
      exact set src found _

theorem nestedString_dropLocal : (dropLocal obj).nestedString storageClassPath = obj.nestedString storageClassPath := by
  rw [Fields.nestedString, storageClassPath, nested_dropLocal (by decide)]
  rfl

/-- The classes of claim templates stay as they are. -/
theorem classes_object_statefulSet (opt : Options) :
    ClaimKind.statefulSet.classes (object opt obj) = ClaimKind.statefulSet.classes obj := by
  have past : leadsPast affinityPaths ["spec", "volumeClaimTemplates"] = true := by decide
  simp only [ClaimKind.classes, object_eq_settle, nested_settle _ _ _ past]
  rw [nested_prepared (by decide) (by decide)]
  cases obj.nested ["spec", "volumeClaimTemplates"] with
  | none => rfl
  | some value =>
    cases value with
    | array templates =>
      rw [Option.map_some, settleValue_array]
      simp only [List.map_map]
      refine List.map_congr_left fun template _ => ?_
      simp only [Function.comp_apply, fields?_settledItem]
      cases template.fields? with
      | none => rfl
      | some fields => exact nestedString_settle _ _ _ (by decide) fields
    | _ => rfl

/-- The class of a claim's own spec is mapped, unless it is the empty one. -/
theorem classes_object_claim (undefaulted : opt.defaultStorageClass = "") :
    ClaimKind.persistentVolumeClaim.classes (object opt obj) =
      (ClaimKind.persistentVolumeClaim.classes obj).map
        (Option.map fun src => if src = "" then "" else opt.mapped src) := by
  have own : (object opt obj).nestedString storageClassPath =
      (remapStorageClass opt (dropLocal obj)).nestedString storageClassPath :=
    nestedString_settle opt.runtimeClassMap _ _ (by decide) _
  simp only [ClaimKind.classes, own, nestedString_remapStorageClass undefaulted, nestedString_dropLocal,
    List.map_cons, List.map_nil]

/-- Every class that the map would change is one that the sanitizer looks at: not the empty
one of a claim, and none of a claim template. -/
def ClaimKind.Mapped (opt : Options) (obj : Fields) : ClaimKind → Prop
  | persistentVolumeClaim => obj.nestedString storageClassPath = some "" → opt.mapped "" = ""
  | statefulSet => ∀ src, some src ∈ statefulSet.classes obj → opt.mapped src = src

/-- The sanitizer maps the classes of all claims just if there is no class to map among
those that it does not look at. -/
theorem object_classes_iff (undefaulted : opt.defaultStorageClass = "") (kind : ClaimKind) :
    kind.classes (object opt obj) = (kind.classes obj).map (Option.map opt.mapped) ↔
      kind.Mapped opt obj := by
  cases kind with
  | persistentVolumeClaim =>
    rw [classes_object_claim obj undefaulted, ClaimKind.Mapped]
    simp only [ClaimKind.classes, List.map_cons, List.map_nil, List.cons.injEq, and_true]
    cases obj.nestedString storageClassPath with
    | none => simp
    | some src =>
      by_cases unset : src = ""
      · subst unset
        simp only [Option.map_some, if_true, Option.some.injEq, forall_const]
        exact eq_comm
      · simp [unset]
  | statefulSet =>
    rw [classes_object_statefulSet, ClaimKind.Mapped]
    generalize ClaimKind.statefulSet.classes obj = classes
    induction classes with
    | nil => simp
    | cons class_ rest ih =>
      rw [List.map_cons, List.cons.injEq, ih]
      cases class_ with
      | none => simp
      | some src =>
        simp only [Option.map_some, Option.some.injEq, List.mem_cons]
        constructor
        · rintro ⟨same, others⟩ _ (rfl | member)
          · exact same.symm
          · exact others _ member
        · intro all
          exact ⟨(all src (.inl rfl)).symm, fun other member => all other (.inr member)⟩

end

/-- A StatefulSet with one claim template on the source's class. -/
def goldStatefulSet : Fields := [
  ("kind", .string "StatefulSet"),
  ("metadata", .object [("name", .string "db")]),
  ("spec", .object [("volumeClaimTemplates", .array [.object [
    ("metadata", .object [("name", .string "data")]),
    ("spec", .object [("storageClassName", .string "gold")])]])])]

/-- A claim of a class. -/
def claimOf (class_ : String) : Fields := [
  ("kind", .string "PersistentVolumeClaim"),
  ("metadata", .object [("name", .string "data")]),
  ("spec", .object [("storageClassName", .string class_), ("volumeName", .string "pv-1")])]

def goldToFast : Options := { storageClassMap := .table [("gold", "fast")] }

def emptyToFast : Options := { storageClassMap := .table [("", "fast")] }

theorem object_classes_claim : ClaimKind.persistentVolumeClaim.classes (object goldToFast (claimOf "gold")) =
    (ClaimKind.persistentVolumeClaim.classes (claimOf "gold")).map (Option.map goldToFast.mapped) := by
  refine (object_classes_iff _ rfl .persistentVolumeClaim).mpr fun unset => ?_
  have named : (claimOf "gold").nestedString storageClassPath = some "gold" := by decide +kernel
  simp [named] at unset

/-- A claim template keeps the class of the source, and so does a claim of the empty class. -/
theorem object_classes_unmapped :
    ClaimKind.statefulSet.classes (object goldToFast goldStatefulSet) = [some "gold"] ∧
    goldToFast.mapped "gold" = "fast" ∧
    ClaimKind.persistentVolumeClaim.classes
      (object emptyToFast (claimOf "")) = [some ""] ∧
    emptyToFast.mapped "" = "fast" := by
  decide +kernel

end Portage.Transform
