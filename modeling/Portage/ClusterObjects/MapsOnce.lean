import Portage.ClusterObjects.Discover
import Portage.ClusterObjects.Snapshot
import Portage.Transform.RuntimeClasses

/-! How often the classes of an object are mapped on its way to the destination, by live
sync and by a backup that is restored. -/
namespace Portage.ClusterObjects

open Go Transform

def transformOpt (storageClassMap runtimeClassMap : GoMap String String) : Options := { storageClassMap, runtimeClassMap }

/-- What `Capture` makes of the objects that it lists, with empty options. -/
def listClusterObjects (listed : List Item) : List Item := sanitize {} listed

/-- The items that live sync sends to the destination. -/
def syncClusterObjectsLive (opt : Options) (listed : List Item) : List Item :=
  sanitize opt (listClusterObjects listed)

/-- The snapshot that a backup stores. -/
def captureClusterObjects (opt : Options) (listed : List Item) : Json :=
  marshal (sanitize opt (listClusterObjects listed))

/-- The items that a restore sends to the destination. -/
def restoreClusterObjects (opt : Options) (raw : Json) : Except String (List Item) := sanitize opt <$> unmarshal raw

def objectsOf (items : List Item) : List Fields := items.filterMap Item.obj

/-- The storage class of an object, and its runtime classes. -/
def classesOf (obj : Fields) : Option String × List String :=
  (obj.nestedString storageClassPath, runtimeClasses obj)

/-- Both ways give every object the classes that sanitizing it once would. -/
structure MapsOnce (opt : Options) (listed : List Item) : Prop where
  live : (objectsOf (syncClusterObjectsLive opt listed)).map classesOf = (objectsOf (sanitize opt listed)).map classesOf
  restored : (objectsOf · |>.map classesOf) <$> restoreClusterObjects opt (captureClusterObjects opt listed) =
    .ok ((objectsOf (sanitize opt listed)).map classesOf)

theorem objectsOf_sanitize (opt : Options) (items : List Item) :
    objectsOf (sanitize opt items) = (objectsOf items).map (object opt) := by
  simp [objectsOf, sanitize, List.filterMap_map, List.map_filterMap]

theorem objectsOf_unmarshal (items : List Item) : ∃ read, unmarshal (marshal items) = .ok read ∧
    objectsOf read = (objectsOf items).map Json.untypedFields := by
  refine ⟨_, unmarshal_marshal items, ?_⟩
  rw [objectsOf, objectsOf, List.filterMap_filterMap, List.map_filterMap]
  refine List.filterMap_congr fun item _ => ?_
  cases item.obj <;> rfl

/-- What a restore sends of the objects that were backed up. -/
theorem restore_capture (opt : Options) (listed : List Item) : ∃ items,
    restoreClusterObjects opt (captureClusterObjects opt listed) = .ok items ∧
      objectsOf items = (objectsOf (syncClusterObjectsLive opt listed)).map (object opt ∘ Json.untypedFields) := by
  obtain ⟨read, unmarshalled, objects⟩ := objectsOf_unmarshal (syncClusterObjectsLive opt listed)
  refine ⟨sanitize opt read, congrArg (Except.map (sanitize opt)) unmarshalled, ?_⟩
  rw [objectsOf_sanitize, objects, List.map_map]

section
variable {opt : Options} (undefaulted : opt.defaultStorageClass = "") (obj : Fields)
include undefaulted

/-- Live sync maps the storage class once, and loses the runtime classes. -/
theorem classesOf_live :
    classesOf (object opt (object {} obj)) = ((object opt obj).nestedString storageClassPath, []) := by
  have same : Options.storageClass {} = id := by
    funext src
    unfold Options.storageClass
    split
    · exact Eq.symm ‹_›
    · rfl
  rw [classesOf, (runtimeClasses_eq_nil_iff _).mpr ((object_strips obj).object opt), storageClass_object undefaulted,
    storageClass_object undefaulted, storageClass_object rfl, same, Option.map_id]
  rfl

/-- A restore maps the storage class again. -/
theorem classesOf_restored : classesOf (object opt (Json.untypedFields (object opt (object {} obj)))) =
    (((object opt obj).nestedString storageClassPath).map opt.storageClass, []) := by
  have classless := (object_strips obj).object opt
  rw [← textsOf_untyped] at classless
  have live := congrArg Prod.fst (classesOf_live undefaulted obj)
  simp only [classesOf] at live
  rw [classesOf, (runtimeClasses_eq_nil_iff _).mpr (classless.object opt), storageClass_object undefaulted,
    storageClass_untyped, live]

end

/-- The classes are mapped once on both ways just if the pair leaves no runtime class, and
maps no storage class that it has given. -/
theorem mapsOnce_iff (storageClassMap runtimeClassMap : GoMap String String) (listed : List Item) :
    MapsOnce (transformOpt storageClassMap runtimeClassMap) listed ↔ ∀ obj ∈ objectsOf listed,
      runtimeClasses (object (transformOpt storageClassMap runtimeClassMap) obj) = [] ∧
      ∀ src, (object (transformOpt storageClassMap runtimeClassMap) obj).nestedString storageClassPath = some src →
        (transformOpt storageClassMap runtimeClassMap).storageClass src = src := by
  have undefaulted : (transformOpt storageClassMap runtimeClassMap).defaultStorageClass = "" := rfl
  generalize transformOpt storageClassMap runtimeClassMap = opt at undefaulted ⊢
  obtain ⟨items, sent, objects⟩ := restore_capture opt listed
  have live : (objectsOf (syncClusterObjectsLive opt listed)).map classesOf =
      (objectsOf (sanitize opt listed)).map classesOf ↔
        ∀ obj ∈ objectsOf listed, runtimeClasses (object opt obj) = [] := by
    rw [syncClusterObjectsLive, listClusterObjects, objectsOf_sanitize, objectsOf_sanitize, objectsOf_sanitize,
      List.map_map, List.map_map, List.map_map, List.map_inj_left]
    refine forall₂_congr fun obj _ => ?_
    simp only [Function.comp_apply]
    rw [classesOf_live undefaulted, classesOf, Prod.mk.injEq, eq_self, true_and, eq_comm]
  have restored : (objectsOf · |>.map classesOf) <$> restoreClusterObjects opt (captureClusterObjects opt listed) =
      .ok ((objectsOf (sanitize opt listed)).map classesOf) ↔
        ∀ obj ∈ objectsOf listed, runtimeClasses (object opt obj) = [] ∧
          ∀ src, (object opt obj).nestedString storageClassPath = some src → opt.storageClass src = src := by
    rw [sent]
    change Except.ok ((objectsOf items).map classesOf) = _ ↔ _
    rw [Except.ok.injEq, objects, syncClusterObjectsLive, listClusterObjects, objectsOf_sanitize, objectsOf_sanitize,
      objectsOf_sanitize, List.map_map, List.map_map, List.map_map, List.map_map, List.map_inj_left]
    refine forall₂_congr fun obj _ => ?_
    simp only [Function.comp_apply]
    rw [classesOf_restored undefaulted, classesOf, Prod.mk.injEq, and_comm, @eq_comm _ []]
    refine and_congr_right fun _ => ?_
    cases (object opt obj).nestedString storageClassPath with
    | none => simp
    | some src => simp
  constructor
  · intro once
    exact restored.mp once.restored
  · intro each
    exact ⟨live.mpr fun obj member => (each obj member).1, restored.mpr each⟩

/-- A CronJob whose runtime class the pair maps, and a custom resource whose storage class
it maps twice. -/
def sandboxed : List Item := [
  { gvr := ⟨"batch", "v1", "cronjobs"⟩, namespaced := true
    obj := some [("kind", .string "CronJob"), ("metadata", .object [("name", .string "nightly")]),
      ("spec", .object [("jobTemplate", .object [("spec", .object [("template", .object [("spec",
        .object [("runtimeClassName", .string "gvisor")])])])])])] },
  { gvr := ⟨"shop.example.com", "v1", "caches"⟩, namespaced := true
    obj := some [("kind", .string "Cache"), ("metadata", .object [("name", .string "carts")]),
      ("spec", .object [("storageClassName", .string "gold")])] }]

def chained : Options :=
  transformOpt (.table [("gold", "fast"), ("fast", "archive")]) (.table [("gvisor", "kata")])

/-- Of objects that are listed, the runtime class is gone on both ways, and a restore maps
the storage class on. -/
theorem sandboxed_lost :
    (∀ item ∈ sandboxed, item.gvr.resource ∉ skipResource ∧ item.gvr.group ∉ skipGroup) ∧
    (objectsOf (sanitize chained sandboxed)).map classesOf = [(none, ["kata"]), (some "fast", [])] ∧
    (objectsOf (syncClusterObjectsLive chained sandboxed)).map classesOf = [(none, []), (some "fast", [])] ∧
    (objectsOf · |>.map classesOf) <$> restoreClusterObjects chained (captureClusterObjects chained sandboxed) =
      .ok [(none, []), (some "archive", [])] := by
  decide +kernel

end Portage.ClusterObjects
