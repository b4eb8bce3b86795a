import Portage.ClusterObjects.Graph

/-! The portable snapshot of the object graph and what it keeps. -/
namespace Portage.ClusterObjects

open Go

/-- The record that a snapshot stores for an item. -/
structure WireItem where
  group : String := ""
  version : String := ""
  resource : String := ""
  namespaced : Bool := false
  object : Fields := []
  deriving DecidableEq, Repr

def WireItem.encode (wire : WireItem) : Json := .object [
  ("group", .string wire.group),
  ("version", .string wire.version),
  ("resource", .string wire.resource),
  ("namespaced", .bool wire.namespaced),
  ("object", .object wire.object)]

def wireOf (item : Item) (obj : Fields) : WireItem where
  group := item.gvr.group
  version := item.gvr.version
  resource := item.gvr.resource
  namespaced := item.namespaced
  object := obj

/-- The JSON text that stores the items, as the value it spells. -/
def marshal (items : List Item) : Json :=
  .array (items.filterMap fun item => item.obj.map fun obj => (wireOf item obj).encode)

/-! ### Reading a snapshot -/

/-- A struct field of a Go type: absent and null leave the zero value, and a value of
another type is an error. -/
def decodeField (read : Json → Option α) (zero : α) (key : String) (fields : Fields) : Except String α :=
  match fields.lookup key with
  | none | some .null => .ok zero
  | some value => (read value).elim (.error ("json: cannot unmarshal field " ++ key)) .ok

def readBool : Json → Option Bool
  | .bool value => some value
  | _ => none

/-- A `map[string]any`, whose values come out untyped. -/
def readObject : Json → Option Fields
  | .object fields => some (Json.untypedFields fields)
  | _ => none

def decodeWire : Json → Except String WireItem
  | .object fields => do
    let group ← decodeField Json.string? "" "group" fields
    let version ← decodeField Json.string? "" "version" fields
    let resource ← decodeField Json.string? "" "resource" fields
    let namespaced ← decodeField readBool false "namespaced" fields
    let object ← decodeField readObject [] "object" fields
    pure { group, version, resource, namespaced, object }
  | .null => .ok {}
  | _ => .error "json: cannot unmarshal into wireItem"

/-- The item of a stored record; an object with a namespace counts as namespaced. -/
def WireItem.item (wire : WireItem) : Item where
  gvr := ⟨wire.group, wire.version, wire.resource⟩
  namespaced := wire.namespaced || (namespaceOf wire.object != "" && wire.resource != "namespaces")
  obj := some wire.object

def unmarshal : Json → Except String (List Item)
  | .array docs => do
    let wires ← docs.mapM decodeWire
    pure (wires.map WireItem.item)
  | .null => .ok []
  | _ => .error "json: cannot unmarshal into []wireItem"

/-! ### Round trips -/

theorem decodeWire_encode (wire : WireItem) :
    decodeWire wire.encode = .ok { wire with object := Json.untypedFields wire.object } := rfl

theorem mapM_decodeWire (wires : List WireItem) : (wires.map WireItem.encode).mapM decodeWire =
    .ok (wires.map fun wire => { wire with object := Json.untypedFields wire.object }) := by
  induction wires with
  | nil => rfl
  | cons wire rest ih => simp [decodeWire_encode, ih, bind, Except.bind, pure, Except.pure]

/-- What comes back of the items that have an object. -/
theorem unmarshal_marshal (items : List Item) : unmarshal (marshal items) =
    .ok (items.filterMap fun item => item.obj.map fun obj => (wireOf item (Json.untypedFields obj)).item) := by
  have docs : (items.filterMap fun item => item.obj.map fun obj => (wireOf item obj).encode) =
      (items.filterMap fun item => item.obj.map (wireOf item)).map WireItem.encode := by
    simp [List.map_filterMap, Function.comp_def]
  rw [marshal, docs, unmarshal, mapM_decodeWire]
  simp [bind, Except.bind, pure, Except.pure, List.map_filterMap, Function.comp_def, wireOf]

/-- The item is not being deleted, its scope agrees with the namespace of its object,
and no number in its object is an integer. -/
def Item.Portable (item : Item) : Prop :=
  item.deleting = false ∧ ∀ obj, item.obj = some obj →
    (item.namespaced = true ∨ namespaceOf obj = "" ∨ item.gvr.resource = "namespaces") ∧
    Json.hasIntFields obj = false

theorem item_wireOf_eq_iff {item : Item} {obj : Fields} (shape : item.obj = some obj) :
    (wireOf item (Json.untypedFields obj)).item = item ↔ item.Portable := by
  obtain ⟨gvr, namespaced, _, deleting⟩ := item
  obtain rfl : _ = some obj := shape
  constructor
  · intro same
    simp only [WireItem.item, wireOf, Item.mk.injEq, Option.some.injEq] at same
    obtain ⟨_, scope, object, kept⟩ := same
    rw [object] at scope
    refine ⟨kept.symm, fun _ shape => ?_⟩
    cases shape
    refine ⟨?_, (Json.untypedFields_eq_iff obj).mp object⟩
    by_cases named : namespaceOf obj = ""
    · exact .inr (.inl named)
    · by_cases kind : gvr.resource = "namespaces"
      · exact .inr (.inr kind)
      · exact .inl (by simpa [named, kind] using scope)
  · rintro ⟨kept, portable⟩
    have scope : namespaced = true ∨ namespaceOf obj = "" ∨ gvr.resource = "namespaces" := (portable obj rfl).1
    have object := (Json.untypedFields_eq_iff obj).mpr (portable obj rfl).2
    simp only [WireItem.item, wireOf, object, Item.mk.injEq, true_and]
    refine ⟨?_, kept.symm⟩
    rcases scope with inside | named | kind
    · simp [inside]
    · simp [named]
    · simp [kind]

/-- A snapshot gives back the items that it stored just if all of them are portable. -/
theorem unmarshal_marshal_iff {items : List Item} (objects : ∀ item ∈ items, item.obj ≠ none) :
    unmarshal (marshal items) = .ok items ↔ ∀ item ∈ items, item.Portable := by
  rw [unmarshal_marshal, Except.ok.injEq]
  induction items with
  | nil => simp
  | cons item rest ih =>
    obtain ⟨obj, shape⟩ := Option.ne_none_iff_exists'.mp (objects item (by simp))
    rw [List.filterMap_cons_some (by rw [shape]; rfl), List.cons_eq_cons, item_wireOf_eq_iff shape,
      ih fun other member => objects other (by simp [member]), List.forall_mem_cons]

/-- A Service, sanitized, whose port is an integer. -/
def webService : List Item := sanitize {} [{
  gvr := ⟨"", "v1", "services"⟩, namespaced := true
  obj := some [("kind", .string "Service"),
    ("metadata", .object [("name", .string "web"), ("namespace", .string "shop"), ("uid", .string "7c1e")]),
    ("spec", .object [("ports", .array [.object [("port", .int 9007199254740993)]])])] }]

/-- A ConfigMap, sanitized, that the source is deleting. -/
def leavingConfig : List Item := sanitize {} [{
  gvr := ⟨"", "v1", "configmaps"⟩, namespaced := true, deleting := true
  obj := some [("kind", .string "ConfigMap"),
    ("metadata", .object [("name", .string "old"), ("namespace", .string "shop"),
      ("deletionTimestamp", .string "2026-01-02T03:04:05Z")])] }]

/-- A ConfigMap that comes back as it was. -/
def plainConfig : List Item := sanitize {} [{
  gvr := ⟨"", "v1", "configmaps"⟩, namespaced := true
  obj := some [("kind", .string "ConfigMap"),
    ("metadata", .object [("name", .string "app"), ("namespace", .string "shop")]),
    ("data", .object [("mode", .string "fast")])] }]

theorem unmarshal_marshal_plain : unmarshal (marshal plainConfig) = .ok plainConfig := by
  have portable : ∀ item ∈ plainConfig, item.Portable := by
    intro item member
    obtain rfl := List.mem_singleton.mp member
    refine ⟨rfl, fun obj shape => ?_⟩
    obtain rfl : _ = obj := Option.some.inj shape
    exact ⟨.inl rfl, by decide +kernel⟩
  exact (unmarshal_marshal_iff (by decide +kernel)).mpr portable

/-- A number comes back as the nearest float, and the deletion of an object is lost. -/
theorem unmarshal_marshal_lossy :
    (unmarshal (marshal webService)).map (List.map fun item =>
      item.obj.bind fun obj => obj.nested ["spec", "ports"]) =
        .ok [some (.array [.object [("port", .float 9007199254740992)]])] ∧
    leavingConfig.map (·.deleting) = [true] ∧
    (unmarshal (marshal leavingConfig)).map (List.map (·.deleting)) = .ok [false] := by
  decide +kernel

end Portage.ClusterObjects
