import Mathlib.Data.List.Pairwise
import Mathlib.Data.Prod.Lex
import Mathlib.Data.String.Basic
import Portage.ClusterObjects.Graph
import Portage.Process.StableSort

/-! The order in which a sync goes through the object graph, and what each item needs
to be there before it. -/
namespace Portage.ClusterObjects

open Go Process

def applyOrder : List (String × Int) := [
  ("tenants", -1),
  ("namespaces", 0),
  ("customresourcedefinitions", 1),
  ("clusterroles", 2),
  ("clusterrolebindings", 3),
  ("serviceaccounts", 4),
  ("secrets", 5),
  ("configmaps", 6),
  ("roles", 7),
  ("rolebindings", 8),
  ("services", 9),
  ("ingresses", 10),
  ("networkpolicies", 11)]

def rank (resource : String) : Int := (applyOrder.lookup resource).getD 50

def Item.name (item : Item) : String := item.obj.elim "" nameOf

/-- Whether an item is sorted before another. -/
def Item.less (a b : Item) : Bool :=
  let (i, j) := (rank a.gvr.resource, rank b.gvr.resource)
  if i ≠ j then i < j else a.name < b.name

/-- The items that a sync goes through, in its order. The sort is stable. -/
def syncOrder (items : List Item) : List Item :=
  (items.insertionSort fun a b => !b.less a).filter fun item => item.obj.isSome

/-! ### What an item needs -/

def capsuleGroup : String := "capsule.clastix.io"

def Item.isNamespace (item : Item) : Bool := item.gvr.group == "" && item.gvr.resource == "namespaces"

def Item.isTenant (item : Item) : Bool := item.gvr.group == capsuleGroup && item.gvr.resource == "tenants"

def Item.isCRD (item : Item) : Bool :=
  item.gvr.group == "apiextensions.k8s.io" && item.gvr.resource == "customresourcedefinitions"

/-- Whether an item is the definition of the resource of another. -/
def defines (crd item : Item) : Bool :=
  crd.isCRD && crd.obj.any fun obj =>
    obj.nestedString ["spec", "group"] == some item.gvr.group &&
      obj.nestedString ["spec", "names", "plural"] == some item.gvr.resource

/-- Whether an item is the Namespace that another lies in. -/
def houses (ns item : Item) : Bool :=
  ns.isNamespace && item.namespaced && ns.obj.any fun obj => item.obj.any fun inner => namespaceOf inner == nameOf obj

/-- Whether the first item needs the second to be there. -/
def needs (item dependency : Item) : Bool :=
  defines dependency item || houses dependency item || (dependency.isTenant && item.isNamespace)

/-- No item comes before one that it needs. -/
def Respects (order : List Item) : Prop := order.Pairwise fun first second => needs first second = false

instance (order : List Item) : Decidable (Respects order) := inferInstanceAs (Decidable (List.Pairwise _ _))

/-- What the items are sorted by. -/
def Item.sortKey (item : Item) : Int ×ₗ String := toLex (rank item.gvr.resource, item.name)

theorem less_iff (a b : Item) : a.less b = true ↔ a.sortKey < b.sortKey := by
  rw [Item.less, Item.sortKey, Item.sortKey, Prod.Lex.toLex_lt_toLex]
  by_cases same : rank a.gvr.resource = rank b.gvr.resource
  · simp [same]
  · simp [same]

theorem not_less_iff (a b : Item) : (!b.less a) = true ↔ a.sortKey ≤ b.sortKey := by
  rw [Bool.not_eq_true', Bool.eq_false_iff, Ne, less_iff, not_lt]

instance : Std.Total fun a b : Item => (!b.less a) = true :=
  ⟨fun a b => by simpa only [not_less_iff] using le_total a.sortKey b.sortKey⟩

instance : IsTrans Item fun a b => (!b.less a) = true :=
  ⟨fun a b c => by simpa only [not_less_iff] using le_trans⟩

/-! ### When the order is right -/

/-- No resource with one of the first two names is defined or housed by an item of the
list, and items that need one of the same resource name are sorted after it by name. -/
structure Sortable (items : List Item) : Prop where
  defined : ∀ crd ∈ items, ∀ item ∈ items, defines crd item = true →
    item.gvr.resource ≠ "tenants" ∧ item.gvr.resource ≠ "namespaces"
  housed : ∀ ns ∈ items, ∀ item ∈ items, houses ns item = true → item.gvr.resource ≠ "tenants"
  named : items.Pairwise fun first second => first.gvr.resource = second.gvr.resource →
    (needs first second = true → second.name < first.name) ∧ (needs second first = true → ¬ second.name < first.name)

theorem rank_ge {resource : String} (tenants : resource ≠ "tenants") (namespaces : resource ≠ "namespaces")
    (definitions : resource ≠ "customresourcedefinitions") : 2 ≤ rank resource := by
  have later : ∀ entry ∈ applyOrder.drop 3, 2 ≤ entry.2 := by decide
  have skipped : applyOrder.lookup resource = (applyOrder.drop 3).lookup resource := by
    simp [applyOrder, List.lookup_cons, beq_eq_false_iff_ne.mpr tenants, beq_eq_false_iff_ne.mpr namespaces,
      beq_eq_false_iff_ne.mpr definitions]
  rw [rank, skipped]
  cases found : (applyOrder.drop 3).lookup resource with
  | none => decide
  | some place =>
    obtain ⟨before, after, split, _⟩ := List.lookup_eq_some_iff.mp found
    exact later (resource, place) (by simp [split])

/-- The ways to need an item, with what they say of the two resources. -/
theorem needs_cases {item dependency : Item} (needed : needs item dependency = true) :
    (defines dependency item = true ∧ dependency.gvr.resource = "customresourcedefinitions") ∨
    (houses dependency item = true ∧ dependency.gvr.resource = "namespaces") ∨
    (dependency.gvr.resource = "tenants" ∧ item.gvr.resource = "namespaces") := by
  simp only [needs, Bool.or_eq_true, Bool.and_eq_true] at needed
  rcases needed with (definition | housing) | ⟨tenant, namespace_⟩
  · refine .inl ⟨definition, ?_⟩
    simp only [defines, Item.isCRD, Bool.and_eq_true, beq_iff_eq] at definition
    exact definition.1.2
  · refine .inr (.inl ⟨housing, ?_⟩)
    simp only [houses, Item.isNamespace, Bool.and_eq_true, beq_iff_eq] at housing
    exact housing.1.1.2
  · simp only [Item.isTenant, Item.isNamespace, Bool.and_eq_true, beq_iff_eq] at tenant namespace_
    exact .inr (.inr ⟨tenant.2, namespace_.2⟩)

/-- An item that needs another and is clear of the first names ranks after it, or has
its resource. -/
theorem needs_rank {item dependency : Item} (needed : needs item dependency = true)
    (defined : defines dependency item = true → item.gvr.resource ≠ "tenants" ∧ item.gvr.resource ≠ "namespaces")
    (housed : houses dependency item = true → item.gvr.resource ≠ "tenants") :
    rank dependency.gvr.resource < rank item.gvr.resource ∨ item.gvr.resource = dependency.gvr.resource := by
  have ranks : rank "tenants" = -1 ∧ rank "namespaces" = 0 ∧ rank "customresourcedefinitions" = 1 := by decide
  by_cases definitions : item.gvr.resource = "customresourcedefinitions"
  · rcases needs_cases needed with ⟨_, same⟩ | ⟨_, same⟩ | ⟨_, other⟩
    · exact .inr (definitions.trans same.symm)
    · left
      rw [same, definitions]
      omega
    · rw [definitions] at other
      exact absurd other (by decide)
  · rcases needs_cases needed with ⟨definition, same⟩ | ⟨housing, same⟩ | ⟨tenant, namespace_⟩
    · left
      have := rank_ge (defined definition).1 (defined definition).2 definitions
      rw [same]
      omega
    · by_cases namespaces : item.gvr.resource = "namespaces"
      · exact .inr (namespaces.trans same.symm)
      · left
        have := rank_ge (housed housing) namespaces definitions
        rw [same]
        omega
    · left
      rw [tenant, namespace_]
      omega

/-- Whether a pair of items, in the order of the list, ends up the right way round. -/
def RightWay (first second : Item) : Prop :=
  (needs first second = true → second.less first = true) ∧ (needs second first = true → second.less first = false)

theorem respects_iff_rightWay (items : List Item) :
    Respects (syncOrder items) ↔ (items.filter fun item => item.obj.isSome).Pairwise RightWay := by
  rw [Respects, syncOrder, List.pairwise_filter, pairwise_insertionSort_iff, List.pairwise_filter]
  refine List.Pairwise.iff fun first second => ?_
  unfold RightWay
  generalize first.obj.isSome = here, second.obj.isSome = there
  cases here <;> cases there <;> cases second.less first <;> cases needs first second <;>
    cases needs second first <;> decide

theorem rank_le_of_not_less {a b : Item} (before : b.less a = false) : rank a.gvr.resource ≤ rank b.gvr.resource := by
  by_contra above
  have different : rank b.gvr.resource ≠ rank a.gvr.resource := by omega
  have smaller : rank b.gvr.resource < rank a.gvr.resource := by omega
  simp [Item.less, different, smaller] at before

theorem rank_le_of_less {a b : Item} (before : a.less b = true) : rank a.gvr.resource ≤ rank b.gvr.resource := by
  by_contra above
  have different : rank a.gvr.resource ≠ rank b.gvr.resource := by omega
  simp only [Item.less, ne_eq, different, not_false_eq_true, if_true, decide_eq_true_eq] at before
  omega

theorem less_same {a b : Item} (same : a.gvr.resource = b.gvr.resource) : a.less b = true ↔ a.name < b.name := by
  simp [Item.less, same]

/-- Neither of two items ranks before the other while it needs it. -/
def Ranked (a b : Item) : Prop :=
  (needs a b = true → ¬ rank a.gvr.resource < rank b.gvr.resource) ∧
    (needs b a = true → ¬ rank b.gvr.resource < rank a.gvr.resource)

instance : Std.Symm Ranked := ⟨fun _ _ pair => ⟨pair.2, pair.1⟩⟩

theorem RightWay.ranked {first second : Item} (right : RightWay first second) : Ranked first second :=
  ⟨fun needed => not_lt.mpr (rank_le_of_less (right.1 needed)),
    fun needed => not_lt.mpr (rank_le_of_not_less (right.2 needed))⟩

/-- The pairs end up the right way round just if the list is sortable. -/
theorem rightWay_iff_sortable (items : List Item) : items.Pairwise RightWay ↔ Sortable items := by
  constructor
  · intro right
    -- no item ranks before one that it needs, wherever the two stand
    have ranked := List.Pairwise.forall_of_forall (R := Ranked)
      (fun _ _ => ⟨fun _ => lt_irrefl _, fun _ => lt_irrefl _⟩) (right.imp RightWay.ranked)
    have ranks : ∀ item ∈ items, ∀ dependency ∈ items, needs item dependency = true →
        ¬ rank item.gvr.resource < rank dependency.gvr.resource :=
      fun _ member _ member' needed => (ranked member member').1 needed
    have first : rank "tenants" = -1 ∧ rank "namespaces" = 0 ∧ rank "customresourcedefinitions" = 1 := by decide
    refine ⟨?_, ?_, ?_⟩
    · intro crd member item member' definition
      have needed : needs item crd = true := by simp [needs, definition]
      have place := ranks item member' crd member needed
      have crds : crd.gvr.resource = "customresourcedefinitions" := by
        simp only [defines, Item.isCRD, Bool.and_eq_true, beq_iff_eq] at definition
        exact definition.1.2
      rw [crds] at place
      constructor <;> intro named <;> rw [named] at place <;> omega
    · intro ns member item member' housing named
      have needed : needs item ns = true := by simp [needs, housing]
      have place := ranks item member' ns member needed
      have namespaces : ns.gvr.resource = "namespaces" := by
        simp only [houses, Item.isNamespace, Bool.and_eq_true, beq_iff_eq] at housing
        exact housing.1.1.2
      rw [namespaces, named] at place
      omega
    · refine right.imp fun {first second} pair same => ⟨fun needed => ?_, fun needed => ?_⟩
      · exact (less_same same.symm).mp (pair.1 needed)
      · exact fun smaller => Bool.false_ne_true ((pair.2 needed).symm.trans ((less_same same.symm).mpr smaller))
  · intro sortable
    refine sortable.named.imp_of_mem fun {first second} member member' pair => ⟨fun needed => ?_, fun needed => ?_⟩
    · rcases needs_rank needed (sortable.defined second member' first member) (sortable.housed second member' first member)
        with before | same
      · simp [Item.less, ne_of_lt before, before]
      · exact (less_same same.symm).mpr ((pair same).1 needed)
    · rcases needs_rank needed (sortable.defined first member second member') (sortable.housed first member second member')
        with before | same
      · simp [Item.less, ne_of_gt before, not_lt.mpr (le_of_lt before)]
      · exact Bool.eq_false_iff.mpr fun smaller => (pair same.symm).2 needed ((less_same same).mp smaller)

/-- A sync goes through the items in an order that respects what they need just if the
list of those with an object is sortable. -/
theorem respects_syncOrder_iff (items : List Item) :
    Respects (syncOrder items) ↔ Sortable (items.filter fun item => item.obj.isSome) := by
  rw [respects_iff_rightWay, rightWay_iff_sortable]

/-- The Capsule Tenant resource and a Tenant. -/
def capsuleItems : List Item := [
  { gvr := ⟨"apiextensions.k8s.io", "v1", "customresourcedefinitions"⟩
    obj := some [("metadata", .object [("name", .string "tenants.capsule.clastix.io")]),
      ("spec", .object [("group", .string "capsule.clastix.io"), ("names", .object [("plural", .string "tenants")])])] },
  { gvr := ⟨"capsule.clastix.io", "v1beta2", "tenants"⟩
    obj := some [("metadata", .object [("name", .string "acme")])] }]

/-- A namespace, and a namespaced resource of another group that is called `tenants`. -/
def storeItems : List Item := [
  { gvr := ⟨"", "v1", "namespaces"⟩, obj := some [("metadata", .object [("name", .string "shop")])] },
  { gvr := ⟨"minio.min.io", "v2", "tenants"⟩, namespaced := true
    obj := some [("metadata", .object [("name", .string "store"), ("namespace", .string "shop")])] }]

/-- The Tenant is written before the definition of its resource, and the other tenant
before its namespace. -/
theorem syncOrder_disrespects :
    (syncOrder capsuleItems).map Item.name = ["acme", "tenants.capsule.clastix.io"] ∧ ¬ Respects (syncOrder capsuleItems) ∧
    (syncOrder storeItems).map Item.name = ["store", "shop"] ∧ ¬ Respects (syncOrder storeItems) := by
  decide +kernel

end Portage.ClusterObjects
