import Mathlib.Data.List.Nodup
import Portage.Kube.Writes
import Portage.Process.Keyed

/-! Listing the objects of a kind and deleting those that pass a test: which objects are
gone afterwards. -/
namespace Portage.Kube

open Go Process Program

/-- A kind of objects that a cluster keeps in a list. -/
structure ObjectList (α : Type) where
  resource : Resource
  key : α → ObjKey
  items : Cluster → List α
  put : List α → Cluster → Cluster
  items_put : ∀ xs cluster, items (put xs cluster) = xs

namespace ObjectList

variable {α : Type} (objects : ObjectList α)

def delete (side : Side) (c : ClusterId) (key : ObjKey) : Prog (Except ApiError Unit) :=
  deleteFrom side c objects.resource key (fun cluster => (objects.items cluster).any fun item => objects.key item = key)
    fun cluster => objects.put (Keyed.remove objects.key key (objects.items cluster)) cluster

/-- Delete the objects of a namespace that pass a test; without a list, none. -/
def sweep (side : Side) (c : ClusterId) (ns : String) (test : α → Bool) : Prog Unit := do
  match ← listObjects c objects.resource ns
    (fun cluster => (objects.items cluster).filter fun item => (objects.key item).namespace_ = ns) with
  | .error _ => pure ()
  | .ok items => forEach (items.filter test) fun item => ignoring (objects.delete side c (objects.key item))

/-- From `before` to `after` nothing was added, and what is missing is one of those that may go. -/
structure Swept (gone : α → Prop) (before after : List α) : Prop where
  within : ∀ item ∈ after, item ∈ before
  missing : ∀ item ∈ before, item ∉ after → gone item

theorem Swept.refl (gone : α → Prop) (items : List α) : Swept gone items items :=
  ⟨fun _ member => member, fun _ member absent => absurd member absent⟩

/-- The objects of a cluster between two points of a pass. -/
def SweptIn (c : ClusterId) (gone : α → Prop) (s t : World) : Prop :=
  Swept gone (objects.items (s.clusters c)) (objects.items (t.clusters c))

theorem sweptIn_chains (c : ClusterId) (gone : α → Prop) : Chains (objects.SweptIn c gone) where
  refl s := .refl gone _
  trans := by
    intro s t u first second
    refine ⟨fun item member => first.within item (second.within item member), fun item member absent => ?_⟩
    by_cases between : item ∈ objects.items (t.clusters c)
    · exact second.missing item between absent
    · exact first.missing item member between

section
variable {objects} {o : Oracle} {side : Side} {c : ClusterId} {ns : String} {test : α → Bool}

private theorem swept_delete (still : o.Still) {gone : α → Prop} {key : ObjKey}
    (may : ∀ item, objects.key item = key → gone item) : Moves o (objects.SweptIn c gone) (objects.delete side c key) := by
  intro s
  rw [SweptIn, delete, deleteFrom]
  rcases send_clusters (side.request .delete c objects.resource key) c _ still s with same | ⟨after, changed, same⟩
  · rw [same]
    exact .refl gone _
  · split at changed
    · obtain rfl := Except.ok.inj changed
      rw [same]
      simp only [↓reduceIte, objects.items_put]
      refine ⟨fun item member => List.mem_of_mem_filter member, fun item member absent => may item ?_⟩
      by_contra other
      exact absent (List.mem_filter.mpr ⟨member, by simpa using other⟩)
    · cases changed

private theorem swept_forEach (still : o.Still) {gone : α → Prop} {items : List α}
    (may : ∀ item ∈ items, ∀ other, objects.key other = objects.key item → gone other) :
    Moves o (objects.SweptIn c gone) (forEach items fun item => ignoring (objects.delete side c (objects.key item))) := by
  have chains := objects.sweptIn_chains c gone
  refine Moves.fold chains (fun _ item member => ?_) ()
  exact Moves.bind chains (swept_delete still (may item member)) fun _ => Moves.pure chains _

/-- Whatever fails, only objects under the key of one that passes the test are gone. -/
theorem swept_sweep (still : o.Still) (s : World) :
    Swept (fun item => ∃ other ∈ objects.items (s.clusters c), (objects.key other).namespace_ = ns ∧
      test other = true ∧ objects.key other = objects.key item) (objects.items (s.clusters c))
      (objects.items ((objects.sweep side c ns test o s).2.clusters c)) := by
  simp only [sweep, bind_run, listObjects, fetch_still still]
  cases o.fault s.calls (.list c objects.resource ns) with
  | some fault => exact .refl _ _
  | none =>
    refine swept_forEach still (fun item member other same => ?_) { s with calls := s.calls + 1 }
    obtain ⟨listed, passes⟩ := List.mem_filter.mp member
    obtain ⟨stored, inside⟩ := List.mem_filter.mp listed
    exact ⟨item, stored, by simpa using inside, passes, same.symm⟩

/-- With keys of their own, only objects that pass the test are gone. -/
theorem sweep_gone (objects : ObjectList α) (still : o.Still) {s : World}
    (distinct : ((objects.items (s.clusters c)).map objects.key).Nodup) {item : α}
    (member : item ∈ objects.items (s.clusters c))
    (absent : item ∉ objects.items ((objects.sweep side c ns test o s).2.clusters c)) :
    (objects.key item).namespace_ = ns ∧ test item = true := by
  obtain ⟨other, listed, inside, passes, same⟩ := (swept_sweep still s).missing item member absent
  obtain rfl : other = item := List.inj_on_of_nodup_map distinct listed member same
  exact ⟨inside, passes⟩

private theorem delete_served (still : o.Still) {key : ObjKey} {s : World}
    (served : o.fault s.calls (side.request .delete c objects.resource key) = none) :
    objects.items ((objects.delete side c key o s).2.clusters c) = Keyed.remove objects.key key (objects.items (s.clusters c)) := by
  have unmoved := still s.calls s.clusters
  by_cases there : ((objects.items (s.clusters c)).any fun item => objects.key item = key) = true
  · simp only [delete, deleteFrom, send, bind_run, tick, answers_run, record, modify_run, world_run, setCluster,
      unmoved, served, there, ↓reduceIte, pure_run, objects.items_put]
  · have absent : ∀ item ∈ objects.items (s.clusters c), decide (objects.key item ≠ key) = true := by
      intro item member
      simpa using fun same => there (List.any_eq_true.mpr ⟨item, member, by simpa using same⟩)
    have same : (objects.delete side c key o s).2.clusters = s.clusters := by
      simp only [delete, deleteFrom, send, bind_run, tick, answers_run, record, modify_run, world_run, unmoved, served,
        there, Bool.false_eq_true, ↓reduceIte, pure_run]
    rw [same, Keyed.remove, List.filter_eq_self.mpr absent]

/-- If the list and the deletes are served, every object that passes the test is gone. -/
theorem sweep_served (objects : ObjectList α) (still : o.Still)
    (listed : ∀ n, o.fault n (.list c objects.resource ns) = none)
    (deleted : ∀ n key, o.fault n (side.request .delete c objects.resource key) = none) {s : World} {item : α}
    (member : item ∈ objects.items (s.clusters c)) (inside : (objects.key item).namespace_ = ns)
    (passes : test item = true) : item ∉ objects.items ((objects.sweep side c ns test o s).2.clusters c) := by
  have loop (items : List α) : Holds o (fun _ => True)
      (forEach items fun item => ignoring (objects.delete side c (objects.key item)))
      fun _ t => ∀ item ∈ items, item ∉ objects.items (t.clusters c) := by
    refine Holds.weaken (Holds.fold (fun done _ t => ∀ item ∈ done, item ∉ objects.items (t.clusters c)) items ?_ ())
      (fun _ _ => by simp) fun _ _ after => after
    intro done x rest _ _ t before item handled
    have after : objects.items ((ignoring (objects.delete side c (objects.key x)) o t).2.clusters c) =
        Keyed.remove objects.key (objects.key x) (objects.items (t.clusters c)) := delete_served still (deleted _ _)
    rw [after]
    rcases List.mem_append.mp handled with earlier | last
    · exact fun present => before item earlier (List.mem_of_mem_filter present)
    · obtain rfl : item = x := by simpa using last
      simp [Keyed.remove]
  simp only [sweep, bind_run, listObjects, fetch_still still, listed, Option.elim_none]
  exact loop _ _ trivial item (List.mem_filter.mpr ⟨List.mem_filter.mpr ⟨member, by simpa using inside⟩, passes⟩)

end

end ObjectList

end Portage.Kube
