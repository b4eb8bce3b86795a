import Portage.Controller.Restore
import Portage.Kube.Quiet

/-! What a Restore pass touches when it applies the rendered manifests. -/
namespace Portage

open Go Kube Process Program

/-! ### Manifests -/

/-- An object that `Typed` stops at. -/
def Manifest.blocks : Manifest → Bool
  | .undecodable kind _ _ => typedKinds.contains kind
  | _ => false

/-- An object that applying leaves alone. -/
def Manifest.inert (cluster : Cluster) : Manifest → Bool
  | .claim key _ => (cluster.claims key).isSome
  | .payload .. | .controller .. => false
  | .daemonSet .. | .ignored .. | .undecodable .. => true

/-- The objects that are applied, in order, before the first that cannot be. -/
def appliedManifests (objects : List Manifest) : List Manifest :=
  (objects.insertionSort fun a b => order a.kind ≤ order b.kind).takeWhile fun object => !object.blocks

section
variable {o : Oracle} {clusters : Clusters} {c : ClusterId} {object : Manifest} {objects : List Manifest}

private theorem loud_createOrUpdate [DecidableEq β] {resource : Resource} {key : ObjKey}
    {select : Cluster → Option β} {created : Cluster → Cluster} {updated : β → Cluster → Cluster} :
    Loud o clusters (createOrUpdate c resource key select created updated) := by
  refine Loud.bind_left .send fun answer => ?_
  cases answer with
  | ok _ => exact .pure _
  | error refused =>
    dsimp only
    split
    · exact .pure _
    · refine .bind (.of_extends fun _ => moves_getObject _ _ _ _) fun answer => ?_
      cases answer with
      | error missing => exact .pure _
      | ok current => exact .of_extends fun _ => moves_send trivial

private theorem tells_createTyped (object : Manifest) :
    Tells clusters (object.inert (clusters c) = false) (createTyped c object) where
  logs := .of_extends fun _ => moves_createTyped c object fun _ _ => trivial
  toDecides := by
    cases object with
    | claim key claim =>
      refine .of_getObject (fun fault => ?_) ?_
      · simp only [ne_eq, fault.error_reason, not_false_eq_true, ↓reduceIte]
        exact .pure _
      · dsimp only [Manifest.inert]
        cases (clusters c).claims key with
        | some now => exact .pure _ Bool.noConfusion
        | none =>
          simp only [found_none, notFound, ne_eq, not_true_eq_false, ↓reduceIte]
          exact .of_loud (fun _ _ => .send) rfl
    | payload kind key content =>
      refine .of_loud (fun _ _ => ?_) rfl
      cases kind with
      | service => exact .send
      | configMap | secret => exact loud_createOrUpdate
    | controller kind key controller => exact .of_loud (fun _ _ => loud_createOrUpdate) rfl
    | daemonSet | ignored => exact .pure _ Bool.noConfusion
    | undecodable kind key text =>
      rw [createTyped]
      split <;> exact .pure _ Bool.noConfusion

/-- Served, an object that is left alone does not stop the others. -/
private theorem createTyped_serene (serene : o.Serene) (inert : object.inert (clusters c) = true)
    (passes : object.blocks = false) {s : World} (same : s.clusters = clusters) :
    (createTyped c object o s).1 = .ok () := by
  cases object with
  | claim key claim =>
    obtain ⟨now, here⟩ := Option.isSome_iff_exists.mp inert
    simp [createTyped, getObject_serene serene, same, here]
  | payload | controller => simp [Manifest.inert] at inert
  | daemonSet | ignored => rfl
  | undecodable kind key text =>
    have untyped : typedKinds.contains kind = false := passes
    simp only [createTyped, untyped, Bool.false_eq_true, ↓reduceIte]
    rfl

private theorem tells_typedStep (object : Manifest) :
    Tells clusters (object.inert (clusters c) = false) (typedStep c () object) := by
  refine (tells_createTyped object).then_reads fun answer _ => ?_
  cases answer with
  | ok _ => exact moves_pure _
  | error refused => dsimp only; split <;> exact moves_pure _

private theorem typedStep_blocked (blocks : object.blocks = true) :
    ∃ text, ∀ (o : Oracle) (s : World), typedStep c () object o s = (.error text, s) := by
  cases object with
  | undecodable kind key text =>
    have typed : typedKinds.contains kind = true := blocks
    refine ⟨"apply " ++ kind ++ "/" ++ key.name ++ ": " ++ text, fun o s => ?_⟩
    simp only [typedStep, createTyped, typed, ↓reduceIte, bind_run, pure_run, reduceCtorEq]
    rfl
  | claim | payload | controller | daemonSet | ignored => simp [Manifest.blocks] at blocks

private theorem typedStep_serene (serene : o.Serene) (inert : object.inert (clusters c) = true)
    (passes : object.blocks = false) {s : World} (same : s.clusters = clusters) :
    (typedStep c () object o s).1 = .ok () := by
  simp [typedStep, createTyped_serene serene inert passes same]

/-- What is heard is the first object that is not left alone, unless the loop stops before it. -/
private theorem tells_typedLoop (objects : List Manifest) :
    Tells clusters (∃ object ∈ objects.takeWhile (fun object => !object.blocks), object.inert (clusters c) = false)
      (Program.foldUntil (typedStep c) objects ()) := by
  induction objects with
  | nil => exact .pure _ (by simp)
  | cons object rest ih =>
    cases blocks : object.blocks with
    | true =>
      obtain ⟨text, stops⟩ := typedStep_blocked (c := c) blocks
      have ends : Program.foldUntil (typedStep c) (object :: rest) () = pure (.error text) := by
        funext o s
        simp [Program.foldUntil, stops]
      rw [ends]
      exact .pure _ (by simp [blocks])
    | false =>
      refine (Tells.bind_of (· = .ok ())
        (∃ object ∈ rest.takeWhile (fun object => !object.blocks), object.inert (clusters c) = false)
        (tells_typedStep object) (fun alone o serene s same =>
          typedStep_serene serene (by simpa using alone) blocks same) fun answer => ?_).congr (by simp [blocks])
      cases answer with
      | error text => exact .pure _ (by simp)
      | ok _ => exact ih.congr (by simp)

theorem decides_typed (objects : List Manifest) :
    Decides clusters (∃ object ∈ appliedManifests objects, object.inert (clusters c) = false) (typed c objects) :=
  (tells_typedLoop _).toDecides

/-- What comes to its end has met no object that it stops at. -/
theorem typed_unblocked {s : World} (went : (typed c objects o s).1 = .ok ()) :
    ∀ object ∈ objects, object.blocks = false := by
  suffices general : ∀ (list : List Manifest) (s : World),
      (Program.foldUntil (typedStep c) list () o s).1 = .ok () → ∀ object ∈ list, object.blocks = false from
    fun object member => general _ s went object ((List.mem_insertionSort _).mpr member)
  intro list
  induction list with
  | nil => simp
  | cons first rest ih =>
    intro s went
    cases blocks : first.blocks with
    | true =>
      obtain ⟨text, stops⟩ := typedStep_blocked (c := c) blocks
      simp [Program.foldUntil, stops] at went
    | false =>
      simp only [Program.foldUntil, bind_run] at went
      cases answer : (typedStep c () first o s).1 with
      | error text => simp [answer] at went
      | ok _ =>
        simp only [answer] at went
        exact List.forall_mem_cons.mpr ⟨blocks, ih _ went⟩

/-- Served, objects that are left alone and decode are all passed. -/
theorem typed_serene (serene : o.Serene)
    (inert : ∀ object ∈ appliedManifests objects, object.inert (clusters c) = true)
    (passes : ∀ object ∈ objects, object.blocks = false) {s : World} (same : s.clusters = clusters) :
    (typed c objects o s).1 = .ok () := by
  unfold appliedManifests at inert
  unfold typed
  have sorted : ∀ object ∈ objects.insertionSort (fun a b => order a.kind ≤ order b.kind),
      object.blocks = false := fun object member => passes object ((List.mem_insertionSort _).mp member)
  generalize objects.insertionSort (fun a b => order a.kind ≤ order b.kind) = list at inert sorted
  induction list generalizing s with
  | nil => rfl
  | cons first rest ih =>
    have clear := sorted first (by simp)
    simp only [List.takeWhile_cons, clear, Bool.not_false, ↓reduceIte, List.mem_cons, forall_eq_or_imp] at inert
    have kept := ((tells_typedStep (c := c) first).quiet (by simp [inert.1]) o serene.still s same).1
    simp only [Program.foldUntil, bind_run, typedStep_serene serene inert.1 clear same]
    exact ih kept inert.2 fun object member => sorted object (by simp [member])

end

/-! ### What can be exported -/

/-- The reads that export a workload, with what each finds on the source. -/
def Workload.exportReads (w : Workload) (c : ClusterId) (cluster : Cluster) :
    List (Request × Option Manifest) :=
  (w.pvcNames.map fun name => (.export_ c .claims ⟨w.namespace_, name⟩,
    (cluster.claims ⟨w.namespace_, name⟩).map (.claim ⟨w.namespace_, name⟩))) ++
  match ControllerKind.of? w.kind with
  | some kind => [(.export_ c kind.resource w.objKey,
      (kind.table cluster w.objKey).map (.controller kind w.objKey))]
  | none =>
    if w.kind = "DaemonSet" then
      [(.export_ c .daemonSets w.objKey, (cluster.daemonSets w.objKey).map (.daemonSet w.objKey))]
    else []

theorem Workload.exportReads_exports (w : Workload) (c : ClusterId) (cluster : Cluster) :
    ∀ read ∈ w.exportReads c cluster, read.1.exports = true := by
  intro read member
  unfold Workload.exportReads at member
  rcases List.mem_append.mp member with claim | controller
  · obtain ⟨name, _, rfl⟩ := List.mem_map.mp claim
    rfl
  · cases kind : ControllerKind.of? w.kind with
    | some kind => simp_all [Request.exports]
    | none =>
      simp only [kind] at controller
      split at controller
      · rw [List.mem_singleton.mp controller]
        rfl
      · simp at controller

/-- What reads numbered from `n` on give if the refused ones are left out. -/
def served (refused : Nat → Request → Bool) : Nat → List (Request × Option Manifest) → List Manifest
  | _, [] => []
  | n, (req, object) :: rest =>
    (if refused n req then [] else object.toList) ++ served refused (n + 1) rest

/-- The rendered objects of the workloads, if the reads that export them are
numbered from `n` on and some are refused. -/
def Env.rendered (env : Env) (clusters : Clusters) (refused : Nat → Request → Bool) :
    Nat → List Workload → List Manifest
  | _, [] => []
  | n, w :: rest =>
    let reads := w.exportReads env.source.kube (clusters env.source.kube)
    (match env.render (served refused n reads) with
      | .ok out => out
      | .error _ => []) ++ env.rendered clusters refused (n + reads.length) rest

/-- Which requests an oracle refuses. -/
def Kube.Oracle.refuses (o : Oracle) (n : Nat) (req : Request) : Bool := (o.fault n req).isSome

theorem served_append (refused : Nat → Request → Bool) (n : Nat)
    (first second : List (Request × Option Manifest)) :
    served refused n (first ++ second) = served refused n first ++ served refused (n + first.length) second := by
  induction first generalizing n with
  | nil => rfl
  | cons read rest ih =>
    simp only [List.cons_append, served, ih (n + 1), List.append_assoc, List.length_cons]
    rw [show n + 1 + rest.length = n + (rest.length + 1) by omega]

section
variable {o : Oracle} (still : o.Still)
include still

private theorem exportObject_still (c : ClusterId) (resource : Resource) (key : ObjKey)
    (select : Cluster → Option α) (s : World) : exportObject c resource key select o s =
      (if o.refuses s.calls (.export_ c resource key) then
          .error ((o.fault s.calls (.export_ c resource key)).getD {}).error
        else found resource key (select (s.clusters c)), { s with calls := s.calls + 1 }) := by
  rw [exportObject, fetch_still still]
  cases refused : o.fault s.calls (.export_ c resource key) <;> simp [Oracle.refuses, refused]

private theorem exportClaims_still (c : ClusterId) (w : Workload) (names : List String)
    (out : List Manifest) (s : World) :
    Program.fold (exportClaim c w) names out o s =
      (out ++ served o.refuses s.calls (names.map fun name => (.export_ c .claims ⟨w.namespace_, name⟩,
        ((s.clusters c).claims ⟨w.namespace_, name⟩).map (.claim ⟨w.namespace_, name⟩))),
        { s with calls := s.calls + names.length }) := by
  induction names generalizing out s with
  | nil => simp [Program.fold, served]
  | cons name rest ih =>
    simp only [Program.fold, exportClaim, bind_run, exportObject_still still, List.map_cons, served,
      List.length_cons]
    cases refused : o.refuses s.calls (.export_ c .claims ⟨w.namespace_, name⟩) with
    | true =>
      simp only [↓reduceIte, pure_run, ih, List.nil_append]
      rw [show s.calls + 1 + rest.length = s.calls + (rest.length + 1) by omega]
    | false =>
      cases (s.clusters c).claims ⟨w.namespace_, name⟩ with
      | none =>
        simp only [Bool.false_eq_true, ↓reduceIte, found_none, pure_run, ih, Option.map_none, Option.toList_none,
          List.nil_append]
        rw [show s.calls + 1 + rest.length = s.calls + (rest.length + 1) by omega]
      | some claim =>
        simp only [Bool.false_eq_true, ↓reduceIte, found_some, pure_run, ih, Option.map_some, Option.toList_some,
          List.append_assoc]
        rw [show s.calls + 1 + rest.length = s.calls + (rest.length + 1) by omega]

private theorem exportWorkload_still (c : ClusterId) (w : Workload) (s : World) :
    exportWorkload c w o s =
      (served o.refuses s.calls (w.exportReads c (s.clusters c)),
        { s with calls := s.calls + (w.exportReads c (s.clusters c)).length }) := by
  simp only [exportWorkload, bind_run, pure_run, exportClaims, exportClaims_still still, List.nil_append,
    Workload.exportReads, served_append, List.length_append, List.length_map]
  unfold exportController
  cases ControllerKind.of? w.kind with
  | some kind =>
    simp only [bind_run, exportObject_still still, served, List.length_singleton]
    cases o.refuses (s.calls + w.pvcNames.length) (.export_ c kind.resource w.objKey) <;>
      cases kind.table (s.clusters c) w.objKey <;> simp [Nat.add_assoc]
  | none =>
    dsimp only
    split
    · simp only [bind_run, exportObject_still still, served, List.length_singleton]
      cases o.refuses (s.calls + w.pvcNames.length) (.export_ c .daemonSets w.objKey) <;>
        cases (s.clusters c).daemonSets w.objKey <;> simp [Nat.add_assoc]
    · simp [served]

/-- What a pass renders is told by which of its reads are refused. -/
theorem renderAll_still (env : Env) (s : World) :
    (renderAll env o s).1 = env.rendered s.clusters o.refuses s.calls env.exported := by
  suffices general : ∀ (workloads : List Workload) (out : List Manifest) (s : World),
      (Program.fold (renderStep env) workloads out o s).1 = out ++
        env.rendered s.clusters o.refuses s.calls workloads from
    (general _ [] s).trans (List.nil_append _)
  intro workloads
  induction workloads with
  | nil => simp [Program.fold, Env.rendered]
  | cons w rest ih =>
    intro out s
    simp only [Program.fold, renderStep, bind_run, exportWorkload_still still, Env.rendered]
    cases env.render (served o.refuses s.calls (w.exportReads env.source.kube (s.clusters env.source.kube))) with
    | error text => simp only [pure_run, ih, List.nil_append]
    | ok more => simp only [pure_run, ih, List.append_assoc]

end

end Portage
