import Portage.Classify.Inventory

/-! The walk before and after the cutover's freeze: what setting the replicas of one
controller to zero does to the inventory. -/
namespace Portage

open Go Kube

/-- The kinds that the freeze scales. -/
inductive Scalable where
  | statefulSet
  | deployment
  deriving DecidableEq, Repr

def WalkedStatefulSet.freeze (name : String) (sts : WalkedStatefulSet) : WalkedStatefulSet :=
  if sts.name = name then { sts with replicas := some 0 } else sts

def WalkedDeployment.freeze (name : String) (deployment : WalkedDeployment) : WalkedDeployment :=
  if deployment.name = name then { deployment with replicas := some 0 } else deployment

/-- The API's answers once `spec.replicas` of one object is zero. -/
def Listing.freeze (api : Listing) (kind : Scalable) (ns name : String) : Listing :=
  match kind with
  | .statefulSet => { api with statefulSets := fun other =>
      if other = ns then (api.statefulSets ns).map (List.map (WalkedStatefulSet.freeze name)) else api.statefulSets other }
  | .deployment => { api with deployments := fun other =>
      if other = ns then (api.deployments ns).map (List.map (WalkedDeployment.freeze name)) else api.deployments other }

/-- Every claim that a claim template gives a pod after the first is a volume of the pod
template as well. -/
def WalkedStatefulSet.OnlyFirst (sts : WalkedStatefulSet) : Prop :=
  ∀ template ∈ sts.claimTemplates, ∀ ordinal, 0 < ordinal → ordinal < sts.counted →
    sts.realized template ordinal ∈ podPVCs sts.template

/-! ### Claims of a StatefulSet -/

/-- Names that are there already add nothing. -/
theorem foldl_addName_filter {base names : List String} (inside : ∀ name ∈ base, name ∈ names) (more : List String) :
    (more.filter fun name => !base.contains name).foldl addName names = more.foldl addName names := by
  induction more generalizing names with
  | nil => rfl
  | cons first rest ih =>
    by_cases known : first ∈ base
    · have skipped : addName names first = names := by simp [addName, inside first known]
      rw [List.filter_cons_of_neg (by simp [known]), List.foldl_cons, skipped, ih inside]
    · rw [List.filter_cons_of_pos (by simp [known]), List.foldl_cons, List.foldl_cons]
      refine ih fun name member => ?_
      have kept : name ∈ [first].foldl addName names := mem_foldl_addName.mpr (.inl (inside name member))
      exact kept

theorem itoa_toList (n : Nat) : (itoa n).toList = digitsOf (n + 1) n := by
  have positive : ¬ (n : Int) < 0 := by omega
  simp [itoa, positive]

/-- The ordinal of a realized claim can be read off its name. -/
theorem realized_ordinal (sts : WalkedStatefulSet) {template template' : String} {ordinal ordinal' : Nat}
    (same : sts.realized template ordinal = sts.realized template' ordinal') : ordinal = ordinal' := by
  have plain : ∀ n : Nat, '-' ∉ (digitsOf (n + 1) n).reverse := fun n member =>
    (digitsOf_isDigit _ _ '-' (List.mem_reverse.mp member)).2.1 rfl
  have texts := congrArg (fun text => text.toList.reverse) same
  simp only [WalkedStatefulSet.realized, String.toList_append, itoa_toList, List.reverse_append] at texts
  have digits := (mark_inj (plain ordinal) (plain ordinal') texts).1
  rw [← numberOf_digitsOf (Nat.lt_succ_self ordinal), ← numberOf_digitsOf (Nat.lt_succ_self ordinal'),
    List.reverse_inj.mp digits]

theorem counted_pos (sts : WalkedStatefulSet) : 0 < sts.counted := by
  unfold WalkedStatefulSet.counted
  split
  · split
    · rename_i positive
      have := Int32.lt_iff_toInt_lt.mp positive
      simp at this
      omega
    · exact Nat.one_pos
  · exact Nat.one_pos

/-- A StatefulSet keeps its claims at zero replicas just if the claims of its other
pods are volumes of the template too. -/
theorem stsPVCs_zero_iff (sts : WalkedStatefulSet) :
    stsPVCs { sts with replicas := some 0 } = stsPVCs sts ↔ sts.OnlyFirst := by
  have one : ({ sts with replicas := some 0 } : WalkedStatefulSet).counted = 1 := rfl
  constructor
  · intro same template member ordinal positive below
    have there : sts.realized template ordinal ∈ stsPVCs sts := mem_foldl_addName.mpr (.inr
      (List.mem_flatMap.mpr ⟨template, member, List.mem_map.mpr ⟨ordinal, List.mem_range.mpr below, rfl⟩⟩))
    rw [← same] at there
    rcases mem_foldl_addName.mp there with volume | realized
    · exact volume
    · obtain ⟨other, _, first⟩ := List.mem_flatMap.mp realized
      obtain ⟨least, small, equal⟩ := List.mem_map.mp first
      rw [one, List.mem_range] at small
      have := realized_ordinal sts equal
      omega
  · intro only
    unfold stsPVCs
    rw [← foldl_addName_filter (fun _ member => member)]
    conv_rhs => rw [← foldl_addName_filter (fun _ member => member)]
    refine congrArg (List.foldl addName (podPVCs sts.template)) ?_
    simp only [List.filter_flatMap]
    refine List.flatMap_congr fun template member => ?_
    obtain ⟨more, count⟩ := Nat.exists_eq_succ_of_ne_zero (Nat.ne_of_gt (counted_pos sts))
    have others : ((List.range more).map (sts.realized template ∘ Nat.succ)).filter
        (fun name => !(podPVCs sts.template).contains name) = [] := by
      simp only [List.filter_eq_nil_iff, List.mem_map, List.mem_range, forall_exists_index, and_imp,
        forall_apply_eq_imp_iff₂]
      intro ordinal below
      have volume := only template member (ordinal + 1) (Nat.succ_pos _) (by omega)
      simpa using volume
    conv_rhs => rw [count, List.range_succ_eq_map, List.map_cons, List.map_map, ← List.singleton_append,
      List.filter_append, others, List.append_nil]
    rw [one]
    rfl

/-! ### The inventory -/

/-- Freezing the object keeps the claims that the inventory knows of it. -/
def Listing.KeepsClaims (api : Listing) (namespaces : List String) (kind : Scalable) (ns name : String) : Prop :=
  kind = .statefulSet → ns ∈ namespaces → ∀ items, api.statefulSets ns = .ok items → ∀ sts ∈ items,
    sts.name = name → sts.OnlyFirst

theorem sections_congr {api other : Listing} {namespaces : List String}
    (same : ∀ ns ∈ namespaces, other.inNamespace ns = api.inNamespace ns) :
    other.sections namespaces = api.sections namespaces := by
  induction namespaces with
  | nil => rfl
  | cons ns rest ih =>
    rw [Listing.sections, Listing.sections, same ns (by simp), ih fun other member => same other (by simp [member])]

theorem stsPVCs_freeze {name : String} {sts : WalkedStatefulSet} (only : sts.name = name → sts.OnlyFirst) :
    stsPVCs (sts.freeze name) = stsPVCs sts := by
  unfold WalkedStatefulSet.freeze
  split
  · exact (stsPVCs_zero_iff sts).mpr (only ‹_›)
  · rfl

theorem WalkedStatefulSet.freeze_name (name : String) (sts : WalkedStatefulSet) : (sts.freeze name).name = sts.name := by
  unfold WalkedStatefulSet.freeze
  split <;> rfl

theorem WalkedStatefulSet.freeze_template (name : String) (sts : WalkedStatefulSet) :
    (sts.freeze name).template = sts.template := by
  unfold WalkedStatefulSet.freeze
  split <;> rfl

theorem WalkedDeployment.freeze_same (name : String) (deployment : WalkedDeployment) :
    (deployment.freeze name).name = deployment.name ∧ (deployment.freeze name).template = deployment.template := by
  unfold WalkedDeployment.freeze
  split <;> exact ⟨rfl, rfl⟩

theorem inNamespace_freeze {api : Listing} {namespaces : List String} {kind : Scalable} {ns name : String}
    (keeps : api.KeepsClaims namespaces kind ns name) {other : String} (member : other ∈ namespaces) :
    (api.freeze kind ns name).inNamespace other = api.inNamespace other := by
  by_cases here : other = ns
  · subst here
    cases kind with
    | statefulSet =>
      unfold Listing.inNamespace Listing.freeze
      cases listed : api.statefulSets other with
      | error text => simp [listing, Except.mapError, Except.map, bind, Except.bind]
      | ok items =>
        have same : ∀ deployments daemonSets, walkedControllers other (items.map (WalkedStatefulSet.freeze name))
            deployments daemonSets = walkedControllers other items deployments daemonSets := by
          intro deployments daemonSets
          unfold walkedControllers
          rw [List.map_map]
          refine congrArg (· ++ _) (congrArg (· ++ _) (List.map_congr_left fun sts inside => ?_))
          rw [Function.comp_apply, WalkedStatefulSet.freeze_name, WalkedStatefulSet.freeze_template,
            stsPVCs_freeze (keeps rfl member items listed sts inside)]
        simp only [if_true, Except.map, listed, listing, Except.mapError, bind, Except.bind, same]
    | deployment =>
      unfold Listing.inNamespace Listing.freeze
      cases listed : api.deployments other with
      | error text => simp [listing, Except.mapError, Except.map, bind, Except.bind]
      | ok items =>
        have same : ∀ sts daemonSets, walkedControllers other sts (items.map (WalkedDeployment.freeze name))
            daemonSets = walkedControllers other sts items daemonSets := by
          intro sts daemonSets
          unfold walkedControllers
          rw [List.map_map]
          refine congrArg (· ++ _) (congrArg (_ ++ ·) (List.map_congr_left fun deployment inside => ?_))
          rw [Function.comp_apply, (deployment.freeze_same name).1, (deployment.freeze_same name).2]
        simp only [if_true, Except.map, listed, listing, Except.mapError, bind, Except.bind, same]
  · cases kind <;> simp [Listing.inNamespace, Listing.freeze, here]

theorem unique_freeze {api : Listing} {kind : Scalable} {ns name other : String} (unique : api.Unique other) :
    (api.freeze kind ns name).Unique other := by
  cases kind with
  | statefulSet =>
    refine ⟨fun {items} listed => ?_, unique.deployments, unique.daemonSets, unique.claims⟩
    by_cases here : other = ns
    · subst here
      simp only [Listing.freeze, if_true] at listed
      cases before : api.statefulSets other with
      | error text => simp [before, Except.map] at listed
      | ok old =>
        obtain rfl : old.map (WalkedStatefulSet.freeze name) = items := by simpa [before, Except.map] using listed
        rw [List.map_map, List.map_congr_left (g := fun sts => sts.name) fun sts _ => sts.freeze_name name]
        exact unique.statefulSets before
    · simp only [Listing.freeze, here, if_false] at listed
      exact unique.statefulSets listed
  | deployment =>
    refine ⟨unique.statefulSets, fun {items} listed => ?_, unique.daemonSets, unique.claims⟩
    by_cases here : other = ns
    · subst here
      simp only [Listing.freeze, if_true] at listed
      cases before : api.deployments other with
      | error text => simp [before, Except.map] at listed
      | ok old =>
        obtain rfl : old.map (WalkedDeployment.freeze name) = items := by simpa [before, Except.map] using listed
        rw [List.map_map, List.map_congr_left (g := fun deployment => deployment.name)
          fun deployment _ => (deployment.freeze_same name).1]
        exact unique.deployments before
    · simp only [Listing.freeze, here, if_false] at listed
      exact unique.deployments listed

/-- The freeze leaves the inventory alone just if the frozen object is a Deployment, or
a StatefulSet whose claims beyond those of its first pod are volumes of its template. -/
theorem walk_freeze_iff {api : Listing} {namespaces : List String} (distinct : namespaces.Nodup)
    (legal : ∀ ns ∈ namespaces, legalName ns = true) (unique : ∀ ns ∈ namespaces, api.Unique ns)
    {inventory : List Workload} (walked : walk api namespaces = .ok inventory) (kind : Scalable) (ns name : String) :
    walk (api.freeze kind ns name) namespaces = .ok inventory ↔ api.KeepsClaims namespaces kind ns name := by
  constructor
  · rintro frozen rfl inside items listed sts member rfl
    -- one key, two workloads: they have the same claims
    have before := walk_filter_key distinct legal walked unique
      ((mem_walk distinct legal walked).mpr ⟨ns, inside, .inl (.statefulSet listed member)⟩)
    have listed' : (api.freeze .statefulSet ns sts.name).statefulSets ns =
        .ok (items.map (WalkedStatefulSet.freeze sts.name)) := by
      simp [Listing.freeze, listed, Except.map]
    have after := walk_filter_key distinct legal frozen (fun other inside => unique_freeze (unique other inside))
      ((mem_walk distinct legal frozen).mpr
        ⟨ns, inside, .inl (.statefulSet listed' (List.mem_map.mpr ⟨sts, member, rfl⟩))⟩)
    have keys : ∀ template template' pvcs pvcs',
        (fromPodOwner ns "StatefulSet" (sts.freeze sts.name).name template pvcs).key =
          (fromPodOwner ns "StatefulSet" sts.name template' pvcs').key := by
      intro template template' pvcs pvcs'
      rw [sts.freeze_name]
      rfl
    simp only [keys _ sts.template _ (stsPVCs sts), before] at after
    have claims := congrArg Workload.pvcNames (List.singleton_inj.mp after)
    refine (stsPVCs_zero_iff sts).mp (Eq.trans ?_ claims.symm)
    simp [fromPodOwner, WalkedStatefulSet.freeze]
  · intro keeps
    rw [walk_eq_sections distinct legal, sections_congr fun other member => inNamespace_freeze keeps member,
      ← walk_eq_sections distinct legal, walked]

/-- A database with three replicas and its claims. -/
def dbListing : Listing where
  statefulSets ns := .ok (if ns = "shop" then
    [{ name := "db", template := { images := ["postgres:16"] }, replicas := some 3, claimTemplates := ["data"] }] else [])
  deployments ns := .ok (if ns = "shop" then [{ name := "web", replicas := some 2 }] else [])
  claims ns := .ok (if ns = "shop" then [{ name := "data-db-0" }, { name := "data-db-1" }, { name := "data-db-2" }] else [])

theorem dbListing_unique (ns : String) : dbListing.Unique ns where
  statefulSets listed := by
    by_cases here : ns = "shop" <;> simp only [dbListing, here, if_true, if_false, Except.ok.injEq] at listed <;>
      subst listed <;> simp
  deployments listed := by
    by_cases here : ns = "shop" <;> simp only [dbListing, here, if_true, if_false, Except.ok.injEq] at listed <;>
      subst listed <;> simp
  daemonSets listed := by cases listed; simp
  claims listed := by
    by_cases here : ns = "shop" <;> simp only [dbListing, here, if_true, if_false, Except.ok.injEq] at listed <;>
      subst listed <;> simp

theorem walk_freeze_deployment : ∃ inventory, walk dbListing ["shop"] = .ok inventory ∧
    walk (dbListing.freeze .deployment "shop" "web") ["shop"] = .ok inventory :=
  ⟨_, rfl, (walk_freeze_iff (by decide) (by decide +kernel) (fun ns _ => dbListing_unique ns) rfl .deployment "shop"
    "web").mpr nofun⟩

/-- Once the database is frozen two of its three claims are workloads of their own. -/
theorem walk_freeze_claims_left :
    (walk dbListing ["shop"]).map (List.map fun w => (w.key, w.pvcNames)) =
      .ok [("shop/Deployment/web", []), ("shop/StatefulSet/db", ["data-db-0", "data-db-1", "data-db-2"])] ∧
    (walk (dbListing.freeze .statefulSet "shop" "db") ["shop"]).map (List.map fun w => (w.key, w.pvcNames)) =
      .ok [("shop/Deployment/web", []), ("shop/PersistentVolumeClaim/data-db-1", ["data-db-1"]),
        ("shop/PersistentVolumeClaim/data-db-2", ["data-db-2"]), ("shop/StatefulSet/db", ["data-db-0"])] := by
  decide +kernel

end Portage
