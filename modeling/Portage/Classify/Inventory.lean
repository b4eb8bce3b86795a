import Mathlib.Data.List.Nodup
import Mathlib.Data.Prod.Lex
import Mathlib.Data.String.Basic
import Portage.Classify.Walk
import Portage.Kube.Names

/-! What an inventory holds: every controller once, every other claim that is not
scratch, and the same list for every order of the API's answers. -/
namespace Portage

open Go Kube

/-! ### One namespace at a time -/

/-- The listed claims that no controller names and that hold no scratch data. -/
def claimsLeft (controllers : List Workload) (claims : List WalkedClaim) : List WalkedClaim :=
  claims.filter fun item =>
    !(controllers.any fun w => w.pvcNames.contains item.name) && !isMoverScratchPVC item.name item.claim

/-- The workloads of one namespace, with no memory of the namespaces before it. -/
def Listing.inNamespace (api : Listing) (ns : String) : Except String (List Workload) := do
  let sts ← listing "StatefulSets" ns (api.statefulSets ns)
  let deployments ← listing "Deployments" ns (api.deployments ns)
  let daemonSets ← listing "DaemonSets" ns (api.daemonSets ns)
  let claims ← listing "PVCs" ns (api.claims ns)
  let controllers := walkedControllers ns sts deployments daemonSets
  pure (controllers ++ (claimsLeft controllers claims).map fun item => leftoverClaim ns item.name)

theorem Walked.add_claimed (controllers : List Workload) (seen : Walked) :
    (controllers.foldl Walked.add seen).claimed =
      seen.claimed ++ controllers.flatMap fun w => w.pvcNames.map fun pvc => w.namespace_ ++ "/" ++ pvc := by
  induction controllers generalizing seen with
  | nil => simp
  | cons w rest ih => simp [ih, Walked.add]

theorem Walked.addLeftover_eq (ns : String) (items : List WalkedClaim) (seen : Walked) :
    items.foldl (Walked.addLeftover ns) seen = ⟨seen.workloads ++
      (items.filter fun item => !seen.claimed.contains (ns ++ "/" ++ item.name) &&
        !isMoverScratchPVC item.name item.claim).map (fun item => leftoverClaim ns item.name), seen.claimed⟩ := by
  induction items generalizing seen with
  | nil => simp
  | cons item rest ih =>
    rw [List.foldl_cons, ih, Walked.addLeftover]
    cases taken : seen.claimed.contains (ns ++ "/" ++ item.name) with
    | true => rw [if_pos rfl, List.filter_cons_of_neg (by simp only [taken, Bool.not_true, Bool.false_and,
        Bool.false_eq_true, not_false_eq_true])]
    | false =>
      cases scratch : isMoverScratchPVC item.name item.claim with
      | true => rw [if_neg Bool.false_ne_true, if_pos rfl, List.filter_cons_of_neg (by simp [scratch])]
      | false =>
        rw [if_neg Bool.false_ne_true, if_neg Bool.false_ne_true,
          List.filter_cons_of_pos (by simp only [taken, scratch, Bool.not_false, Bool.and_self])]
        simp only [List.map_cons, List.append_assoc, List.singleton_append]

/-- Nothing marked so far is a claim of the namespace. -/
def Walked.Free (seen : Walked) (ns : String) : Prop := ∀ name, ns ++ "/" ++ name ∉ seen.claimed

variable {ns : String} {w : Workload} {namespaces : List String} {api : Listing} {found all : List Workload}

theorem walkedControllers_namespace {sts : List WalkedStatefulSet} {deployments : List WalkedDeployment}
    {daemonSets : List WalkedDaemonSet} (member : w ∈ walkedControllers ns sts deployments daemonSets) :
    w.namespace_ = ns := by
  simp only [walkedControllers, List.mem_append, List.mem_map] at member
  rcases member with (⟨item, _, rfl⟩ | ⟨item, _, rfl⟩) | ⟨item, _, rfl⟩ <;> rfl

/-- The marks of a namespace's controllers are its own claims. -/
private theorem mem_marks {controllers : List Workload} (inside : ∀ w ∈ controllers, w.namespace_ = ns)
    {mark : String} : (mark ∈ controllers.flatMap fun w => w.pvcNames.map fun pvc => w.namespace_ ++ "/" ++ pvc) ↔
      ∃ w ∈ controllers, ∃ pvc ∈ w.pvcNames, mark = ns ++ "/" ++ pvc := by
  simp only [List.mem_flatMap, List.mem_map]
  constructor
  · rintro ⟨w, member, pvc, named, rfl⟩
    exact ⟨w, member, pvc, named, by rw [inside w member]⟩
  · rintro ⟨w, member, pvc, named, rfl⟩
    exact ⟨w, member, pvc, named, by rw [inside w member]⟩

theorem walkNamespace_eq (api : Listing) {seen : Walked} (free : seen.Free ns) :
    (∀ text, api.inNamespace ns = .error text → walkNamespace api seen ns = .error text) ∧
    ∀ found, api.inNamespace ns = .ok found → ∃ next, walkNamespace api seen ns = .ok next ∧
      next.workloads = seen.workloads ++ found ∧
      ∀ mark ∈ next.claimed, mark ∈ seen.claimed ∨ ∃ pvc, mark = ns ++ "/" ++ pvc := by
  unfold Listing.inNamespace walkNamespace
  cases listing "StatefulSets" ns (api.statefulSets ns) with
  | error text => simp [bind, Except.bind]
  | ok sts =>
  cases listing "Deployments" ns (api.deployments ns) with
  | error text => simp [bind, Except.bind]
  | ok deployments =>
  cases listing "DaemonSets" ns (api.daemonSets ns) with
  | error text => simp [bind, Except.bind]
  | ok daemonSets =>
  cases listing "PVCs" ns (api.claims ns) with
  | error text => simp [bind, Except.bind]
  | ok claims =>
    refine ⟨(fun text failed => nomatch failed), fun found done => ⟨_, rfl, ?_⟩⟩
    obtain rfl : _ = found := Except.ok.inj done
    have inside : ∀ w ∈ walkedControllers ns sts deployments daemonSets, w.namespace_ = ns := fun _ =>
      walkedControllers_namespace
    rw [Walked.addLeftover_eq, Walked.add_workloads, Walked.add_claimed]
    refine ⟨?_, ?_⟩
    · rw [List.append_assoc]
      refine congrArg (fun rest => seen.workloads ++ (_ ++ List.map _ rest)) (List.filter_congr fun item _ => ?_)
      congr 2
      rw [Bool.eq_iff_iff, List.contains_iff_mem, List.mem_append, mem_marks inside, List.any_eq_true]
      constructor
      · rintro (earlier | ⟨w, member, pvc, named, same⟩)
        · exact absurd earlier (free item.name)
        · obtain rfl : item.name = pvc := by simpa using same
          exact ⟨w, member, by simpa using named⟩
      · rintro ⟨w, member, named⟩
        exact .inr ⟨w, member, item.name, by simpa using named, rfl⟩
    · intro mark member
      rcases List.mem_append.mp member with earlier | marked
      · exact .inl earlier
      · obtain ⟨_, _, pvc, _, same⟩ := (mem_marks inside).mp marked
        exact .inr ⟨pvc, same⟩

/-- The workloads of some namespaces, one after the other. -/
def Listing.sections (api : Listing) : List String → Except String (List Workload)
  | [] => .ok []
  | ns :: rest => do
    let found ← api.inNamespace ns
    let more ← api.sections rest
    pure (found ++ more)

theorem foldlM_walkNamespace (api : Listing) (distinct : namespaces.Nodup)
    (legal : ∀ ns ∈ namespaces, legalName ns = true) (seen : Walked) (free : ∀ ns ∈ namespaces, seen.Free ns) :
    (namespaces.foldlM (walkNamespace api) seen).map Walked.workloads =
      (api.sections namespaces).map (seen.workloads ++ ·) := by
  induction namespaces generalizing seen with
  | nil => simp [Listing.sections, pure, Except.pure, Except.map]
  | cons ns rest ih =>
    obtain ⟨fails, finds⟩ := walkNamespace_eq api (free ns (by simp))
    rw [List.foldlM_cons, Listing.sections]
    cases here : api.inNamespace ns with
    | error text => simp [fails text here, bind, Except.bind, Except.map]
    | ok found =>
      obtain ⟨next, step, workloads, marks⟩ := finds found here
      have still : ∀ other ∈ rest, next.Free other := by
        intro other member name marked
        rcases marks _ marked with earlier | ⟨pvc, same⟩
        · exact free other (by simp [member]) name earlier
        · have equal := (legalName_slash_inj (legal other (by simp [member])) (legal ns (by simp)) same).1
          exact (List.nodup_cons.mp distinct).1 (equal ▸ member)
      have later := ih (List.nodup_cons.mp distinct).2 (fun other member => legal other (by simp [member])) next still
      simp only [step, bind, Except.bind]
      rw [later, workloads]
      cases api.sections rest <;> simp [Except.map, pure, Except.pure]

/-- On distinct namespaces the marks of one never hide a claim of another: the walk is
the namespaces one by one, sorted. -/
theorem walk_eq_sections (distinct : namespaces.Nodup) (legal : ∀ ns ∈ namespaces, legalName ns = true) :
    walk api namespaces =
      (api.sections namespaces).map fun all => all.insertionSort fun a b => a.before b := by
  have fold := foldlM_walkNamespace api distinct legal {} fun _ _ _ => List.not_mem_nil
  rw [walk]
  cases run : namespaces.foldlM (walkNamespace api) {} <;> cases all : api.sections namespaces <;>
    simp_all [bind, Except.bind, Except.map, pure, Except.pure]

/-! ### The order -/

/-- What the inventory is sorted by. -/
def Workload.rank (w : Workload) : String ×ₗ String ×ₗ String := toLex (w.namespace_, toLex (w.kind, w.name))

theorem Workload.before_iff (a b : Workload) : a.before b = true ↔ a.rank ≤ b.rank := by
  rw [Workload.before, Workload.rank, Workload.rank, Prod.Lex.toLex_le_toLex, Prod.Lex.toLex_le_toLex]
  by_cases ns : a.namespace_ = b.namespace_
  · by_cases kind : a.kind = b.kind
    · simp [ns, kind]
    · simp [ns, kind]
  · simp [ns]

/-- The sorted list of workloads that are told apart by their ranks is known from what
it holds, whatever sorts it. -/
theorem insertionSort_before_perm {first second : List Workload} (same : first.Perm second)
    (told : (first.map Workload.rank).Nodup) :
    first.insertionSort (fun a b => a.before b) = second.insertionSort fun a b => a.before b := by
  have total : Std.Total fun a b : Workload => a.before b = true :=
    ⟨fun a b => by simpa only [Workload.before_iff] using le_total a.rank b.rank⟩
  have trans : IsTrans Workload fun a b => a.before b = true :=
    ⟨fun a b c => by simpa only [Workload.before_iff] using le_trans⟩
  refine List.Perm.eq_of_pairwise (fun a b memberA memberB ab ba => ?_) (List.pairwise_insertionSort _ _)
    (List.pairwise_insertionSort _ _)
    (((List.perm_insertionSort _ first).trans same).trans (List.perm_insertionSort _ second).symm)
  rw [List.mem_insertionSort] at memberA memberB
  exact List.inj_on_of_nodup_map told memberA (same.mem_iff.mpr memberB)
    (le_antisymm ((Workload.before_iff a b).mp ab) ((Workload.before_iff b a).mp ba))

/-! ### What is listed and what is found -/

/-- No two objects of one kind in a namespace have one name. -/
structure Listing.Unique (api : Listing) (ns : String) : Prop where
  statefulSets {items : List WalkedStatefulSet} : api.statefulSets ns = .ok items → (items.map (·.name)).Nodup
  deployments {items : List WalkedDeployment} : api.deployments ns = .ok items → (items.map (·.name)).Nodup
  daemonSets {items : List WalkedDaemonSet} : api.daemonSets ns = .ok items → (items.map (·.name)).Nodup
  claims {items : List WalkedClaim} : api.claims ns = .ok items → (items.map (·.name)).Nodup

/-- The listed StatefulSets, Deployments and DaemonSets of a namespace, as workloads. -/
inductive Listing.Controls (api : Listing) (ns : String) : Workload → Prop where
  | statefulSet {items : List WalkedStatefulSet} {item : WalkedStatefulSet} (listed : api.statefulSets ns = .ok items)
      (member : item ∈ items) : Controls api ns (fromPodOwner ns "StatefulSet" item.name item.template (stsPVCs item))
  | deployment {items : List WalkedDeployment} {item : WalkedDeployment} (listed : api.deployments ns = .ok items)
      (member : item ∈ items) :
      Controls api ns (fromPodOwner ns "Deployment" item.name item.template (podPVCs item.template))
  | daemonSet {items : List WalkedDaemonSet} {item : WalkedDaemonSet} (listed : api.daemonSets ns = .ok items)
      (member : item ∈ items) :
      Controls api ns (fromPodOwner ns "DaemonSet" item.name item.template (podPVCs item.template))

/-- A listed claim of a namespace. -/
def Listing.Lists (api : Listing) (ns : String) (item : WalkedClaim) : Prop :=
  ∃ items, api.claims ns = .ok items ∧ item ∈ items

/-! ### The claims that a controller names -/

/-- The pods that the StatefulSet controller runs; an absent number is one. -/
def WalkedStatefulSet.pods (sts : WalkedStatefulSet) : Nat :=
  match sts.replicas with
  | some replicas => replicas.toInt.toNat
  | none => 1

/-- The claims that the volumes of a pod template are backed by. -/
def WalkedTemplate.mounts (template : WalkedTemplate) : Set String := { pvc | some pvc ∈ template.volumes }

/-- The claims of a StatefulSet: those of its pod template, and for each claim template one
for each ordinal of its pods. One ordinal counts even if there is no pod. -/
def WalkedStatefulSet.uses (sts : WalkedStatefulSet) : Set String := { pvc | pvc ∈ sts.template.mounts ∨
  ∃ template ∈ sts.claimTemplates, ∃ ordinal < max 1 sts.pods, pvc = sts.realized template ordinal }

/-- A controller that a namespace lists, by its kind and name, with the claims it names. -/
inductive Listing.HasController (api : Listing) (ns : String) : String → String → Set String → Prop where
  | statefulSet {items : List WalkedStatefulSet} {item : WalkedStatefulSet} (listed : api.statefulSets ns = .ok items)
      (member : item ∈ items) : HasController api ns "StatefulSet" item.name item.uses
  | deployment {items : List WalkedDeployment} {item : WalkedDeployment} (listed : api.deployments ns = .ok items)
      (member : item ∈ items) : HasController api ns "Deployment" item.name item.template.mounts
  | daemonSet {items : List WalkedDaemonSet} {item : WalkedDaemonSet} (listed : api.daemonSets ns = .ok items)
      (member : item ∈ items) : HasController api ns "DaemonSet" item.name item.template.mounts

/-- Some listed controller of the namespace names the claim. -/
def Listing.NamesClaim (api : Listing) (ns pvc : String) : Prop :=
  ∃ kind name claims, api.HasController ns kind name claims ∧ pvc ∈ claims

/-- The workload stands for a claim of the namespace that no controller names and that is
not scratch space of a mover. -/
def Listing.LeavesOver (api : Listing) (ns : String) (w : Workload) : Prop :=
  ∃ item, api.Lists ns item ∧ ¬ api.NamesClaim ns item.name ∧ isMoverScratchPVC item.name item.claim = false ∧
    w = leftoverClaim ns item.name

theorem mem_foldl_addName {names more : List String} {name : String} :
    name ∈ more.foldl addName names ↔ name ∈ names ∨ name ∈ more := by
  induction more generalizing names with
  | nil => simp
  | cons first rest ih =>
    rw [List.foldl_cons, ih, addName]
    split
    · rename_i known
      rw [List.contains_iff_mem] at known
      constructor
      · rintro (here | later)
        · exact .inl here
        · exact .inr (by simp [later])
      · rintro (here | added)
        · exact .inl here
        · rcases List.mem_cons.mp added with rfl | later
          · exact .inl known
          · exact .inr later
    · simp [or_assoc]

theorem mem_podPVCs {template : WalkedTemplate} {pvc : String} : pvc ∈ podPVCs template ↔ pvc ∈ template.mounts := by
  rw [podPVCs, mem_foldl_addName]
  simp [WalkedTemplate.mounts]

theorem WalkedStatefulSet.counted_eq (sts : WalkedStatefulSet) : sts.counted = max 1 sts.pods := by
  unfold counted pods
  cases sts.replicas with
  | none => rfl
  | some replicas =>
    have positive : 0 < replicas ↔ 0 < replicas.toInt := by rw [Int32.lt_iff_toInt_lt, Int32.toInt_zero]
    simp only [positive]
    split <;> omega

theorem mem_stsPVCs {sts : WalkedStatefulSet} {pvc : String} : pvc ∈ stsPVCs sts ↔ pvc ∈ sts.uses := by
  rw [stsPVCs, mem_foldl_addName, mem_podPVCs, sts.counted_eq]
  simp only [WalkedStatefulSet.uses, Set.mem_ofPred_eq, List.mem_flatMap, List.mem_map, List.mem_range, eq_comm]

/-- A listed controller is walked with the claims it names. -/
theorem Listing.HasController.controls {kind name : String} {claims : Set String}
    (has : api.HasController ns kind name claims) : ∃ w, api.Controls ns w ∧
      (w.namespace_ = ns ∧ w.kind = kind ∧ w.name = name) ∧ ∀ pvc, pvc ∈ w.pvcNames ↔ pvc ∈ claims := by
  cases has with
  | statefulSet listed member => exact ⟨_, .statefulSet listed member, ⟨rfl, rfl, rfl⟩, fun _ => mem_stsPVCs⟩
  | deployment listed member => exact ⟨_, .deployment listed member, ⟨rfl, rfl, rfl⟩, fun _ => mem_podPVCs⟩
  | daemonSet listed member => exact ⟨_, .daemonSet listed member, ⟨rfl, rfl, rfl⟩, fun _ => mem_podPVCs⟩

theorem namesClaim_iff {pvc : String} : api.NamesClaim ns pvc ↔ ∃ w, api.Controls ns w ∧ pvc ∈ w.pvcNames := by
  constructor
  · rintro ⟨kind, name, claims, has, named⟩
    obtain ⟨w, controls, _, same⟩ := has.controls
    exact ⟨w, controls, (same pvc).mpr named⟩
  · rintro ⟨_, (⟨listed, member⟩ | ⟨listed, member⟩ | ⟨listed, member⟩), named⟩
    · exact ⟨_, _, _, .statefulSet listed member, mem_stsPVCs.mp named⟩
    · exact ⟨_, _, _, .deployment listed member, mem_podPVCs.mp named⟩
    · exact ⟨_, _, _, .daemonSet listed member, mem_podPVCs.mp named⟩

/-- The four answers behind the workloads of a namespace. -/
theorem inNamespace_ok (done : api.inNamespace ns = .ok found) :
    ∃ sts deployments daemonSets claims, api.statefulSets ns = .ok sts ∧ api.deployments ns = .ok deployments ∧
      api.daemonSets ns = .ok daemonSets ∧ api.claims ns = .ok claims ∧
      found = walkedControllers ns sts deployments daemonSets ++
        (claimsLeft (walkedControllers ns sts deployments daemonSets) claims).map
          fun item => leftoverClaim ns item.name := by
  simp only [Listing.inNamespace, bind, Except.bind] at done
  split at done
  · cases done
  · rename_i sts listedSts
    split at done
    · cases done
    · rename_i deployments listedDeployments
      split at done
      · cases done
      · rename_i daemonSets listedDaemonSets
        split at done
        · cases done
        · rename_i claims listedClaims
          exact ⟨sts, deployments, daemonSets, claims, listing_ok listedSts, listing_ok listedDeployments,
            listing_ok listedDaemonSets, listing_ok listedClaims, (Except.ok.inj done).symm⟩

theorem mem_walkedControllers {sts : List WalkedStatefulSet} {deployments : List WalkedDeployment}
    {daemonSets : List WalkedDaemonSet} (listedSts : api.statefulSets ns = .ok sts)
    (listedDeployments : api.deployments ns = .ok deployments) (listedDaemonSets : api.daemonSets ns = .ok daemonSets) :
    w ∈ walkedControllers ns sts deployments daemonSets ↔ api.Controls ns w := by
  simp only [walkedControllers, List.mem_append, List.mem_map]
  constructor
  · rintro ((⟨item, member, rfl⟩ | ⟨item, member, rfl⟩) | ⟨item, member, rfl⟩)
    · exact .statefulSet listedSts member
    · exact .deployment listedDeployments member
    · exact .daemonSet listedDaemonSets member
  · rintro (⟨listed, member⟩ | ⟨listed, member⟩ | ⟨listed, member⟩)
    · cases listedSts.symm.trans listed
      exact .inl (.inl ⟨_, member, rfl⟩)
    · cases listedDeployments.symm.trans listed
      exact .inl (.inr ⟨_, member, rfl⟩)
    · cases listedDaemonSets.symm.trans listed
      exact .inr ⟨_, member, rfl⟩

/-- A namespace holds its controllers, and a workload for each claim left over. -/
theorem mem_inNamespace (done : api.inNamespace ns = .ok found) :
    w ∈ found ↔ api.Controls ns w ∨ api.LeavesOver ns w := by
  obtain ⟨sts, deployments, daemonSets, claims, listedSts, listedDeployments, listedDaemonSets, listedClaims, rfl⟩ :=
    inNamespace_ok done
  have controls := fun w => mem_walkedControllers (w := w) listedSts listedDeployments listedDaemonSets
  have named : ∀ pvc, ((walkedControllers ns sts deployments daemonSets).any fun w => w.pvcNames.contains pvc) = true ↔
      api.NamesClaim ns pvc := by
    intro pvc
    simp only [List.any_eq_true, List.contains_iff_mem, controls, namesClaim_iff]
  rw [List.mem_append, controls, List.mem_map]
  refine or_congr_right ⟨?_, ?_⟩
  · rintro ⟨item, left, rfl⟩
    obtain ⟨member, free⟩ := List.mem_filter.mp left
    rw [Bool.and_eq_true, Bool.not_eq_true', Bool.not_eq_true'] at free
    exact ⟨item, ⟨claims, listedClaims, member⟩,
      fun taken => Bool.eq_false_iff.mp free.1 ((named item.name).mpr taken), free.2, rfl⟩
  · rintro ⟨item, ⟨items, listed, member⟩, free, kept, rfl⟩
    cases listedClaims.symm.trans listed
    refine ⟨item, List.mem_filter.mpr ⟨member, ?_⟩, rfl⟩
    rw [Bool.and_eq_true, Bool.not_eq_true', Bool.not_eq_true']
    exact ⟨Bool.eq_false_iff.mpr fun taken => free ((named item.name).mp taken), kept⟩

theorem rank_eq_iff {a b : Workload} :
    a.rank = b.rank ↔ a.namespace_ = b.namespace_ ∧ a.kind = b.kind ∧ a.name = b.name := by
  simp [Workload.rank]

/-- Workloads of one kind that are made from items with distinct names have distinct ranks. -/
private theorem nodup_rank_map {items : List α} {name : α → String} (distinct : (items.map name).Nodup)
    {make : α → Workload} (named : ∀ item, (make item).name = name item) :
    ((items.map make).map Workload.rank).Nodup := by
  rw [List.map_map]
  refine List.Nodup.of_map (fun rank => (ofLex (ofLex rank).2).2) ?_
  rw [List.map_map]
  have same : ((fun rank : String ×ₗ String ×ₗ String => (ofLex (ofLex rank).2).2) ∘ Workload.rank ∘ make) = name :=
    funext fun item => named item
  rwa [same]

private theorem nodup_rank_append {first second : List Workload} (nodup : (first.map Workload.rank).Nodup)
    (nodup' : (second.map Workload.rank).Nodup) (apart : ∀ a ∈ first, ∀ b ∈ second, a.rank ≠ b.rank) :
    ((first ++ second).map Workload.rank).Nodup := by
  rw [List.map_append, List.nodup_append]
  refine ⟨nodup, nodup', ?_⟩
  simp only [List.mem_map, forall_exists_index, and_imp, forall_apply_eq_imp_iff₂]
  exact apart

theorem inNamespace_nodup (unique : api.Unique ns) (done : api.inNamespace ns = .ok found) :
    (found.map Workload.rank).Nodup := by
  obtain ⟨sts, deployments, daemonSets, claims, listedSts, listedDeployments, listedDaemonSets, listedClaims, rfl⟩ :=
    inNamespace_ok done
  have left : ((claimsLeft (walkedControllers ns sts deployments daemonSets) claims).map (·.name)).Nodup :=
    (unique.claims listedClaims).sublist (List.filter_sublist.map _)
  -- the four parts have four kinds
  have kinds : ∀ {a b : Workload}, a.kind ≠ b.kind → a.rank ≠ b.rank := fun different same =>
    different (rank_eq_iff.mp same).2.1
  refine nodup_rank_append (nodup_rank_append (nodup_rank_append
    (nodup_rank_map (unique.statefulSets listedSts) fun _ => rfl)
    (nodup_rank_map (unique.deployments listedDeployments) fun _ => rfl) ?_)
    (nodup_rank_map (unique.daemonSets listedDaemonSets) fun _ => rfl) ?_)
    (nodup_rank_map left fun _ => rfl) ?_
  · simp only [List.mem_map]
    rintro _ ⟨item, _, rfl⟩ _ ⟨other, _, rfl⟩
    exact kinds (by simp [fromPodOwner])
  · simp only [List.mem_append, List.mem_map]
    rintro _ (⟨item, _, rfl⟩ | ⟨item, _, rfl⟩) _ ⟨other, _, rfl⟩ <;> exact kinds (by simp [fromPodOwner])
  · simp only [walkedControllers, List.mem_append, List.mem_map]
    rintro _ ((⟨item, _, rfl⟩ | ⟨item, _, rfl⟩) | ⟨item, _, rfl⟩) _ ⟨other, _, rfl⟩ <;>
      exact kinds (by simp [fromPodOwner, leftoverClaim])

theorem sections_cons {rest : List String} (done : api.sections (ns :: rest) = .ok all) :
    ∃ found more, api.inNamespace ns = .ok found ∧ api.sections rest = .ok more ∧ all = found ++ more := by
  simp only [Listing.sections, bind, Except.bind] at done
  split at done
  · cases done
  · rename_i found here
    split at done
    · cases done
    · rename_i more later
      exact ⟨found, more, here, later, (Except.ok.inj done).symm⟩

theorem inNamespace_namespace (done : api.inNamespace ns = .ok found) (member : w ∈ found) : w.namespace_ = ns := by
  rcases (mem_inNamespace done).mp member with controlled | ⟨item, _, _, _, rfl⟩
  · cases controlled <;> rfl
  · rfl

theorem mem_sections (done : api.sections namespaces = .ok all) :
    w ∈ all ↔ ∃ ns ∈ namespaces, api.Controls ns w ∨ api.LeavesOver ns w := by
  induction namespaces generalizing all with
  | nil =>
    cases done
    simp
  | cons ns rest ih =>
    obtain ⟨found, more, here, later, rfl⟩ := sections_cons done
    simp only [List.mem_append, ih later, mem_inNamespace here, List.exists_mem_cons_iff]

theorem sections_nodup (distinct : namespaces.Nodup) (unique : ∀ ns ∈ namespaces, api.Unique ns)
    (done : api.sections namespaces = .ok all) : (all.map Workload.rank).Nodup := by
  induction namespaces generalizing all with
  | nil =>
    cases done
    exact List.nodup_nil
  | cons ns rest ih =>
    obtain ⟨found, more, here, later, rfl⟩ := sections_cons done
    obtain ⟨fresh, distinct⟩ := List.nodup_cons.mp distinct
    refine nodup_rank_append (inNamespace_nodup (unique ns (by simp)) here)
      (ih distinct (fun other member => unique other (by simp [member])) later) fun a inside b outside same => fresh ?_
    obtain ⟨other, member, from_⟩ := (mem_sections later).mp outside
    have at_ : b.namespace_ = other := by
      rcases from_ with controlled | ⟨item, _, _, _, rfl⟩
      · cases controlled <;> rfl
      · rfl
    rw [← inNamespace_namespace here inside, (rank_eq_iff.mp same).1, at_]
    exact member

/-! ### The inventory -/

/-- A key tells namespace, kind and name, where the first two have no slash. -/
theorem key_inj {a b : Workload} (legal : legalName a.namespace_ = true) (legal' : legalName b.namespace_ = true)
    (plain : '/' ∉ a.kind.toList) (plain' : '/' ∉ b.kind.toList) (same : a.key = b.key) : a.rank = b.rank := by
  have texts := congrArg String.toList same
  simp only [Workload.key, String.toList_append, List.append_assoc] at texts
  obtain ⟨namespaces, rest⟩ := mark_inj (legalName_slash legal) (legalName_slash legal') texts
  obtain ⟨kinds, names⟩ := mark_inj plain plain' rest
  exact rank_eq_iff.mpr
    ⟨String.toList_inj.mp namespaces, String.toList_inj.mp kinds, String.toList_inj.mp names⟩

/-- What an inventory promises of the namespaces it was made for. -/
structure Inventoried (api : Listing) (namespaces : List String) (inventory : List Workload) : Prop where
  distinct : (inventory.map Workload.key).Nodup
  controller : ∀ ns ∈ namespaces, ∀ kind name claims, api.HasController ns kind name claims →
    ∃ w, inventory.filter (fun w => w.namespace_ = ns ∧ w.kind = kind ∧ w.name = name) = [w] ∧
      ∀ pvc, pvc ∈ w.pvcNames ↔ pvc ∈ claims
  leftover : ∀ w, (w ∈ inventory ∧ w.kind = "PersistentVolumeClaim") ↔ ∃ ns ∈ namespaces, api.LeavesOver ns w
  covered : ∀ ns ∈ namespaces, ∀ item, api.Lists ns item → isMoverScratchPVC item.name item.claim = false →
    ∃ w ∈ inventory, w.namespace_ = ns ∧ item.name ∈ w.pvcNames

/-- The second answer has the items of the first in some order. -/
def SameItems (answer other : Except String (List α)) : Prop :=
  ∀ items, answer = .ok items → ∃ others, other = .ok others ∧ items.Perm others

structure Listing.Reordered (api other : Listing) : Prop where
  statefulSets : ∀ ns, SameItems (api.statefulSets ns) (other.statefulSets ns)
  deployments : ∀ ns, SameItems (api.deployments ns) (other.deployments ns)
  daemonSets : ∀ ns, SameItems (api.daemonSets ns) (other.daemonSets ns)
  claims : ∀ ns, SameItems (api.claims ns) (other.claims ns)

theorem inNamespace_reordered {other : Listing} (reordered : api.Reordered other)
    (done : api.inNamespace ns = .ok found) : ∃ found', other.inNamespace ns = .ok found' ∧ found.Perm found' := by
  obtain ⟨sts, deployments, daemonSets, claims, listedSts, listedDeployments, listedDaemonSets, listedClaims, rfl⟩ :=
    inNamespace_ok done
  obtain ⟨sts', otherSts, permSts⟩ := reordered.statefulSets ns sts listedSts
  obtain ⟨deployments', otherDeployments, permDeployments⟩ := reordered.deployments ns deployments listedDeployments
  obtain ⟨daemonSets', otherDaemonSets, permDaemonSets⟩ := reordered.daemonSets ns daemonSets listedDaemonSets
  obtain ⟨claims', otherClaims, permClaims⟩ := reordered.claims ns claims listedClaims
  refine ⟨_, by simp only [Listing.inNamespace, otherSts, otherDeployments, otherDaemonSets, otherClaims]; rfl, ?_⟩
  have controllers : (walkedControllers ns sts deployments daemonSets).Perm
      (walkedControllers ns sts' deployments' daemonSets') :=
    ((permSts.map _).append (permDeployments.map _)).append (permDaemonSets.map _)
  refine controllers.append (List.Perm.map _ ?_)
  have left : claimsLeft (walkedControllers ns sts deployments daemonSets) claims =
      claimsLeft (walkedControllers ns sts' deployments' daemonSets') claims := by
    refine List.filter_congr fun item _ => ?_
    rw [controllers.any_eq]
  rw [left]
  exact permClaims.filter _

theorem sections_reordered {other : Listing} (reordered : api.Reordered other)
    (done : api.sections namespaces = .ok all) : ∃ all', other.sections namespaces = .ok all' ∧ all.Perm all' := by
  induction namespaces generalizing all with
  | nil =>
    cases done
    exact ⟨[], rfl, .refl _⟩
  | cons ns rest ih =>
    obtain ⟨found, more, here, later, rfl⟩ := sections_cons done
    obtain ⟨found', here', perm⟩ := inNamespace_reordered reordered here
    obtain ⟨more', later', perm'⟩ := ih later
    exact ⟨found' ++ more', by simp [Listing.sections, here', later', bind, Except.bind, pure, Except.pure],
      perm.append perm'⟩

section
variable {api : Listing} {namespaces : List String} (distinct : namespaces.Nodup)
  (legal : ∀ ns ∈ namespaces, legalName ns = true) {inventory : List Workload}
  (walked : walk api namespaces = .ok inventory)
include distinct legal walked

theorem walk_ok : ∃ all, api.sections namespaces = .ok all ∧
    inventory = all.insertionSort fun a b => a.before b := by
  rw [walk_eq_sections distinct legal] at walked
  cases done : api.sections namespaces with
  | error text => simp [done, Except.map] at walked
  | ok all => exact ⟨all, rfl, by simpa [done, Except.map] using walked.symm⟩

theorem mem_walk {w : Workload} :
    w ∈ inventory ↔ ∃ ns ∈ namespaces, api.Controls ns w ∨ api.LeavesOver ns w := by
  obtain ⟨all, done, rfl⟩ := walk_ok distinct legal walked
  rw [List.mem_insertionSort, mem_sections done]

variable (unique : ∀ ns ∈ namespaces, api.Unique ns)
include unique

theorem walk_nodup : (inventory.map Workload.key).Nodup := by
  obtain ⟨all, done, rfl⟩ := walk_ok distinct legal walked
  have ranks : ((all.insertionSort fun a b => a.before b).map Workload.rank).Nodup :=
    ((List.perm_insertionSort _ all).map _).nodup_iff.mpr (sections_nodup distinct unique done)
  have plain : ∀ w ∈ all.insertionSort (fun a b => a.before b), legalName w.namespace_ = true ∧ '/' ∉ w.kind.toList := by
    intro w member
    obtain ⟨ns, inside, (⟨_, _⟩ | ⟨_, _⟩ | ⟨_, _⟩) | ⟨item, _, _, _, rfl⟩⟩ := (mem_walk distinct legal walked).mp member
    · exact ⟨legal ns inside, (by decide : '/' ∉ "StatefulSet".toList)⟩
    · exact ⟨legal ns inside, (by decide : '/' ∉ "Deployment".toList)⟩
    · exact ⟨legal ns inside, (by decide : '/' ∉ "DaemonSet".toList)⟩
    · exact ⟨legal ns inside, (by decide : '/' ∉ "PersistentVolumeClaim".toList)⟩
  refine List.Nodup.map_on (fun a memberA b memberB same => ?_) (List.Nodup.of_map _ ranks)
  exact List.inj_on_of_nodup_map ranks memberA memberB
    (key_inj (plain a memberA).1 (plain b memberB).1 (plain a memberA).2 (plain b memberB).2 same)

/-- The workloads of an inventory under the key of one of them. -/
theorem walk_filter_key {w : Workload} (member : w ∈ inventory) : inventory.filter (·.key = w.key) = [w] := by
  have nodup := walk_nodup distinct legal walked unique
  have once : (inventory.filter (·.key = w.key)).Nodup := (List.Nodup.of_map _ nodup).filter _
  refine List.perm_singleton.mp ((List.perm_ext_iff_of_nodup once (List.nodup_singleton w)).mpr fun other => ?_)
  rw [List.mem_filter, List.mem_singleton, decide_eq_true_eq]
  constructor
  · rintro ⟨inside, same⟩
    exact List.inj_on_of_nodup_map nodup inside member same
  · rintro rfl
    exact ⟨member, rfl⟩

/-- A successful walk over distinct namespaces finds every controller once and every
other claim that is not scratch, and does not depend on the order of the API's lists. -/
theorem walk_inventoried : Inventoried api namespaces inventory ∧
    ∀ other, api.Reordered other → walk other namespaces = .ok inventory := by
  have found := fun w => mem_walk (w := w) distinct legal walked
  refine ⟨⟨walk_nodup distinct legal walked unique, ?_, ?_, ?_⟩, ?_⟩
  · intro ns inside kind name claims has
    obtain ⟨w, controls, ⟨rfl, rfl, rfl⟩, named⟩ := has.controls
    refine ⟨w, ?_, named⟩
    have once := walk_filter_key distinct legal walked unique ((found w).mpr ⟨_, inside, .inl controls⟩)
    rw [← once]
    refine List.filter_congr fun other member => decide_eq_decide.mpr ⟨?_, fun same => ?_⟩
    · rintro ⟨ns, kind, name⟩
      simp [Workload.key, ns, kind, name]
    · have here : other ∈ inventory.filter (·.key = w.key) := List.mem_filter.mpr ⟨member, by simpa using same⟩
      rw [once, List.mem_singleton] at here
      simp [here]
  · intro w
    rw [found]
    constructor
    · rintro ⟨⟨ns, inside, controlled | ⟨item, left⟩⟩, kind⟩
      · cases controlled <;> exact absurd kind (by simp [fromPodOwner])
      · exact ⟨ns, inside, item, left⟩
    · rintro ⟨ns, inside, item, left⟩
      refine ⟨⟨ns, inside, .inr ⟨item, left⟩⟩, ?_⟩
      rw [left.2.2.2]
      rfl
  · intro ns inside item listed kept
    by_cases named : api.NamesClaim ns item.name
    · obtain ⟨w, controlled, claim⟩ := namesClaim_iff.mp named
      refine ⟨w, (found w).mpr ⟨ns, inside, .inl controlled⟩, ?_, claim⟩
      cases controlled <;> rfl
    · exact ⟨leftoverClaim ns item.name, (found _).mpr ⟨ns, inside, .inr ⟨item, listed, named, kept, rfl⟩⟩, rfl,
        List.mem_singleton.mpr rfl⟩
  · intro other reordered
    obtain ⟨all, done, rfl⟩ := walk_ok distinct legal walked
    obtain ⟨all', done', perm⟩ := sections_reordered reordered done
    rw [walk_eq_sections distinct legal, done', insertionSort_before_perm perm (sections_nodup distinct unique done)]
    rfl

end

/-- The answers for one namespace that holds a StatefulSet with two replicas, a claim of
each, a Deployment that mounts a claim, a claim of nobody and a cache of VolSync's. -/
def smallListing : Listing where
  statefulSets ns := .ok (if ns = "shop" then
    [{ name := "db", template := { images := ["postgres:16"] }, replicas := some 2, claimTemplates := ["data"] }] else [])
  deployments ns := .ok (if ns = "shop" then [{ name := "web", template := { volumes := [none, some "assets"] } }] else [])
  claims ns := .ok (if ns = "shop" then
    [{ name := "data-db-0" }, { name := "uploads" }, { name := "assets" },
     { name := "volsync-src-db-cache" }, { name := "data-db-1" }] else [])

theorem smallListing_unique (ns : String) : smallListing.Unique ns where
  statefulSets listed := by
    by_cases here : ns = "shop" <;> simp only [smallListing, here, if_true, if_false, Except.ok.injEq] at listed <;>
      subst listed <;> simp
  deployments listed := by
    by_cases here : ns = "shop" <;> simp only [smallListing, here, if_true, if_false, Except.ok.injEq] at listed <;>
      subst listed <;> simp
  daemonSets listed := by cases listed; simp
  claims listed := by
    by_cases here : ns = "shop" <;> simp only [smallListing, here, if_true, if_false, Except.ok.injEq] at listed <;>
      subst listed <;> simp

theorem walk_inventoried_small : ∃ inventory, walk smallListing ["shop", "web"] = .ok inventory ∧
    inventory.map Workload.key = ["shop/Deployment/web", "shop/PersistentVolumeClaim/uploads", "shop/StatefulSet/db"] ∧
    Inventoried smallListing ["shop", "web"] inventory := by
  refine ⟨_, rfl, by decide +kernel, (walk_inventoried (by decide) ?_ rfl fun ns _ => smallListing_unique ns).1⟩
  decide +kernel

end Portage
