import Portage.Movers.VolSync.Replicate

/-! What the calls of the movers leave of the VolSync pairs under a key, if nobody else
moves: an apply stores what it was given, a drop leaves nothing, and the pairs under
other keys are as they were. -/
namespace Portage.VolSync

open Go Kube Process Program

section
variable {β : Type} (kind : CustomKind β)

/-- The objects of a kind under a key. -/
def CustomKind.under (key : ObjKey) (cluster : Cluster) : List β := Keyed.under kind.key key (kind.items cluster)

/-- What an apply makes of the objects under the key of `obj`. -/
def CustomKind.written (obj : β) : List β → List β
  | [] => [obj]
  | cur :: rest => (cur :: rest).map fun _ => kind.keepStatus obj cur

variable {kind}

theorem CustomKind.find_eq (key : ObjKey) (cluster : Cluster) :
    kind.find key cluster = (kind.under key cluster).head? := Keyed.head?_under.symm

theorem CustomKind.mem_written {obj item : β} {before : List β} (member : item ∈ kind.written obj before) :
    (before = [] ∧ item = obj) ∨ ∃ cur, before.head? = some cur ∧ item = kind.keepStatus obj cur := by
  cases before with
  | nil => exact .inl ⟨rfl, List.mem_singleton.mp member⟩
  | cons cur rest =>
    obtain ⟨_, _, same⟩ := List.mem_map.mp member
    exact .inr ⟨cur, rfl, same.symm⟩

theorem CustomKind.written_ne_nil (obj : β) (before : List β) : kind.written obj before ≠ [] := by
  cases before <;> simp [CustomKind.written]

/-- A kind whose list is the one that was stored last. -/
def CustomKind.Stores (kind : CustomKind β) : Prop :=
  ∀ items cluster, kind.items (kind.store items cluster) = items

end

theorem replicationSources_stores : replicationSources.Stores := fun _ _ => rfl

theorem replicationDestinations_stores : replicationDestinations.Stores := fun _ _ => rfl

section
variable {β : Type} {kind : CustomKind β} {o : Oracle} (still : o.Still) (stores : kind.Stores)
  {side : Side} {c : ClusterId}
variable {obj : β} {s : World}
include still stores

theorem createCustom_ok (done : (createCustom kind side c obj o s).1 = .ok ()) :
    kind.under (kind.key obj) (s.clusters c) = [] ∧
      kind.under (kind.key obj) ((createCustom kind side c obj o s).2.clusters c) = [obj] := by
  obtain ⟨absent, clusters⟩ := createIn_ok still done
  have none : kind.under (kind.key obj) (s.clusters c) = [] := by
    rw [CustomKind.find_eq] at absent
    simpa using absent
  refine ⟨none, ?_⟩
  rw [CustomKind.under] at none
  rw [createCustom, clusters, CustomKind.under, stores, Keyed.under_concat_self, none, List.nil_append]

variable [DecidableEq β]

theorem updateCustom_ok {cur : β} (done : (updateCustom kind side c cur obj o s).1 = .ok ()) :
    kind.under (kind.key obj) ((updateCustom kind side c cur obj o s).2.clusters c) =
      (kind.under (kind.key obj) (s.clusters c)).map fun _ => obj := by
  rw [updateCustom, (updateIn_ok still done).2, CustomKind.under, stores, Keyed.under_replace_self]
  rfl

/-- An update of what was read keeps its status. -/
theorem rewriteCustom_ok (kept : ∀ cur, kind.key (kind.keepStatus obj cur) = kind.key obj) (done : (andThen (getObject
      c kind.resource (kind.key obj) (kind.find (kind.key obj))) (fun cur => updateCustom kind side c cur
      (kind.keepStatus obj cur)) o s).1 = .ok ()) :
    kind.under (kind.key obj) ((andThen (getObject c kind.resource (kind.key obj) (kind.find (kind.key obj)))
      (fun cur => updateCustom kind side c cur (kind.keepStatus obj cur)) o s).2.clusters c) =
      kind.written obj (kind.under (kind.key obj) (s.clusters c)) := by
  obtain ⟨cur, read, updated, world⟩ := andThen_ok done
  have first := getObject_ok still read
  have same := Moves.clusters_eq still
    (moves_getObject c kind.resource (kind.key obj) (kind.find (kind.key obj))) s
  have replaced := updateCustom_ok still stores updated
  rw [kept, same] at replaced
  rw [world, replaced]
  rw [CustomKind.find_eq] at first
  cases stored : kind.under (kind.key obj) (s.clusters c) with
  | nil => simp [stored] at first
  | cons head rest =>
    obtain rfl : head = cur := by simpa [stored] using first
    rfl

/-- An apply that succeeds has stored the object, with the status of the one that was
there. -/
theorem applyNamespaced_ok (kept : ∀ cur, kind.key (kind.keepStatus obj cur) = kind.key obj)
    (done : (applyNamespaced kind side c obj o s).1 = .ok ()) :
    kind.under (kind.key obj) ((applyNamespaced kind side c obj o s).2.clusters c) =
      kind.written obj (kind.under (kind.key obj) (s.clusters c)) := by
  cases created : (createCustom kind side c obj o s).1 with
  | ok _ =>
    obtain ⟨before, after⟩ := createCustom_ok still stores created
    rw [before]
    simpa [applyNamespaced, created, CustomKind.written] using after
  | error refused =>
    by_cases there : refused.reason = .alreadyExists
    · have same : (createCustom kind side c obj o s).2.clusters = s.clusters :=
        (send_exists still created there).2
      simp only [applyNamespaced, created, there, bind_run, ne_eq, not_true_eq_false, if_false] at done ⊢
      rw [← same]
      exact rewriteCustom_ok still stores kept done
    · simp [applyNamespaced, created, there] at done

end

/-! ### Other pairs, and claims -/

/-- The two clusters have the same pairs under the keys that are spared. -/
structure SamePairs (spared : ObjKey → Prop) (before after : Cluster) : Prop where
  sources : ∀ key, spared key → replicationSources.under key after = replicationSources.under key before
  dests : ∀ key, spared key → replicationDestinations.under key after = replicationDestinations.under key before

/-- The two clusters have claims under the same keys. -/
def SameClaims (before after : Cluster) : Prop := ∀ key, (after.claims key).isSome = (before.claims key).isSome

theorem SamePairs.refl (spared : ObjKey → Prop) (cluster : Cluster) : SamePairs spared cluster cluster :=
  ⟨fun _ _ => rfl, fun _ _ => rfl⟩

theorem SameClaims.refl (cluster : Cluster) : SameClaims cluster cluster := fun _ => rfl

/-- From `s` to `t` the pairs under the keys that are spared are the same on every
cluster, and `home` has claims under the same keys. -/
structure PairsApart (home : ClusterId) (spared : ObjKey → Prop) (s t : World) : Prop where
  pairs : ∀ c, SamePairs spared (s.clusters c) (t.clusters c)
  claims : SameClaims (s.clusters home) (t.clusters home)

variable {home dyn dst : ClusterId} {s t : World} {m : Mover}

theorem PairsApart.of_eq {spared : ObjKey → Prop} (same : t.clusters = s.clusters) : PairsApart home spared s t := by
  refine ⟨fun c => ?_, ?_⟩
  · rw [same]
    exact .refl _ _
  · rw [same]
    exact .refl _

theorem apart_chains (home : ClusterId) (spared : ObjKey → Prop) : Chains (PairsApart home spared) where
  refl _ := .of_eq rfl
  trans first second := {
    pairs := fun c => {
      sources := fun key here => ((second.pairs c).sources key here).trans ((first.pairs c).sources key here)
      dests := fun key here => ((second.pairs c).dests key here).trans ((first.pairs c).dests key here) }
    claims := fun key => (second.claims key).trans (first.claims key) }

/-- The kinds of the two halves of a pair. -/
def pairKinds : List Resource := [.replicationSources, .replicationDestinations]

/-- A request about something other than pairs and the claims of `home`. -/
def SparesPairs (home : ClusterId) (req : Request) : Prop := ∀ c resource, req.target = some (c, resource) →
  resource ∉ pairKinds ∧ (c = home → resource ≠ .claims)

theorem sparesPairs_request (side : Side) (verb : Verb) {c : ClusterId} {resource : Resource} (key : ObjKey)
    (other : resource ∉ pairKinds) (claims : c = home → resource ≠ .claims) :
    SparesPairs home (side.request verb c resource key) := by
  intro named kind target
  rw [Side.target_request] at target
  cases target
  exact ⟨other, claims⟩

section
variable {o : Oracle} (still : o.Still) {home : ClusterId} {spared : ObjKey → Prop}
include still

/-- A program that touches nothing keeps the pairs. -/
theorem apart_of_quiet {x : Prog α} (quiet : Moves o (Extends o fun e => e.touches = false) x) :
    Moves o (PairsApart home spared) x :=
  fun s => .of_eq (Moves.clusters_eq still quiet s)

/-- A program that asks for nothing about pairs, nor about claims of `home`, keeps them. -/
theorem apart_of_confined {x : Prog α} (confined : Moves o (Confined o (SparesPairs home)) x) :
    Moves o (PairsApart home spared) x := by
  intro s
  have rest := (confined s).rest still
  have sources : ∀ c, Agree (s.clusters c) ((x o s).2.clusters c) .replicationSources := fun c =>
    rest c _ fun req sent named => (sent c _ named).1 (by decide)
  have dests : ∀ c, Agree (s.clusters c) ((x o s).2.clusters c) .replicationDestinations := fun c =>
    rest c _ fun req sent named => (sent c _ named).1 (by decide)
  have claims : Agree (s.clusters home) ((x o s).2.clusters home) .claims :=
    rest home _ fun req sent named => (sent home _ named).2 rfl rfl
  refine ⟨fun c => ⟨fun key _ => ?_, fun key _ => ?_⟩, fun key => ?_⟩
  · exact congrArg (Keyed.under ReplicationSource.key key) (sources c)
  · exact congrArg (Keyed.under ReplicationDestination.key key) (dests c)
  · exact congrArg (fun table => (table key).isSome) claims

theorem apart_send {req : Request} {c : ClusterId} {change : Cluster → Except ApiError Cluster}
    (pairs : ∀ before after, change before = .ok after → SamePairs spared before after)
    (claims : ∀ before after, change before = .ok after → SameClaims before after) :
    Moves o (PairsApart home spared) (send req c change) := by
  intro s
  rcases send_clusters req c change still s with same | ⟨after, changed, same⟩
  · exact .of_eq same
  · refine ⟨fun other => ?_, ?_⟩
    · rw [same]
      by_cases here : other = c
      · subst here
        simpa using pairs _ _ changed
      · simpa [here] using SamePairs.refl spared _
    · rw [same]
      by_cases here : home = c
      · subst here
        simpa using claims _ _ changed
      · simpa [here] using SameClaims.refl _

end

/-- The two clusters have the same pairs and the same claims. -/
structure LeavesPairs (before after : Cluster) : Prop where
  sources : after.replicationSources = before.replicationSources
  dests : after.replicationDestinations = before.replicationDestinations
  claims : after.claims = before.claims

section
variable {o : Oracle} (still : o.Still) {home : ClusterId} {spared : ObjKey → Prop}
variable {c : ClusterId}
include still

/-- A write that leaves pairs and claims alone. -/
theorem apart_leaves {req : Request} {change : Cluster → Except ApiError Cluster}
    (leaves : ∀ before after, change before = .ok after → LeavesPairs before after) :
    Moves o (PairsApart home spared) (send req c change) := by
  refine apart_send still (fun before after changed => ⟨fun key _ => ?_, fun key _ => ?_⟩)
    fun before after changed key => ?_
  · exact congrArg (Keyed.under ReplicationSource.key key) (leaves before after changed).sources
  · exact congrArg (Keyed.under ReplicationDestination.key key) (leaves before after changed).dests
  · exact congrArg (fun table => (table key).isSome) (leaves before after changed).claims

theorem apart_createIn {side : Side} {resource : Resource} {key : ObjKey} {present : Cluster → Bool}
    {add : Cluster → Cluster} (leaves : ∀ cluster, LeavesPairs cluster (add cluster)) :
    Moves o (PairsApart home spared) (createIn side c resource key present add) := by
  refine apart_leaves still fun before after changed => ?_
  split at changed
  · cases changed
  · cases changed
    exact leaves before

theorem apart_updateIn [DecidableEq β] {side : Side} {resource : Resource} {key : ObjKey}
    {select : Cluster → Option β} {old : β} {put : Cluster → Cluster}
    (leaves : ∀ cluster, LeavesPairs cluster (put cluster)) :
    Moves o (PairsApart home spared) (updateIn side c resource key select old put) := by
  refine apart_leaves still fun before after changed => ?_
  split at changed
  · cases changed
  · split at changed
    · cases changed
      exact leaves before
    · cases changed

end

/-- A kind of a half: storing objects of it keeps what is under the keys where the list
agrees. -/
def CustomKind.Half (kind : CustomKind β) : Prop := ∀ (spared : ObjKey → Prop) (items : List β) (cluster : Cluster),
  (∀ key, spared key → Keyed.under kind.key key items = kind.under key cluster) →
    SamePairs spared cluster (kind.store items cluster) ∧ SameClaims cluster (kind.store items cluster)

theorem replicationSources_half : replicationSources.Half :=
  fun _ _ _ kept => ⟨⟨kept, fun _ _ => rfl⟩, fun _ => rfl⟩

theorem replicationDestinations_half : replicationDestinations.Half :=
  fun _ _ _ kept => ⟨⟨fun _ _ => rfl, kept⟩, fun _ => rfl⟩

section
variable {β : Type} {kind : CustomKind β} {o : Oracle} (still : o.Still) (half : kind.Half) {home : ClusterId}
include still half

/-- A write that stores objects of one kind keeps what is under other keys. -/
theorem apart_store {req : Request} {c : ClusterId} {key : ObjKey} {change : Cluster → Except ApiError Cluster}
    (stores : ∀ before after, change before = .ok after → ∃ items, after = kind.store items before ∧
      ∀ other, other ≠ key → Keyed.under kind.key other items = kind.under other before) :
    Moves o (PairsApart home (· ≠ key)) (send req c change) := by
  refine apart_send still (fun before after changed => ?_) fun before after changed => ?_
  · obtain ⟨items, rfl, kept⟩ := stores before after changed
    exact (half _ items before kept).1
  · obtain ⟨items, rfl, kept⟩ := stores before after changed
    exact (half _ items before kept).2

theorem apart_drop {req : Request} {c : ClusterId} {key : ObjKey} {present : Cluster → Bool} {refused : ApiError} :
    Moves o (PairsApart home (· ≠ key)) (send req c fun cluster =>
      if present cluster then .ok (kind.without key cluster) else .error refused) := by
  refine apart_store still half fun before after changed => ?_
  split at changed
  · cases changed
    exact ⟨_, rfl, fun other different => Keyed.under_remove_other different⟩
  · cases changed

theorem apart_createCustom (side : Side) (c : ClusterId) (obj : β) :
    Moves o (PairsApart home (· ≠ kind.key obj)) (createCustom kind side c obj) := by
  refine apart_store still half fun before after changed => ?_
  split at changed
  · cases changed
  · cases changed
    exact ⟨_, rfl, fun other different => Keyed.under_concat_other different⟩

variable [DecidableEq β]

theorem apart_updateCustom (side : Side) (c : ClusterId) (cur obj : β) :
    Moves o (PairsApart home (· ≠ kind.key obj)) (updateCustom kind side c cur obj) := by
  refine apart_store still half fun before after changed => ?_
  split at changed
  · cases changed
  · split at changed
    · cases changed
      exact ⟨_, rfl, fun other different => Keyed.under_replace_other different⟩
    · cases changed

theorem apart_applyNamespaced (side : Side) (c : ClusterId) (obj : β)
    (kept : ∀ cur, kind.key (kind.keepStatus obj cur) = kind.key obj) :
    Moves o (PairsApart home (· ≠ kind.key obj)) (applyNamespaced kind side c obj) := by
  have chains := apart_chains home (· ≠ kind.key obj)
  refine .bind chains (apart_createCustom still half side c obj) fun answer => ?_
  cases answer with
  | ok _ => exact .pure chains _
  | error refused =>
    dsimp only
    split
    · exact .pure chains _
    · refine .andThen chains (apart_of_quiet still (moves_getObject _ _ _ _)) fun cur => ?_
      rw [← kept cur]
      exact apart_updateCustom still half side c cur _

end

section
variable {o : Oracle} (still : o.Still) {home : ClusterId} {spared : ObjKey → Prop}
include still

theorem apart_markScratchPVC (side : Side) (c : ClusterId) (key : ObjKey) :
    Moves o (PairsApart home spared) (markScratchPVC side c key) := by
  have chains := apart_chains home spared
  refine .andThen chains (apart_of_quiet still (moves_getObject _ _ _ _)) fun cur => ?_
  split
  · exact .pure chains _
  · refine apart_send still (fun before after changed => ?_) fun before after changed other => ?_
    · split at changed
      · cases changed
      · split at changed
        · cases changed
          exact ⟨fun _ _ => rfl, fun _ _ => rfl⟩
        · cases changed
    · split at changed
      · cases changed
      · rename_i stored
        split at changed
        · cases changed
          by_cases same : other = key
          · simp [Cluster.putClaim, same, stored]
          · simp [Cluster.putClaim, same]
        · cases changed

theorem apart_protectScratchPVCs (side : Side) (kube : Option ClusterId) (ns : String) :
    Moves o (PairsApart home spared) (protectScratchPVCs side kube ns) := by
  have chains := apart_chains home spared
  unfold protectScratchPVCs
  cases kube with
  | none => exact .pure chains _
  | some c =>
    dsimp only
    split
    · exact .pure chains _
    · refine .bind chains (apart_of_confined still (confined_listTable _ _)) fun answer => ?_
      cases answer with
      | error refused => exact .pure chains _
      | ok items =>
        refine .bind chains (.fold chains (fun texts key _ => ?_) _) fun texts => .bind chains ?_ fun _ =>
          .pure chains _
        · refine .bind chains (apart_markScratchPVC still side c key) fun answer => ?_
          cases answer with
          | ok _ => exact .pure chains _
          | error refused =>
            dsimp only
            split <;> exact .pure chains _
        · exact apart_of_confined still (confined_ite (fun _ => confined_pure _) fun _ =>
            confined_evictBackupPodsFromScratch ns _
              (fun key => sparesPairs_request side .delete key (by decide) fun _ => by decide)
              fun key => sparesPairs_request side .delete key (by decide) fun _ => by decide)

theorem apart_protectCaches (m : Mover) (ns : String) : Moves o (PairsApart home spared) (protectCaches m ns) := by
  refine .andThen (apart_chains home spared) (apart_protectScratchPVCs still _ _ ns) fun _ => ?_
  split
  · exact apart_protectScratchPVCs still _ _ ns
  · exact .pure (apart_chains home spared) _

theorem apart_ensureSecrets (m : Mover) (w : Workload) : Moves o (PairsApart home spared) (ensureSecrets m w) :=
  apart_of_confined still (confined_ensureSecrets m w fun _ verb key _ =>
    sparesPairs_request .source verb key (by decide) fun _ => by decide)

theorem apart_privileged (side : Side) (kube : Option ClusterId) (w : Workload) (label : String) :
    Moves o (PairsApart home spared) (privileged side kube w label) :=
  apart_of_confined still (confined_privileged w side kube label fun _ verb key _ =>
    sparesPairs_request side verb key (by decide) fun _ => by decide)

theorem apart_prepareDest {m : Mover} (source : m.kube = some home) (w : Workload) :
    Moves o (PairsApart home spared) (prepareDest m w) := by
  refine apart_of_confined still (confined_prepareDest m w fun c verb resource key _ remote kind =>
    sparesPairs_request .dest verb key ?_ fun here => ?_)
  · revert kind
    cases resource <;> decide
  · subst here
    exact absurd source.symm remote

theorem apart_deletePair (source dest : Option ClusterId) (key : ObjKey) :
    Moves o (PairsApart home (· ≠ key)) (deletePair source dest key) := by
  have chains := apart_chains home (· ≠ key)
  unfold deletePair
  split
  · exact .pure chains _
  · refine .bind chains ?_ fun _ => ?_
    · cases source with
      | none => exact .pure chains _
      | some c => exact .bind chains (apart_drop still replicationSources_half) fun _ => .pure chains _
    · cases dest with
      | none => exact .pure chains _
      | some c => exact .bind chains (apart_drop still replicationDestinations_half) fun _ => .pure chains _

theorem apart_pruneOne (source dest : Endpoint) (ns : String) (keep : List String) (item : ReplicationSource) :
    Moves o (PairsApart home (· ≠ item.key)) (pruneOne source dest ns keep item) := by
  have chains := apart_chains home (· ≠ item.key)
  unfold pruneOne
  split
  · exact .pure chains _
  · split
    · refine .bind chains (apart_of_quiet still (moves_sourcePVCMissing _ _ _)) fun answer => ?_
      match answer with
      | .error text => exact .pure chains _
      | .ok false => exact .pure chains _
      | .ok true => exact apart_deletePair still _ _ _
    · exact apart_deletePair still _ _ _

/-- What the mover knows of a source claim is whether it is there. -/
theorem sourcePVCMissing_ok {kube : ClusterId} {ns pvc : String} {missing : Bool} {s : World} (named : ns ≠ "")
    (data : pvc ≠ "") (done : (sourcePVCMissing kube ns pvc o s).1 = .ok missing) :
    missing = !((s.clusters kube).claims ⟨ns, pvc⟩).isSome := by
  simp only [sourcePVCMissing, named, data, or_self, if_false, bind_run] at done
  cases answer : (getObject kube .claims ⟨ns, pvc⟩ (·.claims ⟨ns, pvc⟩) o s).1 with
  | ok claim =>
    rw [getObject_ok still answer]
    simpa [answer] using done.symm
  | error refused =>
    by_cases gone : refused.reason = .notFound
    · rw [getObject_notFound still answer gone]
      simpa [answer, gone] using done.symm
    · simp [answer, gone] at done

/-- An item that is kept, and whose claim is there, is left alone. -/
theorem pruneOne_kept {source dest : Endpoint} {ns : String} {keep : List String} {item : ReplicationSource}
    {s : World} (wanted : keep.contains item.owner) (named : ns ≠ "") (data : item.sourcePVC ≠ "")
    (present : ((s.clusters source.kube).claims ⟨ns, item.sourcePVC⟩).isSome) :
    (pruneOne source dest ns keep item o s).2.clusters = s.clusters := by
  by_cases blank : item.owner = ""
  · simp [pruneOne, blank]
  · have quiet := Moves.clusters_eq still (moves_sourcePVCMissing source.kube ns item.sourcePVC) s
    rw [pruneOne, if_neg blank, if_pos wanted, bind_run]
    cases answer : (sourcePVCMissing source.kube ns item.sourcePVC o s).1 with
    | error text => exact quiet
    | ok missing =>
      obtain rfl : missing = false := by simpa [present] using sourcePVCMissing_ok still named data answer
      exact quiet

theorem apart_scrubMisplaced (m : Mover) (key : ObjKey) : Moves o (PairsApart home (· ≠ key)) (scrubMisplaced m key) := by
  have chains := apart_chains home (· ≠ key)
  unfold scrubMisplaced
  split
  · split
    · exact .pure chains _
    · exact .bind chains (apart_drop still replicationSources_half) fun _ =>
        apart_drop still replicationDestinations_half
  · exact .pure chains _

theorem apart_applyDestination (m : Mover) (dst : ClusterId) (w : Workload) (pvc : String) :
    Moves o (PairsApart home (· ≠ ⟨w.namespace_, pairName w⟩)) (applyDestination m dst w pvc) := by
  have chains := apart_chains home (· ≠ ⟨w.namespace_, pairName w⟩)
  refine .bind chains (apart_of_confined still (confined_destUserMounted _ _ _)) fun mounted => .bind chains ?_ fun _ =>
    apart_applyNamespaced still replicationDestinations_half .dest dst
      { m.destination w (pairName w) with paused := mounted } fun _ => rfl
  exact apart_of_confined still (confined_ite (fun _ => confined_deleteWorkloadMoverJobs _ _ _ fun _ verb key _ =>
    sparesPairs_request .dest verb key (by decide) fun _ => by decide) fun _ => confined_pure _)

theorem apart_applyPair (m : Mover) (dyn dst : ClusterId) (w : Workload) (pvc : String) :
    Moves o (PairsApart home (· ≠ ⟨w.namespace_, pairName w⟩)) (applyPair m dyn dst w pvc) := by
  have chains := apart_chains home (· ≠ ⟨w.namespace_, pairName w⟩)
  refine .bind chains (apart_scrubMisplaced still m _) fun _ =>
    .andThen chains (apart_of_confined still (confined_snapshotTaken m w dyn)) fun taken =>
    .andThen chains (apart_applyNamespaced still replicationSources_half .source dyn
      (m.source w (pairName w) pvc) fun _ => rfl) fun _ => ?_
  split
  · exact apart_protectCaches still m _
  · exact .andThen chains (apart_applyDestination still m dst w pvc) fun _ => apart_protectCaches still m _

/-- Replication of a workload keeps the pairs under other keys. -/
theorem apart_replicate {m : Mover} (source : m.kube = some home) (w : Workload) :
    Moves o (PairsApart home (· ≠ ⟨w.namespace_, pairName w⟩)) (replicate m w) := by
  have chains := apart_chains home (· ≠ ⟨w.namespace_, pairName w⟩)
  unfold replicate
  cases m.dynamic with
  | none => exact .pure chains _
  | some dyn =>
    dsimp only
    split
    · exact .pure chains _
    · split
      · exact apart_protectCaches still m _
      · refine .andThen chains (apart_of_confined still (confined_sourceMissing m _ _)) fun missing => ?_
        split
        · exact apart_deletePair still _ _ _
        · refine .andThen chains (apart_ensureSecrets still m w) fun _ =>
            .andThen chains (apart_privileged still _ _ w _) fun _ =>
            .andThen chains (apart_prepareDest still source w) fun _ => ?_
          cases m.destDyn with
          | none => exact .pure chains _
          | some dst =>
            dsimp only
            split
            · exact .pure chains _
            · exact apart_applyPair still m dyn dst w _

end

/-! ### The pair of a workload -/

/-- From `s` to `t` the source's half on `dyn` and the destination's on `dst` are the
same under a key. -/
structure Held (dyn dst : ClusterId) (key : ObjKey) (s t : World) : Prop where
  source : replicationSources.under key (t.clusters dyn) = replicationSources.under key (s.clusters dyn)
  dest : replicationDestinations.under key (t.clusters dst) = replicationDestinations.under key (s.clusters dst)

theorem PairsApart.held {spared : ObjKey → Prop} (apart : PairsApart home spared s t) (dyn dst : ClusterId) {key : ObjKey}
    (here : spared key) : Held dyn dst key s t :=
  ⟨(apart.pairs dyn).sources key here, (apart.pairs dst).dests key here⟩

/-- Dropping misplaced halves names none that is in place. -/
theorem confined_scrubApart {o : Oracle} (source : m.dynamic = some dyn) (dest : m.destDyn = some dst) (key : ObjKey) :
    Moves o (Confined o fun req => req.target ≠ some (dyn, .replicationSources) ∧
      req.target ≠ some (dst, .replicationDestinations)) (scrubMisplaced m key) := by
  refine confined_scrubbed m (fun d c toDest toSource apart => ?_) fun d c toDest toSource apart => ?_
  · obtain ⟨rfl, rfl⟩ : d = dst ∧ c = dyn := by simp_all
    simpa using apart
  · obtain ⟨rfl, rfl⟩ : d = dst ∧ c = dyn := by simp_all
    simpa [Request.target] using Ne.symm apart

section
variable {o : Oracle} (still : o.Still) {dyn dst : ClusterId} {key : ObjKey}
include still

theorem Held.of_confined {allowed : Request → Prop} {x : Prog α} (confined : Moves o (Confined o allowed) x)
    (fits : ∀ req, allowed req → req.target ≠ some (dyn, .replicationSources) ∧
      req.target ≠ some (dst, .replicationDestinations)) : Moves o (Held dyn dst key) x := by
  intro s
  have sources : Agree (s.clusters dyn) ((x o s).2.clusters dyn) .replicationSources :=
    (confined s).rest still dyn _ fun req sent => (fits req sent).1
  have dests : Agree (s.clusters dst) ((x o s).2.clusters dst) .replicationDestinations :=
    (confined s).rest still dst _ fun req sent => (fits req sent).2
  exact ⟨congrArg (Keyed.under ReplicationSource.key key) sources,
    congrArg (Keyed.under ReplicationDestination.key key) dests⟩

/-- Dropping misplaced halves keeps the ones that are in place. -/
theorem held_scrubMisplaced {m : Mover} (source : m.dynamic = some dyn) (dest : m.destDyn = some dst) :
    Moves o (Held dyn dst key) (scrubMisplaced m key) :=
  Held.of_confined still (confined_scrubApart source dest key) fun _ sent => sent

end

/-- From `s` to `t` each half under a key is the same, or gone. -/
structure Thinned (dyn dst : ClusterId) (key : ObjKey) (s t : World) : Prop where
  source : replicationSources.under key (t.clusters dyn) = [] ∨
    replicationSources.under key (t.clusters dyn) = replicationSources.under key (s.clusters dyn)
  dest : replicationDestinations.under key (t.clusters dst) = [] ∨
    replicationDestinations.under key (t.clusters dst) = replicationDestinations.under key (s.clusters dst)

theorem thinned_chains (dyn dst : ClusterId) (key : ObjKey) : Chains (Thinned dyn dst key) where
  refl _ := ⟨.inr rfl, .inr rfl⟩
  trans first second := by
    refine ⟨second.source.elim .inl fun same => ?_, second.dest.elim .inl fun same => ?_⟩
    · rw [same]
      exact first.source
    · rw [same]
      exact first.dest

section
variable {o : Oracle} (still : o.Still) {dyn dst : ClusterId} {key : ObjKey}
include still

theorem thinned_deleteSource (c : ClusterId) : Moves o (Thinned dyn dst key) (deleteSource c key) := by
  intro s
  unfold deleteSource
  rcases send_clusters _ c _ still s with same | ⟨after, changed, same⟩
  · exact ⟨.inr (by rw [same]), .inr (by rw [same])⟩
  · split at changed
    · cases changed
      refine ⟨?_, .inr ?_⟩
      · rw [same]
        by_cases here : dyn = c
        · simp only [here, if_true]
          exact .inl Keyed.under_remove_self
        · simp [here]
      · rw [same]
        by_cases here : dst = c
        · simp only [here, if_true]
          rfl
        · simp [here]
    · cases changed

theorem thinned_deleteDestination (c : ClusterId) : Moves o (Thinned dyn dst key) (deleteDestination c key) := by
  intro s
  unfold deleteDestination
  rcases send_clusters _ c _ still s with same | ⟨after, changed, same⟩
  · exact ⟨.inr (by rw [same]), .inr (by rw [same])⟩
  · split at changed
    · cases changed
      refine ⟨.inr ?_, ?_⟩
      · rw [same]
        by_cases here : dyn = c
        · simp only [here, if_true]
          rfl
        · simp [here]
      · rw [same]
        by_cases here : dst = c
        · simp only [here, if_true]
          exact .inl Keyed.under_remove_self
        · simp [here]
    · cases changed

theorem thinned_deletePair (source dest : Option ClusterId) :
    Moves o (Thinned dyn dst key) (deletePair source dest key) := by
  have chains := thinned_chains dyn dst key
  unfold deletePair
  split
  · exact .pure chains _
  · refine .bind chains ?_ fun _ => ?_
    · cases source with
      | none => exact .pure chains _
      | some c => exact .bind chains (thinned_deleteSource still c) fun _ => .pure chains _
    · cases dest with
      | none => exact .pure chains _
      | some c => exact .bind chains (thinned_deleteDestination still c) fun _ => .pure chains _

end

section
variable {o : Oracle} (still : o.Still) {home dyn dst : ClusterId} {key : ObjKey} {m : Mover} {w : Workload}
  {s : World}
include still

theorem sourceMissing_ok {ns pvc : String} {missing : Bool} (source : m.kube = some home) (named : ns ≠ "")
    (data : pvc ≠ "") (done : (sourceMissing m ns pvc o s).1 = .ok missing) :
    missing = !((s.clusters home).claims ⟨ns, pvc⟩).isSome := by
  rw [sourceMissing, source] at done
  exact sourcePVCMissing_ok still named data done

/-- What the mover knows of the first copy is what the source's half reports. -/
theorem snapshotTaken_ok {taken : Bool} (restic : m.resticCopy = true) (named : w.namespace_ ≠ "")
    (done : (snapshotTaken m dyn w o s).1 = .ok taken) :
    taken = (replicationSources.under ⟨w.namespace_, pairName w⟩ (s.clusters dyn)).head?.any
      fun rs => rs.lastSyncTime ≠ "" := by
  have titled : pairName w ≠ "" := by simp [pairName]
  simp only [snapshotTaken, restic, if_true, sourceHasSnapshot, named, titled, or_self, if_false, bind_run] at done
  rw [← CustomKind.find_eq]
  cases answer : (getObject dyn .replicationSources ⟨w.namespace_, pairName w⟩
      (replicationSources.find ⟨w.namespace_, pairName w⟩) o s).1 with
  | ok rs =>
    rw [getObject_ok still answer]
    simpa [answer] using done.symm
  | error refused =>
    by_cases gone : refused.reason = .notFound
    · rw [getObject_notFound still answer gone]
      simpa [answer, gone] using done.symm
    · simp [answer, gone] at done

/-- Writing the source's half leaves the destination's as it is. -/
theorem dest_applySource (obj : ReplicationSource) :
    replicationDestinations.under key ((applyNamespaced replicationSources .source dyn obj o s).2.clusters dst) =
      replicationDestinations.under key (s.clusters dst) := by
  have confined : Moves o (Confined o fun req => req.target = some (dyn, .replicationSources))
      (applyNamespaced replicationSources .source dyn obj) :=
    confined_applyNamespaced replicationSources_separate _ _ _ (fun _ => rfl) fun _ => Side.target_request ..
  have same := (confined s).rest still dst .replicationDestinations fun req named other => by
    rw [named] at other
    cases other
  exact congrArg (Keyed.under ReplicationDestination.key key) same

/-- Writing the destination's half leaves the source's as it is. -/
theorem source_applyDestination (pvc : String) :
    replicationSources.under key ((applyDestination m dst w pvc o s).2.clusters dyn) =
      replicationSources.under key (s.clusters dyn) := by
  have confined : Moves o (Confined o fun req => ∀ c, req.target ≠ some (c, .replicationSources))
      (applyDestination m dst w pvc) := by
    refine confined_bind (confined_destUserMounted _ _ _) fun mounted => confined_bind ?_ fun _ => ?_
    · exact confined_ite (fun _ => confined_deleteWorkloadMoverJobs _ _ _ fun _ _ _ _ => by simp)
        fun _ => confined_pure _
    · exact confined_orElse (confined_applyNamespaced replicationDestinations_separate _ _ _ (fun _ => rfl)
        fun _ => by simp [replicationDestinations])
  have same := (confined s).rest still dyn .replicationSources fun req other => other dyn
  exact congrArg (Keyed.under ReplicationSource.key key) same

/-- Before it writes the destination's half, a pass leaves all pairs alone. -/
theorem apart_stopMover (m : Mover) (dst : ClusterId) (w : Workload) (pvc : String) :
    Moves o (PairsApart dst fun _ => True) (do
      let mounted ← destUserMounted m.destKubeClient w.namespace_ pvc
      stopMoverIf mounted m w) := by
  refine .bind (apart_chains _ _) (apart_of_confined still (confined_destUserMounted _ _ _)) fun mounted => ?_
  exact apart_of_confined still (confined_ite (fun _ => confined_deleteWorkloadMoverJobs _ _ _ fun _ verb key _ =>
    sparesPairs_request .dest verb key (by decide) fun _ => by decide) fun _ => confined_pure _)

theorem applyDestination_ok {pvc : String} (done : (applyDestination m dst w pvc o s).1 = .ok ()) :
    replicationDestinations.under ⟨w.namespace_, pairName w⟩ ((applyDestination m dst w pvc o s).2.clusters dst) =
      replicationDestinations.written { m.destination w (pairName w) with
          paused := (destUserMounted m.destKubeClient w.namespace_ pvc o s).1 }
        (replicationDestinations.under ⟨w.namespace_, pairName w⟩ (s.clusters dst)) := by
  have held := ((apart_stopMover still m dst w pvc s).pairs dst).dests ⟨w.namespace_, pairName w⟩ trivial
  rw [← held]
  exact applyNamespaced_ok still replicationDestinations_stores (fun _ => rfl) (orElse_ok done)

end

/-- Where the pair of a workload is kept. -/
def pairKey (w : Workload) : ObjKey := ⟨w.namespace_, pairName w⟩

/-- From `s` to `t` both halves of a workload's pair were written. Through restic the
destination's half waits for the first copy. -/
structure Replicated (m : Mover) (w : Workload) (pvc : String) (dyn dst : ClusterId) (s t : World) : Prop where
  source : replicationSources.under (pairKey w) (t.clusters dyn) =
    replicationSources.written (m.source w (pairName w) pvc) (replicationSources.under (pairKey w) (s.clusters dyn))
  dest : (m.resticCopy = true ∧ (replicationSources.under (pairKey w) (s.clusters dyn)).head?.any
      (fun rs => rs.lastSyncTime ≠ "") = false) ∨
    ∃ mounted, replicationDestinations.under (pairKey w) (t.clusters dst) =
      replicationDestinations.written { m.destination w (pairName w) with paused := mounted }
        (replicationDestinations.under (pairKey w) (s.clusters dst))

/-- What keeps all pairs may run before. -/
theorem Replicated.after {w : Workload} {pvc : String} {u : World} (pair : Replicated m w pvc dyn dst t u)
    (apart : PairsApart home (fun _ => True) s t) : Replicated m w pvc dyn dst s u := by
  have held : Held dyn dst (pairKey w) s t := apart.held dyn dst trivial
  refine ⟨?_, ?_⟩
  · rw [← held.source]
    exact pair.source
  · rw [← held.source, ← held.dest]
    exact pair.dest

/-- What keeps all pairs may run after. -/
theorem Replicated.before {w : Workload} {pvc : String} {u : World} (pair : Replicated m w pvc dyn dst s t)
    (apart : PairsApart home (fun _ => True) t u) : Replicated m w pvc dyn dst s u := by
  have held : Held dyn dst (pairKey w) t u := apart.held dyn dst trivial
  refine ⟨?_, ?_⟩
  · rw [held.source]
    exact pair.source
  · rw [held.dest]
    exact pair.dest

section
variable {o : Oracle} (still : o.Still) {home dyn dst : ClusterId} {m : Mover} {w : Workload} {s : World}
include still

theorem applyPair_ok {pvc : String} (source : m.dynamic = some dyn) (dest : m.destDyn = some dst)
    (named : w.namespace_ ≠ "") (done : (applyPair m dyn dst w pvc o s).1 = .ok ()) :
    Replicated m w pvc dyn dst s (applyPair m dyn dst w pvc o s).2 := by
  obtain ⟨taken, read, done, world⟩ := andThen_ok done
  obtain ⟨_, applied, done, world'⟩ := andThen_ok done
  -- the halves in place are the same when the source's is written
  have scrubbed : Held dyn dst (pairKey w) s (scrubMisplaced m (pairKey w) o s).2 :=
    held_scrubMisplaced still source dest s
  have unread : PairsApart dyn (fun _ => True) (scrubMisplaced m (pairKey w) o s).2 _ :=
    apart_of_confined still (confined_snapshotTaken m w dyn) (scrubMisplaced m (pairKey w) o s).2
  have sources := ((unread.pairs dyn).sources (pairKey w) trivial).trans scrubbed.source
  have dests := ((unread.pairs dst).dests (pairKey w) trivial).trans scrubbed.dest
  have written := applyNamespaced_ok still replicationSources_stores (fun _ => rfl) (orElse_ok applied)
  have caches : ∀ t, PairsApart dyn (fun _ => True) t (protectCaches m w.namespace_ o t).2 :=
    apart_protectCaches still m _
  have final := world.trans world'
  change (applyPair m dyn dst w pvc o s).2 = _ at final
  rw [final]
  split at done
  · rename_i waits
    rw [if_pos waits]
    rw [Bool.and_eq_true, Bool.not_eq_true'] at waits
    have known := snapshotTaken_ok still waits.1 named read
    refine ⟨?_, .inl ⟨waits.1, ?_⟩⟩
    · rw [((caches _).pairs dyn).sources _ trivial, ← sources]
      exact written
    · rw [waits.2] at known
      rw [← scrubbed.source]
      exact known.symm
  · rename_i goes
    rw [if_neg goes]
    obtain ⟨_, placed, done, world''⟩ := andThen_ok done
    rw [world'']
    obtain ⟨mounted, stored⟩ : ∃ mounted, replicationDestinations.under (pairKey w) _ =
        replicationDestinations.written { m.destination w (pairName w) with paused := mounted } _ :=
      ⟨_, applyDestination_ok still placed⟩
    refine ⟨?_, .inr ⟨mounted, ?_⟩⟩
    · rw [((caches _).pairs dyn).sources _ trivial, source_applyDestination still, ← sources]
      exact written
    · rw [((caches _).pairs dst).dests _ trivial, ← dests]
      refine stored.trans (congrArg _ ?_)
      exact dest_applySource still _

theorem replicateClaim_ok {pvc : String} (kube : m.kube = some home) (source : m.dynamic = some dyn)
    (named : w.namespace_ ≠ "") (done : (replicateClaim m dyn w pvc o s).1 = .ok ()) :
    ∃ dst, m.destDyn = some dst ∧ Replicated m w pvc dyn dst s (replicateClaim m dyn w pvc o s).2 := by
  rw [replicateClaim] at done ⊢
  obtain ⟨_, _, done, world⟩ := andThen_ok done
  rw [world]
  obtain ⟨_, _, done, world⟩ := andThen_ok done
  rw [world]
  obtain ⟨_, _, done, world⟩ := andThen_ok done
  rw [world]
  -- what runs before the pair is written keeps all pairs
  have chains := apart_chains home fun _ => True
  have prepared := chains.trans (apart_ensureSecrets still m w s) (chains.trans
    (apart_privileged still .source m.kube w "volsync privileged movers: " _) (apart_prepareDest still kube w _))
  cases dest : m.destDyn with
  | none => simp [dest] at done
  | some dst =>
    simp only [dest] at done ⊢
    split at done
    · cases done
    · rename_i apart
      rw [if_neg apart]
      exact ⟨dst, rfl, (applyPair_ok still source dest named done).after prepared⟩

/-- A pass over a workload whose first data claim is there writes its pair. -/
theorem replicate_ok (kube : m.kube = some home) (source : m.dynamic = some dyn) (named : w.namespace_ ≠ "")
    (data : firstDataPVC w.pvcNames ≠ "")
    (present : ((s.clusters home).claims ⟨w.namespace_, firstDataPVC w.pvcNames⟩).isSome)
    (done : (replicate m w o s).1 = .ok ()) :
    ∃ dst, m.destDyn = some dst ∧
      Replicated m w (firstDataPVC w.pvcNames) dyn dst s (replicate m w o s).2 := by
  have listed : w.pvcNames ≠ [] := fun empty => data (by simp [empty, firstDataPVC])
  simp only [replicate, source, listed, data, if_false] at done ⊢
  obtain ⟨missing, read, done, world⟩ := andThen_ok done
  rw [world]
  have found : missing = false := by simpa [present] using sourceMissing_ok still kube named data read
  subst found
  have unread : PairsApart home (fun _ => True) s (sourceMissing m w.namespace_ (firstDataPVC w.pvcNames) o s).2 :=
    apart_of_confined still (confined_sourceMissing m _ _) s
  obtain ⟨dst, dest, pair⟩ := replicateClaim_ok still kube source named done
  exact ⟨dst, dest, pair.after unread⟩

/-- A pass over a workload whose first data claim is gone leaves no half that it did not
find. -/
theorem replicate_missing (kube : m.kube = some home) (source : m.dynamic = some dyn) (named : w.namespace_ ≠ "")
    (data : firstDataPVC w.pvcNames ≠ "")
    (absent : (s.clusters home).claims ⟨w.namespace_, firstDataPVC w.pvcNames⟩ = none)
    (done : (replicate m w o s).1 = .ok ()) : Thinned dyn dst (pairKey w) s (replicate m w o s).2 := by
  have listed : w.pvcNames ≠ [] := fun empty => data (by simp [empty, firstDataPVC])
  simp only [replicate, source, listed, data, if_false] at done ⊢
  obtain ⟨missing, read, done, world⟩ := andThen_ok done
  rw [world]
  have gone : missing = true := by simpa [absent] using sourceMissing_ok still kube named data read
  subst gone
  have unread : PairsApart dyn (fun _ => True) s (sourceMissing m w.namespace_ (firstDataPVC w.pvcNames) o s).2 :=
    apart_of_confined still (confined_sourceMissing m _ _) s
  have held : Held dyn dst (pairKey w) s _ := unread.held dyn dst trivial
  exact (thinned_chains dyn dst (pairKey w)).trans ⟨.inr held.source, .inr held.dest⟩
    (thinned_deletePair still _ _ _)

/-- A pass over a workload without a data claim keeps all pairs. -/
theorem apart_replicate_idle (idle : firstDataPVC w.pvcNames = "") :
    Moves o (PairsApart home fun _ => True) (replicate m w) := by
  have chains := apart_chains home fun _ => True
  unfold replicate
  cases m.dynamic with
  | none => exact .pure chains _
  | some dyn =>
    simp only [idle, if_true]
    split
    · exact .pure chains _
    · exact apart_protectCaches still m _

omit still in
theorem quiet_probe : Moves o (Extends o fun e => e.touches = false) (probe m w) :=
  moves_probe m w fun _ _ => rfl

theorem syncedSource_true {dynamic : Option ClusterId} {key : ObjKey}
    (synced : (syncedSource dynamic key o s).1 = true) : ∃ c rs, dynamic = some c ∧
      (replicationSources.under key (s.clusters c)).head? = some rs ∧
      (rs.lastSyncTime ≠ "" ∨ rs.latestImage = true) := by
  cases dynamic with
  | none => simp [syncedSource] at synced
  | some c =>
    simp only [syncedSource, bind_run] at synced
    cases answer : (getObject c .replicationSources key
        (fun cluster => cluster.replicationSources.find? fun rs => rs.key = key) o s).1 with
    | error _ => simp [answer] at synced
    | ok rs =>
      refine ⟨c, rs, rfl, ?_, by simpa [answer] using synced⟩
      rw [← CustomKind.find_eq]
      exact getObject_ok still answer

theorem syncedDestination_true {dynamic : Option ClusterId} {key : ObjKey}
    (synced : (syncedDestination dynamic key o s).1 = true) : ∃ c rd, dynamic = some c ∧
      (replicationDestinations.under key (s.clusters c)).head? = some rd ∧
      (rd.lastSyncTime ≠ "" ∨ rd.latestImage = true) := by
  cases dynamic with
  | none => simp [syncedDestination] at synced
  | some c =>
    simp only [syncedDestination, bind_run] at synced
    cases answer : (getObject c .replicationDestinations key
        (fun cluster => cluster.replicationDestinations.find? fun rd => rd.key = key) o s).1 with
    | error _ => simp [answer] at synced
    | ok rd =>
      refine ⟨c, rd, rfl, ?_, by simpa [answer] using synced⟩
      rw [← CustomKind.find_eq]
      exact getObject_ok still answer

/-- A probe that is met has seen both halves report a sync. -/
theorem probe_ok (met : (probe m w o s).1.ok = true) : ∃ dyn dst rs rd, m.dynamic = some dyn ∧ m.destDyn = some dst ∧
    (replicationSources.under (pairKey w) (s.clusters dyn)).head? = some rs ∧
    (rs.lastSyncTime ≠ "" ∨ rs.latestImage = true) ∧
    (replicationDestinations.under (pairKey w) (s.clusters dst)).head? = some rd ∧
    (rd.lastSyncTime ≠ "" ∨ rd.latestImage = true) := by
  have quiet : Moves o (Confined o fun _ => False) (destMoverPinMessage m w.namespace_) :=
    confined_destMoverPinMessage m w.namespace_
  have unread : (destMoverPinMessage m w.namespace_ o s).2.clusters = s.clusters :=
    Moves.clusters_eq still (Moves.extends quiet fun _ never => never.elim) s
  simp only [probe, bind_run] at met
  split at met
  · simp at met
  · simp only [lagZero, bind_run, pure_run] at met
    cases both : (syncedSource m.dynamic (pairKey w) o (destMoverPinMessage m w.namespace_ o s).2).1 &&
        (syncedDestination m.destDyn (pairKey w) o (syncedSource m.dynamic (pairKey w) o
          (destMoverPinMessage m w.namespace_ o s).2).2).1 with
    | false =>
      rw [pairKey] at both
      simp [both] at met
    | true =>
      obtain ⟨first, second⟩ := Bool.and_eq_true_iff.mp both
      obtain ⟨dyn, rs, source, stored, synced⟩ := syncedSource_true still first
      obtain ⟨dst, rd, dest, kept, restored⟩ := syncedDestination_true still second
      rw [Moves.clusters_eq still (moves_syncedSource _ _), unread] at kept
      rw [unread] at stored
      exact ⟨dyn, dst, rs, rd, source, dest, stored, synced, kept, restored⟩

end

end Portage.VolSync
