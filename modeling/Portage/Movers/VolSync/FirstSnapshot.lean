import Portage.Kube.InFlight
import Portage.Movers.VolSync.Pairs
import Portage.Movers.VolSync.SecretRaces

/-! When the destination's half of a restic pair is written. Both halves would
initialise an empty repository, so the destination's waits until the source has
reported its first snapshot. -/
namespace Portage.VolSync

open Go Kube Process Program

/-- What a read returns is stored once the others have moved. -/
theorem getObject_found {o : Oracle} {c : ClusterId} {resource : Resource} {key : ObjKey}
    {select : Cluster → Option α} {s : World} {value : α}
    (answer : (getObject c resource key select o s).1 = .ok value) :
    select (o.drift s.calls s.clusters c) = some value := by
  cases failed : o.fault s.calls (.get c resource key) with
  | some fault => simp [getObject, fetch, tick, failed] at answer
  | none =>
    cases stored : select (o.drift s.calls s.clusters c) with
    | none => simp [getObject, fetch, tick, failed, stored] at answer
    | some now => simpa [getObject, fetch, tick, failed, stored] using answer

/-! ### Before the first snapshot -/

/-- The source's half under a key has reported no snapshot, and there is no
destination's half. -/
structure Unstarted (dyn dst : ClusterId) (key : ObjKey) (clusters : Clusters) : Prop where
  source : ∀ rs ∈ replicationSources.under key (clusters dyn), rs.lastSyncTime = ""
  dest : replicationDestinations.under key (clusters dst) = []

/-- From `s` to `t` that stays so. -/
def Waits (dyn dst : ClusterId) (key : ObjKey) (s t : World) : Prop :=
  Unstarted dyn dst key s.clusters → Unstarted dyn dst key t.clusters

theorem waits_chains (dyn dst : ClusterId) (key : ObjKey) : Chains (Waits dyn dst key) where
  refl _ := id
  trans first second := second ∘ first

/-- The others, too, leave it so. -/
def OthersWait (o : Oracle) (dyn dst : ClusterId) (key : ObjKey) : Prop :=
  ∀ n clusters, Unstarted dyn dst key clusters → Unstarted dyn dst key (o.drift n clusters)

section
variable {o : Oracle} {dyn dst : ClusterId} {key : ObjKey} (waiting : OthersWait o dyn dst key)
include waiting

/-- What names neither half leaves both alone. -/
theorem waits_of_confined {allowed : Request → Prop} {x : Prog α} (confined : Moves o (Confined o allowed) x)
    (fits : ∀ req, allowed req → req.target ≠ some (dyn, .replicationSources) ∧
      req.target ≠ some (dst, .replicationDestinations)) : Moves o (Waits dyn dst key) x := by
  intro s
  refine (confined s).kept (Unstarted dyn dst key) waiting fun before after agree unstarted => ?_
  have sources : (after dyn).replicationSources = (before dyn).replicationSources :=
    agree dyn .replicationSources fun req sent => (fits req sent).1
  have dests : (after dst).replicationDestinations = (before dst).replicationDestinations :=
    agree dst .replicationDestinations fun req sent => (fits req sent).2
  refine ⟨fun rs member => unstarted.source rs ?_, ?_⟩
  · rwa [CustomKind.under, show replicationSources.items (after dyn) = replicationSources.items (before dyn) from
      sources] at member
  · rw [CustomKind.under, show replicationDestinations.items (after dst) =
      replicationDestinations.items (before dst) from dests]
    exact unstarted.dest

/-- What writes nothing leaves both alone. -/
theorem waits_of_silent {x : Prog α} (silent : Moves o (Confined o fun _ => False) x) :
    Moves o (Waits dyn dst key) x :=
  waits_of_confined waiting silent fun _ never => never.elim

theorem waits_getObject (c : ClusterId) (resource : Resource) (place : ObjKey) (select : Cluster → Option α) :
    Moves o (Waits dyn dst key) (getObject c resource place select) :=
  waits_of_silent waiting (confined_getObject c resource place select)

/-- A write that, if it is carried out, leaves it so. -/
theorem waits_send {req : Request} {c : ClusterId} {change : Cluster → Except ApiError Cluster}
    (leaves : ∀ clusters after, Unstarted dyn dst key clusters → change (clusters c) = .ok after →
      Unstarted dyn dst key fun other => if other = c then after else clusters other) :
    Moves o (Waits dyn dst key) (send req c change) := by
  intro s before
  have drifted := waiting s.calls _ before
  rcases send_drifted (o := o) req c change s with same | ⟨after, changed, same⟩
  · rwa [same]
  · rw [same]
    exact leaves _ _ drifted changed

end

section
variable {dyn dst c : ClusterId} {key : ObjKey} {clusters : Clusters}

/-- The sources of a cluster are replaced by ones that have reported nothing. -/
private theorem Unstarted.putSources (unstarted : Unstarted dyn dst key clusters) {items : List ReplicationSource}
    (silent : c = dyn → ∀ rs ∈ Keyed.under ReplicationSource.key key items, rs.lastSyncTime = "") :
    Unstarted dyn dst key fun other =>
      if other = c then { clusters c with replicationSources := items } else clusters other := by
  refine ⟨fun rs member => ?_, ?_⟩
  · by_cases here : dyn = c
    · subst here
      exact silent rfl rs (by simpa [CustomKind.under, replicationSources] using member)
    · exact unstarted.source rs (by simpa [here] using member)
  · by_cases here : dst = c
    · subst here
      simpa [CustomKind.under, replicationDestinations] using unstarted.dest
    · simpa [here] using unstarted.dest

/-- The destinations of a cluster are replaced, and none is under the key. -/
private theorem Unstarted.putDestinations (unstarted : Unstarted dyn dst key clusters)
    {items : List ReplicationDestination}
    (absent : c = dst → Keyed.under ReplicationDestination.key key items = []) :
    Unstarted dyn dst key fun other =>
      if other = c then { clusters c with replicationDestinations := items } else clusters other := by
  refine ⟨fun rs member => ?_, ?_⟩
  · by_cases here : dyn = c
    · subst here
      exact unstarted.source rs (by simpa [CustomKind.under, replicationSources] using member)
    · exact unstarted.source rs (by simpa [here] using member)
  · by_cases here : dst = c
    · subst here
      simpa [CustomKind.under, replicationDestinations] using absent rfl
    · simpa [here] using unstarted.dest

end

section
variable {o : Oracle} {dyn dst : ClusterId} {key : ObjKey} (waiting : OthersWait o dyn dst key)
include waiting

private theorem waits_deleteSource (c : ClusterId) (other : ObjKey) :
    Moves o (Waits dyn dst key) (deleteSource c other) := by
  refine waits_send waiting fun clusters after unstarted changed => ?_
  split at changed
  · cases changed
    refine unstarted.putSources fun here rs member => unstarted.source rs ?_
    subst here
    simp only [Keyed.under, List.mem_filter] at member
    simpa [CustomKind.under, Keyed.under, replicationSources] using ⟨member.1.1, member.2⟩
  · cases changed

private theorem waits_deleteDestination (c : ClusterId) (other : ObjKey) :
    Moves o (Waits dyn dst key) (deleteDestination c other) := by
  refine waits_send waiting fun clusters after unstarted changed => ?_
  split at changed
  · cases changed
    refine unstarted.putDestinations fun here => ?_
    subst here
    have none := unstarted.dest
    simp only [CustomKind.under, Keyed.under, replicationDestinations, List.filter_eq_nil_iff] at none
    simp only [Keyed.under, List.filter_eq_nil_iff, List.mem_filter]
    exact fun rd member => none rd member.1
  · cases changed

theorem waits_deletePair (source dest : Option ClusterId) (other : ObjKey) :
    Moves o (Waits dyn dst key) (deletePair source dest other) := by
  have chains := waits_chains dyn dst key
  unfold deletePair
  split
  · exact .pure chains _
  · refine .bind chains ?_ fun _ => ?_
    · cases source with
      | none => exact .pure chains _
      | some c => exact .bind chains (waits_deleteSource waiting c other) fun _ => .pure chains _
    · cases dest with
      | none => exact .pure chains _
      | some c => exact .bind chains (waits_deleteDestination waiting c other) fun _ => .pure chains _

/-- Creating a source's half that has reported nothing. -/
theorem waits_createSource (side : Side) (c : ClusterId) {obj : ReplicationSource} (silent : obj.lastSyncTime = "") :
    Moves o (Waits dyn dst key) (createCustom replicationSources side c obj) := by
  refine waits_send waiting fun clusters after unstarted changed => ?_
  split at changed
  · cases changed
  · cases changed
    refine unstarted.putSources fun here rs member => ?_
    subst here
    simp only [Keyed.under, List.filter_append, List.mem_append, List.mem_filter] at member
    rcases member with old | new
    · exact unstarted.source rs (List.mem_filter.mpr old)
    · rw [List.mem_singleton.mp new.1]
      exact silent

/-- An update of a source's half keeps what it has reported. -/
theorem waits_updateSource (side : Side) (c : ClusterId) (cur obj : ReplicationSource) :
    Moves o (Waits dyn dst key) (updateCustom replicationSources side c cur
      (replicationSources.keepStatus obj cur)) := by
  refine waits_send waiting fun clusters after unstarted changed => ?_
  split at changed
  · cases changed
  · rename_i stored found
    split at changed
    · rename_i same
      cases changed
      refine unstarted.putSources fun here rs member => ?_
      subst here
      rw [CustomKind.find_eq] at found
      let next := replicationSources.keepStatus obj cur
      by_cases own : key = next.key
      · subst own
        have held : stored ∈ replicationSources.under next.key (clusters c) := List.mem_of_mem_head? found
        have silent : cur.lastSyncTime = "" := same ▸ unstarted.source stored held
        have replaced : Keyed.under ReplicationSource.key next.key
            (Keyed.replace ReplicationSource.key next (clusters c).replicationSources) =
              (replicationSources.under next.key (clusters c)).map fun _ => next := Keyed.under_replace_self
        obtain ⟨_, _, rfl⟩ := List.mem_map.mp (replaced ▸ member)
        exact silent
      · have kept : Keyed.under ReplicationSource.key key
            (Keyed.replace ReplicationSource.key next (clusters c).replicationSources) =
              replicationSources.under key (clusters c) := Keyed.under_replace_other own
        exact unstarted.source rs (kept ▸ member)
    · cases changed

theorem waits_applySource (side : Side) (c : ClusterId) {obj : ReplicationSource} (silent : obj.lastSyncTime = "") :
    Moves o (Waits dyn dst key) (applyNamespaced replicationSources side c obj) := by
  have chains := waits_chains dyn dst key
  refine .bind chains (waits_createSource waiting side c silent) fun answer => ?_
  cases answer with
  | ok _ => exact .pure chains _
  | error refused =>
    dsimp only
    split
    · exact .pure chains _
    · refine .andThen chains ?_ fun cur => waits_updateSource waiting side c cur obj
      exact waits_getObject waiting _ _ _ _

/-- Writing the destination's half of another pair. -/
theorem waits_applyDestination_other (side : Side) (c : ClusterId) {obj : ReplicationDestination}
    (other : key ≠ obj.key) : Moves o (Waits dyn dst key) (applyNamespaced replicationDestinations side c obj) := by
  have chains := waits_chains dyn dst key
  refine .bind chains (waits_send waiting fun clusters after unstarted changed => ?_) fun answer => ?_
  · split at changed
    · cases changed
    · cases changed
      refine unstarted.putDestinations fun here => ?_
      subst here
      exact (Keyed.under_concat_other other).trans unstarted.dest
  · cases answer with
    | ok _ => exact .pure chains _
    | error refused =>
      dsimp only
      split
      · exact .pure chains _
      · refine .andThen chains ?_ fun cur => waits_send waiting fun clusters after unstarted changed => ?_
        · exact waits_getObject waiting _ _ _ _
        · split at changed
          · cases changed
          · split at changed
            · cases changed
              refine unstarted.putDestinations fun here => ?_
              subst here
              have kept : Keyed.under ReplicationDestination.key key (Keyed.replace ReplicationDestination.key
                  (replicationDestinations.keepStatus obj cur) (clusters c).replicationDestinations) =
                    replicationDestinations.under key (clusters c) := Keyed.under_replace_other other
              exact kept.trans unstarted.dest
            · cases changed

/-! ### The passes -/

private theorem waits_of_kinds (kinds : List Resource) {x : Prog α}
    (confined : Moves o (Confined o fun req => ∃ c, ∃ kind ∈ kinds, req.target = some (c, kind)) x)
    (apart : ∀ kind ∈ kinds, kind ≠ .replicationSources ∧ kind ≠ .replicationDestinations) :
    Moves o (Waits dyn dst key) x := by
  refine waits_of_confined waiting confined ?_
  rintro req ⟨c, kind, member, named⟩
  rw [named]
  refine ⟨fun same => ?_, fun same => ?_⟩
  · exact (apart kind member).1 (Prod.mk.inj (Option.some.inj same)).2
  · exact (apart kind member).2 (Prod.mk.inj (Option.some.inj same)).2

variable (m : Mover) (w : Workload)

theorem waits_ensureSecrets : Moves o (Waits dyn dst key) (ensureSecrets m w) :=
  waits_of_kinds waiting [.secrets] (confined_ensureSecrets m w fun c _ _ _ => ⟨c, .secrets, by decide, by simp⟩) (by decide)

theorem waits_privileged (side : Side) (kube : Option ClusterId) (label : String) :
    Moves o (Waits dyn dst key) (privileged side kube w label) :=
  waits_of_kinds waiting [.namespaces] (confined_privileged w side kube label fun c _ _ _ =>
    ⟨c, .namespaces, by decide, by simp⟩) (by decide)

theorem waits_protectCaches (ns : String) : Moves o (Waits dyn dst key) (protectCaches m ns) :=
  waits_of_kinds waiting scratchKinds (confined_protectCaches m ns
    (fun c _ kind _ _ member => ⟨c, kind, member, by simp⟩) fun c _ kind _ _ member => ⟨c, kind, member, by simp⟩)
    (by decide)

theorem waits_prepareDest : Moves o (Waits dyn dst key) (prepareDest m w) :=
  waits_of_kinds waiting destKinds (confined_prepareDest m w fun c _ kind _ _ _ member => ⟨c, kind, member, by simp⟩)
    (by decide)

theorem waits_scrubMisplaced (source : m.dynamic = some dyn) (dest : m.destDyn = some dst) (place : ObjKey) :
    Moves o (Waits dyn dst key) (scrubMisplaced m place) :=
  waits_of_confined waiting (confined_scrubApart source dest place) fun _ sent => sent

omit waiting in
/-- While the source has reported nothing, the mover does not take it for copied. -/
theorem snapshotTaken_unstarted {s : World} (unstarted : Unstarted dyn dst (pairKey w) s.clusters)
    (waits : OthersWait o dyn dst (pairKey w)) (restic : m.resticCopy = true) :
    (snapshotTaken m dyn w o s).1 ≠ .ok true := by
  have titled : pairName w ≠ "" := by simp [pairName]
  intro taken
  simp only [snapshotTaken, restic, if_true, sourceHasSnapshot, titled, or_false] at taken
  split at taken
  · cases taken
  · simp only [bind_run] at taken
    cases answer : (getObject dyn .replicationSources ⟨w.namespace_, pairName w⟩
        (replicationSources.find ⟨w.namespace_, pairName w⟩) o s).1 with
    | ok rs =>
      have found := getObject_found answer
      rw [CustomKind.find_eq] at found
      have silent := (waits s.calls _ unstarted).source rs (List.mem_of_mem_head? found)
      simp [answer, silent] at taken
    | error refused =>
      by_cases gone : refused.reason = .notFound <;> simp [answer, gone] at taken

theorem waits_applyDestination (other : key ≠ pairKey w) (pvc : String) :
    Moves o (Waits dyn dst key) (applyDestination m dst w pvc) := by
  have chains := waits_chains dyn dst key
  refine .bind chains (waits_of_silent waiting (confined_destUserMounted _ _ _)) fun mounted =>
    .bind chains ?_ fun _ => waits_applyDestination_other waiting _ _ other
  refine waits_of_kinds waiting [.jobs] ?_ (by decide)
  exact confined_ite (fun _ => confined_deleteWorkloadMoverJobs _ _ _ fun c _ _ _ =>
    ⟨c, .jobs, by decide, by simp⟩) fun _ => confined_pure _

theorem waits_applyPair (source : m.dynamic = some dyn) (dest : m.destDyn = some dst) (restic : m.resticCopy = true)
    (pvc : String) : Moves o (Waits dyn dst key) (applyPair m dyn dst w pvc) := by
  have chains := waits_chains dyn dst key
  have read : Moves o (Waits dyn dst key) (snapshotTaken m dyn w) :=
    waits_of_silent waiting (confined_snapshotTaken m w dyn)
  have applied : Moves o (Waits dyn dst key) (applyNamespaced replicationSources .source dyn
      (m.source w (pairName w) pvc)) := waits_applySource waiting _ _ rfl
  have caches := waits_protectCaches waiting m w.namespace_
  intro s unstarted
  have scrubbed := waits_scrubMisplaced waiting m source dest (pairKey w) s unstarted
  refine chains.andThen (read _) (fun taken known => ?_) scrubbed
  refine chains.andThen (applied _) fun _ _ => ?_
  by_cases own : key = pairKey w
  · -- the pair itself: the copy has not been taken, so only the caches are left to protect
    subst own
    have untaken : taken = false := by
      rw [← Bool.not_eq_true]
      rintro rfl
      exact snapshotTaken_unstarted m w scrubbed waiting restic known
    simp only [restic, untaken, Bool.not_false, Bool.and_self, if_true]
    exact caches _
  · split
    · exact caches _
    · exact chains.andThen (waits_applyDestination waiting m w own pvc _) fun _ _ => caches _

/-- A Replicate pass through restic, for this pair or any other. -/
theorem waits_replicate (source : m.dynamic = some dyn) (dest : m.destDyn = some dst)
    (restic : m.resticCopy = true) : Moves o (Waits dyn dst key) (replicate m w) := by
  have chains := waits_chains dyn dst key
  simp only [replicate, source]
  split
  · exact .pure chains _
  · split
    · exact waits_protectCaches waiting m _
    · refine .andThen chains (waits_of_silent waiting (confined_sourceMissing m _ _)) fun missing => ?_
      split
      · exact waits_deletePair waiting _ _ _
      · refine .andThen chains (waits_ensureSecrets waiting m w) fun _ =>
          .andThen chains (waits_privileged waiting w _ _ _) fun _ =>
            .andThen chains (waits_prepareDest waiting m w) fun _ => ?_
        simp only [dest]
        split
        · exact .pure chains _
        · exact waits_applyPair waiting m w source dest restic _

theorem waits_backup : Moves o (Waits dyn dst key) (backup m w) := by
  have chains := waits_chains dyn dst key
  unfold backup
  cases m.dynamic with
  | none => exact .pure chains _
  | some c =>
    dsimp only
    split
    · exact .pure chains _
    · refine .andThen chains (waits_ensureSecrets waiting m w) fun _ =>
        .andThen chains (waits_privileged waiting w _ _ _) fun _ =>
          .andThen chains (waits_createSource waiting .source c rfl) fun _ =>
            .andThen chains (waits_protectCaches waiting m _) fun _ => ?_
      exact waits_of_silent waiting (confined_artifactFromSource m w c)

theorem waits_prune (source dest : Endpoint) (ns : String) (keep : List String) :
    Moves o (Waits dyn dst key) (prune source dest ns keep) := by
  have chains := waits_chains dyn dst key
  unfold prune
  cases source.dynamic with
  | none => exact .pure chains _
  | some c =>
    dsimp only
    split
    · exact .pure chains _
    · refine .bind chains (waits_of_silent waiting (confined_listObjects _ _ _ _)) fun answer => ?_
      cases answer with
      | error refused =>
        dsimp only
        split <;> exact .pure chains _
      | ok items =>
        refine .foldUntil chains (fun _ item _ => ?_) _
        unfold pruneOne
        split
        · exact .pure chains _
        · split
          · refine .bind chains (waits_of_silent waiting (confined_of_reads (moves_sourcePVCMissing _ _ _)))
              fun missing => ?_
            match missing with
            | .error text => exact .pure chains _
            | .ok false => exact .pure chains _
            | .ok true => exact waits_deletePair waiting _ _ _
          · exact waits_deletePair waiting _ _ _

end

/-! ### What has been done when the destination's half is written -/

/-- A create or an update of a destination's half. -/
def writesDestination : Event → Bool
  | .wrote (.place verb _ .replicationDestinations _) => verb != .delete
  | _ => false

/-- From `s` to `t` one was sent. -/
def SendsDestination (s t : World) : Prop :=
  ∃ added, t.log = s.log ++ added ∧ added.any writesDestination = true

/-- From `s` to `t` none was sent. -/
def Unsent (s t : World) : Prop := ∃ added, t.log = s.log ++ added ∧ added.any writesDestination = false

theorem unsent_chains : Chains Unsent where
  refl s := ⟨[], by simp, rfl⟩
  trans := by
    rintro s t u ⟨first, grown, none⟩ ⟨second, grown', none'⟩
    exact ⟨first ++ second, by rw [grown', grown, List.append_assoc], by rw [List.any_append, none, none']; rfl⟩

theorem Unsent.not_sends {s t : World} (unsent : Unsent s t) : ¬ SendsDestination s t := by
  obtain ⟨added, grown, none⟩ := unsent
  rintro ⟨other, grown', some⟩
  rw [grown] at grown'
  rw [List.append_cancel_left grown', some] at none
  cases none

theorem unsent_of_confined {o : Oracle} {allowed : Request → Prop} {x : Prog α}
    (confined : Moves o (Confined o allowed) x)
    (fits : ∀ req, allowed req → writesDestination (.wrote req) = false) : Moves o Unsent x := by
  intro s
  obtain ⟨added, grown, sent, _⟩ := (confined s).sent.log
  refine ⟨added, grown, ?_⟩
  rw [List.any_eq_false]
  intro e member
  obtain ⟨req, rfl, allows⟩ := sent e member
  simp [fits req allows]

/-- Requests that name other kinds. -/
theorem unsent_of_kinds {o : Oracle} (kinds : List Resource) {x : Prog α}
    (confined : Moves o (Confined o fun req => ∃ c, ∃ kind ∈ kinds, req.target = some (c, kind)) x)
    (apart : .replicationDestinations ∉ kinds) : Moves o Unsent x := by
  refine unsent_of_confined confined ?_
  rintro req ⟨c, kind, member, named⟩
  cases req with
  | place verb d resource key =>
    obtain ⟨rfl, rfl⟩ : d = c ∧ resource = kind := by simpa [Request.target] using named
    cases resource <;> first | rfl | contradiction
  | _ => rfl

/-- The Secrets of all clusters are the same. -/
def SameSecrets (s t : World) : Prop := ∀ c, (t.clusters c).secrets = (s.clusters c).secrets

theorem agree_of_kinds {o : Oracle} (still : o.Still) (kinds : List Resource) (resource : Resource) {x : Prog α}
    (confined : Moves o (Confined o fun req => ∃ c, ∃ kind ∈ kinds, req.target = some (c, kind)) x)
    (apart : resource ∉ kinds) (s : World) (c : ClusterId) :
    Agree (s.clusters c) ((x o s).2.clusters c) resource := by
  refine (confined s).rest still c resource ?_
  rintro req ⟨d, kind, member, named⟩ same
  rw [named] at same
  exact apart ((Prod.mk.inj (Option.some.inj same)).2 ▸ member)

theorem sameSecrets_of_kinds {o : Oracle} (still : o.Still) (kinds : List Resource) {x : Prog α}
    (confined : Moves o (Confined o fun req => ∃ c, ∃ kind ∈ kinds, req.target = some (c, kind)) x)
    (apart : .secrets ∉ kinds) : Moves o SameSecrets x :=
  fun s c => (agree_of_kinds still kinds .secrets confined apart s c).2

theorem Synced.of_same {a b : ClusterId} {key : ObjKey} {s t : World} (synced : Synced a b key s)
    (same : SameSecrets s t) : Synced a b key t := by
  intro secret found
  rw [same] at found ⊢
  exact synced secret found

/-! ### Claims of the destination -/

/-- No claim of the cluster goes away. -/
def Grows (c : ClusterId) (s t : World) : Prop :=
  ∀ key, ((s.clusters c).claims key).isSome = true → ((t.clusters c).claims key).isSome = true

section
variable {o : Oracle} (still : o.Still) {m : Mover} {w : Workload} {a b : ClusterId} {s : World}
include still

/-- A claim that was ensured is there, and no other went away. -/
theorem ensureDestPVC_ok (source : m.kube = some a) (dest : m.destKubeClient = some b) (distinct : a ≠ b)
    {ns name : String} (named : name ≠ "") (done : (ensureDestPVC m ns name o s).1 = .ok ()) :
    (((ensureDestPVC m ns name o s).2.clusters b).claims ⟨ns, name⟩).isSome = true ∧
      Grows b s (ensureDestPVC m ns name o s).2 := by
  simp only [ensureDestPVC, source, dest, distinct, named, or_self, if_false, bind_run] at done ⊢
  have read : (getObject b .claims ⟨ns, name⟩ (·.claims ⟨ns, name⟩) o s).2.clusters = s.clusters :=
    Moves.clusters_eq still (moves_getObject _ _ _ _) s
  cases found : (getObject b .claims ⟨ns, name⟩ (·.claims ⟨ns, name⟩) o s).1 with
  | ok claim =>
    have stored := getObject_ok still found
    exact ⟨by simp [read, stored], fun key present => by simpa [read] using present⟩
  | error refused =>
    by_cases gone : refused.reason = .notFound
    · simp only [found, gone, ne_eq, not_true_eq_false, if_false, bind_run] at done ⊢
      have reread := Moves.clusters_eq still (moves_getObject a .claims ⟨ns, name⟩ (·.claims ⟨ns, name⟩))
        (getObject b .claims ⟨ns, name⟩ (·.claims ⟨ns, name⟩) o s).2
      cases copied : (getObject a .claims ⟨ns, name⟩ (·.claims ⟨ns, name⟩) o
          (getObject b .claims ⟨ns, name⟩ (·.claims ⟨ns, name⟩) o s).2).1 with
      | error missing => simp [copied] at done
      | ok claim =>
        simp only [copied] at done ⊢
        have created := (createIn_ok still (orElse_ok done)).2
        rw [reread, read] at created
        have placed : ∀ key, (((placeClaim b ⟨ns, name⟩ (destClaim m claim) o _).2.clusters b).claims key) =
            ((s.clusters b).putClaim ⟨ns, name⟩ (destClaim m claim)).claims key :=
          fun key => congrArg (fun cluster : Cluster => cluster.claims key) created
        refine ⟨?_, fun key present => ?_⟩
        · simp [orElse, placed, Cluster.putClaim]
        · by_cases same : key = ⟨ns, name⟩
          · simp [orElse, placed, Cluster.putClaim, same]
          · simpa [orElse, placed, Cluster.putClaim, same] using present
    · simp [found, gone] at done

/-- All claims of a list that were ensured are there. -/
theorem ensureDestPVCs_ok (source : m.kube = some a) (dest : m.destKubeClient = some b) (distinct : a ≠ b)
    {ns : String} {names : List String}
    (done : (Program.foldUntil (fun _ claim => ensureDestPVC m ns claim) names () o s).1 = .ok ()) :
    (∀ name ∈ names, name ≠ "" → (((Program.foldUntil (fun _ claim => ensureDestPVC m ns claim) names () o s).2.clusters
      b).claims ⟨ns, name⟩).isSome = true) ∧
      Grows b s (Program.foldUntil (fun _ claim => ensureDestPVC m ns claim) names () o s).2 := by
  induction names generalizing s with
  | nil => exact ⟨by simp, fun _ present => present⟩
  | cons first rest ih =>
    obtain ⟨_, ensured, done, world⟩ := andThen_ok done
    obtain ⟨present, grown⟩ := ih done
    have one : (first ≠ "" → (((ensureDestPVC m ns first o s).2.clusters b).claims ⟨ns, first⟩).isSome = true) ∧
        Grows b s (ensureDestPVC m ns first o s).2 := by
      by_cases named : first = ""
      · refine ⟨fun other => absurd named other, fun key held => ?_⟩
        simpa [ensureDestPVC, source, dest, named] using held
      · obtain ⟨here, kept⟩ := ensureDestPVC_ok still source dest distinct named ensured
        exact ⟨fun _ => here, kept⟩
    rw [show (Program.foldUntil (fun _ claim => ensureDestPVC m ns claim) (first :: rest) () o s).2 = _ from world]
    refine ⟨fun name member named => ?_, fun key held => grown key (one.2 key held)⟩
    rcases List.mem_cons.mp member with rfl | inside
    · exact grown _ (one.1 named)
    · exact present name inside named

/-- A remote destination that was prepared has the workload's data claims, and the
source's data in its restic Secret. -/
theorem prepareRemote_ok (source : m.kube = some a) (dest : m.destKubeClient = some b) (distinct : a ≠ b)
    (named : w.namespace_ ≠ "") (done : (prepareRemote m b w o s).1 = .ok ()) :
    (∀ name ∈ w.pvcNames, scratchPVCName name = false → name ≠ "" →
      (((prepareRemote m b w o s).2.clusters b).claims ⟨w.namespace_, name⟩).isSome = true) ∧
      Synced a b ⟨w.namespace_, resticSecretName w.name⟩ (prepareRemote m b w o s).2 := by
  rw [prepareRemote, source] at done ⊢
  obtain ⟨labels, _, done, world⟩ := andThen_ok done
  rw [world]
  obtain ⟨_, _, done, world⟩ := andThen_ok done
  rw [world]
  obtain ⟨_, _, done, world⟩ := andThen_ok done
  rw [world]
  obtain ⟨_, copied, done, world⟩ := andThen_ok done
  rw [world]
  obtain ⟨_, ensured, done, world⟩ := andThen_ok done
  rw [world]
  have synced := copySecrets_ok still distinct (orElse_ok copied) (resticSecretName w.name)
    (by simp [Calls.copied, named])
  obtain ⟨present, _⟩ := ensureDestPVCs_ok still source dest distinct ensured
  have claimed : Moves o SameSecrets (Program.foldUntil (fun _ claim => ensureDestPVC m w.namespace_ claim)
      (w.pvcNames.filter fun claim => !scratchPVCName claim) ()) :=
    sameSecrets_of_kinds still [.claims] (confined_foldUntil (fun _ claim _ =>
      confined_ensureDestPVC m _ claim fun c _ _ _ => ⟨c, .claims, by decide, by simp⟩) _) (by decide)
  have scheduled : Moves o (Confined o fun req => ∃ c, ∃ kind ∈ scheduledKinds, req.target = some (c, kind))
      (stripDestScheduling m w.namespace_) :=
    confined_stripDestScheduling m _ fun c _ kind _ _ member => ⟨c, kind, member, by simp⟩
  have stripped : Moves o SameSecrets (stripDestScheduling m w.namespace_) :=
    sameSecrets_of_kinds still scheduledKinds scheduled (by decide)
  refine ⟨fun name member data given => ?_, (synced.of_same (claimed _)).of_same (stripped _)⟩
  have kept (u : World) : ((stripDestScheduling m w.namespace_ o u).2.clusters b).claims = (u.clusters b).claims :=
    agree_of_kinds still scheduledKinds .claims scheduled (by decide) u b
  simp only [map_run, kept]
  exact present name (List.mem_filter.mpr ⟨member, by simp [data]⟩) given

end

/-- What has been done when a pass from `s` to `t` has written the destination's half:
the source's had reported a snapshot when it was read, and a remote destination has the
claim that the half names and the source's data in its restic Secret. -/
structure Cleared (m : Mover) (w : Workload) (s t : World) : Prop where
  snapshot : ∃ dyn rs, m.dynamic = some dyn ∧
    replicationSources.find (pairKey w) (s.clusters dyn) = some rs ∧ rs.lastSyncTime ≠ ""
  claim : ∀ a b pvc, m.kube = some a → m.destKube = some b → a ≠ b →
    (m.destResticSpec w).destinationPVC = some pvc → ((t.clusters b).claims ⟨w.namespace_, pvc⟩).isSome = true
  secret : ∀ a b, m.kube = some a → m.destKube = some b → a ≠ b →
    Synced a b ⟨w.namespace_, resticSecretName w.name⟩ t

/-- The kinds that are written with the pair. -/
def pairPassKinds : List Resource := [.replicationSources, .replicationDestinations, .claims, .pods, .jobs]

section
variable {o : Oracle} {m : Mover} {w : Workload} {dyn dst : ClusterId}

private theorem confined_applyPair_kinds (pvc : String) :
    Moves o (Confined o fun req => ∃ c, ∃ kind ∈ pairPassKinds, req.target = some (c, kind))
      (applyPair m dyn dst w pvc) := by
  have caches : Moves o (Confined o fun req => ∃ c, ∃ kind ∈ pairPassKinds, req.target = some (c, kind))
      (protectCaches m w.namespace_) :=
    confined_protectCaches m _
      (fun c _ kind _ _ member => ⟨c, kind, by revert member; simp [scratchKinds, pairPassKinds]; tauto, by simp⟩)
      fun c _ kind _ _ member => ⟨c, kind, by revert member; simp [scratchKinds, pairPassKinds]; tauto, by simp⟩
  refine confined_bind (confined_scrubbed m (fun d _ _ _ _ => ⟨d, _, by decide, Side.target_request ..⟩)
    fun _ c _ _ _ => ⟨c, .replicationDestinations, by decide, rfl⟩) fun _ =>
      confined_andThen (confined_snapshotTaken m w dyn) fun taken =>
        confined_andThen (confined_orElse (confined_applyNamespaced replicationSources_separate _ _ _ (fun _ => rfl)
          fun _ => ⟨dyn, .replicationSources, by decide, Side.target_request ..⟩)) fun _ => ?_
  refine confined_ite (fun _ => caches) fun _ => confined_andThen (confined_bind (confined_destUserMounted _ _ _)
    fun mounted => confined_bind ?_ fun _ => ?_) fun _ => caches
  · exact confined_ite (fun _ => confined_deleteWorkloadMoverJobs _ _ _ fun c _ _ _ =>
      ⟨c, .jobs, by decide, by simp⟩) fun _ => confined_pure _
  · exact confined_orElse (confined_applyNamespaced replicationDestinations_separate _ _ _ (fun _ => rfl)
      fun _ => ⟨dst, .replicationDestinations, by decide, Side.target_request ..⟩)

/-- The pair is written without its destination's half, or after the source has reported
a snapshot. -/
theorem applyPair_unsent_or (still : o.Still) (source : m.dynamic = some dyn) (dest : m.destDyn = some dst)
    (restic : m.resticCopy = true) (pvc : String) (s : World) :
    Unsent s (applyPair m dyn dst w pvc o s).2 ∨
      w.namespace_ ≠ "" ∧ ∃ rs, replicationSources.find (pairKey w) (s.clusters dyn) = some rs ∧
        rs.lastSyncTime ≠ "" := by
  have chains := unsent_chains
  by_cases known : w.namespace_ ≠ "" ∧ ∃ rs, replicationSources.find (pairKey w) (s.clusters dyn) = some rs ∧
      rs.lastSyncTime ≠ ""
  · exact .inr known
  left
  have scrubbed : Moves o Unsent (scrubMisplaced m (pairKey w)) :=
    unsent_of_confined (confined_scrubbed m (fun _ _ _ _ _ => rfl) fun _ _ _ _ _ => rfl) fun _ unsent => unsent
  have read : Moves o Unsent (snapshotTaken m dyn w) :=
    unsent_of_kinds [] (confined_snapshotTaken m w dyn) (by decide)
  have applied : Moves o Unsent (applyNamespaced replicationSources .source dyn (m.source w (pairName w) pvc)) :=
    unsent_of_kinds [.replicationSources] (confined_applyNamespaced replicationSources_separate _ _ _ (fun _ => rfl)
      fun _ => ⟨dyn, _, by decide, Side.target_request ..⟩) (by decide)
  have caches : Moves o Unsent (protectCaches m w.namespace_) :=
    unsent_of_kinds scratchKinds (confined_protectCaches m _ (fun c _ kind _ _ member => ⟨c, kind, member, by simp⟩)
      fun c _ kind _ _ member => ⟨c, kind, member, by simp⟩) (by decide)
  refine chains.trans (scrubbed s) (chains.andThen (read _) fun taken answer =>
    chains.andThen (applied _) fun _ _ => ?_)
  have untaken : taken = false := by
    by_cases named : w.namespace_ = ""
    · have blank (u : World) : (snapshotTaken m dyn w o u).1 = .ok false := by
        simp [snapshotTaken, restic, sourceHasSnapshot, named]
      exact Except.ok.inj (answer.symm.trans (blank _))
    · have held : Held dyn dst (pairKey w) s (scrubMisplaced m (pairKey w) o s).2 :=
        held_scrubMisplaced still source dest s
      have reported : taken = (replicationSources.find (pairKey w) (s.clusters dyn)).any
          fun rs => rs.lastSyncTime ≠ "" := by
        rw [CustomKind.find_eq, ← held.source]
        exact snapshotTaken_ok still restic named answer
      rw [reported, Option.any_eq_false]
      intro rs found
      simpa using fun snapshot => known ⟨named, rs, found, snapshot⟩
  simp only [restic, untaken, Bool.not_false, Bool.and_self, if_true]
  exact caches _

/-- From `s` to `t` neither half was written. -/
structure Preparing (s t : World) : Prop where
  unsent : Unsent s t
  sources : ∀ c, (t.clusters c).replicationSources = (s.clusters c).replicationSources

theorem preparing_chains : Chains Preparing where
  refl s := ⟨unsent_chains.refl s, fun _ => rfl⟩
  trans first second :=
    ⟨unsent_chains.trans first.unsent second.unsent, fun c => (second.sources c).trans (first.sources c)⟩

theorem preparing_of_kinds (still : o.Still) (kinds : List Resource) {x : Prog α}
    (confined : Moves o (Confined o fun req => ∃ c, ∃ kind ∈ kinds, req.target = some (c, kind)) x)
    (apart : .replicationSources ∉ kinds ∧ .replicationDestinations ∉ kinds) : Moves o Preparing x :=
  fun s => ⟨unsent_of_kinds kinds confined apart.2 s,
    agree_of_kinds still kinds .replicationSources confined apart.1 s⟩

/-- A pair is written on a destination that was prepared. -/
theorem applyPair_cleared (still : o.Still) (source : m.dynamic = some dyn) (dest : m.destDyn = some dst)
    (restic : m.resticCopy = true) {s u : World} (named : firstDataPVC w.pvcNames ≠ "")
    (before : Preparing s (prepareDest m w o u).2) (prepared : (prepareDest m w o u).1 = .ok ()) :
    Unsent s (applyPair m dyn dst w (firstDataPVC w.pvcNames) o (prepareDest m w o u).2).2 ∨
      Cleared m w s (applyPair m dyn dst w (firstDataPVC w.pvcNames) o (prepareDest m w o u).2).2 := by
  rcases applyPair_unsent_or still source dest restic (firstDataPVC w.pvcNames) (prepareDest m w o u).2 with
    unsent | ⟨spaced, rs, found, snapshot⟩
  · exact .inl (unsent_chains.trans before.unsent unsent)
  have remote {a b : ClusterId} (kube : m.kube = some a) (destKube : m.destKube = some b) (distinct : a ≠ b) :
      m.destKubeClient = some b ∧ prepareDest m w = prepareRemote m b w := by
    have client : m.destKubeClient = some b := by simp [Mover.destKubeClient, destKube]
    refine ⟨client, ?_⟩
    simp only [prepareDest, client, kube, Option.some.injEq]
    rw [if_neg (Ne.symm distinct)]
  refine .inr ⟨⟨dyn, rs, source, ?_, snapshot⟩, fun a b pvc kube destKube distinct names => ?_,
    fun a b kube destKube distinct => ?_⟩
  · have same : replicationSources.items ((prepareDest m w o u).2.clusters dyn) =
        replicationSources.items (s.clusters dyn) := before.sources dyn
    rw [CustomKind.find, same] at found
    exact found
  · obtain ⟨client, same⟩ := remote kube destKube distinct
    obtain rfl : firstDataPVC w.pvcNames = pvc := by simpa [Mover.destResticSpec, named] using names
    rw [same] at prepared ⊢
    obtain ⟨listed, data⟩ := firstDataPVC_mem named
    have present := (prepareRemote_ok still kube client distinct spaced prepared).1 _ listed data named
    have kept : PairsApart b (· ≠ pairKey w) (prepareRemote m b w o u).2 _ :=
      apart_applyPair still m dyn dst w (firstDataPVC w.pvcNames) (prepareRemote m b w o u).2
    exact (kept.claims _).trans present
  · obtain ⟨client, same⟩ := remote kube destKube distinct
    rw [same] at prepared ⊢
    have synced := (prepareRemote_ok still kube client distinct spaced prepared).2
    exact synced.of_same (sameSecrets_of_kinds still pairPassKinds (confined_applyPair_kinds _) (by decide) _)

/-- A pass that sends the destination's half has done what must be done before. -/
theorem replicate_cleared (still : o.Still) (restic : m.resticCopy = true) {s : World}
    (sends : SendsDestination s (replicate m w o s).2) : Cleared m w s (replicate m w o s).2 := by
  let either (t : World) : Prop := Unsent s t ∨ Cleared m w s t
  suffices holds : either (replicate m w o s).2 from holds.resolve_left fun unsent => unsent.not_sends sends
  have chains := preparing_chains
  have caches : Moves o Unsent (protectCaches m w.namespace_) :=
    unsent_of_kinds scratchKinds (confined_protectCaches m w.namespace_
      (fun c _ kind _ _ member => ⟨c, kind, member, by simp⟩) fun c _ kind _ _ member => ⟨c, kind, member, by simp⟩)
      (by decide)
  have read (ns pvc : String) : Moves o Preparing (sourceMissing m ns pvc) :=
    preparing_of_kinds still [] (confined_sourceMissing m ns pvc) (by decide)
  have secrets : Moves o Preparing (ensureSecrets m w) :=
    preparing_of_kinds still [.secrets] (confined_ensureSecrets m w fun c _ _ _ => ⟨c, .secrets, by decide, by simp⟩)
      (by decide)
  have allowed (label : String) : Moves o Preparing (privileged .source m.kube w label) :=
    preparing_of_kinds still [.namespaces] (confined_privileged w _ _ _ fun c _ _ _ =>
      ⟨c, .namespaces, by decide, by simp⟩) (by decide)
  have prepares : Moves o Preparing (prepareDest m w) :=
    preparing_of_kinds still destKinds (confined_prepareDest m w fun c _ kind _ _ _ member =>
      ⟨c, kind, member, by simp⟩) (by decide)
  cases source : m.dynamic with
  | none =>
    simp only [replicate, source]
    exact .inl (unsent_chains.refl s)
  | some dyn =>
    simp only [replicate, source]
    split
    · exact .inl (unsent_chains.refl s)
    · split
      · exact .inl (caches s)
      · rename_i named
        have first := read w.namespace_ (firstDataPVC w.pvcNames) s
        refine andThen_either either (.inl first.unsent) fun missing _ => ?_
        split
        · have drops : Moves o Unsent (deletePair (some dyn) m.destDyn ⟨w.namespace_, pairName w⟩) :=
            unsent_of_confined (confined_deletePair (fun _ _ => rfl) fun _ _ => rfl) fun _ unsent => unsent
          exact .inl (unsent_chains.trans first.unsent (drops _))
        · have second := chains.trans first (secrets _)
          refine andThen_either either (.inl second.unsent) fun _ _ => ?_
          have third := chains.trans second (allowed "volsync privileged movers: " _)
          refine andThen_either either (.inl third.unsent) fun _ _ => ?_
          have fourth := chains.trans third (prepares _)
          refine andThen_either either (.inl fourth.unsent) fun _ prepared => ?_
          cases dest : m.destDyn with
          | none => exact .inl fourth.unsent
          | some dst =>
            dsimp only
            split
            · exact .inl fourth.unsent
            · exact applyPair_cleared still source dest restic named fourth prepared

end

/-! ### Passes that take turns -/

inductive PairJob where
  | backup (m : Mover) (w : Workload)
  | replicate (m : Mover) (w : Workload)
  | prune (source dest : Endpoint) (ns : String) (keep : List String)

def PairJob.program : PairJob → Prog Unit
  | backup m w => ignoring (VolSync.backup m w)
  | replicate m w => ignoring (VolSync.replicate m w)
  | prune source dest ns keep => ignoring (Portage.prune source dest ns keep)

/-- A status that VolSync reports on a half. -/
inductive Report where
  | source (c : ClusterId) (key : ObjKey) (status : ReplicationSource)
  | dest (c : ClusterId) (key : ObjKey) (status : ReplicationDestination)

def Report.applied : Report → Clusters → Clusters
  | source c key status, clusters => fun other =>
    if other = c then { clusters c with replicationSources := (clusters c).replicationSources.map fun rs =>
      if rs.key = key then replicationSources.keepStatus rs status else rs }
    else clusters other
  | dest c key status, clusters => fun other =>
    if other = c then { clusters c with replicationDestinations := (clusters c).replicationDestinations.map fun rd =>
      if rd.key = key then replicationDestinations.keepStatus rd status else rd }
    else clusters other

/-- The report says that a snapshot of the source has finished. -/
def Report.finishes (dyn : ClusterId) (key : ObjKey) : Report → Bool
  | source c place status => c == dyn && place == key && status.lastSyncTime != ""
  | dest .. => false

/-- The passes of one pair of clusters, through restic. -/
def PairJob.Fits (dyn dst : ClusterId) : PairJob → Prop
  | replicate m _ => m.resticCopy = true ∧ m.dynamic = some dyn ∧ m.destDyn = some dst
  | backup .. | prune .. => True

abbrev PairSystem := Replay.System Clusters PairJob Oracle

abbrev PairTurn := Replay.Turn PairJob Oracle Report

abbrev PairStep := Step PairSystem PairTurn PairSystem

abbrev PairRuns (action : Action) (start : PairSystem) :=
  Replay.Runs (passRules PairJob.program action Report.applied) start

def PairTurn.Starts (fits : PairJob → Prop) : PairTurn → Prop
  | .start _ job => fits job
  | _ => True

def PairTurn.finishes (dyn : ClusterId) (key : ObjKey) : PairTurn → Bool
  | .move report => report.finishes dyn key
  | _ => false

section
variable {dyn dst : ClusterId} {key : ObjKey}

/-- Any other report leaves it so. -/
theorem Report.unstarted {report : Report} (unfinished : report.finishes dyn key = false) {clusters : Clusters}
    (unstarted : Unstarted dyn dst key clusters) : Unstarted dyn dst key (report.applied clusters) := by
  cases report with
  | source c place status =>
    refine unstarted.putSources fun here rs member => ?_
    subst here
    obtain ⟨listed, own⟩ := List.mem_filter.mp member
    obtain ⟨before, stored, rfl⟩ := List.mem_map.mp listed
    by_cases reported : before.key = place
    · simp only [reported, if_true, decide_eq_true_eq] at own ⊢
      have same : place = key := reported.symm.trans own
      simpa [Report.finishes, same, replicationSources] using unfinished
    · simp only [reported, if_false, decide_eq_true_eq] at own ⊢
      exact unstarted.source before (List.mem_filter.mpr ⟨stored, decide_eq_true own⟩)
  | dest c place status =>
    refine unstarted.putDestinations fun here => ?_
    subst here
    have none := unstarted.dest
    simp only [CustomKind.under, Keyed.under, replicationDestinations, List.filter_eq_nil_iff] at none
    simp only [Keyed.under, List.filter_eq_nil_iff, List.mem_map]
    rintro rd ⟨before, stored, rfl⟩
    have other : ¬ before.key = key := fun same => none before stored (decide_eq_true same)
    by_cases reported : before.key = place
    · simpa [reported, replicationDestinations] using reported ▸ other
    · simpa [reported] using other

/-- A pass that has only ever found it so has left it so. -/
theorem PairJob.unstarted {action : Action} {flight : PassFlight PairJob} (fit : flight.job.Fits dyn dst)
    (found : flight.Found (Unstarted dyn dst key)) :
    Unstarted dyn dst key (standing PairJob.program action flight).clusters := by
  have waiting : OthersWait (Oracle.replay flight.calls) dyn dst key :=
    fun n clusters unstarted => Oracle.replay_drift found.calls n unstarted
  have passed : Moves (Oracle.replay flight.calls) (Waits dyn dst key) flight.job.program := by
    cases job : flight.job with
    | backup m w => exact waits_backup waiting m w
    | replicate m w =>
      rw [job] at fit
      exact waits_replicate waiting m w fit.2.1 fit.2.2 fit.1
    | prune source dest ns keep => exact waits_prune waiting source dest ns keep
  exact passed _ found.began

/-- While no report has said that a snapshot of the source has finished, no destination's
half is written, however the passes take turns. -/
theorem run_unstarted {action : Action} {start state : PairSystem} {steps : List PairStep}
    (run : PairRuns action start steps state) (idle : ∀ id, start.flights id = none)
    (unpaired : Unstarted dyn dst key start.state) (fit : ∀ step ∈ steps, step.input.Starts (PairJob.Fits dyn dst))
    (unfinished : ∀ step ∈ steps, step.input.finishes dyn key = false) : Unstarted dyn dst key state.state := by
  refine Replay.Runs.invariant run (fun flight job found => PairJob.unstarted job found) idle unpaired
    fun step member => ?_
  have starts := fit step member
  have silent := unfinished step member
  cases turn : step.input with
  | start id job => simpa [turn, PairTurn.Starts, Replay.Turn.Fits] using starts
  | call id answer => trivial
  | move report =>
    rw [turn] at silent
    exact fun clusters unstarted => Report.unstarted silent unstarted

end

/-- Through restic, a Replicate pass that creates or updates the destination's half,
whatever fails, has read a snapshot of the source before, and on a remote destination
it has found or made the claim and copied the Secret. While no snapshot of the source
has finished, there is no destination's half, however Backup, Replicate and Prune passes
and the reports of VolSync take turns. -/
theorem destination_waits :
    (∀ (m : Mover) (w : Workload) (o : Oracle) (s : World), m.resticCopy = true → o.Still →
      SendsDestination s (replicate m w o s).2 → Cleared m w s (replicate m w o s).2) ∧
    ∀ (dyn dst : ClusterId) (key : ObjKey) (action : Action) (start state : PairSystem) (steps : List PairStep),
      PairRuns action start steps state → (∀ id, start.flights id = none) → Unstarted dyn dst key start.state →
      (∀ step ∈ steps, step.input.Starts (PairJob.Fits dyn dst)) →
      (∀ step ∈ steps, step.input.finishes dyn key = false) →
      replicationDestinations.under key (state.state dst) = [] :=
  ⟨fun _ _ _ _ restic still sends => replicate_cleared still restic sends,
    fun _ _ _ _ _ _ _ run idle unpaired fit unfinished => (run_unstarted run idle unpaired fit unfinished).dest⟩

/-! ### A database on two clusters -/

private def db : Workload :=
  { namespace_ := "shop", name := "db", kind := "StatefulSet", cls := .sqlLogical, pvcNames := ["data-db-0"] }

private def restic : Mover where
  dynamic := some 0
  destDynamic := some 1
  kube := some 0
  destKube := some 1
  creds := { accessKey := "key", secretKey := "secret", bucket := "store" }

/-- The source's claim and namespace, and what its half has reported. -/
private def shop (sources : List ReplicationSource) : Clusters := fun c =>
  if c = 0 then {
    claims := fun key => if key = ⟨"shop", "data-db-0"⟩ then some {} else none
    namespaces := fun name => if name = "shop" then some {} else none
    replicationSources := sources }
  else {}

private def replicating : Action := { spec := { type := .replicate, policyRef := "shop" } }

private def copied : World :=
  { clusters := shop [{ key := pairKey db, owner := "db", sourcePVC := "data-db-0", lastSyncTime := "t1" }]
    action := replicating }

private def startsRestic : PairTurn → Bool
  | .start _ (.replicate m _) => m.resticCopy && m.dynamic == some 0 && m.destDyn == some 1
  | _ => true

private theorem startsRestic_fits {turn : PairTurn} (starts : startsRestic turn = true) :
    turn.Starts (PairJob.Fits 0 1) := by
  cases turn with
  | start id job =>
    cases job with
    | replicate m w => simpa [startsRestic, PairTurn.Starts, PairJob.Fits, and_assoc] using starts
    | backup | prune => trivial
  | call | move => trivial

/-- With a snapshot the destination's half is written; without one two passes that take
turns write only the source's. -/
theorem destination_waits_shop :
    (SendsDestination copied (replicate restic db {} copied).2 ∧
      Cleared restic db copied (replicate restic db {} copied).2) ∧
    ∃ steps state, PairRuns replicating { state := shop [] } steps state ∧
      replicationSources.under (pairKey db) (state.state 0) ≠ [] ∧
      replicationDestinations.under (pairKey db) (state.state 1) = [] := by
  constructor
  · have sends : SendsDestination copied (replicate restic db {} copied).2 :=
      ⟨_, (List.nil_append _).symm, by decide +kernel⟩
    exact ⟨sends, destination_waits.1 restic db {} copied rfl (fun _ _ => rfl) sends⟩
  · obtain ⟨steps, state, run, written, starts, unfinished⟩ : ∃ steps state,
        PairRuns replicating { state := shop [] } steps state ∧ replicationSources.under (pairKey db) (state.state 0) ≠ [] ∧
        (∀ step ∈ steps, startsRestic step.input = true) ∧
        ∀ step ∈ steps, PairTurn.finishes 0 (pairKey db) step.input = false :=
      Run.exists_of_execute (.start 0 (.replicate restic db) :: .start 1 (.backup restic db) ::
        List.replicate 3 (.call 0 {}) ++ List.replicate 11 (.call 1 {})) (by decide +kernel)
    exact ⟨steps, state, run, written, destination_waits.2 0 1 (pairKey db) replicating _ state steps run
      (fun _ => rfl) ⟨by simp [CustomKind.under, Keyed.under, replicationSources, shop], rfl⟩
      (fun step member => startsRestic_fits (starts step member)) unfinished⟩

end Portage.VolSync
