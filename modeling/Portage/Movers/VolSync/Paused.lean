import Portage.Movers.VolSync.DestPins
import Portage.Movers.VolSync.Leftovers
import Portage.Movers.VolSync.ServedPass
import Portage.Process.Run

/-! Whether the destination's half of a pair is paused once a user's pod has run on the
claim. Every pass decides that anew from one list of pods, after it has deleted pods that
are tied to other nodes. -/
namespace Portage.VolSync

open Go Kube Process Program

/-- The clients of a mover: typed and dynamic ones for the source, and both for one
destination. -/
structure Wired (m : Mover) (home dyn dst : ClusterId) : Prop where
  kube : m.kube = some home
  dynamic : m.dynamic = some dyn
  destDyn : m.destDyn = some dst
  destKube : m.destKubeClient = some dst
  apart : ¬ (dst = dyn ∧ m.remoteDest = true)

/-- A user's pod runs on the claim. -/
def Mounted (dst : ClusterId) (w : Workload) (clusters : Clusters) : Prop :=
  ∃ pod ∈ podsIn w.namespace_ (clusters dst), userMounts (firstDataPVC w.pvcNames) pod = true

/-- The destination's half, if there is one, is paused. -/
def Halted (dst : ClusterId) (w : Workload) (clusters : Clusters) : Prop :=
  ∀ rd ∈ replicationDestinations.under (pairKey w) (clusters dst), rd.paused = true

instance (dst : ClusterId) (w : Workload) (clusters : Clusters) : Decidable (Halted dst w clusters) :=
  inferInstanceAs (Decidable (∀ rd ∈ replicationDestinations.under (pairKey w) (clusters dst), rd.paused = true))

/-- What a pass needs in order to see the pod: nobody else moves, the pods and the nodes
can be listed, and the pod is not one of those that the pass deletes for being tied to a
node that is not Ready. -/
structure SeesPod (m : Mover) (w : Workload) (dst : ClusterId) (o : Oracle) (s : World) : Prop where
  still : o.Still
  listed : ∀ n, o.fault n (.list dst .pods w.namespace_) = none ∧ o.fault n (.list dst .nodes "") = none
  distinct : ((s.clusters dst).pods.map Pod.key).Nodup
  mounted : ∃ pod ∈ podsIn w.namespace_ (s.clusters dst), userMounts (firstDataPVC w.pvcNames) pod = true ∧
    pinnedElsewhere (readyHosts (s.clusters dst).nodes) pod.pinning = false

/-! ### Until the destination's half is written -/

/-- From `s` to `t` the pods and the nodes of the destination are the same. -/
structure SamePods (dst : ClusterId) (s t : World) : Prop where
  pods : (t.clusters dst).pods = (s.clusters dst).pods
  nodes : (t.clusters dst).nodes = (s.clusters dst).nodes

theorem samePods_chains (dst : ClusterId) : Chains (SamePods dst) where
  refl _ := ⟨rfl, rfl⟩
  trans first second := ⟨second.pods.trans first.pods, second.nodes.trans first.nodes⟩

/-- A request about something other than pods and nodes. -/
def SparesPods (req : Request) : Prop := ∀ c, req.target ≠ some (c, .pods) ∧ req.target ≠ some (c, .nodes)

theorem sparesPods_request (side : Side) (verb : Verb) {c : ClusterId} {resource : Resource} (key : ObjKey)
    (pods : resource ≠ .pods) (nodes : resource ≠ .nodes) : SparesPods (side.request verb c resource key) := by
  intro other
  rw [Side.target_request]
  exact ⟨fun same => pods (Prod.mk.inj (Option.some.inj same)).2, fun same => nodes (Prod.mk.inj (Option.some.inj same)).2⟩

section
variable {o : Oracle} (still : o.Still) {m : Mover} {w : Workload} {home dyn dst : ClusterId} {s t : World}

theorem Mounted.of_samePods (same : SamePods dst s t) (mounted : Mounted dst w s.clusters) : Mounted dst w t.clusters := by
  obtain ⟨pod, member, runs⟩ := mounted
  refine ⟨pod, ?_, runs⟩
  rw [podsIn, same.pods]
  exact member

/-- What a pass needs is still there. -/
theorem SeesPod.of_samePods (same : SamePods dst s t) (watched : SeesPod m w dst o s) : SeesPod m w dst o t := by
  obtain ⟨pod, member, runs⟩ := watched.mounted
  refine ⟨watched.still, watched.listed, ?_, pod, ?_, ?_⟩
  · rw [same.pods]
    exact watched.distinct
  · rw [podsIn, same.pods]
    exact member
  · rw [same.nodes]
    exact runs

theorem SeesPod.toMounted (watched : SeesPod m w dst o s) : Mounted dst w s.clusters := by
  obtain ⟨pod, member, runs, _⟩ := watched.mounted
  exact ⟨pod, member, runs⟩

include still

theorem samePods_of_confined {x : Prog α} (confined : Moves o (Confined o SparesPods) x) : Moves o (SamePods dst) x :=
  fun s => ⟨(confined s).rest still dst .pods fun _ spared => (spared dst).1,
    (confined s).rest still dst .nodes fun _ spared => (spared dst).2⟩

theorem samePods_ensureSecrets (m : Mover) (w : Workload) : Moves o (SamePods dst) (ensureSecrets m w) :=
  samePods_of_confined still (confined_ensureSecrets m w fun _ verb key _ =>
    sparesPods_request .source verb key (by decide) (by decide))

theorem samePods_privileged (side : Side) (kube : Option ClusterId) (w : Workload) (label : String) :
    Moves o (SamePods dst) (privileged side kube w label) :=
  samePods_of_confined still (confined_privileged w side kube label fun _ verb key _ =>
    sparesPods_request side verb key (by decide) (by decide))

theorem samePods_sourceMissing (m : Mover) (ns pvc : String) : Moves o (SamePods dst) (sourceMissing m ns pvc) :=
  samePods_of_confined still (confined_sourceMissing m ns pvc)

/-- Pods that are not tied to other nodes are left. -/
theorem stripDestScheduling_mounted (client : m.destKubeClient = some dst) (watched : SeesPod m w dst o s) :
    Mounted dst w (stripDestScheduling m w.namespace_ o s).2.clusters := by
  obtain ⟨pod, member, runs, free⟩ := watched.mounted
  obtain ⟨stored, inside⟩ := List.mem_filter.mp member
  suffices left : pod ∈ ((stripDestScheduling m w.namespace_ o s).2.clusters dst).pods from
    ⟨pod, List.mem_filter.mpr ⟨left, inside⟩, runs⟩
  by_cases active : m.remoteDest = true ∧ w.namespace_ ≠ ""
  · obtain ⟨before, _, same, _, after, _⟩ := stripDestScheduling_run still client active.1 active.2 s
    by_contra gone
    rw [after] at gone
    have distinct : ((podList.items (before.clusters dst)).map podList.key).Nodup := by
      have pods := watched.distinct
      rwa [← same] at pods
    have hosts : seenHosts o dst s = readyHosts (s.clusters dst).nodes := by
      simp [seenHosts, (watched.listed s.calls).2]
    obtain ⟨_, pinned⟩ := podList.sweep_gone still distinct (by rw [← same] at stored; exact stored) gone
    simp [pinnedPod, hosts, free] at pinned
  · have off : (!m.remoteDest) = true ∨ w.namespace_ = "" := by
      rw [not_and_or] at active
      simpa using active
    have idle : (stripDestScheduling m w.namespace_ o s).2 = s := by
      simp only [stripDestScheduling, client, off, ↓reduceIte, pure_run]
    rw [idle]
    exact stored

omit still in
/-- A step that leaves pods and nodes alone may come first. -/
private theorem mounted_andThen {x : Prog (Except ε α)} {f : α → Prog (Except ε β)} (watched : SeesPod m w dst o s)
    (same : Moves o (SamePods dst) x)
    (then_ : ∀ a, SeesPod m w dst o (x o s).2 → Mounted dst w (f a o (x o s).2).2.clusters) :
    Mounted dst w (andThen x f o s).2.clusters :=
  andThen_either (fun t : World => Mounted dst w t.clusters) (watched.toMounted.of_samePods (same s))
    fun a _ => then_ a (watched.of_samePods (same s))

theorem prepareDest_mounted (client : m.destKubeClient = some dst) (watched : SeesPod m w dst o s) :
    Mounted dst w (prepareDest m w o s).2.clusters := by
  have spared {resource : Resource} (pods : resource ≠ .pods) (nodes : resource ≠ .nodes) (verb : Verb) (key : ObjKey)
      {c : ClusterId} : SparesPods (Side.dest.request verb c resource key) := sparesPods_request .dest verb key pods nodes
  simp only [prepareDest, client]
  split
  · exact watched.toMounted
  · refine mounted_andThen watched (samePods_of_confined still
      (confined_orElse (confined_sourceCapsuleLabels _ _))) fun labels watched => ?_
    refine mounted_andThen watched (samePods_of_confined still (confined_orElse
      (confined_ensureNamespace dst _ labels fun verb key => spared (by decide) (by decide) verb key))) fun _ watched => ?_
    refine mounted_andThen watched (samePods_privileged still .dest (some dst) w _) fun _ watched => ?_
    refine mounted_andThen watched (samePods_of_confined still (confined_orElse
      (confined_copySecrets _ _ fun _ verb key _ => spared (by decide) (by decide) verb key))) fun _ watched => ?_
    refine mounted_andThen watched (samePods_of_confined still (confined_foldUntil (fun _ claim _ =>
      confined_ensureDestPVC m _ claim fun _ verb key _ => spared (by decide) (by decide) verb key) _)) fun _ watched => ?_
    exact stripDestScheduling_mounted still client watched

end

/-! ### What a pass that sees the pod leaves -/

theorem Halted.of_dests {dst : ClusterId} {w : Workload} {before after : Clusters} (halted : Halted dst w before)
    (same : replicationDestinations.under (pairKey w) (after dst) =
      replicationDestinations.under (pairKey w) (before dst)) : Halted dst w after := by
  rw [Halted, same]
  exact halted

theorem Halted.of_thinned {dyn dst : ClusterId} {w : Workload} {s t : World} (halted : Halted dst w s.clusters)
    (thinned : Thinned dyn dst (pairKey w) s t) : Halted dst w t.clusters := by
  rcases thinned.dest with gone | same
  · intro rd member
    rw [gone] at member
    cases member
  · exact halted.of_dests same

theorem halted_written {obj : ReplicationDestination} (paused : obj.paused = true) (stored : List ReplicationDestination) :
    ∀ rd ∈ replicationDestinations.written obj stored, rd.paused = true := by
  intro rd member
  cases stored with
  | nil =>
    obtain rfl := List.mem_singleton.mp member
    exact paused
  | cons cur rest =>
    obtain ⟨_, _, rfl⟩ := List.mem_map.mp member
    exact paused

section
variable {o : Oracle} (still : o.Still) {m : Mover} {w : Workload} {home dyn dst : ClusterId} {s : World}
include still

/-- A list that is served shows the pod. -/
theorem destUserMounted_mounted (named : w.namespace_ ≠ "") (data : firstDataPVC w.pvcNames ≠ "")
    (listed : ∀ n, o.fault n (.list dst .pods w.namespace_) = none) (mounted : Mounted dst w s.clusters) :
    (destUserMounted (some dst) w.namespace_ (firstDataPVC w.pvcNames) o s).1 = true := by
  simp only [destUserMounted, named, data, or_self, ↓reduceIte, bind_run, listObjects, fetch_still still, listed,
    Option.elim_none, pure_run]
  exact List.any_eq_true.mpr mounted

theorem samePods_scrubMisplaced : Moves o (SamePods dst) (scrubMisplaced m (pairKey w)) :=
  samePods_of_confined still (confined_scrubbed m
    (fun _ _ _ _ _ => sparesPods_request .dest .delete _ (by decide) (by decide))
    fun _ _ _ _ _ _ => ⟨by simp [Request.target], by simp [Request.target]⟩)

theorem samePods_applySource (dyn : ClusterId) (obj : ReplicationSource) :
    Moves o (SamePods dst) (applyNamespaced replicationSources .source dyn obj) :=
  samePods_of_confined still (confined_applyNamespaced replicationSources_separate _ _ _ (fun _ => rfl)
    fun verb => sparesPods_request .source verb _ (by decide) (by decide))

theorem halted_protectCaches (halted : Halted dst w s.clusters) :
    Halted dst w (protectCaches m w.namespace_ o s).2.clusters := by
  have apart : PairsApart dst (fun _ => True) s (protectCaches m w.namespace_ o s).2 := apart_protectCaches still m _ s
  exact halted.of_dests ((apart.pairs dst).dests (pairKey w) trivial)

variable (wired : Wired m home dyn dst)
include wired

/-- When the source's half is written, the pair and the pods are as they were. -/
theorem applyPair_waiting (s : World) :
    Held dyn dst (pairKey w) s (snapshotTaken m dyn w o (scrubMisplaced m (pairKey w) o s).2).2 ∧
      SamePods dst s (snapshotTaken m dyn w o (scrubMisplaced m (pairKey w) o s).2).2 := by
  have apart : Moves o (PairsApart dyn fun _ => True) (snapshotTaken m dyn w) :=
    apart_of_confined still (confined_snapshotTaken m w dyn)
  have same : Moves o (SamePods dst) (snapshotTaken m dyn w) := samePods_of_confined still (confined_snapshotTaken m w dyn)
  exact ⟨(held_chains dyn dst _).trans (held_scrubMisplaced still wired.dynamic wired.destDyn s)
    ((apart _).held dyn dst trivial), (samePods_chains dst).trans (samePods_scrubMisplaced still s) (same _)⟩

variable (named : w.namespace_ ≠ "") (data : firstDataPVC w.pvcNames ≠ "")
  (listed : ∀ n, o.fault n (.list dst .pods w.namespace_) = none)
include named data listed

theorem applyDestination_halts (mounted : Mounted dst w s.clusters) (halted : Halted dst w s.clusters) :
    Halted dst w (applyDestination m dst w (firstDataPVC w.pvcNames) o s).2.clusters := by
  rcases applyDestination_either still (firstDataPVC w.pvcNames) with same | written
  · exact halted.of_dests same
  · rw [wired.destKube, destUserMounted_mounted still named data listed mounted] at written
    rw [Halted, written]
    exact halted_written rfl _

theorem applyPair_halts (mounted : Mounted dst w s.clusters) (halted : Halted dst w s.clusters) :
    Halted dst w (applyPair m dyn dst w (firstDataPVC w.pvcNames) o s).2.clusters := by
  obtain ⟨held, same⟩ := applyPair_waiting still wired s
  have mounted := mounted.of_samePods same
  have halted := halted.of_dests held.dest
  refine andThen_either (fun t : World => Halted dst w t.clusters) halted fun taken _ => ?_
  have mounted := mounted.of_samePods (samePods_applySource still dyn
    (m.source w (pairName w) (firstDataPVC w.pvcNames)) _)
  have halted : Halted dst w (applyNamespaced replicationSources .source dyn
      (m.source w (pairName w) (firstDataPVC w.pvcNames)) o _).2.clusters := halted.of_dests (dest_applySource still _)
  refine andThen_either (fun t : World => Halted dst w t.clusters) halted fun _ _ => ?_
  split
  · exact halted_protectCaches still halted
  · have placed := applyDestination_halts still wired named data listed mounted halted
    exact andThen_either (fun t : World => Halted dst w t.clusters) placed fun _ _ => halted_protectCaches still placed

end

section
variable {o : Oracle} {m : Mover} {w : Workload} {home dyn dst : ClusterId} {s : World}

/-- A step that leaves the pair, the pods and the nodes alone may come first. -/
private theorem halted_andThen {x : Prog (Except ε α)} {f : α → Prog (Except ε β)} (watched : SeesPod m w dst o s)
    (halted : Halted dst w s.clusters) (same : Moves o (SamePods dst) x)
    (apart : Moves o (PairsApart dst fun _ => True) x)
    (then_ : ∀ a, SeesPod m w dst o (x o s).2 → Halted dst w (x o s).2.clusters →
      Halted dst w (f a o (x o s).2).2.clusters) : Halted dst w (andThen x f o s).2.clusters := by
  have kept := halted.of_dests (((apart s).pairs dst).dests (pairKey w) trivial)
  exact andThen_either (fun t : World => Halted dst w t.clusters) kept
    fun a _ => then_ a (watched.of_samePods (same s)) kept

variable (wired : Wired m home dyn dst) (named : w.namespace_ ≠ "") (data : firstDataPVC w.pvcNames ≠ "")
include wired named data

/-- Whatever fails, a pass that sees the pod does not write a half that is not paused. -/
theorem replicate_halts (watched : SeesPod m w dst o s) (halted : Halted dst w s.clusters) :
    Halted dst w (replicate m w o s).2.clusters := by
  have still := watched.still
  have some : w.pvcNames ≠ [] := fun none => data (by simp [none, firstDataPVC])
  simp only [replicate, wired.dynamic, some, data, ↓reduceIte]
  refine halted_andThen watched halted (samePods_sourceMissing still m _ _)
    (apart_of_confined still (confined_sourceMissing m _ _)) fun missing watched halted => ?_
  split
  · -- the claim is gone, and the pair goes with it
    have thinned : Moves o (Thinned dyn dst (pairKey w)) (deletePair (Option.some dyn) m.destDyn (pairKey w)) :=
      thinned_deletePair still _ _
    exact halted.of_thinned (thinned _)
  · refine halted_andThen watched halted (samePods_ensureSecrets still m w) (apart_ensureSecrets still m w)
      fun _ watched halted => ?_
    refine halted_andThen watched halted (samePods_privileged still _ _ w _) (apart_privileged still _ _ w _)
      fun _ watched halted => ?_
    have mounted := prepareDest_mounted still wired.destKube watched
    have apart : Moves o (PairsApart home fun _ => True) (prepareDest m w) := apart_prepareDest still wired.kube w
    have halted := halted.of_dests (((apart _).pairs dst).dests (pairKey w) trivial)
    refine andThen_either (fun t : World => Halted dst w t.clusters) halted fun _ _ => ?_
    simp only [wired.destDyn, wired.apart, ↓reduceIte]
    exact applyPair_halts still wired named data (fun n => (watched.listed n).1) mounted halted

end

/-! ### Passes that are served -/

/-- What a pass needs in order to write the destination's half: no call fails, the
namespace and the data claims of the workload are on the source, and through restic the
source has reported its first copy. -/
structure Served (m : Mover) (w : Workload) (home dyn : ClusterId) (o : Oracle) (s : World) : Prop where
  serene : o.Serene
  inside : HasNamespace home w s
  claims : HasClaims home w s
  taken : m.resticCopy = true → (replicationSources.under (pairKey w) (s.clusters dyn)).head?.any
    (fun rs => rs.lastSyncTime ≠ "") = true

section
variable {o : Oracle} {m : Mover} {w : Workload} {home dyn dst : ClusterId} {s t : World}

/-- What a pass needs is still there. -/
theorem Served.of_apart (served : Served m w home dyn o s) (apart : PairsApart home (fun _ => True) s t)
    (inside : Keeps (HasNamespace home w) s t) : Served m w home dyn o t where
  serene := served.serene
  inside := inside served.inside
  claims := served.claims.of_apart apart
  taken restic := by
    rw [(apart.pairs dyn).sources (pairKey w) trivial]
    exact served.taken restic

variable (wired : Wired m home dyn dst) (named : w.namespace_ ≠ "") (data : firstDataPVC w.pvcNames ≠ "")
include wired named data

theorem applyPair_pauses (serene : o.Serene) (mounted : Mounted dst w s.clusters)
    (taken : m.resticCopy = true → (replicationSources.under (pairKey w) (s.clusters dyn)).head?.any
      (fun rs => rs.lastSyncTime ≠ "") = true) :
    Halted dst w (applyPair m dyn dst w (firstDataPVC w.pvcNames) o s).2.clusters := by
  have still := serene.still
  have listed (n : Nat) : o.fault n (.list dst .pods w.namespace_) = none := serene.served n _ rfl
  obtain ⟨held, same⟩ := applyPair_waiting still wired s
  have mounted := mounted.of_samePods same
  have scrubbed : Held dyn dst (pairKey w) s (scrubMisplaced m (pairKey w) o s).2 :=
    held_scrubMisplaced still wired.dynamic wired.destDyn s
  have read : (snapshotTaken m dyn w o (scrubMisplaced m (pairKey w) o s).2).1 = .ok true :=
    snapshotTaken_serene serene named fun restic => by
      rw [scrubbed.source]
      exact taken restic
  have mounted := mounted.of_samePods (samePods_applySource still dyn
    (m.source w (pairName w) (firstDataPVC w.pvcNames)) _)
  rw [applyPair, bind_run]
  change Halted dst w (andThen (snapshotTaken m dyn w) _ o (scrubMisplaced m (pairKey w) o s).2).2.clusters
  rw [andThen_served read, andThen_orElse_served (applyNamespaced_serene serene _ _ _ fun _ => rfl)]
  simp only [Bool.not_true, Bool.and_false, Bool.false_eq_true, ↓reduceIte]
  generalize (applyNamespaced replicationSources .source dyn (m.source w (pairName w) (firstDataPVC w.pvcNames)) o
    (snapshotTaken m dyn w o (scrubMisplaced m (pairKey w) o s).2).2).2 = t at mounted
  have placed : Halted dst w (applyDestination m dst w (firstDataPVC w.pvcNames) o t).2.clusters := by
    have done : (applyDestination m dst w (firstDataPVC w.pvcNames) o t).1 = .ok () := by
      have applied (obj : ReplicationDestination) (u : World) :
          (applyNamespaced replicationDestinations .dest dst obj o u).1 = .ok () :=
        applyNamespaced_serene serene _ _ _ fun _ => rfl
      simp [applyDestination, orElse, applied, Except.mapError]
    have written := applyDestination_ok still done
    rw [wired.destKube, destUserMounted_mounted still named data listed mounted] at written
    rw [Halted, pairKey, written]
    exact halted_written rfl _
  exact andThen_either (fun u : World => Halted dst w u.clusters) placed fun _ _ => halted_protectCaches still placed

/-- A pass that is served and sees the pod pauses the half. -/
theorem replicate_pauses (watched : SeesPod m w dst o s) (served : Served m w home dyn o s) :
    Halted dst w (replicate m w o s).2.clusters := by
  have serene := served.serene
  have still := serene.still
  have some : w.pvcNames ≠ [] := fun none => data (by simp [none, firstDataPVC])
  simp only [replicate, wired.dynamic, some, data, ↓reduceIte]
  rw [andThen_served (sourceMissing_serene serene wired.kube named data served.claims)]
  have watched := watched.of_samePods (samePods_sourceMissing still m w.namespace_ (firstDataPVC w.pvcNames) s)
  have served := served.of_apart (apart_of_confined still (confined_sourceMissing m _ _) s)
    (inside_of_confined still (confined_sourceMissing m w.namespace_ (firstDataPVC w.pvcNames)) s)
  simp only [Bool.false_eq_true, ↓reduceIte, replicateClaim]
  rw [andThen_orElse_served (ensureSecrets_serene serene m w)]
  have watched := watched.of_samePods (samePods_ensureSecrets still m w _)
  have served := served.of_apart (apart_ensureSecrets still m w _) (inside_of_confined still
    (confined_ensureSecrets m w fun _ _ _ _ => by simp) _)
  rw [andThen_served (privileged_serene serene _ fun c same => by
    obtain rfl := Option.some.inj (same.symm.trans wired.kube)
    exact served.inside)]
  have watched := watched.of_samePods (samePods_privileged still .source m.kube w "volsync privileged movers: " _)
  have served := served.of_apart (apart_privileged still .source m.kube w "volsync privileged movers: " _)
    (privileged_inside still _ _ _ _)
  rw [andThen_served (prepareDest_serene serene wired.kube wired.destKube named served.inside served.claims)]
  have mounted := prepareDest_mounted still wired.destKube watched
  have apart : Moves o (PairsApart home fun _ => True) (prepareDest m w) := apart_prepareDest still wired.kube w
  simp only [wired.destDyn, wired.apart, ↓reduceIte]
  refine applyPair_pauses wired named data serene mounted fun restic => ?_
  rw [((apart _).pairs dyn).sources (pairKey w) trivial]
  exact served.taken restic

end

/-! ### Runs of passes -/

/-- What happens to a pair: the others move, or the mover makes a pass over its workload. -/
inductive PassTurn where
  | others (clusters : Clusters)
  | pass (o : Oracle)

/-- The others may do anything but unpause the destination's half, or bring one that is
not paused. -/
def takes (dst : ClusterId) (w : Workload) (s : World) : PassTurn → Option Unit
  | .others clusters => if Halted dst w s.clusters → Halted dst w clusters then some () else none
  | .pass _ => some ()

def afterTurn (m : Mover) (w : Workload) (s : World) (turn : PassTurn) (_ : Unit) : World :=
  match turn with
  | .others clusters => { s with clusters }
  | .pass o => (replicate m w o s).2

/-- A user's pod ran on the claim when some step was taken. -/
def MountedBy (dst : ClusterId) (w : Workload) (steps : List (Step World PassTurn Unit)) : Prop :=
  ∃ step ∈ steps, Mounted dst w step.before.clusters

/-- A pass was made when a pod had run on the claim. -/
def PassedMounted (dst : ClusterId) (w : Workload) (steps : List (Step World PassTurn Unit)) : Prop :=
  ∃ earlier step later o, steps = earlier ++ step :: later ∧ step.input = .pass o ∧ MountedBy dst w (earlier ++ [step])

/-- Every pass from the mount on sees the pod; the first of them is served, or finds no half
that is not paused. -/
def Attended (m : Mover) (w : Workload) (home dyn dst : ClusterId) (steps : List (Step World PassTurn Unit)) : Prop :=
  ∀ earlier step later o, steps = earlier ++ step :: later → step.input = .pass o → MountedBy dst w (earlier ++ [step]) →
    SeesPod m w dst o step.before ∧
      (Served m w home dyn o step.before ∨ Halted dst w step.before.clusters ∨ PassedMounted dst w earlier)

section
variable {m : Mover} {w : Workload} {home dyn dst : ClusterId} {start state : World}
  {steps : List (Step World PassTurn Unit)}

theorem Attended.earlier {step : Step World PassTurn Unit} (attended : Attended m w home dyn dst (steps ++ [step])) :
    Attended m w home dyn dst steps := fun earlier other later o split =>
  attended earlier other (later ++ [step]) o (by simp [split])

/-- What was passed before a last step, or in it. -/
theorem PassedMounted.snoc {step : Step World PassTurn Unit} (passed : PassedMounted dst w (steps ++ [step])) :
    PassedMounted dst w steps ∨ ∃ o, step.input = .pass o ∧ MountedBy dst w (steps ++ [step]) := by
  obtain ⟨earlier, other, later, o, split, input, mounted⟩ := passed
  rcases List.eq_nil_or_concat later with none | ⟨initial, last, same⟩
  · subst none
    obtain ⟨rfl, sameStep⟩ := List.append_inj' split rfl
    obtain rfl : step = other := by simpa using sameStep
    exact .inr ⟨o, input, mounted⟩
  · subst same
    rw [List.concat_eq_append, ← List.cons_append, ← List.append_assoc] at split
    exact .inl ⟨earlier, other, initial, o, (List.append_inj' split rfl).1, input, mounted⟩

variable (wired : Wired m home dyn dst) (named : w.namespace_ ≠ "") (data : firstDataPVC w.pvcNames ≠ "")
include wired named data

/-- Once a pass was made over a mounted claim, the half stays paused. -/
theorem halted_of_passed (run : Run (takes dst w) (afterTurn m w) start steps state)
    (attended : Attended m w home dyn dst steps) (passed : PassedMounted dst w steps) : Halted dst w state.clusters := by
  refine run.history (fun steps state => Attended m w home dyn dst steps → PassedMounted dst w steps →
      Halted dst w state.clusters)
    ?_ (fun steps state turn output _ before taken attended passed => ?_) attended passed
  · rintro _ ⟨_, _, _, _, split, _⟩
    simp at split
  · have before := before attended.earlier
    cases turn with
    | others clusters =>
      have kept : Halted dst w state.clusters → Halted dst w clusters := by
        by_contra moved
        simp [takes, moved] at taken
      rcases passed.snoc with earlier | ⟨o, input, _⟩
      · exact kept (before earlier)
      · cases input
    | pass o =>
      have mounted : MountedBy dst w (steps ++ [⟨state, .pass o, output⟩]) := by
        rcases passed.snoc with ⟨earlier, step, later, _, rfl, _, other, member, mounted⟩ | ⟨_, _, mounted⟩
        · refine ⟨other, ?_, mounted⟩
          simp only [List.mem_append, List.mem_cons] at member ⊢
          tauto
        · exact mounted
      obtain ⟨watched, served | halted | earlier⟩ := attended steps ⟨state, .pass o, output⟩ [] o rfl rfl mounted
      · exact replicate_pauses wired named data watched served
      · exact replicate_halts wired named data watched halted
      · exact replicate_halts wired named data watched (before earlier)

/-- In a run in which every pass from the mount on sees the pod, and the first of them is
served, every pass at or after the mount leaves a half that is paused, or none. -/
theorem replicate_paused (run : Run (takes dst w) (afterTurn m w) start steps state)
    (attended : Attended m w home dyn dst steps) {earlier later : List (Step World PassTurn Unit)}
    {step : Step World PassTurn Unit} {o : Oracle} (split : steps = earlier ++ step :: later) (input : step.input = .pass o)
    (mounted : MountedBy dst w (earlier ++ [step])) : Halted dst w (replicate m w o step.before).2.clusters := by
  obtain ⟨before, taken⟩ := run.reached earlier later step split
  have reached := halted_of_passed wired named data (before.snoc taken)
    (fun first other rest oracle same => attended first other (rest ++ later) oracle (by
      rw [split, ← List.singleton_append, ← List.append_assoc, same]
      simp)) ⟨earlier, step, [], o, rfl, input, mounted⟩
  rw [input] at reached
  exact reached

end

/-! ### One pair -/

def pausedMover : Mover := { kube := some 0, dynamic := some 0, destKube := some 1, destDynamic := some 1 }

def pausedWorkload : Workload := { namespace_ := "shop", name := "web", kind := "StatefulSet", cls := .genericPVC, pvcNames := ["data"] }

/-- The source has reported a copy, and the destination has the given pods and the half
that an earlier pass wrote. -/
def pausedWorld (pods : List Pod) : World where
  clusters c := if c = 0 then
      { namespaces := fun ns => if ns = "shop" then some {} else none
        claims := fun key => if key = ⟨"shop", "data"⟩ then some {} else none
        replicationSources := [{ pausedMover.source pausedWorkload "portage-web" "data" with lastSyncTime := "t" }] }
    else
      { pods, nodes := [{ name := "n1", hostname := "n1" }]
        replicationDestinations := [pausedMover.destination pausedWorkload "portage-web"] }
  action := { spec := { type := .replicate, policyRef := "shop" } }

def webPod : Pod := { key := ⟨"shop", "web-0"⟩, running := true, claims := ["data"], pinning := { nodeName := "n1" } }

/-- Whether the halves on the destination are paused. -/
def pauses (s : World) : List Bool := (s.clusters 1).replicationDestinations.map (·.paused)

theorem pausedMover_wired : Wired pausedMover 0 0 1 := ⟨rfl, rfl, rfl, rfl, by decide⟩

theorem pausedWorld_mounted : Mounted 1 pausedWorkload (pausedWorld [webPod]).clusters :=
  ⟨webPod, List.mem_singleton.mpr rfl, by decide⟩

theorem pausedWorld_served : Served pausedMover pausedWorkload 0 0 {} (pausedWorld [webPod]) where
  serene := serene_default
  inside := rfl
  claims claim member _ _ := by
    obtain rfl := List.mem_singleton.mp member
    rfl
  taken _ := by decide +kernel

/-- The world after one pass, and what is left of it when the user's pod is gone. -/
def oncePassed : World := (replicate pausedMover pausedWorkload {} (pausedWorld [webPod])).2

def podGone : Clusters := fun c => { oncePassed.clusters c with pods := [] }

/-- Everything is served but one request. -/
def refusingOnly (request : Request) : Oracle where
  fault _ req := if req = request then some {} else none

/-- A second pass that cannot read the destination's half. -/
def halfUnread : Oracle := refusingOnly (.get 1 .replicationDestinations ⟨"shop", "portage-web"⟩)

def twoPasses : List (Step World PassTurn Unit) :=
  [⟨pausedWorld [webPod], .pass {}, ()⟩, ⟨oncePassed, .pass halfUnread, ()⟩]

/-- Every pass of the two sees the pod, and the first is served. -/
theorem twoPasses_attended : Attended pausedMover pausedWorkload 0 0 1 twoPasses := by
  have mounted : MountedBy 1 pausedWorkload [⟨pausedWorld [webPod], .pass {}, ()⟩] :=
    ⟨_, List.mem_singleton.mpr rfl, pausedWorld_mounted⟩
  intro earlier step later o split input _
  match earlier, split with
  | [], split =>
    obtain ⟨rfl, -⟩ := List.cons.inj split
    obtain rfl : {} = o := PassTurn.pass.inj input
    exact ⟨⟨fun _ _ => rfl, fun _ => ⟨rfl, rfl⟩, by decide, webPod, List.mem_singleton.mpr rfl, by decide, by decide⟩,
      .inl pausedWorld_served⟩
  | [first], split =>
    obtain ⟨rfl, rest⟩ := List.cons.inj split
    obtain ⟨rfl, -⟩ := List.cons.inj rest
    obtain rfl : halfUnread = o := PassTurn.pass.inj input
    exact ⟨⟨fun _ _ => rfl, fun _ => ⟨rfl, rfl⟩, by decide +kernel, webPod, by decide +kernel, by decide,
        by decide +kernel⟩,
      .inr (.inr ⟨[], _, [], {}, rfl, rfl, mounted⟩)⟩
  | _ :: _ :: _, split => simp [twoPasses] at split

/-- Two passes over a pair whose half was not paused, with the user's pod running. -/
theorem replicate_paused_twice : pauses (pausedWorld [webPod]) = [false] ∧
    Halted 1 pausedWorkload (replicate pausedMover pausedWorkload halfUnread oncePassed).2.clusters := by
  have run : Run (takes 1 pausedWorkload) (afterTurn pausedMover pausedWorkload) (pausedWorld [webPod]) twoPasses _ :=
    Run.snoc (Run.snoc Run.nil rfl) rfl
  have halted := replicate_paused pausedMover_wired (by decide) (by decide) run twoPasses_attended
    (show twoPasses = [_] ++ _ :: [] from rfl) rfl ⟨_, List.mem_cons_self, pausedWorld_mounted⟩
  exact ⟨by decide +kernel, halted⟩

def podless : Oracle := refusingOnly (.list 1 .pods "shop")

/-- A second pass unpauses the half when the pod has gone; and with the pod still there,
when the pods cannot be listed. -/
theorem replicate_unpauses :
    (∃ steps, Run (takes 1 pausedWorkload) (afterTurn pausedMover pausedWorkload) (pausedWorld [webPod]) steps
        (replicate pausedMover pausedWorkload {} { oncePassed with clusters := podGone }).2 ∧
      MountedBy 1 pausedWorkload steps ∧ pauses oncePassed = [true] ∧
      pauses (replicate pausedMover pausedWorkload {} { oncePassed with clusters := podGone }).2 = [false]) ∧
    ∃ steps, Run (takes 1 pausedWorkload) (afterTurn pausedMover pausedWorkload) (pausedWorld [webPod]) steps
        (replicate pausedMover pausedWorkload podless oncePassed).2 ∧
      MountedBy 1 pausedWorkload steps ∧ Mounted 1 pausedWorkload oncePassed.clusters ∧
      pauses (replicate pausedMover pausedWorkload podless oncePassed).2 = [false] := by
  have first : Run (takes 1 pausedWorkload) (afterTurn pausedMover pausedWorkload) (pausedWorld [webPod])
      ([] ++ [⟨pausedWorld [webPod], .pass {}, ()⟩]) oncePassed := Run.snoc Run.nil rfl
  have away : takes 1 pausedWorkload oncePassed (.others podGone) = some () := by
    rw [takes, if_pos]
    exact fun halted => halted
  have second := (first.snoc away).snoc (show takes 1 pausedWorkload _ (.pass {}) = some () from rfl)
  have unlisted := first.snoc (show takes 1 pausedWorkload oncePassed (.pass podless) = some () from rfl)
  simp only [afterTurn] at second unlisted
  have mounted (steps : List (Step World PassTurn Unit)) (starts : ⟨pausedWorld [webPod], .pass {}, ()⟩ ∈ steps) :
      MountedBy 1 pausedWorkload steps := ⟨_, starts, pausedWorld_mounted⟩
  refine ⟨⟨_, second, mounted _ (by simp), by decide +kernel, by decide +kernel⟩,
    ⟨_, unlisted, mounted _ (by simp), ⟨webPod, by decide +kernel, by decide⟩, by decide +kernel⟩⟩

end Portage.VolSync
