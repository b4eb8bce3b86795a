import Portage.Movers.VolSync.Pairs

/-! What is left of a pair once its workload or its claim is gone. A pair is removed by
two deletes on two clusters, and later passes find it only through the source's half:
the destination's half must not outlive it. -/
namespace Portage.VolSync

open Go Kube Process Program

/-! ### What an apply leaves -/

section
variable {β : Type} {kind : CustomKind β} {o : Oracle} (still : o.Still) (stores : kind.Stores)
  (side : Side) (c : ClusterId)
include still stores

theorem createCustom_either (obj : β) (s : World) :
    (createCustom kind side c obj o s).2.clusters = s.clusters ∨
      kind.under (kind.key obj) ((createCustom kind side c obj o s).2.clusters c) =
        kind.written obj (kind.under (kind.key obj) (s.clusters c)) := by
  rcases send_clusters _ c _ still s with same | ⟨after, changed, same⟩
  · exact .inl same
  · right
    rw [createCustom, createIn, same]
    split at changed
    · cases changed
    · rename_i absent
      cases changed
      have none : kind.under (kind.key obj) (s.clusters c) = [] := by
        simpa [CustomKind.find_eq] using absent
      have added : kind.under (kind.key obj) (kind.store (kind.items (s.clusters c) ++ [obj]) (s.clusters c)) =
          kind.under (kind.key obj) (s.clusters c) ++ [obj] := by
        rw [CustomKind.under, stores, Keyed.under_concat_self]
        rfl
      simp [added, none, CustomKind.written]

variable [DecidableEq β]

theorem updateCustom_either (cur obj : β) (s : World) :
    (updateCustom kind side c cur obj o s).2.clusters = s.clusters ∨
      kind.under (kind.key obj) ((updateCustom kind side c cur obj o s).2.clusters c) =
        (kind.under (kind.key obj) (s.clusters c)).map fun _ => obj := by
  rcases send_clusters _ c _ still s with same | ⟨after, changed, same⟩
  · exact .inl same
  · right
    rw [updateCustom, updateIn, same]
    split at changed
    · cases changed
    · split at changed
      · cases changed
        have replaced : kind.under (kind.key obj)
            (kind.store (Keyed.replace kind.key obj (kind.items (s.clusters c))) (s.clusters c)) =
            (kind.under (kind.key obj) (s.clusters c)).map fun _ => obj := by
          rw [CustomKind.under, stores, Keyed.under_replace_self]
          rfl
        simpa using replaced
      · cases changed

/-- Whatever fails, an apply leaves what was there, or what it was given. -/
theorem applyNamespaced_either (obj : β) (kept : ∀ cur, kind.key (kind.keepStatus obj cur) = kind.key obj)
    (s : World) : (applyNamespaced kind side c obj o s).2.clusters = s.clusters ∨
      kind.under (kind.key obj) ((applyNamespaced kind side c obj o s).2.clusters c) =
        kind.written obj (kind.under (kind.key obj) (s.clusters c)) := by
  have created := createCustom_either still stores side c obj s
  cases answer : (createCustom kind side c obj o s).1 with
  | ok _ => simpa [applyNamespaced, answer] using created
  | error refused =>
    by_cases there : refused.reason = .alreadyExists
    · have same : (createCustom kind side c obj o s).2.clusters = s.clusters :=
        (send_exists still answer there).2
      have world : (applyNamespaced kind side c obj o s).2 =
          (andThen (getObject c kind.resource (kind.key obj) (kind.find (kind.key obj)))
            (fun cur => updateCustom kind side c cur (kind.keepStatus obj cur)) o
              (createCustom kind side c obj o s).2).2 := by
        simp [applyNamespaced, answer, there]
      rw [world, ← same]
      have unread := Moves.clusters_eq still
        (moves_getObject c kind.resource (kind.key obj) (kind.find (kind.key obj))) (createCustom kind side c obj o s).2
      refine andThen_either (fun t : World => t.clusters = _ ∨ kind.under (kind.key obj) (t.clusters c) = _) (.inl unread)
        fun cur read => ?_
      rcases updateCustom_either still stores side c cur (kind.keepStatus obj cur)
        (getObject c kind.resource (kind.key obj) (kind.find (kind.key obj)) o
          (createCustom kind side c obj o s).2).2 with unchanged | replaced
      · exact .inl (unchanged.trans unread)
      · right
        have first := getObject_ok still read
        rw [CustomKind.find_eq] at first
        rw [kept, unread] at replaced
        rw [replaced]
        cases stored : kind.under (kind.key obj) ((createCustom kind side c obj o s).2.clusters c) with
        | nil => simp [stored] at first
        | cons head rest =>
          obtain rfl : head = cur := by simpa [stored] using first
          rfl
    · simpa [applyNamespaced, answer, there] using created

end

/-! ### What a pass leaves of its own pair -/

/-- A delete of a destination's half that is reported to have failed was carried out all
the same. -/
def Drops (o : Oracle) (dst : ClusterId) : Prop := ∀ n key fault,
  o.fault n (.delete dst .replicationDestinations key) = some fault → o.lost n = true

variable {o : Oracle} {s t : World} {dyn dst home : ClusterId} {rs : ReplicationSource}

theorem drops_of_serene (serene : o.Serene) (dst : ClusterId) : Drops o dst := by
  intro n key fault failed
  rw [serene.served n _ rfl] at failed
  cases failed

/-- A write that takes effect if the server accepts it. -/
theorem send_effective (still : o.Still) {req : Request} {c : ClusterId} {change : Cluster → Except ApiError Cluster}
    (effective : ∀ fault, o.fault s.calls req = some fault → o.lost s.calls = true) (holds : Cluster → Prop)
    (accepted : ∀ after, change (s.clusters c) = .ok after → holds after)
    (refused : ∀ reason, change (s.clusters c) = .error reason → holds (s.clusters c)) :
    holds ((send req c change o s).2.clusters c) := by
  have unmoved := still s.calls s.clusters
  cases changed : change (s.clusters c) with
  | error reason =>
    cases failed : o.fault s.calls req <;>
      simpa [send, tick, record, unmoved, failed, changed] using refused reason changed
  | ok after =>
    cases failed : o.fault s.calls req with
    | none => simpa [send, tick, record, setCluster, unmoved, failed, changed] using accepted after changed
    | some fault =>
      simpa [send, tick, record, setCluster, unmoved, failed, changed, effective fault failed] using
        accepted after changed

section
variable {o : Oracle} (still : o.Still) {dyn dst : ClusterId} {key : ObjKey} {s : World}

include still in
theorem deleteDestination_drops (drops : Drops o dst) :
    replicationDestinations.under key ((deleteDestination dst key o s).2.clusters dst) = [] := by
  refine send_effective still (fun fault failed => drops _ _ fault failed)
    (fun cluster => replicationDestinations.under key cluster = []) (fun after changed => ?_) fun reason changed => ?_
  · split at changed
    · cases changed
      exact Keyed.under_remove_self
    · cases changed
  · split at changed
    · cases changed
    · rename_i absent
      refine List.filter_eq_nil_iff.mpr fun rd member same => absent ?_
      exact List.any_eq_true.mpr ⟨rd, member, same⟩

theorem deleteSource_serene (serene : o.Serene) :
    replicationSources.under key ((deleteSource dyn key o s).2.clusters dyn) = [] := by
  refine send_effective serene.still (fun fault failed => ?_)
    (fun cluster => replicationSources.under key cluster = []) (fun after changed => ?_) fun reason changed => ?_
  · rw [serene.served _ _ rfl] at failed
    cases failed
  · split at changed
    · cases changed
      exact Keyed.under_remove_self
    · cases changed
  · split at changed
    · cases changed
    · rename_i absent
      refine List.filter_eq_nil_iff.mpr fun rs member same => absent ?_
      exact List.any_eq_true.mpr ⟨rs, member, same⟩

end

theorem held_chains (dyn dst : ClusterId) (key : ObjKey) : Chains (Held dyn dst key) where
  refl _ := ⟨rfl, rfl⟩
  trans first second := ⟨second.source.trans first.source, second.dest.trans first.dest⟩

theorem Held.of_eq {key : ObjKey} (same : t.clusters = s.clusters) : Held dyn dst key s t := ⟨by rw [same], by rw [same]⟩

/-- From `s` to `t` the pair under a key was deleted: each half is gone or as it was. The
destination's is gone if its delete takes effect, and both are if no call fails. -/
structure Dropped (o : Oracle) (dyn dst : ClusterId) (key : ObjKey) (s t : World) : Prop where
  thinned : Thinned dyn dst key s t
  dest : Drops o dst → replicationDestinations.under key (t.clusters dst) = []
  source : o.Serene → replicationSources.under key (t.clusters dyn) = []

section
variable {o : Oracle} (still : o.Still) {dyn dst : ClusterId} {key : ObjKey} {s : World}
include still

theorem dropped_deletePair (named : key.namespace_ ≠ "") (titled : key.name ≠ "") :
    Dropped o dyn dst key s (deletePair (some dyn) (some dst) key o s).2 := by
  have world : (deletePair (some dyn) (some dst) key o s).2 =
      (deleteDestination dst key o (deleteSource dyn key o s).2).2 := by
    simp [deletePair, named, titled, deleteIn]
  refine ⟨thinned_deletePair still _ _ s, fun drops => ?_, fun serene => ?_⟩
  · rw [world]
    exact deleteDestination_drops still drops
  · have first : replicationSources.under key ((deleteSource dyn key o s).2.clusters dyn) = [] :=
      deleteSource_serene serene
    have second : Thinned dyn dst key (deleteSource dyn key o s).2 _ := thinned_deleteDestination still dst _
    rw [world]
    rcases second.source with gone | same
    · exact gone
    · rw [same, first]

end

/-- What a Replicate pass leaves of the pair of its workload: it is as it was, or the
source's half was written and perhaps the destination's, or the claim is gone and the
pair was deleted. -/
inductive PairOutcome (o : Oracle) (m : Mover) (w : Workload) (home dyn dst : ClusterId) (s t : World) : Prop where
  | held (same : Held dyn dst (pairKey w) s t)
  | written (data : firstDataPVC w.pvcNames ≠ "")
      (source : replicationSources.under (pairKey w) (t.clusters dyn) = replicationSources.written
        (m.source w (pairName w) (firstDataPVC w.pvcNames)) (replicationSources.under (pairKey w) (s.clusters dyn)))
      (dest : replicationDestinations.under (pairKey w) (t.clusters dst) =
          replicationDestinations.under (pairKey w) (s.clusters dst) ∨
        ∃ mounted, replicationDestinations.under (pairKey w) (t.clusters dst) =
          replicationDestinations.written { m.destination w (pairName w) with paused := mounted }
            (replicationDestinations.under (pairKey w) (s.clusters dst)))
  | dropped (data : firstDataPVC w.pvcNames ≠ "")
      (gone : (s.clusters home).claims ⟨w.namespace_, firstDataPVC w.pvcNames⟩ = none)
      (pair : Dropped o dyn dst (pairKey w) s t)

section
variable {o : Oracle} {m : Mover} {w : Workload} {home dyn dst : ClusterId} {s t u : World}

/-- What keeps all pairs and claims may run before. -/
theorem PairOutcome.after (outcome : PairOutcome o m w home dyn dst t u) (apart : PairsApart home (fun _ => True) s t) :
    PairOutcome o m w home dyn dst s u := by
  have held : Held dyn dst (pairKey w) s t := apart.held dyn dst trivial
  cases outcome with
  | held same => exact .held ((held_chains dyn dst _).trans held same)
  | written data source dest =>
    rw [held.source] at source
    rw [held.dest] at dest
    exact .written data source dest
  | dropped data gone pair =>
    refine .dropped data ?_ ⟨?_, pair.dest, pair.source⟩
    · have same := apart.claims ⟨w.namespace_, firstDataPVC w.pvcNames⟩
      rw [gone] at same
      simpa using same.symm
    · exact (thinned_chains dyn dst _).trans ⟨.inr held.source, .inr held.dest⟩ pair.thinned

/-- What keeps the pair may run after. -/
theorem PairOutcome.before (outcome : PairOutcome o m w home dyn dst s t) (held : Held dyn dst (pairKey w) t u) :
    PairOutcome o m w home dyn dst s u := by
  cases outcome with
  | held same => exact .held ((held_chains dyn dst _).trans same held)
  | written data source dest =>
    refine .written data (held.source.trans source) ?_
    rw [held.dest]
    exact dest
  | dropped data gone pair =>
    refine .dropped data gone ⟨?_, fun drops => held.dest.trans (pair.dest drops),
      fun serene => held.source.trans (pair.source serene)⟩
    exact (thinned_chains dyn dst _).trans pair.thinned ⟨.inr held.source, .inr held.dest⟩

variable (still : o.Still)
include still

/-- Whatever fails, the destination's half is as it was, or written; it is paused if a
user's pod was seen. -/
theorem applyDestination_either (pvc : String) :
    replicationDestinations.under (pairKey w) ((applyDestination m dst w pvc o s).2.clusters dst) =
        replicationDestinations.under (pairKey w) (s.clusters dst) ∨
      replicationDestinations.under (pairKey w) ((applyDestination m dst w pvc o s).2.clusters dst) =
        replicationDestinations.written { m.destination w (pairName w) with
            paused := (destUserMounted m.destKubeClient w.namespace_ pvc o s).1 }
          (replicationDestinations.under (pairKey w) (s.clusters dst)) := by
  have held := ((apart_stopMover still m dst w pvc s).pairs dst).dests (pairKey w) trivial
  rw [← held]
  rcases applyNamespaced_either still replicationDestinations_stores .dest dst
      { m.destination w (pairName w) with paused := (destUserMounted m.destKubeClient w.namespace_ pvc o s).1 }
      (fun _ => rfl) _ with same | written
  · exact .inl (congrArg (fun clusters => replicationDestinations.under (pairKey w) (clusters dst)) same)
  · exact .inr written

theorem applyDestination_outcome (home : ClusterId) (data : firstDataPVC w.pvcNames ≠ "")
    (source : replicationSources.under (pairKey w) (t.clusters dyn) = replicationSources.written
      (m.source w (pairName w) (firstDataPVC w.pvcNames)) (replicationSources.under (pairKey w) (s.clusters dyn)))
    (dest : replicationDestinations.under (pairKey w) (t.clusters dst) =
      replicationDestinations.under (pairKey w) (s.clusters dst)) :
    PairOutcome o m w home dyn dst s (applyDestination m dst w (firstDataPVC w.pvcNames) o t).2 := by
  refine .written data ((source_applyDestination still _).trans source) ?_
  rw [← dest]
  exact (applyDestination_either still _).imp_right fun written => ⟨_, written⟩

theorem applyPair_outcome (source : m.dynamic = some dyn) (dest : m.destDyn = some dst)
    (data : firstDataPVC w.pvcNames ≠ "") :
    PairOutcome o m w home dyn dst s (applyPair m dyn dst w (firstDataPVC w.pvcNames) o s).2 := by
  have chains := held_chains dyn dst (pairKey w)
  have cached : ∀ t, PairsApart dyn (fun _ => True) t (protectCaches m w.namespace_ o t).2 :=
    apart_protectCaches still m _
  have caches : ∀ t, Held dyn dst (pairKey w) t (protectCaches m w.namespace_ o t).2 :=
    fun t => (cached t).held dyn dst trivial
  have scrubbed : Held dyn dst (pairKey w) s (scrubMisplaced m (pairKey w) o s).2 :=
    held_scrubMisplaced still source dest s
  have unread : PairsApart dyn (fun _ => True) (scrubMisplaced m (pairKey w) o s).2 _ :=
    apart_of_confined still (confined_snapshotTaken m w dyn) (scrubMisplaced m (pairKey w) o s).2
  have ready := chains.trans scrubbed (unread.held dyn dst trivial)
  refine andThen_either (PairOutcome o m w home dyn dst s) (.held ready) fun taken _ => ?_
  -- the source's half
  have other : replicationDestinations.under (pairKey w) ((applyNamespaced replicationSources .source dyn
      (m.source w (pairName w) (firstDataPVC w.pvcNames)) o _).2.clusters dst) = _ :=
    (dest_applySource still _).trans ready.dest
  refine andThen_either (PairOutcome o m w home dyn dst s) ?_ fun _ applied => ?_
  · rcases applyNamespaced_either still replicationSources_stores .source dyn
        (m.source w (pairName w) (firstDataPVC w.pvcNames)) (fun _ => rfl) _ with same | written
    · refine .held (chains.trans ready ⟨?_, ?_⟩)
      · exact congrArg (fun clusters => replicationSources.under (pairKey w) (clusters dyn)) same
      · exact congrArg (fun clusters => replicationDestinations.under (pairKey w) (clusters dst)) same
    · refine .written data ?_ (.inl other)
      rw [← ready.source]
      exact written
  have written := applyNamespaced_ok still replicationSources_stores (fun _ => rfl) (orElse_ok applied)
  have written := written.trans (congrArg (replicationSources.written _) ready.source)
  have sourced : PairOutcome o m w home dyn dst s _ := .written data written (.inl other)
  split
  · exact sourced.before (caches _)
  · -- the destination's half
    have placed := applyDestination_outcome still home data written other
    exact andThen_either (PairOutcome o m w home dyn dst s) placed fun _ _ => placed.before (caches _)

/-- A claim that the mover takes for missing is not there. -/
theorem sourceMissing_true {ns pvc : String} (kube : m.kube = some home)
    (missing : (sourceMissing m ns pvc o s).1 = .ok true) : ns ≠ "" ∧ (s.clusters home).claims ⟨ns, pvc⟩ = none := by
  rw [sourceMissing, kube] at missing
  by_cases blank : ns = "" ∨ pvc = ""
  · simp [sourcePVCMissing, blank] at missing
  · obtain ⟨named, data⟩ := not_or.mp blank
    exact ⟨named, by simpa using sourcePVCMissing_ok still named data missing⟩

omit still in
/-- What keeps all pairs and claims may stop the pass, or run before the rest. -/
theorem outcome_andThen {x : Prog (Except String α)} {f : α → Prog (Except String Unit)}
    (apart : Moves o (PairsApart home fun _ => True) x)
    (then_ : ∀ value t, PairOutcome o m w home dyn dst t (f value o t).2) (s : World) : PairOutcome o m w home dyn dst s (andThen x f o s).2 :=
  andThen_either (PairOutcome o m w home dyn dst s) (.held ((apart s).held dyn dst trivial))
    fun value _ => (then_ value _).after (apart s)

theorem replicateClaim_outcome (kube : m.kube = some home) (source : m.dynamic = some dyn)
    (dest : m.destDyn = some dst) (data : firstDataPVC w.pvcNames ≠ "") :
    PairOutcome o m w home dyn dst s (replicateClaim m dyn w (firstDataPVC w.pvcNames) o s).2 := by
  refine outcome_andThen (apart_ensureSecrets still m w) (fun _ t => ?_) s
  refine outcome_andThen (apart_privileged still _ _ w _) (fun _ t => ?_) t
  refine outcome_andThen (apart_prepareDest still kube w) (fun _ t => ?_) t
  simp only [dest]
  split
  · exact .held ((held_chains dyn dst _).refl _)
  · exact applyPair_outcome still source dest data

/-- What a Replicate pass leaves of the pair of its workload, whatever fails. -/
theorem replicate_outcome (kube : m.kube = some home) (source : m.dynamic = some dyn) (dest : m.destDyn = some dst) :
    PairOutcome o m w home dyn dst s (replicate m w o s).2 := by
  have same : ∀ {t : World}, PairsApart home (fun _ => True) s t → PairOutcome o m w home dyn dst s t :=
    fun apart => .held (apart.held dyn dst trivial)
  simp only [replicate, source]
  split
  · exact same (.of_eq rfl)
  · split
    · exact same (apart_protectCaches still m _ s)
    · rename_i data
      have unread : PairsApart home (fun _ => True) s (sourceMissing m w.namespace_ (firstDataPVC w.pvcNames) o s).2 :=
        apart_of_confined still (confined_sourceMissing m _ _) s
      refine andThen_either (PairOutcome o m w home dyn dst s) (same unread) fun missing read => ?_
      cases missing with
      | false => exact (replicateClaim_outcome still kube source dest data).after unread
      | true =>
        obtain ⟨named, gone⟩ := sourceMissing_true still kube read
        have unclaimed : ((sourceMissing m w.namespace_ (firstDataPVC w.pvcNames) o s).2.clusters home).claims
            ⟨w.namespace_, firstDataPVC w.pvcNames⟩ = none := by
          have kept := unread.claims ⟨w.namespace_, firstDataPVC w.pvcNames⟩
          rw [gone] at kept
          simpa using kept
        have dropped : PairOutcome o m w home dyn dst _ _ :=
          .dropped data unclaimed (dropped_deletePair still named (by simp [pairKey, pairName]))
        rw [dest]
        exact dropped.after unread

end

/-- If no call fails, the pair of a workload whose claim is gone is deleted. -/
theorem dropped_replicate {m : Mover} {w : Workload} (serene : o.Serene) (kube : m.kube = some home)
    (source : m.dynamic = some dyn) (dest : m.destDyn = some dst) (named : w.namespace_ ≠ "")
    (data : firstDataPVC w.pvcNames ≠ "")
    (gone : (s.clusters home).claims ⟨w.namespace_, firstDataPVC w.pvcNames⟩ = none) :
    Dropped o dyn dst (pairKey w) s (replicate m w o s).2 := by
  have listed : w.pvcNames ≠ [] := fun empty => data (by simp [empty, firstDataPVC])
  have missing : sourceMissing m w.namespace_ (firstDataPVC w.pvcNames) o s =
      (.ok true, { s with calls := s.calls + 1 }) := by
    simp [sourceMissing, kube, sourcePVCMissing, named, data, getObject_serene serene, gone, found, notFound]
  have world : (replicate m w o s).2 =
      (deletePair (some dyn) (some dst) (pairKey w) o { s with calls := s.calls + 1 }).2 := by
    simp [replicate, source, dest, listed, data, andThen, missing, pairKey]
  rw [world]
  have pair : Dropped o dyn dst (pairKey w) { s with calls := s.calls + 1 } _ :=
    dropped_deletePair serene.still named (by simp [pairKey, pairName])
  exact ⟨⟨pair.thinned.source, pair.thinned.dest⟩, pair.dest, pair.source⟩

/-! ### Pairs that match -/

/-- Whether the halves under a key fit together: a labelled one is named after its
workload, and a labelled destination's half has a source's half of the same workload. -/
structure Matched (dyn dst : ClusterId) (key : ObjKey) (clusters : Clusters) : Prop where
  named : ∀ rs ∈ replicationSources.under key (clusters dyn), rs.owner ≠ "" → key.name = "portage-" ++ rs.owner
  dest : ∀ rd ∈ replicationDestinations.under key (clusters dst), rd.owner ≠ "" →
    key.name = "portage-" ++ rd.owner ∧ replicationSources.under key (clusters dyn) ≠ [] ∧
      ∀ rs ∈ replicationSources.under key (clusters dyn), rs.owner = rd.owner

section
variable {o : Oracle} {m : Mover} {w : Workload} {home dyn dst : ClusterId} {key : ObjKey} {s t : World}

theorem Matched.held (matched : Matched dyn dst key s.clusters) (held : Held dyn dst key s t) :
    Matched dyn dst key t.clusters := by
  refine ⟨?_, ?_⟩
  · rw [held.source]
    exact matched.named
  · rw [held.source, held.dest]
    exact matched.dest

/-- A deleted pair matches, since no destination's half is left. -/
theorem Matched.dropped (matched : Matched dyn dst key s.clusters) (dropped : Dropped o dyn dst key s t)
    (drops : Drops o dst) : Matched dyn dst key t.clusters := by
  have none := dropped.dest drops
  refine ⟨fun rs member => ?_, fun rd member => ?_⟩
  · rcases dropped.thinned.source with gone | same
    · simp [gone] at member
    · rw [same] at member
      exact matched.named rs member
  · simp [none] at member

theorem owner_written {obj rs : ReplicationSource} {before : List ReplicationSource}
    (member : rs ∈ replicationSources.written obj before) : rs.owner = obj.owner ∧ rs.sourcePVC = obj.sourcePVC := by
  rcases CustomKind.mem_written member with ⟨_, rfl⟩ | ⟨cur, _, rfl⟩ <;> exact ⟨rfl, rfl⟩

theorem Matched.outcome (matched : Matched dyn dst (pairKey w) s.clusters)
    (outcome : PairOutcome o m w home dyn dst s t) (drops : Drops o dst) : Matched dyn dst (pairKey w) t.clusters := by
  cases outcome with
  | held same => exact matched.held same
  | dropped _ _ pair => exact matched.dropped pair drops
  | written _ source dest =>
    have owned : ∀ rs ∈ replicationSources.under (pairKey w) (t.clusters dyn), rs.owner = w.name := by
      rw [source]
      exact fun rs member => (owner_written member).1
    have there : replicationSources.under (pairKey w) (t.clusters dyn) ≠ [] := by
      rw [source]
      exact CustomKind.written_ne_nil _ _
    refine ⟨fun rs member _ => ?_, fun rd member labelled => ?_⟩
    · rw [owned rs member]
      rfl
    · have mine : rd.owner = w.name := by
        rcases dest with same | ⟨mounted, placed⟩
        · rw [same] at member
          have titled := (matched.dest rd member labelled).1
          exact (String.append_right_inj _).mp titled.symm
        · rw [placed] at member
          rcases CustomKind.mem_written member with ⟨_, rfl⟩ | ⟨cur, _, rfl⟩ <;> rfl
      exact ⟨by rw [mine]; rfl, there, fun rs stored => (owned rs stored).trans mine.symm⟩

/-- A Replicate pass in which no delete of a destination's half fails leaves the pairs
that match matching. -/
theorem matched_replicate (still : o.Still) (drops : Drops o dst) (kube : m.kube = some home)
    (source : m.dynamic = some dyn) (dest : m.destDyn = some dst) :
    Moves o (Keeps fun s => Matched dyn dst key s.clusters) (replicate m w) := by
  intro s matched
  by_cases own : key = pairKey w
  · subst own
    exact matched.outcome (replicate_outcome still kube source dest) drops
  · exact matched.held ((apart_replicate still kube w s).held dyn dst own)

end

/-! ### Pruning -/

/-- A labelled ReplicationSource whose workload is not kept, or whose claim is gone. -/
def Stale (home : ClusterId) (ns : String) (keep : List String) (clusters : Clusters) (rs : ReplicationSource) : Prop :=
  rs.owner ≠ "" ∧
    (rs.owner ∉ keep ∨ (rs.sourcePVC ≠ "" ∧ (clusters home).claims ⟨ns, rs.sourcePVC⟩ = none))

/-- From `s` to `t` each half of each pair is gone or as it was, and `home` has claims
under the same keys. -/
structure Shrinks (home dyn dst : ClusterId) (s t : World) : Prop where
  pairs : ∀ key, Thinned dyn dst key s t
  claims : SameClaims (s.clusters home) (t.clusters home)

theorem shrinks_chains (home dyn dst : ClusterId) : Chains (Shrinks home dyn dst) where
  refl _ := ⟨fun key => (thinned_chains dyn dst key).refl _, .refl _⟩
  trans first second := ⟨fun key => (thinned_chains dyn dst key).trans (first.pairs key) (second.pairs key),
    fun key => (second.claims key).trans (first.claims key)⟩

theorem Shrinks.of_eq (same : t.clusters = s.clusters) : Shrinks home dyn dst s t := by
  refine ⟨fun key => ⟨.inr ?_, .inr ?_⟩, ?_⟩
  · rw [same]
  · rw [same]
  · rw [same]
    exact .refl _

theorem mem_under {cluster : Cluster} (member : rs ∈ cluster.replicationSources) :
    rs ∈ replicationSources.under rs.key cluster :=
  List.mem_filter.mpr ⟨member, by simp [replicationSources]⟩

/-- What is left was there. -/
theorem Shrinks.mem (shrunk : Shrinks home dyn dst s t) (member : rs ∈ (t.clusters dyn).replicationSources) :
    rs ∈ (s.clusters dyn).replicationSources := by
  have stored := mem_under member
  rcases (shrunk.pairs rs.key).source with gone | same
  · simp [gone] at stored
  · rw [same] at stored
    exact (List.mem_filter.mp stored).1

theorem SameClaims.stale {ns : String} {keep : List String} {s t : Clusters} (claims : SameClaims (s home) (t home)) :
    Stale home ns keep t rs ↔ Stale home ns keep s rs := by
  have same : (t home).claims ⟨ns, rs.sourcePVC⟩ = none ↔ (s home).claims ⟨ns, rs.sourcePVC⟩ = none := by
    rw [← Option.isNone_iff_eq_none, ← Option.isNone_iff_eq_none, ← Option.not_isSome, ← Option.not_isSome, claims]
  rw [Stale, Stale, same]

/-- What pruning makes of one ReplicationSource: nothing, or the pair of a stale one is
deleted. -/
inductive Pruned (o : Oracle) (home dyn dst : ClusterId) (ns : String) (keep : List String)
    (item : ReplicationSource) (s t : World) : Prop where
  | left (same : t.clusters = s.clusters)
      (fresh : o.Serene → item.key.name ≠ "" → ¬ Stale home ns keep s.clusters item)
  | dropped (stale : Stale home ns keep s.clusters item) (pair : Dropped o dyn dst item.key s t)

section
variable {o : Oracle} {source dest : Endpoint} {home dyn dst : ClusterId} {ns : String} {keep : List String}
  {item : ReplicationSource} {s t : World}

/-- A call that changes nothing may run before. -/
theorem Pruned.after {u : World} (pruned : Pruned o home dyn dst ns keep item t u) (same : t.clusters = s.clusters) :
    Pruned o home dyn dst ns keep item s u := by
  cases pruned with
  | left unchanged fresh => exact .left (unchanged.trans same) (same ▸ fresh)
  | dropped stale pair =>
    refine .dropped (same ▸ stale) ⟨⟨?_, ?_⟩, pair.dest, pair.source⟩
    · rw [← same]
      exact pair.thinned.source
    · rw [← same]
      exact pair.thinned.dest

variable (still : o.Still)
include still

theorem pruned_deletePair (named : ns ≠ "") (here : item.key.namespace_ = ns)
    (stale : Stale home ns keep s.clusters item) :
    Pruned o home dyn dst ns keep item s (deletePair (some dyn) (some dst) item.key o s).2 := by
  by_cases titled : item.key.name = ""
  · exact .left (by simp [deletePair, titled]) fun _ named => absurd titled named
  · exact .dropped stale (dropped_deletePair still (here ▸ named) titled)

theorem pruneOne_outcome (client : source.dynamic = some dyn) (target : destDyn source dest = some dst)
    (named : ns ≠ "") (here : item.key.namespace_ = ns) :
    Pruned o source.kube dyn dst ns keep item s (pruneOne source dest ns keep item o s).2 := by
  unfold pruneOne
  rw [client, target]
  split
  · rename_i unlabelled
    exact .left rfl fun _ _ stale => stale.1 unlabelled
  · rename_i labelled
    split
    · rename_i kept
      have quiet := Moves.clusters_eq still (moves_sourcePVCMissing source.kube ns item.sourcePVC) s
      have wanted : item.owner ∈ keep := by simpa using kept
      simp only [bind_run]
      cases answer : (sourcePVCMissing source.kube ns item.sourcePVC o s).1 with
      | error text =>
        refine .left quiet fun serene => ?_
        simp [sourcePVCMissing_serene serene] at answer
      | ok missing =>
        by_cases data : item.sourcePVC = ""
        · obtain rfl : missing = false := by simpa [sourcePVCMissing, data] using answer.symm
          exact .left quiet fun _ _ stale => stale.2.elim (fun unwanted => unwanted wanted) fun gone => gone.1 data
        · have known := sourcePVCMissing_ok still named data answer
          cases missing with
          | false =>
            refine .left quiet fun _ _ stale => stale.2.elim (fun unwanted => unwanted wanted) fun gone => ?_
            simp [gone.2] at known
          | true =>
            have stale : Stale source.kube ns keep s.clusters item :=
              ⟨labelled, .inr ⟨data, by simpa using known⟩⟩
            rw [← quiet] at stale
            exact (pruned_deletePair still named here stale).after quiet
    · rename_i unwanted
      exact pruned_deletePair still named here ⟨labelled, .inl (by simpa using unwanted)⟩

/-- One step of pruning leaves each half gone or as it was. -/
theorem shrinks_pruneOne (client : source.dynamic = some dyn) (target : destDyn source dest = some dst)
    (named : ns ≠ "") (here : item.key.namespace_ = ns) :
    Shrinks home dyn dst s (pruneOne source dest ns keep item o s).2 := by
  have apart : PairsApart home (· ≠ item.key) s (pruneOne source dest ns keep item o s).2 :=
    apart_pruneOne still source dest ns keep item s
  refine ⟨fun key => ?_, apart.claims⟩
  by_cases own : key = item.key
  · subst own
    have outcome : Pruned o source.kube dyn dst ns keep item s _ := pruneOne_outcome still client target named here
    cases outcome with
    | left same _ =>
      have shrinks : Shrinks home dyn dst s _ := .of_eq same
      exact shrinks.pairs _
    | dropped _ pair => exact pair.thinned
  · have held : Held dyn dst key s _ := apart.held dyn dst own
    exact ⟨.inr held.source, .inr held.dest⟩

/-- What every step of pruning keeps, pruning a namespace keeps. -/
theorem prune_keeps (inv : World → Prop) (client : source.dynamic = some dyn)
    (quiet : ∀ t u : World, u.clusters = t.clusters → inv t → inv u)
    (each : ns ≠ "" → ∀ item ∈ (s.clusters dyn).replicationSources, item.key.namespace_ = ns →
      Moves o (Keeps inv) (pruneOne source dest ns keep item)) (start : inv s) :
    inv (prune source dest ns keep o s).2 := by
  simp only [prune, client]
  split
  · exact start
  · rename_i named
    simp only [bind_run]
    have listed := quiet s _ (Moves.clusters_eq still (moves_listObjects dyn .replicationSources ns
      fun cluster => cluster.replicationSources.filter fun rs => rs.key.namespace_ = ns) s) start
    cases answer : (listObjects dyn .replicationSources ns (fun cluster =>
        cluster.replicationSources.filter fun rs => rs.key.namespace_ = ns) o s).1 with
    | error refused =>
      dsimp only
      split <;> exact listed
    | ok items =>
      have found := listObjects_ok still answer
      refine Moves.foldUntil (keeps_chains _) (fun _ item member => ?_) () _ listed
      rw [found, List.mem_filter] at member
      exact each named item member.1 (by simpa using member.2)

variable (client : source.dynamic = some dyn) (target : destDyn source dest = some dst)
include client target

theorem shrinks_prune : Moves o (Shrinks home dyn dst) (prune source dest ns keep) := by
  intro s
  have chains := shrinks_chains home dyn dst
  refine prune_keeps still (Shrinks home dyn dst s) client (fun t u same shrunk => ?_)
    (fun named item _ here t shrunk => ?_) (chains.refl s)
  · exact chains.trans shrunk (.of_eq same)
  · exact chains.trans shrunk (shrinks_pruneOne still client target named here)

/-- Pruning in which no delete of a destination's half fails leaves all pairs matching. -/
theorem matched_prune (drops : Drops o dst) :
    Moves o (Keeps fun s => ∀ key, Matched dyn dst key s.clusters) (prune source dest ns keep) := by
  intro s start
  refine prune_keeps still (fun t => ∀ key, Matched dyn dst key t.clusters) client
    (fun t u same matched => same ▸ matched) (fun named item member here t matched key => ?_) start
  by_cases own : key = item.key
  · subst own
    have outcome : Pruned o source.kube dyn dst ns keep item t _ := pruneOne_outcome still client target named here
    cases outcome with
    | left same _ => exact same ▸ matched _
    | dropped _ pair => exact (matched _).dropped pair drops
  · have apart : PairsApart source.kube (· ≠ item.key) t (pruneOne source dest ns keep item o t).2 :=
      apart_pruneOne still source dest ns keep item t
    exact (matched key).held (apart.held dyn dst own)

/-- Pruning keeps the pair under a key that has no stale half. -/
theorem held_prune {key : ObjKey} (fresh : ∀ rs ∈ replicationSources.under key (s.clusters dyn),
    key.namespace_ = ns → ¬ Stale source.kube ns keep s.clusters rs) :
    Held dyn dst key s (prune source dest ns keep o s).2 := by
  have chains := held_chains dyn dst key
  refine (prune_keeps still (fun t => Held dyn dst key s t ∧
    SameClaims (s.clusters source.kube) (t.clusters source.kube)) client (fun t u same held => ?_)
    (fun named item member here t held => ?_) ⟨chains.refl s, .refl _⟩).1
  · refine ⟨chains.trans held.1 (.of_eq same), ?_⟩
    rw [same]
    exact held.2
  · have apart : PairsApart source.kube (· ≠ item.key) t (pruneOne source dest ns keep item o t).2 :=
      apart_pruneOne still source dest ns keep item t
    refine ⟨?_, fun place => (apart.claims place).trans (held.2 place)⟩
    by_cases own : key = item.key
    · have outcome : Pruned o source.kube dyn dst ns keep item t _ := pruneOne_outcome still client target named here
      cases outcome with
      | left same _ => exact chains.trans held.1 (.of_eq same)
      | dropped stale _ =>
        rw [held.2.stale] at stale
        exact absurd stale (fresh item (own ▸ mem_under member) (own ▸ here))
    · exact chains.trans held.1 (apart.held dyn dst own)

variable (keep s) in
/-- The loop of a pass in which no call fails deletes the pair of every stale item. -/
theorem prunedItems_serene (serene : o.Serene) (named : ns ≠ "") {items : List ReplicationSource}
    (listed : ∀ item ∈ items, item.key.namespace_ = ns ∧ (item.owner ≠ "" → item.key.name ≠ "")) :
    Shrinks source.kube dyn dst s (Program.foldUntil (fun _ => pruneOne source dest ns keep) items () o s).2 ∧
      ∀ item ∈ items, Stale source.kube ns keep s.clusters item → replicationSources.under item.key
        ((Program.foldUntil (fun _ => pruneOne source dest ns keep) items () o s).2.clusters dyn) = [] := by
  have chains := shrinks_chains source.kube dyn dst
  let inv : List ReplicationSource → Unit → World → Prop := fun done _ t => Shrinks source.kube dyn dst s t ∧
    ∀ item ∈ done, Stale source.kube ns keep s.clusters item → replicationSources.under item.key (t.clusters dyn) = []
  have loop : Holds o (inv [] ()) (Program.foldUntil (fun _ => pruneOne source dest ns keep) items ())
      (Until (fun _ _ => False) (inv items)) := by
    refine Holds.foldUntil inv (fun _ _ => False) items (fun done item rest _ split t before => ?_) ()
    obtain ⟨shrunk, handled⟩ := before
    obtain ⟨here, titled⟩ := listed item (by simp [split])
    have step : Shrinks source.kube dyn dst t (pruneOne source dest ns keep item o t).2 :=
      shrinks_pruneOne still client target named here
    rw [pruneOne_serene serene]
    refine ⟨chains.trans shrunk step, fun other member stale => ?_⟩
    rcases List.mem_append.mp member with earlier | last
    · rcases (step.pairs other.key).source with gone | same
      · exact gone
      · rw [same]
        exact handled other earlier stale
    · obtain rfl := List.mem_singleton.mp last
      have outcome : Pruned o source.kube dyn dst ns keep other t _ := pruneOne_outcome still client target named here
      cases outcome with
      | left _ fresh => exact absurd (shrunk.claims.stale.mpr stale) (fresh serene (titled stale.1))
      | dropped _ pair => exact pair.source serene
  have ended := loop s ⟨chains.refl s, by simp⟩
  cases answer : (Program.foldUntil (fun _ => pruneOne source dest ns keep) items () o s).1 with
  | error stop =>
    rw [answer] at ended
    exact ended.elim
  | ok _ =>
    rw [answer] at ended
    exact ended

/-- Pruning a namespace in which no call fails leaves no stale ReplicationSource there. -/
theorem prune_fresh (serene : o.Serene) (named : ns ≠ "")
    (titled : ∀ rs ∈ (s.clusters dyn).replicationSources, rs.owner ≠ "" → rs.key.name ≠ "") :
    ∀ rs ∈ ((prune source dest ns keep o s).2.clusters dyn).replicationSources, rs.key.namespace_ = ns →
      ¬ Stale source.kube ns keep (prune source dest ns keep o s).2.clusters rs := by
  have world : (prune source dest ns keep o s).2 = (Program.foldUntil (fun _ => pruneOne source dest ns keep)
      ((s.clusters dyn).replicationSources.filter fun rs => rs.key.namespace_ = ns) () o
      { s with calls := s.calls + 1 }).2 := by
    simp only [prune, client, named, if_false, bind_run, listObjects_serene serene]
  have listed : ∀ item ∈ (s.clusters dyn).replicationSources.filter fun rs => rs.key.namespace_ = ns,
      item.key.namespace_ = ns ∧ (item.owner ≠ "" → item.key.name ≠ "") := by
    intro item member
    have inside := List.mem_filter.mp member
    exact ⟨by simpa using inside.2, titled item inside.1⟩
  obtain ⟨shrunk, removed⟩ := prunedItems_serene keep { s with calls := s.calls + 1 } still client target serene named
    listed
  rw [← world] at shrunk removed
  intro rs member here stale
  have first : rs ∈ (s.clusters dyn).replicationSources := shrunk.mem member
  have none := removed rs (List.mem_filter.mpr ⟨first, by simpa using here⟩) (shrunk.claims.stale.mp stale)
  have stored := mem_under member
  simp [none] at stored

end

end Portage.VolSync
