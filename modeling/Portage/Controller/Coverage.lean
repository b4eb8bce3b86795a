import Portage.Controller.Live
import Portage.Movers.Errors
import Portage.Movers.VolSync.Pairs

/-! Which data claims an attested Replicate pass has replicated. The VolSync mover keeps
one pair for the first data claim of a workload, and the pair is named after the
workload alone. -/
namespace Portage

open Go Kube Process Program

/-! ### Clean steps -/

/-- Replicate a workload with a mover that was chosen for it. -/
def replicateOn (calls : MoverCalls) (seen : ReplicateSeen) (w : Workload) (m : Mover) : Prog ReplicateSeen := do
  match ← calls.replicate m w with
  | some text => pure (seen.fail w text)
  | none => do
    let probe ← calls.probe m w
    let status := { statusOf w with
      probe := probe.message, probeOK := probe.ok, message := probe.message, ready := probe.ok }
    let seen := seen.add status
    pure (if !probe.ok ∧ seen.failed = "" then
      { seen with failed := "waiting for replica sync: " ++ probe.message } else seen)

/-- A workload that is neither stateless nor the object graph. -/
def Workload.moved (w : Workload) : Bool := w.cls != .stateless && !w.isObjectGraph

theorem says_select {movers : List Mover} {w : Workload} {override text : String}
    (failed : select movers w override = .error text) : Says text := by
  unfold select at failed
  split at failed
  · split at failed
    · cases failed
      simp [Says]
    · cases failed
  · split at failed <;> cases failed

section
variable {calls : MoverCalls} {env : Env} {graph : GraphSeen} {seen : ReplicateSeen} {w : Workload}

theorem replicateStepWith_some {m : Mover} (moved : w.moved = true)
    (chosen : replicator env.movers env.policy w = some m) :
    replicateStepWith calls env graph seen w = replicateOn calls seen w m := by
  obtain ⟨stateful, apart⟩ : w.cls ≠ .stateless ∧ w.isObjectGraph = false := by
    simpa [Workload.moved] using moved
  unfold replicator at chosen
  split at chosen
  · rename_i m' capability selected
    split at chosen
    · rename_i capable
      obtain rfl := Option.some.inj chosen
      simp only [replicateStepWith, stateful, apart, selected, capable, Bool.false_eq_true, if_false,
        Bool.not_true]
      rfl
    · cases chosen
  · cases chosen

variable (calls graph seen) in
theorem replicateStepWith_none (moved : w.moved = true) (chosen : replicator env.movers env.policy w = none) :
    ∃ text, Says text ∧ replicateStepWith calls env graph seen w = pure (seen.fail w text) := by
  obtain ⟨stateful, apart⟩ : w.cls ≠ .stateless ∧ w.isObjectGraph = false := by
    simpa [Workload.moved] using moved
  simp only [replicateStepWith, stateful, apart, Bool.false_eq_true, if_false]
  unfold replicator at chosen
  split
  · exact ⟨_, says_select ‹_›, rfl⟩
  · exact ⟨_, by simp [Says], rfl⟩
  · rename_i m capability selected
    cases capable : capability.replicate with
    | true => simp [selected, capable] at chosen
    | false => exact ⟨_, by simp [Says], rfl⟩

end

/-! ### What leaves the pairs alone -/

/-- What a plugin does leaves the pairs and the claims of `home` alone. -/
def Kube.Oracle.PluginsApart (o : Oracle) (home : ClusterId) : Prop := ∀ n (clusters : Clusters),
  (∀ c, VolSync.SamePairs (fun _ => True) (clusters c) (o.replicated n clusters c)) ∧
    VolSync.SameClaims (clusters home) (o.replicated n clusters home)

section
variable {o : Oracle} (still : o.Still) {home : ClusterId}
include still

open VolSync (PairsApart apart_chains apart_of_quiet apart_createIn apart_updateIn apart_leaves)

theorem apart_standby (m : Standby.Mover) (src dst : Standby.ClusterHandle) (w : Workload) :
    Moves o (PairsApart home fun _ => True) (Standby.replicate m src dst w) := by
  have chains := apart_chains home fun _ => True
  unfold Standby.replicate
  cases m.destKube with
  | none => exact .pure chains _
  | some dest =>
    refine .andThen chains ?_ fun _ => .andThen chains ?_ fun _ => .andThen chains ?_ fun _ =>
      .andThen chains ?_ fun _ => ?_
    · refine .bind chains (apart_createIn still fun _ => ⟨rfl, rfl, rfl⟩) fun answer => ?_
      cases answer with
      | ok _ => exact .pure chains _
      | error _ =>
        refine apart_leaves still fun before after changed => ?_
        split at changed
        · cases changed
          exact ⟨rfl, rfl, rfl⟩
        · cases changed
    · unfold Standby.ensurePrimaryService
      cases m.kube with
      | none => exact .pure chains _
      | some c => exact apart_createIn still fun _ => ⟨rfl, rfl, rfl⟩
    · exact apart_of_quiet still (Standby.moves_ensureReplicatorRole m w fun _ _ _ _ _ _ => rfl)
    · exact apart_createIn still fun _ => ⟨rfl, rfl, rfl⟩
    · refine .bind chains (apart_of_quiet still (moves_getObject _ _ _ _)) fun answer => ?_
      cases answer with
      | error _ => exact .pure chains _
      | ok sts => exact apart_updateIn still fun _ => ⟨rfl, rfl, rfl⟩

theorem apart_callMover {operation : MoverOp} {m : Mover} {w : Workload} (plugins : o.PluginsApart home) :
    Moves o (PairsApart home fun _ => True) (callMover operation m w) := by
  intro s
  obtain ⟨pairs, claims⟩ := plugins s.calls s.clusters
  have clusters : (callMover operation m w o s).2.clusters = o.replicated s.calls s.clusters := by
    simp [callMover, record, tick, still s.calls s.clusters]
  refine ⟨fun c => ?_, ?_⟩
  · rw [clusters]
    exact pairs c
  · rw [clusters]
    exact claims

theorem apart_syncObjects (dest : Option ClusterId) (objects : List String) :
    Moves o (PairsApart home fun _ => True) (syncObjects dest objects) := by
  cases dest with
  | none => exact .pure (apart_chains home _) _
  | some c =>
    intro s
    by_cases empty : objects = []
    · refine .of_eq ?_
      simp [syncObjects, record, tick, empty, still s.calls s.clusters]
    · have clusters : (syncObjects (some c) objects o s).2.clusters = fun other =>
          if other = c then { s.clusters c with payloads := o.applied s.calls (s.clusters c).payloads }
          else s.clusters other := by
        simp [syncObjects, record, tick, empty, still s.calls s.clusters]
      refine ⟨fun other => ?_, ?_⟩
      · rw [clusters]
        by_cases here : other = c
        · subst here
          simp only [if_true]
          exact ⟨fun _ _ => rfl, fun _ _ => rfl⟩
        · simpa [here] using VolSync.SamePairs.refl _ _
      · rw [clusters]
        by_cases here : home = c
        · subst here
          simp only [if_true]
          exact fun _ => rfl
        · simpa [here] using VolSync.SameClaims.refl _

theorem apart_replicateGraph (env : Env) (seen : GraphSeen) (w : Workload) :
    Moves o (PairsApart home fun _ => True) (replicateGraph env seen w) := by
  have chains := apart_chains home fun _ => True
  refine .bind chains ?_ fun answer => ?_
  · unfold syncClusterObjectsLive writeGraph
    split
    · exact .pure chains _
    · split
      · exact .pure chains _
      · exact apart_syncObjects still _ _
  · cases answer <;> exact .pure chains _

end

/-! ### The workloads that have a pair -/

namespace LiveEnv

variable (env : LiveEnv)

/-- The VolSync mover that stands behind a registered one. -/
def behind : Mover → Option VolSync.Mover
  | .volsync => some env.volsync
  | .rclone => some env.rclone
  | .postgresStreaming | .webhook _ => none

/-- The VolSync mover that replicates a workload, if one does. -/
def volsyncOf (w : Workload) : Option VolSync.Mover :=
  if w.moved then (replicator env.movers env.policy w).bind env.behind else none

/-- A workload whose first data claim is on the source: one that gets a pair. -/
structure Paired (s : World) (w : Workload) : Prop where
  member : w ∈ env.inventory
  handled : (env.volsyncOf w).isSome
  namespaced : w.namespace_ ≠ ""
  data : VolSync.firstDataPVC w.pvcNames ≠ ""
  present : ((s.clusters env.source.kube).claims ⟨w.namespace_, VolSync.firstDataPVC w.pvcNames⟩).isSome

variable {env} {m : Mover} {vs : VolSync.Mover}

theorem behind_kube (found : env.behind m = some vs) : vs.kube = some env.source.kube := by
  cases m <;> cases found <;> rfl

theorem behind_dynamic (found : env.behind m = some vs) : vs.dynamic = env.sourceDyn := by
  cases m <;> cases found <;> rfl

theorem behind_destDyn (found : env.behind m = some vs) : vs.destDyn = env.destinationDyn := by
  have same : env.volsync.destDyn = env.destinationDyn := by
    cases dest : env.destinationDyn with
    | some c => simp [VolSync.Mover.destDyn, volsync, dest]
    | none =>
      have sources : remotePair env.source env.dest = false → env.sourceDyn = none := fun local_ => by
        unfold destinationDyn at dest
        split at dest
        · cases dest
        · simpa [local_] using dest
      cases remote : remotePair env.source env.dest with
      | true =>
        have apart : env.source.kube ≠ env.dest.kube := by simpa [remotePair] using remote
        simp [VolSync.Mover.destDyn, VolSync.Mover.remoteDest, volsync, dest, Ne.symm apart]
      | false => simp [VolSync.Mover.destDyn, volsync, dest, sources remote]
  cases m <;> cases found <;> exact same

/-- What is called for a registered mover is the VolSync mover behind it. -/
theorem replicate_behind (found : env.behind m = some vs) (w : Workload) :
    env.replicate m w = failure <$> VolSync.replicate vs w := by
  cases m <;> cases found <;> rfl

theorem probe_behind (found : env.behind m = some vs) (w : Workload) : env.probe m w = VolSync.probe vs w := by
  cases m <;> cases found <;> rfl

theorem volsyncOf_eq_some {w : Workload} (handled : env.volsyncOf w = some vs) : w.moved = true ∧
    ∃ m, replicator env.movers env.policy w = some m ∧ env.behind m = some vs := by
  unfold volsyncOf at handled
  split at handled
  · exact ⟨‹_›, Option.bind_eq_some_iff.mp handled⟩
  · cases handled

end LiveEnv

section
variable {env : LiveEnv} {o : Oracle} {graph : GraphSeen} {seen : ReplicateSeen} {w : Workload} {s : World}

theorem says_liveReplicate (worded : o.Worded) {m : Mover} {text : String}
    (failed : (env.replicate m w o s).1 = some text) : Says text := by
  have stopped : ∀ {x : Prog (Except String Unit)}, Stops o Says x → (LiveEnv.failure <$> x) = env.replicate m w →
      Says text := by
    intro x stops same
    rw [← same] at failed
    cases answer : (x o s).1 with
    | ok _ => simp [answer, LiveEnv.failure] at failed
    | error reason =>
      obtain rfl : reason = text := by simpa [answer, LiveEnv.failure] using failed
      exact stops s reason answer
  cases m with
  | postgresStreaming => exact stopped (Standby.stops_replicate worded _ _ _ w) rfl
  | volsync => exact stopped (VolSync.stops_replicate _ w) rfl
  | rclone => exact stopped (VolSync.stops_replicate _ w) rfl
  | webhook plugin =>
    have answer : o.mover s.calls = some text := by
      simpa [LiveEnv.replicate, Mover.replicate, callMover, record, tick] using failed
    exact fun empty => worded.plugins s.calls (empty ▸ answer)

/-- A mover that leaves the pass clean has replicated and met its probe. -/
theorem replicateOn_clean (worded : o.Worded) {m : Mover}
    (clean : (replicateOn env.calls seen w m o s).1.failed = "") : seen.failed = "" ∧
      (env.replicate m w o s).1 = none ∧ (env.probe m w o (env.replicate m w o s).2).1.ok = true ∧
      (replicateOn env.calls seen w m o s).2 = (env.probe m w o (env.replicate m w o s).2).2 := by
  have unfolded : replicateOn env.calls seen w m o s = _ := rfl
  cases answer : (env.replicate m w o s).1 with
  | some text =>
    have said := says_liveReplicate worded answer
    simp only [replicateOn, LiveEnv.calls, bind_run, answer, pure_run, ReplicateSeen.fail] at clean
    exact absurd clean said
  | none =>
    cases met : (env.probe m w o (env.replicate m w o s).2).1.ok with
    | true =>
      refine ⟨?_, rfl, rfl, ?_⟩
      · simpa [replicateOn, LiveEnv.calls, answer, met, ReplicateSeen.add] using clean
      · simp [replicateOn, LiveEnv.calls, answer]
    | false =>
      by_cases before : seen.failed = ""
      · simp [replicateOn, LiveEnv.calls, answer, met, ReplicateSeen.add, before] at clean
      · simp [replicateOn, LiveEnv.calls, answer, met, ReplicateSeen.add, before] at clean

theorem addGraph_clean (clean : (seen.addGraph graph).failed = "") : seen.failed = "" := by
  unfold ReplicateSeen.addGraph at clean
  cases shown : graph.status with
  | none =>
    simp only [shown] at clean
    split at clean
    · exact absurd clean (‹_ ∧ _› : _ ∧ _).1
    · exact clean
  | some status =>
    simp only [shown] at clean
    split at clean
    · exact absurd clean (‹_ ∧ _› : _ ∧ _).1
    · exact clean

variable (env graph seen) in
/-- A workload that no mover moves is only looked at. -/
theorem replicateStepWith_unmoved (unmoved : w.moved = false) :
    replicateStepWith env.calls env.toEnv graph seen w = (seen.add <$> destStatelessStatus env.dest.kube w) ∨
      replicateStepWith env.calls env.toEnv graph seen w = pure (seen.addGraph graph) := by
  by_cases stateless : w.cls = .stateless
  · exact .inl (by simp [replicateStepWith, stateless])
  · have objects : w.isObjectGraph = true := by simpa [Workload.moved, stateless] using unmoved
    exact .inr (by simp [replicateStepWith, stateless, objects])

/-- A step that leaves the pass clean found it clean. -/
theorem replicateStep_clean (worded : o.Worded)
    (clean : (replicateStepWith env.calls env.toEnv graph seen w o s).1.failed = "") : seen.failed = "" := by
  cases moved : w.moved with
  | true =>
    cases chosen : replicator env.movers env.policy w with
    | some m =>
      rw [replicateStepWith_some moved chosen] at clean
      exact (replicateOn_clean worded clean).1
    | none =>
      obtain ⟨text, said, same⟩ := replicateStepWith_none env.calls graph seen moved chosen
      rw [same] at clean
      exact absurd clean said
  | false =>
    rcases replicateStepWith_unmoved env graph seen moved with same | same
    · rw [same] at clean
      exact clean
    · rw [same] at clean
      exact addGraph_clean clean

/-- A step for a workload that VolSync does not replicate keeps all pairs. -/
theorem apart_step (still : o.Still) (plugins : o.PluginsApart env.source.kube) (other : env.volsyncOf w = none) :
    Moves o (VolSync.PairsApart env.source.kube fun _ => True) (replicateStepWith env.calls env.toEnv graph seen w) := by
  have chains := VolSync.apart_chains env.source.kube fun _ => True
  cases moved : w.moved with
  | false =>
    rcases replicateStepWith_unmoved env graph seen moved with same | same
    · rw [same]
      exact VolSync.apart_of_quiet still (moves_destStatelessStatus w _)
    · rw [same]
      exact .pure chains _
  | true =>
    cases chosen : replicator env.movers env.policy w with
    | none =>
      obtain ⟨text, _, same⟩ := replicateStepWith_none env.calls graph seen moved chosen
      rw [same]
      exact .pure chains _
    | some m =>
      rw [replicateStepWith_some moved chosen]
      have plain : env.behind m = none := by simpa [LiveEnv.volsyncOf, moved, chosen] using other
      have replicates : Moves o (VolSync.PairsApart env.source.kube fun _ => True) (env.replicate m w) := by
        cases m with
        | postgresStreaming => exact .map (apart_standby still env.standby env.sourceHandle env.destHandle w)
        | webhook plugin => exact apart_callMover still plugins
        | volsync | rclone => cases plain
      have probes : Moves o (VolSync.PairsApart env.source.kube fun _ => True) (env.probe m w) := by
        cases m with
        | postgresStreaming => exact VolSync.apart_of_quiet still (Standby.moves_probe _ w fun _ _ _ _ _ _ => rfl)
        | webhook plugin => exact VolSync.apart_of_quiet still moves_moverProbe
        | volsync | rclone => cases plain
      refine .bind chains replicates fun answer => ?_
      cases answer with
      | some text => exact .pure chains _
      | none => exact .bind chains probes fun _ => .pure chains _

/-- A clean step for a workload that VolSync replicates. -/
theorem volsyncStep_clean (worded : o.Worded) {vs : VolSync.Mover} (handled : env.volsyncOf w = some vs)
    (clean : (replicateStepWith env.calls env.toEnv graph seen w o s).1.failed = "") :
    (VolSync.replicate vs w o s).1 = .ok () ∧
      (VolSync.probe vs w o (VolSync.replicate vs w o s).2).1.ok = true ∧
      (replicateStepWith env.calls env.toEnv graph seen w o s).2 =
        (VolSync.probe vs w o (VolSync.replicate vs w o s).2).2 := by
  obtain ⟨moved, m, chosen, behind⟩ := LiveEnv.volsyncOf_eq_some handled
  rw [replicateStepWith_some moved chosen] at clean ⊢
  obtain ⟨_, done, met, world⟩ := replicateOn_clean worded clean
  rw [LiveEnv.replicate_behind behind, LiveEnv.probe_behind behind] at met world
  rw [LiveEnv.replicate_behind behind] at done
  refine ⟨?_, met, world⟩
  cases answer : (VolSync.replicate vs w o s).1 with
  | ok _ => rfl
  | error text => simp [answer, LiveEnv.failure] at done

end

/-! ### What a clean pass keeps -/

/-- A ReplicationDestination that restores into a claim, or into a volume of its own. -/
def Kube.ReplicationDestination.Restores (rd : ReplicationDestination) (claim : String) : Prop :=
  ∀ transfer ∈ rd.transfer, ∀ pvc ∈ transfer.destinationPVC, pvc = claim

open VolSync (PairsApart Held Thinned Replicated SameClaims replicationSources replicationDestinations firstDataPVC pairKey)

/-- The pair of a workload as a clean pass leaves it. -/
structure PairSettled (v : Workload) (dyn dst : ClusterId) (t : World) : Prop where
  owned : ∀ rs ∈ replicationSources.under (pairKey v) (t.clusters dyn),
    rs.owner = v.name ∧ rs.sourcePVC = firstDataPVC v.pvcNames
  source : ∃ rs, (replicationSources.under (pairKey v) (t.clusters dyn)).head? = some rs ∧
    (rs.lastSyncTime ≠ "" ∨ rs.latestImage = true) ∧
    (rs.lastSyncTime ≠ "" → ∀ rd ∈ replicationDestinations.under (pairKey v) (t.clusters dst),
      rd.Restores (firstDataPVC v.pvcNames))
  dest : ∃ rd, (replicationDestinations.under (pairKey v) (t.clusters dst)).head? = some rd ∧
    (rd.lastSyncTime ≠ "" ∨ rd.latestImage = true)

/-- From `s` to `t` the pair under a key is the same where the pass keeps it. -/
structure Unchanged (env : LiveEnv) (key : ObjKey) (s t : World) : Prop where
  source : ∀ dyn, env.sourceDyn = some dyn →
    replicationSources.under key (t.clusters dyn) = replicationSources.under key (s.clusters dyn)
  dest : ∀ dst, env.destinationDyn = some dst →
    replicationDestinations.under key (t.clusters dst) = replicationDestinations.under key (s.clusters dst)

theorem Unchanged.of_apart {env : LiveEnv} {key : ObjKey} {home : ClusterId} {spared : ObjKey → Prop} {s t : World}
    (apart : PairsApart home spared s t) (here : spared key) : Unchanged env key s t :=
  ⟨fun dyn _ => (apart.pairs dyn).sources key here, fun dst _ => (apart.pairs dst).dests key here⟩

theorem Unchanged.trans {env : LiveEnv} {key : ObjKey} {s t u : World} (first : Unchanged env key s t)
    (second : Unchanged env key t u) : Unchanged env key s u :=
  ⟨fun dyn client => (second.source dyn client).trans (first.source dyn client),
    fun dst client => (second.dest dst client).trans (first.dest dst client)⟩

theorem PairSettled.unchanged {env : LiveEnv} {v : Workload} {dyn dst : ClusterId} {s t : World}
    (settled : PairSettled v dyn dst s) (same : Unchanged env (pairKey v) s t) (source : env.sourceDyn = some dyn)
    (dest : env.destinationDyn = some dst) : PairSettled v dyn dst t := by
  have sources := same.source dyn source
  have dests := same.dest dst dest
  refine ⟨?_, ?_, ?_⟩
  · rw [sources]
    exact settled.owned
  · rw [sources, dests]
    exact settled.source
  · rw [dests]
    exact settled.dest

theorem restores_destination (m : VolSync.Mover) (w : Workload) (rd : ReplicationDestination)
    (same : rd.transfer = (m.destination w (pairName w)).transfer) : rd.Restores (firstDataPVC w.pvcNames) := by
  intro transfer given pvc named
  rw [same, VolSync.Mover.destination, Option.mem_some_iff] at given
  subst given
  split at named
  · split at named
    · cases named
    · simp only [Transfer.destinationPVC, VolSync.Mover.destResticSpec, Option.mem_def] at named
      split at named
      · cases named
      · exact (Option.some.inj named).symm
  · cases named

/-- Writing both halves and meeting the probe settles the pair. -/
theorem settled_of_replicated {m : VolSync.Mover} {w : Workload} {dyn dst : ClusterId} {s t : World}
    (pair : Replicated m w (firstDataPVC w.pvcNames) dyn dst s t)
    {rs : ReplicationSource} {rd : ReplicationDestination}
    (source : (replicationSources.under (pairKey w) (t.clusters dyn)).head? = some rs)
    (synced : rs.lastSyncTime ≠ "" ∨ rs.latestImage = true)
    (dest : (replicationDestinations.under (pairKey w) (t.clusters dst)).head? = some rd)
    (restored : rd.lastSyncTime ≠ "" ∨ rd.latestImage = true) : PairSettled w dyn dst t := by
  refine ⟨fun rs member => ?_, ⟨rs, source, synced, fun dated rd member => ?_⟩, rd, dest, restored⟩
  · rw [pair.source] at member
    rcases VolSync.CustomKind.mem_written member with ⟨_, rfl⟩ | ⟨cur, _, rfl⟩ <;> exact ⟨rfl, rfl⟩
  · rcases pair.dest with ⟨_, waits⟩ | ⟨mounted, written⟩
    · -- the source's half was written with the status it had, which reports no copy
      have stored := List.mem_of_mem_head? source
      rw [pair.source] at stored
      rcases VolSync.CustomKind.mem_written stored with ⟨_, rfl⟩ | ⟨cur, first, rfl⟩
      · exact absurd rfl dated
      · rw [first] at waits
        simp only [Option.any_some, decide_eq_false_iff_not, not_not] at waits
        exact absurd waits dated
    · rw [written] at member
      rcases VolSync.CustomKind.mem_written member with ⟨_, rfl⟩ | ⟨cur, _, rfl⟩ <;>
        exact restores_destination m w _ rfl

/-- The status that a ReplicationSource reports is the one it had, or none. -/
def Carries (first rs : ReplicationSource) : Prop :=
  rs.lastSyncTime = first.lastSyncTime ∧ rs.latestImage = first.latestImage

/-- What a clean pass that is done with some workloads has made of the world `s` that it
started in. A later workload of the same name takes the pair over. -/
structure Kept (env : LiveEnv) (s : World) (done : List Workload) (t : World) : Prop where
  claims : SameClaims (s.clusters env.source.kube) (t.clusters env.source.kube)
  status : ∀ dyn key rs, env.sourceDyn = some dyn → key.namespace_ ≠ "" →
    (replicationSources.under key (t.clusters dyn)).head? = some rs →
    (rs.lastSyncTime = "" ∧ rs.latestImage = false) ∨
      ∃ first, (replicationSources.under key (s.clusters dyn)).head? = some first ∧ Carries first rs
  pairs : ∀ before v after, done = before ++ v :: after → env.Paired s v →
    (∀ u ∈ after, env.Paired s u → pairKey u ≠ pairKey v) →
    ∃ dyn dst, env.sourceDyn = some dyn ∧ env.destinationDyn = some dst ∧ PairSettled v dyn dst t

section
variable {env : LiveEnv} {o : Oracle} {s t u : World} {done : List Workload} {w : Workload}

theorem kept_nil (apart : PairsApart env.source.kube (fun _ => True) s t) : Kept env s [] t := by
  refine ⟨apart.claims, fun dyn key rs _ _ stored => .inr ⟨rs, ?_, rfl, rfl⟩, fun before v after split => ?_⟩
  · rw [← (apart.pairs dyn).sources key trivial]
    exact stored
  · simp at split

private theorem split_concat {α : Type} {done before after : List α} {w v : α}
    (split : done ++ [w] = before ++ v :: after) :
    (after = [] ∧ v = w) ∨ ∃ earlier, after = earlier ++ [w] ∧ done = before ++ v :: earlier := by
  rcases List.eq_nil_or_concat after with rfl | ⟨earlier, final, rfl⟩
  · obtain ⟨_, same⟩ := List.append_inj' split rfl
    exact .inl ⟨rfl, by simpa using same.symm⟩
  · rw [List.concat_eq_append, ← List.cons_append, ← List.append_assoc] at split
    obtain ⟨same, last⟩ := List.append_inj' split rfl
    obtain rfl : w = final := by simpa using last
    exact .inr ⟨earlier, List.concat_eq_append, same⟩

/-- A step for a workload takes its pair over if the workload is paired, and keeps all
other pairs. -/
theorem Kept.step (kept : Kept env s done t)
    (claims : SameClaims (t.clusters env.source.kube) (u.clusters env.source.kube))
    (same : ∀ key, key.namespace_ ≠ "" → (key = pairKey w → ¬ env.Paired s w) → Unchanged env key t u)
    (own : env.Paired s w → ∃ m dyn dst, env.sourceDyn = some dyn ∧ env.destinationDyn = some dst ∧
      Replicated m w (firstDataPVC w.pvcNames) dyn dst t u ∧ PairSettled w dyn dst u) :
    Kept env s (done ++ [w]) u where
  claims key := (claims key).trans (kept.claims key)
  status dyn key rs client named stored := by
    by_cases taken : key = pairKey w ∧ env.Paired s w
    · obtain ⟨rfl, paired⟩ := taken
      obtain ⟨m, dyn', dst, source, _, pair, _⟩ := own paired
      obtain rfl : dyn = dyn' := Option.some.inj (client.symm.trans source)
      have member := List.mem_of_mem_head? stored
      rw [pair.source] at member
      rcases VolSync.CustomKind.mem_written member with ⟨_, rfl⟩ | ⟨cur, first, rfl⟩
      · exact .inl ⟨rfl, rfl⟩
      · exact kept.status dyn _ cur client named first
    · rw [(same key named fun equal paired => taken ⟨equal, paired⟩).source dyn client] at stored
      exact kept.status dyn key rs client named stored
  pairs before v after split paired last := by
    rcases split_concat split with ⟨_, rfl⟩ | ⟨earlier, rfl, parted⟩
    · obtain ⟨_, dyn, dst, source, dest, _, settled⟩ := own paired
      exact ⟨dyn, dst, source, dest, settled⟩
    · obtain ⟨dyn, dst, source, dest, settled⟩ := kept.pairs before v earlier parted paired
        fun u member => last u (by simp [member])
      have other : pairKey v = pairKey w → ¬ env.Paired s w :=
        fun equal taken => last w (by simp) taken equal.symm
      exact ⟨dyn, dst, source, dest, settled.unchanged (same _ paired.namespaced other) source dest⟩

/-- A pair whose probe is met was not thinned out. -/
theorem Unchanged.of_thinned {dyn dst : ClusterId} {key : ObjKey} (thinned : Thinned dyn dst key s t)
    (source : env.sourceDyn = some dyn) (dest : env.destinationDyn = some dst)
    (sources : replicationSources.under key (t.clusters dyn) ≠ [])
    (dests : replicationDestinations.under key (t.clusters dst) ≠ []) : Unchanged env key s t := by
  refine ⟨fun other client => ?_, fun other client => ?_⟩
  · obtain rfl : dyn = other := Option.some.inj (source.symm.trans client)
    exact thinned.source.resolve_left sources
  · obtain rfl : dst = other := Option.some.inj (dest.symm.trans client)
    exact thinned.dest.resolve_left dests

variable (still : o.Still) (worded : o.Worded)
include still

/-- A clean pass over a workload that gets no pair keeps the one under its key. -/
theorem unchanged_unpaired {vs : VolSync.Mover} {m : Mover} (behind : env.behind m = some vs)
    (kept : Kept env s done t) (listed : w ∈ env.inventory) (handled : env.volsyncOf w = some vs)
    (named : w.namespace_ ≠ "") (unpaired : ¬ env.Paired s w)
    (replicated : (VolSync.replicate vs w o t).1 = .ok ())
    (met : (VolSync.probe vs w o (VolSync.replicate vs w o t).2).1.ok = true) :
    Unchanged env (pairKey w) t (VolSync.replicate vs w o t).2 := by
  by_cases idle : firstDataPVC w.pvcNames = ""
  · have apart : PairsApart env.source.kube (fun _ => True) t (VolSync.replicate vs w o t).2 :=
      VolSync.apart_replicate_idle still idle t
    exact .of_apart apart trivial
  · obtain ⟨dyn, dst, rs, rd, source, dest, stored, _, placed, _⟩ := VolSync.probe_ok still met
    have absent : (t.clusters env.source.kube).claims ⟨w.namespace_, firstDataPVC w.pvcNames⟩ = none := by
      have missing : ¬ ((s.clusters env.source.kube).claims ⟨w.namespace_, firstDataPVC w.pvcNames⟩).isSome :=
        fun present => unpaired ⟨listed, by rw [handled]; rfl, named, idle, present⟩
      rw [← kept.claims] at missing
      simpa using missing
    have thinned : Thinned dyn dst (pairKey w) t _ :=
      VolSync.replicate_missing still (LiveEnv.behind_kube behind) source named idle absent replicated
    refine .of_thinned thinned ?_ ?_ (fun empty => ?_) fun empty => ?_
    · rw [← LiveEnv.behind_dynamic behind, source]
    · rw [← LiveEnv.behind_destDyn behind, dest]
    · simp [empty] at stored
    · simp [empty] at placed

include worded

/-- A step that leaves the pass clean. -/
theorem kept_replicateStep {graph : GraphSeen} {seen : ReplicateSeen} (plugins : o.PluginsApart env.source.kube)
    (kept : Kept env s done t) (listed : w ∈ env.inventory)
    (clean : (replicateStepWith env.calls env.toEnv graph seen w o t).1.failed = "") :
    Kept env s (done ++ [w]) (replicateStepWith env.calls env.toEnv graph seen w o t).2 := by
  cases handled : env.volsyncOf w with
  | none =>
    have apart : PairsApart env.source.kube (fun _ => True) t (replicateStepWith env.calls env.toEnv graph seen w o t).2 :=
      apart_step still plugins handled t
    refine kept.step apart.claims (fun key _ _ => .of_apart apart trivial) fun paired => ?_
    have found := paired.handled
    rw [handled] at found
    cases found
  | some vs =>
    obtain ⟨replicated, met, world⟩ := volsyncStep_clean worded handled clean
    obtain ⟨_, m, _, behind⟩ := LiveEnv.volsyncOf_eq_some handled
    have kube := LiveEnv.behind_kube behind
    have apart := VolSync.apart_replicate still kube w t
    have quiet : PairsApart env.source.kube (fun _ => True) (VolSync.replicate vs w o t).2
        (VolSync.probe vs w o (VolSync.replicate vs w o t).2).2 :=
      VolSync.apart_of_quiet still VolSync.quiet_probe _
    rw [world]
    refine kept.step (fun key => (quiet.claims key).trans (apart.claims key)) (fun key named free => ?_) fun paired => ?_
    · have later : Unchanged env key (VolSync.replicate vs w o t).2 _ := .of_apart quiet trivial
      refine Unchanged.trans ?_ later
      by_cases own : key = pairKey w
      · subst own
        exact unchanged_unpaired still behind kept listed handled named (free rfl) replicated met
      · exact .of_apart apart own
    · obtain ⟨dyn, dst, rs, rd, source, dest, stored, synced, placed, restored⟩ := VolSync.probe_ok still met
      have present : ((t.clusters env.source.kube).claims ⟨w.namespace_, firstDataPVC w.pvcNames⟩).isSome := by
        rw [kept.claims]
        exact paired.present
      obtain ⟨dst', dest', pair⟩ :=
        VolSync.replicate_ok still kube source paired.namespaced paired.data present replicated
      obtain rfl : dst = dst' := Option.some.inj (dest.symm.trans dest')
      have client : env.sourceDyn = some dyn := by rw [← LiveEnv.behind_dynamic behind, source]
      have target : env.destinationDyn = some dst := by rw [← LiveEnv.behind_destDyn behind, dest]
      have settled := settled_of_replicated pair stored synced placed restored
      exact ⟨vs, dyn, dst, client, target, pair.before quiet,
        settled.unchanged (.of_apart quiet trivial) client target⟩

end

section
variable {env : LiveEnv} {o : Oracle} {s t : World} {v : Workload} {dyn dst : ClusterId}

/-- The world `u` has the pair of `v` and the claims of the source as `t` has them. -/
private def PairSpared (env : LiveEnv) (v : Workload) (t u : World) : Prop :=
  Unchanged env (pairKey v) t u ∧ SameClaims (t.clusters env.source.kube) (u.clusters env.source.kube)

private theorem PairSpared.apart {spared : ObjKey → Prop} {u x : World} (before : PairSpared env v t u)
    (apart : PairsApart env.source.kube spared u x) (here : spared (pairKey v)) : PairSpared env v t x :=
  ⟨before.1.trans (.of_apart apart here), fun key => (apart.claims key).trans (before.2 key)⟩

private theorem PairSpared.quiet {u x : World} (before : PairSpared env v t u) (same : x.clusters = u.clusters) :
    PairSpared env v t x :=
  before.apart (.of_eq same : PairsApart env.source.kube (fun _ => True) u x) trivial

theorem LiveEnv.Paired.kept (paired : env.Paired s v) : (env.kept v.namespace_).contains v.name := by
  have listed : v.pvcNames ≠ [] := fun empty => paired.data (by simp [empty, firstDataPVC])
  rw [List.contains_iff_mem, Env.kept, List.mem_map]
  exact ⟨v, List.mem_filter.mpr ⟨paired.member, by simp [listed]⟩, rfl⟩

variable (still : o.Still) (paired : env.Paired s v)
  (claims : SameClaims (s.clusters env.source.kube) (t.clusters env.source.kube))
include still paired claims

private theorem spared_pruneOne {ns : String} {item : ReplicationSource} (here : item.key.namespace_ = ns)
    (mine : item.key = pairKey v → item.owner = v.name ∧ item.sourcePVC = firstDataPVC v.pvcNames) :
    Moves o (Keeps (PairSpared env v t)) (pruneOne env.source env.dest ns (env.kept ns) item) := by
  intro u before
  by_cases own : item.key = pairKey v
  · obtain ⟨owner, pvc⟩ := mine own
    obtain rfl : v.namespace_ = ns := by rw [← here, own, pairKey]
    refine before.quiet (VolSync.pruneOne_kept still ?_ paired.namespaced ?_ ?_)
    · rw [owner]
      exact paired.kept
    · rw [pvc]
      exact paired.data
    · rw [pvc, before.2, claims]
      exact paired.present
  · exact before.apart (VolSync.apart_pruneOne still _ _ _ _ item u) (Ne.symm own)

variable (source : env.sourceDyn = some dyn) (settled : PairSettled v dyn dst t)
include source settled

private theorem spared_prune (ns : String) :
    Moves o (Keeps (PairSpared env v t)) (prune env.source env.dest ns (env.kept ns)) := by
  intro u before
  unfold prune
  cases client : env.source.dynamic with
  | none => exact before
  | some c =>
    obtain rfl : c = dyn := by simpa [LiveEnv.sourceDyn, client] using source
    by_cases named : ns = ""
    · simpa [named] using before
    · simp only [named, if_false, bind_run]
      have listed := before.quiet (Moves.clusters_eq still (moves_listObjects c .replicationSources ns
        fun cluster => cluster.replicationSources.filter fun rs => rs.key.namespace_ = ns) u)
      cases answer : (listObjects c .replicationSources ns (fun cluster =>
          cluster.replicationSources.filter fun rs => rs.key.namespace_ = ns) o u).1 with
      | error refused =>
        dsimp only
        split <;> exact listed
      | ok items =>
        have found := listObjects_ok still answer
        have each : ∀ item ∈ items, item.key.namespace_ = ns ∧
            (item.key = pairKey v → item.owner = v.name ∧ item.sourcePVC = firstDataPVC v.pvcNames) := by
          intro item member
          rw [found, List.mem_filter] at member
          refine ⟨by simpa using member.2, fun own => settled.owned item ?_⟩
          rw [← before.1.source c source]
          exact List.mem_filter.mpr ⟨member.1, decide_eq_true own⟩
        exact Moves.foldUntil (keeps_chains _) (fun _ item member =>
          spared_pruneOne still paired claims (each item member).1 (each item member).2) () _ listed

/-- Pruning keeps the pair of a workload whose claim is there. -/
theorem unchanged_pruneVolSync : Unchanged env (pairKey v) t (pruneVolSync env.toEnv o t).2 := by
  have start : PairSpared env v t t := ⟨⟨fun _ _ => rfl, fun _ _ => rfl⟩, .refl _⟩
  have moves : Moves o (Keeps (PairSpared env v t)) (pruneVolSync env.toEnv) :=
    .fold (keeps_chains _) (fun _ ns _ => .bind (keeps_chains _) (spared_prune still paired claims source settled ns)
      fun _ => .pure (keeps_chains _) _) ()
  exact (moves t start).1

end

/-! ### Attested passes -/

theorem attested_clean {env : Env} {act : Action} {seen : ReplicateSeen}
    (attested : (replicateResult env act seen).attestation.isSome) : seen.failed = "" := by
  by_contra failed
  unfold replicateResult at attested
  split at attested
  · cases attested
  · split at attested <;> cases attested

section
variable {env : LiveEnv} {act : Action} {o : Oracle} {s : World} (still : o.Still) (worded : o.Worded)
  (plugins : o.PluginsApart env.source.kube)
include still worded plugins

/-- An attested pass was clean over the whole inventory. -/
theorem kept_attested (attested : (env.runReplicate act o s).1.attestation.isSome) :
    ∃ t, Kept env s env.inventory t ∧ (env.runReplicate act o s).2 = (pruneVolSync env.toEnv o t).2 := by
  have graphs : PairsApart env.source.kube (fun _ => True) s (Program.fold (replicateGraph env.toEnv)
      (env.inventory.filter Workload.isObjectGraph) {} o s).2 :=
    Moves.fold (VolSync.apart_chains _ _) (fun seen w _ => apart_replicateGraph still env.toEnv seen w) {} s
  have walk : ∀ graph, Holds o (fun t => Kept env s [] t)
      (Program.fold (replicateStepWith env.calls env.toEnv graph) env.inventory {})
      fun seen t => seen.failed = "" → Kept env s env.inventory t := by
    intro graph t start
    refine Holds.fold (fun done (seen : ReplicateSeen) t => seen.failed = "" → Kept env s done t) env.inventory
      (fun done w rest seen split t before clean => ?_) {} t fun _ => start
    have listed : w ∈ env.inventory := by simp [split]
    exact kept_replicateStep still worded plugins (before (replicateStep_clean worded clean)) listed clean
  exact ⟨_, walk _ _ (kept_nil graphs) (attested_clean attested), rfl⟩

end

namespace LiveEnv

variable (env : LiveEnv)

/-- A data claim of a workload that VolSync replicates, and that is on the source. -/
structure DataClaim (s : World) (w : Workload) (claim : String) : Prop where
  member : w ∈ env.inventory
  handled : (env.volsyncOf w).isSome
  namespaced : w.namespace_ ≠ ""
  listed : claim ∈ w.pvcNames
  data : claim ≠ "" ∧ scratchPVCName claim = false
  present : ((s.clusters env.source.kube).claims ⟨w.namespace_, claim⟩).isSome

/-- The pair under a key copies a claim out and has restored a copy. -/
def Carried (t : World) (key : ObjKey) (claim : String) : Prop :=
  ∃ dyn dst rs rd, env.sourceDyn = some dyn ∧ env.destinationDyn = some dst ∧
    replicationSources.find key (t.clusters dyn) = some rs ∧ rs.sourcePVC = claim ∧ rs.lastSyncTime ≠ "" ∧
    replicationDestinations.find key (t.clusters dst) = some rd ∧
    (rd.lastSyncTime ≠ "" ∨ rd.latestImage = true) ∧ rd.Restores claim

/-- From `s` to `t` each data claim came under a pair that was kept for a workload of its
namespace, and that has copied and restored it. -/
def EveryClaimCarried (s t : World) : Prop := ∀ w claim, env.DataClaim s w claim →
  ∃ v, env.Paired s v ∧ v.namespace_ = w.namespace_ ∧ env.Carried t (pairKey v) claim

/-- A workload that has a pair for its first data claim, which no later workload of the
same name takes over, and whose stored half does not report an image in place of a time. -/
structure HoldsPair (s : World) (v : Workload) (claim : String) : Prop where
  paired : env.Paired s v
  last : ∃ before after, env.inventory = before ++ v :: after ∧
    ∀ u ∈ after, env.Paired s u → pairKey u ≠ pairKey v
  first : firstDataPVC v.pvcNames = claim
  dated : ∀ dyn rs, env.sourceDyn = some dyn → replicationSources.find (pairKey v) (s.clusters dyn) = some rs →
    rs.latestImage = true → rs.lastSyncTime ≠ ""

/-- Each data claim is the one that a workload of its namespace holds the pair for. -/
def EveryClaimFirst (s : World) : Prop := ∀ w claim, env.DataClaim s w claim →
  ∃ v, v.namespace_ = w.namespace_ ∧ env.HoldsPair s v claim

end LiveEnv

/-- The last element of a list with a property. -/
private theorem exists_last {α : Type} {p : α → Prop} {xs : List α} (some_ : ∃ x ∈ xs, p x) :
    ∃ before y after, xs = before ++ y :: after ∧ p y ∧ ∀ z ∈ after, ¬ p z := by
  induction xs with
  | nil => simp at some_
  | cons head rest ih =>
    by_cases later : ∃ y ∈ rest, p y
    · obtain ⟨before, y, after, split, holds, last⟩ := ih later
      exact ⟨head :: before, y, after, by simp [split], holds, last⟩
    · obtain ⟨x, member, holds⟩ := some_
      rcases List.mem_cons.mp member with rfl | inside
      · exact ⟨[], x, rest, rfl, holds, fun z inside other => later ⟨z, inside, other⟩⟩
      · exact absurd ⟨x, inside, holds⟩ later

section
variable {env : LiveEnv} {act : Action} {o : Oracle} {s : World} (still : o.Still) (worded : o.Worded)
  (plugins : o.PluginsApart env.source.kube)
include still worded plugins

/-- The pair that an attested pass leaves for the workload that holds it. -/
theorem carried_iff (attested : (env.runReplicate act o s).1.attestation.isSome) {v : Workload} {claim : String}
    {before after : List Workload} (split : env.inventory = before ++ v :: after) (paired : env.Paired s v)
    (last : ∀ u ∈ after, env.Paired s u → pairKey u ≠ pairKey v) :
    env.Carried (env.runReplicate act o s).2 (pairKey v) claim ↔ env.HoldsPair s v claim := by
  obtain ⟨t, kept, world⟩ := kept_attested still worded plugins attested
  obtain ⟨dyn, dst, source, dest, settled⟩ := kept.pairs before v after split paired last
  have pruned := unchanged_pruneVolSync still paired kept.claims source settled
  rw [← world] at pruned
  have final := settled.unchanged pruned source dest
  have status : ∀ rs, replicationSources.find (pairKey v) ((env.runReplicate act o s).2.clusters dyn) = some rs →
      (rs.lastSyncTime = "" ∧ rs.latestImage = false) ∨
        ∃ first, replicationSources.find (pairKey v) (s.clusters dyn) = some first ∧ Carries first rs := by
    intro rs stored
    rw [VolSync.CustomKind.find_eq, pruned.source dyn source] at stored
    rw [VolSync.CustomKind.find_eq]
    exact kept.status dyn _ rs source paired.namespaced stored
  constructor
  · rintro ⟨dyn', dst', rs, rd, source', _, stored, pvc, dated, _⟩
    obtain rfl : dyn = dyn' := Option.some.inj (source.symm.trans source')
    have member := List.mem_of_mem_head? ((VolSync.CustomKind.find_eq _ _).symm.trans stored)
    refine ⟨paired, ⟨before, after, split, last⟩, (final.owned rs member).2.symm.trans pvc, fun dyn' first client found _ => ?_⟩
    obtain rfl : dyn = dyn' := Option.some.inj (source.symm.trans client)
    rcases status rs stored with ⟨blank, _⟩ | ⟨first', found', same, _⟩
    · exact absurd blank dated
    · obtain rfl : first = first' := Option.some.inj (found.symm.trans found')
      rwa [← same]
  · intro holds
    obtain ⟨rs, stored, synced, restores⟩ := final.source
    obtain ⟨rd, placed, restored⟩ := final.dest
    have member := List.mem_of_mem_head? stored
    have dated : rs.lastSyncTime ≠ "" := by
      rcases status rs ((VolSync.CustomKind.find_eq _ _).trans stored) with ⟨blank, none⟩ | ⟨first, found, same, image⟩
      · exact synced.elim id fun shown => by simp [none] at shown
      · refine synced.elim id fun shown => ?_
        rw [same]
        exact holds.dated dyn first source found (image ▸ shown)
    refine ⟨dyn, dst, rs, rd, source, dest, (VolSync.CustomKind.find_eq _ _).trans stored, ?_, dated,
      (VolSync.CustomKind.find_eq _ _).trans placed, restored, ?_⟩
    · rw [(final.owned rs member).2, holds.first]
    · rw [← holds.first]
      exact restores dated rd (List.mem_of_mem_head? placed)

/-- An attested pass has replicated every data claim exactly when each is the first data
claim of a workload that holds its pair. -/
theorem everyClaimCarried_iff (attested : (env.runReplicate act o s).1.attestation.isSome) :
    env.EveryClaimCarried s (env.runReplicate act o s).2 ↔ env.EveryClaimFirst s := by
  constructor
  · intro carried w claim data
    obtain ⟨u, paired, here, pair⟩ := carried w claim data
    have taken : ∃ v ∈ env.inventory, env.Paired s v ∧ pairKey v = pairKey u := ⟨u, paired.member, paired, rfl⟩
    obtain ⟨before, v, after, split, ⟨paired', same⟩, last⟩ := exists_last taken
    rw [← same, carried_iff still worded plugins attested split paired'
      fun z inside other equal => last z inside ⟨other, equal.trans same⟩] at pair
    refine ⟨v, ?_, pair⟩
    rw [← here]
    exact congrArg ObjKey.namespace_ same
  · intro first w claim data
    obtain ⟨v, here, holds⟩ := first w claim data
    obtain ⟨before, after, split, last⟩ := holds.last
    exact ⟨v, holds.paired, here,
      (carried_iff still worded plugins attested split holds.paired last).mpr holds⟩

end

/-! ### A database and a web server -/

/-- A workload `db` of some kind with the given claims. -/
def dbWorkload (kind : String) (claims : List String) : Workload :=
  { namespace_ := "shop", name := "db", kind, cls := .genericPVC, pvcNames := claims }

/-- The database, and a web server that keeps files. -/
def shopWorkloads : List Workload :=
  [dbWorkload "StatefulSet" ["data-db-0"], { dbWorkload "Deployment" ["files"] with name := "web" }]

/-- A pass between two clusters over the given inventory. -/
def dbEnv (inventory : List Workload) : LiveEnv :=
  { source := { kube := 0, dynamic := some 0 }, dest := { kube := 1, dynamic := some 1 }, inventory }

/-- Three claims on the source, and a pair for each of the given workloads that has synced
the claim beside it. -/
def syncedWorld (pairs : List (String × String)) : World where
  clusters c :=
    if c = 0 then
      { claims := fun key =>
          if key.namespace_ = "shop" ∧ ["data-db-0", "wal-db-0", "files"].contains key.name then some {} else none
        namespaces := fun name => if name = "shop" then some {} else none
        replicationSources := pairs.map fun (owner, claim) =>
          { key := ⟨"shop", "portage-" ++ owner⟩, owner, sourcePVC := claim, lastSyncTime := "2025-01-01T00:00:00Z" } }
    else if c = 1 then
      { namespaces := fun name => if name = "shop" then some {} else none
        replicationDestinations := pairs.map fun (owner, _) =>
          { key := ⟨"shop", "portage-" ++ owner⟩, owner, lastSyncTime := "2025-01-01T00:05:00Z", finished := [1]
            reported := fun _ => List.cons_ne_nil _ _ } }
    else {}
  action := { spec := { type := .replicate, policyRef := "shop" } }

def dbWorld : World := syncedWorld [("db", "data-db-0")]

def shopWorld : World := syncedWorld [("db", "data-db-0"), ("web", "files")]

theorem plain_worded : ({} : Oracle).Worded where
  faults := by
    intro n req fault failed
    cases failed
  plugins := by
    intro n failed
    cases failed

theorem plain_pluginsApart (home : ClusterId) : ({} : Oracle).PluginsApart home :=
  fun _ _ => ⟨fun _ => .refl _ _, .refl _⟩

/-- With one claim for each workload the pass is attested and every claim is replicated. -/
theorem everyClaimCarried_shop : (dbEnv shopWorkloads).EveryClaimCarried shopWorld
    ((dbEnv shopWorkloads).runReplicate shopWorld.action {} shopWorld).2 := by
  refine (everyClaimCarried_iff serene_default.still plain_worded (plain_pluginsApart _) (by decide +kernel)).mpr ?_
  intro w claim data
  have unimaged : ∀ rs ∈ (shopWorld.clusters 0).replicationSources, rs.latestImage = false := by decide +kernel
  have dated (dyn : ClusterId) (rs : ReplicationSource) (client : (dbEnv shopWorkloads).sourceDyn = some dyn)
      (found : replicationSources.find (pairKey w) (shopWorld.clusters dyn) = some rs) (image : rs.latestImage = true) :
      rs.lastSyncTime ≠ "" := by
    obtain rfl : 0 = dyn := Option.some.inj client
    rw [unimaged rs (List.mem_of_find?_eq_some found)] at image
    cases image
  have paired (first : firstDataPVC w.pvcNames = claim) : (dbEnv shopWorkloads).Paired shopWorld w :=
    ⟨data.member, data.handled, data.namespaced, first ▸ data.data.1, first ▸ data.present⟩
  rcases List.mem_cons.mp data.member with rfl | second
  · obtain rfl := List.mem_singleton.mp data.listed
    refine ⟨_, rfl, paired rfl, ⟨[], _, rfl, fun u other _ => ?_⟩, rfl, dated⟩
    obtain rfl := List.mem_singleton.mp other
    decide
  · obtain rfl := List.mem_singleton.mp second
    obtain rfl := List.mem_singleton.mp data.listed
    exact ⟨_, rfl, paired rfl, ⟨[_], [], rfl, by simp⟩, rfl, dated⟩

/-- An attested pass that leaves a data claim out of every ReplicationSource. -/
def LeavesClaim (inventory : List Workload) (w : Workload) (claim : String) : Prop :=
  let env := dbEnv inventory
  (env.runReplicate dbWorld.action {} dbWorld).1.attestation.isSome ∧ env.DataClaim dbWorld w claim ∧
    ∀ rs ∈ ((env.runReplicate dbWorld.action {} dbWorld).2.clusters 0).replicationSources, rs.sourcePVC ≠ claim

/-- The second claim of a StatefulSet has no pair, and neither has the claim of a
Deployment that a StatefulSet shares its name with. -/
theorem claims_left : LeavesClaim [dbWorkload "StatefulSet" ["data-db-0", "wal-db-0"]]
      (dbWorkload "StatefulSet" ["data-db-0", "wal-db-0"]) "wal-db-0" ∧
    LeavesClaim [dbWorkload "Deployment" ["files"], dbWorkload "StatefulSet" ["data-db-0"]]
      (dbWorkload "Deployment" ["files"]) "files" := by
  refine ⟨⟨by decide +kernel, ?_, by decide +kernel⟩, by decide +kernel, ?_, by decide +kernel⟩
  · exact ⟨by simp [dbEnv], by decide +kernel, by decide, by simp [dbWorkload], by decide +kernel, by decide +kernel⟩
  · exact ⟨by simp [dbEnv], by decide +kernel, by decide, by simp [dbWorkload], by decide +kernel, by decide +kernel⟩

end Portage
