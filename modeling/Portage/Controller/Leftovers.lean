import Portage.Controller.Coverage
import Portage.Movers.VolSync.Leftovers
import Portage.Process.Run

/-! Runs of Replicate and Prune passes in which calls may fail, and what a Replicate
reconcile in which no call fails makes of the pairs that they leave. -/
namespace Portage

open Go Kube Process Program
open VolSync (PairsApart Dropped Held Matched PairOutcome SameClaims Shrinks Stale Thinned firstDataPVC held_chains pairKey
  replicationDestinations replicationSources)

/-! ### Runs -/

/-- What happens to the pairs of two clusters: a Replicate pass of a workload, a Prune
pass of a namespace, or claims come and go and VolSync reports. -/
inductive PairPass where
  | replicate (m : VolSync.Mover) (w : Workload) (o : Oracle)
  | prune (source dest : Endpoint) (ns : String) (keep : List String) (o : Oracle)
  | outside (clusters : Clusters)

/-- What a report of VolSync leaves alone. -/
def Kube.ReplicationSource.title (rs : ReplicationSource) : ObjKey × String × String :=
  (rs.key, rs.owner, rs.sourcePVC)

@[inherit_doc Kube.ReplicationSource.title]
def Kube.ReplicationDestination.title (rd : ReplicationDestination) : ObjKey × String := (rd.key, rd.owner)

/-- The halves on `dyn` and `dst` are the same but for what VolSync reports. -/
structure Reported (dyn dst : ClusterId) (before after : Clusters) : Prop where
  sources : (after dyn).replicationSources.map ReplicationSource.title =
    (before dyn).replicationSources.map ReplicationSource.title
  dests : (after dst).replicationDestinations.map ReplicationDestination.title =
    (before dst).replicationDestinations.map ReplicationDestination.title

namespace PairPass

def after (s : World) : PairPass → World
  | replicate m w o => (VolSync.replicate m w o s).2
  | prune source dest ns keep o => (Portage.prune source dest ns keep o s).2
  | outside clusters => { s with clusters }

/-- A pass between the same two clusters, while nobody else writes there. -/
def Between (home dyn dst : ClusterId) (s : World) : PairPass → Prop
  | replicate m _ o => o.Still ∧ m.kube = some home ∧ m.dynamic = some dyn ∧ m.destDyn = some dst
  | prune source dest _ _ o =>
    o.Still ∧ source.kube = home ∧ source.dynamic = some dyn ∧ destDyn source dest = some dst
  | outside clusters => Reported dyn dst s.clusters clusters

/-- In the pass no delete of a destination's half fails without effect. -/
def Drops (dst : ClusterId) : PairPass → Prop
  | replicate _ _ o | prune _ _ _ _ o => VolSync.Drops o dst
  | outside _ => True

/-- The pass has no reason to remove the pair under a key: the claim of its workload is
there, and its source's half is not stale. -/
def Wants (home dyn : ClusterId) (key : ObjKey) (s : World) : PairPass → Prop
  | replicate _ w _ => pairKey w = key → firstDataPVC w.pvcNames ≠ "" →
      ((s.clusters home).claims ⟨w.namespace_, firstDataPVC w.pvcNames⟩).isSome
  | prune _ _ ns keep _ => key.namespace_ = ns → ∀ rs ∈ replicationSources.under key (s.clusters dyn),
      ¬ Stale home ns keep s.clusters rs
  | outside _ => True

end PairPass

/-- A step of a run over the pairs. -/
abbrev PairsStep := Step World PairPass World

/-- A run of passes over the pairs. -/
abbrev PairsRun (start : World) : List PairsStep → World → Prop :=
  Run (fun s (pass : PairPass) => some (pass.after s)) (fun _ _ after => after) start

/-- From `s` to `t` each half under a key that was there still is. -/
structure Lives (dyn dst : ClusterId) (key : ObjKey) (s t : World) : Prop where
  source : replicationSources.under key (s.clusters dyn) ≠ [] → replicationSources.under key (t.clusters dyn) ≠ []
  dest : replicationDestinations.under key (s.clusters dst) ≠ [] →
    replicationDestinations.under key (t.clusters dst) ≠ []

/-- From `s` to `t` the halves under a key are the same but for what VolSync reports. -/
structure SameTitles (dyn dst : ClusterId) (key : ObjKey) (s t : World) : Prop where
  sources : (replicationSources.under key (t.clusters dyn)).map ReplicationSource.title =
    (replicationSources.under key (s.clusters dyn)).map ReplicationSource.title
  dests : (replicationDestinations.under key (t.clusters dst)).map ReplicationDestination.title =
    (replicationDestinations.under key (s.clusters dst)).map ReplicationDestination.title

section
variable {dyn dst home : ClusterId} {key : ObjKey} {s t u : World} {o : Oracle}

theorem lives_chains (dyn dst : ClusterId) (key : ObjKey) : Chains (Lives dyn dst key) where
  refl _ := ⟨id, id⟩
  trans first second := ⟨second.source ∘ first.source, second.dest ∘ first.dest⟩

theorem sameTitles_chains (dyn dst : ClusterId) (key : ObjKey) : Chains (SameTitles dyn dst key) where
  refl _ := ⟨rfl, rfl⟩
  trans first second := ⟨second.sources.trans first.sources, second.dests.trans first.dests⟩

theorem SameTitles.of_held (held : Held dyn dst key s t) : SameTitles dyn dst key s t := by
  refine ⟨?_, ?_⟩
  · rw [held.source]
  · rw [held.dest]

theorem SameTitles.lives (same : SameTitles dyn dst key s t) : Lives dyn dst key s t := by
  refine ⟨fun there gone => there ?_, fun there gone => there ?_⟩
  · simpa [gone] using same.sources.symm
  · simpa [gone] using same.dests.symm

theorem Lives.of_held (held : Held dyn dst key s t) : Lives dyn dst key s t := (SameTitles.of_held held).lives

/-- The items under a key, by what is left of them in a list of titles. -/
private theorem map_under {α β : Type} (place : α → ObjKey) (title : α → β) (first : β → ObjKey)
    (placed : ∀ item, first (title item) = place item) (key : ObjKey) (items : List α) :
    (Keyed.under place key items).map title = (items.map title).filter fun item => first item = key := by
  rw [List.filter_map, Keyed.under]
  congr 2
  funext item
  simp [placed]

theorem SameTitles.of_reported (reported : Reported dyn dst s.clusters t.clusters) : SameTitles dyn dst key s t := by
  have sources := fun items => map_under ReplicationSource.key ReplicationSource.title Prod.fst (fun _ => rfl) key items
  have dests := fun items => map_under ReplicationDestination.key ReplicationDestination.title Prod.fst
    (fun _ => rfl) key items
  refine ⟨?_, ?_⟩
  · rw [VolSync.CustomKind.under, VolSync.CustomKind.under]
    exact (sources _).trans ((congrArg _ reported.sources).trans (sources _).symm)
  · rw [VolSync.CustomKind.under, VolSync.CustomKind.under]
    exact (dests _).trans ((congrArg _ reported.dests).trans (dests _).symm)

/-- Halves that match do so whatever VolSync reports of them. -/
theorem SameTitles.matched (same : SameTitles dyn dst key s t) (matched : Matched dyn dst key s.clusters) :
    Matched dyn dst key t.clusters := by
  have source : ∀ rs ∈ replicationSources.under key (t.clusters dyn),
      ∃ before ∈ replicationSources.under key (s.clusters dyn), before.title = rs.title := by
    intro rs member
    have titled := List.mem_map_of_mem (f := ReplicationSource.title) member
    rw [same.sources] at titled
    exact List.mem_map.mp titled
  refine ⟨fun rs member labelled => ?_, fun rd member labelled => ?_⟩
  · obtain ⟨before, stored, title⟩ := source rs member
    obtain ⟨_, owner, _⟩ : before.key = rs.key ∧ before.owner = rs.owner ∧ before.sourcePVC = rs.sourcePVC := by
      simpa [ReplicationSource.title] using title
    rw [← owner] at labelled ⊢
    exact matched.named before stored labelled
  · have titled := List.mem_map_of_mem (f := ReplicationDestination.title) member
    rw [same.dests] at titled
    obtain ⟨old, stored, title⟩ := List.mem_map.mp titled
    obtain ⟨_, owner⟩ : old.key = rd.key ∧ old.owner = rd.owner := by
      simpa [ReplicationDestination.title] using title
    rw [← owner] at labelled ⊢
    obtain ⟨named, there, owned⟩ := matched.dest old stored labelled
    refine ⟨named, same.lives.source there, fun rs inside => ?_⟩
    obtain ⟨before, kept, title⟩ := source rs inside
    obtain ⟨_, mine, _⟩ : before.key = rs.key ∧ before.owner = rs.owner ∧ before.sourcePVC = rs.sourcePVC := by
      simpa [ReplicationSource.title] using title
    exact mine.symm.trans (owned before kept)

end

/-! ### What a pass keeps -/

section
variable {dyn dst home : ClusterId} {key : ObjKey} {s : World} {pass : PairPass}

theorem PairPass.matched (between : pass.Between home dyn dst s) (drops : pass.Drops dst)
    (matched : ∀ key, Matched dyn dst key s.clusters) : ∀ key, Matched dyn dst key (pass.after s).clusters := by
  cases pass with
  | replicate m w o =>
    obtain ⟨still, kube, source, dest⟩ := between
    exact fun key => VolSync.matched_replicate still drops kube source dest s (matched key)
  | prune source dest ns keep o =>
    obtain ⟨still, _, client, target⟩ := between
    exact VolSync.matched_prune still client target drops s matched
  | outside clusters =>
    have same : ∀ key, SameTitles dyn dst key s { s with clusters } := fun key => .of_reported between
    exact fun key => (same key).matched (matched key)

/-- The pair of a workload whose claim is there outlives its Replicate pass. -/
theorem Lives.of_outcome {m : VolSync.Mover} {w : Workload} {o : Oracle} {t : World}
    (outcome : PairOutcome o m w home dyn dst s t) (present : firstDataPVC w.pvcNames ≠ "" →
      ((s.clusters home).claims ⟨w.namespace_, firstDataPVC w.pvcNames⟩).isSome) :
    Lives dyn dst (pairKey w) s t := by
  cases outcome with
  | held same => exact .of_held same
  | written _ source dest =>
    refine ⟨fun _ => ?_, fun there => ?_⟩
    · rw [source]
      exact VolSync.CustomKind.written_ne_nil _ _
    · rcases dest with same | ⟨mounted, placed⟩
      · rwa [same]
      · rw [placed]
        exact VolSync.CustomKind.written_ne_nil _ _
  | dropped data gone _ =>
    have there := present data
    rw [gone] at there
    cases there

theorem PairPass.lives (between : pass.Between home dyn dst s) (wants : pass.Wants home dyn key s) :
    Lives dyn dst key s (pass.after s) := by
  cases pass with
  | replicate m w o =>
    obtain ⟨still, kube, source, dest⟩ := between
    by_cases own : key = pairKey w
    · subst own
      exact .of_outcome (VolSync.replicate_outcome still kube source dest) (wants rfl)
    · exact .of_held ((VolSync.apart_replicate still kube w s).held dyn dst own)
  | prune source dest ns keep o =>
    obtain ⟨still, rfl, client, target⟩ := between
    exact .of_held (VolSync.held_prune still client target fun rs member here => wants here rs member)
  | outside clusters =>
    have same : SameTitles dyn dst key s { s with clusters } := .of_reported between
    exact same.lives

/-- A name that no pair has. -/
def Foreign (key : ObjKey) : Prop := ∀ owner, key.name ≠ "portage-" ++ owner

theorem Foreign.fresh (foreign : Foreign key) (matched : Matched dyn dst key s.clusters) {ns : String}
    {keep : List String} {rs : ReplicationSource} (member : rs ∈ replicationSources.under key (s.clusters dyn)) :
    ¬ Stale home ns keep s.clusters rs := fun stale => foreign _ (matched.named rs member stale.1)

theorem PairPass.sameTitles (between : pass.Between home dyn dst s) (foreign : Foreign key)
    (matched : Matched dyn dst key s.clusters) : SameTitles dyn dst key s (pass.after s) := by
  cases pass with
  | replicate m w o =>
    obtain ⟨still, kube, source, dest⟩ := between
    have other : key ≠ pairKey w := fun own => foreign w.name (by rw [own]; rfl)
    exact .of_held ((VolSync.apart_replicate still kube w s).held dyn dst other)
  | prune source dest ns keep o =>
    obtain ⟨still, rfl, client, target⟩ := between
    exact .of_held (VolSync.held_prune still client target fun rs member _ => foreign.fresh matched member)
  | outside clusters => exact .of_reported between

end

section
variable {dyn dst home : ClusterId} {key : ObjKey} {start state : World} {steps : List PairsStep}

theorem run_matched (run : PairsRun start steps state)
    (between : ∀ step ∈ steps, step.input.Between home dyn dst step.before)
    (drops : ∀ step ∈ steps, step.input.Drops dst) (matched : ∀ key, Matched dyn dst key start.clusters) :
    ∀ key, Matched dyn dst key state.clusters := by
  induction run with
  | nil => exact matched
  | snoc earlier taken ih =>
    obtain rfl := Option.some.inj taken
    refine PairPass.matched (between _ (List.mem_concat_self ..)) (drops _ (List.mem_concat_self ..)) (ih ?_ ?_)
    · exact fun step member => between step (List.mem_append_left _ member)
    · exact fun step member => drops step (List.mem_append_left _ member)

theorem run_lives (run : PairsRun start steps state)
    (between : ∀ step ∈ steps, step.input.Between home dyn dst step.before)
    (wants : ∀ step ∈ steps, step.input.Wants home dyn key step.before) : Lives dyn dst key start state := by
  induction run with
  | nil => exact (lives_chains dyn dst key).refl _
  | snoc earlier taken ih =>
    obtain rfl := Option.some.inj taken
    refine (lives_chains dyn dst key).trans (ih ?_ ?_)
      (PairPass.lives (between _ (List.mem_concat_self ..)) (wants _ (List.mem_concat_self ..)))
    · exact fun step member => between step (List.mem_append_left _ member)
    · exact fun step member => wants step (List.mem_append_left _ member)

theorem run_sameTitles (run : PairsRun start steps state)
    (between : ∀ step ∈ steps, step.input.Between home dyn dst step.before)
    (drops : ∀ step ∈ steps, step.input.Drops dst) (matched : ∀ key, Matched dyn dst key start.clusters)
    (foreign : Foreign key) : SameTitles dyn dst key start state := by
  induction run with
  | nil => exact (sameTitles_chains dyn dst key).refl _
  | snoc earlier taken ih =>
    obtain rfl := Option.some.inj taken
    have before := fun step member => between step (List.mem_append_left _ member)
    have dropped := fun step member => drops step (List.mem_append_left _ member)
    exact (sameTitles_chains dyn dst key).trans (ih before dropped)
      (PairPass.sameTitles (between _ (List.mem_concat_self ..)) foreign
        (run_matched earlier before dropped matched key))

end

/-! ### A reconcile in which no call fails -/

section
variable {env : LiveEnv} {o : Oracle} {dyn dst : ClusterId} {graph : GraphSeen} {seen : ReplicateSeen}
  {w : Workload} {s : World}

theorem LiveEnv.sourceDyn_eq (client : env.source.dynamic = some dyn) : env.sourceDyn = some dyn := by
  simp [LiveEnv.sourceDyn, client]

theorem LiveEnv.destinationDyn_eq (client : env.source.dynamic = some dyn)
    (target : destDyn env.source env.dest = some dst) : env.destinationDyn = some dst := by
  unfold destDyn at target
  unfold LiveEnv.destinationDyn
  split
  · rename_i c found
    simpa [found] using target
  · rename_i missing
    simp only [missing] at target
    split
    · rename_i remote
      simp [remote] at target
    · rename_i local_
      simpa [local_, LiveEnv.sourceDyn, client] using target

/-- The step of a workload that VolSync replicates leaves what its Replicate pass leaves. -/
theorem volsyncStep_clusters (still : o.Still) {vs : VolSync.Mover} (handled : env.volsyncOf w = some vs) :
    (replicateStepWith env.calls env.toEnv graph seen w o s).2.clusters =
      (VolSync.replicate vs w o s).2.clusters := by
  obtain ⟨moved, m, chosen, behind⟩ := LiveEnv.volsyncOf_eq_some handled
  rw [replicateStepWith_some moved chosen]
  simp only [replicateOn, LiveEnv.calls, bind_run, LiveEnv.replicate_behind behind, LiveEnv.probe_behind behind, map_run]
  cases LiveEnv.failure (VolSync.replicate vs w o s).1 with
  | some text => rfl
  | none => exact Moves.clusters_eq still VolSync.quiet_probe _

/-- The VolSync mover behind a workload works between the two clusters. -/
theorem LiveEnv.volsyncOf_clients {vs : VolSync.Mover} (client : env.source.dynamic = some dyn)
    (target : destDyn env.source env.dest = some dst) (handled : env.volsyncOf w = some vs) :
    vs.kube = some env.source.kube ∧ vs.dynamic = some dyn ∧ vs.destDyn = some dst := by
  obtain ⟨_, m, _, behind⟩ := LiveEnv.volsyncOf_eq_some handled
  exact ⟨LiveEnv.behind_kube behind, (LiveEnv.behind_dynamic behind).trans (LiveEnv.sourceDyn_eq client),
    (LiveEnv.behind_destDyn behind).trans (LiveEnv.destinationDyn_eq client target)⟩

/-- What the step of a workload makes of the pairs: those of other names are as they
were, and the one of the workload is if VolSync does not replicate it. -/
structure Stepped (env : LiveEnv) (o : Oracle) (dyn dst : ClusterId) (w : Workload) (s t : World) : Prop where
  claims : SameClaims (s.clusters env.source.kube) (t.clusters env.source.kube)
  others : ∀ key, key ≠ pairKey w → Held dyn dst key s t
  own : Held dyn dst (pairKey w) s t ∨
    (env.volsyncOf w).isSome ∧ ∃ m, PairOutcome o m w env.source.kube dyn dst s t
  gone : o.Serene → (env.volsyncOf w).isSome → w.namespace_ ≠ "" → firstDataPVC w.pvcNames ≠ "" →
    (s.clusters env.source.kube).claims ⟨w.namespace_, firstDataPVC w.pvcNames⟩ = none →
    Dropped o dyn dst (pairKey w) s t

variable (client : env.source.dynamic = some dyn) (target : destDyn env.source env.dest = some dst)
include client target

theorem stepped_replicateStep (still : o.Still) (plugins : o.PluginsApart env.source.kube) :
    Stepped env o dyn dst w s (replicateStepWith env.calls env.toEnv graph seen w o s).2 := by
  cases handled : env.volsyncOf w with
  | none =>
    have apart : PairsApart env.source.kube (fun _ => True) s (replicateStepWith env.calls env.toEnv graph seen w o s).2 :=
      apart_step still plugins handled s
    refine ⟨apart.claims, fun key _ => apart.held dyn dst trivial, .inl (apart.held dyn dst trivial), ?_⟩
    intro _ moved
    rw [handled] at moved
    cases moved
  | some vs =>
    obtain ⟨kube, source, dest⟩ := LiveEnv.volsyncOf_clients client target handled
    have same : (replicateStepWith env.calls env.toEnv graph seen w o s).2.clusters = _ :=
      volsyncStep_clusters still handled
    have apart := VolSync.apart_replicate still kube w s
    have later : PairsApart env.source.kube (fun _ => True) (VolSync.replicate vs w o s).2
        (replicateStepWith env.calls env.toEnv graph seen w o s).2 := .of_eq same
    refine ⟨fun key => (later.claims key).trans (apart.claims key), fun key other => ?_,
      .inr ⟨by rw [handled]; rfl, vs, ?_⟩, fun serene _ named data absent => ?_⟩
    · exact (held_chains dyn dst key).trans (apart.held dyn dst other) (later.held dyn dst trivial)
    · exact (VolSync.replicate_outcome still kube source dest).before (later.held dyn dst trivial)
    · have pair := VolSync.dropped_replicate serene kube source dest named data absent
      refine ⟨⟨?_, ?_⟩, ?_, ?_⟩
      · rw [same]
        exact pair.thinned.source
      · rw [same]
        exact pair.thinned.dest
      · rw [same]
        exact pair.dest
      · rw [same]
        exact pair.source

end

/-- The part of a Replicate reconcile before it prunes. -/
def LiveEnv.walk (env : LiveEnv) : Prog ReplicateSeen := do
  let graph ← Program.fold (replicateGraph env.toEnv) (env.inventory.filter Workload.isObjectGraph) {}
  Program.fold (replicateStepWith env.calls env.toEnv graph) env.inventory {}

theorem LiveEnv.runReplicate_world (env : LiveEnv) (act : Action) (o : Oracle) (s : World) :
    (env.runReplicate act o s).2 = (pruneVolSync env.toEnv o (env.walk o s).2).2 := rfl

section
variable {env : LiveEnv} {o : Oracle} {dyn dst : ClusterId} {s : World} (serene : o.Serene)
  (plugins : o.PluginsApart env.source.kube) (client : env.source.dynamic = some dyn)
  (target : destDyn env.source env.dest = some dst)
include serene plugins client target

/-- A loop invariant of the walk that knows which workloads it is done with. -/
theorem walk_holds (inv : List Workload → World → Prop)
    (graph : ∀ t, PairsApart env.source.kube (fun _ => True) s t → inv [] t)
    (each : ∀ done w t u, w ∈ env.inventory → Stepped env o dyn dst w t u → inv done t → inv (done ++ [w]) u) :
    inv env.inventory (env.walk o s).2 := by
  have graphs : PairsApart env.source.kube (fun _ => True) s (Program.fold (replicateGraph env.toEnv)
      (env.inventory.filter Workload.isObjectGraph) {} o s).2 :=
    Moves.fold (VolSync.apart_chains _ _) (fun seen w _ => apart_replicateGraph serene.still env.toEnv seen w) {} s
  refine Holds.fold (fun done (_ : ReplicateSeen) t => inv done t) env.inventory
    (fun done w rest seen split t before => ?_) {} _ (graph _ graphs)
  exact each done w t _ (by simp [split]) (stepped_replicateStep client target serene.still plugins) before

/-- The same without the history. -/
theorem walk_keeps (inv : World → Prop) (graph : ∀ t, PairsApart env.source.kube (fun _ => True) s t → inv t)
    (each : ∀ w t u, w ∈ env.inventory → Stepped env o dyn dst w t u → inv t → inv u) : inv (env.walk o s).2 :=
  walk_holds serene plugins client target (fun _ t => inv t) graph fun _ w t u => each w t u

theorem walk_matched (matched : ∀ key, Matched dyn dst key s.clusters) :
    ∀ key, Matched dyn dst key (env.walk o s).2.clusters := by
  refine walk_keeps serene plugins client target (fun t => ∀ key, Matched dyn dst key t.clusters)
    (fun t apart key => (matched key).held (apart.held dyn dst trivial)) fun w t u _ step before key => ?_
  by_cases own : key = pairKey w
  · subst own
    rcases step.own with held | ⟨_, m, outcome⟩
    · exact (before _).held held
    · exact (before _).outcome outcome (VolSync.drops_of_serene serene dst)
  · exact (before key).held (step.others key own)

theorem walk_claims : SameClaims (s.clusters env.source.kube) ((env.walk o s).2.clusters env.source.kube) :=
  walk_keeps serene plugins client target
    (fun t => SameClaims (s.clusters env.source.kube) (t.clusters env.source.kube)) (fun _ apart => apart.claims)
    fun _ _ _ _ step before key => (step.claims key).trans (before key)

/-- The pass has no reason to remove the pair under a key. -/
structure LiveEnv.Wants (env : LiveEnv) (dyn : ClusterId) (key : ObjKey) (s : World) : Prop where
  present : ∀ w ∈ env.inventory, (env.volsyncOf w).isSome → pairKey w = key → firstDataPVC w.pvcNames ≠ "" →
    ((s.clusters env.source.kube).claims ⟨w.namespace_, firstDataPVC w.pvcNames⟩).isSome
  fresh : ∀ rs ∈ replicationSources.under key (s.clusters dyn),
    ¬ Stale env.source.kube key.namespace_ (env.kept key.namespace_) s.clusters rs

omit serene plugins client target in
theorem Env.mem_kept {env : Env} {w : Workload} (member : w ∈ env.inventory) (data : firstDataPVC w.pvcNames ≠ "") :
    w.name ∈ env.kept w.namespace_ := by
  have listed : w.pvcNames ≠ [] := fun empty => data (by simp [empty, firstDataPVC])
  exact List.mem_map.mpr ⟨w, List.mem_filter.mpr ⟨member, by simp [listed]⟩, rfl⟩

omit serene plugins client target in
/-- The pair that a workload of the inventory leaves is not stale. -/
theorem LiveEnv.Wants.outcome {m : VolSync.Mover} {w : Workload} {t u : World}
    (wants : env.Wants dyn (pairKey w) s) (member : w ∈ env.inventory) (handled : (env.volsyncOf w).isSome)
    (claims : SameClaims (s.clusters env.source.kube) (t.clusters env.source.kube))
    (outcome : PairOutcome o m w env.source.kube dyn dst t u)
    (fresh : ∀ rs ∈ replicationSources.under (pairKey w) (t.clusters dyn),
      ¬ Stale env.source.kube w.namespace_ (env.kept w.namespace_) s.clusters rs) :
    Lives dyn dst (pairKey w) t u ∧ ∀ rs ∈ replicationSources.under (pairKey w) (u.clusters dyn),
      ¬ Stale env.source.kube w.namespace_ (env.kept w.namespace_) s.clusters rs := by
  have present := wants.present w member handled rfl
  refine ⟨.of_outcome outcome fun data => ?_, fun rs stored => ?_⟩
  · rw [claims]
    exact present data
  · cases outcome with
    | held same =>
      rw [same.source] at stored
      exact fresh rs stored
    | written data source _ =>
      rw [source] at stored
      obtain ⟨owner, pvc⟩ := VolSync.owner_written stored
      rintro ⟨_, unwanted | ⟨_, absent⟩⟩
      · rw [owner] at unwanted
        exact unwanted (Env.mem_kept member data)
      · have there := present data
        rw [pvc] at absent
        change (s.clusters env.source.kube).claims ⟨w.namespace_, firstDataPVC w.pvcNames⟩ = none at absent
        simp [absent] at there
    | dropped data absent _ =>
      have there := present data
      rw [← claims, absent] at there
      cases there

/-- The walk keeps a pair that the pass has no reason to remove, and leaves it so. -/
theorem walk_wants {key : ObjKey} (wants : env.Wants dyn key s) :
    Lives dyn dst key s (env.walk o s).2 ∧ env.Wants dyn key (env.walk o s).2 := by
  have chains := lives_chains dyn dst key
  suffices rest : SameClaims (s.clusters env.source.kube) ((env.walk o s).2.clusters env.source.kube) ∧
      Lives dyn dst key s (env.walk o s).2 ∧ ∀ rs ∈ replicationSources.under key ((env.walk o s).2.clusters dyn),
        ¬ Stale env.source.kube key.namespace_ (env.kept key.namespace_) s.clusters rs by
    obtain ⟨kept, lives, fresh⟩ := rest
    refine ⟨lives, fun w member handled own data => ?_, fun rs member stale => ?_⟩
    · rw [kept]
      exact wants.present w member handled own data
    · exact fresh rs member (kept.stale.mp stale)
  refine walk_keeps serene plugins client target
    (fun t => SameClaims (s.clusters env.source.kube) (t.clusters env.source.kube) ∧ Lives dyn dst key s t ∧
      ∀ rs ∈ replicationSources.under key (t.clusters dyn),
        ¬ Stale env.source.kube key.namespace_ (env.kept key.namespace_) s.clusters rs)
    (fun t apart => ?_) fun w t u member step before => ?_
  · have held : Held dyn dst key s t := apart.held dyn dst trivial
    refine ⟨apart.claims, .of_held held, ?_⟩
    rw [held.source]
    exact wants.fresh
  · obtain ⟨claims, lives, fresh⟩ := before
    refine ⟨fun place => (step.claims place).trans (claims place), ?_⟩
    have unchanged : Held dyn dst key t u → Lives dyn dst key s u ∧
        ∀ rs ∈ replicationSources.under key (u.clusters dyn),
          ¬ Stale env.source.kube key.namespace_ (env.kept key.namespace_) s.clusters rs := by
      intro held
      refine ⟨chains.trans lives (.of_held held), ?_⟩
      rw [held.source]
      exact fresh
    by_cases own : key = pairKey w
    · subst own
      rcases step.own with held | ⟨handled, m, outcome⟩
      · exact unchanged held
      · obtain ⟨later, still⟩ := wants.outcome member handled claims outcome fresh
        exact ⟨chains.trans lives later, still⟩
    · exact unchanged (step.others key own)

/-- The walk removes the pair of a workload whose claim is gone, if no other workload of
the name has one. -/
theorem walk_gone {w : Workload} (member : w ∈ env.inventory) (handled : (env.volsyncOf w).isSome)
    (named : w.namespace_ ≠ "") (data : firstDataPVC w.pvcNames ≠ "")
    (gone : ∀ v ∈ env.inventory, (env.volsyncOf v).isSome → pairKey v = pairKey w → firstDataPVC v.pvcNames ≠ "" →
      (s.clusters env.source.kube).claims ⟨v.namespace_, firstDataPVC v.pvcNames⟩ = none) :
    replicationSources.under (pairKey w) ((env.walk o s).2.clusters dyn) = [] ∧
      replicationDestinations.under (pairKey w) ((env.walk o s).2.clusters dst) = [] := by
  have drops := VolSync.drops_of_serene serene dst
  refine (walk_holds serene plugins client target (s := s) (fun done t =>
    SameClaims (s.clusters env.source.kube) (t.clusters env.source.kube) ∧
      (w ∈ done → replicationSources.under (pairKey w) (t.clusters dyn) = [] ∧
        replicationDestinations.under (pairKey w) (t.clusters dst) = []))
    (fun t apart => ⟨apart.claims, by simp⟩) fun done v t u listed step before => ?_).2 member
  obtain ⟨claims, removed⟩ := before
  refine ⟨fun place => (step.claims place).trans (claims place), fun inside => ?_⟩
  -- a workload of the same name that has data claims removes the pair
  have absent : pairKey v = pairKey w → (env.volsyncOf v).isSome → firstDataPVC v.pvcNames ≠ "" →
      Dropped o dyn dst (pairKey v) t u := by
    intro same moved wanted
    have places : v.namespace_ = w.namespace_ := congrArg ObjKey.namespace_ same
    have here : v.namespace_ ≠ "" := by rwa [places]
    refine step.gone serene moved here wanted ?_
    have missing := claims ⟨v.namespace_, firstDataPVC v.pvcNames⟩
    rw [gone v listed moved same wanted] at missing
    simpa using missing
  by_cases own : pairKey v = pairKey w
  · by_cases drop : (env.volsyncOf v).isSome ∧ firstDataPVC v.pvcNames ≠ ""
    · have pair := absent own drop.1 drop.2
      rw [own] at pair
      exact ⟨pair.source serene, pair.dest drops⟩
    · have earlier : w ∈ done := by
        rcases List.mem_append.mp inside with earlier | last
        · exact earlier
        · obtain rfl := List.mem_singleton.mp last
          exact absurd ⟨handled, data⟩ drop
      have held : Held dyn dst (pairKey w) t u := by
        rw [← own]
        rcases step.own with held | ⟨moved, m, outcome⟩
        · exact held
        · cases outcome with
          | held same => exact same
          | written wanted => exact absurd ⟨moved, wanted⟩ drop
          | dropped wanted => exact absurd ⟨moved, wanted⟩ drop
      rw [held.source, held.dest]
      exact removed earlier
  · have earlier : w ∈ done := by
      rcases List.mem_append.mp inside with earlier | last
      · exact earlier
      · obtain rfl := List.mem_singleton.mp last
        exact absurd rfl own
    have held := step.others (pairKey w) (Ne.symm own)
    rw [held.source, held.dest]
    exact removed earlier

/-- The walk leaves what is under a name that no pair has. -/
theorem walk_foreign {key : ObjKey} (foreign : Foreign key) : Held dyn dst key s (env.walk o s).2 := by
  refine walk_keeps serene plugins client target (fun t => Held dyn dst key s t)
    (fun t apart => apart.held dyn dst trivial) fun w t u _ step before => ?_
  have other : key ≠ pairKey w := fun own => foreign w.name (by rw [own]; rfl)
  exact (held_chains dyn dst key).trans before (step.others key other)

end

section
variable {env : LiveEnv} {o : Oracle} {dyn dst : ClusterId} {s : World} (still : o.Still)
  (client : env.source.dynamic = some dyn) (target : destDyn env.source env.dest = some dst)
include still client target

theorem shrinks_pruneVolSync : Moves o (Shrinks env.source.kube dyn dst) (pruneVolSync env.toEnv) :=
  have chains := VolSync.shrinks_chains env.source.kube dyn dst
  .fold chains (fun _ _ _ => .bind chains (VolSync.shrinks_prune still client target) fun _ => .pure chains _) ()

theorem matched_pruneVolSync (drops : VolSync.Drops o dst) :
    Moves o (Keeps fun s => ∀ key, Matched dyn dst key s.clusters) (pruneVolSync env.toEnv) :=
  .fold (keeps_chains _) (fun _ _ _ => .bind (keeps_chains _) (VolSync.matched_prune still client target drops)
    fun _ => .pure (keeps_chains _) _) ()

/-- Pruning keeps the pair under a key that has no stale half. -/
theorem held_pruneVolSync {key : ObjKey} (fresh : ∀ rs ∈ replicationSources.under key (s.clusters dyn),
    ¬ Stale env.source.kube key.namespace_ (env.kept key.namespace_) s.clusters rs) :
    Held dyn dst key s (pruneVolSync env.toEnv o s).2 := by
  have chains := held_chains dyn dst key
  let inv : World → Prop := fun t => Held dyn dst key s t ∧
    SameClaims (s.clusters env.source.kube) (t.clusters env.source.kube)
  have keeps : Moves o (Keeps inv) (pruneVolSync env.toEnv) := by
    refine .fold (keeps_chains _) (fun _ ns _ => .bind (keeps_chains _) (fun t before => ?_)
      fun _ => .pure (keeps_chains _) _) ()
    obtain ⟨held, claims⟩ := before
    have shrunk : Shrinks env.source.kube dyn dst t (prune env.source env.dest ns (env.kept ns) o t).2 :=
      VolSync.shrinks_prune still client target t
    refine ⟨chains.trans held (VolSync.held_prune still client target ?_),
      fun place => (shrunk.claims place).trans (claims place)⟩
    rintro rs member rfl stale
    rw [held.source] at member
    exact fresh rs member (claims.stale.mp stale)
  exact (keeps s ⟨chains.refl s, .refl _⟩).1

omit still in
/-- Pruning in which no call fails leaves no stale ReplicationSource in a namespace that
the Policy covers. -/
theorem pruneVolSync_fresh (serene : o.Serene) (matched : ∀ key, Matched dyn dst key s.clusters) {ns : String}
    (covered : ns ∈ env.namespaces) (named : ns ≠ "") :
    ∀ rs ∈ ((pruneVolSync env.toEnv o s).2.clusters dyn).replicationSources, rs.key.namespace_ = ns →
      ¬ Stale env.source.kube ns (env.kept ns) (pruneVolSync env.toEnv o s).2.clusters rs := by
  have chains := VolSync.shrinks_chains env.source.kube dyn dst
  have each : ∀ (_ : Unit), ∀ ns ∈ env.namespaces, Moves o (Shrinks env.source.kube dyn dst) (do
      let _ ← prune env.source env.dest ns (env.kept ns)
      pure ()) :=
    fun _ _ _ => .bind chains (VolSync.shrinks_prune serene.still client target) fun _ => .pure chains _
  obtain ⟨_, t, before, after⟩ := fold_visits chains each () s covered
  have titled : ∀ rs ∈ (t.clusters dyn).replicationSources, rs.owner ≠ "" → rs.key.name ≠ "" := by
    intro rs member labelled
    rw [(matched rs.key).named rs (VolSync.mem_under (before.mem member)) labelled]
    simp
  intro rs member here stale
  exact VolSync.prune_fresh serene.still client target serene named titled rs (after.mem member) here
    (after.claims.stale.mp stale)

end

/-! ### After a run -/

/-- What is left of the pairs in the namespaces that the Policy covers: no source's half
is stale, each destination's half belongs to one, and a workload whose claim is gone has
neither, if no other workload of its name has a claim. -/
structure Tidy (env : LiveEnv) (dyn dst : ClusterId) (t : World) : Prop where
  sources : ∀ rs ∈ (t.clusters dyn).replicationSources, rs.key.namespace_ ∈ env.namespaces →
    rs.key.namespace_ ≠ "" → ¬ Stale env.source.kube rs.key.namespace_ (env.kept rs.key.namespace_) t.clusters rs
  dests : ∀ rd ∈ (t.clusters dst).replicationDestinations, rd.key.namespace_ ∈ env.namespaces →
    rd.key.namespace_ ≠ "" → rd.owner ≠ "" → rd.owner ∈ env.kept rd.key.namespace_ ∧
      ∃ rs ∈ (t.clusters dyn).replicationSources, rs.key = rd.key ∧ rs.owner = rd.owner ∧
        ¬ Stale env.source.kube rd.key.namespace_ (env.kept rd.key.namespace_) t.clusters rs
  missing : ∀ w ∈ env.inventory, (env.volsyncOf w).isSome → w.namespace_ ≠ "" → firstDataPVC w.pvcNames ≠ "" →
    (∀ v ∈ env.inventory, (env.volsyncOf v).isSome → pairKey v = pairKey w → firstDataPVC v.pvcNames ≠ "" →
      (t.clusters env.source.kube).claims ⟨v.namespace_, firstDataPVC v.pvcNames⟩ = none) →
    replicationSources.under (pairKey w) (t.clusters dyn) = [] ∧
      replicationDestinations.under (pairKey w) (t.clusters dst) = []

section
variable {env : LiveEnv} {act : Action} {o : Oracle} {dyn dst : ClusterId} {s : World} (serene : o.Serene)
  (plugins : o.PluginsApart env.source.kube) (client : env.source.dynamic = some dyn)
  (target : destDyn env.source env.dest = some dst)
include serene plugins client target

theorem runReplicate_tidy (matched : ∀ key, Matched dyn dst key s.clusters) :
    Tidy env dyn dst (env.runReplicate act o s).2 := by
  have walked := walk_matched serene plugins client target matched
  have pruned := matched_pruneVolSync serene.still client target (VolSync.drops_of_serene serene dst) _ walked
  have shrunk : Shrinks env.source.kube dyn dst (env.walk o s).2 _ :=
    shrinks_pruneVolSync serene.still client target (env.walk o s).2
  have fresh : ∀ rs ∈ ((env.runReplicate act o s).2.clusters dyn).replicationSources,
      rs.key.namespace_ ∈ env.namespaces → rs.key.namespace_ ≠ "" →
      ¬ Stale env.source.kube rs.key.namespace_ (env.kept rs.key.namespace_) _ rs :=
    fun rs member covered named => pruneVolSync_fresh client target serene walked covered named rs member rfl
  refine ⟨fresh, fun rd member covered named labelled => ?_, fun w member handled named data gone => ?_⟩
  · have stored : rd ∈ replicationDestinations.under rd.key ((env.runReplicate act o s).2.clusters dst) :=
      List.mem_filter.mpr ⟨member, by simp [replicationDestinations]⟩
    obtain ⟨_, there, owned⟩ := (pruned rd.key).dest rd stored labelled
    obtain ⟨rs, inside⟩ := List.exists_mem_of_ne_nil _ there
    obtain ⟨listed, here⟩ := List.mem_filter.mp inside
    have same : rs.key = rd.key := of_decide_eq_true here
    have owner : rs.owner = rd.owner := owned rs inside
    have kept := fresh rs listed (same ▸ covered) (same ▸ named)
    rw [same] at kept
    refine ⟨?_, rs, listed, same, owner, kept⟩
    by_contra unwanted
    refine kept ⟨?_, .inl ?_⟩
    · rwa [owner]
    · rwa [owner]
  · have claims : SameClaims (s.clusters env.source.kube) _ := fun place =>
      (shrunk.claims place).trans (walk_claims serene plugins client target place)
    obtain ⟨source, dest⟩ := walk_gone serene plugins client target member handled named data
      fun v listed moved same wanted => by
        have absent := claims ⟨v.namespace_, firstDataPVC v.pvcNames⟩
        rw [← env.runReplicate_world act, gone v listed moved same wanted] at absent
        simpa using absent.symm
    refine ⟨(shrunk.pairs _).source.elim id fun same => ?_, (shrunk.pairs _).dest.elim id fun same => ?_⟩
    · exact same.trans source
    · exact same.trans dest

theorem runReplicate_lives {key : ObjKey} (wants : env.Wants dyn key s) :
    Lives dyn dst key s (env.runReplicate act o s).2 := by
  obtain ⟨lives, kept⟩ := walk_wants serene plugins client target wants
  exact (lives_chains dyn dst key).trans lives (.of_held (held_pruneVolSync serene.still client target kept.fresh))

theorem runReplicate_foreign {key : ObjKey} (foreign : Foreign key) (matched : Matched dyn dst key s.clusters) :
    SameTitles dyn dst key s (env.runReplicate act o s).2 := by
  have walked := walk_foreign serene plugins client target (s := s) foreign
  refine .of_held ((held_chains dyn dst key).trans walked (held_pruneVolSync serene.still client target ?_))
  exact fun rs member => foreign.fresh (matched.held walked) member

end

/-- After a run of Replicate and Prune passes in which no delete of a destination's half
fails without effect, a reconcile in which no call fails leaves no pair whose workload or
claim is gone, keeps the pairs that no pass had a reason to remove, and leaves alone what
is under other names than those of pairs. -/
theorem run_tidied {env : LiveEnv} {act : Action} {o : Oracle} {dyn dst : ClusterId} {start state : World}
    {steps : List PairsStep} (run : PairsRun start steps state)
    (matched : ∀ key, Matched dyn dst key start.clusters)
    (between : ∀ step ∈ steps, step.input.Between env.source.kube dyn dst step.before)
    (drops : ∀ step ∈ steps, step.input.Drops dst) (serene : o.Serene)
    (plugins : o.PluginsApart env.source.kube) (client : env.source.dynamic = some dyn)
    (target : destDyn env.source env.dest = some dst) :
    Tidy env dyn dst (env.runReplicate act o state).2 ∧
      (∀ key, (∀ step ∈ steps, step.input.Wants env.source.kube dyn key step.before) → env.Wants dyn key state →
        Lives dyn dst key start (env.runReplicate act o state).2) ∧
      ∀ key, Foreign key → SameTitles dyn dst key start (env.runReplicate act o state).2 := by
  have reached := run_matched run between drops matched
  refine ⟨runReplicate_tidy serene plugins client target reached, fun key wanted wants => ?_, fun key foreign => ?_⟩
  · exact (lives_chains dyn dst key).trans (run_lives run between wanted)
      (runReplicate_lives serene plugins client target wants)
  · exact (sameTitles_chains dyn dst key).trans (run_sameTitles run between drops matched foreign)
      (runReplicate_foreign serene plugins client target foreign (reached key))

/-! ### A database that leaves -/

/-- A reconcile of a Policy that covers the shop. -/
private def shopEnv (inventory : List Workload) : LiveEnv :=
  { dbEnv inventory with policy := { spec := { selectorNamespaces := ["shop"] } } }

/-- The two halves of a pair, and the claims on the source. -/
private def shopPair (rs : ReplicationSource) (rd : ReplicationDestination) (claims : List String) : World where
  clusters c :=
    if c = 0 then
      { claims := fun key => if key.namespace_ = "shop" ∧ claims.contains key.name then some {} else none
        namespaces := fun name => if name = "shop" then some {} else none
        replicationSources := [rs] }
    else
      { namespaces := fun name => if name = "shop" then some {} else none
        replicationDestinations := [rd] }
  action := { spec := { type := .replicate, policyRef := "shop" } }

private def dbSource (claim : String) : ReplicationSource :=
  { key := ⟨"shop", "portage-db"⟩, owner := "db", sourcePVC := claim }

private def dbDestination (owner : String) : ReplicationDestination :=
  { key := ⟨"shop", "portage-db"⟩, owner, reported := fun done => (by decide : ¬("" ≠ "" ∨ false = true)).elim done }

private theorem matched_shopPair (claim owner : String) (claims : List String) (own : owner = "db" ∨ owner = "")
    (key : ObjKey) : Matched 0 1 key (shopPair (dbSource claim) (dbDestination owner) claims).clusters := by
  have single : ∀ rs ∈ replicationSources.under key
      ((shopPair (dbSource claim) (dbDestination owner) claims).clusters 0),
      rs = dbSource claim ∧ key = ⟨"shop", "portage-db"⟩ := by
    intro rs member
    obtain ⟨listed, here⟩ := List.mem_filter.mp member
    obtain rfl := List.mem_singleton.mp listed
    exact ⟨rfl, (of_decide_eq_true here).symm⟩
  refine ⟨fun rs member _ => ?_, fun rd member labelled => ?_⟩
  · obtain ⟨rfl, rfl⟩ := single rs member
    rfl
  · obtain ⟨listed, here⟩ := List.mem_filter.mp member
    obtain rfl := List.mem_singleton.mp listed
    obtain rfl : ⟨"shop", "portage-db"⟩ = key := of_decide_eq_true here
    obtain rfl := own.resolve_right labelled
    refine ⟨by decide, ?_, fun rs inside => ?_⟩
    · have stored : dbSource claim ∈ ((shopPair (dbSource claim) (dbDestination "db") claims).clusters 0).replicationSources :=
        List.mem_singleton_self _
      exact List.ne_nil_of_mem (VolSync.mem_under stored)
    · rw [(single rs inside).1]
      rfl

/-- Deletes of one kind fail. -/
private def refusingDeletes (c : ClusterId) (resource : Resource) : Oracle where
  fault _ req := if req.target = some (c, resource) then some {} else none

/-- A Prune pass of the shop that keeps nothing and cannot delete one half. -/
private def pruneShop (c : ClusterId) (half : Resource) : PairPass :=
  .prune { kube := 0, dynamic := some 0 } { kube := 1, dynamic := some 1 } "shop" [] (refusingDeletes c half)

private theorem run_pruneShop (c : ClusterId) (half : Resource) (s : World) :
    PairsRun s [⟨s, pruneShop c half, (pruneShop c half).after s⟩] ((pruneShop c half).after s) := .snoc .nil rfl

private theorem between_pruneShop (c : ClusterId) (half : Resource) (s : World) :
    ∀ step ∈ [(⟨s, pruneShop c half, (pruneShop c half).after s⟩ : PairsStep)],
      step.input.Between 0 0 1 step.before := by
  intro step member
  obtain rfl := List.mem_singleton.mp member
  exact ⟨fun _ _ => rfl, rfl, rfl, rfl⟩

/-- The pair of a database. -/
private def dbPair : World := shopPair (dbSource "data-db-0") (dbDestination "db") ["data-db-0"]

/-- A pair whose destination's half has no label. -/
private def unlabelledPair : World := shopPair (dbSource "data-db-0") (dbDestination "") ["data-db-0"]

/-- Two workloads of one name. -/
private def twinEnv : LiveEnv := shopEnv [dbWorkload "Deployment" ["files"], dbWorkload "StatefulSet" ["data-db-0"]]

/-- The pair of the first, whose claim is there. -/
private def filesPair : World := shopPair (dbSource "files") (dbDestination "db") ["files"]

/-- A pass that cannot delete the source's half is made good by the next. -/
theorem run_tidied_db : ∃ steps state, PairsRun dbPair steps state ∧ (state.clusters 0).replicationSources ≠ [] ∧
    Tidy (shopEnv []) 0 1 ((shopEnv []).runReplicate state.action {} state).2 := by
  refine ⟨_, _, run_pruneShop 0 .replicationSources dbPair, by decide +kernel,
    (run_tidied (run_pruneShop 0 .replicationSources dbPair) (matched_shopPair _ _ _ (.inl rfl))
      (between_pruneShop _ _ _) (fun step member => ?_) serene_default (plain_pluginsApart _) rfl rfl).1⟩
  obtain rfl := List.mem_singleton.mp member
  intro n key fault failed
  simp [refusingDeletes, Request.target] at failed

/-- A destination's half whose delete failed once stays for good; one without a label is
deleted with a labelled source's half of its name; and a workload without its claim takes
the pair of another one of its name with it. -/
theorem pairs_left : (∃ steps state, PairsRun dbPair steps state ∧
      (∀ key, Matched 0 1 key dbPair.clusters) ∧ (∀ step ∈ steps, step.input.Between 0 0 1 step.before) ∧
      "shop" ∈ (shopEnv []).namespaces ∧ (shopEnv []).kept "shop" = [] ∧
      (((shopEnv []).runReplicate state.action {} state).2.clusters 1).replicationDestinations =
        [dbDestination "db"]) ∧
    (((shopEnv []).runReplicate unlabelledPair.action {} unlabelledPair).2.clusters 1).replicationDestinations = [] ∧
    ((twinEnv.runReplicate filesPair.action {} filesPair).2.clusters 0).replicationSources = [] := by
  refine ⟨⟨_, _, run_pruneShop 1 .replicationDestinations dbPair, matched_shopPair _ _ _ (.inl rfl),
    between_pruneShop _ _ _, by decide +kernel, by decide +kernel, by decide +kernel⟩, by decide +kernel,
    by decide +kernel⟩

end Portage
