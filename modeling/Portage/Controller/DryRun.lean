import Portage.Controller.RestoreTouch

/-! Whether a pass of a dry run leaves both clusters as they were. The runners do
not ask for the flag before they act, so what decides is what there is to touch. -/
namespace Portage

open Go Kube Process Program

/-! ### Cutover -/

/-- There is nothing for a Cutover pass to touch: no graph to write, and no
controller to scale where the phase or a rollback asks for it, and nothing to
promote. -/
structure CutoverInert (env : Env) (clusters : Clusters) (act : Action) : Prop where
  graph : ∀ w ∈ env.stateful, w.isObjectGraph = true → env.writesGraph env.listClusterObjects = false
  frozen : freezes act.status.phase = true →
    ∀ w ∈ env.frozenWorkloads, (clusters env.source.kube).scalable w = false
  promoted : act.status.phase = .promoting → ∀ w ∈ env.frozenWorkloads,
    replicator env.movers env.policy w = none ∧ ¬ (w.engine = "postgres" ∨ w.engine = "timescale") ∧
      (clusters env.dest.kube).scalable w = false
  raised : bringsUp act.status.phase = true →
    ∀ w ∈ env.frozenWorkloads, (clusters env.dest.kube).scalable w = false
  rolledBack : act.spec.rollback = true →
    ∀ w ∈ env.frozenWorkloads, (clusters env.source.kube).scalable w = false

section
variable {env : Env} {clusters : Clusters} {act : Action} {w : Workload}

/-- Promoting through a mover is on the log before anything else. -/
private theorem tells_promote (m : Mover) : Tells clusters True (m.promote env.dest w) where
  logs := .of_extends fun _ => moves_promote env.dest trivial (fun _ => trivial) fun _ _ _ _ => trivial
  toDecides := by
    refine .of_loud (fun o serene => ?_) trivial
    have moved : Loud o clusters (record (.moved .promote m.name w.key)) := .of_record rfl
    cases m with
    | postgresStreaming =>
      exact moved.bind_left fun _ => .of_extends fun _ =>
        moves_promotePostgres _ _ (fun _ => trivial) fun _ _ _ _ => trivial
    | volsync | rclone => exact moved.bind_left fun _ => .pure _
    | webhook plugin => exact tells_callMover.loud trivial o serene

private theorem tells_promoteWorkload : Tells clusters (¬ (replicator env.movers env.policy w = none ∧
    ¬ (w.engine = "postgres" ∨ w.engine = "timescale") ∧ (clusters env.dest.kube).scalable w = false))
    (promoteWorkload env w) := by
  unfold promoteWorkload
  cases replicator env.movers env.policy w with
  | some m => exact ((tells_promote m).then_reads fun _ _ => moves_pure _).congr (by simp)
  | none =>
    dsimp only
    split
    · exact ((tells_promote _).then_reads fun _ _ => moves_pure _).congr (by simp [*])
    · exact ((tells_tryScale 1).then_reads fun _ _ => moves_pure _).congr (by simp [*])

/-- Where a workload may be touched. -/
private def cutoverTouches (env : Env) (clusters : Clusters) (phase : ActionPhase) (w : Workload) : Prop :=
  freezes phase = true ∧ (clusters env.source.kube).scalable w = true ∨
    phase = .promoting ∧ ¬ (replicator env.movers env.policy w = none ∧
      ¬ (w.engine = "postgres" ∨ w.engine = "timescale") ∧ (clusters env.dest.kube).scalable w = false) ∨
    bringsUp phase = true ∧ (clusters env.dest.kube).scalable w = true

private theorem tells_cutoverWorkload (phase : ActionPhase) (seen : CutoverSeen) :
    Tells clusters (cutoverTouches env clusters phase w) (cutoverWorkload env phase seen w) :=
  ((tells_tryScale 0).if_ ()).bind fun _ => .after_reads (fun _ => moves_caughtUp env w fun _ quiet => quiet) fun _ =>
    (tells_promoteWorkload.if_ true).bind fun _ => ((tells_tryScale 1).if_ ()).then_reads fun _ _ =>
      moves_bind (moves_isReady _ w) fun _ => moves_bind (moves_probeReady env w (fun _ quiet => quiet) _) fun _ =>
        moves_pure _

private theorem tells_cutoverGraph (seen : CutoverSeen) :
    Tells clusters (env.writesGraph env.listClusterObjects = true) (cutoverGraph env seen w) := by
  refine (tells_writeGraph _).then_reads fun answer _ => ?_
  cases answer <;> exact moves_pure _

private theorem tells_rollback : Tells clusters
    (act.spec.rollback = true ∧ ∃ w ∈ env.frozenWorkloads, (clusters env.source.kube).scalable w = true)
    (rollbackIfDue env act) :=
  .if_ (.after_reads (fun _ => moves_callHook env (fun _ quiet => quiet) _) fun _ => .fold (fun _ w _ =>
    .after_reads (fun _ => moves_rollbackReplicas env w) fun n => tells_tryScale n) _) ()

theorem tells_runCutover : Tells clusters (¬ CutoverInert env clusters act) (runCutover env act) := by
  have step (seen : CutoverSeen) (w : Workload) (_ : w ∈ env.stateful) : Tells clusters
      (w.isObjectGraph = true ∧ env.writesGraph env.listClusterObjects = true ∨
        w.isObjectGraph = false ∧ cutoverTouches env clusters act.status.phase w)
      (cutoverStep env act.status.phase seen w) := by
    unfold cutoverStep
    split
    · exact (tells_cutoverGraph seen).congr (by simp [*])
    · exact (tells_cutoverWorkload act.status.phase seen).congr (by simp [*])
  refine (((Tells.fold step _).bind fun _ => .after_reads (fun _ => moves_frozenIfDue env _) fun _ =>
    .after_reads (fun _ => moves_switchIfDue env (fun _ quiet => quiet) _) fun _ =>
      tells_rollback.then_reads fun _ _ => moves_pure _).then_reads fun _ _ => moves_pure _).congr ⟨?_, ?_⟩
  · rintro touched ⟨graph, frozen, promoted, raised, rolledBack⟩
    grind [cutoverTouches, Env.frozenWorkloads]
  · intro live
    by_contra untouched
    refine live ⟨?_, ?_, ?_, ?_, ?_⟩ <;> grind [cutoverTouches, Env.frozenWorkloads]

end

/-! ### Replicate -/

/-- There is nothing for a Replicate pass to touch: no graph to write, no mover
that would replicate a workload, and no VolSync pair to prune. -/
structure ReplicateInert (env : Env) (clusters : Clusters) : Prop where
  graph : ∀ w ∈ env.inventory, w.isObjectGraph = true → env.writesGraph env.listClusterObjects = false
  replicated : ∀ w ∈ env.inventory, w.cls ≠ .stateless → w.isObjectGraph = false →
    replicator env.movers env.policy w = none
  pruned : ∀ ns ∈ env.namespaces, ∀ item ∈ env.pruned clusters ns, env.prunes clusters ns item = false

section
variable {env : Env} {clusters : Clusters} {act : Action} {w : Workload}

private theorem tells_replicateStep (graph : GraphSeen) (seen : ReplicateSeen) : Tells clusters
    (w.cls ≠ .stateless ∧ w.isObjectGraph = false ∧ replicator env.movers env.policy w ≠ none)
    (replicateStep env graph seen w) where
  logs := .of_extends fun _ => moves_replicateStep env w (fun _ => trivial) graph seen
  toDecides := by
    unfold replicateStep replicateStepWith
    split
    · exact .of_quiet (.of_moves fun _ => moves_map (moves_destStatelessStatus w _)) (by simp [*])
    · split
      · exact .pure _ (by simp [*])
      · unfold replicator
        match select env.movers w (moverOverride env.policy w .replicate) with
        | .error text | .ok (none, capability) => exact .pure _ (by simp)
        | .ok (some m, capability) =>
          dsimp only
          cases capability.replicate with
          | false => exact .pure _ (by simp)
          | true =>
            refine ((tells_callMover.then_reads fun answer _ => ?_).congr (by simp [*])).toDecides
            cases answer with
            | some text => exact moves_pure _
            | none => exact moves_bind moves_moverProbe fun _ => moves_pure _

private theorem tells_prune (ns : String) : Tells clusters
    (∃ item ∈ env.pruned clusters ns, env.prunes clusters ns item = true)
    (prune env.source env.dest ns (env.kept ns)) where
  logs := .of_extends fun _ => moves_prune _ _ ns _ fun _ _ => trivial
  toDecides := by
    unfold prune Env.pruned
    cases client : env.source.dynamic with
    | none => exact .pure _ (by simp)
    | some c =>
      dsimp only
      split
      · exact .pure _ (by simp [*])
      · rename_i named
        refine .of_listObjects (fun fault => ?_) (Tells.foldUntil (fun _ item member => ?_)
          (fun _ serene _ _ _ _ => ⟨(), pruneOne_serene serene⟩) ()).toDecides
        · simp only [fault.error_reason, ↓reduceIte]
          exact .pure _
        · have inside := decide_eq_true_eq.mp (List.mem_filter.mp member).2
          exact tells_pruneOne client (inside ▸ named) named

private theorem tells_replicateGraph (seen : GraphSeen) :
    Tells clusters (env.writesGraph env.listClusterObjects = true) (replicateGraph env seen w) := by
  refine (tells_writeGraph _).then_reads fun answer _ => ?_
  cases answer <;> exact moves_pure _

theorem tells_runReplicate : Tells clusters (¬ ReplicateInert env clusters) (runReplicate env act) := by
  refine ((Tells.fold (fun seen w _ => tells_replicateGraph seen) _).bind fun graph =>
    (Tells.fold (fun seen w _ => tells_replicateStep graph seen) _).bind fun seen =>
      (Tells.fold (fun _ ns _ => (tells_prune ns).then_reads fun _ _ => moves_pure _) _).then_reads fun _ _ =>
        moves_pure _).congr ⟨?_, ?_⟩
  · rintro touched ⟨graph, replicated, pruned⟩
    grind
  · intro live
    by_contra untouched
    simp only [List.mem_filter] at untouched
    refine live ⟨?_, ?_, ?_⟩ <;> grind

end

/-! ### Dry runs -/

/-- A pass of a dry run touches neither cluster if and only if it finds nothing to
touch: none of the runners asks for the flag before it acts. -/
theorem dryRun_untouched_iff {env : Env} (keyed : KeyedInventory env.inventory) {client : ClusterId}
    (exec : env.dest.exec = some client) (clusters : Clusters) (act : Action) (_dry : act.spec.dryRun = true) :
    (Untouched clusters act (runRestore env act) ↔ RestoreInert env clusters act) ∧
      (Untouched clusters act (runReplicate env act) ↔ ReplicateInert env clusters) ∧
      (Untouched clusters act (runCutover env act) ↔ CutoverInert env clusters act) :=
  ⟨⟨restoreInert_of_untouched keyed exec, untouched_runRestore keyed exec⟩,
    tells_runReplicate.untouched_iff.trans not_not, tells_runCutover.untouched_iff.trans not_not⟩

def till (engine : String) : Workload :=
  { namespace_ := "shop", name := "till", kind := "StatefulSet", cls := .sqlLogical, engine }

/-- A pair of clusters that both run the workload. -/
def tillEnv (engine : String) (artifacts : List ArtifactHealth) : Env where
  policy := { status := { artifacts } }
  source := { kube := 0 }
  dest := { kube := 1, exec := some 1 }
  inventory := [till engine]
  store := fun key => if key = "dumps/1" then .ok [1, 2, 3] else .error "object not found"

def tillClusters : Clusters := fun _ => {
  statefulSets := fun key => if key = ⟨"shop", "till"⟩ then some { replicas := some 1, readyReplicas := 1 } else none
  pods := [{ key := ⟨"shop", "till-0"⟩, owners := ["till"], containers := ["db"] }] }

def dryAction (type : ActionType) (phase : ActionPhase) : Action :=
  { spec := { type, policyRef := "shop", dryRun := true }, status := { phase } }

private theorem keyed_till (engine : String) : KeyedInventory (tillEnv engine []).inventory where
  plain := by
    simp only [tillEnv, List.mem_singleton, forall_eq]
    exact (by decide : '\n' ∉ (till "").key.toList)
  unique := by simp [tillEnv]
  graph := by
    simp only [tillEnv, List.mem_singleton, forall_eq]
    exact fun graph => absurd graph (by decide : ¬ (till "").isObjectGraph = true)

/-- Once its manifests are applied or its source is frozen, there is nothing to touch for
a workload without a mover and without an artifact. -/
theorem dryRun_untouched_mysql :
    Untouched tillClusters (dryAction .restore .waitingReady)
        (runRestore (tillEnv "mysql" []) (dryAction .restore .waitingReady)) ∧
      Untouched tillClusters (dryAction .replicate .catchingUp)
        (runReplicate (tillEnv "mysql" []) (dryAction .replicate .catchingUp)) ∧
      Untouched tillClusters (dryAction .cutover .catchingUp)
        (runCutover (tillEnv "mysql" []) (dryAction .cutover .catchingUp)) := by
  have iffs (act : Action) (dry : act.spec.dryRun = true) :=
    dryRun_untouched_iff (keyed_till "mysql") rfl tillClusters act dry
  refine ⟨(iffs _ rfl).1.mpr ⟨fun applies => absurd applies (by decide), fun _ w member => ?_⟩,
    (iffs _ rfl).2.1.mpr ?_, (iffs _ rfl).2.2.mpr ?_⟩
  · obtain rfl := List.mem_singleton.mp member
    decide
  · constructor
    · intro w member graph
      obtain rfl := List.mem_singleton.mp member
      exact absurd graph (by decide)
    · intro w member _ _
      obtain rfl := List.mem_singleton.mp member
      decide
    · exact fun ns _ item member => absurd member (by simp [Env.pruned, tillEnv])
  · have plain : ∀ w ∈ (tillEnv "mysql" []).stateful, w.isObjectGraph = false := by decide
    exact ⟨fun w member graph => by simp [plain w member] at graph, fun phase => absurd phase (by decide),
      fun phase => absurd phase (by decide), fun phase => absurd phase (by decide),
      fun asked => absurd asked (by decide)⟩

/-- The first pass of a new Action with the flag set replays a dump, hands the database to
a mover, and scales the source to zero. -/
theorem dryRun_touches :
    ¬ Untouched tillClusters (dryAction .restore .pending) (runRestore
      (tillEnv "postgres" [⟨(till "postgres").key, true, 3, "dumps/1", ""⟩]) (dryAction .restore .pending)) ∧
    ¬ Untouched tillClusters (dryAction .replicate .pending)
      (runReplicate (tillEnv "postgres" []) (dryAction .replicate .pending)) ∧
    ¬ Untouched tillClusters (dryAction .cutover .pending)
      (runCutover (tillEnv "postgres" []) (dryAction .cutover .pending)) := by
  refine ⟨fun untouched => ?_, fun untouched => ?_, fun untouched => ?_⟩ <;>
    · have silent := untouched.served
      exact absurd silent (by decide +kernel)

end Portage
