import Portage.Classify.Frozen
import Portage.Controller.Cutover

/-! What freezing and rolling back do to the replica counts of the source. A
pass only ever rescales the controllers of the inventory, and the count that was
first remembered stays remembered. -/
namespace Portage

open Go Kube Process Program

/-! ### The remembered count -/

/-- The annotations of a controller once it has been scaled. -/
def Kube.Controller.remembered (controller : Controller) : GoMap String String :=
  (controller.scaled 0).annotations

@[simp] theorem scaled_annotations (controller : Controller) (replicas : Int32) :
    (controller.scaled replicas).annotations = controller.remembered := rfl

theorem remembered_of_find? {controller : Controller} {text : String}
    (annotated : controller.annotations.find? originalReplicasAnn = some text) :
    controller.remembered = controller.annotations := by
  simp [Controller.remembered, Controller.scaled, annotated]

theorem remembered_annotated (controller : Controller) :
    ∃ text, controller.remembered.find? originalReplicasAnn = some text := by
  cases annotated : controller.annotations.find? originalReplicasAnn with
  | some text => exact ⟨text, by rw [remembered_of_find? annotated, annotated]⟩
  | none => exact ⟨_, by simp [Controller.remembered, Controller.scaled, annotated]; rfl⟩

/-- What is remembered is not remembered again. -/
theorem remembered_stable {before after : Controller}
    (same : after.annotations = before.remembered) : after.remembered = before.remembered := by
  obtain ⟨text, annotated⟩ := remembered_annotated before
  rw [remembered_of_find? (same ▸ annotated), same]

/-- Reading back the count that the first freeze remembered. -/
theorem originalReplicas_remembered {controller : Controller}
    (first : controller.annotations.find? originalReplicasAnn = none) :
    originalReplicas controller.remembered = if 0 ≤ controller.wanted then controller.wanted else 1 := by
  have stored : controller.remembered.find? originalReplicasAnn = some (itoa controller.wanted.toInt) := by
    simp [Controller.remembered, Controller.scaled, first]
  have written : atoi (itoa controller.wanted.toInt) = some controller.wanted.toInt := by
    have lower := controller.wanted.le_toInt
    have upper := controller.wanted.toInt_lt
    exact atoi_itoa (by omega) (by omega)
  have read : originalReplicas controller.remembered =
      if controller.wanted.toInt < 0 then 1 else controller.wanted := by
    cases table : controller.remembered with
    | nil => simp [table] at stored
    | table entries =>
      rw [table] at stored
      simp [originalReplicas, GoMap.get, stored, written]
  have order : controller.wanted.toInt < 0 ↔ ¬ 0 ≤ controller.wanted := by
    rw [Int32.le_iff_toInt_le, Int.not_le, Int32.toInt_zero]
  simp only [read, order, ite_not]

/-! ### Rescaling -/

/-- Whether a Cutover freezes the controller behind a key. -/
def frozenAt (inventory : List Workload) (kind : ControllerKind) (key : ObjKey) : Bool :=
  inventory.any fun w => w.stateful && !w.isObjectGraph && decide (ControllerKind.of? w.kind = some kind) &&
    decide (w.objKey = key)

theorem frozenAt_of_mem {env : Env} {w : Workload} {kind : ControllerKind}
    (member : w ∈ env.frozenWorkloads) (scalable : ControllerKind.of? w.kind = some kind) :
    frozenAt env.inventory kind w.objKey = true := by
  obtain ⟨listed, plain, stateful⟩ : w ∈ env.inventory ∧ w.isObjectGraph = false ∧ w.stateful = true := by
    simpa [Env.frozenWorkloads, Env.stateful] using member
  exact List.any_eq_true.mpr ⟨w, listed, by simp [stateful, plain, scalable]⟩

/-- From `before` to `after` no controller came or went, and only the frozen ones
changed, remembering what they remembered. -/
structure Rescaled (frozen : ControllerKind → ObjKey → Bool) (before after : Cluster) : Prop where
  absent : ∀ (kind : ControllerKind) key, kind.table before key = none → kind.table after key = none
  present : ∀ (kind : ControllerKind) key controller, kind.table before key = some controller →
    ∃ now, kind.table after key = some now ∧
      (now = controller ∨ frozen kind key = true ∧ now.annotations = controller.remembered)

namespace Rescaled

variable {frozen : ControllerKind → ObjKey → Bool} {before middle after : Cluster}

theorem refl (cluster : Cluster) : Rescaled frozen cluster cluster :=
  ⟨fun _ _ none => none, fun _ _ controller some => ⟨controller, some, .inl rfl⟩⟩

theorem trans (first : Rescaled frozen before middle) (second : Rescaled frozen middle after) :
    Rescaled frozen before after := by
  refine ⟨fun kind key none => second.absent kind key (first.absent kind key none), ?_⟩
  intro kind key controller here
  obtain ⟨between, found, changed⟩ := first.present kind key controller here
  obtain ⟨now, present, again⟩ := second.present kind key between found
  refine ⟨now, present, ?_⟩
  rcases changed with rfl | ⟨chosen, remembered⟩
  · exact again
  · rcases again with rfl | ⟨_, same⟩
    · exact .inr ⟨chosen, remembered⟩
    · exact .inr ⟨chosen, same.trans (remembered_stable remembered)⟩

/-- Once a controller remembers a count, it keeps remembering that one. -/
theorem keeps {kind : ControllerKind} {key : ObjKey} {controller now : Controller}
    (rescaled : Rescaled frozen before after) (here : kind.table before key = some now)
    (remembers : now.annotations = controller.remembered) :
    ∃ later, kind.table after key = some later ∧ later.annotations = controller.remembered := by
  obtain ⟨later, present, changed⟩ := rescaled.present kind key now here
  refine ⟨later, present, ?_⟩
  rcases changed with rfl | ⟨_, same⟩
  · exact remembers
  · exact same.trans (remembered_stable remembers)

/-- Scaling a frozen workload. -/
theorem scaled {w : Workload} (cluster : Cluster) (replicas : Int32)
    (chosen : ∀ kind, ControllerKind.of? w.kind = some kind → frozen kind w.objKey = true) :
    Rescaled frozen cluster (cluster.scaled w replicas) := by
  constructor
  · intro kind key none
    by_cases same : ControllerKind.of? w.kind = some kind ∧ key = w.objKey
    · obtain ⟨scalable, rfl⟩ := same
      simp [Kube.Cluster.scaled, scalable, none]
    · rw [table_scaled_other same, none]
  · intro kind key controller here
    by_cases same : ControllerKind.of? w.kind = some kind ∧ key = w.objKey
    · obtain ⟨scalable, rfl⟩ := same
      exact ⟨_, table_scaled_self scalable here replicas, .inr ⟨chosen kind scalable, by simp⟩⟩
    · exact ⟨controller, by rw [table_scaled_other same, here], .inl rfl⟩

theorem of_tables (same : ∀ kind key, ControllerKind.table kind after key = kind.table before key) :
    Rescaled frozen before after :=
  ⟨fun kind key none => by rw [same, none],
    fun kind key controller some => ⟨controller, by rw [same, some], .inl rfl⟩⟩

end Rescaled

/-! ### What a pass does to the source -/

/-- Plugins leave the controllers of a cluster alone. -/
def Kube.Oracle.SparesControllers (o : Oracle) (c : ClusterId) : Prop :=
  ∀ n clusters (kind : ControllerKind) key,
    kind.table (o.replicated n clusters c) key = kind.table (clusters c) key

/-- The source between two points of a pass. -/
def SourceRescaled (env : Env) (s t : World) : Prop :=
  Rescaled (frozenAt env.inventory) (s.clusters env.source.kube) (t.clusters env.source.kube)

theorem sourceRescaled_chains (env : Env) : Chains (SourceRescaled env) :=
  ⟨fun _ => Rescaled.refl _, fun first second => Rescaled.trans first second⟩

section
variable {env : Env} {o : Oracle} {w : Workload}

private theorem rescaled_bind {x : Prog α} {f : α → Prog β} (first : Moves o (SourceRescaled env) x)
    (then_ : ∀ value, Moves o (SourceRescaled env) (f value)) : Moves o (SourceRescaled env) (x >>= f) :=
  Moves.bind (sourceRescaled_chains env) first then_

private theorem rescaled_pure (value : α) : Moves o (SourceRescaled env) (pure value : Prog α) :=
  Moves.pure (sourceRescaled_chains env) value

private theorem rescaled_of_quiet {x : Prog α} (still : o.Still)
    (moves : Moves o (Extends o fun e => e.touches = false) x) : Moves o (SourceRescaled env) x := by
  intro s
  rw [SourceRescaled, Moves.clusters_eq still moves s]
  exact Rescaled.refl _

private theorem rescaled_scale (serene : o.Serene) (c : ClusterId) (replicas : Int32)
    (member : w ∈ env.frozenWorkloads) : Moves o (SourceRescaled env) (scale c w replicas) := by
  intro s
  rw [SourceRescaled, scale_serene serene]
  dsimp only
  split
  · rename_i same
    exact same ▸ Rescaled.scaled _ _ fun kind scalable => frozenAt_of_mem member scalable
  · exact Rescaled.refl _

private theorem rescaled_tryScale (serene : o.Serene) (c : ClusterId) (replicas : Int32)
    (member : w ∈ env.frozenWorkloads) : Moves o (SourceRescaled env) (tryScale c w replicas) :=
  rescaled_bind (rescaled_scale serene c replicas member) fun _ => rescaled_pure _

private theorem rescaled_promotePostgres (serene : o.Serene) (member : w ∈ env.frozenWorkloads) :
    Moves o (SourceRescaled env) (promotePostgres env.dest w) := by
  unfold promotePostgres
  cases env.dest.exec with
  | none => exact rescaled_pure _
  | some c =>
    refine rescaled_bind (rescaled_scale serene _ _ member) fun answer => ?_
    cases answer with
    | error text => exact rescaled_pure _
    | ok _ =>
      refine rescaled_of_quiet serene.still (moves_bind (moves_firstReadyPod _ _) fun answer => ?_)
      cases answer with
      | error text => exact moves_pure _
      | ok found => exact moves_bind (moves_execIn fun _ => rfl) fun _ => moves_pure _

private theorem rescaled_record (event : Event) : Moves o (SourceRescaled env) (record event) :=
  fun _ => Rescaled.refl _

private theorem rescaled_promote (serene : o.Serene) (spares : o.SparesControllers env.source.kube)
    (member : w ∈ env.frozenWorkloads) (m : Mover) :
    Moves o (SourceRescaled env) (m.promote env.dest w) := by
  cases m with
  | postgresStreaming => exact rescaled_bind (rescaled_record _) fun _ => rescaled_promotePostgres serene member
  | volsync | rclone => exact rescaled_bind (rescaled_record _) fun _ => rescaled_pure _
  | webhook plugin =>
    intro s
    refine Rescaled.of_tables fun kind key => ?_
    simpa [Mover.promote, callMover, record, tick, serene.still s.calls s.clusters]
      using spares s.calls s.clusters kind key

private theorem rescaled_promoteWorkload (serene : o.Serene) (spares : o.SparesControllers env.source.kube)
    (member : w ∈ env.frozenWorkloads) : Moves o (SourceRescaled env) (promoteWorkload env w) := by
  unfold promoteWorkload
  cases replicator env.movers env.policy w with
  | some m => exact rescaled_bind (rescaled_promote serene spares member m) fun _ => rescaled_pure _
  | none =>
    dsimp only
    split
    · exact rescaled_bind (rescaled_promote serene spares member _) fun _ => rescaled_pure _
    · exact rescaled_bind (rescaled_tryScale serene _ _ member) fun _ => rescaled_pure _

/-- The part of the loop body after the freeze. -/
private theorem rescaled_afterFreeze (serene : o.Serene) (spares : o.SparesControllers env.source.kube)
    (member : w ∈ env.frozenWorkloads) (phase : ActionPhase) (seen : CutoverSeen) :
    Moves o (SourceRescaled env) (do
      let caught ← caughtUp env w
      let promoted ← promoteIfDue env phase w
      bringUp env phase w
      let up ← isReady env.dest.kube w
      let probe ← probeReady env w up
      pure ({ seen with lagZero := seen.lagZero && caught, promoted := seen.promoted && promoted }.report
        w.key up probe)) := by
  have due : Moves o (SourceRescaled env) (promoteIfDue env phase w) := by
    unfold promoteIfDue
    split
    · exact rescaled_promoteWorkload serene spares member
    · exact rescaled_pure _
  have up : Moves o (SourceRescaled env) (bringUp env phase w) := by
    unfold bringUp
    split
    · exact rescaled_tryScale serene _ _ member
    · exact rescaled_pure _
  exact rescaled_bind (rescaled_of_quiet serene.still (moves_caughtUp env w fun _ quiet => quiet)) fun _ =>
    rescaled_bind due fun _ => rescaled_bind up fun _ =>
      rescaled_of_quiet serene.still (moves_bind (moves_isReady _ w) fun _ =>
        moves_bind (moves_probeReady env w (fun _ quiet => quiet) _) fun _ => moves_pure _)

private theorem rescaled_cutoverGraph (serene : o.Serene) (seen : CutoverSeen) :
    Moves o (SourceRescaled env) (cutoverGraph env seen w) := by
  refine rescaled_bind ?_ fun answer => ?_
  · unfold syncClusterObjectsLive writeGraph
    cases env.listClusterObjects with
    | error text => exact rescaled_pure _
    | ok objects =>
      dsimp only
      cases env.destDynamic with
      | error text => exact rescaled_pure _
      | ok dest =>
        cases dest with
        | none => exact rescaled_pure _
        | some c =>
          intro s
          refine Rescaled.of_tables fun kind key => ?_
          simp only [syncObjects, bind_run, record, tick, modify_run, answers_run, pure_run,
            serene.still s.calls s.clusters]
          by_cases empty : objects = []
          · simp [empty]
          · by_cases same : env.source.kube = c <;> cases kind <;> simp [empty, same, ControllerKind.table]
  · cases answer <;> exact rescaled_pure _

private theorem mem_frozenWorkloads (member : w ∈ env.stateful) (plain : ¬ w.isObjectGraph = true) :
    w ∈ env.frozenWorkloads := List.mem_filter.mpr ⟨member, by simpa using plain⟩

private theorem rescaled_cutoverStep (serene : o.Serene) (spares : o.SparesControllers env.source.kube)
    (member : w ∈ env.stateful) (phase : ActionPhase) (seen : CutoverSeen) :
    Moves o (SourceRescaled env) (cutoverStep env phase seen w) := by
  unfold cutoverStep
  split
  · exact rescaled_cutoverGraph serene seen
  · rename_i plain
    have frozen := mem_frozenWorkloads member plain
    refine rescaled_bind ?_ fun _ => rescaled_afterFreeze serene spares frozen phase seen
    unfold freezeSource
    split
    · exact rescaled_tryScale serene _ _ frozen
    · exact rescaled_pure _

private theorem rescaled_rollbackWorkload (serene : o.Serene) (member : w ∈ env.frozenWorkloads) :
    Moves o (SourceRescaled env) (rollbackWorkload env w) :=
  rescaled_bind (rescaled_of_quiet serene.still (moves_rollbackReplicas env w)) fun _ =>
    rescaled_tryScale serene _ _ member

/-- The source has remembered the count of everything that is frozen. -/
def Remembers (frozen : ControllerKind → ObjKey → Bool) (start now : Cluster) : Prop :=
  ∀ kind key controller, frozen kind key = true → kind.table start key = some controller →
    ∃ later, kind.table now key = some later ∧ later.annotations = controller.remembered

theorem Remembers.rescaled {frozen : ControllerKind → ObjKey → Bool} {start base now : Cluster}
    (remembers : Remembers frozen start base) (rescaled : Rescaled frozen base now) :
    Remembers frozen start now := by
  intro kind key controller chosen first
  obtain ⟨later, present, annotated⟩ := remembers kind key controller chosen first
  exact rescaled.keeps present annotated

private theorem frozenAt_iff {kind : ControllerKind} {key : ObjKey} :
    frozenAt env.inventory kind key = true ↔
      ∃ w ∈ env.frozenWorkloads, ControllerKind.of? w.kind = some kind ∧ w.objKey = key := by
  simp only [frozenAt, List.any_eq_true, Bool.and_eq_true, Bool.not_eq_true', decide_eq_true_eq,
    Env.frozenWorkloads, Env.stateful, List.mem_filter]
  constructor
  · rintro ⟨w, listed, ⟨⟨stateful, plain⟩, scalable⟩, same⟩
    exact ⟨w, ⟨⟨listed, stateful⟩, plain⟩, scalable, same⟩
  · rintro ⟨w, ⟨⟨listed, stateful⟩, plain⟩, scalable, same⟩
    exact ⟨w, listed, ⟨⟨stateful, plain⟩, scalable⟩, same⟩

/-- A loop in a freezing phase scales every controller, which remembers. -/
private theorem fold_remembers (serene : o.Serene) (spares : o.SparesControllers env.source.kube)
    {phase : ActionPhase} (freezing : freezes phase = true) (s : World) :
    Remembers (frozenAt env.inventory) (s.clusters env.source.kube)
      ((Program.fold (cutoverStep env phase) env.stateful {} o s).2.clusters env.source.kube) := by
  intro kind key controller frozen here
  obtain ⟨w, member, scalable, rfl⟩ := frozenAt_iff.mp frozen
  obtain ⟨listed, plain⟩ : w ∈ env.stateful ∧ w.isObjectGraph = false := by
    simpa [Env.frozenWorkloads] using member
  obtain ⟨seen, t, before, after⟩ := fold_visits (sourceRescaled_chains env)
    (fun seen w inside => rescaled_cutoverStep serene spares inside phase seen) {} s listed
  -- The loop body starts with the scale, so the rest of the pass sees the annotation.
  have body : cutoverStep env phase seen w o t =
      cutoverWorkload env phase seen w o t := by simp [cutoverStep, plain]
  have scaled : (freezeSource env phase w o t).2.clusters env.source.kube =
      (t.clusters env.source.kube).scaled w 0 := by
    simp [freezeSource, freezing, tryScale, scale_serene serene]
  obtain ⟨now, present, changed⟩ := Rescaled.present before kind w.objKey controller here
  have remembered : now.remembered = controller.remembered := by
    rcases changed with rfl | ⟨_, same⟩
    · rfl
    · exact remembered_stable same
  have rest : SourceRescaled env (freezeSource env phase w o t).2
      (Program.fold (cutoverStep env phase) env.stateful {} o s).2 := by
    refine Rescaled.trans ?_ after
    rw [body]
    exact rescaled_afterFreeze serene spares member phase seen _
  exact Rescaled.keeps rest (by rw [scaled, table_scaled_self scalable present]) (by simp [remembered])

/-- A pass up to its rollback only rescales, and a freezing one makes the source remember. -/
private theorem runCutover_split (serene : o.Serene) (spares : o.SparesControllers env.source.kube) (act : Action)
    (s : World) : ∃ t, SourceRescaled env s t ∧
      (freezes act.status.phase = true →
        Remembers (frozenAt env.inventory) (s.clusters env.source.kube) (t.clusters env.source.kube)) ∧
      (runCutover env act o s).2 = (rollbackIfDue env act o t).2 := by
  have quiet (t : World) : (switchIfDue env act.status.phase o
      (frozenIfDue env act.status.phase o t).2).2.clusters = t.clusters := by
    rw [Moves.clusters_eq serene.still (moves_switchIfDue env (fun _ quiet => quiet) _),
      Moves.clusters_eq serene.still (moves_frozenIfDue env _)]
  refine ⟨_, ?_, fun freezing => ?_, rfl⟩
  · rw [SourceRescaled, quiet]
    exact Moves.fold (sourceRescaled_chains env)
      (fun seen w member => rescaled_cutoverStep serene spares member _ seen) _ s
  · rw [quiet]
    exact fold_remembers serene spares freezing s

private theorem rescaled_rollbackIfDue (serene : o.Serene) (act : Action) :
    Moves o (SourceRescaled env) (rollbackIfDue env act) := by
  unfold rollbackIfDue
  split
  · exact rescaled_bind (rescaled_of_quiet serene.still (moves_callHook env (fun _ quiet => quiet) _)) fun _ =>
      Moves.fold (sourceRescaled_chains env) (fun _ w member => rescaled_rollbackWorkload serene member) ()
  · exact rescaled_pure _

/-- The count that a rollback reads for a key. -/
def rollbackCount (cluster : Cluster) (key : ObjKey) : Int32 :=
  match cluster.statefulSets key with
  | none => 1
  | some sts => originalReplicas sts.annotations

private theorem rollbackReplicas_serene (serene : o.Serene) (s : World) :
    (rollbackReplicas env w o s).1 = rollbackCount (s.clusters env.source.kube) w.objKey := by
  simp only [rollbackReplicas, bind_run, getObject_serene serene, rollbackCount]
  cases (s.clusters env.source.kube).statefulSets w.objKey <;> rfl

/-- Once everything frozen remembers its count, rescaling does not change what a
rollback reads. -/
private theorem rollbackCount_stable {frozen : ControllerKind → ObjKey → Bool} {start base now : Cluster}
    (remembers : Remembers frozen start base) (from_ : Rescaled frozen start base)
    (rescaled : Rescaled frozen base now) (key : ObjKey) :
    rollbackCount now key = rollbackCount base key := by
  unfold rollbackCount
  cases here : base.statefulSets key with
  | none =>
    have absent : now.statefulSets key = none := rescaled.absent .statefulSet key here
    simp [absent]
  | some sts =>
    obtain ⟨later, present, changed⟩ := rescaled.present .statefulSet key sts here
    have same : later.annotations = sts.annotations := by
      rcases changed with rfl | ⟨chosen, remembered⟩
      · rfl
      · cases first : start.statefulSets key with
        | none =>
          have absent : base.statefulSets key = none := from_.absent .statefulSet key first
          simp [absent] at here
        | some controller =>
          obtain ⟨sts', present', annotated⟩ := remembers .statefulSet key controller chosen first
          obtain rfl : sts = sts' := by
            have both : base.statefulSets key = some sts' := present'
            simpa [here] using both
          rw [remembered, remembered_stable annotated, annotated]
    have found : now.statefulSets key = some later := present
    simp [found, same]

/-- The controllers of the handled workloads have the count that a rollback reads. -/
private def RolledBack (env : Env) (base : Cluster) (done : List Workload) (s : World) : Prop :=
  Rescaled (frozenAt env.inventory) base (s.clusters env.source.kube) ∧
    ∀ w ∈ done, ∀ kind now, ControllerKind.of? w.kind = some kind →
      kind.table (s.clusters env.source.kube) w.objKey = some now →
        now.replicas = some (rollbackCount base w.objKey)

private theorem rollbackWorkload_rolledBack (serene : o.Serene) {start base : Cluster}
    (remembers : Remembers (frozenAt env.inventory) start base) (from_ : Rescaled (frozenAt env.inventory) start base)
    (member : w ∈ env.frozenWorkloads) (done : List Workload) :
    Holds o (RolledBack env base done) (rollbackWorkload env w)
      fun _ => RolledBack env base (done ++ [w]) := by
  intro s invariant
  have read : (rollbackReplicas env w o s).1 = rollbackCount base w.objKey := by
    rw [rollbackReplicas_serene serene, rollbackCount_stable remembers from_ invariant.1]
  have written : (rollbackWorkload env w o s).2.clusters env.source.kube =
      (s.clusters env.source.kube).scaled w (rollbackCount base w.objKey) := by
    simp [rollbackWorkload, tryScale, scale_serene serene, read,
      Moves.clusters_eq serene.still (moves_rollbackReplicas env w)]
  refine ⟨invariant.1.trans (rescaled_rollbackWorkload serene member s), ?_⟩
  intro v handled kind now scalable here
  rw [written] at here
  by_cases same : ControllerKind.of? w.kind = some kind ∧ v.objKey = w.objKey
  · obtain ⟨this, key⟩ := same
    cases present : kind.table (s.clusters env.source.kube) w.objKey with
    | none => simp [Kube.Cluster.scaled, this, present, key] at here
    | some controller =>
      rw [key, table_scaled_self this present] at here
      rw [key, ← Option.some.inj here]
      rfl
  · rw [table_scaled_other same] at here
    refine invariant.2 v ?_ kind now scalable here
    rcases List.mem_append.mp handled with earlier | last
    · exact earlier
    · obtain rfl : v = w := by simpa using last
      exact absurd ⟨scalable, rfl⟩ same

/-- A rollback pass after a freeze ends with every count at what was remembered. -/
private theorem runCutover_rollsBack (serene : o.Serene) (spares : o.SparesControllers env.source.kube)
    {act : Action} (rollback : act.spec.rollback = true) {start : Cluster} (s : World)
    (remembers : Remembers (frozenAt env.inventory) start (s.clusters env.source.kube))
    (from_ : Rescaled (frozenAt env.inventory) start (s.clusters env.source.kube))
    (member : w ∈ env.frozenWorkloads) {kind : ControllerKind} {now : Controller}
    (scalable : ControllerKind.of? w.kind = some kind)
    (here : kind.table ((runCutover env act o s).2.clusters env.source.kube) w.objKey = some now) :
    now.replicas = some (rollbackCount (s.clusters env.source.kube) w.objKey) := by
  obtain ⟨t, reached, _, ends⟩ := runCutover_split serene spares act s
  have kept := remembers.rescaled reached
  have hooked : (callHook env "rollback" o t).2.clusters = t.clusters :=
    Moves.clusters_eq serene.still (moves_callHook env (fun _ quiet => quiet) _) t
  have rolled := Holds.fold (fun done _ => RolledBack env (t.clusters env.source.kube) done)
    env.frozenWorkloads (fun done v rest _ split =>
      rollbackWorkload_rolledBack serene kept (from_.trans reached) (by simp [split]) done) ()
    (callHook env "rollback" o t).2 ⟨by rw [hooked]; exact Rescaled.refl _, by simp⟩
  rw [ends] at here
  rw [← rollbackCount_stable remembers from_ reached]
  exact rolled.2 w member kind now scalable (by simpa [rollbackIfDue, rollback, rollbackSource] using here)

end

/-! ### What a walk finds to freeze -/

/-- The second listing has the controllers of the first, at any counts. -/
structure Listing.Keeps (api other : Listing) : Prop where
  statefulSets : ∀ ns items, api.statefulSets ns = .ok items → ∃ others, other.statefulSets ns = .ok others ∧
    ∀ item ∈ items, ∃ replicas, { item with replicas } ∈ others
  deployments : ∀ ns items, api.deployments ns = .ok items → ∃ others, other.deployments ns = .ok others ∧
    ∀ item ∈ items, ∃ replicas, { item with replicas } ∈ others

section
variable {api other : Listing} {namespaces : List String} {before after : List Workload}

theorem stsPVCs_eq_nil {sts : WalkedStatefulSet} :
    stsPVCs sts = [] ↔ podPVCs sts.template = [] ∧ sts.claimTemplates = [] := by
  simp only [List.eq_nil_iff_forall_not_mem, mem_stsPVCs, mem_podPVCs]
  constructor
  · exact fun none => ⟨fun pvc mounted => none pvc (.inl mounted), fun template member =>
      none (sts.realized template 0) (.inr ⟨template, member, 0, by omega, rfl⟩)⟩
  · rintro ⟨unmounted, plain⟩ pvc (mounted | ⟨template, member, _⟩)
    · exact unmounted pvc mounted
    · exact plain template member

/-- A controller's count changes neither its key nor its class. -/
private theorem Listing.Keeps.controls (keeps : api.Keeps other) {ns : String} {w : Workload}
    (controls : api.Controls ns w) (scalable : (ControllerKind.of? w.kind).isSome = true) :
    ∃ v, other.Controls ns v ∧ v.kind = w.kind ∧ v.objKey = w.objKey ∧ v.cls = w.cls := by
  cases controls with
  | statefulSet listed member =>
    obtain ⟨others, listed', found⟩ := keeps.statefulSets ns _ listed
    obtain ⟨replicas, member'⟩ := found _ member
    refine ⟨_, .statefulSet listed' member', rfl, rfl, ?_⟩
    simp [fromPodOwner, stsPVCs_eq_nil]
  | deployment listed member =>
    obtain ⟨others, listed', found⟩ := keeps.deployments ns _ listed
    obtain ⟨replicas, member'⟩ := found _ member
    exact ⟨_, .deployment listed' member', rfl, rfl, rfl⟩
  | daemonSet => simp [fromPodOwner, ControllerKind.of?] at scalable

private theorem Listing.Keeps.frozenAt (keeps : api.Keeps other) (distinct : namespaces.Nodup)
    (legal : ∀ ns ∈ namespaces, legalName ns = true) (walked : walk api namespaces = .ok before)
    (walked' : walk other namespaces = .ok after) {kind : ControllerKind} {key : ObjKey}
    (frozen : Portage.frozenAt before kind key = true) : Portage.frozenAt after kind key = true := by
  simp only [Portage.frozenAt, List.any_eq_true, Bool.and_eq_true, decide_eq_true_eq] at frozen ⊢
  obtain ⟨w, member, ⟨chosen, scalable⟩, same⟩ := frozen
  obtain ⟨ns, inside, controls | ⟨item, _, _, _, rfl⟩⟩ := (mem_walk distinct legal walked).mp member
  · obtain ⟨v, controls', kinds, keys, classes⟩ := keeps.controls controls (by simp [scalable])
    refine ⟨v, (mem_walk distinct legal walked').mpr ⟨ns, inside, .inl controls'⟩, ⟨?_, kinds ▸ scalable⟩, keys.trans same⟩
    simpa [Workload.stateful, Workload.isObjectGraph, kinds, classes] using chosen
  · simp [leftoverClaim, ControllerKind.of?] at scalable

/-- Walks over listings that differ in counts only find the same controllers to freeze,
though the claims that they know of them differ. -/
theorem frozenAt_walk (keeps : api.Keeps other) (kept : other.Keeps api) (distinct : namespaces.Nodup)
    (legal : ∀ ns ∈ namespaces, legalName ns = true) (walked : walk api namespaces = .ok before)
    (walked' : walk other namespaces = .ok after) : frozenAt after = frozenAt before := by
  funext kind key
  exact Bool.eq_iff_iff.mpr ⟨kept.frozenAt distinct legal walked' walked, keeps.frozenAt distinct legal walked walked'⟩

end

/-! ### Cycles of freeze and rollback -/

/-- One reconcile of a Cutover in which every call is served. Its walk finds the
controllers in `frozen` to freeze, whatever claims it finds them with. -/
structure CutoverPass (source : ClusterId) (frozen : ControllerKind → ObjKey → Bool) where
  env : Env
  act : Action
  oracle : Oracle
  reads : env.source.kube = source
  walked : frozenAt env.inventory = frozen
  serene : oracle.Serene
  spares : oracle.SparesControllers source

def CutoverPass.run {source : ClusterId} {frozen : ControllerKind → ObjKey → Bool} (pass : CutoverPass source frozen)
    (clusters : Clusters) : Clusters :=
  (runCutover pass.env pass.act pass.oracle { clusters, action := pass.act }).2.clusters

/-- Users edit the clusters, then one or more passes freeze the source, and then
one rolls it back. -/
structure FreezeCycle where
  edit : Clusters → Clusters
  source : ClusterId
  frozen : ControllerKind → ObjKey → Bool
  first : CutoverPass source frozen
  later : List (CutoverPass source frozen)
  back : CutoverPass source frozen
  freezing : freezes first.act.status.phase = true
  rollback : back.act.spec.rollback = true

def FreezeCycle.run (cycle : FreezeCycle) (clusters : Clusters) : Clusters :=
  cycle.back.run (cycle.later.foldl (fun clusters pass => pass.run clusters) (cycle.first.run clusters))

/-- Any number of cycles, one after the other. -/
abbrev FreezeRun (start : Clusters) :=
  Process.Run (fun clusters (cycle : FreezeCycle) => some (cycle.run (cycle.edit clusters)))
    (fun _ _ after => after) start

/-- The count that the freeze leaves for a rollback to read: what the StatefulSet
of that name has annotated already, its own count if this freeze is the first to
annotate it, and else one. -/
def rememberedCount (frozen : ControllerKind → ObjKey → Bool) (cluster : Cluster) (key : ObjKey) : Int32 :=
  match cluster.statefulSets key with
  | none => 1
  | some sts =>
    match sts.annotations.find? originalReplicasAnn with
    | some _ => originalReplicas sts.annotations
    | none => if frozen .statefulSet key = true ∧ 0 ≤ sts.wanted then sts.wanted else 1

private theorem originalReplicas_of_not_annotated {annotations : GoMap String String}
    (plain : annotations.find? originalReplicasAnn = none) : originalReplicas annotations = 1 := by
  have unreadable : atoi "" = none := by decide
  cases annotations with
  | nil => rfl
  | table entries =>
    have zero : (GoMap.table entries).get originalReplicasAnn = "" := by simp [GoMap.get, plain]
    simp [originalReplicas, zero, unreadable]

section
variable {source : ClusterId} {frozen : ControllerKind → ObjKey → Bool}

private theorem rollbackCount_eq {start base : Cluster} (remembers : Remembers frozen start base)
    (rescaled : Rescaled frozen start base) (key : ObjKey) :
    rollbackCount base key = rememberedCount frozen start key := by
  unfold rollbackCount rememberedCount
  cases here : start.statefulSets key with
  | none =>
    have absent : base.statefulSets key = none := rescaled.absent .statefulSet key here
    simp [absent]
  | some sts =>
    dsimp only
    by_cases chosen : frozen .statefulSet key = true
    · obtain ⟨later, present, annotated⟩ := remembers .statefulSet key sts chosen here
      have found : base.statefulSets key = some later := present
      simp only [found, annotated, chosen, true_and]
      cases already : sts.annotations.find? originalReplicasAnn with
      | some text => rw [remembered_of_find? already]
      | none => exact originalReplicas_remembered already
    · obtain ⟨later, present, changed⟩ := rescaled.present .statefulSet key sts here
      obtain rfl : later = sts := changed.resolve_right fun both => chosen both.1
      have found : base.statefulSets key = some later := present
      simp only [found, chosen, Bool.false_eq_true, false_and, ↓reduceIte]
      cases already : later.annotations.find? originalReplicasAnn with
      | some text => rfl
      | none => exact originalReplicas_of_not_annotated already

private theorem CutoverPass.rescaled (pass : CutoverPass source frozen) (clusters : Clusters) :
    Rescaled frozen (clusters source) (pass.run clusters source) := by
  obtain ⟨env, act, oracle, rfl, rfl, serene, spares⟩ := pass
  obtain ⟨t, reached, _, ends⟩ := runCutover_split serene spares act { clusters, action := act }
  exact reached.trans (by simpa [CutoverPass.run, ends, SourceRescaled] using rescaled_rollbackIfDue serene act t)

private theorem CutoverPass.remembers (pass : CutoverPass source frozen)
    (freezing : freezes pass.act.status.phase = true) (clusters : Clusters) :
    Remembers frozen (clusters source) (pass.run clusters source) := by
  obtain ⟨env, act, oracle, rfl, rfl, serene, spares⟩ := pass
  obtain ⟨t, _, remembers, ends⟩ := runCutover_split serene spares act { clusters, action := act }
  exact (remembers freezing).rescaled
    (by simpa [CutoverPass.run, ends, SourceRescaled] using rescaled_rollbackIfDue serene act t)

private theorem CutoverPass.rescaled_foldl (passes : List (CutoverPass source frozen))
    (clusters : Clusters) : Rescaled frozen (clusters source)
      (passes.foldl (fun clusters pass => pass.run clusters) clusters source) := by
  induction passes generalizing clusters with
  | nil => exact Rescaled.refl _
  | cons pass rest ih => exact (pass.rescaled clusters).trans (ih (pass.run clusters))

private theorem CutoverPass.rollsBack (pass : CutoverPass source frozen)
    (rollback : pass.act.spec.rollback = true) {start : Cluster} {clusters : Clusters}
    (remembers : Remembers frozen start (clusters source)) (from_ : Rescaled frozen start (clusters source))
    {kind : ControllerKind} {key : ObjKey} (chosen : frozen kind key = true) {now : Controller}
    (here : kind.table (pass.run clusters source) key = some now) :
    now.replicas = some (rememberedCount frozen start key) := by
  obtain ⟨env, act, oracle, rfl, rfl, serene, spares⟩ := pass
  obtain ⟨w, member, scalable, rfl⟩ := frozenAt_iff.mp chosen
  rw [← rollbackCount_eq remembers from_]
  exact runCutover_rollsBack serene spares rollback _ remembers from_ member scalable here

end

/-- In every run of freeze and rollback cycles with any edits in between, a cycle
brings a controller that it freezes back to the count it had just before the freeze
exactly if that count is the one the freeze leaves to be read. -/
theorem run_unfreezes_iff {start state : Clusters} {steps : List (Process.Step Clusters FreezeCycle Clusters)}
    (run : FreezeRun start steps state) {step : Process.Step Clusters FreezeCycle Clusters}
    (taken : step ∈ steps) {kind : ControllerKind} {key : ObjKey} (frozen : step.input.frozen kind key = true)
    {controller : Controller}
    (here : kind.table (step.input.edit step.before step.input.source) key = some controller) :
    (∃ now, kind.table (step.output step.input.source) key = some now ∧ now.wanted = controller.wanted) ↔
      rememberedCount step.input.frozen (step.input.edit step.before step.input.source) key =
        controller.wanted := by
  have done := run.taken step taken
  obtain ⟨before, cycle, after⟩ := step
  obtain rfl : cycle.run (cycle.edit before) = after := by simpa using done
  dsimp only at frozen here ⊢
  have froze := cycle.first.rescaled (cycle.edit before)
  have later := CutoverPass.rescaled_foldl cycle.later (cycle.first.run (cycle.edit before))
  have remembers := (cycle.first.remembers cycle.freezing (cycle.edit before)).rescaled later
  have all := (froze.trans later).trans (cycle.back.rescaled _)
  obtain ⟨now, present, _⟩ := all.present kind key controller here
  have replicas := cycle.back.rollsBack cycle.rollback remembers (froze.trans later) frozen present
  have wanted : now.wanted = rememberedCount cycle.frozen (cycle.edit before cycle.source) key := by
    simp [Controller.wanted, replicas]
  constructor
  · rintro ⟨other, same, restored⟩
    obtain rfl : now = other := by
      have found : kind.table (cycle.run (cycle.edit before) cycle.source) key = some now := present
      simpa [found] using same
    exact wanted.symm.trans restored
  · intro remembered
    exact ⟨now, present, wanted.trans remembered⟩

/-- A StatefulSet with a claim for each of its pods. -/
def ledgerSet (replicas : Int32) : WalkedStatefulSet :=
  { name := "ledger", replicas := some replicas, claimTemplates := ["data"] }

def ledgerListing (replicas : Int32) : Listing where
  statefulSets ns := .ok (if ns = "shop" then [ledgerSet replicas] else [])
  claims ns := .ok (if ns = "shop" then [{ name := "data-ledger-0" }, { name := "data-ledger-1" }] else [])

theorem ledgerListing_keeps (replicas replicas' : Int32) :
    (ledgerListing replicas).Keeps (ledgerListing replicas') where
  statefulSets ns items listed := by
    obtain rfl := Except.ok.inj listed
    refine ⟨_, rfl, ?_⟩
    split <;> simp [ledgerSet]
  deployments ns items listed := ⟨items, listed, fun item member => ⟨item.replicas, member⟩⟩

/-- The inventory at a count; at zero the second claim is a workload of its own. -/
def ledgerWalk (replicas : Int32) : List Workload := ((walk (ledgerListing replicas) ["shop"]).toOption).getD []

theorem ledger_walked (replicas : Int32) : walk (ledgerListing replicas) ["shop"] = .ok (ledgerWalk replicas) := by
  simp [ledgerWalk, walk, walkNamespace, ledgerListing, listing, Except.mapError, bind, Except.bind, pure,
    Except.pure, Except.toOption]

def ledgerKey : ObjKey := ⟨"shop", "ledger"⟩

/-- A pass that finds the set at a count, in a cycle that found it at another. -/
def ledgerPass (phase : ActionPhase) (rollback : Bool) (replicas before : Int32) :
    CutoverPass 0 (frozenAt (ledgerWalk before)) where
  env := { source := { kube := 0 }, dest := { kube := 1 }, inventory := ledgerWalk replicas }
  act := { spec := { type := .cutover, policyRef := "shop", rollback }, status := { phase } }
  oracle := {}
  reads := rfl
  walked := frozenAt_walk (ledgerListing_keeps before replicas) (ledgerListing_keeps replicas before)
    (List.nodup_singleton "shop") (by decide +kernel) (ledger_walked before) (ledger_walked replicas)
  serene := serene_default
  spares := fun _ _ _ _ => rfl

/-- A cycle before which a user sets the count. -/
def ledgerCycle (replicas : Int32) : FreezeCycle where
  edit := fun clusters c =>
    match (clusters c).statefulSets ledgerKey with
    | none => clusters c
    | some sts => ControllerKind.put .statefulSet (clusters c) ledgerKey { sts with replicas := some replicas }
  source := 0
  frozen := frozenAt (ledgerWalk replicas)
  first := ledgerPass .pending false replicas replicas
  later := [ledgerPass .quiescing false 0 replicas]
  back := ledgerPass .catchingUp true 0 replicas
  freezing := rfl
  rollback := rfl

def ledgerClusters : Clusters := fun _ =>
  { statefulSets := fun key => if key = ledgerKey then some {} else none }

/-- The set is at three when the cycle starts, and at three when it ends. -/
theorem run_unfreezes_ledger : ∃ steps state, FreezeRun ledgerClusters steps state ∧ ∃ step ∈ steps,
    ∃ now, ControllerKind.table .statefulSet (step.output 0) ledgerKey = some now ∧ now.wanted = 3 := by
  have run : FreezeRun ledgerClusters [⟨ledgerClusters, ledgerCycle 3, _⟩] _ := Process.Run.snoc .nil rfl
  have here : ControllerKind.table .statefulSet ((ledgerCycle 3).edit ledgerClusters 0) ledgerKey =
      some { replicas := some 3 } := by decide
  have restored := run_unfreezes_iff run (List.mem_singleton.mpr rfl) (by decide +kernel) here
  exact ⟨_, _, run, _, List.mem_singleton.mpr rfl, restored.mpr (by decide +kernel)⟩

/-- A user rescales the set from three to five between two cycles, and the second
one brings three back. -/
theorem run_unfreezes_stale_count : ∃ steps state, FreezeRun ledgerClusters steps state ∧ ∃ step ∈ steps,
    ∃ before now,
      ControllerKind.table .statefulSet (step.input.edit step.before 0) ledgerKey = some before ∧
      before.wanted = 5 ∧
      ControllerKind.table .statefulSet (step.output 0) ledgerKey = some now ∧ now.wanted = 3 := by
  have run : FreezeRun ledgerClusters
      [⟨ledgerClusters, ledgerCycle 3, _⟩, ⟨_, ledgerCycle 5, _⟩] _ := .snoc (.snoc .nil rfl) rfl
  refine ⟨_, _, run, _, List.mem_cons_of_mem _ (List.mem_singleton.mpr rfl), ?_⟩
  exact ⟨_, _, rfl, by decide +kernel, rfl, by decide +kernel⟩

end Portage
