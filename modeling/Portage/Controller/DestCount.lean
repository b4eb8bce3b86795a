import Portage.Controller.Freeze
import Portage.Kube.Confined
import Portage.Process.Run

/-! What a Cutover does to the replica count of a workload that the destination has
already. Every pass that brings the destination up asks for one replica, whatever the
count is. -/
namespace Portage

open Go Kube Process Program

/-- The replicas that a controller of a cluster asks for, if it is there. -/
def countAt (c : ClusterId) (kind : ControllerKind) (key : ObjKey) (clusters : Clusters) : Option Int32 :=
  (kind.table (clusters c) key).map Controller.wanted

/-- Promoting a workload scales it on the destination: through the streaming replica, or
for want of a mover. -/
def promotesByScale (env : Env) (w : Workload) : Bool :=
  match replicator env.movers env.policy w with
  | some .postgresStreaming => env.dest.exec.isSome
  | some _ => false
  | none => if w.engine = "postgres" ∨ w.engine = "timescale" then env.dest.exec.isSome else true

/-- The controller is the one behind a workload. -/
def Behind (kind : ControllerKind) (key : ObjKey) (w : Workload) : Prop :=
  ControllerKind.of? w.kind = some kind ∧ w.objKey = key

instance (kind : ControllerKind) (key : ObjKey) (w : Workload) : Decidable (Behind kind key w) :=
  inferInstanceAs (Decidable (_ ∧ _))

/-- A pass in this phase scales a workload on the destination. -/
def raises (env : Env) (phase : ActionPhase) (w : Workload) : Bool :=
  bringsUp phase || (decide (phase = .promoting) && promotesByScale env w)

/-- A pass in this phase scales the controller on the destination. -/
def raisesAt (env : Env) (phase : ActionPhase) (kind : ControllerKind) (key : ObjKey) : Bool :=
  env.frozenWorkloads.any fun w => decide (Behind kind key w) && raises env phase w

/-- Nobody else rescales the controller while a pass runs: neither other clients nor the
plugins behind webhooks. -/
structure Kube.Oracle.LeavesCount (o : Oracle) (c : ClusterId) (kind : ControllerKind) (key : ObjKey) : Prop where
  drift : ∀ n clusters, countAt c kind key (o.drift n clusters) = countAt c kind key clusters
  plugin : ∀ n clusters, countAt c kind key (o.replicated n clusters) = countAt c kind key clusters

/-- The controller is still there and asks for no less. -/
def NotLowered (c : ClusterId) (kind : ControllerKind) (key : ObjKey) (before after : Clusters) : Prop :=
  ∀ n, countAt c kind key before = some n → ∃ m, countAt c kind key after = some m ∧ n ≤ m

/-- What a relation between worlds has to allow for a step that leaves the count alone. -/
structure CountRule (c : ClusterId) (kind : ControllerKind) (key : ObjKey) (R : World → World → Prop) : Prop where
  chains : Chains R
  same : ∀ s t : World, countAt c kind key t.clusters = countAt c kind key s.clusters → R s t

/-- The relation allows the controller to be scaled. -/
def Allows (c : ClusterId) (kind : ControllerKind) (key : ObjKey) (R : World → World → Prop) (replicas : Int32) : Prop :=
  ∀ s t : World, (countAt c kind key s.clusters).isSome → countAt c kind key t.clusters = some replicas → R s t

/-! ### One scale -/

section
variable {c : ClusterId} {kind other : ControllerKind} {key wanted : ObjKey} {clusters : Clusters}

theorem countAt_put_self (controller : Controller) :
    countAt c kind key (fun x => if x = c then kind.put (clusters c) key controller else clusters x) =
      some controller.wanted := by
  simp [countAt]

theorem countAt_put_other {at_ : ClusterId} (different : ¬ (at_ = c ∧ other = kind ∧ wanted = key))
    (controller : Controller) :
    countAt c kind key (fun x => if x = at_ then other.put (clusters at_) wanted controller else clusters x) =
      countAt c kind key clusters := by
  unfold countAt
  dsimp only
  by_cases here : c = at_
  · subst here
    rw [if_pos rfl, ControllerKind.table_put_other]
    rintro ⟨rfl, rfl⟩
    exact different ⟨rfl, rfl, rfl⟩
  · rw [if_neg here]

end

section
variable {o : Oracle} {c : ClusterId} {kind : ControllerKind} {key : ObjKey} (leaves : o.LeavesCount c kind key)
variable {R : World → World → Prop} (rule : CountRule c kind key R)
include leaves rule

/-- What writes nothing leaves the count to the others. -/
theorem count_quiet {x : Prog α} (moves : Moves o (Extends o fun e => e.touches = false) x) : Moves o R x := by
  intro s
  obtain ⟨_, _, _, quiet, drifts⟩ := moves s
  refine rule.same _ _
    (drifts quiet (fun clusters => countAt c kind key clusters = countAt c kind key s.clusters) ?_ rfl)
  intro n clusters kept
  rw [leaves.drift, kept]

/-- Scaling sets the count of its own controller and leaves every other alone. -/
theorem count_scale {at_ : ClusterId} {w : Workload} {replicas : Int32}
    (hits : at_ = c → Behind kind key w → Allows c kind key R replicas) :
    Moves o R (scale at_ w replicas) := by
  unfold scale
  cases scalable : ControllerKind.of? w.kind with
  | none => exact .pure rule.chains _
  | some other =>
    refine .bind rule.chains (count_quiet leaves rule (moves_getObject _ _ _ _)) fun answer => ?_
    cases answer with
    | error refused => exact .pure rule.chains _
    | ok controller =>
      refine .bind rule.chains (fun s => ?_) fun answer => ?_
      · have drifted := leaves.drift s.calls s.clusters
        rcases send_drifted (o := o) (.update at_ other.resource w.objKey) at_ _ s with unchanged | ⟨after, changed, put⟩
        · refine rule.same _ _ ?_
          rw [updateController, unchanged, drifted]
        · obtain ⟨now, there, rfl⟩ : ∃ now, other.table (o.drift s.calls s.clusters at_) w.objKey = some now ∧
              after = other.put (o.drift s.calls s.clusters at_) w.objKey (controller.scaled replicas) := by
            split at changed
            · cases changed
            · split at changed
              · cases changed
                exact ⟨_, ‹_›, rfl⟩
              · cases changed
          by_cases hit : at_ = c ∧ other = kind ∧ w.objKey = key
          · obtain ⟨rfl, rfl, rfl⟩ := hit
            refine hits rfl ⟨scalable, rfl⟩ _ _ ?_ ?_
            · rw [← drifted, countAt, there]
              rfl
            · rw [updateController, put, countAt_put_self]
              rfl
          · refine rule.same _ _ ?_
            rw [updateController, put, countAt_put_other hit, drifted]
      · cases answer <;> exact .pure rule.chains _

theorem count_tryScale {at_ : ClusterId} {w : Workload} {replicas : Int32}
    (hits : at_ = c → Behind kind key w → Allows c kind key R replicas) :
    Moves o R (tryScale at_ w replicas) :=
  .bind rule.chains (count_scale leaves rule hits) fun _ => .pure rule.chains _

/-- The object graph holds no controllers. -/
theorem count_syncObjects (dest : Option ClusterId) (objects : List String) :
    Moves o R (syncObjects dest objects) := by
  cases dest with
  | none => exact .pure rule.chains _
  | some d =>
    intro s
    refine rule.same _ _ ?_
    rw [← leaves.drift s.calls s.clusters]
    by_cases empty : objects = []
    · simp [syncObjects, record, tick, empty]
    · by_cases here : c = d <;> cases kind <;>
        simp [syncObjects, record, tick, empty, here, countAt, ControllerKind.table]

theorem count_callMover (operation : MoverOp) (m : Mover) (w : Workload) : Moves o R (callMover operation m w) := by
  intro s
  exact rule.same _ _ ((leaves.plugin s.calls _).trans (leaves.drift s.calls s.clusters))

end

/-! ### One pass -/

section
variable {env : Env} {o : Oracle} {kind : ControllerKind} {key : ObjKey} {R : World → World → Prop} {w : Workload}
variable (leaves : o.LeavesCount env.dest.kube kind key) (rule : CountRule env.dest.kube kind key R)

include rule in
private theorem count_record (event : Event) : Moves o R (record event) := fun _ => rule.same _ _ rfl

include leaves rule

theorem count_promotePostgres
    (up : env.dest.exec.isSome = true → Behind kind key w → Allows env.dest.kube kind key R 1) :
    Moves o R (promotePostgres env.dest w) := by
  unfold promotePostgres
  cases exec : env.dest.exec with
  | none => exact .pure rule.chains _
  | some c =>
    refine .bind rule.chains (count_scale leaves rule fun _ => up (by simp [exec])) fun answer => ?_
    cases answer with
    | error text => exact .pure rule.chains _
    | ok _ =>
      refine count_quiet leaves rule (moves_bind (moves_firstReadyPod _ _) fun answer => ?_)
      cases answer with
      | error text => exact moves_pure _
      | ok found => exact moves_bind (moves_execIn fun _ => rfl) fun _ => moves_pure _

theorem count_promoteWorkload
    (up : promotesByScale env w = true → Behind kind key w → Allows env.dest.kube kind key R 1) :
    Moves o R (promoteWorkload env w) := by
  have streaming (scales : env.dest.exec.isSome = true → promotesByScale env w = true) :
      Moves o R (Mover.postgresStreaming.promote env.dest w) :=
    .bind rule.chains (count_record rule _) fun _ =>
      count_promotePostgres leaves rule fun client => up (scales client)
  unfold promoteWorkload
  unfold promotesByScale at streaming up
  generalize replicator env.movers env.policy w = found at streaming up ⊢
  cases found with
  | some m =>
    refine .bind rule.chains ?_ fun _ => .pure rule.chains _
    cases m with
    | postgresStreaming => exact streaming fun client => client
    | volsync | rclone => exact .bind rule.chains (count_record rule _) fun _ => .pure rule.chains _
    | webhook plugin => exact count_callMover leaves rule _ _ _
  | none =>
    dsimp only at streaming up ⊢
    split_ifs at streaming up ⊢
    · exact .bind rule.chains (streaming fun client => client) fun _ => .pure rule.chains _
    · exact .bind rule.chains (count_tryScale leaves rule fun _ => up rfl) fun _ => .pure rule.chains _

variable {phase : ActionPhase}

theorem count_cutoverWorkload (apart : env.source.kube = env.dest.kube → freezes phase = false)
    (up : raises env phase w = true → Behind kind key w → Allows env.dest.kube kind key R 1) (seen : CutoverSeen) :
    Moves o R (cutoverWorkload env phase seen w) := by
  have freeze : Moves o R (freezeSource env phase w) := by
    unfold freezeSource
    split
    · rename_i freezing
      refine count_tryScale leaves rule fun one => ?_
      rw [apart one] at freezing
      cases freezing
    · exact .pure rule.chains _
  have promote : Moves o R (promoteIfDue env phase w) := by
    unfold promoteIfDue
    split
    · rename_i due
      exact count_promoteWorkload leaves rule fun scales => up (by simp [raises, due, scales])
    · exact .pure rule.chains _
  have bring : Moves o R (bringUp env phase w) := by
    unfold bringUp
    split
    · rename_i due
      exact count_tryScale leaves rule fun _ => up (by simp [raises, due])
    · exact .pure rule.chains _
  exact .bind rule.chains freeze fun _ =>
    .bind rule.chains (count_quiet leaves rule (moves_caughtUp env w fun _ quiet => quiet)) fun _ =>
      .bind rule.chains promote fun _ => .bind rule.chains bring fun _ =>
        count_quiet leaves rule (moves_bind (moves_isReady _ w) fun _ =>
          moves_bind (moves_probeReady env w (fun _ quiet => quiet) _) fun _ => moves_pure _)

theorem count_cutoverGraph (seen : CutoverSeen) : Moves o R (cutoverGraph env seen w) := by
  refine .bind rule.chains ?_ fun answer => ?_
  · unfold syncClusterObjectsLive writeGraph
    cases env.listClusterObjects with
    | error text => exact .pure rule.chains _
    | ok objects =>
      dsimp only
      cases env.destDynamic with
      | error text => exact .pure rule.chains _
      | ok dest => exact count_syncObjects leaves rule dest objects
  · cases answer <;> exact .pure rule.chains _

theorem count_runCutover {act : Action}
    (apart : env.source.kube = env.dest.kube → freezes act.status.phase = false ∧ act.spec.rollback = false)
    (up : raisesAt env act.status.phase kind key = true → Allows env.dest.kube kind key R 1) :
    Moves o R (runCutover env act) := by
  have step (seen : CutoverSeen) (w : Workload) (member : w ∈ env.stateful) :
      Moves o R (cutoverStep env act.status.phase seen w) := by
    unfold cutoverStep
    split
    · exact count_cutoverGraph leaves rule seen
    · rename_i plain
      refine count_cutoverWorkload leaves rule (fun one => (apart one).1) (fun scales behind => up ?_) seen
      have frozen : w ∈ env.frozenWorkloads := List.mem_filter.mpr ⟨member, by simpa using plain⟩
      exact List.any_eq_true.mpr ⟨w, frozen, by simp [behind, scales]⟩
  have rollback : Moves o R (rollbackIfDue env act) := by
    unfold rollbackIfDue
    split
    · rename_i due
      refine .bind rule.chains (count_quiet leaves rule (moves_callHook env (fun _ quiet => quiet) _)) fun _ =>
        Moves.fold rule.chains (fun _ w _ => ?_) ()
      refine .bind rule.chains (count_quiet leaves rule (moves_rollbackReplicas env w)) fun _ =>
        count_tryScale leaves rule fun one => ?_
      rw [(apart one).2] at due
      cases due
    · exact .pure rule.chains _
  exact .bind rule.chains (.bind rule.chains (Moves.fold rule.chains step _) fun _ =>
    .bind rule.chains (count_quiet leaves rule (moves_frozenIfDue env _)) fun _ =>
      .bind rule.chains (count_quiet leaves rule (moves_switchIfDue env (fun _ quiet => quiet) _)) fun _ =>
        .bind rule.chains rollback fun _ => .pure rule.chains _) fun _ => .pure rule.chains _

end

/-! ### Runs -/

/-- One pass of a Cutover, after whatever others have done to the clusters since the last. -/
structure CutoverInput where
  edit : Clusters → Clusters := id
  env : Env
  act : Action
  oracle : Oracle

def CutoverInput.run (input : CutoverInput) (clusters : Clusters) : Clusters :=
  (runCutover input.env input.act input.oracle { clusters, action := input.act }).2.clusters

/-- Passes of Cutovers, one after the other. -/
abbrev CutoverRun := Run (fun clusters (input : CutoverInput) => some (input.run (input.edit clusters)))
  fun _ _ after => after

/-- The pass does not ask for less than a controller of the destination has: it does not
bring a controller up that has more than one replica, and it does not freeze or roll back
the destination itself. Nobody else rescales it meanwhile. -/
structure CutoverInput.Raising (input : CutoverInput) (kind : ControllerKind) (key : ObjKey) (clusters : Clusters) :
    Prop where
  leaves : input.oracle.LeavesCount input.env.dest.kube kind key
  apart : input.env.source.kube = input.env.dest.kube →
    freezes input.act.status.phase = false ∧ input.act.spec.rollback = false
  small : raisesAt input.env input.act.status.phase kind key = true →
    ∀ n, countAt input.env.dest.kube kind key clusters = some n → n ≤ 1

/-- The count does not go down, and stays at most one if it was. -/
private def Climbs (c : ClusterId) (kind : ControllerKind) (key : ObjKey) (s t : World) : Prop :=
  ∀ n, countAt c kind key s.clusters = some n → n ≤ 1 →
    ∃ m, countAt c kind key t.clusters = some m ∧ n ≤ m ∧ m ≤ 1

private theorem climbs_rule (c : ClusterId) (kind : ControllerKind) (key : ObjKey) :
    CountRule c kind key (Climbs c kind key) where
  chains := {
    refl := fun _ n count small => ⟨n, count, Int32.le_refl n, small⟩
    trans := by
      intro s t u first second n count small
      obtain ⟨m, between, more, still⟩ := first n count small
      obtain ⟨l, after, most, last⟩ := second m between still
      exact ⟨l, after, Int32.le_trans more most, last⟩ }
  same := fun _ _ same n count small => ⟨n, same.trans count, Int32.le_refl n, small⟩

private theorem same_rule (c : ClusterId) (kind : ControllerKind) (key : ObjKey) :
    CountRule c kind key fun s t => countAt c kind key t.clusters = countAt c kind key s.clusters where
  chains := ⟨fun _ => rfl, fun first second => second.trans first⟩
  same := fun _ _ same => same

/-- One pass. -/
theorem CutoverInput.Raising.run {input : CutoverInput} {kind : ControllerKind} {key : ObjKey} {clusters : Clusters}
    (raising : input.Raising kind key clusters) :
    NotLowered input.env.dest.kube kind key clusters (input.run clusters) := by
  intro n count
  cases scaled : raisesAt input.env input.act.status.phase kind key with
  | false =>
    have kept := count_runCutover raising.leaves (same_rule _ kind key) raising.apart
      (fun scales => by rw [scaled] at scales; cases scales) { clusters, action := input.act }
    exact ⟨n, kept.trans count, Int32.le_refl n⟩
  | true =>
    have climbs := count_runCutover raising.leaves (climbs_rule _ kind key) raising.apart
      (fun _ _ _ _ one _ _ small => ⟨1, one, small, Int32.le_refl 1⟩) { clusters, action := input.act }
    obtain ⟨m, after, more, _⟩ := climbs n count (raising.small scaled n count)
    exact ⟨m, after, more⟩

/-- In a run of Cutovers whose passes do not ask for less than the destination has, no
pass lowers the count of a controller that is there. -/
theorem run_notLowered {start clusters : Clusters} {steps : List (Step Clusters CutoverInput Clusters)}
    (run : CutoverRun start steps clusters) (kind : ControllerKind) (key : ObjKey)
    (raising : ∀ step ∈ steps, step.input.Raising kind key (step.input.edit step.before)) :
    ∀ step ∈ steps, NotLowered step.input.env.dest.kube kind key (step.input.edit step.before) step.output := by
  intro step member
  have taken := run.taken step member
  rw [← Option.some.inj taken]
  exact (raising step member).run

/-! ### A basket with one and with three replicas -/

def basket : Workload :=
  { namespace_ := "shop", name := "basket", kind := "StatefulSet", cls := .kvLogical, engine := "redis" }

/-- A pass of a Cutover that switches over. -/
def basketPass : CutoverInput where
  env := { source := { kube := 0 }, dest := { kube := 1 }, inventory := [basket] }
  act := { spec := { type := .cutover, policyRef := "shop" }, status := { phase := .switching } }
  oracle := {}

/-- The basket on both clusters, with a count on the destination. -/
def basketsAt (replicas : Int32) : Clusters := fun c =>
  ControllerKind.statefulSet.put {} basket.objKey { replicas := some (if c = 1 then replicas else 0) }

theorem run_notLowered_basket : ∃ steps clusters, CutoverRun (basketsAt 1) steps clusters ∧ steps.length = 1 ∧
    ∀ step ∈ steps, NotLowered step.input.env.dest.kube .statefulSet basket.objKey (step.input.edit step.before)
      step.output := by
  have run : CutoverRun (basketsAt 1) [⟨basketsAt 1, basketPass, basketPass.run (basketsAt 1)⟩] _ := .snoc .nil rfl
  refine ⟨_, _, run, rfl, run_notLowered run .statefulSet basket.objKey fun step member => ?_⟩
  obtain rfl := List.mem_singleton.mp member
  have one : countAt 1 .statefulSet basket.objKey (basketsAt 1) = some 1 := by decide
  refine ⟨⟨fun _ _ => rfl, fun _ _ => rfl⟩, fun same => absurd same (by decide), fun _ n count => ?_⟩
  rw [← Option.some.inj (one.symm.trans count)]
  decide

/-- The destination runs three replicas; a pass in Switching scales it to one. -/
theorem run_lowers_basket : ∃ steps clusters, CutoverRun (basketsAt 3) steps clusters ∧
    ∃ step ∈ steps, ¬ NotLowered step.input.env.dest.kube .statefulSet basket.objKey (step.input.edit step.before)
      step.output := by
  have run : CutoverRun (basketsAt 3) [⟨basketsAt 3, basketPass, basketPass.run (basketsAt 3)⟩] _ := .snoc .nil rfl
  refine ⟨_, _, run, _, List.mem_singleton_self _, fun kept => ?_⟩
  have before : countAt 1 .statefulSet basket.objKey (basketsAt 3) = some 3 := by decide
  have after : countAt 1 .statefulSet basket.objKey (basketPass.run (basketsAt 3)) = some 1 := by decide +kernel
  obtain ⟨m, count, more⟩ := kept 3 before
  rw [← Option.some.inj (after.symm.trans count)] at more
  exact absurd more (by decide)

end Portage
