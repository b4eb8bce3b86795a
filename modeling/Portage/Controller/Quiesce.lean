import Portage.Classify.Walk
import Portage.Controller.Cutover
import Portage.Kube.Confined
import Portage.Kube.Quiet

/-! When a Cutover leaves Quiescing. A pass asks for the count of every stateful workload,
and only a StatefulSet or a Deployment has one. -/
namespace Portage

open Go Kube Process Program

/-! ### Workloads at zero -/

/-- Everything that is frozen and can be scaled has `spec.replicas = 0`. -/
def AtZero (env : Env) (cluster : Cluster) : Prop :=
  ∀ w ∈ env.frozenWorkloads, ∀ kind, ControllerKind.of? w.kind = some kind →
    ∃ controller, kind.table cluster w.objKey = some controller ∧ controller.replicas = some 0

/-- Every call of the pass is served, and nobody else scales the source up. -/
structure Quiesced (env : Env) (o : Oracle) : Prop where
  served : ∀ n req, req.exports = false → o.fault n req = none
  held : ∀ n clusters, AtZero env (clusters env.source.kube) → AtZero env (o.drift n clusters env.source.kube)

theorem Quiesced.of_serene {env : Env} {o : Oracle} (serene : o.Serene) : Quiesced env o :=
  ⟨serene.served, fun n clusters zero => by rwa [serene.still n clusters]⟩

/-- Writing a controller with no replicas keeps everything at zero. -/
theorem AtZero.put {env : Env} {cluster : Cluster} (zero : AtZero env cluster) (kind : ControllerKind) (key : ObjKey)
    {controller : Controller} (none_ : controller.replicas = some 0) :
    AtZero env (kind.put cluster key controller) := by
  intro w member other scalable
  by_cases same : other = kind ∧ w.objKey = key
  · obtain ⟨rfl, rfl⟩ := same
    exact ⟨controller, ControllerKind.table_put_self _ _ _ _, none_⟩
  · rw [ControllerKind.table_put_other same]
    exact zero w member other scalable

/-- The source is at zero. -/
def SourceAtZero (env : Env) (s : World) : Prop := AtZero env (s.clusters env.source.kube)

section
variable {env : Env} {o : Oracle}

private theorem zero_chains (env : Env) : Chains (Keeps (SourceAtZero env)) := keeps_chains _

private theorem zero_of_quiet (quiesced : Quiesced env o) {x : Prog α}
    (moves : Moves o (Extends o fun e => e.touches = false) x) : Moves o (Keeps (SourceAtZero env)) x := by
  intro s zero
  obtain ⟨_, added, _, quiet, drifts⟩ := moves s
  exact drifts quiet (fun clusters => AtZero env (clusters env.source.kube)) quiesced.held zero

/-- Freezing a workload keeps the others at zero, whether or not the write is served. -/
private theorem zero_freeze (quiesced : Quiesced env o) (w : Workload) :
    Moves o (Keeps (SourceAtZero env)) (tryScale env.source.kube w 0) := by
  refine Moves.bind (zero_chains env) ?_ fun _ => Moves.pure (zero_chains env) _
  unfold scale
  cases ControllerKind.of? w.kind with
  | none => exact Moves.pure (zero_chains env) _
  | some kind =>
    refine Moves.bind (zero_chains env) (zero_of_quiet quiesced (moves_getObject _ _ _ _)) fun answer => ?_
    cases answer with
    | error refused => exact Moves.pure (zero_chains env) _
    | ok controller =>
      refine Moves.bind (zero_chains env) ?_ fun answer => ?_
      · intro s zero
        have drifted := quiesced.held s.calls s.clusters zero
        rcases send_drifted (o := o) (.update env.source.kube kind.resource w.objKey) env.source.kube _ s
          with same | ⟨after, changed, same⟩
        · rw [SourceAtZero, updateController, same]
          exact drifted
        · rw [SourceAtZero, updateController, same]
          simp only [↓reduceIte]
          split at changed
          · cases changed
          · split at changed
            · cases changed
              exact drifted.put kind w.objKey rfl
            · cases changed
      · cases answer <;> exact Moves.pure (zero_chains env) _

private theorem zero_syncObjects (quiesced : Quiesced env o) (dest : Option ClusterId) (objects : List String) :
    Moves o (Keeps (SourceAtZero env)) (syncObjects dest objects) := by
  cases dest with
  | none => exact Moves.pure (zero_chains env) _
  | some c =>
    intro s zero
    have drifted := quiesced.held s.calls s.clusters zero
    -- The graph is payloads only, so the controllers are those after the drift.
    intro w member kind scalable
    obtain ⟨controller, present, none_⟩ := drifted w member kind scalable
    refine ⟨controller, ?_, none_⟩
    rw [← present]
    by_cases empty : objects = []
    · simp [syncObjects, record, tick, empty]
    · by_cases same : env.source.kube = c <;> cases kind <;>
        simp [syncObjects, record, tick, empty, same, ControllerKind.table]

private theorem zero_cutoverStep (quiesced : Quiesced env o) (seen : CutoverSeen) (w : Workload) :
    Moves o (Keeps (SourceAtZero env)) (cutoverStep env .quiescing seen w) := by
  unfold cutoverStep
  split
  · refine Moves.bind (zero_chains env) ?_ fun answer => ?_
    · unfold syncClusterObjectsLive writeGraph
      cases env.listClusterObjects with
      | error text => exact Moves.pure (zero_chains env) _
      | ok objects =>
        dsimp only
        cases env.destDynamic with
        | error text => exact Moves.pure (zero_chains env) _
        | ok dest => exact zero_syncObjects quiesced dest objects
    · cases answer <;> exact Moves.pure (zero_chains env) _
  · refine Moves.bind (zero_chains env) (zero_freeze quiesced w) fun _ => zero_of_quiet quiesced ?_
    exact moves_bind (moves_caughtUp env w fun _ quiet => quiet) fun _ =>
      moves_bind (moves_pure _) fun _ => moves_bind (moves_pure _) fun _ =>
        moves_bind (moves_isReady _ w) fun _ =>
          moves_bind (moves_probeReady env w (fun _ quiet => quiet) _) fun _ => moves_pure _

/-! ### What the freeze is judged by -/

/-- A workload of another kind is never seen at zero. -/
theorem scaledToZero_unscalable {w : Workload} (other : ControllerKind.of? w.kind = none) (c : ClusterId)
    (s : World) : (scaledToZero c w o s).1 = false := by
  simp [scaledToZero, other]

/-- A workload at zero is seen there. -/
private theorem scaledToZero_zero (quiesced : Quiesced env o) {w : Workload} (member : w ∈ env.frozenWorkloads)
    {kind : ControllerKind} (scalable : ControllerKind.of? w.kind = some kind) {s : World}
    (zero : SourceAtZero env s) : (scaledToZero env.source.kube w o s).1 = true := by
  obtain ⟨controller, present, none_⟩ := quiesced.held s.calls s.clusters zero w member kind scalable
  have served := quiesced.served s.calls (.get env.source.kube kind.resource w.objKey) rfl
  simp [scaledToZero, scalable, getObject, fetch, tick, served, present, found_some, none_]

/-- One workload that cannot be scaled keeps the freeze from being seen. -/
private theorem sourceFrozen_blocked {w : Workload} (member : w ∈ env.frozenWorkloads)
    (other : ControllerKind.of? w.kind = none) (s : World) : (sourceFrozen env o s).1 = false := by
  have loop : Holds o (fun _ => w ∈ [] → true = false) (sourceFrozen env)
      fun frozen _ => w ∈ env.frozenWorkloads → frozen = false := by
    refine Holds.fold (fun done frozen _ => w ∈ done → frozen = false) env.frozenWorkloads ?_ true
    intro done v rest frozen split t before inside
    rcases List.mem_append.mp inside with earlier | last
    · simp [before earlier]
    · obtain rfl : w = v := by simpa using last
      simp [scaledToZero_unscalable other]
  exact loop s (by simp) member

private theorem sourceFrozen_all (quiesced : Quiesced env o)
    (scalable : ∀ w ∈ env.frozenWorkloads, (ControllerKind.of? w.kind).isSome) {s : World}
    (zero : SourceAtZero env s) : (sourceFrozen env o s).1 = true := by
  have loop : Holds o (fun t => true = true ∧ SourceAtZero env t) (sourceFrozen env)
      fun frozen t => frozen = true ∧ SourceAtZero env t := by
    refine Holds.fold (fun _ frozen t => frozen = true ∧ SourceAtZero env t) env.frozenWorkloads ?_ true
    intro done v rest frozen split t before
    have member : v ∈ env.frozenWorkloads := by simp [split]
    obtain ⟨kind, known⟩ := Option.isSome_iff_exists.mp (scalable v member)
    have kept := zero_of_quiet quiesced (moves_scaledToZero env.source.kube v) t before.2
    exact ⟨by simp [before.1, scaledToZero_zero quiesced member known before.2], kept⟩
  exact (loop s ⟨rfl, zero⟩).1

/-! ### Leaving Quiescing -/

/-- The phase after a pass in Quiescing, from what the freeze is judged by. -/
private theorem runCutover_phase {act : Action} (quiescing : act.status.phase = .quiescing) (s : World) :
    (runCutover env act o s).1.phase =
      if act.spec.rollback = true then .rolledBack
      else if (sourceFrozen env o (Program.fold (cutoverStep env .quiescing) env.stateful {} o s).2).1 = true
      then .catchingUp else .quiescing := by
  cases rollback : act.spec.rollback with
  | true => simp [runCutover, cutoverFacts, Cutover.advance, quiescing, rollback]
  | false =>
    cases frozen : (sourceFrozen env o (Program.fold (cutoverStep env .quiescing) env.stateful {} o s).2).1 <;>
      simp [runCutover, cutoverFacts, Cutover.advance, quiescing, rollback, frozenIfDue, startsCutover, frozen]

/-- A stateful workload that cannot be scaled keeps the Action in Quiescing, whatever the
calls answer and whatever the others do. -/
theorem runCutover_blocked {act : Action} (quiescing : act.status.phase = .quiescing)
    (forward : act.spec.rollback = false) {w : Workload} (member : w ∈ env.frozenWorkloads)
    (other : ControllerKind.of? w.kind = none) (s : World) :
    (runCutover env act o s).1.phase = .quiescing := by
  rw [runCutover_phase quiescing, sourceFrozen_blocked member other]
  simp [forward]

/-- A pass in Quiescing in which every call is served and everything that can be scaled is
at zero moves on exactly if no rollback is wanted and every stateful workload is of a kind
that can be scaled. -/
theorem runCutover_catchingUp_iff (quiesced : Quiesced env o) {act : Action}
    (quiescing : act.status.phase = .quiescing) (s : World) (zero : AtZero env (s.clusters env.source.kube)) :
    (runCutover env act o s).1.phase = .catchingUp ↔
      act.spec.rollback = false ∧ ∀ w ∈ env.frozenWorkloads, w.kind = "StatefulSet" ∨ w.kind = "Deployment" := by
  have scalable_iff (kind : String) :
      (ControllerKind.of? kind).isSome = true ↔ kind = "StatefulSet" ∨ kind = "Deployment" := by
    unfold ControllerKind.of?
    split_ifs with set deployment <;> simp [*]
  constructor
  · intro moved
    have forward : act.spec.rollback = false := by
      rw [runCutover_phase quiescing] at moved
      cases rollback : act.spec.rollback <;> simp_all
    refine ⟨forward, fun w member => (scalable_iff w.kind).mp ?_⟩
    cases known : ControllerKind.of? w.kind with
    | some kind => rfl
    | none => rw [runCutover_blocked quiescing forward member known] at moved; cases moved
  · rintro ⟨forward, kinds⟩
    have kept : SourceAtZero env (Program.fold (cutoverStep env .quiescing) env.stateful {} o s).2 :=
      Moves.fold (zero_chains env) (fun seen w _ => zero_cutoverStep quiesced seen w) {} s zero
    rw [runCutover_phase quiescing, sourceFrozen_all quiesced
      (fun w member => (scalable_iff w.kind).mpr (kinds w member)) kept]
    simp [forward]

end

/-- A pass over some workloads, before which the source is at zero. -/
def quiescingEnv (inventory : List Workload) : Env := { source := { kube := 0 }, dest := { kube := 1 }, inventory }

def quiescingAction : Action :=
  { spec := { type := .cutover, policyRef := "shop" }, status := { phase := .quiescing } }

def ordersListing : Listing where
  statefulSets := fun _ => .ok [{ name := "orders", claimTemplates := ["data"] }]

def ordersSet : Workload :=
  { namespace_ := "shop", name := "orders", kind := "StatefulSet", cls := .genericPVC, pvcNames := ["data-orders-0"] }

def ordersAtZero : Clusters := fun _ =>
  { statefulSets := fun key => if key = ⟨"shop", "orders"⟩ then some { replicas := some 0 } else none }

/-- A StatefulSet at zero lets the Cutover go on. -/
theorem runCutover_orders : walk ordersListing ["shop"] = .ok [ordersSet] ∧
    (runCutover (quiescingEnv [ordersSet]) quiescingAction {}
      { clusters := ordersAtZero, action := quiescingAction }).1.phase = .catchingUp := by
  have only : (quiescingEnv [ordersSet]).frozenWorkloads = [ordersSet] := by decide
  have zero : AtZero (quiescingEnv [ordersSet]) (ordersAtZero 0) := by
    intro w member kind scalable
    obtain rfl : w = ordersSet := by simpa [only] using member
    obtain rfl : ControllerKind.statefulSet = kind := Option.some.inj scalable
    exact ⟨{ replicas := some 0 }, rfl, rfl⟩
  refine ⟨by decide +kernel, ?_⟩
  exact (runCutover_catchingUp_iff (.of_serene serene_default) rfl _ zero).mpr (by decide)

def agentListing : Listing where
  daemonSets := fun _ => .ok [{ name := "agent", template := { volumes := [some "spool"] } }]
  claims := fun _ => .ok [{ name := "spool" }, { name := "archive" }]

def agentInventory : List Workload :=
  [{ namespace_ := "ops", name := "agent", kind := "DaemonSet", cls := .genericPVC, pvcNames := ["spool"] },
   leftoverClaim "ops" "archive"]

/-- A DaemonSet with a claim and a claim that nothing uses: nothing is there to scale, every
call is served, and the Cutover waits. -/
theorem runCutover_agent : walk agentListing ["ops"] = .ok agentInventory ∧ Oracle.Serene {} ∧
    AtZero (quiescingEnv agentInventory) {} ∧
    (runCutover (quiescingEnv agentInventory) quiescingAction {}
      { clusters := fun _ => {}, action := quiescingAction }).1.phase = .quiescing := by
  refine ⟨by decide +kernel, serene_default, ?_, by decide +kernel⟩
  intro w member kind scalable
  have unscalable : ∀ w ∈ (quiescingEnv agentInventory).frozenWorkloads, ControllerKind.of? w.kind = none := by decide
  simp [unscalable w member] at scalable

end Portage
