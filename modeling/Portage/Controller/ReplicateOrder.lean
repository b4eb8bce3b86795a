import Portage.Controller.LiveReplica
import Portage.Process.Register

/-! Whether a Replicate pass gives up, waits or attests depends on the one failure that it
has kept when the loop over the workloads ends, and so on their order. -/
namespace Portage

open Go Kube Process Program Register

/-- What the calls of a pass answer, however often and in whatever order they are made. -/
structure ReplicateOutcomes where
  graph : Except String (Bool × String)
  replicate : Mover → Workload → Option String
  probe : Mover → Workload → ProbeResult

structure ReplicateOutcomes.Governs (out : ReplicateOutcomes) (calls : MoverCalls) (env : Env) (o : Oracle) : Prop where
  graph : ∀ s, (syncClusterObjectsLive env o s).1 = out.graph
  replicate : ∀ m w s, (calls.replicate m w o s).1 = out.replicate m w
  probe : ∀ m w s, (calls.probe m w o s).1 = out.probe m w

def waitingText (message : String) : String := "waiting for replica sync: " ++ message

/-- The failure of the object graph; empty if there is none. -/
def ReplicateOutcomes.graphFailed (out : ReplicateOutcomes) : String :=
  match out.graph with
  | .error text => text
  | .ok (true, _) => ""
  | .ok (false, message) => waitingText message

/-- What the outcome of a workload does to the failure that the pass has kept so far. -/
def ReplicateOutcomes.write (out : ReplicateOutcomes) (env : Env) (w : Workload) : Write String :=
  if w.cls = .stateless then .skip
  else if w.isObjectGraph then
    if out.graphFailed = "" then .skip
    else if hasPrefix out.graphFailed "waiting for replica sync" then .fallback out.graphFailed
    else .overwrite out.graphFailed
  else
    match select env.movers w (moverOverride env.policy w .replicate) with
    | .error text => .overwrite text
    | .ok (none, _) => .overwrite noMover
    | .ok (some m, capability) =>
      if !capability.replicate then .overwrite noMover
      else
        match out.replicate m w with
        | some text => .overwrite text
        | none => if (out.probe m w).ok then .skip else .fallback (waitingText (out.probe m w).message)

/-- The failures that replace others are all for want of a mover or none is, all are
without a text or none is, and none without a text stands beside a workload that is
still waited for. -/
structure ReplicateOutcomes.OneKind (out : ReplicateOutcomes) (env : Env) : Prop where
  same : ∀ v ∈ env.inventory, ∀ w ∈ env.inventory, ∀ s t, out.write env v = .overwrite s →
    out.write env w = .overwrite t → ((s = noMover ↔ t = noMover) ∧ (s = "" ↔ t = ""))
  filled : ∀ v ∈ env.inventory, ∀ w ∈ env.inventory, out.write env v = .overwrite "" →
    ∀ t, out.write env w ≠ .fallback t

/-- The phase, whether the Action is done, and whether the pass attests. -/
def ActionResult.verdict (result : ActionResult) : ActionPhase × Bool × Bool :=
  (result.phase, result.terminal, result.attestation.isSome)

/-- The verdict that a failure leads to. -/
def verdictOf (failed : String) : ActionPhase × Bool × Bool :=
  if failed = noMover then (.failed, true, false)
  else (.catchingUp, false, decide (failed = ""))

theorem verdictOf_eq_iff {s t : String} :
    verdictOf s = verdictOf t ↔ ((s = noMover ↔ t = noMover) ∧ (s = "" ↔ t = "")) := by
  have apart : noMover ≠ "" := by decide
  unfold verdictOf
  split_ifs with first second second
  · subst first second
    simp
  · subst first
    simp [second]
  · subst second
    simp [first]
  · simp [first, second]

theorem replicateResult_verdict (env : Env) {act : Action} (wet : act.spec.dryRun = false) (seen : ReplicateSeen) :
    (replicateResult env act seen).verdict = verdictOf seen.failed := by
  simp only [replicateResult, wet, verdictOf, noMover]
  split_ifs <;> simp_all [ActionResult.verdict]

theorem addGraph_failed (seen : ReplicateSeen) (graph : GraphSeen) : (seen.addGraph graph).failed =
    if graph.failed ≠ "" ∧ (seen.failed = "" ∨ hasPrefix graph.failed "waiting for replica sync" = false)
      then graph.failed else seen.failed := by
  unfold ReplicateSeen.addGraph
  cases graph.status <;> (dsimp only [ReplicateSeen.add]; split_ifs <;> rfl)

section
variable {calls : MoverCalls} {env : Env} {out : ReplicateOutcomes} {o : Oracle} (governs : out.Governs calls env o)
include governs

theorem replicateGraph_failed {seen : GraphSeen} (before : seen.failed = "" ∨ seen.failed = out.graphFailed)
    (w : Workload) (s : World) : (replicateGraph env seen w o s).1.failed = out.graphFailed := by
  unfold replicateGraph ReplicateOutcomes.graphFailed at *
  rw [bind_run, governs.graph]
  cases answer : out.graph with
  | error text => rfl
  | ok found =>
    obtain ⟨ok, message⟩ := found
    cases ok with
    | false => rfl
    | true =>
      rw [answer] at before
      exact before.elim id id

/-- Syncing the object graph any number of times keeps its one failure. -/
theorem graph_failed {graphs : List Workload} (some : graphs ≠ []) (s : World) :
    (Program.fold (replicateGraph env) graphs {} o s).1.failed = out.graphFailed := by
  refine (Holds.fold (fun done (seen : GraphSeen) _ => (done = [] → seen.failed = "") ∧ (done ≠ [] → seen.failed = out.graphFailed))
    graphs (fun done w rest seen _ s before => ?_) {} s ⟨fun _ => rfl, fun other => absurd rfl other⟩).2 some
  have earlier : seen.failed = "" ∨ seen.failed = out.graphFailed := by
    by_cases first : done = []
    · exact .inl (before.1 first)
    · exact .inr (before.2 first)
  exact ⟨fun empty => by simp at empty, fun _ => replicateGraph_failed governs earlier w s⟩

/-- One workload changes the failure of the pass as its outcome says. -/
theorem replicateStep_failed {graph : GraphSeen} {w : Workload}
    (synced : w.isObjectGraph = true → graph.failed = out.graphFailed) (seen : ReplicateSeen) (s : World) :
    (replicateStepWith calls env graph seen w o s).1.failed = Write.apply "" seen.failed (out.write env w) := by
  by_cases stateless : w.cls = .stateless
  · simp [replicateStepWith, ReplicateOutcomes.write, stateless, ReplicateSeen.add, Write.apply]
  · by_cases graphic : w.isObjectGraph = true
    · simp only [replicateStepWith, ReplicateOutcomes.write, if_neg stateless, if_pos graphic, pure_run,
        addGraph_failed, synced graphic]
      by_cases none : out.graphFailed = ""
      · simp [none, Write.apply]
      · by_cases waits : hasPrefix out.graphFailed "waiting for replica sync" = true
        · simp [none, waits, Write.apply]
        · simp [none, waits, Write.apply]
    · simp only [replicateStepWith, ReplicateOutcomes.write, if_neg stateless, if_neg graphic]
      rcases select env.movers w (moverOverride env.policy w .replicate) with text | ⟨_ | m, capability⟩
      · rfl
      · rfl
      · cases capable : capability.replicate with
        | false => simp [capable, ReplicateSeen.fail, Write.apply, noMover]
        | true =>
          simp only [capable, Bool.not_true, Bool.false_eq_true, if_false, bind_run, governs.replicate]
          cases out.replicate m w with
          | some text => rfl
          | none =>
            simp only [bind_run, governs.probe, pure_run]
            cases up : (out.probe m w).ok with
            | true => simp [ReplicateSeen.add, Write.apply]
            | false =>
              rw [if_neg Bool.false_ne_true, Write.apply]
              by_cases blank : seen.failed = ""
              · rw [if_pos blank, if_pos ⟨rfl, blank⟩]
                rfl
              · rw [if_neg blank, if_neg fun both => blank both.2]
                rfl

theorem replicateLoop_failed {graph : GraphSeen} {ws : List Workload}
    (synced : ∀ w ∈ ws, w.isObjectGraph = true → graph.failed = out.graphFailed) (seen : ReplicateSeen) (s : World) :
    (Program.fold (replicateStepWith calls env graph) ws seen o s).1.failed =
      (ws.map (out.write env)).foldl (Write.apply "") seen.failed := by
  induction ws generalizing seen s with
  | nil => rfl
  | cons w rest ih =>
    rw [List.map_cons, List.foldl_cons, ← replicateStep_failed governs (synced w (by simp)) seen s]
    exact ih (fun w member => synced w (by simp [member])) _ _

/-- The verdict of a pass is that of the failure its workloads leave. -/
theorem runReplicate_verdict {act : Action} (wet : act.spec.dryRun = false) (s : World) :
    (runReplicateWith calls env act o s).1.verdict =
      verdictOf (Write.settle "" (env.inventory.map (out.write env))) := by
  have synced : ∀ w ∈ env.inventory, w.isObjectGraph = true →
      (Program.fold (replicateGraph env) (env.inventory.filter Workload.isObjectGraph) {} o s).1.failed =
        out.graphFailed := by
    intro w member graphic
    exact graph_failed governs (List.ne_nil_of_mem (List.mem_filter.mpr ⟨member, graphic⟩)) s
  simp only [runReplicateWith, bind_run, pure_run, replicateResult_verdict env wet]
  exact congrArg verdictOf (replicateLoop_failed governs synced {} _)

end

private theorem hasPrefix_append {opening start : String} (more rest : String)
    (split : opening.toList = start.toList ++ more.toList) : hasPrefix (opening ++ rest) start = true := by
  rw [hasPrefix_iff, String.toList_append, split, List.append_assoc]
  exact List.prefix_append _ _

/-- A failure that does not replace others says what it waits for. -/
theorem ReplicateOutcomes.write_fallback {env : Env} {out : ReplicateOutcomes} {w : Workload} {text : String}
    (waits : out.write env w = .fallback text) : hasPrefix text "waiting for replica sync" = true := by
  have opens (message : String) : hasPrefix (waitingText message) "waiting for replica sync" = true :=
    hasPrefix_append ": " message (by decide +kernel)
  unfold ReplicateOutcomes.write at waits
  split_ifs at waits with stateless graphic none waiting
  · obtain rfl := Write.fallback.inj waits
    exact waiting
  · generalize select env.movers w (moverOverride env.policy w .replicate) = selected at waits
    rcases selected with error | ⟨_ | m, capability⟩
    · cases waits
    · cases waits
    · dsimp only at waits
      cases answer : out.replicate m w with
      | some error =>
        rw [answer] at waits
        split_ifs at waits
      | none =>
        rw [answer] at waits
        dsimp only at waits
        split_ifs at waits
        obtain rfl := Write.fallback.inj waits
        exact opens _

/-- What waits for a replica always leads to the same verdict. -/
theorem verdictOf_waiting {text : String} (opens : hasPrefix text "waiting for replica sync" = true) :
    verdictOf text = (.catchingUp, false, false) := by
  obtain ⟨rest, shape⟩ := (hasPrefix_iff _ _).mp opens
  have mover : text ≠ noMover := by
    rintro rfl
    simp [noMover] at shape
  have blank : text ≠ "" := by
    rintro rfl
    simp at shape
  simp [verdictOf, mover, blank]

theorem oneKind_iff {env : Env} {out : ReplicateOutcomes} :
    out.OneKind env ↔ Write.Uniform verdictOf "" (env.inventory.map (out.write env)) := by
  constructor
  · rintro ⟨same, filled⟩
    refine ⟨fun s t first second => ?_, fun blank text fills => ?_⟩
    · obtain ⟨v, inside, writes⟩ := List.mem_map.mp first
      obtain ⟨w, member, writes'⟩ := List.mem_map.mp second
      exact verdictOf_eq_iff.mpr (same v inside w member s t writes writes')
    · obtain ⟨v, inside, writes⟩ := List.mem_map.mp blank
      obtain ⟨w, member, writes'⟩ := List.mem_map.mp fills
      exact filled v inside w member writes text writes'
  · rintro ⟨same, filled⟩
    refine ⟨fun v inside w member s t writes writes' => ?_, fun v inside w member writes text writes' => ?_⟩
    · exact verdictOf_eq_iff.mp
        (same s t (List.mem_map.mpr ⟨v, inside, writes⟩) (List.mem_map.mpr ⟨w, member, writes'⟩))
    · exact filled (List.mem_map.mpr ⟨v, inside, writes⟩) text (List.mem_map.mpr ⟨w, member, writes'⟩)

/-- With the outcome of every workload given, the verdict of a pass is the same for all
orders of the workloads just if it is a dry run or the failures are of one kind. -/
theorem runReplicate_order_iff {calls : MoverCalls} {env : Env} {out : ReplicateOutcomes} {o : Oracle}
    (governs : out.Governs calls env o) (act : Action) (s : World) :
    (∀ order, env.inventory.Perm order → ∀ o' s', out.Governs calls env o' →
      (runReplicateWith calls { env with inventory := order } act o' s').1.verdict =
        (runReplicateWith calls env act o s).1.verdict) ↔
      act.spec.dryRun = true ∨ out.OneKind env := by
  cases wet : act.spec.dryRun with
  | true => simp [runReplicateWith, replicateResult, wet, ActionResult.verdict]
  | false =>
    have fills : ∀ text, Write.fallback text ∈ env.inventory.map (out.write env) →
        verdictOf text = (.catchingUp, false, false) := by
      intro text member
      obtain ⟨w, _, waits⟩ := List.mem_map.mp member
      exact verdictOf_waiting (ReplicateOutcomes.write_fallback waits)
    have reads (order : List Workload) {o' : Oracle} (governs' : out.Governs calls env o') (s' : World) :
        (runReplicateWith calls { env with inventory := order } act o' s').1.verdict =
          verdictOf (Write.settle "" (order.map (out.write env))) := by
      have same : out.Governs calls { env with inventory := order } o' :=
        ⟨governs'.graph, governs'.replicate, governs'.probe⟩
      exact runReplicate_verdict same wet s'
    rw [oneKind_iff, Write.uniform_iff_order fills (by decide), runReplicate_verdict governs wet s]
    simp only [Bool.false_eq_true, false_or]
    constructor
    · intro every order perm
      rw [← every order perm o s governs, reads order governs s]
    · intro every order perm o' s' governs'
      rw [reads order governs' s', every order perm]

/-! ### A cache and two volumes -/

/-- A redis without claims, which no mover can replicate. -/
def cachedOrders : Workload :=
  { namespace_ := "shop", name := "orders", kind := "StatefulSet", cls := .kvLogical, engine := "redis" }

/-- Workloads whose mover is refused for now. -/
def volumeFiles : Workload :=
  { namespace_ := "shop", name := "files", kind := "StatefulSet", cls := .genericPVC, pvcNames := ["data"] }

def volumeMedia : Workload := { volumeFiles with name := "media", pvcNames := ["media"] }

def quotaEnv (inventory : List Workload) : Env := { source := { kube := 0 }, dest := { kube := 1 }, inventory }

def overQuota : Oracle := { mover := fun _ => some "exceeded quota" }

def quotaOutcomes : ReplicateOutcomes where
  graph := .error "clusterobjects: kube and dynamic clients required"
  replicate _ _ := some "exceeded quota"
  probe _ _ := {}

theorem quotaOutcomes_govern (inventory : List Workload) :
    quotaOutcomes.Governs .outside (quotaEnv inventory) overQuota :=
  ⟨fun _ => rfl, fun _ _ _ => rfl, fun _ _ _ => rfl⟩

def replicating : Action := { spec := { type := .replicate, policyRef := "shop" } }

def emptyClusters : World := { clusters := fun _ => {}, action := replicating }

private theorem files_oneKind : quotaOutcomes.OneKind (quotaEnv [volumeFiles, volumeMedia]) := by
  have write (w : Workload) (member : w ∈ [volumeFiles, volumeMedia]) :
      quotaOutcomes.write (quotaEnv [volumeFiles, volumeMedia]) w = .overwrite "exceeded quota" := by
    revert w
    decide +kernel
  constructor
  · intro v inside w member s t first second
    rw [write v inside] at first
    rw [write w member] at second
    rw [← Write.overwrite.inj first, ← Write.overwrite.inj second]
    exact ⟨.rfl, .rfl⟩
  · intro v inside w member first text second
    rw [write w member] at second
    cases second

/-- Two volumes over quota are waited for in both orders. -/
theorem runReplicate_order_files : quotaOutcomes.OneKind (quotaEnv [volumeFiles, volumeMedia]) ∧
    ∀ order, [volumeFiles, volumeMedia].Perm order → ∀ o s,
      quotaOutcomes.Governs .outside (quotaEnv [volumeFiles, volumeMedia]) o →
        (runReplicateWith .outside (quotaEnv order) replicating o s).1.verdict =
          (runReplicateWith .outside (quotaEnv [volumeFiles, volumeMedia]) replicating overQuota emptyClusters).1.verdict :=
  ⟨files_oneKind,
    (runReplicate_order_iff (quotaOutcomes_govern _) replicating emptyClusters).mpr (.inr files_oneKind)⟩

/-- The Action fails for good if the workload without a mover comes last, and waits for
the volume otherwise. -/
theorem runReplicate_order_matters :
    [cachedOrders, volumeFiles].Perm [volumeFiles, cachedOrders] ∧
    (∀ inventory, quotaOutcomes.Governs .outside (quotaEnv inventory) overQuota) ∧
    (runReplicate (quotaEnv [cachedOrders, volumeFiles]) replicating overQuota emptyClusters).1.verdict =
      (.catchingUp, false, false) ∧
    (runReplicate (quotaEnv [volumeFiles, cachedOrders]) replicating overQuota emptyClusters).1.verdict =
      (.failed, true, false) :=
  ⟨.swap _ _ _, quotaOutcomes_govern, by decide +kernel, by decide +kernel⟩

end Portage
