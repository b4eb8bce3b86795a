import Portage.Controller.Reconcile
import Portage.Cutover.RunInvariant

/-! What a Cutover has seen of the replica when it leaves CatchingUp. -/
namespace Portage

open Go Kube Process Program

/-- What a pass logged that says the replica of `w` has everything up to `since`:
the standby's lag was asked for and is an integer that is not positive, or the
ReplicationDestination has finished a sync of a snapshot taken no earlier. -/
def Evidence (since : Time) (w : Workload) (log : List Event) : Prop :=
  (∃ c pod container answer lag, Event.exec w.key c pod container replicaLagCmd answer ∈ log ∧
    answer.error = none ∧ atoi (trimSpace answer.stdout) = some lag ∧ lag ≤ 0) ∨
  ∃ c rd, Event.saw c rd ∈ log ∧ rd.key = ⟨w.namespace_, pairName w⟩ ∧ ∃ taken ∈ rd.finished, since ≤ taken

theorem Evidence.mono {since : Time} {w : Workload} {log more : List Event}
    (evidence : Evidence since w log) (grows : log <+: more) : Evidence since w more := by
  rcases evidence with ⟨c, pod, container, answer, lag, issued, rest⟩ | ⟨c, rd, saw, rest⟩
  · exact .inl ⟨c, pod, container, answer, lag, grows.subset issued, rest⟩
  · exact .inr ⟨c, rd, grows.subset saw, rest⟩

/-- What the lag command prints, where it succeeds, is an integer. -/
def Kube.Oracle.LagTexts (o : Oracle) : Prop :=
  ∀ n, (o.exec n replicaLagCmd).error = none →
    ∃ lag, atoi (trimSpace (o.exec n replicaLagCmd).stdout) = some lag

/-- A destination of the workloads that reports a sync has finished one of a
snapshot taken at `since` or later. -/
def FreshSyncs (since : Time) (workloads : List Workload) (clusters : Clusters) : Prop :=
  ∀ w ∈ workloads, ∀ c, ∀ rd ∈ (clusters c).replicationDestinations,
    rd.key = ⟨w.namespace_, pairName w⟩ → rd.lastSyncTime ≠ "" ∨ rd.latestImage = true →
    ∃ taken ∈ rd.finished, since ≤ taken

/-! ### One workload -/

section
variable {o : Oracle} {env : Env} {since : Time} {workloads : List Workload}

/-- Others do not bring back a destination whose reported sync is older. -/
def Kube.Oracle.KeepsFresh (o : Oracle) (since : Time) (workloads : List Workload) : Prop :=
  ∀ n clusters, FreshSyncs since workloads clusters → FreshSyncs since workloads (o.drift n clusters)

/-- A part of a pass that touches nothing keeps the destinations fresh. -/
private theorem fresh_of_quiet (keeps : o.KeepsFresh since workloads) {x : Prog α}
    (moves : Moves o (Extends o fun e => e.touches = false) x) (s : World)
    (fresh : FreshSyncs since workloads s.clusters) : FreshSyncs since workloads (x o s).2.clusters := by
  obtain ⟨_, added, _, quiet, drifts⟩ := moves s
  exact drifts quiet _ keeps fresh

/-- A known lag comes from a run of the lag command. -/
private theorem lagSeconds_evidence (texts : o.LagTexts) (dest : Endpoint) (w : Workload) (s : World)
    {lag : Int} (known : (lagSeconds dest w o s).1 = .ok (some lag)) (caught : lag ≤ 0) :
    Evidence since w (lagSeconds dest w o s).2.log := by
  unfold lagSeconds at known ⊢
  cases client : dest.exec with
  | none => simp [client] at known
  | some c =>
    simp only [client, bind_run] at known ⊢
    generalize firstReadyPod dest.kube w o s = answer at known ⊢
    obtain ⟨answer, t⟩ := answer
    cases answer with
    | error text => simp at known
    | ok found =>
      obtain ⟨pod, container⟩ := found
      simp only [bind_run] at known ⊢
      have issued : Event.exec w.key c pod.key container replicaLagCmd (o.exec t.calls replicaLagCmd) ∈
          (execIn w.key c pod.key container replicaLagCmd o t).2.log := by simp [execIn, tick, record]
      have answered : (execIn w.key c pod.key container replicaLagCmd o t).1 = o.exec t.calls replicaLagCmd :=
        rfl
      rw [answered] at known ⊢
      cases failed : (o.exec t.calls replicaLagCmd).error with
      | some text => simp [failed] at known
      | none =>
        obtain ⟨whole, strict⟩ := texts t.calls failed
        have same : whole = lag := by
          simpa [failed, sscanfInt_of_atoi strict] using known
        simp only [pure_run]
        exact .inl ⟨c, pod.key, container, _, whole, issued, failed, strict, same ▸ caught⟩

/-- A destination that counts as synced was seen, and is fresh. -/
private theorem syncedDestination_evidence {w : Workload} (member : w ∈ workloads)
    (keeps : o.KeepsFresh since workloads) (dynamic : Option ClusterId) (s : World)
    (fresh : FreshSyncs since workloads s.clusters)
    (synced : (syncedDestination dynamic ⟨w.namespace_, pairName w⟩ o s).1 = true) :
    Evidence since w (syncedDestination dynamic ⟨w.namespace_, pairName w⟩ o s).2.log := by
  cases dynamic with
  | none => simp [syncedDestination] at synced
  | some c =>
    have moved := keeps s.calls s.clusters fresh
    cases failed : o.fault s.calls (.get c .replicationDestinations ⟨w.namespace_, pairName w⟩) with
    | some fault => simp [syncedDestination, getObject, fetch, tick, failed] at synced
    | none =>
      cases present : (o.drift s.calls s.clusters c).replicationDestinations.find?
          (fun rd => rd.key = ⟨w.namespace_, pairName w⟩) with
      | none => simp [syncedDestination, getObject, fetch, tick, failed, present] at synced
      | some rd =>
        have reports : rd.lastSyncTime ≠ "" ∨ rd.latestImage = true := by
          simpa [syncedDestination, getObject, fetch, tick, failed, present] using synced
        have named : rd.key = ⟨w.namespace_, pairName w⟩ := by simpa using List.find?_some present
        refine .inr ⟨c, rd, ?_, named, moved w member c rd (List.mem_of_find?_eq_some present) named reports⟩
        simp [syncedDestination, getObject, fetch, tick, failed, present, record]

/-- A workload that leaves the lag at zero has its evidence in the log. -/
private theorem caughtUp_evidence (env : Env) {w : Workload} (member : w ∈ workloads) (texts : o.LagTexts)
    (keeps : o.KeepsFresh since workloads) (s : World) (fresh : FreshSyncs since workloads s.clusters)
    (caught : (caughtUp env w o s).1 = true) : Evidence since w (caughtUp env w o s).2.log := by
  have after := fresh_of_quiet keeps (moves_lagSeconds env.dest w fun _ _ _ _ => rfl) s fresh
  have known := @lagSeconds_evidence o since texts env.dest w s
  simp only [caughtUp, bind_run] at caught ⊢
  generalize lagSeconds env.dest w o s = answer at after known caught ⊢
  obtain ⟨answer, t⟩ := answer
  -- Without a lag from the standby the pair decides, and its second half leaves the evidence.
  have paired : (lagZero env.source.dynamic (env.dest.dynamic.or env.source.dynamic) w o t).1 = true →
      Evidence since w (lagZero env.source.dynamic (env.dest.dynamic.or env.source.dynamic) w o t).2.log := by
    intro zero
    simp only [lagZero, bind_run, pure_run, Bool.and_eq_true] at zero ⊢
    exact syncedDestination_evidence member keeps _ _
      (fresh_of_quiet keeps (moves_syncedSource _ _) t after) zero.2
  match answer with
  | .ok (some lag) => exact known rfl (by simpa using caught)
  | .ok none => exact paired caught
  | .error text => exact paired caught

/-! ### The loop of a pass -/

private theorem fresh_writeGraph (env : Env) (keeps : o.KeepsFresh since workloads)
    (captured : Except String (List String)) (s : World) (fresh : FreshSyncs since workloads s.clusters) :
    FreshSyncs since workloads (writeGraph env captured o s).2.clusters := by
  have moved := keeps s.calls s.clusters fresh
  unfold writeGraph
  cases captured with
  | error text => exact fresh
  | ok objects =>
    dsimp only
    cases env.destDynamic with
    | error text => exact fresh
    | ok dest =>
      cases dest with
      | none => exact fresh
      | some c =>
        by_cases empty : objects = []
        · simpa [syncObjects, record, tick, empty] using moved
        · intro w member other rd present
          refine moved w member other rd ?_
          by_cases here : other = c
          · subst here
            simpa [syncObjects, record, tick, empty] using present
          · simpa [syncObjects, record, tick, empty, here] using present

/-- What the loop over the inventory keeps while the Action is catching up. -/
private structure CatchUpSeen (o : Oracle) (env : Env) (since : Time) (done : List Workload) (seen : CutoverSeen)
    (t : World) : Prop where
  fresh : FreshSyncs since env.frozenWorkloads t.clusters
  evidence : seen.lagZero = true → ∀ w ∈ done, w.isObjectGraph = false → Evidence since w t.log

private theorem cutoverGraph_watched (keeps : o.KeepsFresh since env.frozenWorkloads) {done : List Workload}
    {seen : CutoverSeen} {w : Workload} (graph : w.isObjectGraph = true) :
    Holds o (CatchUpSeen o env since done seen) (cutoverGraph env seen w)
      (CatchUpSeen o env since (done ++ [w])) := by
  intro s ⟨fresh, evidence⟩
  have after := fresh_writeGraph env keeps env.listClusterObjects s fresh
  have writes : Moves o (Extends o fun _ => True) (writeGraph env env.listClusterObjects) :=
    moves_writeGraph env env.listClusterObjects fun _ _ _ _ => trivial
  have grows := (writes s).grows
  have kept : seen.lagZero = true → ∀ v ∈ done ++ [w], v.isObjectGraph = false →
      Evidence since v (writeGraph env env.listClusterObjects o s).2.log := by
    intro zero v member plain
    rcases List.mem_append.mp member with earlier | last
    · exact (evidence zero v earlier plain).mono grows
    · obtain rfl := List.mem_singleton.mp last
      simp [graph] at plain
  simp only [cutoverGraph, syncClusterObjectsLive, bind_run]
  cases (writeGraph env env.listClusterObjects o s).1 <;> exact ⟨after, kept⟩

private theorem cutoverWorkload_watched (texts : o.LagTexts) (keeps : o.KeepsFresh since env.frozenWorkloads)
    {done : List Workload} {seen : CutoverSeen} {w : Workload} (member : w ∈ env.frozenWorkloads) :
    Holds o (CatchUpSeen o env since done seen) (cutoverWorkload env .catchingUp seen w)
      (CatchUpSeen o env since (done ++ [w])) := by
  intro s ⟨fresh, evidence⟩
  have first : Moves o (Extends o fun e => e.touches = false) (caughtUp env w) :=
    moves_caughtUp env w fun _ quiet => quiet
  have rest : Moves o (Extends o fun e => e.touches = false)
      (isReady env.dest.kube w >>= fun up => probeReady env w up) :=
    moves_bind (moves_isReady env.dest.kube w) fun up => moves_probeReady env w (fun _ quiet => quiet) up
  have here := caughtUp_evidence env member texts keeps s fresh
  have middle := fresh_of_quiet keeps first s fresh
  have grown := (first s).grows
  simp only [cutoverWorkload, freezeSource, freezes, promoteIfDue, bringUp, bringsUp, reduceCtorEq,
    Bool.false_eq_true, ↓reduceIte, bind_run, pure_run]
  generalize caughtUp env w o s = answer at here middle grown
  obtain ⟨caught, t⟩ := answer
  have ended := (rest t).grows
  refine ⟨fresh_of_quiet keeps rest t middle, fun zero v inside plain => ?_⟩
  obtain ⟨before, now⟩ : seen.lagZero = true ∧ caught = true := by
    simpa [CutoverSeen.report] using zero
  rcases List.mem_append.mp inside with earlier | last
  · exact (evidence before v earlier plain).mono (grown.trans ended)
  · obtain rfl := List.mem_singleton.mp last
    exact (here now).mono ended

private theorem cutoverLoop_watched (texts : o.LagTexts) (keeps : o.KeepsFresh since env.frozenWorkloads)
    (s : World) (fresh : FreshSyncs since env.frozenWorkloads s.clusters) :
    CatchUpSeen o env since env.stateful (Program.fold (cutoverStep env .catchingUp) env.stateful {} o s).1
      (Program.fold (cutoverStep env .catchingUp) env.stateful {} o s).2 := by
  refine Holds.fold (CatchUpSeen o env since) env.stateful (fun done w rest seen split => ?_) {} s
    ⟨fresh, by simp⟩
  unfold cutoverStep
  split
  · exact cutoverGraph_watched keeps ‹_›
  · rename_i plain
    refine cutoverWorkload_watched texts keeps (List.mem_filter.mpr ⟨?_, by simpa using plain⟩)
    simp [split]

/-- A pass that leaves CatchingUp has evidence for every workload. -/
theorem runCutover_evidence (texts : o.LagTexts) (keeps : o.KeepsFresh since env.frozenWorkloads)
    {act : Action} (catching : act.status.phase = .catchingUp) (forward : act.spec.rollback = false)
    (s : World) (fresh : FreshSyncs since env.frozenWorkloads s.clusters)
    (left : (runCutover env act o s).1.phase ≠ .catchingUp) :
    ∀ w ∈ env.frozenWorkloads, Evidence since w (runCutover env act o s).2.log := by
  have watched := cutoverLoop_watched texts keeps s fresh
  intro w member
  obtain ⟨stateful, plain⟩ := List.mem_filter.mp member
  simp only [runCutover, cutoverFacts, bind_run, pure_run, catching, frozenIfDue, switchIfDue, rollbackIfDue,
    forward, reduceCtorEq, Bool.false_eq_true, ↓reduceIte] at left ⊢
  refine watched.evidence ?_ w stateful (by simpa using plain)
  by_contra positive
  have behind := Bool.eq_false_iff.mpr positive
  simp [Cutover.advance, catching, behind] at left

/-- A pass ends in CatchingUp only from there and from Quiescing. -/
theorem runCutover_catchingUp {act : Action} {s : World}
    (catching : (runCutover env act o s).1.phase = .catchingUp) :
    act.status.phase = .catchingUp ∨ act.status.phase = .quiescing := by
  generalize facts : (cutoverFacts env act o s).1 = seen
  have result : (runCutover env act o s).1 = Cutover.advance act.status seen := by rw [← facts]; rfl
  rw [result] at catching
  cases Cutover.advance_move act.status seen with
  | rolledBack _ phase => simp [catching] at phase
  | finished ended phase => rcases ended with ended | ended | ended <;> simp [catching, ended] at phase
  | started phase => simp [catching] at phase
  | rehearsed _ phase => simp [catching] at phase
  | held _ phase => exact .inl (phase.symm.trans catching)
  | confirmed stage done phase =>
    cases stage with
    | frozen => exact .inr done.1
    | caughtUp | promoted | switched => simp [catching, Cutover.Stage.next] at phase
  | waited _ gate => simp [catching] at gate

end

/-! ### Runs -/

/-- A reconcile that found every source workload at zero replicas. -/
def froze (step : ReconcileStep) : Bool :=
  match step.output.outcome with
  | .advanced result _ => step.before.status.phase == .quiescing && result.phase == .catchingUp
  | _ => false

/-- The answers of a reconcile are about a replica as of `since`: the lag command
prints integers, and the destinations that report a sync have finished one of a
snapshot taken since. -/
structure ReplicaSettled (since : Time) (input : PassInput) : Prop where
  texts : input.oracle.LagTexts
  fresh : FreshSyncs since input.covered.frozenWorkloads input.clusters
  keeps : input.oracle.KeepsFresh since input.covered.frozenWorkloads

section
variable {start state : Action} {steps : List ReconcileStep}

private theorem calledIn_eq {phase called : ActionPhase} (same : calledIn phase = called)
    (middle : called = .catchingUp ∨ called = .quiescing) : phase = called := by
  subst same
  cases phase <;> simp_all [calledIn]

/-- An Action that is catching up was found frozen before. -/
theorem run_catchingUp_frozen (run : ReconcileRun start steps state)
    (early : start.status.phase ≠ .catchingUp) (cutovers : ∀ step ∈ steps, step.input.spec.type = .cutover)
    (catching : state.status.phase = .catchingUp) : ∃ step ∈ steps, froze step = true := by
  induction run with
  | nil => exact absurd catching early
  | @snoc steps state input output earlier taken ih =>
    obtain rfl : input.pass state = output := by simpa using taken
    have before := ih fun step member => cutovers step (by simp [member])
    have extend : state.status.phase = .catchingUp →
        ∃ step ∈ steps ++ [⟨state, input, input.pass state⟩], froze step = true := fun phase => by
      obtain ⟨step, member, frozen⟩ := before phase
      exact ⟨step, by simp [member], frozen⟩
    have stored : Stored state.status (input.pass state).action.status (input.pass state).outcome :=
      reconcile_stored input input.oracle (input.opening state)
    cases stored with
    | kept same => exact extend (by rw [← same]; exact catching)
    | closed phase => rcases phase with phase | phase <;> simp [phase] at catching
    | advanced result written reported phase _ =>
      have cutover : input.spec.type = .cutover := cutovers ⟨state, input, input.pass state⟩ (by simp)
      obtain ⟨act, u, called, computed, _⟩ := pass_ran cutover reported
      have ended : result.phase = .catchingUp := phase.symm.trans catching
      have middle := runCutover_catchingUp (computed.symm.trans ended)
      have same := calledIn_eq called.phase.symm middle
      rcases middle with during | quiescing
      · exact extend (same.trans during)
      · refine ⟨⟨state, input, input.pass state⟩, by simp, ?_⟩
        have first : state.status.phase = .quiescing := same.trans quiescing
        simp [froze, reported, first, ended]

/-- In every run of a Cutover, a reconcile that leaves CatchingUp other than by a
rollback comes after one that found the source frozen, and if the answers it gets
are about a replica as of the first of those, then it has logged evidence for
every workload. -/
theorem run_leaves_caughtUp (run : ReconcileRun start steps state) (early : start.status.phase ≠ .catchingUp)
    (cutovers : ∀ step ∈ steps, step.input.spec.type = .cutover) {earlier later : List ReconcileStep}
    {step : ReconcileStep} (split : steps = earlier ++ step :: later)
    (catching : step.before.status.phase = .catchingUp) {result : ActionResult} {stored : Bool}
    (reported : step.output.outcome = .advanced result stored) (leaves : result.phase ≠ .catchingUp)
    (forward : step.input.spec.rollback = false)
    (settled : ∀ frozen, earlier.find? froze = some frozen →
      ReplicaSettled frozen.input.env.now step.input) :
    ∃ frozen, earlier.find? froze = some frozen ∧
      ∀ w ∈ step.input.covered.frozenWorkloads, Evidence frozen.input.env.now w step.output.log := by
  obtain ⟨reached, taken⟩ := run.reached earlier later step split
  obtain ⟨before, input, output⟩ := step
  obtain rfl : input.pass before = output := by simpa using taken
  have inside : ∀ other ∈ earlier, other ∈ steps := fun other member => by simp [split, member]
  obtain ⟨mark, member, frozen⟩ := run_catchingUp_frozen reached early
    (fun other member => cutovers other (inside other member)) catching
  obtain ⟨first, found⟩ := Option.isSome_iff_exists.mp (List.find?_isSome.mpr ⟨mark, member, frozen⟩)
  obtain ⟨texts, fresh, keeps⟩ := settled first found
  have cutover : input.spec.type = .cutover :=
    cutovers ⟨before, input, input.pass before⟩ (by simp [split])
  obtain ⟨act, u, called, computed, log⟩ := pass_ran cutover reported
  obtain ⟨_, _, marked⟩ := called.before
  have phase : act.status.phase = .catchingUp := by
    rw [called.phase, show (input.opening before).action.status.phase = .catchingUp from catching]; rfl
  refine ⟨first, found, fun w walked => ?_⟩
  rw [log]
  exact runCutover_evidence texts keeps phase (by rw [called.spec]; exact forward) u
    (marked.drifts _ keeps fresh) (computed ▸ leaves) w walked

end

/-! ### A database whose claim is also replicated by VolSync -/

def stock : Workload :=
  { namespace_ := "shop", name := "stock", kind := "StatefulSet", cls := .sqlLogical, engine := "postgres" }

/-- A standby pod on the destination. -/
def standby : Pod := { key := ⟨"shop", "stock-0"⟩, owners := ["stock"], containers := ["db"] }

/-- A destination that last synced a snapshot taken at five. -/
def stale : ReplicationDestination where
  key := ⟨"shop", "portage-stock"⟩
  lastSyncTime := "t5"
  finished := [5]
  reported := fun _ => List.cons_ne_nil _ _

/-- A reconcile at `now` with the given pods on the destination and what their lag
command prints; both halves of the VolSync pair report a sync. -/
def stockPass (now : Time) (pods : List Pod) (lag : String) : PassInput where
  spec := { type := .cutover, policyRef := "shop" }
  env := {
    source := { kube := 0, dynamic := some 0 }
    dest := { kube := 1, dynamic := some 1, exec := some 1 }
    inventory := [stock], now }
  clusters := fun _ => {
    statefulSets := fun key => if key = stock.objKey then some {} else none
    pods
    replicationSources := [{ key := ⟨"shop", "portage-stock"⟩, lastSyncTime := "t5" }]
    replicationDestinations := [stale] }
  oracle := { exec := fun _ _ => { stdout := lag } }

/-- Freeze, find the source frozen at `now`, and look at the replica. -/
def stockSteps (now : Time) (pods : List Pod) (lag : String) : List ReconcileStep :=
  let new : Action := { spec := { type := .cutover, policyRef := "shop" } }
  let pass := stockPass now pods lag
  let first := pass.pass new
  let second := pass.pass first.action
  [⟨new, pass, first⟩, ⟨first.action, pass, second⟩, ⟨second.action, pass, pass.pass second.action⟩]

private theorem stockSteps_run (now : Time) (pods : List Pod) (lag : String) :
    ∃ state, ReconcileRun { spec := { type := .cutover, policyRef := "shop" } } (stockSteps now pods lag) state :=
  ⟨_, .snoc (.snoc (.snoc .nil rfl) rfl) rfl⟩

private theorem stockSteps_cutovers (now : Time) (pods : List Pod) (lag : String) :
    ∀ step ∈ stockSteps now pods lag, step.input.spec.type = .cutover := by
  intro step member
  simp only [stockSteps, List.mem_cons, List.not_mem_nil, or_false] at member
  rcases member with rfl | rfl | rfl <;> rfl

private theorem stockPass_settled : ReplicaSettled 4 (stockPass 4 [standby] "0") where
  texts := fun _ _ => ⟨0, (by decide : atoi (trimSpace "0") = some 0)⟩
  fresh := by
    intro w _ c rd present _ _
    obtain rfl := List.mem_singleton.mp present
    exact ⟨5, List.mem_singleton.mpr rfl, by decide⟩
  keeps := fun _ _ fresh => fresh

/-- The standby answers that its lag is zero, and the snapshot of the pair is newer
than the freeze. -/
theorem run_leaves_caughtUp_stock : ∃ earlier step, stockSteps 4 [standby] "0" = earlier ++ [step] ∧
    ∃ frozen, earlier.find? froze = some frozen ∧
      ∀ w ∈ step.input.covered.frozenWorkloads, Evidence frozen.input.env.now w step.output.log := by
  obtain ⟨state, run⟩ := stockSteps_run 4 [standby] "0"
  have settled : ∀ frozen, ((stockSteps 4 [standby] "0").take 2).find? froze = some frozen →
      ReplicaSettled frozen.input.env.now (stockPass 4 [standby] "0") := by
    intro frozen found
    have member := List.mem_of_mem_take (List.mem_of_find?_eq_some found)
    simp only [stockSteps, List.mem_cons, List.not_mem_nil, or_false] at member
    rcases member with rfl | rfl | rfl <;> exact stockPass_settled
  have split : stockSteps 4 [standby] "0" = (stockSteps 4 [standby] "0").take 2 ++ _ :: [] := rfl
  exact ⟨_, _, rfl, run_leaves_caughtUp run (by decide) (stockSteps_cutovers _ _ _) split
    (by decide +kernel) rfl (by decide +kernel) rfl settled⟩

/-- With these pods and this answer to the lag command the Action goes on to Promoting
without evidence. -/
def LeavesBehind (pods : List Pod) (lag : String) : Prop :=
  ∃ state earlier step result stored frozen,
    ReconcileRun { spec := { type := .cutover, policyRef := "shop" } } (stockSteps 10 pods lag) state ∧
    stockSteps 10 pods lag = earlier ++ [step] ∧
    step.before.status.phase = .catchingUp ∧ step.output.outcome = .advanced result stored ∧
    result.phase = .promoting ∧ earlier.find? froze = some frozen ∧
    ∃ w ∈ step.input.covered.frozenWorkloads, ¬ Evidence frozen.input.env.now w step.output.log

/-- An answer that is no number counts as no lag, and a sync reported before the
freeze counts as one after it. -/
theorem run_leaves_behind : LeavesBehind [standby] "connection lost" ∧ LeavesBehind [] "" := by
  constructor
  · obtain ⟨state, run⟩ := stockSteps_run 10 [standby] "connection lost"
    refine ⟨state, (stockSteps 10 [standby] "connection lost").take 2, _, _, _, _, run, rfl,
      by decide +kernel, rfl, by decide +kernel, rfl, stock, by decide, ?_⟩
    rintro (⟨c, pod, container, answer, lag, issued, _, number, _⟩ | ⟨c, rd, saw, _⟩)
    · change Event.exec _ c pod container _ answer ∈
        [Event.exec stock.key 1 standby.key "db" replicaLagCmd { stdout := "connection lost" }] at issued
      simp only [List.mem_singleton, Event.exec.injEq, true_and] at issued
      obtain ⟨_, _, _, _, rfl⟩ := issued
      have unread : atoi (trimSpace "connection lost") = none := by decide
      simp [unread] at number
    · change Event.saw c rd ∈
        [Event.exec stock.key 1 standby.key "db" replicaLagCmd { stdout := "connection lost" }] at saw
      simp at saw
  · obtain ⟨state, run⟩ := stockSteps_run 10 [] ""
    refine ⟨state, (stockSteps 10 [] "").take 2, _, _, _, _, run, rfl,
      by decide +kernel, rfl, by decide +kernel, rfl, stock, by decide, ?_⟩
    rintro (⟨c, pod, container, answer, lag, issued, _⟩ | ⟨c, rd, saw, _, taken, finished, since⟩)
    · change Event.exec _ c pod container _ answer ∈ [Event.saw 1 _] at issued
      simp at issued
    · change Event.saw c rd ∈ [Event.saw 1 stale] at saw
      simp only [List.mem_singleton, Event.saw.injEq] at saw
      obtain ⟨_, rfl⟩ := saw
      obtain rfl := List.mem_singleton.mp finished
      exact absurd since (by decide)

end Portage
