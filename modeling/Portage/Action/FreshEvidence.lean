import Portage.Cutover.RunInvariant
import Portage.Restore.MachineInvariant

/-! Whether a success rests on what was observed in the same reconcile. Both
machines merge readiness and probes into the carried status by key, and a probe
overwrites the carried result only when the reconcile has one. -/
namespace Portage

open Go Process

/-- Each stateful workload that takes part is Ready and probed by these
observations, not by a result remembered from an earlier one. -/
def FreshEvidence (ready : GoMap String Bool) (probes : GoMap String ProbeResult)
    (workloads : List WorkloadActionStatus) : Prop :=
  ∀ w ∈ workloads, w.stateful = true → skipped w = false →
    ready.get w.key = true ∧ ∃ p, probes.find? w.key = some p ∧ p.ok = true

namespace Restore

/-- A workload that is not probed in this step carries no passed probe. -/
def NoStalePass (status : ActionStatus) (facts : Facts) : Prop :=
  ∀ w ∈ seedWorkloads status.workloads facts.inventory, w.stateful = true →
    hasPrefix (facts.messageFor w) "skipped:" = false →
      facts.probes.find? w.key = none → w.probeOK = false

instance (status : ActionStatus) (facts : Facts) : Decidable (NoStalePass status facts) := by
  delta NoStalePass
  infer_instance

/-- A step that newly succeeds outside a dry run went through the gate. -/
theorem advance_gate {status : ActionStatus} {facts : Facts} {result : ActionResult}
    (taken : advance status facts = some result) (live : facts.dryRun = false)
    (newly : status.phase ≠ .succeeded) (succeeded : result.phase = .succeeded) :
    result.workloads = observed status facts ∧ (canSucceed (observed status facts)).1 = true := by
  cases advance_move taken with
  | finished _ phase _ => exact absurd (phase ▸ succeeded) newly
  | checked _ _ _ phase => simp [succeeded, live] at phase
  | rewound phase _ => simp [succeeded] at phase
  | rehydrated _ _ workloads gate => exact ⟨workloads, (gate.resolve_left (by simp [succeeded])).2⟩
  | waited _ workloads gate => exact ⟨workloads, (gate.resolve_left (by simp [succeeded])).2⟩

theorem advance_fresh {status : ActionStatus} {facts : Facts} {result : ActionResult}
    (taken : advance status facts = some result) (made : facts.ready ≠ .nil)
    (noStale : NoStalePass status facts) (live : facts.dryRun = false)
    (newly : status.phase ≠ .succeeded) (succeeded : result.phase = .succeeded) :
    FreshEvidence facts.ready facts.probes result.workloads := by
  obtain ⟨workloads, opened⟩ := advance_gate taken live newly succeeded
  intro w member stateful taking
  rw [workloads] at member
  obtain ⟨ready, probed⟩ := canSucceed_passes opened member taking
  obtain ⟨seed, present, rfl⟩ := List.mem_map.mp member
  have notStateless : seed.cls ≠ .stateless := by simpa [WorkloadActionStatus.stateful] using stateful
  rw [applyFact_ready facts seed made] at ready
  have passed : (applyFact facts seed).probeOK = true := probed.resolve_left (by simpa using notStateless)
  rw [applyFact_probeOK facts seed notStateless] at passed
  rw [applyFact_key]
  refine ⟨ready, ?_⟩
  cases found : facts.probes.find? seed.key with
  | some p => exact ⟨p, rfl, by simpa [found] using passed⟩
  | none =>
    have stale := noStale seed present (by simpa [WorkloadActionStatus.stateful] using notStateless)
      (by simpa [skipped] using taking) found
    simp [found, stale] at passed

end Restore

namespace Cutover

/-- A workload that is not probed in this step carries no passed probe, and an
empty inventory meets no workload that is Ready and probed already. -/
def NoStalePass (status : ActionStatus) (facts : Facts) : Prop :=
  if facts.inventory = [] then
    ∀ w ∈ status.workloads, w.stateful = true → skipped w = false →
      ¬ (w.ready = true ∧ w.probeOK = true)
  else
    ∀ w ∈ facts.inventory, w.stateful = true → facts.probes.find? w.key = none →
      ((GoMap.indexBy WorkloadActionStatus.key status.workloads).get w.key).probeOK = false

instance (status : ActionStatus) (facts : Facts) : Decidable (NoStalePass status facts) := by
  delta NoStalePass
  infer_instance

section
variable (facts : Facts) (carried : WorkloadActionStatus) (w : Workload)

@[simp] theorem seedOne_key : (seedOne facts carried w).key = w.key := by
  unfold seedOne seedProbe seedReady
  dsimp only
  repeat' split
  all_goals rfl

@[simp] theorem seedOne_cls : (seedOne facts carried w).cls = w.cls := by
  unfold seedOne seedProbe seedReady
  dsimp only
  repeat' split
  all_goals rfl

theorem seedOne_ready (made : facts.ready ≠ .nil) :
    (seedOne facts carried w).ready = facts.ready.get w.key := by
  unfold seedOne seedProbe seedReady
  dsimp only
  repeat' split
  all_goals first | rfl | contradiction

theorem seedOne_probeOK (stateful : w.cls ≠ .stateless) : (seedOne facts carried w).probeOK =
    ((facts.probes.find? w.key).map ProbeResult.ok).getD carried.probeOK := by
  unfold seedOne seedProbe seedReady
  dsimp only
  repeat' split
  all_goals simp_all

end

theorem advance_fresh {status : ActionStatus} {facts : Facts} (made : facts.ready ≠ .nil)
    (noStale : NoStalePass status facts) (live : facts.dryRun = false)
    (newly : status.phase ≠ .succeeded) (succeeded : (advance status facts).phase = .succeeded) :
    FreshEvidence facts.ready facts.probes (advance status facts).workloads := by
  rw [advance_workloads]
  have proven := (advance_proven live newly succeeded).2
  intro w member stateful taking
  obtain ⟨ready, probed⟩ := proven w member
  have notStateless : w.cls ≠ .stateless := by simpa [WorkloadActionStatus.stateful] using stateful
  have passed := probed.resolve_left notStateless
  by_cases gone : facts.inventory = []
  · have carried : w ∈ status.workloads := by simpa [seed, gone] using member
    rw [NoStalePass, if_pos gone] at noStale
    exact absurd ⟨ready, passed⟩ (noStale w carried stateful taking)
  · rw [NoStalePass, if_neg gone] at noStale
    obtain ⟨item, listed, rfl⟩ : ∃ item ∈ facts.inventory,
        seedOne facts ((GoMap.indexBy WorkloadActionStatus.key status.workloads).get item.key) item = w := by
      simpa [seed, gone] using member
    rw [seedOne_cls] at notStateless
    rw [seedOne_ready _ _ _ made] at ready
    rw [seedOne_probeOK _ _ _ notStateless] at passed
    rw [seedOne_key]
    refine ⟨ready, ?_⟩
    cases found : facts.probes.find? item.key with
    | some p => exact ⟨p, rfl, by simpa [found] using passed⟩
    | none =>
      have stale := noStale item listed (by simpa [Workload.stateful] using notStateless) found
      simp [found, stale] at passed

end Cutover

/-- As long as no step meets a passed probe that it does not repeat, neither
machine succeeds on readiness or probes remembered from an earlier step. -/
theorem succeeds_on_fresh_evidence (status : ActionStatus) :
    (∀ steps : List Restore.AdvanceStep, Restore.AdvanceRun steps status →
      (∀ step ∈ steps, step.input.ready ≠ .nil ∧ step.input.probes ≠ .nil) →
      (∀ step ∈ steps, Restore.NoStalePass step.before step.input) →
        ∀ step ∈ steps, step.input.dryRun = false → step.before.phase ≠ .succeeded →
          step.output.phase = .succeeded →
            FreshEvidence step.input.ready step.input.probes step.output.workloads) ∧
    (∀ steps : List Cutover.AdvanceStep, Cutover.AdvanceRun steps status →
      (∀ step ∈ steps, step.input.ready ≠ .nil ∧ step.input.probes ≠ .nil) →
      (∀ step ∈ steps, Cutover.NoStalePass step.before step.input) →
        ∀ step ∈ steps, step.input.dryRun = false → step.before.phase ≠ .succeeded →
          step.output.phase = .succeeded →
            FreshEvidence step.input.ready step.input.probes step.output.workloads) := by
  constructor
  · intro steps run made noStale step member live newly succeeded
    exact Restore.advance_fresh (run.taken step member) (made step member).1 (noStale step member)
      live newly succeeded
  · intro steps run made noStale step member live newly succeeded
    have output : Cutover.advance step.before step.input = step.output :=
      Option.some.inj (run.taken step member)
    rw [← output] at succeeded ⊢
    exact Cutover.advance_fresh (made step member).1 (noStale step member) live newly succeeded

private def ledgerDb : Workload :=
  { namespace_ := "shop", name := "ledger", kind := "StatefulSet", cls := .sqlLogical }

private def restorePass (ready : Bool) (probes : GoMap String ProbeResult) : Restore.Facts where
  inventory := [ledgerDb]
  useful := .table [(ledgerDb.key, true)]
  usefulMessage := .empty
  rehydrated := .table [(ledgerDb.key, true)]
  ready := .table [(ledgerDb.key, ready)]
  probes := probes

private def cutoverPass (inventory : List Workload) (ready : GoMap String Bool)
    (probes : GoMap String ProbeResult) : Cutover.Facts where
  inventory := inventory
  frozen := true
  lagZero := true
  promoted := true
  switched := true
  ready := ready
  probes := probes

private def probed : GoMap String ProbeResult := .table [(ledgerDb.key, { ok := true })]

private def readied : GoMap String Bool := .table [(ledgerDb.key, true)]

theorem succeeds_on_fresh_evidence_ledger :
    (∃ steps status, Restore.AdvanceRun steps status ∧ ∃ step ∈ steps, step.output.phase = .succeeded ∧
      FreshEvidence step.input.ready step.input.probes step.output.workloads) ∧
    (∃ steps status, Cutover.AdvanceRun steps status ∧ ∃ step ∈ steps, step.output.phase = .succeeded ∧
      FreshEvidence step.input.ready step.input.probes step.output.workloads) := by
  constructor
  · obtain ⟨steps, status, run, made, noStale, step, member, live, newly, succeeded⟩ : ∃ steps status,
        Restore.AdvanceRun steps status ∧ (∀ step ∈ steps, step.input.ready ≠ .nil ∧ step.input.probes ≠ .nil) ∧
        (∀ step ∈ steps, Restore.NoStalePass step.before step.input) ∧ ∃ step ∈ steps, step.input.dryRun = false ∧
          step.before.phase ≠ .succeeded ∧ step.output.phase = .succeeded :=
      Run.exists_of_execute [restorePass false .empty, restorePass true probed] (by decide)
    exact ⟨steps, status, run, step, member, succeeded,
      (succeeds_on_fresh_evidence status).1 steps run made noStale step member live newly succeeded⟩
  · obtain ⟨steps, status, run, made, noStale, step, member, live, newly, succeeded⟩ : ∃ steps status,
        Cutover.AdvanceRun steps status ∧ (∀ step ∈ steps, step.input.ready ≠ .nil ∧ step.input.probes ≠ .nil) ∧
        (∀ step ∈ steps, Cutover.NoStalePass step.before step.input) ∧ ∃ step ∈ steps, step.input.dryRun = false ∧
          step.before.phase ≠ .succeeded ∧ step.output.phase = .succeeded :=
      Run.exists_of_execute (List.replicate 6 (cutoverPass [ledgerDb] readied probed)) (by decide)
    exact ⟨steps, status, run, step, member, succeeded,
      (succeeds_on_fresh_evidence status).2 steps run made noStale step member live newly succeeded⟩

/-- A Restore succeeds on a probe of an earlier pass when the present one has
none, and a Cutover on nothing observed at all when its inventory is empty. -/
theorem succeeds_on_stale_evidence :
    (∃ steps status, Restore.AdvanceRun steps status ∧
      (∀ step ∈ steps, step.input.ready ≠ .nil ∧ step.input.probes ≠ .nil) ∧
      ∃ step ∈ steps, step.input.dryRun = false ∧ step.before.phase ≠ .succeeded ∧
        step.output.phase = .succeeded ∧
          ¬ FreshEvidence step.input.ready step.input.probes step.output.workloads) ∧
    (∃ steps status, Cutover.AdvanceRun steps status ∧
      (∀ step ∈ steps, step.input.ready ≠ .nil ∧ step.input.probes ≠ .nil) ∧
      ∃ step ∈ steps, step.input.dryRun = false ∧ step.before.phase ≠ .succeeded ∧
        step.output.phase = .succeeded ∧
          ¬ FreshEvidence step.input.ready step.input.probes step.output.workloads) := by
  constructor
  · obtain ⟨steps, status, run, made, step, member, live, newly, succeeded, w, listed, stateful, taking, unprobed⟩ :
        ∃ steps status, Restore.AdvanceRun steps status ∧
        (∀ step ∈ steps, step.input.ready ≠ .nil ∧ step.input.probes ≠ .nil) ∧ ∃ step ∈ steps,
          step.input.dryRun = false ∧ step.before.phase ≠ .succeeded ∧ step.output.phase = .succeeded ∧
          ∃ w ∈ step.output.workloads, w.stateful = true ∧ skipped w = false ∧ step.input.probes.find? w.key = none :=
      Run.exists_of_execute [restorePass false .empty, restorePass false probed, restorePass true .empty] (by decide)
    refine ⟨steps, status, run, made, step, member, live, newly, succeeded, fun fresh => ?_⟩
    obtain ⟨_, _, found, _⟩ := fresh w listed stateful taking
    simp [unprobed] at found
  · obtain ⟨steps, status, run, made, step, member, live, newly, succeeded, w, listed, stateful, taking, unprobed⟩ :
        ∃ steps status, Cutover.AdvanceRun steps status ∧
        (∀ step ∈ steps, step.input.ready ≠ .nil ∧ step.input.probes ≠ .nil) ∧ ∃ step ∈ steps,
          step.input.dryRun = false ∧ step.before.phase ≠ .succeeded ∧ step.output.phase = .succeeded ∧
          ∃ w ∈ step.output.workloads, w.stateful = true ∧ skipped w = false ∧ step.input.probes.find? w.key = none :=
      Run.exists_of_execute (List.replicate 5 (cutoverPass [ledgerDb] readied probed) ++ [cutoverPass [] .empty .empty])
        (by decide)
    refine ⟨steps, status, run, made, step, member, live, newly, succeeded, fun fresh => ?_⟩
    obtain ⟨_, _, found, _⟩ := fresh w listed stateful taking
    simp [unprobed] at found

end Portage
