import Portage.Restore.MachineInvariant

/-! What runs of the Restore machine guarantee about the workloads they attest,
and about the workloads they report as skipped. -/
namespace Portage.Restore

open Go Process

/-- The workloads whose artifact is useful in this step. -/
def Facts.usefulOnes (facts : Facts) (workloads : List WorkloadActionStatus) :
    List WorkloadActionStatus :=
  workloads.filter fun w => facts.useful.get w.key

variable {facts : Facts} {status : ActionStatus} {result : ActionResult} {steps : List AdvanceStep}

private theorem markSkipped_keeps {useful : GoMap String Bool}
    {workloads marked : List WorkloadActionStatus} {messages : GoMap String String} {restorable : Nat}
    (done : markSkipped useful workloads messages = some (marked, restorable)) :
    marked.map WorkloadActionStatus.key = workloads.map WorkloadActionStatus.key ∧
      marked.filter (fun w => useful.get w.key) = workloads.filter (fun w => useful.get w.key) := by
  induction workloads generalizing messages marked restorable with
  | nil =>
    obtain ⟨rfl, _⟩ : [] = marked ∧ 0 = restorable := by simpa [markSkipped] using done
    exact ⟨rfl, rfl⟩
  | cons w rest ih =>
    by_cases takes : w.cls = .stateless ∨ useful.get w.key = true
    · cases tail : markSkipped useful rest messages with
      | none => simp [markSkipped, takes, tail] at done
      | some pair =>
        obtain ⟨after, count⟩ := pair
        obtain ⟨rfl, _⟩ : w :: after = marked ∧ count + 1 = restorable := by
          simpa [markSkipped, takes, tail] using done
        obtain ⟨keys, useful⟩ := ih tail
        exact ⟨by simp [keys], by simp [List.filter_cons, useful]⟩
    · obtain ⟨_, notUseful⟩ := not_or.mp takes
      cases stored : messages.assign? w.key (skipMessage (messages.get w.key)) with
      | none => simp [markSkipped, takes, stored] at done
      | some messages' =>
        cases tail : markSkipped useful rest messages' with
        | none => simp [markSkipped, takes, stored, tail] at done
        | some pair =>
          obtain ⟨after, count⟩ := pair
          obtain ⟨rfl, _⟩ : { w with message := skipMessage (messages.get w.key) } :: after = marked ∧
              count = restorable := by
            simpa [markSkipped, takes, stored, tail] using done
          obtain ⟨keys, useful⟩ := ih tail
          exact ⟨by simp [keys], by simp [notUseful, useful]⟩

private theorem preflight_keeps {workloads marked : List WorkloadActionStatus} {reason : String}
    (done : preflight workloads facts = some (marked, reason)) :
    marked.map WorkloadActionStatus.key = workloads.map WorkloadActionStatus.key ∧
      facts.usefulOnes marked = facts.usefulOnes workloads := by
  unfold preflight at done
  split at done
  · obtain ⟨rfl, _⟩ : workloads = marked ∧ "no workloads in inventory" = reason := by
      simpa using done
    exact ⟨rfl, rfl⟩
  · cases tail : markSkipped facts.useful workloads facts.usefulMessage with
    | none => simp [tail] at done
    | some pair =>
      obtain ⟨after, count⟩ := pair
      obtain ⟨rfl, _⟩ : after = marked ∧ _ = reason := by simpa [tail] using done
      exact markSkipped_keeps tail

/-- Preflight rewrites messages only, and none of a useful workload: a step
emits the keys it observed and the useful workloads as it observed them. -/
theorem advance_keeps (taken : advance status facts = some result) :
    result.workloads.map WorkloadActionStatus.key =
        (observed status facts).map WorkloadActionStatus.key ∧
      facts.usefulOnes result.workloads = facts.usefulOnes (observed status facts) := by
  cases advance_move taken with
  | checked _ _ preflighted _ => exact preflight_keeps preflighted
  | finished _ _ workloads => simp [workloads]
  | rewound _ workloads => simp [workloads]
  | rehydrated _ _ workloads _ => simp [workloads]
  | waited _ workloads _ => simp [workloads]

/-- Along a run no workload has an empty key. -/
theorem run_key_ne_empty (run : AdvanceRun steps status) : ∀ w ∈ status.workloads, w.key ≠ "" := by
  refine run.history (fun _ status => ∀ w ∈ status.workloads, w.key ≠ "") (by simp) ?_
  intro steps status facts result _ named taken w member
  have listed : w.key ∈ (observed status facts).map WorkloadActionStatus.key := by
    rw [← (advance_keeps taken).1]
    exact List.mem_map_of_mem member
  obtain ⟨seen, present, same⟩ := List.mem_map.mp listed
  exact same ▸ observed_key_ne_empty named facts seen present

/-! ### Rehydration before attestation -/

/-- The phases a Restore can only be in once it has left Rehydrating. -/
def afterRehydration : ActionPhase → Bool
  | .waitingReady | .healing | .attesting | .succeeded => true
  | _ => false

/-- No stateful workload starts to take part after Rehydrating was left, by
joining the inventory or by losing its skip report, unless its data is reported
restored in that very step. -/
def LateJoinersRehydrated (status : ActionStatus) (facts : Facts) : Prop :=
  afterRehydration status.phase = true →
    ∀ w ∈ seedWorkloads status.workloads facts.inventory, w.stateful = true →
      hasPrefix (facts.messageFor w) "skipped:" = false →
        (∃ old ∈ status.workloads, old.key = w.key ∧ old.stateful = true ∧ skipped old = false) ∨
          facts.rehydrated.get w.key = true

instance (status : ActionStatus) (facts : Facts) : Decidable (LateJoinersRehydrated status facts) := by
  delta LateJoinersRehydrated
  infer_instance

/-- Whenever a step emits Succeeded, each stateful workload it lists without a
skip report had its data reported restored in that step or an earlier one. -/
def AttestsRehydrated (steps : List AdvanceStep) : Prop :=
  ∀ earlier step later, steps = earlier ++ step :: later → step.output.phase = .succeeded →
    ∀ w ∈ step.output.workloads, w.stateful = true → skipped w = false →
      ∃ past ∈ earlier ++ [step], past.input.rehydrated.get w.key = true

/-- The invariant that carries the proof: past Rehydrating, every workload that
takes part was once reported restored. -/
private def RehydratedBy (steps : List AdvanceStep) (status : ActionStatus) : Prop :=
  afterRehydration status.phase = true → ∀ w ∈ status.workloads, w.stateful = true →
    skipped w = false → ∃ past ∈ steps, past.input.rehydrated.get w.key = true

private theorem rehydratedBy_late (known : RehydratedBy steps status) (late : afterRehydration status.phase = true)
    (orderly : LateJoinersRehydrated status facts) (workloads : result.workloads = observed status facts) :
    RehydratedBy (steps ++ [⟨status, facts, result⟩]) (status.feedBack result) := by
  intro _ w member stateful taking
  rw [ActionStatus.feedBack_workloads, workloads] at member
  obtain ⟨seed, present, rfl⟩ := List.mem_map.mp member
  have plain : hasPrefix (facts.messageFor seed) "skipped:" = false := by
    simpa [skipped] using taking
  rcases orderly late seed present (by simpa [WorkloadActionStatus.stateful] using stateful) plain with
    ⟨old, listed, same, oldStateful, oldTaking⟩ | now
  · obtain ⟨past, done, restored⟩ := known late old listed oldStateful oldTaking
    exact ⟨past, List.mem_append_left _ done, by simpa [← same] using restored⟩
  · exact ⟨⟨status, facts, result⟩, by simp, by simpa using now⟩

private theorem rehydratedBy_step (named : ∀ w ∈ status.workloads, w.key ≠ "") (known : RehydratedBy steps status)
    (live : facts.dryRun = false) (orderly : LateJoinersRehydrated status facts)
    (taken : advance status facts = some result) :
    RehydratedBy (steps ++ [⟨status, facts, result⟩]) (status.feedBack result) := by
  cases advance_move taken with
  | finished ended phase workloads =>
    rcases ended with done | done | done
    · exact rehydratedBy_late known (by simp [done, afterRehydration]) orderly workloads
    · intro late
      simp [phase, done, afterRehydration] at late
    · intro late
      simp [phase, done, afterRehydration] at late
  | checked _ _ _ phase =>
    intro late
    rcases phase with phase | phase | ⟨_, dry⟩
    · simp [phase, afterRehydration] at late
    · simp [phase, afterRehydration] at late
    · simp [live] at dry
  | rewound phase _ =>
    intro late
    rcases phase with phase | phase <;> simp [phase, afterRehydration] at late
  | rehydrated _ clear workloads _ =>
    intro _ w member stateful taking
    rw [ActionStatus.feedBack_workloads, workloads] at member
    have cleared := ok_of_waiting_empty (observed_key_ne_empty named facts) clear member taking
    have restored : facts.rehydrated.get w.key = true := by
      have notStateless : w.cls ≠ .stateless := by simpa [WorkloadActionStatus.stateful] using stateful
      simpa [notStateless] using cleared
    exact ⟨⟨status, facts, result⟩, by simp, restored⟩
  | waited after workloads _ =>
    refine rehydratedBy_late known ?_ orderly workloads
    rcases after with phase | phase | phase <;> simp [phase, afterRehydration]

private theorem rehydratedBy_run (run : AdvanceRun steps status) (live : ∀ step ∈ steps, step.input.dryRun = false)
    (orderly : ∀ step ∈ steps, LateJoinersRehydrated step.before step.input) : RehydratedBy steps status := by
  induction run with
  | nil =>
    intro late
    simp [afterRehydration] at late
  | @snoc steps status facts result earlier taken ih =>
    have known := ih (fun step member => live step (by simp [member]))
      (fun step member => orderly step (by simp [member]))
    exact rehydratedBy_step (run_key_ne_empty earlier) known (live ⟨status, facts, result⟩ (by simp))
      (orderly ⟨status, facts, result⟩ (by simp)) taken

/-- A run in which nobody joins late attests only restored data. -/
theorem run_attestsRehydrated {steps : List AdvanceStep} {status : ActionStatus}
    (run : AdvanceRun steps status) (live : ∀ step ∈ steps, step.input.dryRun = false)
    (orderly : ∀ step ∈ steps, LateJoinersRehydrated step.before step.input) :
    AttestsRehydrated steps := by
  intro earlier step later split succeeded w member stateful taking
  obtain ⟨before, taken⟩ := run.reached earlier later step split
  have within : ∀ past ∈ earlier ++ [step], past ∈ steps := by
    intro past inside
    rw [split]
    simp only [List.mem_append, List.mem_cons, List.not_mem_nil, or_false] at inside ⊢
    tauto
  have attained := rehydratedBy_run (Run.snoc before taken)
    (fun past inside => live past (within past inside))
    (fun past inside => orderly past (within past inside))
  exact attained (by simp [succeeded, afterRehydration]) w member stateful taking

private def ledger : Workload :=
  { namespace_ := "shop", name := "ledger", kind := "StatefulSet", cls := .sqlLogical }

private def orders : Workload :=
  { namespace_ := "shop", name := "orders", kind := "StatefulSet", cls := .sqlLogical }

private def table {ν : Type} (value : ν) (workloads : List Workload) : GoMap String ν :=
  .table (workloads.map fun w => (w.key, value))

/-- What a reconcile observes when the given workloads are restored, and others
are Ready and probed. -/
private def pass (inventory restored healthy : List Workload) : Facts where
  inventory := inventory
  useful := table true inventory
  usefulMessage := .empty
  rehydrated := table true restored
  ready := table true healthy
  probes := table { ok := true } healthy

theorem run_attestsRehydrated_ledger : ∃ steps status, AdvanceRun steps status ∧
    status.phase = .succeeded ∧ AttestsRehydrated steps := by
  obtain ⟨steps, status, run, succeeded, live, late⟩ : ∃ steps status, AdvanceRun steps status ∧
      status.phase = .succeeded ∧ (∀ step ∈ steps, step.input.dryRun = false) ∧
      ∀ step ∈ steps, LateJoinersRehydrated step.before step.input :=
    Run.exists_of_execute [pass [ledger] [] [], pass [ledger] [ledger] [], pass [ledger] [ledger] [ledger]] (by decide)
  exact ⟨steps, status, run, succeeded, run_attestsRehydrated run live late⟩

/-- A database that joins the inventory once the Action waits for readiness is
attested although its data was never reported restored. -/
theorem run_attests_unrestored : ∃ steps status, AdvanceRun steps status ∧
    (∀ step ∈ steps, step.input.dryRun = false) ∧ ¬ AttestsRehydrated steps := by
  obtain ⟨steps, status, run, live, step, last, succeeded, w, member, stateful, taking, unrestored⟩ :
      ∃ steps status, AdvanceRun steps status ∧ (∀ step ∈ steps, step.input.dryRun = false) ∧
      ∃ step ∈ steps.getLast?, step.output.phase = .succeeded ∧ ∃ w ∈ step.output.workloads,
        w.stateful = true ∧ skipped w = false ∧ ∀ past ∈ steps, past.input.rehydrated.get w.key = false :=
    Run.exists_of_execute [pass [ledger] [] [], pass [ledger] [ledger] [], pass [ledger, orders] [] [ledger, orders]]
      (by decide)
  obtain ⟨earlier, split⟩ := List.getLast?_eq_some_iff.mp last
  refine ⟨steps, status, run, live, fun attests => ?_⟩
  obtain ⟨past, inside, restored⟩ := attests earlier step [] split succeeded w member stateful taking
  simp [unrestored past (split ▸ inside)] at restored

/-! ### Useful artifacts and skip reports -/

/-- No workload whose artifact is useful is reported as skipped, neither in the
list the waits and the gate look at nor in the list the step emits. -/
def UsefulTakePart (step : AdvanceStep) : Prop :=
  (∀ w ∈ observed step.before step.input, step.input.useful.get w.key = true → skipped w = false) ∧
    ∀ w ∈ step.output.workloads, step.input.useful.get w.key = true → skipped w = false

/-- The text that comes with a useful artifact, or the text already stored when
that one is empty, does not read as a skip report. -/
def UsefulUnmarked (status : ActionStatus) (facts : Facts) : Prop :=
  ∀ w ∈ seedWorkloads status.workloads facts.inventory, facts.useful.get w.key = true →
    hasPrefix (facts.messageFor w) "skipped:" = false

instance (status : ActionStatus) (facts : Facts) : Decidable (UsefulUnmarked status facts) := by
  delta UsefulUnmarked
  infer_instance

private theorem usefulTakePart_iff (taken : advance status facts = some result) :
    UsefulTakePart ⟨status, facts, result⟩ ↔ UsefulUnmarked status facts := by
  have emitted : (∀ w ∈ result.workloads, facts.useful.get w.key = true → skipped w = false) ↔
      ∀ w ∈ observed status facts, facts.useful.get w.key = true → skipped w = false := by
    have same := (advance_keeps taken).2
    have through : ∀ workloads : List WorkloadActionStatus,
        (∀ w ∈ workloads, facts.useful.get w.key = true → skipped w = false) ↔
          ∀ w ∈ facts.usefulOnes workloads, skipped w = false := by
      simp [Facts.usefulOnes]
    rw [through, through, same]
  have looked : (∀ w ∈ observed status facts, facts.useful.get w.key = true → skipped w = false) ↔
      UsefulUnmarked status facts := by
    simp [observed, applyFacts, UsefulUnmarked, skipped]
  unfold UsefulTakePart
  dsimp only
  rw [emitted, looked, and_self]

/-- Along a run, the workloads with a useful artifact take part in every step
exactly when none of the texts they come with reads as a skip report. -/
theorem run_usefulTakePart_iff {steps : List AdvanceStep} {status : ActionStatus}
    (run : AdvanceRun steps status) :
    (∀ step ∈ steps, UsefulTakePart step) ↔
      ∀ step ∈ steps, UsefulUnmarked step.before step.input :=
  forall₂_congr fun step member => usefulTakePart_iff (run.taken step member)

theorem run_usefulTakePart_ledger : ∃ steps status, AdvanceRun steps status ∧
    status.phase = .succeeded ∧ ∀ step ∈ steps, UsefulTakePart step := by
  obtain ⟨steps, status, run, succeeded, unmarked⟩ : ∃ steps status, AdvanceRun steps status ∧
      status.phase = .succeeded ∧ ∀ step ∈ steps, UsefulUnmarked step.before step.input :=
    Run.exists_of_execute [pass [ledger] [] [], pass [ledger] [ledger] [ledger]] (by decide)
  exact ⟨steps, status, run, succeeded, (run_usefulTakePart_iff run).mpr unmarked⟩

/-- A database skipped for lack of an artifact stays skipped after a useful one
is recorded without a text, and the Action succeeds without restoring it. -/
theorem run_skips_useful : ∃ steps status, AdvanceRun steps status ∧
    status.phase = .succeeded ∧ ¬ ∀ step ∈ steps, UsefulTakePart step := by
  obtain ⟨steps, status, run, succeeded, step, member, w, listed, useful, aside⟩ : ∃ steps status,
      AdvanceRun steps status ∧ status.phase = .succeeded ∧ ∃ step ∈ steps, ∃ w ∈ step.output.workloads,
        step.input.useful.get w.key = true ∧ skipped w = true :=
    Run.exists_of_execute [{ pass [ledger, orders] [] [] with useful := table true [ledger] },
      pass [ledger, orders] [ledger] [ledger]] (by decide)
  refine ⟨steps, status, run, succeeded, fun takePart => ?_⟩
  simp [(takePart step member).2 w listed useful] at aside

end Portage.Restore
