import Portage.Restore.Machine

namespace Portage.Restore

open Go Process

section Observation
variable (facts : Facts) (w : WorkloadActionStatus)

@[simp] theorem applyReady_key : (applyReady facts w).key = w.key := by
  unfold applyReady; split <;> rfl

@[simp] theorem applyReady_cls : (applyReady facts w).cls = w.cls := by
  unfold applyReady; split <;> rfl

@[simp] theorem applyReady_message : (applyReady facts w).message = w.message := by
  unfold applyReady; split <;> rfl

@[simp] theorem applyReady_probeOK : (applyReady facts w).probeOK = w.probeOK := by
  unfold applyReady; split <;> rfl

theorem applyReady_ready (made : facts.ready ≠ .nil) :
    (applyReady facts w).ready = facts.ready.get w.key := by
  unfold applyReady
  split
  · contradiction
  · rfl

@[simp] theorem applyProbe_key : (applyProbe facts w).key = w.key := by
  unfold applyProbe; split <;> rfl

@[simp] theorem applyProbe_cls : (applyProbe facts w).cls = w.cls := by
  unfold applyProbe; split <;> rfl

@[simp] theorem applyProbe_message : (applyProbe facts w).message = w.message := by
  unfold applyProbe; split <;> rfl

@[simp] theorem applyProbe_ready : (applyProbe facts w).ready = w.ready := by
  unfold applyProbe; split <;> rfl

theorem applyProbe_probeOK : (applyProbe facts w).probeOK =
    ((facts.probes.find? w.key).map ProbeResult.ok).getD w.probeOK := by
  unfold applyProbe; split <;> simp_all

@[simp] theorem applyHealed_key : (applyHealed facts w).key = w.key := by
  unfold applyHealed; split <;> rfl

@[simp] theorem applyHealed_cls : (applyHealed facts w).cls = w.cls := by
  unfold applyHealed; split <;> rfl

@[simp] theorem applyHealed_message : (applyHealed facts w).message = w.message := by
  unfold applyHealed; split <;> rfl

@[simp] theorem applyHealed_ready : (applyHealed facts w).ready = w.ready := by
  unfold applyHealed; split <;> rfl

@[simp] theorem applyHealed_probeOK : (applyHealed facts w).probeOK = w.probeOK := by
  unfold applyHealed; split <;> rfl

@[simp] theorem applyStateless_key : (applyStateless w).key = w.key := by
  unfold applyStateless; split <;> rfl

@[simp] theorem applyStateless_cls : (applyStateless w).cls = w.cls := by
  unfold applyStateless; split <;> rfl

@[simp] theorem applyStateless_message : (applyStateless w).message = w.message := by
  unfold applyStateless; split <;> rfl

@[simp] theorem applyStateless_ready : (applyStateless w).ready = w.ready := by
  unfold applyStateless; split <;> rfl

theorem applyStateless_of_stateful (stateful : w.cls ≠ .stateless) : applyStateless w = w := by
  simp [applyStateless, stateful]

@[simp] theorem applyFact_key : (applyFact facts w).key = w.key := by
  simp [applyFact, applyMessage]

@[simp] theorem applyFact_cls : (applyFact facts w).cls = w.cls := by
  simp [applyFact, applyMessage]

@[simp] theorem applyFact_message : (applyFact facts w).message = facts.messageFor w := by
  simp [applyFact, applyMessage, Facts.messageFor]

theorem applyFact_ready (made : facts.ready ≠ .nil) :
    (applyFact facts w).ready = facts.ready.get w.key := by
  simp [applyFact, applyMessage, applyReady_ready facts w made]

/-- A stateful workload keeps its carried probe unless this step has a result. -/
theorem applyFact_probeOK (stateful : w.cls ≠ .stateless) : (applyFact facts w).probeOK =
    ((facts.probes.find? w.key).map ProbeResult.ok).getD w.probeOK := by
  rw [applyFact, applyStateless_of_stateful _ (by simpa [applyMessage] using stateful)]
  simp [applyMessage, applyProbe_probeOK]

end Observation

variable {status : ActionStatus} {facts : Facts} {result : ActionResult}

theorem seedWorkloads_key_ne_empty {existing : List WorkloadActionStatus}
    (named : ∀ w ∈ existing, w.key ≠ "") (inventory : List Workload) :
    ∀ w ∈ seedWorkloads existing inventory, w.key ≠ "" := by
  intro w member
  unfold seedWorkloads at member
  split at member
  · exact named w member
  · obtain ⟨source, _, rfl⟩ := List.mem_map.mp member
    exact source.key_ne_empty

theorem observed_key_ne_empty (named : ∀ w ∈ status.workloads, w.key ≠ "") (facts : Facts) :
    ∀ w ∈ observed status facts, w.key ≠ "" := by
  intro w member
  obtain ⟨seed, present, rfl⟩ := List.mem_map.mp member
  simpa using seedWorkloads_key_ne_empty named facts.inventory seed present

/-- An empty answer of `waiting` clears every workload that takes part, as long
as no workload has an empty key. -/
theorem ok_of_waiting_empty {workloads : List WorkloadActionStatus} {ok : WorkloadActionStatus → Bool}
    (named : ∀ w ∈ workloads, w.key ≠ "") (clear : waiting workloads ok = "")
    {w : WorkloadActionStatus} (member : w ∈ workloads) (taking : skipped w = false) : ok w = true := by
  unfold waiting at clear
  split at clear
  · rename_i held found
    exact absurd clear (named held (List.mem_of_find?_eq_some found))
  · rename_i missing
    have passed := List.find?_eq_none.mp missing w member
    simpa [taking] using passed

theorem attest_workloads (workloads : List WorkloadActionStatus) (now : Time) :
    (attest workloads now).workloads = workloads := by
  unfold attest; dsimp only; split <;> rfl

theorem attest_phase (workloads : List WorkloadActionStatus) (now : Time) :
    (attest workloads now).phase = .waitingReady ∨
      (attest workloads now).phase = .succeeded ∧ (canSucceed workloads).1 = true := by
  unfold attest
  cases opened : (canSucceed workloads).1 <;> simp [opened]

theorem awaitReady_workloads (workloads : List WorkloadActionStatus) (now : Time) :
    (awaitReady workloads now).workloads = workloads := by
  unfold awaitReady
  dsimp only
  split
  · rfl
  · split
    · rfl
    · exact attest_workloads workloads now

theorem awaitReady_phase (workloads : List WorkloadActionStatus) (now : Time) :
    (awaitReady workloads now).phase = .waitingReady ∨
      (awaitReady workloads now).phase = .succeeded ∧ (canSucceed workloads).1 = true := by
  unfold awaitReady
  dsimp only
  split
  · exact .inl rfl
  · split
    · exact .inl rfl
    · exact attest_phase workloads now

/-- Rehydration is complete for every workload that takes part. -/
def cleared (status : ActionStatus) (facts : Facts) : Prop :=
  waiting (observed status facts) (fun w => w.cls == .stateless || facts.rehydrated.get w.key) = ""

/-- What one step can do, by the branch it takes. -/
inductive Move (status : ActionStatus) (facts : Facts) (result : ActionResult) : Prop where
  | finished
      (ended : status.phase = .succeeded ∨ status.phase = .failed ∨ status.phase = .rolledBack)
      (phase : result.phase = status.phase) (workloads : result.workloads = observed status facts)
  | checked
      (first : status.phase = .unset ∨ status.phase = .pending ∨ status.phase = .preflight)
      (reason : String)
      (preflighted : preflight (observed status facts) facts = some (result.workloads, reason))
      (phase : result.phase = .failed ∨ result.phase = .rehydrating ∨
        result.phase = .succeeded ∧ facts.dryRun = true)
  | rewound (phase : result.phase = .rehydrating ∨ result.phase = .preflight)
      (workloads : result.workloads = observed status facts)
  | rehydrated (during : status.phase = .rehydrating ∨ status.phase = .applying)
      (clear : cleared status facts) (workloads : result.workloads = observed status facts)
      (gate : result.phase = .waitingReady ∨
        result.phase = .succeeded ∧ (canSucceed (observed status facts)).1 = true)
  | waited
      (after : status.phase = .waitingReady ∨ status.phase = .healing ∨ status.phase = .attesting)
      (workloads : result.workloads = observed status facts)
      (gate : result.phase = .waitingReady ∨
        result.phase = .succeeded ∧ (canSucceed (observed status facts)).1 = true)

private theorem checked_move (first : status.phase = .unset ∨ status.phase = .pending ∨ status.phase = .preflight)
    (taken : advance status facts = some result) : Move status facts result := by
  have branch : preflightStep (observed status facts) facts = some result := by
    rcases first with phase | phase | phase <;> simpa only [advance, phase] using taken
  unfold preflightStep at branch
  cases answer : preflight (observed status facts) facts with
  | none => simp [answer] at branch
  | some pair =>
    obtain ⟨marked, reason⟩ := pair
    simp only [answer] at branch
    split at branch
    · obtain rfl := Option.some.inj branch
      exact .checked first reason answer (.inl rfl)
    · split at branch
      · rename_i dry
        obtain rfl := Option.some.inj branch
        exact .checked first reason answer (.inr (.inr ⟨rfl, dry⟩))
      · obtain rfl := Option.some.inj branch
        exact .checked first reason answer (.inr (.inl rfl))

private theorem rehydrated_move (during : status.phase = .rehydrating ∨ status.phase = .applying)
    (taken : advance status facts = some result) : Move status facts result := by
  by_cases clear : cleared status facts
  · obtain rfl : awaitReady (observed status facts) facts.now = result := by
      unfold cleared at clear
      rcases during with phase | phase <;> simpa [advance, phase, clear] using taken
    exact .rehydrated during clear (awaitReady_workloads _ _) (awaitReady_phase _ _)
  · unfold cleared at clear
    rcases during with phase | phase <;>
      (simp only [advance, phase, ne_eq, clear, not_false_eq_true, ↓reduceIte, Option.some.injEq] at taken
       subst taken
       exact .rewound (.inl rfl) rfl)

/-- Every step is one of these moves. -/
theorem advance_move (taken : advance status facts = some result) : Move status facts result := by
  cases phase : status.phase with
  | unset => exact checked_move (.inl phase) taken
  | pending => exact checked_move (.inr (.inl phase)) taken
  | preflight => exact checked_move (.inr (.inr phase)) taken
  | rehydrating => exact rehydrated_move (.inl phase) taken
  | applying => exact rehydrated_move (.inr phase) taken
  | succeeded =>
    obtain rfl : _ = result := by simpa [advance, phase] using taken
    exact .finished (.inl phase) phase.symm rfl
  | failed =>
    obtain rfl : _ = result := by simpa [advance, phase] using taken
    exact .finished (.inr (.inl phase)) phase.symm rfl
  | rolledBack =>
    obtain rfl : _ = result := by simpa [advance, phase] using taken
    exact .finished (.inr (.inr phase)) phase.symm rfl
  | waitingReady =>
    obtain rfl : awaitReady (observed status facts) facts.now = result := by
      simpa [advance, phase] using taken
    exact .waited (.inl phase) (awaitReady_workloads _ _) (awaitReady_phase _ _)
  | healing =>
    obtain rfl : awaitReady (observed status facts) facts.now = result := by
      simpa [advance, phase] using taken
    exact .waited (.inr (.inl phase)) (awaitReady_workloads _ _) (awaitReady_phase _ _)
  | attesting =>
    obtain rfl : attest (observed status facts) facts.now = result := by
      simpa [advance, phase] using taken
    exact .waited (.inr (.inr phase)) (attest_workloads _ _) (attest_phase _ _)
  | quiescing =>
    obtain rfl : _ = result := by simpa [advance, phase] using taken
    exact .rewound (.inl rfl) rfl
  | catchingUp =>
    obtain rfl : _ = result := by simpa [advance, phase] using taken
    exact .rewound (.inr rfl) rfl
  | promoting =>
    obtain rfl : _ = result := by simpa [advance, phase] using taken
    exact .rewound (.inr rfl) rfl
  | switching =>
    obtain rfl : _ = result := by simpa [advance, phase] using taken
    exact .rewound (.inr rfl) rfl
  | other text =>
    obtain rfl : _ = result := by simpa [advance, phase] using taken
    exact .rewound (.inr rfl) rfl

/-! ### Nil maps -/

/-- Marking stores a report for every stateful workload without a useful artifact, and
only that needs a made map. -/
theorem markSkipped_isSome_iff (useful : GoMap String Bool) (workloads : List WorkloadActionStatus)
    (messages : GoMap String String) :
    (markSkipped useful workloads messages).isSome ↔
      messages ≠ .nil ∨ ∀ w ∈ workloads, w.cls = .stateless ∨ useful.get w.key = true := by
  induction workloads generalizing messages with
  | nil => simp [markSkipped]
  | cons w rest ih =>
    by_cases takes : w.cls = .stateless ∨ useful.get w.key = true
    · have same : (markSkipped useful (w :: rest) messages).isSome =
          (markSkipped useful rest messages).isSome := by
        rw [markSkipped, if_pos takes]
        cases markSkipped useful rest messages <;> rfl
      rw [same, ih, List.forall_mem_cons]
      simp only [takes, true_and]
    · cases messages with
      | nil => simp [markSkipped, takes, GoMap.assign?]
      | table entries =>
        have stored := (ih (.table ((w.key, skipMessage ((GoMap.table entries).get w.key)) :: entries))).mpr
          (.inl (by simp))
        obtain ⟨pair, tail⟩ := Option.isSome_iff_exists.mp stored
        simp [markSkipped, takes, GoMap.assign?, tail]

theorem preflightStep_isSome_iff (workloads : List WorkloadActionStatus) (facts : Facts) :
    (preflightStep workloads facts).isSome ↔
      facts.usefulMessage ≠ .nil ∨ ∀ w ∈ workloads, w.cls = .stateless ∨ facts.useful.get w.key = true := by
  have answered : (preflightStep workloads facts).isSome = (preflight workloads facts).isSome := by
    rw [preflightStep]
    cases preflight workloads facts with
    | none => rfl
    | some pair =>
      dsimp only
      split
      · rfl
      · split <;> rfl
  rw [answered, preflight]
  cases workloads with
  | nil => simp
  | cons w rest =>
    rw [← markSkipped_isSome_iff, List.isEmpty_cons]
    cases markSkipped facts.useful (w :: rest) facts.usefulMessage <;> rfl

/-- The classes of the workloads that a step looks at, under their keys. -/
def Facts.classes (facts : Facts) (status : ActionStatus) : List (String × WorkloadClass) :=
  if facts.inventory = [] then status.workloads.map fun w => (w.key, w.cls)
  else facts.inventory.map fun w => (w.key, w.cls)

private theorem observed_classes (status : ActionStatus) (facts : Facts) :
    (observed status facts).map (fun w => (w.key, w.cls)) = facts.classes status := by
  unfold observed applyFacts seedWorkloads Facts.classes
  cases facts.inventory <;> simp

/-- A step panics exactly if preflight has to report a workload to be skipped and no map for
the reports was made. -/
theorem advance_isSome_iff (status : ActionStatus) (facts : Facts) :
    (advance status facts).isSome ↔
      (status.phase ≠ .unset ∧ status.phase ≠ .pending ∧ status.phase ≠ .preflight) ∨
      facts.usefulMessage ≠ .nil ∨
      ∀ entry ∈ facts.classes status, entry.2 = .stateless ∨ facts.useful.get entry.1 = true := by
  have checked := preflightStep_isSome_iff (observed status facts) facts
  rw [← observed_classes, List.forall_mem_map]
  cases phase : status.phase
  case unset | pending | preflight => simpa [advance, phase] using checked
  case rehydrating | applying =>
    simp only [advance, phase]
    split <;> simp
  all_goals simp [advance, phase]

theorem advance_panics :
    advance {} { inventory := [{ namespace_ := "shop", name := "db", kind := "StatefulSet", cls := .sqlLogical }] } =
      none := by
  decide

end Portage.Restore
