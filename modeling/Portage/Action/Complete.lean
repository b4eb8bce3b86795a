import Portage.Api.Types
import Portage.Go.Text

/-! The Action completion gate. Kubernetes Ready is not enough: every stateful
workload must also pass its class probe. -/
namespace Portage

open Go

/-- A workload reported as skipped rather than used to abort the Action. The
report is a prefix of its free-text message. -/
def skipped (w : WorkloadActionStatus) : Bool := hasPrefix w.message "skipped:"

/-- The first workload that keeps an Action from finishing, scanning in order
and counting the workloads that take part. -/
def firstBlocker : List WorkloadActionStatus → Nat → Option String × Nat
  | [], restorable => (none, restorable)
  | w :: rest, restorable =>
    if skipped w then firstBlocker rest restorable
    else if !w.ready then (some (w.name ++ " is not Ready"), restorable + 1)
    else if w.cls = .stateless then firstBlocker rest (restorable + 1)
    else if !w.probeOK then (some (w.name ++ " class probe has not passed"), restorable + 1)
    else firstBlocker rest (restorable + 1)

/-- Whether an Action may enter phase Succeeded, with the reason if not. -/
def canSucceed (workloads : List WorkloadActionStatus) : Bool × String :=
  if workloads.isEmpty then (false, "no workloads recorded")
  else
    match firstBlocker workloads 0 with
    | (some reason, _) => (false, reason)
    | (none, restorable) =>
      if restorable = 0 then (false, "no restorable workloads") else (true, "")

/-- What the gate asks of a workload that takes part. -/
def WorkloadActionStatus.passes (w : WorkloadActionStatus) : Bool :=
  w.ready && (w.cls == .stateless || w.probeOK)

private theorem firstBlocker_none_iff (workloads : List WorkloadActionStatus) (restorable : Nat) :
    (firstBlocker workloads restorable).1 = none ↔
      ∀ w ∈ workloads, skipped w = false → w.passes = true := by
  induction workloads generalizing restorable with
  | nil => simp [firstBlocker]
  | cons w rest ih =>
    cases aside : skipped w
    · cases ready : w.ready
      · simp [firstBlocker, aside, ready, WorkloadActionStatus.passes]
      · by_cases stateless : w.cls = .stateless
        · simp [firstBlocker, aside, ready, stateless, ih, WorkloadActionStatus.passes]
        · cases probed : w.probeOK <;>
            simp [firstBlocker, aside, ready, stateless, probed, ih, WorkloadActionStatus.passes]
    · simp [firstBlocker, aside, ih]

private theorem firstBlocker_count (workloads : List WorkloadActionStatus) (restorable : Nat)
    (open_ : (firstBlocker workloads restorable).1 = none) :
    (firstBlocker workloads restorable).2 =
      restorable + workloads.countP (fun w => !skipped w) := by
  induction workloads generalizing restorable with
  | nil => simp [firstBlocker]
  | cons w rest ih =>
    cases aside : skipped w
    · cases ready : w.ready
      · simp [firstBlocker, aside, ready] at open_
      · by_cases stateless : w.cls = .stateless
        · have left : (firstBlocker rest (restorable + 1)).1 = none := by
            simpa [firstBlocker, aside, ready, stateless] using open_
          simp [firstBlocker, aside, ready, stateless, ih _ left]
          omega
        · cases probed : w.probeOK
          · simp [firstBlocker, aside, ready, stateless, probed] at open_
          · have left : (firstBlocker rest (restorable + 1)).1 = none := by
              simpa [firstBlocker, aside, ready, stateless, probed] using open_
            simp [firstBlocker, aside, ready, stateless, probed, ih _ left]
            omega
    · have left : (firstBlocker rest restorable).1 = none := by
        simpa [firstBlocker, aside] using open_
      simp [firstBlocker, aside, ih _ left]

/-- The gate opens exactly when some workload takes part and every workload
that takes part is Ready and, unless stateless, probed. -/
theorem canSucceed_iff (workloads : List WorkloadActionStatus) :
    (canSucceed workloads).1 = true ↔
      (∃ w ∈ workloads, skipped w = false) ∧
        ∀ w ∈ workloads, skipped w = false → w.passes = true := by
  cases workloads with
  | nil => simp [canSucceed]
  | cons first rest =>
    have counted := firstBlocker_count (first :: rest) 0
    rw [← firstBlocker_none_iff (first :: rest) 0]
    generalize workloads : first :: rest = all at *
    have nonempty : all.isEmpty = false := by simp [← workloads]
    simp only [canSucceed, nonempty, Bool.false_eq_true, ↓reduceIte]
    rcases answer : firstBlocker all 0 with ⟨blocker, restorable⟩
    cases blocker with
    | some reason => simp
    | none =>
      have total : restorable = all.countP (fun w => !skipped w) := by
        simpa [answer] using counted
      have some_iff : (∃ w ∈ all, skipped w = false) ↔ restorable ≠ 0 := by
        rw [total, ← Nat.pos_iff_ne_zero, List.countP_pos_iff]
        simp
      by_cases none_left : restorable = 0 <;> simp [none_left, some_iff]

theorem canSucceed_passes {workloads : List WorkloadActionStatus} {w : WorkloadActionStatus}
    (opened : (canSucceed workloads).1 = true) (member : w ∈ workloads) (taking : skipped w = false) :
    w.ready = true ∧ (w.cls = .stateless ∨ w.probeOK = true) := by
  simpa [WorkloadActionStatus.passes] using ((canSucceed_iff workloads).mp opened).2 w member taking

end Portage
