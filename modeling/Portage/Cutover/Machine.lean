import Portage.Action.Complete
import Portage.Classify.Workload
import Portage.Go.Map
import Portage.Process.Run

/-! The planned failover state machine. A warm replica is assumed to be running
already. -/
namespace Portage.Cutover

open Go

/-- What the controller observed in one reconcile. The maps may be nil. -/
structure Facts where
  inventory : List Workload := []
  frozen : Bool := false
  lagZero : Bool := false
  promoted : Bool := false
  switched : Bool := false
  rolled : Bool := false
  ready : GoMap String Bool := .nil
  probes : GoMap String ProbeResult := .nil
  dryRun : Bool := false
  rollback : Bool := false
  now : Time := 0
  deriving DecidableEq, Repr

def seedReady (facts : Facts) (st : WorkloadActionStatus) : WorkloadActionStatus :=
  match facts.ready with
  | .nil => st
  | ready => { st with ready := ready.get st.key }

def seedProbe (facts : Facts) (st : WorkloadActionStatus) : WorkloadActionStatus :=
  match facts.probes.find? st.key with
  | some p => { st with probe := p.message, probeOK := p.ok }
  | none => st

/-- The status of one inventory item, from what was carried under its key. -/
def seedOne (facts : Facts) (carried : WorkloadActionStatus) (w : Workload) : WorkloadActionStatus :=
  let st := { carried with name := w.name, key := w.key, cls := w.cls, engine := w.engine }
  let st := seedProbe facts (seedReady facts st)
  if st.cls = .stateless ∧ st.ready = true then { st with probeOK := true } else st

/-- Unlike a Restore, an empty inventory keeps the list and drops the facts. -/
def seed (existing : List WorkloadActionStatus) (facts : Facts) : List WorkloadActionStatus :=
  if facts.inventory.isEmpty then existing
  else
    let byKey := GoMap.indexBy WorkloadActionStatus.key existing
    facts.inventory.map fun w => seedOne facts (byKey.get w.key) w

/-- The message of the first workload that is not Ready and probed, if any. Skip
reports are not consulted here. -/
def unproven (workloads : List WorkloadActionStatus) : Option String :=
  match workloads.find? fun w => !w.passes with
  | none => none
  | some w =>
    some (if !w.ready then w.key ++ " is not Ready" else w.key ++ " class probe has not passed")

/-- The last phases: wait until every workload is proven, then ask the gate. -/
def prove (workloads : List WorkloadActionStatus) (now : Time) : ActionResult :=
  match unproven workloads with
  | some message =>
    { phase := .waitingReady, message, workloads, requeueAfter := seconds 5 }
  | none =>
    let (ok, reason) := canSucceed workloads
    if !ok then
      { phase := .waitingReady, message := reason, workloads, requeueAfter := seconds 5 }
    else
      { phase := .succeeded
        message := "cutover complete; dest Ready and probed"
        workloads
        terminal := true
        attestation := some { recordedAt := now, source := "cutover", workloads } }

/-- Move a Cutover Action one step. -/
def advance (status : ActionStatus) (facts : Facts) : ActionResult :=
  let phase := if status.phase = .unset then .pending else status.phase
  let workloads := seed status.workloads facts
  if facts.rollback ∧ phase ≠ .rolledBack then
    { phase := .rolledBack, message := "source unfrozen; traffic rolled back", workloads
      terminal := true }
  else
    match phase with
    | .succeeded | .failed | .rolledBack =>
      { phase, message := status.message, workloads, attestation := status.attestation
        terminal := true }
    | .pending | .preflight =>
      if facts.rollback then
        { phase := .rolledBack, message := "rollback requested", workloads, terminal := true }
      else if facts.dryRun then
        { phase := .succeeded, message := "dry-run cutover preflight", workloads, terminal := true }
      else
        { phase := .quiescing, message := "freezing source writes", workloads
          requeueAfter := seconds 1 }
    | .quiescing =>
      if !facts.frozen then
        { phase := .quiescing, message := "waiting for source scale-to-zero", workloads
          requeueAfter := seconds 3 }
      else
        { phase := .catchingUp, message := "source frozen; catching up replica", workloads
          requeueAfter := seconds 1 }
    | .catchingUp =>
      if !facts.lagZero then
        { phase := .catchingUp, message := "waiting for replica lag=0", workloads
          requeueAfter := seconds 3 }
      else
        { phase := .promoting, message := "lag=0; promoting dest", workloads
          requeueAfter := seconds 1 }
    | .promoting =>
      if !facts.promoted then
        { phase := .promoting, message := "promoting dest primary", workloads
          requeueAfter := seconds 3 }
      else
        { phase := .switching, message := "promoted; switching traffic", workloads
          requeueAfter := seconds 1 }
    | .switching =>
      if !facts.switched then
        { phase := .switching, message := "waiting for traffic hook", workloads
          requeueAfter := seconds 2 }
      else
        { phase := .waitingReady, message := "traffic switched; waiting for dest Ready + probe"
          workloads, requeueAfter := seconds 2 }
    | .waitingReady | .healing | .attesting => prove workloads facts.now
    | .unset | .rehydrating | .applying | .other _ =>
      { phase := .preflight, message := "starting cutover", workloads, requeueAfter := seconds 1 }

/-- Runs of the machine from an empty status, with the phase and the workloads
of each result fed back. -/
abbrev AdvanceRun :=
  Process.Run (fun status facts => some (advance status facts)) (fun status _ => status.feedBack)
    ({} : ActionStatus)

abbrev AdvanceStep := Process.Step ActionStatus Facts ActionResult

/-- A rollback that is asked for is the result. -/
theorem advance_rollback {status : ActionStatus} {facts : Facts} (asked : facts.rollback = true) :
    (advance status facts).phase = .rolledBack := by
  by_cases already : status.phase = .rolledBack
  · simp [advance, already]
  · by_cases unset : status.phase = .unset <;> simp [advance, asked, already, unset]

end Portage.Cutover
