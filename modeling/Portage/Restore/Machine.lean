import Portage.Action.Complete
import Portage.Classify.Workload
import Portage.Go.Map
import Portage.Process.Run

/-! The Restore Action state machine. Succeeded goes through the completion
gate; a mover reporting that a restore is complete is not enough. -/
namespace Portage.Restore

open Go

/-- Observations the controller gathered in one reconcile. Every map may be nil. -/
structure Facts where
  inventory : List Workload := []
  useful : GoMap String Bool := .nil
  usefulMessage : GoMap String String := .nil
  rehydrated : GoMap String Bool := .nil
  ready : GoMap String Bool := .nil
  probes : GoMap String ProbeResult := .nil
  healed : GoMap String (List String) := .nil
  dryRun : Bool := false
  now : Time := 0
  deriving DecidableEq, Repr

/-- Carry the status of each workload over by key; an empty inventory keeps the
existing list. -/
def seedWorkloads (existing : List WorkloadActionStatus) (inventory : List Workload) :
    List WorkloadActionStatus :=
  if inventory.isEmpty then existing
  else
    let byKey := GoMap.indexBy WorkloadActionStatus.key existing
    inventory.map fun w =>
      { byKey.get w.key with name := w.name, key := w.key, cls := w.cls, engine := w.engine }

def applyReady (facts : Facts) (w : WorkloadActionStatus) : WorkloadActionStatus :=
  match facts.ready with
  | .nil => w
  | ready => { w with ready := ready.get w.key }

/-- A probe overwrites the carried result only when this reconcile has one. -/
def applyProbe (facts : Facts) (w : WorkloadActionStatus) : WorkloadActionStatus :=
  match facts.probes.find? w.key with
  | some p => { w with probe := p.message, probeOK := p.ok }
  | none => w

def applyHealed (facts : Facts) (w : WorkloadActionStatus) : WorkloadActionStatus :=
  if (facts.healed.get w.key).isEmpty then w else { w with healed := facts.healed.get w.key }

/-- The message a workload ends up with: this reconcile's text if it has one,
else the text carried in the status. -/
def Facts.messageFor (facts : Facts) (w : WorkloadActionStatus) : String :=
  if facts.usefulMessage.get w.key = "" then w.message else facts.usefulMessage.get w.key

def applyMessage (facts : Facts) (w : WorkloadActionStatus) : WorkloadActionStatus :=
  { w with message := facts.messageFor w }

def applyStateless (w : WorkloadActionStatus) : WorkloadActionStatus :=
  if w.cls = .stateless ∧ w.ready = true then
    { w with probeOK := true, probe := if w.probe = "" then "k8s-ready" else w.probe }
  else w

def applyFact (facts : Facts) (w : WorkloadActionStatus) : WorkloadActionStatus :=
  applyStateless (applyMessage facts (applyHealed facts (applyProbe facts (applyReady facts w))))

def applyFacts (facts : Facts) (workloads : List WorkloadActionStatus) :
    List WorkloadActionStatus :=
  workloads.map (applyFact facts)

/-- The key of the first workload that takes part and is not `ok`, or `""`. -/
def waiting (workloads : List WorkloadActionStatus) (ok : WorkloadActionStatus → Bool) : String :=
  match workloads.find? fun w => !skipped w && !ok w with
  | some w => w.key
  | none => ""

def attest (workloads : List WorkloadActionStatus) (now : Time) : ActionResult :=
  let (ok, reason) := canSucceed workloads
  if !ok then
    { phase := .waitingReady, message := reason, workloads, requeueAfter := seconds 5 }
  else
    { phase := .succeeded
      message := "ready and class probes passed"
      workloads
      terminal := true
      attestation := some {
        recordedAt := now
        source := "controller"
        workloads
        artifactIDs := (workloads.map WorkloadActionStatus.key).filter (· ≠ "") } }

/-- The report for a workload without a useful artifact. -/
def skipMessage (message : String) : String :=
  let message := if message = "" then "no useful artifact" else message
  if hasPrefix message "skipped:" then message else "skipped: " ++ message

/-- Mark every stateful workload without a useful artifact as skipped and count
the others. The report is also stored in the facts, which panics on a nil map. -/
def markSkipped (useful : GoMap String Bool) :
    List WorkloadActionStatus → GoMap String String → Option (List WorkloadActionStatus × Nat)
  | [], _ => some ([], 0)
  | w :: rest, messages =>
    if w.cls = .stateless ∨ useful.get w.key = true then
      match markSkipped useful rest messages with
      | none => none
      | some (marked, restorable) => some (w :: marked, restorable + 1)
    else
      let message := skipMessage (messages.get w.key)
      match messages.assign? w.key message with
      | none => none
      | some messages =>
        match markSkipped useful rest messages with
        | none => none
        | some (marked, restorable) => some ({ w with message } :: marked, restorable)

/-- The workloads as preflight leaves them, and why the Action must fail or `""`. -/
def preflight (workloads : List WorkloadActionStatus) (facts : Facts) :
    Option (List WorkloadActionStatus × String) :=
  if workloads.isEmpty then some (workloads, "no workloads in inventory")
  else
    match markSkipped facts.useful workloads facts.usefulMessage with
    | none => none
    | some (marked, restorable) =>
      some (marked, if restorable = 0 then "no restorable workloads" else "")

/-- The first phases: fail, finish a dry run, or start rehydrating. -/
def preflightStep (workloads : List WorkloadActionStatus) (facts : Facts) : Option ActionResult :=
  match preflight workloads facts with
  | none => none
  | some (workloads, reason) =>
    if reason ≠ "" then
      some { phase := .failed, message := "preflight: " ++ reason, workloads, terminal := true }
    else if facts.dryRun then
      some { phase := .succeeded, message := "dry-run preflight passed (no restore performed)"
             workloads, terminal := true
             attestation := some { recordedAt := facts.now, source := "dry-run", workloads } }
    else
      some { phase := .rehydrating, message := "preflight passed", workloads
             requeueAfter := seconds 2 }

/-- The Ready and probe waits, and then the gate. -/
def awaitReady (workloads : List WorkloadActionStatus) (now : Time) : ActionResult :=
  let notReady := waiting workloads fun w => w.ready
  if notReady ≠ "" then
    { phase := .waitingReady, message := notReady ++ " is not Ready", workloads
      requeueAfter := seconds 5 }
  else
    let notProbed := waiting workloads fun w => w.cls == .stateless || w.probeOK
    if notProbed ≠ "" then
      { phase := .waitingReady, message := notProbed ++ " class probe has not passed", workloads
        requeueAfter := seconds 5 }
    else attest workloads now

/-- The workloads a step decides on: the carried list with this step's facts. -/
def observed (status : ActionStatus) (facts : Facts) : List WorkloadActionStatus :=
  applyFacts facts (seedWorkloads status.workloads facts.inventory)

/-- Move a Restore Action one step. `none` is a run-time panic. -/
def advance (status : ActionStatus) (facts : Facts) : Option ActionResult :=
  let workloads := observed status facts
  match status.phase with
  | .succeeded | .failed | .rolledBack =>
    some { phase := status.phase, message := status.message, workloads
           attestation := status.attestation, terminal := true }
  | .unset | .pending | .preflight => preflightStep workloads facts
  | .quiescing =>
    some { phase := .rehydrating, message := "quiesced", workloads, requeueAfter := seconds 1 }
  | .rehydrating | .applying =>
    let behind := waiting workloads fun w => w.cls == .stateless || facts.rehydrated.get w.key
    if behind ≠ "" then
      let message := "rehydrating " ++ behind
      let detail := facts.usefulMessage.get behind
      some { phase := .rehydrating
             message := if detail ≠ "" then message ++ ": " ++ detail else message
             workloads, requeueAfter := seconds 5 }
    else some (awaitReady workloads facts.now)
  | .waitingReady | .healing => some (awaitReady workloads facts.now)
  | .attesting => some (attest workloads facts.now)
  | .catchingUp | .promoting | .switching | .other _ =>
    some { phase := .preflight, message := "starting preflight", workloads
           requeueAfter := seconds 1 }

/-- Runs of the machine from an empty status, with the phase and the workloads
of each result fed back. -/
abbrev AdvanceRun :=
  Process.Run advance (fun status _ => status.feedBack) ({} : ActionStatus)

abbrev AdvanceStep := Process.Step ActionStatus Facts ActionResult

end Portage.Restore
