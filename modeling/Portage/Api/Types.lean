import Portage.Go.Map

/-! The parts of the `v1alpha1` API that the Action state machines read and
write. Times and durations are nanosecond counts. -/
namespace Portage

abbrev Time := Int

abbrev Duration := Int

def seconds (count : Int) : Duration := count * 1000000000

/-- How Portage treats a discovered workload; the CRD admits no other value. -/
inductive WorkloadClass where
  | stateless
  | genericPVC
  | sqlLogical
  | kvLogical
  | searchFS
  | queueDurable
  | objectStore
  | operatorManaged
  | unknownStateful
  | clusterObjects
  deriving DecidableEq, Repr, Inhabited

/-- The stored form of a class, which keys `spec.moverOverrides`. -/
def WorkloadClass.text : WorkloadClass → String
  | stateless => "Stateless"
  | genericPVC => "GenericPVC"
  | sqlLogical => "SQLLogical"
  | kvLogical => "KVLogical"
  | searchFS => "SearchFS"
  | queueDurable => "QueueDurable"
  | objectStore => "ObjectStore"
  | operatorManaged => "OperatorManaged"
  | unknownStateful => "UnknownStateful"
  | clusterObjects => "ClusterObjects"

inductive ActionType where
  | backup
  | restore
  | replicate
  | cutover
  deriving DecidableEq, Repr

/-- The phase text of an Action. `unset` is the empty string; the CRD does not
restrict the field, so any other text is `other`. -/
inductive ActionPhase where
  | unset
  | pending
  | preflight
  | quiescing
  | rehydrating
  | applying
  | waitingReady
  | healing
  | catchingUp
  | promoting
  | switching
  | attesting
  | succeeded
  | failed
  | rolledBack
  | other (text : String)
  deriving DecidableEq, Repr, Inhabited

/-- Per-workload progress inside an Action. -/
structure WorkloadActionStatus where
  name : String := ""
  key : String := ""
  cls : WorkloadClass := .stateless
  engine : String := ""
  ready : Bool := false
  probe : String := ""
  probeOK : Bool := false
  message : String := ""
  healed : List String := []
  deriving DecidableEq, Repr, Inhabited

def WorkloadActionStatus.stateful (w : WorkloadActionStatus) : Bool := w.cls != .stateless

structure Attestation where
  recordedAt : Time
  source : String
  workloads : List WorkloadActionStatus := []
  artifactIDs : List String := []
  deriving DecidableEq, Repr

structure ActionStatus where
  phase : ActionPhase := .unset
  message : String := ""
  workloads : List WorkloadActionStatus := []
  attestation : Option Attestation := none
  startTime : Option Time := none
  completionTime : Option Time := none
  observedGeneration : Int := 0
  deriving DecidableEq, Repr, Inhabited

structure ActionSpec where
  type : ActionType
  policyRef : String := ""
  dryRun : Bool := false
  rollback : Bool := false
  deriving DecidableEq, Repr

/-- An Action as it is stored in the hub cluster. -/
structure Action where
  generation : Int := 0
  annotations : Go.GoMap String String := .nil
  spec : ActionSpec
  status : ActionStatus := {}
  deriving DecidableEq, Repr

/-- What a class probe reported. -/
structure ProbeResult where
  ok : Bool := false
  message : String := ""
  deriving DecidableEq, Repr, Inhabited

/-- The next status of an Action. `terminal` means do not requeue. -/
structure ActionResult where
  phase : ActionPhase
  message : String := ""
  workloads : List WorkloadActionStatus := []
  attestation : Option Attestation := none
  requeueAfter : Duration := 0
  terminal : Bool := false
  deriving DecidableEq, Repr

/-- Feed the phase and the workloads of a result back into the status. -/
def ActionStatus.feedBack (status : ActionStatus) (result : ActionResult) : ActionStatus :=
  { status with phase := result.phase, workloads := result.workloads }

@[simp] theorem ActionStatus.feedBack_phase (status : ActionStatus) (result : ActionResult) :
    (status.feedBack result).phase = result.phase := rfl

@[simp] theorem ActionStatus.feedBack_workloads (status : ActionStatus) (result : ActionResult) :
    (status.feedBack result).workloads = result.workloads := rfl

end Portage
