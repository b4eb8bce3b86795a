import Portage.Controller.LiveReplica
import Portage.Go.Time
import Portage.Process.Thread

/-! The Actions that a Policy's reconcile makes by itself: a Backup for each window of
its RPO, a Restore when a claim is gone, and the live Replicate. Each has a name that is
made from the Policy's, and the name decides whether the Action is there already. -/
namespace Portage

open Go Kube Process Program

/-! ### Names -/

/-- The name of the Backup for the window that an instant falls in. -/
def rpoBackupName (policy : String) (now : Instant) (d : Duration) : String :=
  cutName ("backup-" ++ policy ++ "-" ++ itoa (unix (truncate now d)))

def autoRestoreName (policy : String) : String := cutName ("restore-auto-" ++ policy)

/-! ### One reconcile -/

/-- What a Policy's reconcile goes by when it looks after its Actions: the switches of
the spec, the RPO as `time.ParseDuration` reads it, the workloads and the claims that
the destination does not have. -/
structure PolicyPass where
  policy : Policy
  backup : Bool := false
  rpo : Option Duration := none
  auto : Bool := false
  replicate : Bool := false
  now : Instant := 0
  inventory : List Workload := []
  missing : ObjKey → Bool := fun _ => false

def Policy.backupKey (pol : Policy) (now : Instant) (d : Duration) : ObjKey :=
  ⟨pol.namespace_, rpoBackupName pol.name now d⟩

def Policy.restoreKey (pol : Policy) : ObjKey := ⟨pol.namespace_, autoRestoreName pol.name⟩

/-- The Backup as it is created. -/
def Policy.scheduled (pol : Policy) : HubAction where
  labels := .table [("portage.io/rpo", "true"), ("portage.io/policy", pol.name)]
  action := { spec := { type := .backup, policyRef := pol.name } }

/-- The Restore as it is created. -/
def Policy.restoration (pol : Policy) : HubAction where
  labels := .table [("portage.io/auto", "true"), ("portage.io/policy", pol.name)]
  action := { spec := { type := .restore, policyRef := pol.name } }

/-- The length of the windows that Backups are made for, if any are. -/
def PolicyPass.period (pass : PolicyPass) : Option Duration :=
  if pass.backup then pass.rpo.filter (0 < ·) else none

/-- A covered claim is gone, and the backups are useful. -/
def PolicyPass.restores (pass : PolicyPass) : Bool :=
  pass.auto && pass.policy.status.backupHealthy &&
    (pass.inventory.filter Workload.stateful).any fun w =>
      w.pvcNames.any fun name => pass.missing ⟨w.namespace_, name⟩

/-- A call to the hub about one Action. -/
inductive HubRequest where
  | get (key : ObjKey)
  | update (key : ObjKey) (labels : GoMap String String)
  | create (key : ObjKey) (desired : HubAction)
  | delete (key : ObjKey)

namespace HubRequest

abbrev Reply : HubRequest → Type
  | get _ => Except ApiError HubAction
  | update _ _ | create _ _ | delete _ => Except ApiError Unit

def key : HubRequest → ObjKey
  | get key | update key _ | create key _ | delete key => key

def serve : (request : HubRequest) → HubProg request.Reply
  | get key => getAction key
  | update key labels => updateLabels key labels
  | create key desired => createAction key desired
  | delete key => deleteAction key

end HubRequest

abbrev HubThread := Thread HubRequest HubRequest.Reply

namespace Reserved

open Thread

def getAction (key : ObjKey) : HubThread (Except ApiError HubAction) := ask (HubRequest.get key)

def updateLabels (key : ObjKey) (labels : GoMap String String) : HubThread (Except ApiError Unit) :=
  ask (HubRequest.update key labels)

def createAction (key : ObjKey) (desired : HubAction) : HubThread (Except ApiError Unit) :=
  ask (HubRequest.create key desired)

def deleteAction (key : ObjKey) : HubThread (Except ApiError Unit) := ask (HubRequest.delete key)

/-- Create an Action unless one is there under its name. -/
def createMissing (key : ObjKey) (desired : HubAction) : HubThread (Except ApiError Unit) := do
  match ← getAction key with
  | .ok _ => pure (.ok ())
  | .error refused =>
    if refused.reason ≠ .notFound then pure (.error refused) else createAction key desired

def maybeBackup (pass : PolicyPass) : HubThread (Except ApiError Unit) :=
  match pass.period with
  | none => pure (.ok ())
  | some d => createMissing (pass.policy.backupKey pass.now d) pass.policy.scheduled

def maybeAutoRestore (pass : PolicyPass) : HubThread (Except ApiError Unit) :=
  if pass.restores then createMissing pass.policy.restoreKey pass.policy.restoration else pure (.ok ())

def labelOnce (key : ObjKey) : HubThread (Except ApiError Unit) :=
  Thread.andThen (getAction key) fun latest =>
    if latest.labels.get liveReplicaLabel = "true" then pure (.ok ())
    else updateLabels key (latest.labels.insert liveReplicaLabel "true")

def labelReplica (key : ObjKey) : Nat → HubThread (Except ApiError Unit)
  | 0 => labelOnce key
  | again + 1 => do
    match ← labelOnce key with
    | .ok _ => pure (.ok ())
    | .error refused => if refused.reason = .conflict then labelReplica key again else pure (.error refused)

def maybeReplicate (pol : Policy) (enabled : Bool) : HubThread (Except ApiError Unit) := do
  match ← getAction pol.replicaKey with
  | .ok existing =>
    if existing.action.spec.type ≠ .replicate then pure (.ok ())
    else if !enabled then deleteAction pol.replicaKey
    else if existing.labels.get liveReplicaLabel ≠ "true" then labelReplica pol.replicaKey defaultRetry
    else pure (.ok ())
  | .error refused =>
    if refused.reason ≠ .notFound then pure (.error refused)
    else if enabled then createAction pol.replicaKey pol.replica
    else pure (.ok ())

/-- The three in the order of the reconcile, which logs their errors and goes on. -/
def reserve (pass : PolicyPass) : HubThread Unit := do
  let _ ← maybeAutoRestore pass
  let _ ← maybeBackup pass
  let _ ← maybeReplicate pass.policy pass.replicate
  pure ()

/-! ### The calls made one after the other -/

theorem run_labelOnce (key : ObjKey) : (labelOnce key).run HubRequest.serve = Portage.labelOnce key := by
  rw [labelOnce, run_andThen]
  refine congrArg (Program.andThen (Portage.getAction key)) (funext fun latest => ?_)
  split <;> rfl

theorem run_labelReplica (key : ObjKey) (again : Nat) :
    (labelReplica key again).run HubRequest.serve = Portage.labelReplica key again := by
  induction again with
  | zero => exact run_labelOnce key
  | succ again ih =>
    refine run_bind_eq (run_labelOnce key) fun answer => ?_
    cases answer with
    | ok _ => rfl
    | error refused =>
      dsimp only
      split
      · exact ih
      · rfl

/-- Made alone, the calls about the live Replicate are the program they are modelled by
elsewhere. -/
theorem run_maybeReplicate (pol : Policy) (enabled : Bool) :
    (maybeReplicate pol enabled).run HubRequest.serve = Portage.maybeReplicate pol enabled := by
  refine run_bind_eq rfl fun answer => ?_
  cases answer with
  | ok existing =>
    dsimp only
    split
    · rfl
    · split
      · rfl
      · split
        · exact run_labelReplica _ _
        · rfl
  | error refused =>
    dsimp only
    split
    · rfl
    · split <;> rfl

/-! ### What the calls are about -/

/-- A call about the Action under one name, which creates only for one Policy. -/
def About (key : ObjKey) (policy : String) (request : HubRequest) : Prop :=
  request.key = key ∧ ∀ other desired, request = .create other desired → desired.action.spec.policyRef = policy

section
variable {key : ObjKey} {policy : String}

theorem calls_getAction : (getAction key).Calls (About key policy) :=
  Calls.ask ⟨rfl, fun _ _ other => by cases other⟩

theorem calls_updateLabels (labels : GoMap String String) : (updateLabels key labels).Calls (About key policy) :=
  Calls.ask ⟨rfl, fun _ _ other => by cases other⟩

theorem calls_deleteAction : (deleteAction key).Calls (About key policy) :=
  Calls.ask ⟨rfl, fun _ _ other => by cases other⟩

theorem calls_createAction {desired : HubAction} (owned : desired.action.spec.policyRef = policy) :
    (createAction key desired).Calls (About key policy) :=
  Calls.ask ⟨rfl, fun _ _ same => by cases same; exact owned⟩

theorem calls_createMissing {desired : HubAction} (owned : desired.action.spec.policyRef = policy) :
    (createMissing key desired).Calls (About key policy) := by
  refine .bind calls_getAction fun answer => ?_
  cases answer with
  | ok _ => exact .pure _
  | error refused =>
    dsimp only
    split
    · exact .pure _
    · exact calls_createAction owned

theorem calls_labelReplica (again : Nat) : (labelReplica key again).Calls (About key policy) := by
  have once : (labelOnce key).Calls (About key policy) := by
    refine .andThen calls_getAction fun latest => ?_
    split
    · exact .pure _
    · exact calls_updateLabels _
  induction again with
  | zero => exact once
  | succ again ih =>
    refine .bind once fun answer => ?_
    cases answer with
    | ok _ => exact .pure _
    | error refused =>
      dsimp only
      split
      · exact ih
      · exact .pure _

end

theorem calls_maybeReplicate (pol : Policy) (enabled : Bool) :
    (maybeReplicate pol enabled).Calls (About pol.replicaKey pol.name) := by
  refine .bind calls_getAction fun answer => ?_
  cases answer with
  | ok existing =>
    dsimp only
    split
    · exact .pure _
    · split
      · exact calls_deleteAction
      · split
        · exact calls_labelReplica _
        · exact .pure _
  | error refused =>
    dsimp only
    split
    · exact .pure _
    · split
      · exact calls_createAction rfl
      · exact .pure _

theorem maybeBackup_eq {pass : PolicyPass} {d : Duration} (period : pass.period = some d) :
    maybeBackup pass = createMissing (pass.policy.backupKey pass.now d) pass.policy.scheduled := by
  simp only [maybeBackup, period]

theorem calls_scheduled (pass : PolicyPass) (d : Duration) :
    (createMissing (pass.policy.backupKey pass.now d) pass.policy.scheduled).Calls
      (About (pass.policy.backupKey pass.now d) pass.policy.name) := calls_createMissing rfl

theorem calls_maybeAutoRestore (pass : PolicyPass) :
    (maybeAutoRestore pass).Calls (About pass.policy.restoreKey pass.policy.name) := by
  unfold maybeAutoRestore
  split
  · exact calls_createMissing rfl
  · exact .pure _

end Reserved

namespace HubRequest

/-- A call changes only the Action that it is about. -/
theorem serve_elsewhere (request : HubRequest) (o : HubOracle) (s : HubWorld) {key : ObjKey}
    (other : key ≠ request.key) : (request.serve o s).2.hub key = s.hub key := by
  have put (call : HubCall) (change : Option HubAction → Except ApiError (Option HubAction)) :
      (putAction call request.key change o s).2.hub key = s.hub key := by
    have elsewhere (stored : Option HubAction) : s.hub.put request.key stored key = s.hub key := by
      simp [ActionHub.put, other]
    unfold putAction
    dsimp only
    split
    · exact elsewhere _
    · rfl
    · split
      · exact elsewhere _
      · rfl
    · rfl
  cases request with
  | get _ => rfl
  | update _ _ | create _ _ | delete _ => exact put _ _

end HubRequest

/-- A thread about one Action leaves every other as it is. -/
theorem run_elsewhere {α : Type} {x : HubThread α} {key own : ObjKey} {policy : String}
    (calls : x.Calls (Reserved.About own policy)) (other : key ≠ own) (o : HubOracle) (s : HubWorld) :
    (x.run HubRequest.serve o s).2.hub key = s.hub key := by
  have chains : Chains fun s t : HubWorld => t.hub key = s.hub key :=
    ⟨fun _ => rfl, fun first second => second.trans first⟩
  refine calls.run chains ?_ o s
  rintro request ⟨about, -⟩ o s
  exact request.serve_elsewhere o s (about ▸ other)

end Portage
