import Portage.Controller.Pass
import Portage.Controller.Record
import Portage.Restore.Machine

/-! One reconcile of a Restore Action: apply the manifests, rehydrate claims and
replay dumps, and hand what was seen to the state machine. -/
namespace Portage

open Go Kube Process Program

/-- The words that mark a failure as permanent. -/
def terminalWords : List String :=
  ["preflight:", "no restorable", "no workloads", "unsupported action", "spec.policyref", "policy:", "dry-run"]

/-- Failures on the destination that can clear without a new Action. -/
def restoreRetryable (message : String) : Bool :=
  let lower := toLower message
  if message = "" then false
  else if terminalWords.any (contains lower) then false
  else contains message "dest apply:" || ["not found", "non-owned tenant", "admission webhook",
      "the object has been modified"].any (contains lower)

def rehydrateOpts (pair : Option ClusterPair) : RehydrateOptions :=
  match pair with
  | none => { defaultSize := "10Gi" }
  | some pair => { defaultSize := "10Gi", transform := {
      storageClassMap := pair.storageClassMap, runtimeClassMap := pair.runtimeClassMap } }

/-- What the loop over the inventory has gathered so far, and the pass's own copy
of the Action's annotations. -/
structure RestoreSeen where
  facts : Restore.Facts
  annotations : GoMap String String

/-- The artifact that the Policy records for a workload. -/
def Env.artifact (env : Env) (w : Workload) : Option ArtifactHealth :=
  (GoMap.indexBy ArtifactHealth.workload env.policy.status.artifacts).find? w.key

/-- The artifact's identifier if it is useful and has one. -/
def Env.usefulID (env : Env) (w : Workload) : Option String :=
  match env.artifact w with
  | some a => if a.useful ∧ a.artifactID ≠ "" then some a.artifactID else none
  | none => none

theorem usefulID_ne_empty {env : Env} {w : Workload} {id : String} (useful : env.usefulID w = some id) :
    id ≠ "" := by
  unfold Env.usefulID at useful
  split at useful
  · split at useful
    · rename_i both
      exact Option.some.inj useful ▸ both.2
    · contradiction
  · contradiction

/-! ### Manifests -/

/-- The phases in which a pass applies the rendered manifests. -/
def appliesManifests : ActionPhase → Bool
  | .rehydrating | .applying | .unset | .preflight => true
  | _ => false

/-- Export and render one workload; what fails to render is left out. -/
def renderStep (env : Env) (rendered : List Manifest) (w : Workload) : Prog (List Manifest) := do
  let objects ← exportWorkload env.source.kube w
  match env.render objects with
  | .error _ => pure rendered
  | .ok out => pure (rendered ++ out)

/-- The workloads with manifests of their own. -/
def Env.exported (env : Env) : List Workload := env.inventory.filter fun w => !w.isObjectGraph

def renderAll (env : Env) : Prog (List Manifest) := Program.fold (renderStep env) env.exported []

def applyManifests (env : Env) : Prog (Except String Unit) := do
  let rendered ← renderAll env
  typed env.dest.kube rendered

def applyIfDue (env : Env) (phase : ActionPhase) : Prog (Except String Unit) :=
  if appliesManifests phase then applyManifests env else pure (.ok ())

/-- The result of a pass whose manifests could not be applied. -/
def applyFailed (act : Action) (text : String) : ActionResult :=
  let message := "dest apply: " ++ text
  if restoreRetryable message then
    { phase := .rehydrating, message, workloads := act.status.workloads, requeueAfter := seconds 5 }
  else { phase := .failed, message, terminal := true }

/-! ### One workload -/

namespace Restore.Facts

/-- Take the Policy's record of the artifact over. -/
def noteArtifact (facts : Facts) (key : String) : Option ArtifactHealth → Facts
  | none => facts
  | some a => { facts with
      useful := facts.useful.insert key a.useful
      usefulMessage := facts.usefulMessage.insert key a.message }

def say (facts : Facts) (key message : String) : Facts :=
  { facts with usefulMessage := facts.usefulMessage.insert key message }

def setRehydrated (facts : Facts) (key : String) (done : Bool) : Facts :=
  { facts with rehydrated := facts.rehydrated.insert key done }

def setReady (facts : Facts) (key : String) (up : Bool) : Facts :=
  { facts with ready := facts.ready.insert key up }

def setProbe (facts : Facts) (key : String) : Option ProbeResult → Facts
  | none => facts
  | some result => { facts with probes := facts.probes.insert key result }

def addHealed (facts : Facts) (key : String) (names : List String) : Facts :=
  { facts with healed := facts.healed.insert key (facts.healed.get key ++ names) }

variable (facts : Facts) (key : String)

@[simp] theorem setRehydrated_rehydrated (done : Bool) :
    (facts.setRehydrated key done).rehydrated = facts.rehydrated.insert key done := rfl

@[simp] theorem say_rehydrated (message : String) : (facts.say key message).rehydrated = facts.rehydrated :=
  rfl

@[simp] theorem setReady_rehydrated (up : Bool) : (facts.setReady key up).rehydrated = facts.rehydrated := rfl

@[simp] theorem addHealed_rehydrated (names : List String) :
    (facts.addHealed key names).rehydrated = facts.rehydrated := rfl

@[simp] theorem setProbe_rehydrated (probe : Option ProbeResult) :
    (facts.setProbe key probe).rehydrated = facts.rehydrated := by cases probe <;> rfl

@[simp] theorem noteArtifact_rehydrated (artifact : Option ArtifactHealth) :
    (facts.noteArtifact key artifact).rehydrated = facts.rehydrated := by cases artifact <;> rfl

@[simp] theorem setRehydrated_useful (done : Bool) : (facts.setRehydrated key done).useful = facts.useful := rfl

@[simp] theorem say_useful (message : String) : (facts.say key message).useful = facts.useful := rfl

@[simp] theorem setReady_useful (up : Bool) : (facts.setReady key up).useful = facts.useful := rfl

@[simp] theorem addHealed_useful (names : List String) : (facts.addHealed key names).useful = facts.useful := rfl

@[simp] theorem setProbe_useful (probe : Option ProbeResult) :
    (facts.setProbe key probe).useful = facts.useful := by cases probe <;> rfl

end Restore.Facts

open Restore (Facts)

/-- A stateless workload needs only its manifest; Ready is read from the cluster. -/
def restoreStateless (env : Env) (facts : Facts) (w : Workload) : Prog Facts := do
  let facts := { facts with useful := facts.useful.insert w.key true }.setRehydrated w.key true
  match ← ready env.dest.kube w with
  | .error text => pure ((facts.setReady w.key false).say w.key text)
  | .ok up => pure ((facts.setReady w.key up).say w.key (if up then "dest Ready" else "dest not Ready"))

/-- A workload without a useful artifact is reported as skipped and not waited for. -/
def skipWorkload (facts : Facts) (w : Workload) : Facts :=
  (facts.say w.key (Restore.skipMessage (facts.usefulMessage.get w.key))).setRehydrated w.key true

def restoreGraph (env : Env) (facts : Facts) (w : Workload) : Prog Facts :=
  match env.usefulID w with
  | none => pure facts
  | some id => do
    match ← restoreClusterObjects env id with
    | .error text => pure ((facts.setRehydrated w.key false).say w.key text)
    | .ok (ok, message) =>
      let facts := ((facts.setRehydrated w.key true).setReady w.key ok).setProbe w.key (some ⟨ok, message⟩)
      pure (if ok then facts else facts.say w.key message)

/-- Heal the pod template, read Ready and probe. An unreadable Ready is recorded
only where `always` says so. -/
def settle (env : Env) (always : Bool) (facts : Facts) (w : Workload) : Prog Facts := do
  let names ← healWorkloadOn env.dest.kube w
  let facts := if names.isEmpty then facts else facts.addHealed w.key names
  match ← ready env.dest.kube w with
  | .error _ => pure (if always then facts.setReady w.key false else facts)
  | .ok up => do
    let probe ← probeReady env w up
    pure ((facts.setReady w.key up).setProbe w.key probe)

def restoreByMover (env : Env) (facts : Facts) (m : Mover) (w : Workload) : Prog Facts := do
  match ← m.restore w with
  | some text => pure ((facts.setRehydrated w.key false).say w.key text)
  | none => settle env true (facts.setRehydrated w.key true) w

/-- Bind the claims of a workload. The answer says whether all of them are bound;
with a useful artifact a claim that cannot be bound is passed over. -/
def ensureClaims (env : Env) (facts : Facts) (w : Workload) : Prog (Facts × Bool) :=
  Program.fold (fun (facts, rehydrated) pvcName => do
    let (outcome, healed) ← ensurePVCFromSnapshot env.dest.kube env.dest.dynamic w pvcName
      (rehydrateOpts env.pair)
    let facts := facts.addHealed w.key healed
    match outcome with
    | .error text =>
      if (env.artifact w).any (·.useful) then pure (facts, rehydrated)
      else pure (facts.say w.key text, false)
    | .ok done => pure (facts, rehydrated && done)) w.pvcNames (facts, true)

/-- The phases in which the dump has been replayed already. -/
def pastReplay : ActionPhase → Bool
  | .waitingReady | .healing | .attesting => true
  | _ => false

/-- Record a replay; if that fails, the pass ends. -/
def recordReplay (seen : RestoreSeen) (w : Workload) (rehydrated : Bool) :
    Prog (Except Stop (RestoreSeen × Bool)) := do
  match ← rememberDumpApplied seen.annotations w.key with
  | .error refused => pure (.error (.error refused.message))
  | .ok annotations => pure (.ok ({ seen with annotations }, rehydrated))

/-- Replay the dump, unless it is recorded as replayed, and record it. The answer
says whether the workload still counts as rehydrated. -/
def replayDump (env : Env) (seen : RestoreSeen) (w : Workload) (id : String) (rehydrated : Bool) :
    Prog (Except Stop (RestoreSeen × Bool)) :=
  if dumpApplied seen.annotations w.key then pure (.ok (seen, rehydrated))
  else do
    let up ← isReady env.dest.kube w
    if up then
      match ← Dump.apply env.dest env.store w id with
      | .error .panic => pure (.error .panic)
      | .error (.error text) => pure (.ok ({ seen with facts := seen.facts.say w.key text }, false))
      | .ok _ => recordReplay seen w rehydrated
    else pure (.ok (seen, false))

def replayIfDue (env : Env) (phase : ActionPhase) (seen : RestoreSeen) (w : Workload) (rehydrated : Bool) :
    Prog (Except Stop (RestoreSeen × Bool)) :=
  match env.usefulID w with
  | some id =>
    if pastReplay phase then pure (.ok (seen, rehydrated)) else replayDump env seen w id rehydrated
  | none =>
    if w.pvcNames.isEmpty && (env.artifact w).any (·.useful) then pure (.ok (seen, true))
    else pure (.ok (seen, rehydrated))

/-- Rehydrate a workload from snapshots and from its dump. -/
def rehydrate (env : Env) (phase : ActionPhase) (seen : RestoreSeen) (w : Workload) :
    Prog (Except Stop RestoreSeen) := do
  let (facts, bound) ← ensureClaims env seen.facts w
  match ← replayIfDue env phase { seen with facts } w bound with
  | .error stop => pure (.error stop)
  | .ok (seen, rehydrated) => do
    let facts ← settle env false (seen.facts.setRehydrated w.key rehydrated) w
    pure (.ok { seen with facts })

/-- The mover that the Policy pins for restoring a workload. -/
inductive PinnedMover where
  | none
  | unknown (text : String)
  | capable (m : Mover)

def Env.pinnedRestore (env : Env) (w : Workload) : PinnedMover :=
  if moverOverride env.policy w .restore = "" then .none
  else
    match select env.movers w (moverOverride env.policy w .restore) with
    | .error text => .unknown text
    | .ok (some m, capability) => if capability.restore then .capable m else .none
    | .ok (Option.none, _) => .none

def restoreUseful (env : Env) (phase : ActionPhase) (seen : RestoreSeen) (w : Workload) :
    Prog (Except Stop RestoreSeen) :=
  match env.pinnedRestore w with
  | .unknown text =>
    pure (.ok { seen with facts := (seen.facts.setRehydrated w.key false).say w.key text })
  | .capable m => do
    let facts ← restoreByMover env seen.facts m w
    pure (.ok { seen with facts })
  | .none => rehydrate env phase seen w

/-- The body of the loop over the inventory. -/
def restoreStep (env : Env) (phase : ActionPhase) (seen : RestoreSeen) (w : Workload) :
    Prog (Except Stop RestoreSeen) :=
  let facts := seen.facts.noteArtifact w.key (env.artifact w)
  if w.cls = .stateless then do
    let facts ← restoreStateless env facts w
    pure (.ok { seen with facts })
  else if facts.useful.get w.key = false then pure (.ok { seen with facts := skipWorkload facts w })
  else if w.isObjectGraph then do
    let facts ← restoreGraph env facts w
    pure (.ok { seen with facts })
  else restoreUseful env phase { seen with facts } w

/-- Nothing observed yet; every map is made. -/
def madeFacts : Facts where
  useful := .empty
  usefulMessage := .empty
  rehydrated := .empty
  ready := .empty
  probes := .empty
  healed := .empty

/-- The facts of the pass, from what the loop gathered. -/
def RestoreSeen.gathered (seen : RestoreSeen) (env : Env) (act : Action) : Facts :=
  { seen.facts with inventory := env.inventory, dryRun := act.spec.dryRun, now := env.now }

def restoreLoop (env : Env) (act : Action) : Prog (Except Stop RestoreSeen) :=
  Program.foldUntil (restoreStep env act.status.phase) env.inventory
    { facts := madeFacts, annotations := act.annotations }

def runRestore (env : Env) (act : Action) : Prog (Except Stop ActionResult) := do
  match ← applyIfDue env act.status.phase with
  | .error text => pure (.ok (applyFailed act text))
  | .ok _ => do
    match ← restoreLoop env act with
    | .error stop => pure (.error stop)
    | .ok seen =>
      match Restore.advance act.status (seen.gathered env act) with
      | none => pure (.error .panic)
      | some result => pure (.ok result)

/-! ### What the parts of a pass log -/

/-- What a Restore does: it writes with the destination's clients and runs commands
there, and may ask a plugin. -/
inductive RestoreEvent (env : Env) : Event → Prop where
  | wrote (req : Request) (client : req.cluster = some env.dest.kube) : RestoreEvent env (.wrote req)
  | exec {workload : String} {c : ClusterId} {pod : ObjKey} {container : String} {command : List String}
      {answer : ExecAnswer} : RestoreEvent env (.exec workload c pod container command answer)
  | replay {workload id : String} {c : ClusterId} {pod : ObjKey} {container : String}
      {command : List String} {data : Bytes} {done : Bool} (client : env.dest.exec = some c) :
      RestoreEvent env (.replay workload id c pod container command data done)
  | synced {c : ClusterId} {objects : List String} (client : env.destDynamic = .ok (some c)) :
      RestoreEvent env (.synced c objects)
  | moved {m workload : String} : RestoreEvent env (.moved .restore m workload)

section
variable {o : Oracle} {allowed : Event → Prop} (env : Env) (facts : Facts) (w : Workload)

theorem moves_renderAll : Moves o (Extends o allowed) (renderAll env) := by
  refine Moves.fold (extends_chains o allowed) (fun rendered w _ =>
    moves_bind (moves_exportWorkload _ w) fun objects => ?_) _
  cases env.render objects <;> exact moves_pure _

theorem moves_applyIfDue (fits : ∀ req, req.cluster = some env.dest.kube → allowed (.wrote req))
    (phase : ActionPhase) :
    Moves o (Extends o allowed) (applyIfDue env phase) :=
  moves_ite (fun _ => moves_bind (moves_renderAll env) fun _ => moves_typed _ _ fits) fun _ => moves_pure _

theorem moves_restoreStateless : Moves o (Extends o allowed) (restoreStateless env facts w) := by
  refine moves_bind (moves_ready _ w) fun answer => ?_
  cases answer <;> exact moves_pure _

theorem moves_restoreGraph
    (fits : ∀ c objects, env.destDynamic = .ok (some c) → allowed (.synced c objects)) :
    Moves o (Extends o allowed) (restoreGraph env facts w) := by
  unfold restoreGraph
  cases env.usefulID w with
  | none => exact moves_pure _
  | some id =>
    refine moves_bind (moves_writeGraph _ _ fun _ _ _ client => fits _ _ client) fun answer => ?_
    cases answer <;> exact moves_pure _

theorem moves_settle (always : Bool)
    (fits : ∀ req, req.cluster = some env.dest.kube → allowed (.wrote req))
    (execs : ∀ c pod container command answer, allowed (.exec w.key c pod container command answer)) :
    Moves o (Extends o allowed) (settle env always facts w) := by
  refine moves_bind (moves_healWorkloadOn _ w fits) fun _ => moves_bind (moves_ready _ w) fun answer => ?_
  cases answer with
  | error _ => exact moves_pure _
  | ok up =>
    refine moves_bind ?_ fun _ => moves_pure _
    unfold probeReady
    split
    · exact moves_map (moves_probeRun _ _ w fun _ _ _ => execs _ _ _ _ _)
    · exact moves_pure _

theorem moves_restoreByMover (m : Mover) (moves : allowed (.moved .restore m.name w.key))
    (fits : ∀ req, req.cluster = some env.dest.kube → allowed (.wrote req))
    (execs : ∀ c pod container command answer, allowed (.exec w.key c pod container command answer)) :
    Moves o (Extends o allowed) (restoreByMover env facts m w) := by
  refine moves_bind (moves_restore moves) fun answer => ?_
  cases answer with
  | some text => exact moves_pure _
  | none => exact moves_settle env _ w true fits execs

theorem moves_ensureClaims (fits : ∀ req, req.cluster = some env.dest.kube → allowed (.wrote req)) :
    Moves o (Extends o allowed) (ensureClaims env facts w) := by
  refine Moves.fold (extends_chains o allowed) (fun acc pvcName _ =>
    moves_bind (moves_ensurePVCFromSnapshot _ _ w pvcName _ fits) fun answer => ?_) _
  obtain ⟨outcome, healed⟩ := answer
  cases outcome with
  | ok done => exact moves_pure _
  | error text => exact moves_ite (fun _ => moves_pure _) fun _ => moves_pure _

end

/-! ### A pass leaves the status to its caller -/

section
variable {o : Oracle} {allowed : Event → Prop} (env : Env)

theorem moves_dumpApply (w : Workload) (id : String)
    (fits : ∀ c pod container data done, env.dest.exec = some c → allowed
      (.replay w.key id c pod container (Dump.restoreCommand w.engine) data done)) :
    Moves o (Extends o allowed) (Dump.apply env.dest env.store w id) := by
  refine moves_ite (fun _ => moves_pure _) fun _ => ?_
  cases env.store id with
  | error text => exact moves_pure _
  | ok data =>
    refine moves_bind (moves_firstReadyPod _ _) fun answer => ?_
    cases answer with
    | error text => exact moves_pure _
    | ok found =>
      dsimp only
      cases client : env.dest.exec with
      | none => exact moves_pure _
      | some c =>
        refine moves_bind (moves_replayIn fun done => fits _ _ _ _ _ client) fun answer => ?_
        cases answer <;> exact moves_pure _

theorem proceeds_recordReplay (seen : RestoreSeen) (w : Workload) (rehydrated : Bool) :
    Moves o (Proceeds o allowed) (recordReplay seen w rehydrated) :=
  proceeds_bind (proceeds_rememberDumpApplied _ _) fun answer => by cases answer <;> exact proceeds_pure _

variable (fits : ∀ e, RestoreEvent env e → allowed e)
include fits

theorem proceeds_replayIfDue (phase : ActionPhase) (seen : RestoreSeen) (w : Workload) (rehydrated : Bool) :
    Moves o (Proceeds o allowed) (replayIfDue env phase seen w rehydrated) := by
  unfold replayIfDue replayDump
  cases env.usefulID w with
  | none => dsimp only; split <;> exact proceeds_pure _
  | some id =>
    dsimp only
    split
    · exact proceeds_pure _
    · split
      · exact proceeds_pure _
      · refine proceeds_bind (Moves.proceeds (moves_isReady _ _)) fun up => ?_
        split
        · refine proceeds_bind (Moves.proceeds (moves_dumpApply env w id fun _ _ _ _ _ client => fits _ (.replay client)))
            fun answer => ?_
          cases answer with
          | ok _ => exact proceeds_recordReplay seen w rehydrated
          | error stop => cases stop <;> exact proceeds_pure _
        · exact proceeds_pure _

theorem proceeds_rehydrate (phase : ActionPhase) (seen : RestoreSeen) (w : Workload) :
    Moves o (Proceeds o allowed) (rehydrate env phase seen w) := by
  refine proceeds_bind (Moves.proceeds (moves_ensureClaims env _ w fun _ client => fits _ (.wrote _ client))) fun answer =>
    proceeds_bind (proceeds_replayIfDue env fits phase _ w _) fun answer => ?_
  cases answer with
  | error stop => exact proceeds_pure _
  | ok after =>
    exact proceeds_bind (Moves.proceeds (moves_settle env _ w false (fun _ client => fits _ (.wrote _ client))
      fun _ _ _ _ _ => fits _ .exec)) fun _ => proceeds_pure _

theorem proceeds_restoreStep (phase : ActionPhase) (seen : RestoreSeen) (w : Workload) :
    Moves o (Proceeds o allowed) (restoreStep env phase seen w) := by
  unfold restoreStep
  dsimp only
  split
  · exact proceeds_bind (Moves.proceeds (moves_restoreStateless env _ w)) fun _ => proceeds_pure _
  · split
    · exact proceeds_pure _
    · split
      · exact proceeds_bind (Moves.proceeds (moves_restoreGraph env _ w fun _ _ client => fits _ (.synced client)))
          fun _ => proceeds_pure _
      · unfold restoreUseful
        cases env.pinnedRestore w with
        | none => exact proceeds_rehydrate env fits phase _ w
        | unknown text => exact proceeds_pure _
        | capable m =>
          exact proceeds_bind (Moves.proceeds (moves_restoreByMover env _ w m (fits _ .moved)
            (fun _ client => fits _ (.wrote _ client)) fun _ _ _ _ _ => fits _ .exec)) fun _ => proceeds_pure _

theorem proceeds_runRestore (act : Action) : Moves o (Proceeds o allowed) (runRestore env act) := by
  refine proceeds_bind (Moves.proceeds (moves_applyIfDue env (fun _ client => fits _ (.wrote _ client)) _)) fun answer => ?_
  cases answer with
  | error text => exact proceeds_pure _
  | ok _ =>
    refine proceeds_bind (Moves.foldUntil (proceeds_chains o allowed)
      (fun seen w _ => proceeds_restoreStep env fits _ seen w) _) fun answer => ?_
    cases answer with
    | error stop => exact proceeds_pure _
    | ok seen =>
      dsimp only
      split <;> exact proceeds_pure _

end

end Portage
