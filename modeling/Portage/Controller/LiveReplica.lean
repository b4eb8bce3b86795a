import Mathlib.Data.List.Induction
import Portage.Controller.Reconcile

/-! The reserved Replicate Action of a Policy. The Policy's reconcile makes sure that it
exists; its own reconcile keeps the destination in step and is never done. -/
namespace Portage

open Go Kube Process Program

/-! ### The hub -/

/-- An Action as the hub stores it, with its labels. -/
structure HubAction where
  labels : GoMap String String := .nil
  action : Action
  deriving DecidableEq, Repr

abbrev ActionHub := ObjKey → Option HubAction

def ActionHub.put (hub : ActionHub) (key : ObjKey) (stored : Option HubAction) : ActionHub :=
  fun other => if other = key then stored else hub other

@[simp] theorem ActionHub.put_self (hub : ActionHub) (key : ObjKey) (stored : Option HubAction) : hub.put key stored key = stored := by
  simp [ActionHub.put]

inductive HubCall where
  | get
  | update
  | create
  | delete
  deriving DecidableEq, Repr

/-- How the hub answers the calls of a Policy's reconcile, by the number of the call. A
failed write may have been carried out all the same. -/
structure HubOracle where
  fault : Nat → HubCall → Option Fault := fun _ _ => none
  lost : Nat → Bool := fun _ => false

structure HubWorld where
  hub : ActionHub
  calls : Nat := 0

abbrev HubProg := Program HubOracle HubWorld

def actionNotFound (key : ObjKey) : ApiError := ⟨.notFound, "actions.portage.io \"" ++ key.name ++ "\" not found"⟩

def actionExists (key : ObjKey) : ApiError :=
  ⟨.alreadyExists, "actions.portage.io \"" ++ key.name ++ "\" already exists"⟩

def getAction (key : ObjKey) : HubProg (Except ApiError HubAction) := fun o s =>
  let answer := match o.fault s.calls .get, s.hub key with
    | some fault, _ => .error fault.error
    | none, none => .error (actionNotFound key)
    | none, some stored => .ok stored
  (answer, { s with calls := s.calls + 1 })

/-- A write to one Action, which the server may refuse. -/
def putAction (call : HubCall) (key : ObjKey) (change : Option HubAction → Except ApiError (Option HubAction)) :
    HubProg (Except ApiError Unit) := fun o s =>
  let next := { s with calls := s.calls + 1 }
  match o.fault s.calls call, change (s.hub key) with
  | none, .ok after => (.ok (), { next with hub := s.hub.put key after })
  | none, .error refused => (.error refused, next)
  | some fault, .ok after =>
    (.error fault.error, if o.lost s.calls then { next with hub := s.hub.put key after } else next)
  | some fault, .error _ => (.error fault.error, next)

/-- An update that changes labels; the status is another resource. -/
def updateLabels (key : ObjKey) (labels : GoMap String String) : HubProg (Except ApiError Unit) :=
  putAction .update key fun
    | none => .error (actionNotFound key)
    | some stored => .ok (some { stored with labels })

def createAction (key : ObjKey) (desired : HubAction) : HubProg (Except ApiError Unit) :=
  putAction .create key fun
    | none => .ok (some desired)
    | some _ => .error (actionExists key)

def deleteAction (key : ObjKey) : HubProg (Except ApiError Unit) :=
  putAction .delete key fun
    | none => .error (actionNotFound key)
    | some _ => .ok none

/-! ### What a Policy's reconcile does about the Action -/

/-- Cut to the length of a label. The names of Policies hold no character of more than
one byte. -/
def cutName (text : String) : String := String.ofList (text.toList.take 63)

/-- The name of the reserved Action. -/
def replicateName (policy : String) : String := cutName ("replicate-" ++ policy)

def liveReplicaLabel : String := "portage.io/live-replica"

/-- Where the reserved Action of a Policy is kept. -/
def Policy.replicaKey (pol : Policy) : ObjKey := ⟨pol.namespace_, replicateName pol.name⟩

/-- The reserved Action as it is created. -/
def Policy.replica (pol : Policy) : HubAction where
  labels := .table [("portage.io/replicate", "true"), (liveReplicaLabel, "true"), ("portage.io/policy", pol.name)]
  action := { spec := { type := .replicate, policyRef := pol.name } }

def labelOnce (key : ObjKey) : HubProg (Except ApiError Unit) :=
  andThen (getAction key) fun latest =>
    if latest.labels.get liveReplicaLabel = "true" then pure (.ok ())
    else updateLabels key (latest.labels.insert liveReplicaLabel "true")

/-- Put the label on the latest copy, again on a conflict. -/
def labelReplica (key : ObjKey) : Nat → HubProg (Except ApiError Unit)
  | 0 => labelOnce key
  | again + 1 => do
    match ← labelOnce key with
    | .ok _ => pure (.ok ())
    | .error refused => if refused.reason = .conflict then labelReplica key again else pure (.error refused)

/-- Keep the reserved Action while live replication is on, and delete it when it is off.
An Action of another type under its name is left alone. -/
def maybeReplicate (pol : Policy) (enabled : Bool) : HubProg (Except ApiError Unit) := do
  match ← getAction pol.replicaKey with
  | .ok existing =>
    if existing.action.spec.type ≠ .replicate then pure (.ok ())
    else if !enabled then deleteAction pol.replicaKey
    else if existing.labels.get liveReplicaLabel ≠ "true" then labelReplica pol.replicaKey defaultRetry
    else pure (.ok ())
  | .error refused =>
    if refused.reason ≠ .notFound then pure (.error refused)
    else if enabled then createAction pol.replicaKey pol.replica
    else pure (.ok ())

/-- An Action that goes on replicating: it has the spec that the Policy gave it, and no
phase that a reconcile leaves alone. -/
structure LiveAction (pol : Policy) (act : Action) : Prop where
  spec : act.spec = pol.replica.action.spec
  unfailed : act.status.phase ≠ .failed
  forward : act.status.phase ≠ .rolledBack

/-- The reserved Action, if it is there, goes on replicating. -/
def LiveSlot (pol : Policy) (slot : Option HubAction) : Prop := ∀ stored, slot = some stored → LiveAction pol stored.action

section
variable {o : HubOracle} {key : ObjKey} (inv : Option HubAction → Prop)

theorem keeps_putAction {call : HubCall} {change : Option HubAction → Except ApiError (Option HubAction)}
    (keeps : ∀ before after, inv before → change before = .ok after → inv after) :
    Moves o (Keeps fun s => inv (s.hub key)) (putAction call key change) := by
  intro s holds
  have written : ∀ after, change (s.hub key) = .ok after → inv (s.hub.put key after key) := by
    intro after changed
    rw [ActionHub.put_self]
    exact keeps _ after holds changed
  unfold putAction
  dsimp only
  split
  · exact written _ ‹_›
  · exact holds
  · split
    · exact written _ ‹_›
    · exact holds
  · exact holds

theorem keeps_labelReplica (keeps : ∀ stored labels, inv (some stored) → inv (some { stored with labels }))
    (again : Nat) : Moves o (Keeps fun s => inv (s.hub key)) (labelReplica key again) := by
  have chains := keeps_chains fun s : HubWorld => inv (s.hub key)
  have read : Moves o (Keeps fun s => inv (s.hub key)) (getAction key) := fun _ holds => holds
  have once : Moves o (Keeps fun s => inv (s.hub key)) (labelOnce key) := by
    refine .andThen chains read fun latest => ?_
    split
    · exact .pure chains _
    · refine keeps_putAction inv fun before after holds changed => ?_
      cases before with
      | none => cases changed
      | some stored =>
        cases changed
        exact keeps stored _ holds
  induction again with
  | zero => exact once
  | succ again ih =>
    refine .bind chains once fun answer => ?_
    cases answer with
    | ok _ => exact .pure chains _
    | error refused =>
      dsimp only
      split
      · exact ih
      · exact .pure chains _

end

section
variable {o : HubOracle} {pol : Policy}

/-- While live replication is on, a Policy's reconcile keeps the Action live. -/
theorem keeps_maybeReplicate :
    Moves o (Keeps fun s => LiveSlot pol (s.hub pol.replicaKey)) (maybeReplicate pol true) := by
  have chains := keeps_chains fun s : HubWorld => LiveSlot pol (s.hub pol.replicaKey)
  have read : Moves o (Keeps fun s => LiveSlot pol (s.hub pol.replicaKey)) (getAction pol.replicaKey) :=
    fun _ live => live
  refine .bind chains read fun answer => ?_
  cases answer with
  | ok existing =>
    dsimp only
    split
    · exact .pure chains _
    · split
      · contradiction
      · split
        · refine keeps_labelReplica (LiveSlot pol) (fun stored labels live next found => ?_) _
          cases found
          exact live stored rfl
        · exact .pure chains _
  | error refused =>
    dsimp only
    rw [if_pos rfl]
    split
    · exact .pure chains _
    · refine keeps_putAction (LiveSlot pol) fun before after _ changed stored found => ?_
      cases before with
      | none =>
        cases changed
        cases found
        exact ⟨rfl, ActionPhase.noConfusion, ActionPhase.noConfusion⟩
      | some _ => cases changed

/-- If no call fails, the Action is there afterwards. -/
theorem maybeReplicate_served (served : ∀ n call, o.fault n call = none) (s : HubWorld) :
    ((maybeReplicate pol true o s).2.hub pol.replicaKey).isSome := by
  cases stored : s.hub pol.replicaKey with
  | none =>
    have answer : getAction pol.replicaKey o s =
        (.error (actionNotFound pol.replicaKey), { s with calls := s.calls + 1 }) := by
      simp [getAction, served, stored]
    simp [maybeReplicate, answer, actionNotFound, createAction, putAction, served, stored]
  | some existing =>
    have answer : getAction pol.replicaKey o s = (.ok existing, { s with calls := s.calls + 1 }) := by
      simp [getAction, served, stored]
    have there : (s.hub pol.replicaKey).isSome := by rw [stored]; rfl
    simp only [maybeReplicate, bind_run, answer]
    split
    · exact there
    · split
      · contradiction
      · split
        · exact keeps_labelReplica (fun slot => slot.isSome = true) (fun _ _ _ => rfl) _ _ there
        · exact there

end

/-! ### What a reconcile of the Action stores -/

/-- Why a Replicate gives up for good. -/
def noMover : String := "no replicate-capable mover"

/-- Each workload that a Replicate moves has a mover that can, or names one that is not
registered. -/
def Env.Capable (env : Env) : Prop := ∀ w ∈ env.inventory, w.cls ≠ .stateless → w.isObjectGraph = false →
  ∀ m capability, select env.movers w (moverOverride env.policy w .replicate) = .ok (m, capability) →
    m.isSome ∧ capability.replicate = true

instance (env : Env) : Decidable env.Capable :=
  decidable_of_iff (∀ w ∈ env.inventory, w.cls ≠ .stateless → w.isObjectGraph = false →
      (select env.movers w (moverOverride env.policy w .replicate)).toOption.all
        (fun found => found.1.isSome && found.2.replicate) = true) <| by
    refine forall₄_congr fun w _ _ _ => ?_
    cases select env.movers w (moverOverride env.policy w .replicate) with
    | error text => simp [Except.toOption]
    | ok found =>
      obtain ⟨m, capability⟩ := found
      simp [Except.toOption]

/-- No other failure has the text for which a Replicate gives up. -/
structure Env.Worded (env : Env) (o : Oracle) : Prop where
  movers : ∀ n, o.mover n ≠ some noMover
  graph : env.graph ≠ .error noMover
  sync : ∀ n, o.sync n ≠ .error noMover

private theorem waiting_ne (message : String) : "waiting for replica sync: " ++ message ≠ noMover := by
  intro same
  have first := congrArg (fun text => text.toList.head?) same
  simp [noMover] at first

theorem select_worded {movers : List Mover} {w : Workload} {override text : String}
    (failed : select movers w override = .error text) : text ≠ noMover := by
  unfold select at failed
  split at failed
  · split at failed
    · cases failed
      intro same
      have first := congrArg (fun text => text.toList.head?) same
      simp [noMover] at first
    · cases failed
  · split at failed <;> cases failed

section
variable {env : Env} {o : Oracle} (worded : env.Worded o)
include worded

theorem stops_syncClusterObjectsLive : Stops o (· ≠ noMover) (syncClusterObjectsLive env) := by
  have listed : ∀ text, env.listClusterObjects = .error text → text ≠ noMover := by
    rintro text listed rfl
    unfold Env.listClusterObjects at listed
    split at listed
    · simp [noMover] at listed
    · exact worded.graph listed
  have client : ∀ text, env.destDynamic = .error text → text ≠ noMover := by
    rintro text refused rfl
    unfold Env.destDynamic at refused
    split at refused
    · cases refused
    · split at refused
      · simp [noMover] at refused
      · cases refused
  unfold syncClusterObjectsLive writeGraph
  split
  · exact .error (listed _ ‹_›)
  · split
    · exact .error (client _ ‹_›)
    · rename_i dest _
      cases dest with
      | none => exact .error (by simp [noMover])
      | some c =>
        rintro s text answer rfl
        exact worded.sync s.calls (by simpa [syncObjects, record, tick] using answer)

theorem replicateGraph_worded {seen : GraphSeen} (before : seen.failed ≠ noMover) (w : Workload) (s : World) :
    (replicateGraph env seen w o s).1.failed ≠ noMover := by
  have stops := stops_syncClusterObjectsLive worded s
  simp only [replicateGraph, bind_run]
  cases answer : (syncClusterObjectsLive env o s).1 with
  | error text => exact stops text answer
  | ok report =>
    obtain ⟨ok, message⟩ := report
    cases ok with
    | true => exact before
    | false => exact waiting_ne message

/-- A workload that has a mover does not make a Replicate give up. -/
theorem replicateStep_worded (capable : env.Capable) {graph : GraphSeen} (synced : graph.failed ≠ noMover)
    {seen : ReplicateSeen} (before : seen.failed ≠ noMover) {w : Workload} (member : w ∈ env.inventory) (s : World) :
    (replicateStep env graph seen w o s).1.failed ≠ noMover := by
  unfold replicateStep replicateStepWith
  split
  · exact before
  · rename_i stateful
    split
    · rw [pure_run]
      unfold ReplicateSeen.addGraph
      cases graph.status <;> dsimp only <;> split
      · exact synced
      · exact before
      · exact synced
      · exact before
    · rename_i apart
      cases chosen : select env.movers w (moverOverride env.policy w .replicate) with
      | error text => exact select_worded chosen
      | ok found =>
        obtain ⟨m, capability⟩ := found
        obtain ⟨there, can⟩ := capable w member stateful (by simpa using apart) m capability chosen
        obtain ⟨m, rfl⟩ := Option.isSome_iff_exists.mp there
        simp only [can, Bool.not_true, Bool.false_eq_true, if_false, bind_run]
        cases answer : (MoverCalls.outside.replicate m w o s).1 with
        | some text =>
          rintro rfl
          refine worded.movers s.calls ?_
          simpa [MoverCalls.outside, Mover.replicate, callMover, record, tick] using answer
        | none =>
          simp only [bind_run, pure_run]
          split
          · exact waiting_ne _
          · exact before

omit worded in
theorem replicateResult_catchingUp {act : Action} {seen : ReplicateSeen} (wet : act.spec.dryRun = false)
    (failed : seen.failed ≠ noMover) : (replicateResult env act seen).phase = .catchingUp := by
  unfold replicateResult
  rw [if_neg (by simp [wet])]
  split
  · exact absurd ‹_› failed
  · split <;> rfl

/-- A Replicate whose workloads all have movers goes on. -/
theorem runReplicate_catchingUp (capable : env.Capable) {act : Action} (wet : act.spec.dryRun = false) (s : World) :
    (runReplicate env act o s).1.phase = .catchingUp := by
  have graphs : Holds o (fun _ => True) (Program.fold (replicateGraph env) (env.inventory.filter Workload.isObjectGraph) {})
      fun graph _ => graph.failed ≠ noMover := by
    intro s _
    exact Holds.fold (fun _ (graph : GraphSeen) (_ : World) => graph.failed ≠ noMover) _
      (fun _ w _ seen _ t before => replicateGraph_worded worded before w t) {} s (by simp [noMover])
  have steps : ∀ graph : GraphSeen, graph.failed ≠ noMover → ∀ s,
      (Program.fold (replicateStep env graph) env.inventory {} o s).1.failed ≠ noMover := by
    intro graph synced s
    exact Holds.fold (fun _ (seen : ReplicateSeen) (_ : World) => seen.failed ≠ noMover) _
      (fun _ w _ seen split t before => replicateStep_worded worded capable synced before (by simp [split]) t) {} s
      (by simp [noMover])
  exact replicateResult_catchingUp wet (steps _ (graphs s trivial) _)

end

/-! ### A reconcile of the Action -/

/-- No status that the reconcile writes takes effect. -/
def Kube.Oracle.Unwritable (o : Oracle) : Prop := ∀ n, (o.fault n .writeStatus).isSome ∧ o.lost n = false

/-- A reconcile that stores no failure: it reads the Policy and the pair, and the
workloads that it goes on to replicate have movers; or none of its writes takes effect. -/
def PassInput.Benign (input : PassInput) : Prop :=
  input.oracle.Unwritable ∨ (input.policyError = none ∧ input.pairError = none ∧
    (input.resolveError = none → input.walkError = none →
      input.covered.Capable ∧ input.covered.Worded input.oracle))

section
variable {o : Oracle}

theorem sameAction_chains : Chains fun s t : World => t.action = s.action where
  refl _ := rfl
  trans first second := second.trans first

theorem sameAction_readStored (req : Request) : Moves o (fun s t => t.action = s.action) (readStored req) := by
  intro s
  cases failed : o.fault s.calls req with
  | some fault => rw [readStored_failed failed]; rfl
  | none => rw [readStored_served failed]; rfl

theorem writeStored_either (req : Request) (change : Action → Action) (s : World) :
    (writeStored req change o s).2.action = s.action ∨ (writeStored req change o s).2.action = change s.action := by
  cases failed : o.fault s.calls req with
  | none =>
    rw [writeStored_served failed]
    exact .inr rfl
  | some fault =>
    cases lost : o.lost s.calls with
    | true =>
      rw [writeStored_carried failed lost]
      exact .inr rfl
    | false =>
      rw [writeStored_dropped failed lost]
      exact .inl rfl

theorem writeStored_unwritable (unwritable : o.Unwritable) (change : Action → Action) :
    Moves o (fun s t => t.action = s.action) (writeStored .writeStatus change) := by
  intro s
  obtain ⟨fault, failed⟩ := Option.isSome_iff_exists.mp (unwritable s.calls).1
  rw [writeStored_dropped failed (unwritable s.calls).2]
  rfl

/-- A status that cannot be written leaves the Action as it is. -/
theorem sameAction_writeStatus (unwritable : o.Unwritable) (desired : ActionStatus) :
    Moves o (fun s t => t.action = s.action) (writeStatus desired) := by
  refine Moves.retryOnConflict sameAction_chains ?_ _
  refine .bind sameAction_chains (sameAction_readStored _) fun answer => ?_
  cases answer with
  | error refused => exact .pure sameAction_chains _
  | ok _ => exact writeStored_unwritable unwritable _

variable {pol : Policy}

theorem live_of_sameAction {x : Prog α} (same : Moves o (fun s t => t.action = s.action) x) :
    Moves o (Keeps fun s => LiveAction pol s.action) x := by
  intro s live
  have kept := same s
  rwa [← kept] at live

/-- Storing a phase that goes on keeps the Action live. -/
theorem live_writeStatus {desired : ActionStatus} (unfailed : desired.phase ≠ .failed)
    (forward : desired.phase ≠ .rolledBack) :
    Moves o (Keeps fun s => LiveAction pol s.action) (writeStatus desired) := by
  have chains := keeps_chains fun s : World => LiveAction pol s.action
  refine Moves.retryOnConflict chains (.bind chains (live_of_sameAction (sameAction_readStored _)) fun answer => ?_) _
  cases answer with
  | error refused => exact .pure chains _
  | ok _ =>
    intro s live
    rcases writeStored_either .writeStatus (fun stored => { stored with status := desired }) s with same | written
    · exact same ▸ live
    · exact written ▸ ⟨live.spec, unfailed, forward⟩

end

section
variable {o : Oracle} {input : PassInput} (replicate : input.spec.type = .replicate)
include replicate

theorem sameAction_runAction (act : Action) : Moves o (fun s t => t.action = s.action) (runAction input act) := by
  have extends_ : Moves o (Extends o fun _ => True) (runReplicate input.covered act) :=
    moves_runReplicate input.covered (fun _ => trivial) act
  simp only [runAction, replicate]
  exact fun s => (extends_ s).action

/-- A reconcile whose writes take no effect leaves the Action as it is. -/
theorem sameAction_reconcile (unwritable : o.Unwritable) :
    Moves o (fun s t => t.action = s.action) (reconcile input) := by
  have chains := sameAction_chains
  have fails : ∀ status message, Moves o (fun s t => t.action = s.action) (fail input status message) := by
    intro status message
    refine .bind chains (sameAction_writeStatus unwritable _) fun answer => ?_
    cases answer <;> exact .pure chains _
  have runs : ∀ act, Moves o (fun s t => t.action = s.action) (runAndStore input act) := by
    intro act
    refine .bind chains (sameAction_runAction replicate _) fun answer => ?_
    match answer with
    | .error .panic => exact .pure chains _
    | .error (.error text) => exact .pure chains _
    | .ok result => exact .bind chains (sameAction_writeStatus unwritable _) fun _ => .pure chains _
  have resolves : ∀ act, Moves o (fun s t => t.action = s.action) (resolveAndRun input act) := by
    intro act
    unfold resolveAndRun
    split
    · exact fails _ _
    · exact .pure chains _
    · exact .pure chains _
    · exact runs act
  refine .bind chains (sameAction_readStored _) fun answer => ?_
  cases answer with
  | error refused => exact .pure chains _
  | ok act =>
    dsimp only
    split
    · exact .pure chains _
    · split
      · exact fails _ _
      · split
        · exact fails _ _
        · unfold markPending
          split
          · refine .bind chains (sameAction_writeStatus unwritable _) fun answer => ?_
            cases answer with
            | error refused => exact .pure chains _
            | ok _ => exact resolves _
          · exact resolves _

section
variable (capable : input.covered.Capable) (worded : input.covered.Worded o)
include capable worded

theorem runAction_catchingUp (act : Action) (wet : act.spec.dryRun = false) (s : World) :
    ∃ result, (runAction input act o s).1 = .ok result ∧ result.phase = .catchingUp := by
  simp only [runAction, replicate, map_run]
  exact ⟨_, rfl, runReplicate_catchingUp worded capable wet s⟩

variable {pol : Policy}

/-- Running a Replicate whose workloads have movers keeps the Action live. -/
theorem live_runAndStore {act : Action} (wet : act.spec.dryRun = false) :
    Moves o (Keeps fun s => LiveAction pol s.action) (runAndStore input act) := by
  intro s live
  have kept (act : Action) : LiveAction pol (runAction input act o s).2.action :=
    live_of_sameAction (sameAction_runAction replicate act) s live
  obtain ⟨result, answer, phase⟩ := runAction_catchingUp replicate capable worded
    { act with status := { act.status with startTime := some (act.status.startTime.getD input.env.now) } } wet s
  simp only [runAndStore, bind_run, answer]
  refine live_writeStatus ?_ ?_ _ (kept _)
  · simp [ActionStatus.advanced, phase]
  · simp [ActionStatus.advanced, phase]

end

variable {pol : Policy} (pair : input.pairError = none)
  (runs : input.resolveError = none → input.walkError = none → input.covered.Capable ∧ input.covered.Worded o)
include pair runs

theorem live_resolveAndRun {act : Action} (wet : act.spec.dryRun = false) :
    Moves o (Keeps fun s => LiveAction pol s.action) (resolveAndRun input act) := by
  have chains := keeps_chains fun s : World => LiveAction pol s.action
  unfold resolveAndRun
  rw [pair]
  cases resolves : input.resolveError with
  | some text => exact .pure chains _
  | none =>
    cases walks : input.walkError with
    | some text => exact .pure chains _
    | none =>
      obtain ⟨capable, worded⟩ := runs resolves walks
      exact live_runAndStore replicate capable worded wet

theorem live_markPending {act : Action} (wet : act.spec.dryRun = false) :
    Moves o (Keeps fun s => LiveAction pol s.action) (markPending input act) := by
  have chains := keeps_chains fun s : World => LiveAction pol s.action
  unfold markPending
  split
  · refine .bind chains (live_writeStatus ActionPhase.noConfusion ActionPhase.noConfusion) fun answer => ?_
    cases answer with
    | error refused => exact .pure chains _
    | ok _ => exact live_resolveAndRun replicate pair runs wet
  · exact live_resolveAndRun replicate pair runs wet

/-- A reconcile that meets no failure of the Policy, the pair or the movers keeps the
Action live. -/
theorem live_reconcile (policy : input.policyError = none) (named : pol.name ≠ "") :
    Moves o (Keeps fun s => LiveAction pol s.action) (reconcile input) := by
  intro s live
  cases unread : o.fault s.calls .readAction with
  | some fault =>
    simp only [reconcile, bind_run, readStored_failed unread]
    exact live
  | none =>
    simp only [reconcile, bind_run, readStored_served unread]
    cases resume s.action.spec s.action.status with
    | none => exact live
    | some status =>
      dsimp only
      rw [if_neg (by simpa [live.spec, Policy.replica] using named), policy]
      exact live_markPending replicate pair runs (by rw [live.spec]; rfl) _ live

end

/-- A benign reconcile keeps the Action live. -/
theorem PassInput.Benign.live {pol : Policy} {input : PassInput} (benign : input.Benign) (named : pol.name ≠ "")
    {act : Action} (spec : input.spec = act.spec) (live : LiveAction pol act) : LiveAction pol (input.pass act).action := by
  have replicate : input.spec.type = .replicate := by
    rw [spec, live.spec]
    rfl
  have opened : LiveAction pol (input.opening act).action :=
    ⟨spec.trans live.spec, live.unfailed, live.forward⟩
  rcases benign with unwritable | ⟨policy, pair, runs⟩
  · exact live_of_sameAction (sameAction_reconcile replicate unwritable) _ opened
  · exact live_reconcile replicate pair runs policy named _ opened

section
variable {o : Oracle} (serene : o.Serene)
include serene

theorem writeStatus_serene (desired : ActionStatus) (s : World) :
    (writeStatus desired o s).1 = .ok () ∧ (writeStatus desired o s).2.action = { s.action with status := desired } := by
  have once : writeStatusOnce desired o s =
      (.ok (), { (tick o (tick o s).2).2 with action := { s.action with status := desired } }) := by
    simp only [writeStatusOnce, bind_run, readStored_served (serene.served s.calls .readForStatus rfl)]
    exact writeStored_served (serene.served (tick o s).2.calls .writeStatus rfl)
  simp [writeStatus, defaultRetry, retryOnConflict, bind_run, once]

variable {input : PassInput} (replicate : input.spec.type = .replicate) (capable : input.covered.Capable)
  (worded : input.covered.Worded o)
include replicate capable worded

theorem runAndStore_catchingUp (act : Action) (wet : act.spec.dryRun = false) (s : World) :
    (runAndStore input act o s).2.action.status.phase = .catchingUp := by
  obtain ⟨result, answer, phase⟩ := runAction_catchingUp replicate capable worded
    { act with status := { act.status with startTime := some (act.status.startTime.getD input.env.now) } } wet s
  simp only [runAndStore, bind_run, answer, pure_run]
  rw [(writeStatus_serene serene _ _).2]
  simp [ActionStatus.advanced, phase]

/-- A reconcile of a live Action in which nothing fails stores that it is catching up. -/
theorem reconcile_catchingUp {pol : Policy} (named : pol.name ≠ "") (policy : input.policyError = none)
    (pair : input.pairError = none) (resolves : input.resolveError = none) (walks : input.walkError = none)
    {s : World} (live : LiveAction pol s.action) :
    (reconcile input o s).2.action.status.phase = .catchingUp := by
  have wet : s.action.spec.dryRun = false := by rw [live.spec]; rfl
  have resumes : resume s.action.spec s.action.status = some s.action.status := by
    unfold resume
    split
    · rw [if_neg (by simp [live.spec, Policy.replica])]
    · exact absurd ‹_› live.forward
    · exact absurd ‹_› live.unfailed
    · rfl
  have resolved : ∀ act : Action, resolveAndRun input act = runAndStore input act := by
    intro act
    simp only [resolveAndRun, pair, resolves, walks]
  simp only [reconcile, bind_run, readStored_served (serene.served s.calls .readAction rfl), resumes, policy]
  rw [if_neg (by simpa [live.spec, Policy.replica] using named)]
  unfold markPending
  split
  · simp only [bind_run, (writeStatus_serene serene _ _).1, resolved]
    exact runAndStore_catchingUp serene replicate capable worded
      { s.action with status := { s.action.status with phase := .pending, message := "pending" } } wet _
  · rw [resolved]
    exact runAndStore_catchingUp serene replicate capable worded _ wet _

end

/-! ### Runs -/

/-- A reconcile of the Policy, with live replication on, or a reconcile of its reserved
Action. -/
inductive ReplicaEvent where
  | policy (o : HubOracle)
  | action (input : PassInput)

/-- A reconcile of the reserved Action runs under the spec that is stored. -/
def PassInput.onHub (input : PassInput) (act : Action) : PassInput := { input with spec := act.spec }

def ReplicaEvent.after (pol : Policy) (hub : ActionHub) : ReplicaEvent → ActionHub
  | .policy o => (maybeReplicate pol true o { hub }).2.hub
  | .action input =>
    match hub pol.replicaKey with
    | none => hub
    | some stored => hub.put pol.replicaKey (some { stored with action := ((input.onHub stored.action).pass stored.action).action })

/-- Reconciles of a Policy and of its reserved Action, in any order. -/
abbrev ReplicaRun (pol : Policy) :=
  Process.Run (fun hub (event : ReplicaEvent) => some (event.after pol hub)) (fun _ _ hub => hub)

/-- No call of the reconcile fails, and every workload has a mover. -/
structure PassInput.Clear (input : PassInput) : Prop where
  serene : input.oracle.Serene
  policy : input.policyError = none
  pair : input.pairError = none
  resolves : input.resolveError = none
  walks : input.walkError = none
  capable : input.covered.Capable
  worded : input.covered.Worded input.oracle

section
variable {pol : Policy} (named : pol.name ≠ "")
include named

theorem liveSlot_after {hub : ActionHub} (live : LiveSlot pol (hub pol.replicaKey)) (event : ReplicaEvent)
    (benign : ∀ input, event = .action input → input.Benign) : LiveSlot pol (event.after pol hub pol.replicaKey) := by
  cases event with
  | policy o => exact keeps_maybeReplicate { hub } live
  | action input =>
    unfold ReplicaEvent.after
    cases there : hub pol.replicaKey with
    | none => exact live
    | some stored =>
      rintro next found
      obtain rfl : _ = next := Option.some.inj ((ActionHub.put_self _ _ _).symm.trans found)
      have kept : (input.onHub stored.action).Benign := benign input rfl
      exact kept.live named rfl (live stored there)

theorem run_liveSlot {start hub : ActionHub} {steps : List (Step ActionHub ReplicaEvent ActionHub)} (run : ReplicaRun pol start steps hub)
    (fresh : LiveSlot pol (start pol.replicaKey))
    (benign : ∀ step ∈ steps, ∀ input, step.input = .action input → input.Benign) :
    LiveSlot pol (hub pol.replicaKey) := by
  refine run.history (fun steps hub => (∀ step ∈ steps, ∀ input, step.input = .action input → input.Benign) →
    LiveSlot pol (hub pol.replicaKey)) (fun _ => fresh) ?_ benign
  intro steps state input output _ before taken benign
  obtain rfl := Option.some.inj taken
  have earlier := before fun step member => benign step (List.mem_append_left _ member)
  exact liveSlot_after named earlier input (benign ⟨state, input, input.after pol state⟩ (by simp))

/-- However the reconciles of the Policy and of its reserved Action alternate and fail:
as long as no failure to read the Policy or the pair, and no missing mover, was stored,
one reconcile of each in which nothing fails puts the Action back to catching up. -/
theorem run_catchingUp {start hub : ActionHub} {steps : List (Step ActionHub ReplicaEvent ActionHub)}
    (run : ReplicaRun pol start steps hub) (fresh : LiveSlot pol (start pol.replicaKey))
    (benign : ∀ step ∈ steps, ∀ input, step.input = .action input → input.Benign)
    {o : HubOracle} (served : ∀ n call, o.fault n call = none) {input : PassInput} (clear : input.Clear) :
    ∃ stored, (ReplicaEvent.action input).after pol ((ReplicaEvent.policy o).after pol hub) pol.replicaKey = some stored ∧
      stored.action.status.phase = .catchingUp := by
  have live := run_liveSlot named run fresh benign
  have kept := liveSlot_after named live (.policy o) (fun _ other => by cases other)
  have there : ((ReplicaEvent.policy o).after pol hub pol.replicaKey).isSome := maybeReplicate_served served { hub }
  generalize (ReplicaEvent.policy o).after pol hub = next at kept there
  obtain ⟨stored, found⟩ := Option.isSome_iff_exists.mp there
  have going := kept stored found
  have replicate : (input.onHub stored.action).spec.type = .replicate := by
    simp only [PassInput.onHub, going.spec]
    rfl
  refine ⟨{ stored with action := ((input.onHub stored.action).pass stored.action).action }, ?_, ?_⟩
  · simp only [ReplicaEvent.after, found, ActionHub.put_self]
  · exact reconcile_catchingUp clear.serene replicate clear.capable clear.worded named clear.policy clear.pair
      clear.resolves clear.walks ⟨going.spec, going.unfailed, going.forward⟩

end

/-- Any sequence of reconciles is a run. -/
theorem replicaRun_of_events (pol : Policy) (start : ActionHub) (events : List ReplicaEvent) :
    ∃ steps, ReplicaRun pol start steps (events.foldl (ReplicaEvent.after pol) start) ∧ steps.map Step.input = events := by
  induction events using List.reverseRecOn with
  | nil => exact ⟨[], .nil, rfl⟩
  | append_singleton events event ih =>
    obtain ⟨steps, run, inputs⟩ := ih
    rw [List.foldl_concat]
    exact ⟨_, .snoc run rfl, by simp [inputs]⟩

def tills : Policy := { namespace_ := "shop", name := "tills" }

/-- A reconcile of the reserved Action, with a redis without claims that only a plugin can move. -/
def tillsPass : PassInput where
  spec := tills.replica.action.spec
  env := {
    policy := tills
    source := { kube := 0, dynamic := some 0 }
    dest := { kube := 1, dynamic := some 1 }
    plugins := [{ name := "db-mover", webhookURL := "http://db-mover", replicate := true }]
    inventory := [{ namespace_ := "shop", name := "till", kind := "StatefulSet", cls := .kvLogical, engine := "redis" }] }

theorem tillsPass_clear : tillsPass.Clear where
  serene := serene_default
  policy := rfl
  pair := rfl
  resolves := rfl
  walks := rfl
  capable := by decide +kernel
  worded := ⟨fun _ => nofun, nofun, fun _ => nofun⟩

/-- Writes of the status that all time out. -/
def unstored : Oracle where
  fault _ req := if req = .writeStatus then some { message := "timed out" } else none

/-- The first Policy reconcile cannot create the Action, the source cannot be reached at
first, and a timeout on the Policy cannot be stored. -/
def tillsEvents : List ReplicaEvent :=
  [.policy { fault := fun _ _ => some { message := "timed out" } }, .policy {},
    .action { tillsPass with resolveError := some "timed out" },
    .action { tillsPass with policyError := some "timed out", oracle := unstored }]

theorem run_catchingUp_tills : ∃ steps hub, ReplicaRun tills (fun _ => none) steps hub ∧
    steps.map Step.input = tillsEvents ∧
    ∃ stored, (ReplicaEvent.action tillsPass).after tills ((ReplicaEvent.policy {}).after tills hub) tills.replicaKey =
      some stored ∧ stored.action.status.phase = .catchingUp := by
  obtain ⟨steps, run, inputs⟩ := replicaRun_of_events tills (fun _ => none) tillsEvents
  have fresh : LiveSlot tills none := fun _ missing => nomatch missing
  generalize tillsEvents.foldl (ReplicaEvent.after tills) (fun _ => none) = hub at run
  refine ⟨steps, hub, run, inputs, run_catchingUp (by decide) run fresh ?_ (fun _ _ => rfl) tillsPass_clear⟩
  intro step member input same
  have listed : ReplicaEvent.action input ∈ tillsEvents := by
    rw [← same, ← inputs]
    exact List.mem_map_of_mem member
  simp only [tillsEvents, List.mem_cons, reduceCtorEq, ReplicaEvent.action.injEq, List.not_mem_nil, false_or,
    or_false] at listed
  rcases listed with rfl | rfl
  · exact .inr ⟨rfl, rfl, nofun⟩
  · exact .inl fun _ => ⟨rfl, rfl⟩

/-- After this reconcile of a new Action, one reconcile of each in which nothing fails leaves
the Action failed. -/
def StoppedBy (failing : PassInput) : Prop := ∃ steps hub, ReplicaRun tills (fun _ => none) steps hub ∧
  steps.map Step.input = [.policy {}, .action failing] ∧
  ((ReplicaEvent.action tillsPass).after tills ((ReplicaEvent.policy {}).after tills hub) tills.replicaKey).map
    (fun stored => stored.action.status.phase) = some .failed

/-- A timeout on the Policy stops the replication for good, and so does one on the list
of the plugins. -/
theorem replica_stopped : tillsPass.Clear ∧ StoppedBy { tillsPass with policyError := some "timed out" } ∧
    StoppedBy { tillsPass with env := { tillsPass.env with plugins := [] } } :=
  ⟨tillsPass_clear,
    ⟨_, _, .snoc (.snoc .nil rfl) rfl, rfl, by decide +kernel⟩,
    ⟨_, _, .snoc (.snoc .nil rfl) rfl, rfl, by decide +kernel⟩⟩

end Portage
