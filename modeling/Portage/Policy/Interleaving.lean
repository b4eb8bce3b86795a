import Portage.Policy.Status
import Portage.Process.Run
import Portage.Process.Store
import Mathlib.Logic.Function.Basic

/-! Policy reconciles and Backup passes on one Policy, in any interleaving. Each
pass reads the Policy, computes, and then merges its fields into the latest copy
under optimistic concurrency, re-reading on conflict. -/
namespace Portage.Policies

open Go Process

/-- What capturing one workload reported. -/
structure Capture where
  useful : Bool
  sizeBytes : Int
  message : String
  artifactID : String

def fromArtifact (w : Workload) (taken : Capture) : ArtifactHealth :=
  { workload := w.key, useful := taken.useful, sizeBytes := taken.sizeBytes
    message := taken.message, artifactID := taken.artifactID }

/-- The artifacts of a Backup pass, one for each stateful workload. -/
def captureAll (inventory : List Workload) (capture : Workload → Capture) : List ArtifactHealth :=
  (inventory.filter Workload.stateful).map fun w => fromArtifact w (capture w)

/-- A status write that a pass still has to land. -/
inductive Write where
  | classifyFailed (error : String)
  | observed (inventory : List Workload)
  | replicaLag (lag : String)
  | artifacts (inventory : List Workload) (taken : List ArtifactHealth)

/-- Merge a write into the latest status; `read` is the copy the pass started from. -/
def Write.merge (read : Policy) : Write → PolicyStatus → PolicyStatus
  | .classifyFailed error, latest =>
    mergeStatus { read.status with phase := .unhealthy, message := error } latest
  | .observed inventory, latest => mergeStatus (observeInventory read inventory) latest
  | .replicaLag lag, latest => { latest with replicaLag := lag }
  | .artifacts inventory taken, latest => mergeArtifacts inventory taken latest

structure Pass where
  read : Policy
  pending : Option Write
  held : Option (Versioned Policy) := none
  attempts : Nat

/-- How often `retry.DefaultRetry` tries a write. -/
def retryAttempts : Nat := 5

structure State where
  store : Store Policy
  passes : Nat → Option Pass

/-- One atomic step of the system. `age` says how many writes a read lags behind. -/
inductive Event where
  | reconcilePolicy (id age : Nat) (walked : Except String (List Workload))
  | backUp (id age : Nat) (walked : List Workload) (capture : Workload → Capture)
  | get (id age : Nat)
  | update (id : Nat)
  | reportLag (id : Nat) (lag : String)
  | stop (id : Nat)
  | edit (generation : Int) (spec : PolicySpec)

def State.setPass (state : State) (id : Nat) (pass : Option Pass) : State :=
  { state with passes := Function.update state.passes id pass }

/-- What is left of a pass once its write has landed: a reconcile goes on to the
replica lag, every other pass is over. -/
def Pass.afterWrite (pass : Pass) : Write → Option Pass
  | .observed _ => some { pass with pending := none, held := none }
  | _ => none

/-- A conflict drops the held copy and uses up one attempt. -/
def Pass.afterConflict (pass : Pass) : Option Pass :=
  if pass.attempts ≤ 1 then none
  else some { pass with held := none, attempts := pass.attempts - 1 }

/-- One step of the system, if it can be taken. -/
def step (state : State) : Event → Option State
  | .reconcilePolicy id age walked =>
    match state.passes id, state.store.read age with
    | none, some copy =>
      let write := match walked with
        | .error text => Write.classifyFailed text
        | .ok inventory => .observed (withClusterObjects copy.value inventory)
      some (state.setPass id (some { read := copy.value, pending := some write, attempts := retryAttempts }))
    | _, _ => none
  | .backUp id age walked capture =>
    match state.passes id, state.store.read age with
    | none, some copy =>
      let inventory := withClusterObjects copy.value walked
      let write := Write.artifacts inventory (captureAll inventory capture)
      some (state.setPass id (some { read := copy.value, pending := some write, attempts := retryAttempts }))
    | _, _ => none
  | .get id age =>
    match state.passes id, state.store.read age with
    | some pass, some copy =>
      if pass.pending.isNone ∨ pass.held.isSome then none
      else some (state.setPass id (some { pass with held := some copy }))
    | _, _ => none
  | .update id =>
    match state.passes id with
    | some pass =>
      match pass.pending, pass.held with
      | some write, some copy =>
        let desired := { copy.value with status := write.merge pass.read copy.value.status }
        match state.store.update copy desired with
        | some store => some { state.setPass id (pass.afterWrite write) with store }
        | none => some (state.setPass id pass.afterConflict)
      | _, _ => none
    | none => none
  | .reportLag id lag =>
    match state.passes id with
    | some pass =>
      if pass.pending.isSome ∨ lag = "" ∨ lag = pass.read.status.replicaLag then none
      else some (state.setPass id
        (some { pass with pending := some (.replicaLag lag), attempts := retryAttempts }))
    | none => none
  | .stop id => some (state.setPass id none)
  | .edit generation spec =>
    let now := state.store.newest.value
    some { state with store := state.store.push { now with generation, spec } }

/-- A Policy that was just created, with no pass running. -/
def created (pol : Policy) : State :=
  { store := Store.create { pol with status := {} }, passes := fun _ => none }

abbrev PolicyRun (pol : Policy) := Process.Run step (fun _ _ after => after) (created pol)

/-- The write that `event` lands in `state`, with the pass that makes it and the
status it goes on top of. -/
def landing (state : State) : Event → Option (Pass × Write × PolicyStatus)
  | .update id =>
    match state.passes id with
    | some pass =>
      match pass.pending, pass.held with
      | some write, some copy =>
        if copy.version = state.store.newest.version then some (pass, write, copy.value.status) else none
      | _, _ => none
    | none => none
  | _ => none

/-- The artifacts have not changed since the pass read them, and a Backup pass
captured every stateful workload that the stored inventory lists. -/
def Write.Current (read : Policy) (latest : PolicyStatus) : Write → Prop
  | .classifyFailed _ | .observed _ => latest.artifacts = read.status.artifacts
  | .replicaLag _ => True
  | .artifacts inventory _ => ∀ item ∈ latest.inventory, item.stateful = true →
      ∃ w ∈ inventory, w.stateful = true ∧ w.key = item.key

instance (read : Policy) (latest : PolicyStatus) : (write : Write) → Decidable (write.Current read latest)
  | .classifyFailed _ | .observed _ =>
    inferInstanceAs (Decidable (latest.artifacts = read.status.artifacts))
  | .replicaLag _ => inferInstanceAs (Decidable True)
  | .artifacts inventory _ => inferInstanceAs (Decidable (∀ item ∈ latest.inventory,
      item.stateful = true → ∃ w ∈ inventory, w.stateful = true ∧ w.key = item.key))

/-- Nothing that a landing write was computed from has changed under it. -/
def LandsCurrent (state : State) (event : Event) : Prop :=
  ∀ landed ∈ landing state event, Write.Current landed.1.read landed.2.2 landed.2.1

instance (state : State) (event : Event) : Decidable (LandsCurrent state event) := by
  delta LandsCurrent
  infer_instance

/-- Every copy that a pass works with was stored, and every stored status is honest. -/
structure Sound (state : State) : Prop where
  honest : ∀ copy ∈ state.store.copies, copy.value.status.Honest
  read : ∀ id pass, state.passes id = some pass → pass.read.status.Honest
  held : ∀ id pass copy, state.passes id = some pass → pass.held = some copy → copy ∈ state.store.copies

theorem sound_created (pol : Policy) : Sound (created pol) where
  honest copy stored := by
    rw [created, Store.mem_copies_create] at stored
    subst stored
    intro good
    contradiction
  read id pass running := by simp [created] at running
  held id pass copy running := by simp [created] at running

/-- What a pass must satisfy to run in a sound state. -/
def Pass.Sound (store : Store Policy) (pass : Pass) : Prop :=
  pass.read.status.Honest ∧ ∀ copy, pass.held = some copy → copy ∈ store.copies

theorem Sound.pass {state : State} (sound : Sound state) {id : Nat} {pass : Pass}
    (running : state.passes id = some pass) : pass.Sound state.store :=
  ⟨sound.read id pass running, fun copy => sound.held id pass copy running⟩

theorem Sound.setPass {state : State} (sound : Sound state) (id : Nat) {pass : Option Pass}
    (fits : ∀ running ∈ pass, running.Sound state.store) : Sound (state.setPass id pass) where
  honest := sound.honest
  read other running found := by
    by_cases same : other = id
    · subst same
      exact (fits running (by simpa [State.setPass] using found)).1
    · exact sound.read other running (by simpa [State.setPass, same] using found)
  held other running copy found := by
    by_cases same : other = id
    · subst same
      exact (fits running (by simpa [State.setPass] using found)).2 copy
    · exact sound.held other running copy (by simpa [State.setPass, same] using found)

theorem Sound.push {state : State} (sound : Sound state) {pol : Policy} (honest : pol.status.Honest) :
    Sound { state with store := state.store.push pol } where
  honest copy stored := by
    rcases Store.mem_copies_push.mp stored with rfl | earlier
    · exact honest
    · exact sound.honest copy earlier
  read := sound.read
  held id pass copy running holds :=
    Store.mem_copies_push.mpr (.inr (sound.held id pass copy running holds))

theorem Pass.Sound.afterWrite {store : Store Policy} {pass : Pass} (sound : pass.Sound store)
    (write : Write) : ∀ left ∈ pass.afterWrite write, left.Sound store := by
  cases write with
  | observed inventory =>
    intro left found
    obtain rfl : { pass with pending := none, held := none } = left := by
      simpa [Pass.afterWrite] using found
    exact ⟨sound.1, by simp⟩
  | classifyFailed | replicaLag | artifacts => simp [Pass.afterWrite]

theorem Pass.Sound.afterConflict {store : Store Policy} {pass : Pass} (sound : pass.Sound store) :
    ∀ left ∈ pass.afterConflict, left.Sound store := by
  intro left found
  unfold Pass.afterConflict at found
  split at found
  · simp at found
  · obtain rfl : { pass with held := none, attempts := pass.attempts - 1 } = left := by
      simpa using found
    exact ⟨sound.1, by simp⟩

/-- A write computed from an honest copy, and still current, merges honestly. -/
theorem Write.merge_honest {read : Policy} {latest : PolicyStatus} (write : Write)
    (readHonest : read.status.Honest) (latestHonest : latest.Honest)
    (current : write.Current read latest) : (write.merge read latest).Honest := by
  cases write with
  | classifyFailed error => exact mergeStatus_honest readHonest current
  | observed inventory => exact mergeStatus_honest (observeInventory_honest read inventory) current
  | replicaLag lag => exact latestHonest
  | artifacts inventory taken => exact mergeArtifacts_honest current

private theorem sound_started {state : State} (sound : Sound state) (id : Nat) {age : Nat}
    {copy : Versioned Policy} (served : state.store.read age = some copy) (write : Write) :
    Sound (state.setPass id
      (some { read := copy.value, pending := some write, attempts := retryAttempts })) := by
  refine sound.setPass id ?_
  rintro running ⟨⟩
  exact ⟨sound.honest copy (Store.mem_copies_of_read served), by simp⟩

private theorem sound_updated {state after : State} {id : Nat} (sound : Sound state)
    (current : LandsCurrent state (.update id)) (taken : step state (.update id) = some after) :
    Sound after := by
  cases running : state.passes id with
  | none => simp [step, running] at taken
  | some pass =>
    cases pending : pass.pending with
    | none => simp [step, running, pending] at taken
    | some write =>
      cases held : pass.held with
      | none => simp [step, running, pending, held] at taken
      | some copy =>
        have fits := sound.pass running
        cases answer : state.store.update copy
            { copy.value with status := write.merge pass.read copy.value.status } with
        | none =>
          obtain rfl : state.setPass id pass.afterConflict = after := by
            simpa [step, running, pending, held, answer] using taken
          exact sound.setPass id fits.afterConflict
        | some store =>
          obtain ⟨newest, rfl⟩ := Store.update_eq_some answer
          obtain rfl : { state.setPass id (pass.afterWrite write) with
              store := state.store.push
                { copy.value with status := write.merge pass.read copy.value.status } } = after := by
            simpa [step, running, pending, held, answer] using taken
          have stored := sound.honest copy (fits.2 copy held)
          have fresh := current (pass, write, copy.value.status)
            (by simp [landing, running, pending, held, newest])
          refine (sound.setPass id (fits.afterWrite write)).push ?_
          exact write.merge_honest fits.1 stored fresh

theorem step_sound {state after : State} {event : Event} (sound : Sound state)
    (current : LandsCurrent state event) (taken : step state event = some after) : Sound after := by
  cases event with
  | reconcilePolicy id age walked =>
    unfold step at taken
    dsimp only at taken
    split at taken
    · rename_i copy _ served
      exact Option.some.inj taken ▸ sound_started sound id served _
    · contradiction
  | backUp id age walked capture =>
    unfold step at taken
    dsimp only at taken
    split at taken
    · rename_i copy _ served
      exact Option.some.inj taken ▸ sound_started sound id served _
    · contradiction
  | get id age =>
    unfold step at taken
    dsimp only at taken
    split at taken
    · rename_i pass copy running served
      split at taken
      · contradiction
      · refine Option.some.inj taken ▸ sound.setPass id ?_
        rintro left ⟨⟩
        refine ⟨(sound.pass running).1, ?_⟩
        rintro held ⟨⟩
        exact Store.mem_copies_of_read served
    · contradiction
  | update id => exact sound_updated sound current taken
  | reportLag id lag =>
    unfold step at taken
    dsimp only at taken
    split at taken
    · rename_i pass running
      split at taken
      · contradiction
      · refine Option.some.inj taken ▸ sound.setPass id ?_
        rintro left ⟨⟩
        exact ⟨(sound.pass running).1, (sound.pass running).2⟩
    · contradiction
  | stop id =>
    obtain rfl : state.setPass id none = after := by simpa [step] using taken
    exact sound.setPass id (by simp)
  | edit generation spec =>
    obtain rfl : _ = after := by simpa [step] using taken
    exact sound.push (sound.honest state.store.newest (by simp [Store.copies]))

/-- In every interleaving whose landing writes are current, every status that was
ever stored is honest. -/
theorem run_honest {pol : Policy} {steps : List (Step State Event State)} {state : State}
    (run : PolicyRun pol steps state)
    (current : ∀ step ∈ steps, LandsCurrent step.before step.input) :
    ∀ copy ∈ state.store.copies, copy.value.status.Honest := by
  have sound : Sound state := by
    induction run with
    | nil => exact sound_created pol
    | @snoc steps state event after _ taken ih =>
      exact step_sound (ih fun step member => current step (by simp [member]))
        (current ⟨state, event, after⟩ (by simp)) taken
  exact sound.honest

private def ledger : Workload :=
  { namespace_ := "shop", name := "ledger", kind := "StatefulSet", cls := .sqlLogical }

private def orders : Workload :=
  { namespace_ := "shop", name := "orders", kind := "StatefulSet", cls := .sqlLogical }

private def captured (useful : Bool) (_ : Workload) : Capture :=
  { useful, sizeBytes := 4096, message := "", artifactID := "dump" }

private def landNow (id : Nat) : List Event := [.get id 0, .update id]

theorem run_honest_ledger : ∃ steps state, PolicyRun {} steps state ∧
    state.store.newest.value.status.backupHealthy = true ∧
      ∀ copy ∈ state.store.copies, copy.value.status.Honest := by
  obtain ⟨steps, state, run, healthy, current⟩ : ∃ steps state, PolicyRun {} steps state ∧
      state.store.newest.value.status.backupHealthy = true ∧ ∀ step ∈ steps, LandsCurrent step.before step.input :=
    Run.exists_of_execute (.backUp 0 0 [ledger] (captured true) :: landNow 0 ++
      .reconcilePolicy 1 0 (.ok [ledger]) :: landNow 1) (by decide)
  exact ⟨steps, state, run, healthy, run_honest run current⟩

/-- A reconcile that read useful artifacts calls the backups healthy after they
were replaced by a useless one, and a Backup pass that walked before a database
was added calls them healthy although the listed database has none. -/
theorem run_stores_dishonest_status :
    (∃ steps state, PolicyRun {} steps state ∧ ∃ copy ∈ state.store.copies,
      copy.value.status.artifacts ≠ [] ∧ ¬ copy.value.status.Honest) ∧
    (∃ steps state, PolicyRun {} steps state ∧ ∃ copy ∈ state.store.copies,
      (∀ a ∈ copy.value.status.artifacts, a.useful = true) ∧ ¬ copy.value.status.Honest) := by
  constructor
  · exact Run.exists_of_execute (.backUp 0 0 [ledger] (captured true) :: landNow 0 ++
      .reconcilePolicy 1 0 (.ok [ledger]) :: .backUp 2 0 [ledger] (captured false) :: landNow 2 ++ landNow 1) (by decide)
  · exact Run.exists_of_execute (.reconcilePolicy 1 0 (.ok [ledger, orders]) :: landNow 1 ++
      .backUp 2 0 [ledger] (captured true) :: landNow 2) (by decide)

end Portage.Policies
