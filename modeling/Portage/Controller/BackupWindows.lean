import Portage.Controller.Reserved
import Portage.Kube.Names

/-! One Backup for each window of a Policy's RPO. The number of the window stands last in
the Backup's name, and the name is cut: a long Policy name takes the number's digits. -/
namespace Portage

open Go Kube Process Program

/-! ### The name of a window -/

/-- The start of the window in which an instant falls, as the name shows it. -/
def slotText (d : Duration) (t : Instant) : List Char := (itoa (unix (truncate t d))).toList

/-- The two instants fall in one window, or the starts of their windows differ in the
digits for which a name of this length leaves room. -/
def TellsApart (policy : String) (d : Duration) (s t : Instant) : Prop :=
  window d s = window d t ∨
    (slotText d s).take (55 - policy.toList.length) ≠ (slotText d t).take (55 - policy.toList.length)

instance (policy : String) (d : Duration) (s t : Instant) : Decidable (TellsApart policy d s t) :=
  inferInstanceAs (Decidable (_ ∨ _))

section
variable {policy : String} {d : Duration} {s t : Instant}

/-- Two Backups have one name if the name shows the same digits of both windows. -/
theorem rpoBackupName_eq_iff : rpoBackupName policy s d = rpoBackupName policy t d ↔
    (slotText d s).take (55 - policy.toList.length) = (slotText d t).take (55 - policy.toList.length) := by
  have shape (t : Instant) : ("backup-" ++ policy ++ "-" ++ itoa (unix (truncate t d))).toList =
      ("backup-" ++ policy ++ "-").toList ++ slotText d t := String.toList_append
  have size : ("backup-" ++ policy ++ "-").toList.length = 8 + policy.toList.length := by
    simp
    omega
  have room : 63 - (8 + policy.toList.length) = 55 - policy.toList.length := by omega
  rw [rpoBackupName, rpoBackupName, cutName, cutName, String.ofList_inj, shape, shape, List.take_append,
    List.take_append, size, room, List.append_cancel_left_eq]

theorem slotText_inj (long : seconds 1 ≤ d) : slotText d s = slotText d t ↔ window d s = window d t := by
  rw [slotText, slotText, String.toList_inj, itoa_inj, unix_truncate_inj (by simpa [seconds] using long)]

/-- The names of two instants say which window they fall in just if they tell them
apart. -/
theorem rpoBackupName_law (long : seconds 1 ≤ d) :
    (rpoBackupName policy s d = rpoBackupName policy t d ↔ window d s = window d t) ↔
      TellsApart policy d s t := by
  have together : window d s = window d t → rpoBackupName policy s d = rpoBackupName policy t d := by
    intro same
    rw [rpoBackupName_eq_iff, (slotText_inj long).mpr same]
  rw [TellsApart, Ne, ← rpoBackupName_eq_iff]
  constructor
  · intro law
    by_cases same : window d s = window d t
    · exact .inl same
    · exact .inr fun named => same (law.mp named)
  · rintro (same | apart)
    · exact ⟨fun _ => same, together⟩
    · exact ⟨fun named => absurd named apart, together⟩

end

/-! ### One reconcile -/

section
variable (pol : Policy) (now : Instant) (d : Duration)

private theorem rpoBackupName_head (policy : String) : (rpoBackupName policy now d).toList.head? = some 'b' := by
  simp [rpoBackupName, cutName]

theorem backupKey_ne_restoreKey (other : Policy) : pol.backupKey now d ≠ other.restoreKey := by
  intro same
  have heads := congrArg (fun key => key.name.toList.head?) same
  simp [Policy.backupKey, Policy.restoreKey, autoRestoreName, cutName, rpoBackupName_head] at heads

theorem backupKey_ne_replicaKey (other : Policy) : pol.backupKey now d ≠ other.replicaKey := by
  intro same
  have heads := congrArg (fun key => key.name.toList.head?) same
  simp [Policy.backupKey, Policy.replicaKey, replicateName, cutName, rpoBackupName_head] at heads

end

namespace Reserved

open Thread

section
variable {o : HubOracle} (served : ∀ n call, o.fault n call = none)
include served

theorem createMissing_served (key : ObjKey) (desired : HubAction) (s : HubWorld) :
    ((createMissing key desired).run HubRequest.serve o s).2.hub key = some ((s.hub key).getD desired) := by
  cases stored : s.hub key with
  | none =>
    have answer : Portage.getAction key o s = (.error (actionNotFound key), { s with calls := s.calls + 1 }) := by
      simp [Portage.getAction, served, stored]
    simp [createMissing, getAction, createAction, HubRequest.serve, answer, actionNotFound, Portage.createAction,
      putAction, served, stored]
  | some existing =>
    have answer : Portage.getAction key o s = (.ok existing, { s with calls := s.calls + 1 }) := by
      simp [Portage.getAction, served, stored]
    simp [createMissing, getAction, HubRequest.serve, answer, stored]

end

/-- Of the three, only the calls about the Backup reach the names of Backups. -/
theorem reserve_backupKey (pass : PolicyPass) (o : HubOracle) (s : HubWorld) (now : Instant) (d : Duration) :
    ∃ between : HubWorld, between.hub (pass.policy.backupKey now d) = s.hub (pass.policy.backupKey now d) ∧
      ((reserve pass).run HubRequest.serve o s).2.hub (pass.policy.backupKey now d) =
        ((maybeBackup pass).run HubRequest.serve o between).2.hub (pass.policy.backupKey now d) := by
  refine ⟨((maybeAutoRestore pass).run HubRequest.serve o s).2,
    run_elsewhere (calls_maybeAutoRestore pass) (backupKey_ne_restoreKey _ _ _ _) o s, ?_⟩
  simp only [reserve, run_bind, bind_run, run_pure, pure_run]
  exact run_elsewhere (calls_maybeReplicate _ _) (backupKey_ne_replicaKey _ _ _ _) o _

end Reserved

/-- The Actions after a reconcile in which no call fails. -/
def PolicyPass.after (pass : PolicyPass) (hub : ActionHub) : ActionHub :=
  ((Reserved.reserve pass).run HubRequest.serve {} { hub }).2.hub

section
variable {pass : PolicyPass} {d : Duration} (period : pass.period = some d) (hub : ActionHub)
include period

/-- A reconcile makes sure of the Backup for the window that it falls in. -/
theorem PolicyPass.after_own : pass.after hub (pass.policy.backupKey pass.now d) =
    some ((hub (pass.policy.backupKey pass.now d)).getD pass.policy.scheduled) := by
  obtain ⟨between, same, after⟩ := Reserved.reserve_backupKey pass {} { hub } pass.now d
  have made := Reserved.createMissing_served (o := {}) (fun _ _ => rfl) (pass.policy.backupKey pass.now d)
    pass.policy.scheduled between
  rw [same] at made
  rw [PolicyPass.after, after, Reserved.maybeBackup_eq period]
  exact made

/-- It leaves the Backups with other names alone. -/
theorem PolicyPass.after_other {t : Instant}
    (other : rpoBackupName pass.policy.name t d ≠ rpoBackupName pass.policy.name pass.now d) :
    pass.after hub (pass.policy.backupKey t d) = hub (pass.policy.backupKey t d) := by
  obtain ⟨between, same, after⟩ := Reserved.reserve_backupKey pass {} { hub } t d
  have elsewhere : pass.policy.backupKey t d ≠ pass.policy.backupKey pass.now d := by
    simpa [Policy.backupKey] using other
  rw [PolicyPass.after, after, Reserved.maybeBackup_eq period]
  exact (run_elsewhere (Reserved.calls_scheduled pass d) elsewhere {} between).trans same

end

/-! ### Runs -/

/-- Reconciles of a Policy, one after the other, in which no call fails. -/
abbrev ReserveRun := Run (fun hub (pass : PolicyPass) => some (pass.after hub)) fun _ _ hub => hub

abbrev ReserveStep := Step ActionHub PolicyPass ActionHub

/-- The reconcile is one of the Policy, which has Backups made for windows of length `d`. -/
structure PolicyPass.Backs (pol : Policy) (d : Duration) (pass : PolicyPass) : Prop where
  space : pass.policy.namespace_ = pol.namespace_
  name : pass.policy.name = pol.name
  period : pass.period = some d

/-- A reconcile in the window of `t` that creates the Policy's Backup. -/
def createsIn (pol : Policy) (d : Duration) (t : Instant) (step : ReserveStep) : Bool :=
  window d step.input.now == window d t && (step.before (pol.backupKey step.input.now d)).isNone &&
    step.output (pol.backupKey step.input.now d) == some pol.scheduled

section
variable {pol : Policy} {d : Duration} {t : Instant}
variable {pass : PolicyPass} {steps : List ReserveStep} {hub : ActionHub}

private theorem PolicyPass.Backs.key (backs : pass.Backs pol d) (now : Instant) :
    pass.policy.backupKey now d = pol.backupKey now d := by
  rw [Policy.backupKey, Policy.backupKey, backs.space, backs.name]

private theorem PolicyPass.Backs.scheduled (backs : pass.Backs pol d) : pass.policy.scheduled = pol.scheduled := by
  rw [Policy.scheduled, Policy.scheduled, backs.name]

/-- How far a run has come with the Backup of a window: nothing yet, or one made. -/
def Counted (pol : Policy) (d : Duration) (t : Instant) (steps : List ReserveStep) (hub : ActionHub) : Prop :=
  (hub (pol.backupKey t d) = none ∧ (∀ step ∈ steps, window d step.input.now ≠ window d t) ∧
      (steps.filter (createsIn pol d t)).length = 0) ∨
    ((hub (pol.backupKey t d)).isSome = true ∧ (steps.filter (createsIn pol d t)).length = 1)

/-- A reconcile in the window makes the Backup if it is not there. -/
private theorem counted_inside (long : seconds 1 ≤ d) (backs : pass.Backs pol d)
    (inside : window d pass.now = window d t) (before : Counted pol d t steps hub) :
    Counted pol d t (steps ++ [⟨hub, pass, pass.after hub⟩]) (pass.after hub) := by
  have name : rpoBackupName pol.name pass.now d = rpoBackupName pol.name t d :=
    rpoBackupName_eq_iff.mpr (by rw [(slotText_inj long).mpr inside])
  have key : pol.backupKey pass.now d = pol.backupKey t d := by rw [Policy.backupKey, name, Policy.backupKey]
  have made := pass.after_own backs.period hub
  rw [backs.key, key, backs.scheduled] at made
  right
  refine ⟨by rw [made]; rfl, ?_⟩
  rw [List.filter_append, List.length_append]
  rcases before with ⟨absent, -, none⟩ | ⟨present, one⟩
  · have creates : createsIn pol d t ⟨hub, pass, pass.after hub⟩ = true := by
      simp [createsIn, inside, key, absent, made]
    simp [creates, none]
  · have leaves : createsIn pol d t ⟨hub, pass, pass.after hub⟩ = false := by
      obtain ⟨stored, found⟩ := Option.isSome_iff_exists.mp present
      simp [createsIn, key, found]
    simp [leaves, one]

/-- A reconcile in another window leaves the Backup alone. -/
private theorem counted_outside (long : seconds 1 ≤ d) (backs : pass.Backs pol d)
    (apart : TellsApart pol.name d pass.now t) (outside : window d pass.now ≠ window d t)
    (before : Counted pol d t steps hub) :
    Counted pol d t (steps ++ [⟨hub, pass, pass.after hub⟩]) (pass.after hub) := by
  have other : rpoBackupName pass.policy.name t d ≠ rpoBackupName pass.policy.name pass.now d := by
    rw [backs.name]
    exact fun same => outside (((rpoBackupName_law long).mpr apart).mp same.symm)
  have kept := pass.after_other backs.period hub other
  rw [backs.key] at kept
  have leaves : createsIn pol d t ⟨hub, pass, pass.after hub⟩ = false := by simp [createsIn, outside]
  unfold Counted
  rw [kept, List.filter_append, List.length_append, List.filter_singleton, leaves]
  refine before.imp (fun none => ⟨none.1, fun step member => ?_, by simpa using none.2.2⟩) fun one =>
    ⟨one.1, by simpa using one.2⟩
  rcases List.mem_append.mp member with earlier | last
  · exact none.2.1 step earlier
  · obtain rfl := List.mem_singleton.mp last
    exact outside

theorem run_counted (long : seconds 1 ≤ d) {start : ActionHub} (run : ReserveRun start steps hub)
    (fresh : start (pol.backupKey t d) = none) (backs : ∀ step ∈ steps, step.input.Backs pol d)
    (apart : ∀ step ∈ steps, TellsApart pol.name d step.input.now t) : Counted pol d t steps hub := by
  refine run.history (fun steps hub => (∀ step ∈ steps, step.input.Backs pol d) →
    (∀ step ∈ steps, TellsApart pol.name d step.input.now t) → Counted pol d t steps hub)
    (fun _ _ => .inl ⟨fresh, by simp, rfl⟩) ?_ backs apart
  intro steps hub pass after _ before taken backs apart
  obtain rfl := Option.some.inj taken
  have earlier := before (fun step member => backs step (List.mem_append_left _ member))
    fun step member => apart step (List.mem_append_left _ member)
  have own := backs ⟨hub, pass, pass.after hub⟩ (by simp)
  by_cases inside : window d pass.now = window d t
  · exact counted_inside long own inside earlier
  · exact counted_outside long own (apart ⟨hub, pass, pass.after hub⟩ (by simp)) inside earlier

end

/-- The names of a Policy's Backups say which window they are for just if they tell the
windows apart. A window that is told apart from those of all other reconciles gets
exactly one Backup, once the Policy is reconciled in it. -/
theorem rpoBackup_windows (pol : Policy) (d : Duration) (long : seconds 1 ≤ d) :
    (∀ s t, (rpoBackupName pol.name s d = rpoBackupName pol.name t d ↔ window d s = window d t) ↔
      TellsApart pol.name d s t) ∧
    ∀ start steps hub, ReserveRun start steps hub → (∀ step ∈ steps, step.input.Backs pol d) →
      ∀ t, start (pol.backupKey t d) = none → (∀ step ∈ steps, TellsApart pol.name d step.input.now t) →
        (∃ step ∈ steps, window d step.input.now = window d t) →
          (steps.filter (createsIn pol d t)).length = 1 := by
  refine ⟨fun s t => rpoBackupName_law long, fun start steps hub run backs t fresh apart some => ?_⟩
  obtain ⟨step, member, inside⟩ := some
  rcases run_counted long run fresh backs apart with ⟨_, none, _⟩ | ⟨_, one⟩
  · exact absurd inside (none step member)
  · exact one

/-! ### A Policy with a short and one with a long name -/

/-- Noon on 25 August 2026. -/
def noon : Instant := 1787659200000000000

def hourly (pol : Policy) (now : Instant) : PolicyPass :=
  { policy := pol, backup := true, rpo := some (seconds 3600), now }

/-- Two reconciles, an hour apart, from a hub without Actions. -/
def hourlySteps (pol : Policy) : List ReserveStep :=
  let first := (hourly pol noon).after fun _ => none
  [⟨fun _ => none, hourly pol noon, first⟩,
    ⟨first, hourly pol (noon + seconds 3600), (hourly pol (noon + seconds 3600)).after first⟩]

theorem hourlySteps_run (pol : Policy) : ∃ hub, ReserveRun (fun _ => none) (hourlySteps pol) hub :=
  ⟨_, .snoc (.snoc .nil rfl) rfl⟩

theorem hourlySteps_backs (pol : Policy) : ∀ step ∈ hourlySteps pol, step.input.Backs pol (seconds 3600) := by
  intro step member
  rcases List.mem_pair.mp member with rfl | rfl <;> exact ⟨rfl, rfl, by simp [hourly, PolicyPass.period, seconds]⟩

theorem rpoBackup_windows_tills :
    ((hourlySteps tills).filter (createsIn tills (seconds 3600) noon)).length = 1 ∧
    ((hourlySteps tills).filter (createsIn tills (seconds 3600) (noon + seconds 3600))).length = 1 := by
  obtain ⟨hub, run⟩ := hourlySteps_run tills
  have windows := (rpoBackup_windows tills (seconds 3600) (by decide)).2 _ _ _ run (hourlySteps_backs tills)
  exact ⟨windows noon rfl (by decide +kernel) (by decide +kernel),
    windows (noon + seconds 3600) rfl (by decide +kernel) (by decide +kernel)⟩

def ledgerData : Policy := { namespace_ := "shop", name := "payments-platform-production-eu-central-1-ledger-data" }

private theorem ledgerData_name : rpoBackupName ledgerData.name noon (seconds 3600) =
    rpoBackupName ledgerData.name (noon + seconds 3600) (seconds 3600) :=
  rpoBackupName_eq_iff.mpr (by decide +kernel)

private theorem ledgerData_later :
    (hourlySteps ledgerData).filter (createsIn ledgerData (seconds 3600) (noon + seconds 3600)) = [] := by
  have apart : window (seconds 3600) noon ≠ window (seconds 3600) (noon + seconds 3600) := by decide
  have key : ledgerData.backupKey (noon + seconds 3600) (seconds 3600) = ledgerData.backupKey noon (seconds 3600) := by
    rw [Policy.backupKey, ← ledgerData_name, Policy.backupKey]
  have made : (hourly ledgerData noon).after (fun _ => none) (ledgerData.backupKey noon (seconds 3600)) =
      some ledgerData.scheduled :=
    PolicyPass.after_own (hourlySteps_backs ledgerData _ List.mem_cons_self).period _
  refine List.filter_eq_nil_iff.mpr fun step member => ?_
  rcases List.mem_pair.mp member with rfl | rfl
  · have now : (hourly ledgerData noon).now = noon := rfl
    simp [createsIn, now, apart]
  · have now : (hourly ledgerData (noon + seconds 3600)).now = noon + seconds 3600 := rfl
    simp [createsIn, now, key, made]

/-- A name of 53 characters leaves room for two digits: the Backup of the first window
stands in for those of all the others. -/
theorem rpoBackup_ledger : legalName ledgerData.name = true ∧
    window (seconds 3600) noon ≠ window (seconds 3600) (noon + seconds 3600) ∧
    rpoBackupName ledgerData.name noon (seconds 3600) = rpoBackupName ledgerData.name (noon + seconds 3600) (seconds 3600) ∧
    (∃ hub, ReserveRun (fun _ => none) (hourlySteps ledgerData) hub) ∧
    (∀ step ∈ hourlySteps ledgerData, step.input.Backs ledgerData (seconds 3600)) ∧
    (∃ step ∈ hourlySteps ledgerData, window (seconds 3600) step.input.now = window (seconds 3600) (noon + seconds 3600)) ∧
    ((hourlySteps ledgerData).filter (createsIn ledgerData (seconds 3600) (noon + seconds 3600))).length = 0 := by
  refine ⟨by decide, by decide, ledgerData_name, hourlySteps_run ledgerData, hourlySteps_backs ledgerData, by decide +kernel, ?_⟩
  rw [ledgerData_later, List.length_nil]

end Portage
