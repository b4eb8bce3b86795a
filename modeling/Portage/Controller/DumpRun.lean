import Portage.Controller.DumpReplay
import Portage.Restore.MachineInvariant

/-! Runs of reconciles of one Restore Action: how often a dump is replayed, and
whether a success rests on one. -/
namespace Portage

open Go Kube Process Program

/-- A workload whose recorded artifact is a useful logical dump, and that no mover
override takes elsewhere. -/
structure DumpTarget (env : Env) (w : Workload) : Prop where
  member : w ∈ env.inventory
  stateful : w.stateful = true
  unpinned : moverOverride env.policy w .restore = ""
  useful : (env.usefulID w).isSome = true
  dumped : Dump.command w.engine ≠ []

theorem DumpTarget.plain {env : Env} {w : Workload} (keyed : KeyedInventory env.inventory)
    (target : DumpTarget env w) : w.isObjectGraph = false := by
  cases graph : w.isObjectGraph with
  | false => rfl
  | true =>
    refine absurd ?_ target.dumped
    rw [keyed.graph w target.member graph]
    decide

/-- The workload takes part in what the result reports. -/
def TakesPart (result : ActionResult) (w : Workload) : Prop :=
  ∃ st ∈ result.workloads, st.key = w.key ∧ skipped st = false

/-- The phases behind Rehydrating on the way to success. -/
def behindReplay : ActionPhase → Bool
  | .succeeded => true
  | phase => pastReplay phase

/-- Every dump target that takes part is on record. -/
def TargetsRecorded (env : Env) (result : ActionResult) (t : World) : Prop :=
  ∀ w, DumpTarget env w → TakesPart result w → dumpApplied t.action.annotations w.key = true

section
variable {o : Oracle} {env : Env}

/-- An Action that leaves Rehydrating has every dump target that takes part on
record. -/
private theorem cleared_recorded (keyed : KeyedInventory env.inventory) {act : Action} {seen : RestoreSeen}
    {t : World} {result : ActionResult} (recorded : RehydratedRecorded env act.status.phase seen t)
    (live : pastReplay act.status.phase = false)
    (clear : Restore.cleared act.status (seen.gathered env act))
    (workloads : result.workloads = Restore.observed act.status (seen.gathered env act)) :
    TargetsRecorded env result t := by
  rintro w target ⟨st, listed, key, taking⟩
  rw [workloads] at listed
  have nonempty : env.inventory.isEmpty = false := by
    cases shape : env.inventory with
    | nil => simpa [shape] using target.member
    | cons _ _ => rfl
  -- With an inventory every observed status is the one of a walked workload.
  have walked : ∀ st ∈ Restore.observed act.status (seen.gathered env act),
      ∃ v ∈ env.inventory, st.key = v.key ∧ st.cls = v.cls := by
    intro st member
    obtain ⟨seed, present, rfl⟩ := List.mem_map.mp member
    simp only [Restore.seedWorkloads, RestoreSeen.gathered, nonempty, Bool.false_eq_true, ↓reduceIte] at present
    obtain ⟨v, inside, rfl⟩ := List.mem_map.mp present
    exact ⟨v, inside, by simp, by simp⟩
  have named : ∀ st ∈ Restore.observed act.status (seen.gathered env act), st.key ≠ "" := by
    intro st member
    obtain ⟨v, _, same, _⟩ := walked st member
    exact same ▸ v.key_ne_empty
  have passed := Restore.ok_of_waiting_empty named clear listed taking
  obtain ⟨v, inside, same, cls⟩ := walked st listed
  obtain rfl : v = w := keyed.unique v inside w target.member (same.symm.trans key)
  have stateful : (st.cls == .stateless) = false := by
    simpa [cls, Workload.stateful] using target.stateful
  have counted : seen.facts.rehydrated.get v.key = true := by
    simpa [stateful, key, RestoreSeen.gathered] using passed
  exact recorded v inside target.stateful (target.plain keyed) target.unpinned target.useful live counted

/-- What a restore pass replays, and that an Action it brings behind Rehydrating has
its dumps on record, unless it was past replaying before. -/
theorem runRestore_progress (keyed : KeyedInventory env.inventory) (act : Action) (s : World)
    (read : act.annotations = s.action.annotations) :
    Until (fun _ t => ∃ added, Replays o.Records env s t added)
      (fun result t => (∃ added, Replays True env s t added) ∧
        (behindReplay result.phase = true → act.spec.dryRun = false → act.status.phase ≠ .succeeded →
          pastReplay act.status.phase = false → TargetsRecorded env result t))
      (runRestore env act o s).1 (runRestore env act o s).2 := by
  have applied : Extends o Event.NoReplay s (applyIfDue env act.status.phase o s).2 :=
    moves_applyIfDue env (fun _ _ _ => rfl) _ s
  obtain ⟨first, before⟩ : ∃ added, Replays True env s _ added := Replays.of_extends applied
  simp only [runRestore, bind_run]
  generalize applyIfDue env act.status.phase o s = answer at applied before
  obtain ⟨answer, t⟩ := answer
  cases answer with
  | error text =>
    refine ⟨⟨first, before⟩, fun behind => ?_⟩
    unfold applyFailed at behind
    dsimp only at behind
    split at behind <;> simp [behindReplay, pastReplay] at behind
  | ok _ =>
    have progress := restoreLoop_progress (o := o) keyed act t (read.trans (by rw [applied.action]))
    simp only [bind_run]
    generalize restoreLoop env act o t = loop at progress
    obtain ⟨loop, u⟩ := loop
    cases loop with
    | error stop =>
      obtain ⟨second, after⟩ := progress
      exact ⟨_, before.trans after⟩
    | ok seen =>
      obtain ⟨⟨second, after⟩, _, recorded⟩ := progress
      dsimp only
      cases taken : Restore.advance act.status (seen.gathered env act) with
      | none => exact ⟨_, (before.trans after).weaken⟩
      | some result =>
        refine ⟨⟨_, before.trans after⟩, fun behind wet fresh live => ?_⟩
        cases Restore.advance_move taken with
        | finished _ phase _ =>
          rw [phase] at behind
          cases stored : act.status.phase <;> simp_all [behindReplay, pastReplay]
        | checked _ _ _ phase =>
          rcases phase with phase | phase | ⟨_, dry⟩
          all_goals simp_all [behindReplay, pastReplay, RestoreSeen.gathered]
        | rewound phase _ => rcases phase with phase | phase <;> simp [phase, behindReplay, pastReplay] at behind
        | rehydrated _ clear workloads _ => exact cleared_recorded keyed recorded live clear workloads
        | waited after _ _ => rcases after with phase | phase | phase <;> simp [phase, pastReplay] at live

end

/-! ### One reconcile -/

/-- What a reconcile of a Restore Action did about dumps between `s` and `t`. -/
structure PassReplays (input : PassInput) (o : Oracle) (phase : ActionPhase) (s : World)
    (answer : Outcome × World) : Prop where
  replays : ∃ added, Replays o.Records input.covered s answer.2 added
  recorded : ∀ result stored, answer.1 = .advanced result stored → behindReplay result.phase = true →
    input.spec.dryRun = false → pastReplay phase = false → TargetsRecorded input.covered result answer.2

section
variable {o : Oracle} {input : PassInput} {s t u : World}

theorem Replays.of_sameRecord {sure : Prop} {env : Env} (same : SameRecord s t) :
    Replays sure env s t [] := .of_same same.2 (by simp [same.1]) (by simp)

/-- The phase a Restore runs in is past replaying if the stored one is. -/
private theorem pastReplay_calledIn (phase : ActionPhase) :
    pastReplay (calledIn phase) = pastReplay phase := by cases phase <;> rfl

/-- The runner of a Restore Action, called in a reconcile. -/
private theorem Called.progress {act : Action} (called : Called o s u act)
    (restores : input.spec.type = .restore) (keyed : KeyedInventory input.covered.inventory)
    {answer : Except Stop ActionResult} (ran : runAction input act o u = (answer, t)) :
    Until (fun _ t => ∃ added, Replays o.Records input.covered s t added)
      (fun result t => (∃ added, Replays True input.covered s t added) ∧
        (behindReplay result.phase = true → act.spec.dryRun = false → act.status.phase ≠ .succeeded →
          pastReplay act.status.phase = false → TargetsRecorded input.covered result t)) answer t := by
  obtain ⟨_, _, marked⟩ := called.before
  have before : Replays True input.covered s u [] := .of_sameRecord marked.record
  have progress := runRestore_progress (o := o) keyed act u
    (called.annotations.trans marked.record.2.symm)
  simp only [runAction, restores] at ran
  rw [ran] at progress
  cases answer with
  | error stop =>
    obtain ⟨added, replays⟩ := progress
    exact ⟨_, before.trans replays⟩
  | ok result =>
    obtain ⟨⟨added, replays⟩, recorded⟩ := progress
    exact ⟨⟨_, before.trans replays⟩, recorded⟩

theorem reconcile_passReplays (restores : input.spec.type = .restore)
    (keyed : KeyedInventory input.covered.inventory) (s : World) (spec : s.action.spec = input.spec) :
    PassReplays input o s.action.status.phase s (reconcile input o s) := by
  have branch := reconcile_reconciled input o s
  generalize reconcile input o s = answer at branch ⊢
  cases branch with
  | closed desired closing written idle =>
    exact ⟨⟨[], .of_sameRecord written.record⟩, fun result stored this => absurd this (idle result stored)⟩
  | stopped called ran idle =>
    exact ⟨called.progress restores keyed ran, fun result stored this => absurd this (idle result stored)⟩
  | advanced called ran written =>
    obtain ⟨⟨added, replays⟩, recorded⟩ := called.progress restores keyed ran
    refine ⟨⟨_, (replays.trans (Replays.of_sameRecord written.record)).weaken⟩, ?_⟩
    intro reported stored this behind wet live w target taking
    obtain ⟨rfl, _⟩ := Outcome.advanced.inj this
    have fresh : s.action.status.phase ≠ .succeeded := fun succeeded => by
      simpa [spec, restores] using called.resumed succeeded
    rw [written.record.2]
    refine recorded (by simpa using behind) (by rw [called.spec, spec]; exact wet) ?_ ?_ w target
      (by simpa [TakesPart] using taking)
    · rw [called.phase]
      cases phase : s.action.status.phase <;> simp_all [calledIn]
    · rw [called.phase, pastReplay_calledIn]; exact live

end

/-! ### Runs -/

/-- A reconcile of a Restore Action over a legal inventory. -/
structure RestorePass (input : PassInput) : Prop where
  restores : input.spec.type = .restore
  keyed : KeyedInventory input.covered.inventory

/-! ### A database with a stored dump -/

def books : Workload :=
  { namespace_ := "shop", name := "books", kind := "StatefulSet", cls := .sqlLogical, engine := "postgres" }

/-- A reconcile that finds the given engine behind the workload, Ready with one pod,
and a useful dump in the store. -/
def booksPass (engine : String) (oracle : Oracle) : PassInput where
  spec := { type := .restore, policyRef := "shop" }
  env := {
    policy := { status := { artifacts := [⟨books.key, true, 3, "dumps/1", ""⟩] } }
    source := { kube := 0 }
    dest := { kube := 1, exec := some 1 }
    inventory := [{ books with engine }]
    store := fun key => if key = "dumps/1" then .ok [1, 2, 3] else .error "object not found" }
  clusters := fun _ => {
    statefulSets := fun key => if key = books.objKey then some { replicas := some 1, readyReplicas := 1 } else none
    pods := [{ key := ⟨"shop", "books-0"⟩, owners := ["books"], containers := ["db"] }] }
  oracle

/-- An oracle that refuses to store the record of a replay. -/
def unrecording : Oracle where
  fault := fun _ req => if req = .recordDump then some { message := "etcdserver: request timed out" } else none

def booksAction (phase : ActionPhase) : Action :=
  { spec := { type := .restore, policyRef := "shop" }, status := { phase } }

private theorem booksPass_legal (engine : String) (oracle : Oracle) : RestorePass (booksPass engine oracle) where
  restores := rfl
  keyed := by
    have listed : (booksPass engine oracle).covered.inventory = [{ books with engine }] := rfl
    rw [listed]
    refine ⟨?_, ?_, ?_⟩
    · simp only [List.mem_singleton, forall_eq]
      exact (by decide : '\n' ∉ books.key.toList)
    · simp
    · simp only [List.mem_singleton, forall_eq]
      exact fun graph => absurd graph (by decide : ¬ books.isObjectGraph = true)


section
variable {start state : Action} {steps : List ReconcileStep}

private theorem pass_replays {input : PassInput} (legal : RestorePass input) (action : Action) :
    ∃ t, Replays input.oracle.Records input.covered (input.opening action) t (input.pass action).log ∧
      t.action = (input.pass action).action := by
  obtain ⟨⟨added, replays⟩, _⟩ := reconcile_passReplays (o := input.oracle) legal.restores legal.keyed
    (input.opening action) rfl
  have log : (input.pass action).log = added := replays.log.trans (List.nil_append added)
  exact ⟨_, log ▸ replays, rfl⟩

/-- How often the dump of `key` was replayed to success in a run. -/
def replaysIn (key : String) (steps : List ReconcileStep) : Nat :=
  replayCount key (steps.flatMap fun step => step.output.log)

/-- In every run of reconciles of a Restore Action in which the calls that record a
replay are carried out, a dump is replayed to success at most once. -/
theorem run_replays_once (run : ReconcileRun start steps state)
    (legal : ∀ step ∈ steps, RestorePass step.input)
    (records : ∀ step ∈ steps, step.input.oracle.Records) (key : String) : replaysIn key steps ≤ 1 := by
  suffices invariant : replaysIn key steps ≤ 1 ∧
      (replaysIn key steps = 1 → dumpApplied state.annotations key = true) from invariant.1
  induction run with
  | nil => exact ⟨by simp [replaysIn, replayCount], by simp [replaysIn, replayCount]⟩
  | @snoc steps state input output earlier taken ih =>
    obtain rfl : input.pass state = output := by simpa using taken
    obtain ⟨once, recorded⟩ := ih (fun step member => legal step (by simp [member]))
      fun step member => records step (by simp [member])
    have last : (⟨state, input, input.pass state⟩ : ReconcileStep) ∈
        steps ++ [⟨state, input, input.pass state⟩] := by simp
    have sure : input.oracle.Records := records _ last
    have restore : RestorePass input := legal _ last
    obtain ⟨t, replays, same⟩ := pass_replays restore state
    have total : replaysIn key (steps ++ [⟨state, input, input.pass state⟩]) =
        replaysIn key steps + replayCount key (input.pass state).log := by
      simp [replaysIn, replayCount_append]
    rw [total, ← same]
    by_cases before : replaysIn key steps = 1
    · have none := replays.fresh key (recorded before)
      exact ⟨by omega, fun _ => replays.keeps key (recorded before)⟩
    · have one := replays.once key
      exact ⟨by omega, fun counted => replays.recorded sure key (by omega)⟩

/-- Two reconciles replay the dump once. -/
theorem run_replays_once_books : ∃ steps state, ReconcileRun (booksAction .rehydrating) steps state ∧
    steps.length = 2 ∧ 1 ≤ replaysIn books.key steps ∧ replaysIn books.key steps ≤ 1 := by
  have run : ReconcileRun (booksAction .rehydrating)
      [⟨_, booksPass "postgres" {}, _⟩, ⟨_, booksPass "postgres" {}, _⟩] _ := .snoc (.snoc .nil rfl) rfl
  have once := run_replays_once run (by simp [booksPass_legal])
    (by simp [booksPass, Oracle.Records]) books.key
  exact ⟨_, _, run, rfl, by decide +kernel, once⟩

/-- The record of a replay is not stored, and the next reconcile replays the dump
again. -/
theorem run_replays_twice : ∃ steps state, ReconcileRun (booksAction .rehydrating) steps state ∧
    (∀ step ∈ steps, RestorePass step.input) ∧ replaysIn books.key steps = 2 := by
  have run : ReconcileRun (booksAction .rehydrating)
      [⟨_, booksPass "postgres" unrecording, _⟩, ⟨_, booksPass "postgres" unrecording, _⟩] _ :=
    .snoc (.snoc .nil rfl) rfl
  exact ⟨_, _, run, by simp [booksPass_legal], by decide +kernel⟩

end

/-! ### A success rests on a replay -/

/-- An Action that is not past replaying and has no replay on record. -/
structure Unreplayed (action : Action) : Prop where
  early : pastReplay action.status.phase = false
  unrecorded : ∀ key, dumpApplied action.annotations key = false

/-- The dump targets can be restored and stay as they are, with their artifacts,
and no reconcile past replaying meets one that the stored status does not list or
reports as skipped. -/
structure DumpsSettled (steps : List ReconcileStep) : Prop where
  restorable : ∀ step ∈ steps, ∀ w, DumpTarget step.input.covered w → Dump.restoreCommand w.engine ≠ []
  stable : ∀ step ∈ steps, ∀ other ∈ steps, ∀ w, DumpTarget step.input.covered w →
    DumpTarget other.input.covered w ∧ other.input.covered.usefulID w = step.input.covered.usefulID w
  listed : ∀ step ∈ steps, pastReplay step.before.status.phase = true →
    ∀ w, DumpTarget step.input.covered w →
      ∃ st ∈ step.before.status.workloads, st.key = w.key ∧ skipped st = false

/-- What is on record was replayed in the run; past replaying, the dump targets
that take part are on record. -/
structure DumpsKept (steps : List ReconcileStep) (state : Action) : Prop where
  known : ∀ key, dumpApplied state.annotations key = true →
    ∃ step ∈ steps, ReplayKnown step.input.covered key step.output.log
  past : pastReplay state.status.phase = true → ∀ w, (∀ step ∈ steps, DumpTarget step.input.covered w) →
    (∃ st ∈ state.status.workloads, st.key = w.key ∧ skipped st = false) →
    dumpApplied state.annotations w.key = true

section
variable {start state : Action} {steps more : List ReconcileStep} {input : PassInput}

theorem DumpsSettled.mono (settled : DumpsSettled more) (included : ∀ step ∈ steps, step ∈ more) :
    DumpsSettled steps where
  restorable := fun step member => settled.restorable step (included _ member)
  stable := fun step member other inside => settled.stable step (included _ member) other (included _ inside)
  listed := fun step member => settled.listed step (included _ member)

/-- A reconcile that brings the Action behind Rehydrating has the dump targets that
take part on record. -/
private theorem DumpsKept.recorded (kept : DumpsKept steps state) (legal : RestorePass input)
    (wet : input.spec.dryRun = false) (settled : DumpsSettled (steps ++ [⟨state, input, input.pass state⟩]))
    {result : ActionResult} {stored : Bool} (advanced : (input.pass state).outcome = .advanced result stored)
    (behind : behindReplay result.phase = true) :
    ∀ w, DumpTarget input.covered w → TakesPart result w →
      dumpApplied (input.pass state).action.annotations w.key = true := by
  intro w target taking
  have last : (⟨state, input, input.pass state⟩ : ReconcileStep) ∈
      steps ++ [⟨state, input, input.pass state⟩] := by simp
  have passed := reconcile_passReplays (o := input.oracle) legal.restores legal.keyed
    (input.opening state) rfl
  cases past : pastReplay state.status.phase with
  | false => exact passed.recorded result stored advanced behind wet past w target taking
  | true =>
    obtain ⟨added, replays⟩ := passed.replays
    refine replays.keeps w.key (kept.past past w (fun step member => ?_) (settled.listed _ last past w target))
    exact (settled.stable _ last step (by simp [member]) w target).1

private theorem DumpsKept.step (kept : DumpsKept steps state) (legal : RestorePass input)
    (wet : input.spec.dryRun = false)
    (settled : DumpsSettled (steps ++ [⟨state, input, input.pass state⟩])) :
    DumpsKept (steps ++ [⟨state, input, input.pass state⟩]) (input.pass state).action where
  known := by
    intro key listed
    obtain ⟨t, replays, same⟩ := pass_replays legal state
    rw [← same] at listed
    rcases replays.known key listed with earlier | known
    · obtain ⟨step, member, known⟩ := kept.known key earlier
      exact ⟨step, by simp [member], known⟩
    · exact ⟨⟨state, input, input.pass state⟩, by simp, known⟩
  past := by
    intro past w targets listed
    have passed := reconcile_passReplays (o := input.oracle) legal.restores legal.keyed
      (input.opening state) rfl
    have stored : Stored state.status (input.pass state).action.status (input.pass state).outcome :=
      reconcile_stored input input.oracle (input.opening state)
    cases stored with
    | kept same =>
      obtain ⟨added, replays⟩ := passed.replays
      rw [same] at past listed
      exact replays.keeps w.key
        (kept.past past w (fun step member => targets step (by simp [member])) listed)
    | closed phase => rcases phase with phase | phase <;> simp [phase, pastReplay] at past
    | advanced result stored advanced phase workloads =>
      have behind : behindReplay result.phase = true := by
        rw [phase] at past
        unfold behindReplay
        split <;> simp_all
      have taking : TakesPart result w := by
        rwa [workloads] at listed
      have target : DumpTarget input.covered w := targets ⟨state, input, input.pass state⟩ (by simp)
      exact kept.recorded legal wet settled advanced behind w target taking

theorem run_dumpsKept (run : ReconcileRun start steps state) (fresh : Unreplayed start)
    (legal : ∀ step ∈ steps, RestorePass step.input) (wet : ∀ step ∈ steps, step.input.spec.dryRun = false)
    (settled : DumpsSettled steps) : DumpsKept steps state := by
  induction run with
  | nil =>
    exact ⟨fun key listed => by simp [fresh.unrecorded key] at listed,
      fun past => by simp [fresh.early] at past⟩
  | @snoc steps state input output earlier taken ih =>
    obtain rfl : input.pass state = output := by simpa using taken
    have last : (⟨state, input, input.pass state⟩ : ReconcileStep) ∈
        steps ++ [⟨state, input, input.pass state⟩] := by simp
    have kept := ih (fun step member => legal step (by simp [member]))
      (fun step member => wet step (by simp [member])) (settled.mono (by simp +contextual))
    exact kept.step (legal _ last) (wet _ last) settled

/-- In every run of reconciles of a Restore Action over settled dump targets, a
reconcile that reports success has each target that takes part replayed, from the
stored bytes of its artifact and by a command that succeeded in a destination
pod. -/
theorem run_succeeds_replayed (run : ReconcileRun start steps state) (fresh : Unreplayed start)
    (legal : ∀ step ∈ steps, RestorePass step.input) (wet : ∀ step ∈ steps, step.input.spec.dryRun = false)
    (settled : DumpsSettled steps) {step : ReconcileStep} (member : step ∈ steps) {result : ActionResult}
    {stored : Bool} (advanced : step.output.outcome = .advanced result stored)
    (succeeded : result.phase = .succeeded) {w : Workload} (target : DumpTarget step.input.covered w)
    (taking : TakesPart result w) :
    ∃ id, step.input.covered.usefulID w = some id ∧ ∃ past ∈ steps, ∃ c pod container data,
      past.input.env.dest.exec = some c ∧ past.input.env.store id = .ok data ∧
      Event.replay w.key id c pod container (Dump.restoreCommand w.engine) data true ∈ past.output.log := by
  obtain ⟨earlier, later, split⟩ := List.append_of_mem member
  obtain ⟨reached, taken⟩ := run.reached earlier later step split
  obtain ⟨before, input, output⟩ := step
  obtain rfl : input.pass before = output := by simpa using taken
  have included : ∀ other ∈ earlier ++ [⟨before, input, input.pass before⟩], other ∈ steps := by
    intro other inside
    rw [split]
    simp only [List.mem_append, List.mem_cons] at inside ⊢
    tauto
  have prefix_ : ∀ other ∈ earlier, other ∈ steps := fun other inside => included other (by simp [inside])
  have kept := run_dumpsKept reached fresh (fun other inside => legal other (prefix_ other inside))
    (fun other inside => wet other (prefix_ other inside)) (settled.mono prefix_)
  have restore : RestorePass input := legal _ member
  have after := kept.step restore (wet _ member) (settled.mono included)
  have recorded := kept.recorded restore (wet _ member) (settled.mono included) advanced
    (by rw [succeeded]; rfl) w target taking
  obtain ⟨past, inside, v, walked, named, id, useful, replayed⟩ := after.known w.key recorded
  obtain ⟨target', same⟩ := settled.stable _ member past (included past inside) w target
  obtain rfl : v = w := (legal past (included past inside)).keyed.unique v walked w target'.member named
  refine ⟨id, same.symm.trans useful, past, included past inside, ?_⟩
  exact replayed.resolve_left (settled.restorable _ member v target)

private theorem booksAction_unreplayed : Unreplayed (booksAction .unset) where
  early := rfl
  unrecorded := fun key => by simp [dumpApplied, booksAction]

private theorem booksPass_target (engine : String) (dumped : Dump.command engine ≠ []) (oracle : Oracle) :
    DumpTarget (booksPass engine oracle).covered { books with engine } :=
  ⟨List.mem_singleton.mpr rfl, rfl, rfl, rfl, dumped⟩

private theorem eq_of_booksPass_target {engine : String} {oracle : Oracle} {w : Workload}
    (target : DumpTarget (booksPass engine oracle).covered w) : w = { books with engine } :=
  List.mem_singleton.mp target.member

/-- A new Action is reconciled twice. -/
def booksSteps (engine : String) : List ReconcileStep :=
  let first := (booksPass engine {}).pass (booksAction .unset)
  [⟨booksAction .unset, booksPass engine {}, first⟩,
    ⟨first.action, booksPass engine {}, (booksPass engine {}).pass first.action⟩]

private theorem booksSteps_run (engine : String) :
    ∃ state, ReconcileRun (booksAction .unset) (booksSteps engine) state :=
  ⟨_, .snoc (.snoc .nil rfl) rfl⟩

private theorem mem_booksSteps {engine : String} {step : ReconcileStep} (member : step ∈ booksSteps engine) :
    step.input = booksPass engine {} := by
  rcases List.mem_cons.mp member with rfl | later
  · rfl
  · obtain rfl := List.mem_singleton.mp later
    rfl

private theorem booksSteps_settled : DumpsSettled (booksSteps "postgres") where
  restorable := fun step member w target => by
    rw [mem_booksSteps member] at target
    rw [eq_of_booksPass_target target]
    decide
  stable := fun step member other inside w target => by
    rw [mem_booksSteps member] at target ⊢
    rw [mem_booksSteps inside]
    exact ⟨target, rfl⟩
  listed := by
    have early : ∀ step ∈ booksSteps "postgres", pastReplay step.before.status.phase = false := by
      decide +kernel
    intro step member past
    simp [early step member] at past

/-- The second reconcile reports success, with the dump replayed. -/
theorem run_succeeds_replayed_books : ∃ step ∈ booksSteps "postgres", ∃ result stored,
    step.output.outcome = .advanced result stored ∧ result.phase = .succeeded ∧
      ∃ id, step.input.covered.usefulID books = some id ∧
      ∃ past ∈ booksSteps "postgres", ∃ c pod container data, past.input.env.dest.exec = some c ∧
        past.input.env.store id = .ok data ∧
        Event.replay books.key id c pod container (Dump.restoreCommand books.engine) data true ∈
          past.output.log := by
  obtain ⟨state, run⟩ := booksSteps_run "postgres"
  have second : _ ∈ booksSteps "postgres" := List.mem_cons_of_mem _ (List.mem_singleton.mpr rfl)
  have replayed := run_succeeds_replayed run booksAction_unreplayed
    (fun step member => mem_booksSteps member ▸ booksPass_legal _ _)
    (fun step member => mem_booksSteps member ▸ rfl) booksSteps_settled second rfl (by decide +kernel)
    (booksPass_target "postgres" (by decide) {}) ⟨_, List.mem_singleton.mpr rfl, by decide +kernel⟩
  exact ⟨_, second, _, _, rfl, by decide +kernel, replayed⟩

/-- A dump of redis can be taken and not restored: the Action succeeds without a
replay. -/
theorem run_succeeds_unreplayed : ∃ state, ReconcileRun (booksAction .unset) (booksSteps "redis") state ∧
    (∀ step ∈ booksSteps "redis", RestorePass step.input ∧ step.input.spec.dryRun = false) ∧
    ∃ step ∈ booksSteps "redis", ∃ result stored, step.output.outcome = .advanced result stored ∧
      result.phase = .succeeded ∧ ∃ w, DumpTarget step.input.covered w ∧ TakesPart result w ∧
      replaysIn w.key (booksSteps "redis") = 0 := by
  obtain ⟨state, run⟩ := booksSteps_run "redis"
  refine ⟨state, run, fun step member => mem_booksSteps member ▸ ⟨booksPass_legal _ _, rfl⟩,
    _, List.mem_cons_of_mem _ (List.mem_singleton.mpr rfl), _, _, rfl, by decide +kernel, _,
    booksPass_target "redis" (by decide) {}, ⟨_, List.mem_singleton.mpr rfl, by decide +kernel⟩, by decide +kernel⟩

end

end Portage
