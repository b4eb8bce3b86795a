import Portage.Controller.Reconcile

/-! Which dumps a run of reconciles replays, and what the record on the Action
says about them. -/
namespace Portage

open Go Kube Process Program

/-- A replay of the dump of `key` that the exec call reported as done. -/
def Kube.Event.replays (key : String) : Event → Bool
  | .replay workload _ _ _ _ _ _ done => workload == key && done
  | _ => false

/-- An event that replays no dump to success. -/
def Kube.Event.NoReplay (e : Event) : Prop := ∀ key, e.replays key = false

/-- How often the dump of `key` was replayed to success. -/
def replayCount (key : String) (log : List Event) : Nat := log.countP (Event.replays key)

theorem replayCount_append (key : String) (first second : List Event) :
    replayCount key (first ++ second) = replayCount key first + replayCount key second :=
  List.countP_append

variable {env : Env} {key : String} {o : Oracle} {s t : World}

theorem replayCount_eq_zero {log : List Event} (none : ∀ e ∈ log, e.NoReplay) (key : String) :
    replayCount key log = 0 :=
  List.countP_eq_zero.mpr fun e member => by simp [none e member key]

/-- The dump of `key` was replayed from the stored bytes of its artifact, or there
is no command that could have. -/
def ReplayKnown (env : Env) (key : String) (log : List Event) : Prop :=
  ∃ w ∈ env.inventory, w.key = key ∧ ∃ id, env.usefulID w = some id ∧
    (Dump.restoreCommand w.engine = [] ∨ ∃ c pod container data, env.dest.exec = some c ∧
      env.store id = .ok data ∧
      Event.replay key id c pod container (Dump.restoreCommand w.engine) data true ∈ log)

theorem ReplayKnown.mono {log more : List Event} (known : ReplayKnown env key log) (included : ∀ e ∈ log, e ∈ more) :
    ReplayKnown env key more := by
  obtain ⟨w, member, named, id, useful, commandless | ⟨c, pod, container, data, client, stored, issued⟩⟩ := known
  · exact ⟨w, member, named, id, useful, .inl commandless⟩
  · exact ⟨w, member, named, id, useful, .inr ⟨c, pod, container, data, client, stored, included _ issued⟩⟩

/-! ### Parts of a pass -/

/-- From `s` to `t` a pass replayed no dump twice and none that was on record; what
it put on record is known to have been replayed. If `sure` holds, what it
replayed is on record. -/
structure Replays (sure : Prop) (env : Env) (s t : World) (added : List Event) : Prop where
  log : t.log = s.log ++ added
  keeps : ∀ key, dumpApplied s.action.annotations key = true → dumpApplied t.action.annotations key = true
  known : ∀ key, dumpApplied t.action.annotations key = true →
    dumpApplied s.action.annotations key = true ∨ ReplayKnown env key added
  once : ∀ key, replayCount key added ≤ 1
  fresh : ∀ key, dumpApplied s.action.annotations key = true → replayCount key added = 0
  recorded : sure → ∀ key, replayCount key added = 1 → dumpApplied t.action.annotations key = true

namespace Replays

variable {sure : Prop} {env : Env} {s t u : World} {first second : List Event}

/-- A part that neither replays nor writes to the record. -/
theorem of_same (same : t.action.annotations = s.action.annotations) (log : t.log = s.log ++ first)
    (none : ∀ e ∈ first, e.NoReplay) : Replays sure env s t first := by
  have zero := replayCount_eq_zero none
  refine ⟨log, fun key listed => by rwa [same], fun key listed => .inl (by rwa [same] at listed),
    fun key => by simp [zero key], fun key _ => zero key, fun _ key once => by simp [zero key] at once⟩

theorem refl (s : World) : Replays sure env s s [] := of_same rfl (by simp) (by simp)

theorem of_extends {o : Oracle} (extended : Extends o Event.NoReplay s t) :
    ∃ added, Replays sure env s t added := by
  obtain ⟨same, added, log, none, _⟩ := extended
  exact ⟨added, of_same (by rw [same]) log none⟩

/-- What was replayed in the first part is on record in the second. -/
theorem trans (before : Replays True env s t first) (after : Replays sure env t u second) :
    Replays sure env s u (first ++ second) := by
  refine ⟨by simp [after.log, before.log], fun key listed => after.keeps key (before.keeps key listed),
    fun key listed => ?_, fun key => ?_, fun key listed => ?_, fun certain key counted => ?_⟩
  · rcases after.known key listed with earlier | known
    · exact (before.known key earlier).imp_right fun known => known.mono (by simp +contextual)
    · exact .inr (known.mono (by simp +contextual))
  · rw [replayCount_append]
    have one := before.once key
    by_cases replayed : replayCount key first = 1
    · have none := after.fresh key (before.recorded trivial key replayed)
      omega
    · have two := after.once key
      omega
  · rw [replayCount_append, before.fresh key listed, after.fresh key (before.keeps key listed)]
  · rw [replayCount_append] at counted
    by_cases replayed : replayCount key first = 1
    · exact after.keeps key (before.recorded trivial key replayed)
    · have one := before.once key
      exact after.recorded certain key (by omega)

theorem weaken (replays : Replays True env s t first) : Replays sure env s t first :=
  { replays with recorded := fun _ => replays.recorded trivial }

end Replays

/-- The pass's own list of replayed dumps is the stored one. -/
def InStep (seen : RestoreSeen) (s : World) : Prop :=
  ∀ key, dumpApplied seen.annotations key = dumpApplied s.action.annotations key

/-- What `Dump.apply` can do: pass an engine over, fail without a replay to success,
or replay the stored bytes once. -/
inductive DumpApplied (o : Oracle) (env : Env) (w : Workload) (id : String) (s : World) :
    Except Stop Unit × World → Prop where
  | passedOver (commandless : Dump.restoreCommand w.engine = [] ∨ id = "") :
      DumpApplied o env w id s (.ok (), s)
  | failed (stop : Stop) (t : World) (extended : Extends o Event.NoReplay s t) :
      DumpApplied o env w id s (.error stop, t)
  | replayed (t : World) (c : ClusterId) (pod : ObjKey) (container : String) (data : Bytes)
      (client : env.dest.exec = some c) (stored : env.store id = .ok data) (action : t.action = s.action)
      (log : t.log = s.log ++
        [.replay w.key id c pod container (Dump.restoreCommand w.engine) data true]) :
      DumpApplied o env w id s (.ok (), t)

theorem dumpApply_applied (o : Oracle) (env : Env) (w : Workload) (id : String) (s : World) :
    DumpApplied o env w id s (Dump.apply env.dest env.store w id o s) := by
  unfold Dump.apply
  split
  · rename_i commandless
    exact .passedOver commandless
  · cases stored : env.store id with
    | error text => exact .failed _ _ ((extends_chains o _).refl s)
    | ok data =>
      have looked := Moves.reads (moves_firstReadyPod (o := o) env.dest.kube w) s
      have quiet : Extends o Event.NoReplay s (firstReadyPod env.dest.kube w o s).2 :=
        moves_firstReadyPod env.dest.kube w s
      simp only [bind_run]
      cases pods : (firstReadyPod env.dest.kube w o s).1 with
      | error text => exact .failed _ _ quiet
      | ok found =>
        obtain ⟨pod, container⟩ := found
        cases client : env.dest.exec with
        | none => exact .failed _ _ quiet
        | some c =>
          generalize (firstReadyPod env.dest.kube w o s).2 = t at looked quiet
          simp only [bind_run, Dump.replayIn_run]
          cases outcome : (o.exec t.calls (Dump.restoreCommand w.engine)).error with
          | some text =>
            refine .failed _ _ ((extends_chains o _).trans quiet ⟨rfl, _, rfl, ?_, fun quiet => ?_⟩)
            · simp [Event.NoReplay, Event.replays]
            · simp [Event.touches] at quiet
          | none =>
            exact .replayed _ c pod.key container data client stored looked.1 (by simp [looked.2])

/-- Recording a replay that is known, of a dump that was not on record. -/
theorem Replays.record {sure : Prop} {added : List Event} {answer : Except ApiError String × World}
    (absent : dumpApplied s.action.annotations key = false) (same : t.action = s.action)
    (log : t.log = s.log ++ added) (known : ReplayKnown env key added) (one : replayCount key added ≤ 1)
    (others : ∀ other, other ≠ key → replayCount other added = 0) (spec : RecordSpec key o t answer)
    (certain : sure → dumpApplied answer.2.action.annotations key = true) : Replays sure env s answer.2 added := by
  have grown : Recorded key s.action.annotations answer.2.action.annotations := same ▸ spec.grown
  have unlisted {other : String} (listed : dumpApplied s.action.annotations other = true) : other ≠ key := by
    rintro rfl
    simp [absent] at listed
  refine ⟨spec.log.trans log, grown.keeps, fun other listed => ?_, fun other => ?_,
    fun other listed => others other (unlisted listed), fun holds other counted => ?_⟩
  · rcases grown.adds other listed with earlier | rfl
    · exact .inl earlier
    · exact .inr known
  · by_cases this : other = key
    · exact this ▸ one
    · simp [others other this]
  · by_cases this : other = key
    · exact this ▸ certain holds
    · simp [others other this] at counted

theorem rememberDumpApplied_run (annotations : GoMap String String) (key : String) (o : Oracle) (s : World) :
    rememberDumpApplied annotations key o s =
      (match (retryOnConflict (recordOnce key) defaultRetry o s).1 with
        | .error refused => .error refused
        | .ok list => .ok (annotations.insert dumpAppliedAnnotation list),
        (retryOnConflict (recordOnce key) defaultRetry o s).2) := by
  simp only [rememberDumpApplied, bind_run]
  cases (retryOnConflict (recordOnce key) defaultRetry o s).1 <;> rfl

/-- What a part of the loop body that may stop the pass ends with. -/
def Progress (o : Oracle) (env : Env) (s : World) (seenOf : α → RestoreSeen) (done : α → World → Prop) :
    Except Stop α → World → Prop
  | .error _, t => ∃ added, Replays o.Records env s t added
  | .ok value, t => (∃ added, Replays True env s t added) ∧ InStep (seenOf value) t ∧ done value t

theorem Progress.after {u : World} {seenOf : α → RestoreSeen} {done : α → World → Prop} {answer : Except Stop α}
    {first : List Event} (before : Replays True env s t first) (progress : Progress o env t seenOf done answer u) :
    Progress o env s seenOf done answer u := by
  cases answer with
  | error stop =>
    obtain ⟨second, replays⟩ := progress
    exact ⟨_, before.trans replays⟩
  | ok value =>
    obtain ⟨⟨second, replays⟩, rest⟩ := progress
    exact ⟨⟨_, before.trans replays⟩, rest⟩

theorem Progress.imp {seenOf : α → RestoreSeen} {done wider : α → World → Prop} {answer : Except Stop α}
    (progress : Progress o env s seenOf done answer t) (implies : ∀ value t, done value t → wider value t) :
    Progress o env s seenOf wider answer t := by
  cases answer with
  | error stop => exact progress
  | ok value => exact ⟨progress.1, progress.2.1, implies value t progress.2.2⟩

/-- The recording half of a replay. -/
private theorem recordReplay_progress {w : Workload} (seen : RestoreSeen) {added : List Event}
    (plain : '\n' ∉ w.key.toList) (rehydrated : Bool) (absent : dumpApplied s.action.annotations w.key = false)
    (same : t.action = s.action) (log : t.log = s.log ++ added) (known : ReplayKnown env w.key added)
    (one : replayCount w.key added ≤ 1) (others : ∀ other, other ≠ w.key → replayCount other added = 0) :
    Progress o env s Prod.fst (fun value u => value.1.facts.rehydrated = seen.facts.rehydrated ∧
        (value.2 = true → dumpApplied u.action.annotations w.key = true))
      (recordReplay seen w rehydrated o t).1 (recordReplay seen w rehydrated o t).2 := by
  have spec := retryOnConflict_spec (recordOnce_spec plain w.key_ne_empty o) defaultRetry t
  simp only [recordReplay, bind_run, rememberDumpApplied_run]
  cases answer : (retryOnConflict (recordOnce w.key) defaultRetry o t).1 with
  | error refused => exact ⟨added, Replays.record absent same log known one others spec spec.sure⟩
  | ok list =>
    obtain ⟨listed, rfl⟩ := spec.listed list answer
    exact ⟨⟨added, Replays.record absent same log known one others spec fun _ => listed⟩,
      fun key => dumpApplied_insert _ key, rfl, fun _ => listed⟩

/-- Facts gathered for one workload leave what is known of the others alone. -/
def KeepsOthers (key : String) (before after : Restore.Facts) : Prop :=
  ∀ other, other ≠ key → after.rehydrated.get other = before.rehydrated.get other

theorem KeepsOthers.of_same {before after : Restore.Facts} (same : after.rehydrated = before.rehydrated) :
    KeepsOthers key before after :=
  fun _ _ => by rw [same]

theorem KeepsOthers.of_insert {before after : Restore.Facts} {done : Bool}
    (same : after.rehydrated = before.rehydrated.insert key done) : KeepsOthers key before after :=
  fun _ different => by rw [same, GoMap.get_insert_ne _ _ different]

theorem replayDump_progress {w : Workload} {id : String} {seen : RestoreSeen} (member : w ∈ env.inventory)
    (useful : env.usefulID w = some id) (plain : '\n' ∉ w.key.toList) (inStep : InStep seen s) (rehydrated : Bool) :
    Progress o env s Prod.fst (fun value u => value.1.facts.rehydrated = seen.facts.rehydrated ∧
        (value.2 = true → dumpApplied u.action.annotations w.key = true))
      (replayDump env seen w id rehydrated o s).1 (replayDump env seen w id rehydrated o s).2 := by
  unfold replayDump
  split
  · rename_i listed
    exact ⟨⟨[], Replays.refl s⟩, inStep, rfl, fun _ => inStep w.key ▸ listed⟩
  · rename_i unlisted
    have absent : dumpApplied s.action.annotations w.key = false := by
      simpa [inStep w.key] using unlisted
    obtain ⟨same, log⟩ := Moves.reads (o := o) (moves_isReady env.dest.kube w) s
    simp only [bind_run]
    generalize (isReady env.dest.kube w o s).2 = t at same log
    have waited (sure : Prop) : Replays sure env s t [] := .of_same (by rw [same]) (by simp [log]) (by simp)
    split
    · simp only [bind_run]
      have applied := dumpApply_applied o env w id t
      generalize Dump.apply env.dest env.store w id o t = answer at applied
      cases applied with
      | passedOver commandless =>
        have silent : t.log = s.log ++ [] := by simp [log]
        have missing := commandless.resolve_right (usefulID_ne_empty useful)
        exact recordReplay_progress seen plain rehydrated absent same silent
          ⟨w, member, rfl, id, useful, .inl missing⟩ (by simp [replayCount]) (by simp [replayCount])
      | failed stop u extended =>
        obtain ⟨added, replays⟩ : ∃ added, Replays True env t u added := Replays.of_extends extended
        cases stop with
        | panic => exact ⟨_, ((waited True).trans replays).weaken⟩
        | error text =>
          refine ⟨⟨_, (waited True).trans replays⟩, fun key => ?_, rfl, by simp⟩
          change dumpApplied seen.annotations key = dumpApplied u.action.annotations key
          rw [inStep key, extended.action, same]
      | replayed u c pod container data client stored action issued =>
        refine recordReplay_progress seen plain rehydrated absent (action.trans same)
          (by rw [issued, log])
          ⟨w, member, rfl, id, useful, .inr ⟨c, pod, container, data, client, stored, by simp⟩⟩ ?_ ?_
        · simp [replayCount, Event.replays]
        · intro other different
          simp [replayCount, Event.replays, Ne.symm different]
    · exact ⟨⟨[], waited True⟩, fun key => by simp [inStep key, same], rfl, by simp⟩

/-! ### The loop body -/

section
variable {o : Oracle} {env : Env} {w : Workload}
variable {s : World} {seen : RestoreSeen}

theorem settle_kept (env : Env) (w : Workload) (always : Bool) (facts : Restore.Facts) (s : World) :
    (settle env always facts w o s).1.rehydrated = facts.rehydrated ∧
      (settle env always facts w o s).1.useful = facts.useful := by
  simp only [settle, bind_run]
  generalize (healWorkloadOn env.dest.kube w o s).1 = names
  cases (ready env.dest.kube w o (healWorkloadOn env.dest.kube w o s).2).1 with
  | error text => cases always <;> cases names.isEmpty <;> simp
  | ok up => cases names.isEmpty <;> simp

theorem ensureClaims_kept (env : Env) (w : Workload) (facts : Restore.Facts) (s : World) :
    (ensureClaims env facts w o s).1.1.rehydrated = facts.rehydrated ∧
      (ensureClaims env facts w o s).1.1.useful = facts.useful := by
  refine Holds.fold (o := o) (fun _ acc _ => acc.1.rehydrated = facts.rehydrated ∧ acc.1.useful = facts.useful)
    w.pvcNames (fun _ pvcName _ acc _ t same => ?_) (facts, true) s ⟨rfl, rfl⟩
  obtain ⟨before, bound⟩ := acc
  simp only [bind_run]
  generalize ensurePVCFromSnapshot env.dest.kube env.dest.dynamic w pvcName (rehydrateOpts env.pair) o t = answer
  obtain ⟨⟨outcome, healed⟩, u⟩ := answer
  cases outcome with
  | ok done => exact same
  | error text =>
    dsimp only
    split <;> exact same

/-- Where the loop body leaves a workload: the others' facts are kept, and one with
a dump of its own, if it counts as rehydrated, is on record. -/
def Handled (env : Env) (phase : ActionPhase) (w : Workload) (before : Restore.Facts) (seen : RestoreSeen)
    (t : World) : Prop :=
  KeepsOthers w.key before seen.facts ∧
    (w.stateful = true → w.isObjectGraph = false → moverOverride env.policy w .restore = "" →
      (env.usefulID w).isSome → pastReplay phase = false →
      seen.facts.rehydrated.get w.key = true → dumpApplied t.action.annotations w.key = true)

private theorem extends_same {t : World} (extended : Extends o Event.NoReplay s t) (inStep : InStep seen s) :
    InStep seen t := fun key => by rw [inStep key, extended.action]

theorem replayIfDue_progress (phase : ActionPhase) (member : w ∈ env.inventory) (plain : '\n' ∉ w.key.toList)
    (inStep : InStep seen s) (rehydrated : Bool) :
    Progress o env s Prod.fst (fun value u => value.1.facts.rehydrated = seen.facts.rehydrated ∧
        ((env.usefulID w).isSome → pastReplay phase = false → value.2 = true →
          dumpApplied u.action.annotations w.key = true))
      (replayIfDue env phase seen w rehydrated o s).1 (replayIfDue env phase seen w rehydrated o s).2 := by
  unfold replayIfDue
  cases useful : env.usefulID w with
  | none =>
    dsimp only
    split <;> exact ⟨⟨[], Replays.refl s⟩, inStep, rfl, by simp⟩
  | some id =>
    dsimp only
    split
    · rename_i past
      exact ⟨⟨[], Replays.refl s⟩, inStep, rfl, by simp [past]⟩
    · have progress := replayDump_progress (o := o) member useful plain inStep rehydrated
      generalize replayDump env seen w id rehydrated o s = answer at progress ⊢
      obtain ⟨answer, t⟩ := answer
      cases answer with
      | error stop => exact progress
      | ok value =>
        obtain ⟨replays, now, same, listed⟩ := progress
        exact ⟨replays, now, same, fun _ _ => listed⟩

theorem rehydrate_progress (phase : ActionPhase) (member : w ∈ env.inventory) (plain : '\n' ∉ w.key.toList)
    (inStep : InStep seen s) :
    Progress o env s id (Handled env phase w seen.facts)
      (rehydrate env phase seen w o s).1 (rehydrate env phase seen w o s).2 := by
  have bound : Extends o Event.NoReplay s (ensureClaims env seen.facts w o s).2 :=
    moves_ensureClaims env seen.facts w (fun _ _ _ => rfl) s
  have before := (ensureClaims_kept (o := o) env w seen.facts s).1
  simp only [rehydrate, bind_run]
  generalize ensureClaims env seen.facts w o s = claims at bound before
  obtain ⟨⟨facts, all⟩, t⟩ := claims
  obtain ⟨first, replays⟩ : ∃ added, Replays True env s t added := Replays.of_extends bound
  have now : InStep { seen with facts } t := extends_same bound inStep
  have progress := replayIfDue_progress (o := o) phase member plain now all
  refine Progress.after replays ?_
  dsimp only
  generalize replayIfDue env phase { seen with facts } w all o t = answer at progress
  obtain ⟨answer, u⟩ := answer
  cases answer with
  | error stop => exact progress
  | ok value =>
    obtain ⟨after, rehydrated⟩ := value
    obtain ⟨⟨second, replayed⟩, inStep', same, listed⟩ := progress
    simp only [bind_run, pure_run]
    have settled : Extends o Event.NoReplay u
        (settle env false (after.facts.setRehydrated w.key rehydrated) w o u).2 :=
      moves_settle env _ w false (fun _ _ _ => rfl) (fun _ _ _ _ _ _ => rfl) u
    have kept := (settle_kept (o := o) env w false (after.facts.setRehydrated w.key rehydrated) u).1
    obtain ⟨third, rest⟩ : ∃ added, Replays True env u _ added := Replays.of_extends settled
    refine ⟨⟨_, replayed.trans rest⟩, extends_same settled inStep', fun other different => ?_, ?_⟩
    · simp only [kept, Restore.Facts.setRehydrated_rehydrated, GoMap.get_insert_ne _ _ different]
      rw [same, before]
    · intro _ _ _ useful live counted
      rw [settled.action]
      exact listed useful live (by simpa [kept] using counted)

/-- A branch of the loop body that does not replay. -/
private theorem Progress.of_quiet {phase : ActionPhase} {before : Restore.Facts} {t : World}
    (extended : Extends o Event.NoReplay s t) (inStep : InStep seen s) {facts : Restore.Facts}
    (keeps : KeepsOthers w.key before facts) (other : w.stateful = true → w.isObjectGraph = false → moverOverride
      env.policy w .restore = "" → (env.usefulID w).isSome = true → False) :
    Progress o env s id (Handled env phase w before) (.ok { seen with facts }) t :=
  ⟨Replays.of_extends extended, extends_same extended inStep, keeps,
    fun stateful plain pinned useful => (other stateful plain pinned useful).elim⟩

theorem useful_noteArtifact {facts : Restore.Facts} (useful : (env.usefulID w).isSome = true) :
    (facts.noteArtifact w.key (env.artifact w)).useful.get w.key = true := by
  unfold Env.usefulID at useful
  cases recorded : env.artifact w with
  | none => simp [recorded] at useful
  | some a =>
    have good : a.useful = true := by
      simp only [recorded] at useful
      split at useful
      · rename_i both
        exact both.1
      · simp at useful
    simp [Restore.Facts.noteArtifact, good]

private theorem restoreStateless_rehydrated (facts : Restore.Facts) (s : World) :
    (restoreStateless env facts w o s).1.rehydrated = facts.rehydrated.insert w.key true := by
  simp only [restoreStateless, bind_run]
  cases (ready env.dest.kube w o s).1 <;> rfl

private theorem restoreGraph_keeps (facts : Restore.Facts) (s : World) :
    KeepsOthers w.key facts (restoreGraph env facts w o s).1 := by
  unfold restoreGraph
  cases env.usefulID w with
  | none => exact .of_same rfl
  | some id =>
    simp only [bind_run]
    cases (restoreClusterObjects env id o s).1 with
    | error text => exact .of_insert rfl
    | ok answer =>
      obtain ⟨ok, message⟩ := answer
      cases ok <;> exact .of_insert rfl

private theorem restoreByMover_keeps (m : Mover) (facts : Restore.Facts) (s : World) :
    KeepsOthers w.key facts (restoreByMover env facts m w o s).1 := by
  simp only [restoreByMover, bind_run]
  cases (m.restore w o s).1 with
  | some text => exact .of_insert rfl
  | none => exact .of_insert (settle_kept env w true _ _).1

theorem restoreUseful_progress (phase : ActionPhase) (member : w ∈ env.inventory) (plain : '\n' ∉ w.key.toList)
    (inStep : InStep seen s) :
    Progress o env s id (Handled env phase w seen.facts)
      (restoreUseful env phase seen w o s).1 (restoreUseful env phase seen w o s).2 := by
  have refl := (extends_chains o Event.NoReplay).refl s
  have unpinned (none : moverOverride env.policy w .restore = "") : env.pinnedRestore w = .none := by
    simp [Env.pinnedRestore, none]
  unfold restoreUseful
  cases pinned : env.pinnedRestore w with
  | none => exact rehydrate_progress phase member plain inStep
  | unknown text =>
    exact .of_quiet refl inStep (.of_insert rfl) fun _ _ none _ => by simp [unpinned none] at pinned
  | capable m =>
    simp only [bind_run, pure_run]
    exact .of_quiet (moves_restoreByMover env seen.facts w m (fun _ => rfl) (fun _ _ _ => rfl)
        (fun _ _ _ _ _ _ => rfl) s) inStep (restoreByMover_keeps m seen.facts s)
      fun _ _ none _ => by simp [unpinned none] at pinned

theorem restoreStep_progress (phase : ActionPhase) (member : w ∈ env.inventory) (plain : '\n' ∉ w.key.toList)
    (inStep : InStep seen s) :
    Progress o env s id (Handled env phase w seen.facts)
      (restoreStep env phase seen w o s).1 (restoreStep env phase seen w o s).2 := by
  have noted : (seen.facts.noteArtifact w.key (env.artifact w)).rehydrated = seen.facts.rehydrated :=
    Restore.Facts.noteArtifact_rehydrated _ _ _
  have refl := (extends_chains o Event.NoReplay).refl s
  unfold restoreStep
  generalize given : seen.facts.noteArtifact w.key (env.artifact w) = facts at noted
  have useful (some : (env.usefulID w).isSome = true) : facts.useful.get w.key = true :=
    given ▸ useful_noteArtifact some
  split
  · rename_i stateless
    simp only [bind_run, pure_run]
    exact .of_quiet (moves_restoreStateless env facts w s) inStep
      (.of_insert (by rw [restoreStateless_rehydrated, noted])) fun stateful => by
        simp [Workload.stateful, stateless] at stateful
  · split
    · rename_i useless
      have skipped : (skipWorkload facts w).rehydrated = seen.facts.rehydrated.insert w.key true := by
        simp [skipWorkload, noted]
      exact .of_quiet refl inStep (.of_insert skipped) fun _ _ _ some => by simp [useful some] at useless
    · split
      · rename_i graph
        simp only [bind_run, pure_run]
        refine .of_quiet (moves_restoreGraph env facts w (fun _ _ _ _ => rfl) s) inStep
          (fun other different => ?_) fun _ plain => by simp [graph] at plain
        rw [restoreGraph_keeps facts s other different, noted]
      · have now : InStep { seen with facts } s := inStep
        refine (restoreUseful_progress phase member plain now).imp
          fun value t handled => ⟨fun other different => ?_, handled.2⟩
        rw [handled.1 other different, noted]

/-- Every workload with a dump of its own that counts as rehydrated is on record. -/
def RehydratedRecorded (env : Env) (phase : ActionPhase) (seen : RestoreSeen) (t : World) : Prop :=
  ∀ w ∈ env.inventory, w.stateful = true → w.isObjectGraph = false →
    moverOverride env.policy w .restore = "" → (env.usefulID w).isSome → pastReplay phase = false →
      seen.facts.rehydrated.get w.key = true → dumpApplied t.action.annotations w.key = true

/-- What an API server promises of an inventory: keys are single lines and tell the
workloads apart. The object graph has no engine. -/
structure KeyedInventory (inventory : List Workload) : Prop where
  plain : ∀ w ∈ inventory, '\n' ∉ w.key.toList
  unique : ∀ w ∈ inventory, ∀ v ∈ inventory, w.key = v.key → w = v
  graph : ∀ w ∈ inventory, w.isObjectGraph = true → w.engine = ""

/-- The invariant of the loop: it has replayed as it should since `s`, its list is
the stored one, and what counts as rehydrated is on record. -/
private def LoopInvariant (env : Env) (phase : ActionPhase) (s : World) (seen : RestoreSeen) (t : World) :
    Prop :=
  (∃ added, Replays True env s t added) ∧ InStep seen t ∧ RehydratedRecorded env phase seen t

private theorem restoreStep_invariant (keyed : KeyedInventory env.inventory) (phase : ActionPhase)
    (member : w ∈ env.inventory) (s : World) (seen : RestoreSeen) :
    Holds o (LoopInvariant env phase s seen) (restoreStep env phase seen w)
      (Until (fun _ t => ∃ added, Replays o.Records env s t added) (LoopInvariant env phase s)) := by
  rintro t ⟨⟨first, before⟩, inStep, recorded⟩
  have progress := restoreStep_progress (o := o) phase member (keyed.plain w member) inStep
  generalize restoreStep env phase seen w o t = answer at progress
  obtain ⟨answer, u⟩ := answer
  cases answer with
  | error stop =>
    obtain ⟨second, after⟩ := progress
    exact ⟨_, before.trans after⟩
  | ok now =>
    obtain ⟨⟨second, after⟩, inStep', keeps, handled⟩ := progress
    refine ⟨⟨_, before.trans after⟩, inStep', fun v listed stateful plain pinned useful live counted => ?_⟩
    by_cases same : v.key = w.key
    · obtain rfl := keyed.unique v listed w member same
      exact handled stateful plain pinned useful live counted
    · exact after.keeps v.key (recorded v listed stateful plain pinned useful live (keeps v.key same ▸ counted))

theorem restoreLoop_progress (keyed : KeyedInventory env.inventory) (act : Action) (s : World)
    (read : act.annotations = s.action.annotations) :
    Progress o env s id (RehydratedRecorded env act.status.phase)
      (restoreLoop env act o s).1 (restoreLoop env act o s).2 := by
  have loop : Holds o (LoopInvariant env act.status.phase s ⟨madeFacts, act.annotations⟩)
      (restoreLoop env act) (Until (fun _ t => ∃ added, Replays o.Records env s t added)
        (LoopInvariant env act.status.phase s)) := by
    refine Holds.foldUntil (fun _ => LoopInvariant env act.status.phase s) _ env.inventory
      (fun done w rest seen split => ?_) _
    exact restoreStep_invariant keyed _ (by simp [split]) s seen
  have started : LoopInvariant env act.status.phase s ⟨madeFacts, act.annotations⟩ s :=
    ⟨⟨[], Replays.refl s⟩, fun key => by rw [read], fun w _ _ _ _ _ _ counted => by
      simp [madeFacts, GoMap.get] at counted⟩
  have ended := loop s started
  cases answer : (restoreLoop env act o s).1 with
  | error stop =>
    rw [answer] at ended
    exact ended
  | ok seen =>
    rw [answer] at ended
    exact ended

end

end Portage
