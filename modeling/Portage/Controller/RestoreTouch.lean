import Portage.Controller.ApplyTouch
import Portage.Controller.DumpReplay
import Portage.Controller.Touch

/-! What a Restore pass touches: what its loop over the inventory does to each
workload, and the pass as a whole. -/
namespace Portage

open Go Kube Process Program

/-! ### One workload -/

/-- A mover that acts on its own when asked to restore. -/
def Mover.restoresRemotely : Mover → Bool
  | .webhook _ => true
  | .postgresStreaming | .volsync | .rclone => false

/-- Whether the loop of a Restore pass touches anything for a workload. -/
def Env.restoreTouches (env : Env) (clusters : Clusters) (act : Action) (w : Workload) : Bool :=
  if w.cls = .stateless then false
  else if (env.artifact w).any (·.useful) = false then false
  else if w.isObjectGraph then
    match env.usefulID w with
    | none => false
    | some id => env.writesGraph (env.archive id)
  else
    match env.pinnedRestore w with
    | .unknown _ => false
    | .capable m => m.restoresRemotely || (clusters env.dest.kube).heals w
    | .none => w.pvcNames.any (env.bindsClaim clusters w) || env.replayDue clusters act w ||
        (clusters env.dest.kube).heals w

section
variable {o : Oracle} {env : Env} {clusters : Clusters} {act : Action} {w : Workload} {seen : RestoreSeen}
variable {client : ClusterId}

private theorem tells_settle (always : Bool) (facts : Restore.Facts) :
    Tells clusters ((clusters env.dest.kube).heals w = true) (settle env always facts w) := by
  refine tells_healWorkloadOn.then_reads fun names o => moves_bind (moves_ready _ w) fun answer => ?_
  cases answer with
  | error text => exact moves_pure _
  | ok up => exact moves_bind (moves_probeReady env w (fun _ quiet => quiet) up) fun _ => moves_pure _

private theorem tells_restoreByMover (m : Mover) (facts : Restore.Facts) :
    Tells clusters ((m.restoresRemotely || (clusters env.dest.kube).heals w) = true) (restoreByMover env facts m w) := by
  have restores : Tells clusters (m.restoresRemotely = true) (m.restore w) := by
    cases m with
    | webhook plugin => exact tells_callMover.congr (by simp [Mover.restoresRemotely])
    | postgresStreaming | volsync | rclone => exact .pure _ (by simp [Mover.restoresRemotely])
  refine (Tells.bind_of (· = none) ((clusters env.dest.kube).heals w = true) restores (fun builtin o _ s _ => ?_)
    fun answer => ?_).congr (by simp)
  · cases m with
    | webhook plugin => simp [Mover.restoresRemotely] at builtin
    | postgresStreaming | volsync | rclone => rfl
  · cases answer with
    | some text => exact .pure _ (by simp)
    | none => exact (tells_settle true _).congr (by simp)

/-! #### Served, no step ends the pass -/

private theorem recordOnce_serene (serene : o.Serene) (key : String) (s : World) :
    ∃ list, (recordOnce key o s).1 = .ok list := by
  simp only [recordOnce, bind_run, readStored_served (serene.served s.calls .readForRecord rfl)]
  split
  · exact ⟨_, rfl⟩
  · simp only [bind_run, writeStored_served (serene.served _ .recordDump rfl)]
    exact ⟨_, rfl⟩

private theorem recordReplay_goes (serene : o.Serene) (seen : RestoreSeen) (w : Workload) (rehydrated : Bool)
    (s : World) : ∃ value, (recordReplay seen w rehydrated o s).1 = .ok value := by
  obtain ⟨list, once⟩ := recordOnce_serene serene w.key s
  have all : (retryOnConflict (recordOnce w.key) defaultRetry o s).1 = .ok list := by
    simp [defaultRetry, retryOnConflict, once]
  simp only [recordReplay, rememberDumpApplied, bind_run, all]
  exact ⟨_, rfl⟩

private theorem dumpApply_ne_panic (exec : env.dest.exec = some client) (id : String) (s : World) :
    (Dump.apply env.dest env.store w id o s).1 ≠ .error .panic := by
  unfold Dump.apply
  split
  · simp
  · cases env.store id with
    | error text => simp
    | ok data =>
      simp only [bind_run, exec]
      cases (firstReadyPod env.dest.kube w o s).1 with
      | error text => simp
      | ok found =>
        simp only [bind_run]
        cases (Dump.replayIn w id client found.1 found.2 data o (firstReadyPod env.dest.kube w o s).2).1 <;> simp

private theorem replayIfDue_goes (serene : o.Serene) (exec : env.dest.exec = some client) (phase : ActionPhase)
    (seen : RestoreSeen) (rehydrated : Bool) (s : World) :
    ∃ value, (replayIfDue env phase seen w rehydrated o s).1 = .ok value := by
  unfold replayIfDue
  cases env.usefulID w with
  | none => dsimp only; split <;> exact ⟨_, rfl⟩
  | some id =>
    dsimp only
    split
    · exact ⟨_, rfl⟩
    · unfold replayDump
      split
      · exact ⟨_, rfl⟩
      · simp only [bind_run]
        split
        · have calm := dumpApply_ne_panic (o := o) (w := w) exec id (isReady env.dest.kube w o s).2
          simp only [bind_run]
          generalize Dump.apply env.dest env.store w id o (isReady env.dest.kube w o s).2 = answer at calm
          obtain ⟨answer, t⟩ := answer
          cases answer with
          | ok _ => exact recordReplay_goes serene seen w rehydrated t
          | error stop =>
            cases stop with
            | panic => exact absurd rfl calm
            | error text => exact ⟨_, rfl⟩
        · exact ⟨_, rfl⟩

private theorem rehydrate_goes (serene : o.Serene) (exec : env.dest.exec = some client) (phase : ActionPhase)
    (seen : RestoreSeen) (s : World) : ∃ next, (rehydrate env phase seen w o s).1 = .ok next := by
  obtain ⟨value, goes⟩ := replayIfDue_goes (w := w) serene exec phase
    { seen with facts := (ensureClaims env seen.facts w o s).1.1 } (ensureClaims env seen.facts w o s).1.2
    (ensureClaims env seen.facts w o s).2
  simp only [rehydrate, bind_run, goes]
  exact ⟨_, rfl⟩

theorem restoreStep_goes (serene : o.Serene) (exec : env.dest.exec = some client) (phase : ActionPhase)
    (seen : RestoreSeen) (w : Workload) (s : World) : ∃ next, (restoreStep env phase seen w o s).1 = .ok next := by
  unfold restoreStep
  split
  · exact ⟨_, rfl⟩
  · split
    · exact ⟨_, rfl⟩
    · split
      · exact ⟨_, rfl⟩
      · unfold restoreUseful
        cases env.pinnedRestore w with
        | none => exact rehydrate_goes serene exec phase _ s
        | unknown text => exact ⟨_, rfl⟩
        | capable m => exact ⟨_, rfl⟩

/-! #### What a step does -/

private theorem tells_rehydrate (exec : env.dest.exec = some client)
    (kept : dumpApplied act.annotations w.key = true → dumpApplied seen.annotations w.key = true)
    (fresh : env.replayDue clusters act w = true → dumpApplied seen.annotations w.key = false) :
    Tells clusters ((w.pvcNames.any (env.bindsClaim clusters w) || env.replayDue clusters act w ||
      (clusters env.dest.kube).heals w) = true) (rehydrate env act.status.phase seen w) := by
  refine ((tells_ensureClaims seen.facts).bind fun claims => Tells.bind_of (fun answer => ∃ after, answer = .ok after)
    ((clusters env.dest.kube).heals w = true) (tells_replayIfDue exec (by exact kept) (by exact fresh) claims.2)
    (fun _ o serene s _ => replayIfDue_goes serene exec _ _ _ s) fun answer => ?_).congr (by simp [or_assoc])
  cases answer with
  | error stop => exact .pure _ (by simp)
  | ok after => exact ((tells_settle false _).then_reads fun _ _ => moves_pure _).congr (by simp)

/-- What a step knows of the usefulness of its workload. -/
private theorem noteArtifact_useful (useful : env.artifact w = none → seen.facts.useful.get w.key = false) :
    (seen.facts.noteArtifact w.key (env.artifact w)).useful.get w.key = (env.artifact w).any (·.useful) := by
  cases recorded : env.artifact w with
  | none => simpa [Restore.Facts.noteArtifact] using useful recorded
  | some a => simp [Restore.Facts.noteArtifact]

theorem decides_restoreStep (exec : env.dest.exec = some client)
    (useful : env.restoreTouches clusters act w = false → w.cls ≠ .stateless → env.artifact w = none →
      seen.facts.useful.get w.key = false)
    (kept : dumpApplied act.annotations w.key = true → dumpApplied seen.annotations w.key = true)
    (fresh : env.restoreTouches clusters act w = true → env.replayDue clusters act w = true →
      dumpApplied seen.annotations w.key = false) :
    Decides clusters (env.restoreTouches clusters act w = true) (restoreStep env act.status.phase seen w) := by
  unfold restoreStep
  dsimp only
  split
  · rename_i stateless
    exact (Tells.of_moves (fun _ => moves_bind (moves_restoreStateless env _ w) fun _ => moves_pure _)
      (by simp [Env.restoreTouches, stateless])).toDecides
  · rename_i stateful
    rw [noteArtifact_useful fun none => useful (by simp [Env.restoreTouches, none]) stateful none]
    unfold Env.restoreTouches at fresh ⊢
    rw [if_neg stateful] at fresh ⊢
    split
    · exact .pure _ (by simp [*])
    · rename_i some
      rw [if_neg some] at fresh
      split
      · refine (Tells.then_reads ?_ fun _ _ => moves_pure _).toDecides
        unfold restoreGraph
        cases env.usefulID w with
        | none => exact .pure _ (by simp [*])
        | some id =>
          refine ((tells_writeGraph _).then_reads fun answer _ => ?_).congr (by simp [*])
          cases answer <;> exact moves_pure _
      · rename_i plain
        rw [if_neg plain] at fresh
        unfold restoreUseful
        cases pinned : env.pinnedRestore w with
        | unknown text => exact .pure _ Bool.false_ne_true
        | capable m => exact ((tells_restoreByMover m _).then_reads fun _ _ => moves_pure _).toDecides
        | none =>
          have unrecorded (due : env.replayDue clusters act w = true) := fresh (by simp [pinned, due]) due
          exact (tells_rehydrate exec (by exact kept) (by exact unrecorded)).toDecides

end

/-! ### The loop over the inventory -/

section
variable {o : Oracle} {env : Env} {clusters : Clusters} {act : Action} {w : Workload} {seen : RestoreSeen}
variable {rehydrated : Bool} {s : World} {value : RestoreSeen × Bool} {phase : ActionPhase} {next : RestoreSeen}

private theorem recordReplay_useful (answered : (recordReplay seen w rehydrated o s).1 = .ok value) :
    value.1.facts.useful = seen.facts.useful := by
  simp only [recordReplay, bind_run] at answered
  cases remembered : (rememberDumpApplied seen.annotations w.key o s).1 with
  | error refused => simp [remembered] at answered
  | ok annotations =>
    simp only [remembered, pure_run, Except.ok.injEq] at answered
    rw [← answered]

private theorem replayDump_useful {id : String} (answered : (replayDump env seen w id rehydrated o s).1 = .ok value) :
    value.1.facts.useful = seen.facts.useful := by
  unfold replayDump at answered
  split at answered
  · obtain rfl := Except.ok.inj answered
    rfl
  · simp only [bind_run] at answered
    split at answered
    · simp only [bind_run] at answered
      generalize Dump.apply env.dest env.store w id o (isReady env.dest.kube w o s).2 = applied at answered
      obtain ⟨applied, t⟩ := applied
      match applied with
      | .ok _ => exact recordReplay_useful answered
      | .error .panic => simp at answered
      | .error (.error text) =>
        obtain rfl := Except.ok.inj answered
        rfl
    · obtain rfl := Except.ok.inj answered
      rfl

private theorem replayIfDue_useful (answered : (replayIfDue env phase seen w rehydrated o s).1 = .ok value) :
    value.1.facts.useful = seen.facts.useful := by
  unfold replayIfDue at answered
  cases useful : env.usefulID w with
  | none =>
    simp only [useful] at answered
    split at answered <;> (obtain rfl := Except.ok.inj answered; rfl)
  | some id =>
    simp only [useful] at answered
    split at answered
    · obtain rfl := Except.ok.inj answered
      rfl
    · exact replayDump_useful answered

private theorem rehydrate_useful (answered : (rehydrate env phase seen w o s).1 = .ok next) :
    next.facts.useful = seen.facts.useful := by
  have claims := (ensureClaims_kept (o := o) env w seen.facts s).2
  simp only [rehydrate, bind_run] at answered
  generalize ensureClaims env seen.facts w o s = bound at claims answered
  obtain ⟨⟨facts, all⟩, t⟩ := bound
  cases replayed : (replayIfDue env phase { seen with facts } w all o t).1 with
  | error stop => simp [replayed] at answered
  | ok value =>
    simp only [replayed, bind_run, pure_run, Except.ok.injEq] at answered
    rw [← answered, (settle_kept env w false _ _).2, Restore.Facts.setRehydrated_useful,
      replayIfDue_useful replayed, claims]

private theorem restoreUseful_useful (answered : (restoreUseful env phase seen w o s).1 = .ok next) :
    next.facts.useful = seen.facts.useful := by
  unfold restoreUseful at answered
  cases pinned : env.pinnedRestore w with
  | none =>
    simp only [pinned] at answered
    exact rehydrate_useful answered
  | unknown text =>
    simp only [pinned, pure_run, Except.ok.injEq] at answered
    rw [← answered]
    simp
  | capable m =>
    simp only [pinned, bind_run, pure_run, Except.ok.injEq, restoreByMover] at answered
    rw [← answered]
    cases (m.restore w o s).1 with
    | some text => simp
    | none => exact (settle_kept env w true _ _).2

private theorem restoreGraph_useful (facts : Restore.Facts) (s : World) :
    (restoreGraph env facts w o s).1.useful = facts.useful := by
  unfold restoreGraph
  cases env.usefulID w with
  | none => rfl
  | some id =>
    simp only [bind_run]
    cases (restoreClusterObjects env id o s).1 with
    | error text => rfl
    | ok answer =>
      obtain ⟨ok, message⟩ := answer
      cases ok <;> rfl

private theorem noteArtifact_other (facts : Restore.Facts) {key : String}
    (other : key ≠ w.key ∨ env.artifact w = none) :
    (facts.noteArtifact w.key (env.artifact w)).useful.get key = facts.useful.get key := by
  cases recorded : env.artifact w with
  | none => rfl
  | some a =>
    have different : key ≠ w.key := other.resolve_right (by simp [recorded])
    simp [Restore.Facts.noteArtifact, GoMap.get_insert_ne _ _ different]

/-- A step only sets what it knows of its own workload's usefulness, and only from a
record or for a stateless one. -/
private theorem restoreStep_useful {key : String} (answered : (restoreStep env phase seen w o s).1 = .ok next)
    (other : key ≠ w.key ∨ w.cls ≠ .stateless ∧ env.artifact w = none) :
    next.facts.useful.get key = seen.facts.useful.get key := by
  have noted := noteArtifact_other seen.facts (other.imp_right And.right)
  unfold restoreStep at answered
  split at answered
  · rename_i stateless
    have different : key ≠ w.key := other.resolve_right fun both => both.1 stateless
    simp only [bind_run, pure_run, Except.ok.injEq, restoreStateless] at answered
    rw [← answered, ← noted]
    cases (ready env.dest.kube w o s).1 <;> simp [GoMap.get_insert_ne _ _ different]
  · split at answered
    · obtain rfl := Except.ok.inj answered
      simpa [skipWorkload] using noted
    · split at answered
      · simp only [bind_run, pure_run, Except.ok.injEq] at answered
        rw [← answered, restoreGraph_useful, noted]
      · rw [restoreUseful_useful answered, noted]

end

section
variable {o : Oracle} {env : Env} {clusters : Clusters} {act : Action} (keyed : KeyedInventory env.inventory)
variable {w : Workload} {s : World} {client : ClusterId}
include keyed

/-- What a loop that has touched nothing since `s` keeps. -/
private structure Spared (env : Env) (clusters : Clusters) (s : World) (seen : RestoreSeen) (t : World) : Prop where
  same : t.clusters = clusters
  events : ∀ e ∈ t.log, e ∈ s.log ∨ e.touches = false
  replays : ∃ added, Replays True env s t added
  inStep : InStep seen t
  useful : ∀ v ∈ env.inventory, v.cls ≠ .stateless → env.artifact v = none →
    seen.facts.useful.get v.key = false

private theorem restoreStep_spared (exec : env.dest.exec = some client) (still : o.Still) (member : w ∈ env.inventory)
    (inert : env.restoreTouches clusters act w = false) (read : act.annotations = s.action.annotations)
    (seen : RestoreSeen) :
    Holds o (Spared env clusters s seen) (restoreStep env act.status.phase seen w)
      (Until (fun _ t => t.clusters = clusters ∧ ∀ e ∈ t.log, e ∈ s.log ∨ e.touches = false)
        (Spared env clusters s)) := by
  rintro t ⟨same, events, ⟨first, before⟩, inStep, useful⟩
  have kept (listed : dumpApplied act.annotations w.key = true) : dumpApplied seen.annotations w.key = true := by
    rw [inStep w.key]
    exact before.keeps w.key (read ▸ listed)
  have decides : Decides clusters _ (restoreStep env act.status.phase seen w) :=
    decides_restoreStep exec (fun _ => useful w member) kept (by simp [inert])
  obtain ⟨same', added⟩ := decides.quiet (by simp [inert]) o still t same
  have events' : ∀ e ∈ (restoreStep env act.status.phase seen w o t).2.log, e ∈ s.log ∨ e.touches = false :=
    fun e logged => (added e logged).elim (events e) .inr
  have progress := restoreStep_progress (o := o) act.status.phase member (keyed.plain w member) inStep
  cases answered : (restoreStep env act.status.phase seen w o t).1 with
  | error stop => exact ⟨same', events'⟩
  | ok next =>
    rw [answered] at progress
    obtain ⟨⟨second, after⟩, inStep', _⟩ := progress
    refine ⟨same', events', ⟨_, before.trans after⟩, inStep', fun v inside stateful none => ?_⟩
    rw [restoreStep_useful answered, useful v inside stateful none]
    by_cases shared : v.key = w.key
    · obtain rfl := keyed.unique v inside w member shared
      exact .inr ⟨stateful, none⟩
    · exact .inl shared

theorem restoreLoop_quiet (exec : env.dest.exec = some client)
    (inert : ∀ w ∈ env.inventory, env.restoreTouches clusters act w = false) (still : o.Still)
    (same : s.clusters = clusters) (read : act.annotations = s.action.annotations) :
    (restoreLoop env act o s).2.clusters = clusters ∧
      ∀ e ∈ (restoreLoop env act o s).2.log, e ∈ s.log ∨ e.touches = false := by
  have start : Spared env clusters s ⟨madeFacts, act.annotations⟩ s :=
    ⟨same, fun _ member => .inl member, ⟨[], .refl s⟩, fun _ => by rw [read], fun _ _ _ _ => rfl⟩
  have loop := Holds.foldUntil (fun _ => Spared env clusters s) _ env.inventory
    (fun done w rest seen split => by
      have member : w ∈ env.inventory := by simp [split]
      exact restoreStep_spared keyed exec still member (inert w member) read seen) _ s start
  unfold restoreLoop
  generalize Program.foldUntil (restoreStep env act.status.phase) env.inventory
    ⟨madeFacts, act.annotations⟩ o s = answer at loop ⊢
  obtain ⟨answer, t⟩ := answer
  cases answer with
  | error stop => exact loop
  | ok seen => exact ⟨loop.same, loop.events⟩

/-- A loop that has touched something, or has not come to the workload yet. -/
private def HeardOrAhead (env : Env) (clusters : Clusters) (w : Workload) (s : World) (done : List Workload)
    (seen : RestoreSeen) (t : World) : Prop :=
  (∃ e ∈ t.log, e.touches = true) ∨
    (t.clusters = clusters ∧ (∃ added, Replays True env s t added) ∧ InStep seen t ∧ w ∉ done)

/-- Before its step, a dump that is due is not on record, or else it was replayed
in this pass. -/
private theorem unrecorded_or_heard (member : w ∈ env.inventory) {t : World} {seen : RestoreSeen} {added : List Event}
    (read : act.annotations = s.action.annotations) (replays : Replays True env s t added) (inStep : InStep seen t) :
    (∃ e ∈ t.log, e.touches = true) ∨
      (env.replayDue clusters act w = true → dumpApplied seen.annotations w.key = false) := by
  rw [inStep w.key]
  cases now : dumpApplied t.action.annotations w.key with
  | false => exact .inr fun _ => rfl
  | true =>
    rcases replays.known _ now with before | ⟨v, inside, named, id, useful, unheard⟩
    · refine .inr fun due => ?_
      unfold Env.replayDue at due
      cases useful : env.usefulID w <;> simp [useful, read, before] at due
    · obtain rfl := keyed.unique v inside w member named
      rcases unheard with commandless | ⟨c, pod, container, data, _, _, issued⟩
      · exact .inr fun due => by simp [Env.replayDue, useful, commandless] at due
      · exact .inl ⟨_, by rw [replays.log]; exact List.mem_append_right _ issued, rfl⟩

private theorem restoreStep_heardOrAhead (serene : o.Serene) (exec : env.dest.exec = some client)
    {x : Workload} (member : w ∈ env.inventory) (here : x ∈ env.inventory)
    (touches : env.restoreTouches clusters act w = true) (read : act.annotations = s.action.annotations)
    {done : List Workload} (seen : RestoreSeen) :
    Holds o (HeardOrAhead env clusters w s done seen) (restoreStep env act.status.phase seen x)
      (Until (fun _ _ => False) (HeardOrAhead env clusters w s (done ++ [x]))) := by
  intro t ahead
  obtain ⟨next, answered⟩ := restoreStep_goes serene exec act.status.phase seen x t
  have moved : Proceeds o (fun _ => True) t (restoreStep env act.status.phase seen x o t).2 :=
    proceeds_restoreStep env (fun _ _ => trivial) act.status.phase seen x t
  have heard (before : ∃ e ∈ t.log, e.touches = true) :
      ∃ e ∈ (restoreStep env act.status.phase seen x o t).2.log, e.touches = true := by
    obtain ⟨e, logged, touching⟩ := before
    exact ⟨e, moved.log.grows.subset logged, touching⟩
  rw [answered]
  rcases ahead with before | ⟨same, ⟨first, before⟩, inStep, unvisited⟩
  · exact .inl (heard before)
  · by_cases its : x = w
    · subst its
      rcases unrecorded_or_heard keyed member read before inStep with already | fresh
      · exact .inl (heard already)
      · have decides : Decides clusters _ (restoreStep env act.status.phase seen x) :=
          decides_restoreStep exec (by simp [touches])
            (fun listed => (inStep x.key).trans (before.keeps x.key (read ▸ listed))) fun _ => fresh
        exact .inl (decides.loud touches o serene t same)
    · obtain ⟨added, log, _, drifts⟩ := moved.log
      by_cases quiet : ∀ e ∈ added, e.touches = false
      · have progress := restoreStep_progress (o := o) act.status.phase here (keyed.plain x here) inStep
        rw [answered] at progress
        obtain ⟨⟨second, after⟩, inStep', _⟩ := progress
        exact .inr ⟨((drifts quiet).eq serene.still).trans same, ⟨_, before.trans after⟩, inStep', by
          simp [unvisited, Ne.symm its]⟩
      · simp only [not_forall, Bool.not_eq_false] at quiet
        obtain ⟨e, logged, touching⟩ := quiet
        exact .inl ⟨e, by simp [log, logged], touching⟩

theorem restoreLoop_loud (serene : o.Serene) (exec : env.dest.exec = some client)
    (member : w ∈ env.inventory) (touches : env.restoreTouches clusters act w = true) (same : s.clusters = clusters)
    (read : act.annotations = s.action.annotations) : ∃ e ∈ (restoreLoop env act o s).2.log, e.touches = true := by
  have start : HeardOrAhead env clusters w s [] ⟨madeFacts, act.annotations⟩ s :=
    .inr ⟨same, ⟨[], .refl s⟩, fun _ => by rw [read], by simp⟩
  have loop := Holds.foldUntil (HeardOrAhead env clusters w s) _ env.inventory
    (fun done x rest seen split =>
      restoreStep_heardOrAhead keyed serene exec member (by simp [split]) touches read seen) _ s start
  unfold restoreLoop
  generalize Program.foldUntil (restoreStep env act.status.phase) env.inventory
    ⟨madeFacts, act.annotations⟩ o s = answer at loop ⊢
  obtain ⟨answer, t⟩ := answer
  cases answer with
  | error stop => exact loop.elim
  | ok seen =>
    rcases loop with heard | ⟨_, _, _, unvisited⟩
    · exact heard
    · exact absurd member unvisited

end

/-! ### The whole pass -/

/-- There is nothing for a Restore pass to touch. Where manifests are applied, the
ones that it would apply are in place whichever exports are refused; and unless
an object that cannot be decoded ends every pass before its loop, the loop finds
nothing to do. -/
structure RestoreInert (env : Env) (clusters : Clusters) (act : Action) : Prop where
  applied : appliesManifests act.status.phase = true → ∀ refused : Nat → Request → Bool,
    ∀ object ∈ appliedManifests (env.rendered clusters refused 0 env.exported),
      object.inert (clusters env.dest.kube) = true
  handled : (appliesManifests act.status.phase = true → ∃ refused : Nat → Request → Bool,
      ∀ object ∈ env.rendered clusters refused 0 env.exported, object.blocks = false) →
    ∀ w ∈ env.inventory, env.restoreTouches clusters act w = false

section
variable {o : Oracle} {env : Env} {clusters : Clusters} {act : Action}

/-- The world in which a pass ends. -/
private theorem runRestore_world (o : Oracle) (s : World) : (runRestore env act o s).2 =
    match (applyIfDue env act.status.phase o s).1 with
    | .error _ => (applyIfDue env act.status.phase o s).2
    | .ok _ => (restoreLoop env act o (applyIfDue env act.status.phase o s).2).2 := by
  simp only [runRestore, bind_run]
  cases (applyIfDue env act.status.phase o s).1 with
  | error text => rfl
  | ok _ =>
    simp only [bind_run]
    cases (restoreLoop env act o (applyIfDue env act.status.phase o s).2).1 with
    | error stop => rfl
    | ok seen =>
      dsimp only
      cases Restore.advance act.status (seen.gathered env act) <;> rfl

private theorem applyIfDue_logged (o : Oracle) :
    (applyIfDue env act.status.phase o { clusters, action := act }).2.log ⊆
      (runRestore env act o { clusters, action := act }).2.log := by
  have loop : Logs (restoreLoop env act) := .foldUntil
    (fun seen w _ s => (proceeds_restoreStep env (fun _ _ => trivial) _ seen w s).log) _
  rw [runRestore_world]
  cases (applyIfDue env act.status.phase o { clusters, action := act }).1 with
  | error text => exact List.Subset.refl _
  | ok _ => exact (loop o _).grows.subset

private theorem applyIfDue_action (o : Oracle) :
    act.annotations = (applyIfDue env act.status.phase o { clusters, action := act }).2.action.annotations := by
  have extended : Extends o (fun _ => True) _ _ :=
    moves_applyIfDue env (fun _ _ => trivial) act.status.phase { clusters, action := act }
  rw [extended.action]

private theorem applyIfDue_spared (still : o.Still)
    (applied : appliesManifests act.status.phase = true → ∀ refused : Nat → Request → Bool,
      ∀ object ∈ appliedManifests (env.rendered clusters refused 0 env.exported),
        object.inert (clusters env.dest.kube) = true) :
    (applyIfDue env act.status.phase o { clusters, action := act }).2.clusters = clusters ∧
      ∀ e ∈ (applyIfDue env act.status.phase o { clusters, action := act }).2.log, e.touches = false := by
  unfold applyIfDue
  split
  · rename_i applies
    have reads : Quiet clusters (renderAll env) := .of_moves fun _ => moves_renderAll env
    obtain ⟨same, first⟩ := reads o still { clusters, action := act } rfl
    obtain ⟨last, second⟩ := (decides_typed _).quiet (by simpa using applied applies o.refuses) o still _ same
    simp only [applyManifests, bind_run, renderAll_still still]
    refine ⟨last, fun e logged => (second e logged).elim (fun early => ?_) id⟩
    exact (first e early).resolve_left (by simp)
  · exact ⟨rfl, by simp⟩

private theorem applyIfDue_unblocked (still : o.Still) (applies : appliesManifests act.status.phase = true)
    (went : (applyIfDue env act.status.phase o { clusters, action := act }).1 = .ok ()) :
    ∀ object ∈ env.rendered clusters o.refuses 0 env.exported, object.blocks = false := by
  simp only [applyIfDue, applies, ↓reduceIte, applyManifests, bind_run, renderAll_still still] at went
  exact typed_unblocked went

theorem untouched_runRestore (keyed : KeyedInventory env.inventory) {client : ClusterId}
    (exec : env.dest.exec = some client) (inert : RestoreInert env clusters act) :
    Untouched clusters act (runRestore env act) := by
  intro o still
  obtain ⟨same, events⟩ := applyIfDue_spared still inert.applied
  rw [runRestore_world]
  cases went : (applyIfDue env act.status.phase o { clusters, action := act }).1 with
  | error text => exact ⟨events, same⟩
  | ok _ =>
    have loop := inert.handled fun applies => ⟨o.refuses, applyIfDue_unblocked still applies went⟩
    obtain ⟨last, added⟩ := restoreLoop_quiet keyed exec loop still same (applyIfDue_action o)
    exact ⟨fun e logged => (added e logged).elim (events e) id, last⟩

/-- Serves every call but some exports. -/
def refusing (refused : Nat → Request → Bool) : Oracle where
  fault n req := if req.exports && refused n req then some {} else none

theorem refusing_serene (refused : Nat → Request → Bool) : (refusing refused).Serene :=
  ⟨fun _ _ => rfl, fun _ _ other => by simp [refusing, other]⟩

private theorem refusing_served (refused : Nat → Request → Bool) {reads : List (Request × Option Manifest)}
    (exports : ∀ read ∈ reads, read.1.exports = true) (n : Nat) :
    served (refusing refused).refuses n reads = served refused n reads := by
  induction reads generalizing n with
  | nil => rfl
  | cons read rest ih =>
    have first := exports read (by simp)
    rw [served, served, ih fun read later => exports read (by simp [later])]
    cases answer : refused n read.1 <;> simp [Oracle.refuses, refusing, first, answer]

private theorem refusing_rendered (refused : Nat → Request → Bool) (n : Nat) (workloads : List Workload) :
    env.rendered clusters (refusing refused).refuses n workloads = env.rendered clusters refused n workloads := by
  induction workloads generalizing n with
  | nil => rfl
  | cons w rest ih => simp only [Env.rendered, ih, refusing_served refused (w.exportReads_exports _ _)]

/-- An apply that is due writes what was rendered, on the clusters as they are. -/
private theorem applyIfDue_refusing (applies : appliesManifests act.status.phase = true)
    (refused : Nat → Request → Bool) : ∃ t : World, t.clusters = clusters ∧
      applyIfDue env act.status.phase (refusing refused) { clusters, action := act } =
        typed env.dest.kube (env.rendered clusters refused 0 env.exported) (refusing refused) t := by
  have still := (refusing_serene refused).still
  have reads : Quiet clusters (renderAll env) := .of_moves fun _ => moves_renderAll env
  refine ⟨_, (reads _ still { clusters, action := act } rfl).1, ?_⟩
  simp only [applyIfDue, applies, ↓reduceIte, applyManifests, bind_run, renderAll_still still, refusing_rendered]

theorem restoreInert_of_untouched (keyed : KeyedInventory env.inventory) {client : ClusterId}
    (exec : env.dest.exec = some client) (untouched : Untouched clusters act (runRestore env act)) :
    RestoreInert env clusters act := by
  have silent (refused : Nat → Request → Bool) {e : Event} (logged : e ∈ _) :=
    (untouched (refusing refused) (refusing_serene refused).still).1 e logged
  have inert : appliesManifests act.status.phase = true → ∀ refused : Nat → Request → Bool,
      ∀ object ∈ appliedManifests (env.rendered clusters refused 0 env.exported),
        object.inert (clusters env.dest.kube) = true := by
    intro applies refused object member
    by_contra live
    obtain ⟨t, same, applied⟩ := applyIfDue_refusing applies refused
    obtain ⟨e, logged, touches⟩ :=
      (decides_typed _).loud ⟨object, member, by simpa using live⟩ _ (refusing_serene refused) _ same
    rw [← applied] at logged
    simp [silent refused (applyIfDue_logged _ logged)] at touches
  refine ⟨inert, fun reached w member => ?_⟩
  by_contra touches
  obtain ⟨refused, went⟩ : ∃ refused : Nat → Request → Bool,
      (applyIfDue env act.status.phase (refusing refused) { clusters, action := act }).1 = .ok () := by
    cases applies : appliesManifests act.status.phase with
    | false => exact ⟨fun _ _ => false, by simp [applyIfDue, applies]⟩
    | true =>
      obtain ⟨refused, decoded⟩ := reached applies
      obtain ⟨t, same, applied⟩ := applyIfDue_refusing applies refused
      refine ⟨refused, ?_⟩
      rw [applied]
      exact typed_serene (refusing_serene refused) (inert applies refused) decoded same
  have serene := refusing_serene refused
  have same := (applyIfDue_spared serene.still inert).1
  obtain ⟨e, logged, touching⟩ := restoreLoop_loud keyed serene exec member (by simpa using touches) same
    (applyIfDue_action _)
  have late : e ∈ (runRestore env act (refusing refused) { clusters, action := act }).2.log := by
    rw [runRestore_world, went]
    exact logged
  simp [silent refused late] at touching

end

end Portage
