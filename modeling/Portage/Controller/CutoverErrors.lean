import Portage.Controller.Cutover

/-! Which failing calls a Cutover pass hears of. The audited pass does what the
runner does and notes what each promote step, the traffic hook and each scale-back
answered. -/
namespace Portage

open Go Kube Process Program

/-- A promote step: the workload, whether it was a plain scale-up, and its error. -/
structure Promotion where
  workload : Workload
  scaledUp : Bool
  failed : Option String
  deriving DecidableEq

/-- What the calls of a pass answered: the promote steps, the traffic hook that
rolls back, and the scale-backs of the source. -/
structure CutoverCalls where
  promotions : List Promotion
  hook : Option String
  scaledBack : List (Except String Unit)

/-! ### The audited pass -/

def auditedPromote (env : Env) (w : Workload) : Prog Promotion :=
  match replicator env.movers env.policy w with
  | some m => do
    let failed ← m.promote env.dest w
    pure ⟨w, false, failed⟩
  | none =>
    if w.engine = "postgres" ∨ w.engine = "timescale" then do
      let failed ← Mover.postgresStreaming.promote env.dest w
      pure ⟨w, false, failed⟩
    else do
      match ← scale env.dest.kube w 1 with
      | .error text => pure ⟨w, true, some text⟩
      | .ok _ => pure ⟨w, true, none⟩

def auditedPromoteIfDue (env : Env) (phase : ActionPhase) (w : Workload) : Prog (List Promotion) :=
  if phase = .promoting then do
    let promotion ← auditedPromote env w
    pure [promotion]
  else pure []

/-- Whether `promoted` still stands after some promote steps. -/
def stillPromoted (promotions : List Promotion) : Bool :=
  promotions.all fun promotion => promotion.scaledUp || promotion.failed.isNone

def auditedWorkload (env : Env) (phase : ActionPhase) (seen : CutoverSeen) (promotions : List Promotion)
    (w : Workload) : Prog (CutoverSeen × List Promotion) := do
  freezeSource env phase w
  let caught ← caughtUp env w
  let promotion ← auditedPromoteIfDue env phase w
  bringUp env phase w
  let up ← isReady env.dest.kube w
  let probe ← probeReady env w up
  pure ({ seen with
    lagZero := seen.lagZero && caught
    promoted := seen.promoted && stillPromoted promotion }.report w.key up probe, promotions ++ promotion)

def auditedStep (env : Env) (phase : ActionPhase) (acc : CutoverSeen × List Promotion) (w : Workload) :
    Prog (CutoverSeen × List Promotion) :=
  if w.isObjectGraph then do
    let seen ← cutoverGraph env acc.1 w
    pure (seen, acc.2)
  else auditedWorkload env phase acc.1 acc.2 w

def auditedScaleBack (env : Env) (done : List (Except String Unit)) (w : Workload) :
    Prog (List (Except String Unit)) := do
  let n ← rollbackReplicas env w
  let answer ← scale env.source.kube w n
  pure (done ++ [answer])

def auditedRollback (env : Env) (act : Action) : Prog (Option String × List (Except String Unit)) :=
  if act.spec.rollback then do
    let hook ← callHook env "rollback"
    let scaledBack ← Program.fold (auditedScaleBack env) env.frozenWorkloads []
    pure (hook, scaledBack)
  else pure (none, [])

/-- A pass, with what its calls answered. -/
def auditedCutover (env : Env) (act : Action) : Prog (ActionResult × CutoverCalls) := do
  let phase := act.status.phase
  let (seen, promotions) ← Program.fold (auditedStep env phase) env.stateful ({}, [])
  let frozen ← frozenIfDue env phase
  let switched ← switchIfDue env phase
  let (hook, scaledBack) ← auditedRollback env act
  pure (Cutover.advance act.status {
    inventory := env.inventory
    frozen := frozen && !startsCutover phase
    lagZero := seen.lagZero && !startsCutover phase
    promoted := seen.promoted && !startsCutover phase
    switched, rolled := act.spec.rollback
    ready := seen.ready, probes := seen.probes
    dryRun := act.spec.dryRun, rollback := act.spec.rollback, now := env.now },
    { promotions, hook, scaledBack })

section
variable (env : Env)

private theorem erases_promoteIfDue (phase : ActionPhase) (w : Workload) :
    Erases stillPromoted (auditedPromoteIfDue env phase w) (promoteIfDue env phase w) := by
  intro o s
  unfold auditedPromoteIfDue promoteIfDue
  split
  · unfold auditedPromote promoteWorkload
    cases replicator env.movers env.policy w with
    | some m => simp [stillPromoted]
    | none =>
      dsimp only
      split
      · simp [stillPromoted]
      · simp only [bind_run, tryScale]
        cases (scale env.dest.kube w 1 o s).1 <;> simp [stillPromoted]
  · rfl

private theorem erases_step (phase : ActionPhase) (acc : CutoverSeen × List Promotion) (w : Workload) :
    Erases Prod.fst (auditedStep env phase acc w) (cutoverStep env phase acc.1 w) := by
  unfold auditedStep cutoverStep
  split
  · exact fun _ _ => rfl
  · refine .after fun _ => .after fun caught => (erases_promoteIfDue env phase w).bind fun promotion => ?_
    exact .after fun _ => .after fun up => .after fun probe => .pure rfl

private theorem erases_scaleBack (done : List (Except String Unit)) (w : Workload) :
    Erases (fun _ => ()) (auditedScaleBack env done w) (rollbackWorkload env w) :=
  .after fun _ => .after fun _ => .pure rfl

private theorem erases_rollback (act : Action) :
    Erases (fun _ => ()) (auditedRollback env act) (rollbackIfDue env act) := by
  unfold auditedRollback rollbackIfDue
  split
  · have loop : Erases (fun _ => ()) (Program.fold (auditedScaleBack env) env.frozenWorkloads [])
        (Program.fold (fun _ w => rollbackWorkload env w) env.frozenWorkloads ()) :=
      .fold (erases_scaleBack env) _ _
    exact .after fun hook o s => loop o s
  · exact .pure rfl

/-- The audited pass is the pass of the runner. -/
theorem auditedCutover_erases (act : Action) :
    Erases Prod.fst (auditedCutover env act) (runCutover env act) := by
  intro o s
  have loop := Erases.fold (erases_step env act.status.phase) env.stateful ({}, []) o s
  simp only [runCutover, cutoverFacts, auditedCutover, bind_run, pure_run, loop]
  rw [erases_rollback env act o _]

end

/-! ### What the calls of a pass have to do with its result -/

section
variable {o : Oracle} {env : Env} {act : Action} {phase : ActionPhase}

private theorem auditedPromote_workload (w : Workload) (s : World) :
    (auditedPromote env w o s).1.workload = w := by
  unfold auditedPromote
  cases replicator env.movers env.policy w with
  | some m => rfl
  | none =>
    dsimp only
    split
    · rfl
    · simp only [bind_run]
      cases (scale env.dest.kube w 1 o s).1 <;> rfl

/-- What the loop has noted: the promote steps of the workloads handled, and whether
`promoted` stands. -/
private def Noted (phase : ActionPhase) (done : List Workload) (acc : CutoverSeen × List Promotion) : Prop :=
  acc.2.map Promotion.workload = (if phase = .promoting then done.filter fun w => !w.isObjectGraph else []) ∧
    acc.1.promoted = stillPromoted acc.2

private theorem auditedStep_noted {done : List Workload} (acc : CutoverSeen × List Promotion) (w : Workload) :
    Holds o (fun _ => Noted phase done acc) (auditedStep env phase acc w)
      (fun acc _ => Noted phase (done ++ [w]) acc) := by
  intro s ⟨listed, stands⟩
  unfold auditedStep
  split
  · rename_i graph
    simp only [bind_run, pure_run, Noted, List.filter_append, List.filter_singleton, graph, Bool.not_true]
    refine ⟨by simpa using listed, ?_⟩
    simp only [cutoverGraph, bind_run]
    cases (syncClusterObjectsLive env o s).1 <;> exact stands
  · rename_i plain
    simp only [auditedWorkload, bind_run, pure_run, Noted, List.map_append, listed, CutoverSeen.report, stands]
    refine ⟨?_, by simp [stillPromoted]⟩
    unfold auditedPromoteIfDue
    split
    · simp [plain, auditedPromote_workload]
    · simp

private theorem auditedLoop_noted (s : World) : Noted phase env.stateful
    (Program.fold (auditedStep env phase) env.stateful ({}, []) o s).1 :=
  Holds.fold (fun done acc _ => Noted phase done acc) env.stateful
    (fun done w rest acc split => auditedStep_noted acc w) ({}, []) s ⟨by simp, rfl⟩

end

/-- The Action leaves Promoting only if every promote step returned no error, and is
rolled back only if the hook and every scale-back returned none. -/
structure HonestCutover (env : Env) (act : Action) (result : ActionResult) (calls : CutoverCalls) : Prop where
  promoted : act.status.phase = .promoting → result.phase ≠ .promoting →
    calls.promotions.map Promotion.workload = env.frozenWorkloads ∧
      ∀ promotion ∈ calls.promotions, promotion.failed = none
  rolledBack : result.phase = .rolledBack → calls.hook = none ∧ ∀ answer ∈ calls.scaledBack, answer = .ok ()

/-- None of the calls fails whose errors are dropped: a plain scale-up, unless a
mover holds the Action in Promoting, and whatever a rollback passes by or asks for. -/
structure DroppedServed (act : Action) (calls : CutoverCalls) : Prop where
  scaledUp : act.status.phase = .promoting →
    (∀ promotion ∈ calls.promotions, promotion.scaledUp = false → promotion.failed = none) →
      ∀ promotion ∈ calls.promotions, promotion.scaledUp = true → promotion.failed = none
  abandoned : act.status.phase = .promoting → act.spec.rollback = true →
    ∀ promotion ∈ calls.promotions, promotion.failed = none
  rollback : act.spec.rollback = true → calls.hook = none ∧ ∀ answer ∈ calls.scaledBack, answer = .ok ()

section
variable (env : Env) (act : Action) (o : Oracle) (s : World)

/-- A pass promotes every stateful workload but the object graph, when that is due
and only then. -/
theorem auditedCutover_promotions : (auditedCutover env act o s).1.2.promotions.map Promotion.workload =
    if act.status.phase = .promoting then env.frozenWorkloads else [] :=
  (auditedLoop_noted s).1

/-- What becomes of an Action in Promoting: the errors of movers are heard. -/
theorem runCutover_promoting (due : act.status.phase = .promoting) (forward : act.spec.rollback = false) :
    (runCutover env act o s).1.phase = if ∀ promotion ∈ (auditedCutover env act o s).1.2.promotions,
      promotion.scaledUp = false → promotion.failed = none then .switching else .promoting := by
  have stands : (Program.fold (auditedStep env act.status.phase) env.stateful ({}, []) o s).1.1.promoted =
      stillPromoted (Program.fold (auditedStep env act.status.phase) env.stateful ({}, []) o s).1.2 :=
    (auditedLoop_noted s).2
  have heard : (auditedCutover env act o s).1.1.phase =
      if stillPromoted (auditedCutover env act o s).1.2.promotions then .switching else .promoting := by
    simp only [auditedCutover, bind_run, pure_run, due] at stands ⊢
    simp only [stands, startsCutover, Bool.not_false, Bool.and_true, Cutover.advance, due, forward]
    cases stillPromoted _ <;> rfl
  have strict : stillPromoted (auditedCutover env act o s).1.2.promotions = true ↔
      ∀ promotion ∈ (auditedCutover env act o s).1.2.promotions, promotion.scaledUp = false →
        promotion.failed = none := by
    simp only [stillPromoted, List.all_eq_true, Bool.or_eq_true, Option.isNone_iff_eq_none]
    exact forall₂_congr fun promotion _ => by cases promotion.scaledUp <;> simp
  rw [auditedCutover_erases env act o s, heard]
  simp only [strict]

/-- Without a rollback nothing is asked of the hook and the source. -/
theorem auditedCutover_forward (forward : act.spec.rollback = false) :
    (auditedCutover env act o s).1.2.hook = none ∧ (auditedCutover env act o s).1.2.scaledBack = [] := by
  simp [auditedCutover, auditedRollback, forward]

/-- The pass is honest about its calls exactly if none fails whose error it drops. -/
theorem runCutover_honest_iff :
    HonestCutover env act (runCutover env act o s).1 (auditedCutover env act o s).1.2 ↔
      DroppedServed act (auditedCutover env act o s).1.2 := by
  have covered := auditedCutover_promotions env act o s
  cases asked : act.spec.rollback with
  | true =>
    have ended : (runCutover env act o s).1.phase = .rolledBack := Cutover.advance_rollback asked
    constructor
    · intro honest
      have left (due : act.status.phase = .promoting) := (honest.promoted due (by simp [ended])).2
      exact ⟨fun due _ promotion member _ => left due promotion member, fun due _ => left due,
        fun _ => honest.rolledBack ended⟩
    · intro served
      refine ⟨fun due _ => ⟨by simpa [due] using covered, served.abandoned due asked⟩, fun _ => served.rollback asked⟩
  | false =>
    obtain ⟨unhooked, unscaled⟩ := auditedCutover_forward env act o s asked
    constructor
    · intro honest
      refine ⟨fun due heard promotion member _ => ?_, by simp [asked], by simp [asked]⟩
      have onward := runCutover_promoting env act o s due asked
      rw [if_pos heard] at onward
      exact (honest.promoted due (by simp [onward])).2 promotion member
    · intro served
      refine ⟨fun due left => ⟨by simpa [due] using covered, fun promotion member => ?_⟩, fun _ => by
        simp [unhooked, unscaled]⟩
      have heard : ∀ promotion ∈ (auditedCutover env act o s).1.2.promotions,
          promotion.scaledUp = false → promotion.failed = none := by
        by_contra unheard
        have held := runCutover_promoting env act o s due asked
        rw [if_neg unheard] at held
        exact left held
      cases plain : promotion.scaledUp with
      | true => exact served.scaledUp due heard promotion member plain
      | false => exact heard promotion member plain

end

/-! ### A cart that the destination does not have -/

def cart : Workload :=
  { namespace_ := "shop", name := "cart", kind := "StatefulSet", cls := .kvLogical, engine := "redis" }

def cartEnv : Env where
  policy := { spec := { trafficHook := "http://router/hook" } }
  source := { kube := 0 }
  dest := { kube := 1 }
  inventory := [cart]

def cartAction (phase : ActionPhase) (rollback : Bool) : Action :=
  { spec := { type := .cutover, policyRef := "shop", rollback }, status := { phase } }

/-- The pass of an Action on clusters without a cart. -/
def HonestCart (act : Action) (o : Oracle) : Prop :=
  HonestCutover cartEnv act (runCutover cartEnv act o { clusters := fun _ => {}, action := act }).1
    (auditedCutover cartEnv act o { clusters := fun _ => {}, action := act }).1.2

/-- An Action in Promoting goes on to Switching although the scale-up of the cart
found no StatefulSet, and a rollback is reported as done although the hook refused
the connection. -/
theorem runCutover_dishonest : ¬ HonestCart (cartAction .promoting false) {} ∧
    ¬ HonestCart (cartAction .quiescing true) { hook := fun _ => some "connection refused" } := by
  constructor
  · intro honest
    have served : (auditedCutover cartEnv (cartAction .promoting false) {}
        { clusters := fun _ => {}, action := cartAction .promoting false }).1.2.promotions.all
          (·.failed.isNone) = true := by
      simpa using (honest.promoted rfl (by decide +kernel)).2
    exact absurd served (by decide +kernel)
  · intro honest
    exact absurd (honest.rolledBack (by decide +kernel)).1 (by decide +kernel)

end Portage
