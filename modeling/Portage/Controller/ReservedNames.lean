import Portage.Controller.BackupWindows

/-! Reconciles of several Policies at once. Each looks for its Actions by names that are
cut from the Policy's own, and takes what it finds there for its own. -/
namespace Portage

open Go Kube Process Program

/-- Where a reconcile looks for its Actions. -/
def PolicyPass.keys (pass : PolicyPass) : List ObjKey :=
  pass.policy.replicaKey :: ((if pass.restores then [pass.policy.restoreKey] else []) ++
    pass.period.toList.map (pass.policy.backupKey pass.now))

/-- What the name of a Backup is cut from, behind its first word. -/
def PolicyPass.slot (pass : PolicyPass) (d : Duration) : List Char :=
  pass.policy.name.toList ++ '-' :: slotText d pass.now

/-- In one namespace, the names of the two Policies differ in the characters that the
names of their Actions keep. -/
structure PolicyPass.NamesApart (a b : PolicyPass) : Prop where
  replicas : a.policy.namespace_ = b.policy.namespace_ →
    a.policy.name.toList.take 53 ≠ b.policy.name.toList.take 53
  restores : a.policy.namespace_ = b.policy.namespace_ → a.restores = true → b.restores = true →
    a.policy.name.toList.take 50 ≠ b.policy.name.toList.take 50
  backups : a.policy.namespace_ = b.policy.namespace_ → ∀ d ∈ a.period, ∀ e ∈ b.period,
    (a.slot d).take 56 ≠ (b.slot e).take 56

/-! ### Names -/

section
variable {pol other : Policy}

theorem restoreKey_ne_replicaKey : pol.restoreKey ≠ other.replicaKey := by
  intro same
  have third := congrArg (fun key => (key.name.toList.drop 2).head?) same
  simp [Policy.restoreKey, Policy.replicaKey, autoRestoreName, replicateName, cutName] at third

theorem replicaKey_inj (same : pol.replicaKey = other.replicaKey) :
    pol.namespace_ = other.namespace_ ∧ pol.name.toList.take 53 = other.name.toList.take 53 := by
  simpa [Policy.replicaKey, replicateName, cutName, String.ofList_inj, List.take_append] using same

theorem restoreKey_inj (same : pol.restoreKey = other.restoreKey) :
    pol.namespace_ = other.namespace_ ∧ pol.name.toList.take 50 = other.name.toList.take 50 := by
  simpa [Policy.restoreKey, autoRestoreName, cutName, String.ofList_inj, List.take_append] using same

end

variable {a b pass : PolicyPass} {key : ObjKey}

theorem backupKey_inj {d e : Duration} (same : a.policy.backupKey a.now d = b.policy.backupKey b.now e) :
    a.policy.namespace_ = b.policy.namespace_ ∧ (a.slot d).take 56 = (b.slot e).take 56 := by
  have shape (pass : PolicyPass) (d : Duration) :
      ("backup-" ++ pass.policy.name ++ "-" ++ itoa (unix (truncate pass.now d))).toList =
        "backup-".toList ++ pass.slot d := by
    simp [PolicyPass.slot, slotText]
  obtain ⟨space, name⟩ := ObjKey.mk.inj same
  refine ⟨space, ?_⟩
  rw [rpoBackupName, rpoBackupName, cutName, cutName, String.ofList_inj, shape, shape] at name
  simpa using name

theorem PolicyPass.mem_keys : key ∈ pass.keys ↔ key = pass.policy.replicaKey ∨
    (pass.restores = true ∧ key = pass.policy.restoreKey) ∨
      ∃ d ∈ pass.period, key = pass.policy.backupKey pass.now d := by
  simp only [PolicyPass.keys, List.mem_cons, List.mem_append, List.mem_ite_nil_right, List.not_mem_nil, or_false,
    List.mem_map, Option.mem_toList, Option.mem_def, eq_comm (b := key)]

/-- Policies that are told apart look for their Actions in different places. -/
theorem PolicyPass.NamesApart.keys (apart : a.NamesApart b) (own : key ∈ a.keys) : key ∉ b.keys := by
  intro shared
  rcases mem_keys.mp own with rfl | ⟨restores, rfl⟩ | ⟨d, period, rfl⟩ <;>
    rcases mem_keys.mp shared with same | ⟨restores', same⟩ | ⟨e, period', same⟩
  · exact apart.replicas (replicaKey_inj same).1 (replicaKey_inj same).2
  · exact restoreKey_ne_replicaKey same.symm
  · exact backupKey_ne_replicaKey _ _ _ _ same.symm
  · exact restoreKey_ne_replicaKey same
  · exact apart.restores (restoreKey_inj same).1 restores restores' (restoreKey_inj same).2
  · exact backupKey_ne_restoreKey _ _ _ _ same.symm
  · exact backupKey_ne_replicaKey _ _ _ _ same
  · exact backupKey_ne_restoreKey _ _ _ _ same
  · exact apart.backups (backupKey_inj same).1 d period e period' (backupKey_inj same).2

/-! ### The calls of one reconcile -/

/-- A call about one of the Actions of a reconcile, which creates only for its Policy. -/
def PolicyPass.Owns (pass : PolicyPass) (request : HubRequest) : Prop :=
  request.key ∈ pass.keys ∧
    ∀ key desired, request = .create key desired → desired.action.spec.policyRef = pass.policy.name

private theorem owns_about (own : key ∈ pass.keys) (request : HubRequest)
    (about : Reserved.About key pass.policy.name request) : pass.Owns request :=
  ⟨about.1 ▸ own, about.2⟩

theorem PolicyPass.owns (pass : PolicyPass) : (Reserved.reserve pass).Calls pass.Owns := by
  have restore : (Reserved.maybeAutoRestore pass).Calls pass.Owns := by
    unfold Reserved.maybeAutoRestore
    split
    · rename_i restores
      exact (Reserved.calls_createMissing rfl).mono (owns_about (mem_keys.mpr (.inr (.inl ⟨restores, rfl⟩))))
    · exact .pure _
  have backup : (Reserved.maybeBackup pass).Calls pass.Owns := by
    cases period : pass.period with
    | none =>
      rw [Reserved.maybeBackup, period]
      exact .pure _
    | some d =>
      rw [Reserved.maybeBackup_eq period]
      exact (Reserved.calls_scheduled pass d).mono (owns_about (mem_keys.mpr (.inr (.inr ⟨d, period, rfl⟩))))
  have replicate : (Reserved.maybeReplicate pass.policy pass.replicate).Calls pass.Owns :=
    (Reserved.calls_maybeReplicate _ _).mono (owns_about (mem_keys.mpr (.inl rfl)))
  exact .bind restore fun _ => .bind backup fun _ => .bind replicate fun _ => .pure _

/-- What is stored was there before a call, up to its labels, or the call creates it. -/
private def Explained (request : HubRequest) (before slot : Option HubAction) : Prop :=
  ∀ stored, slot = some stored →
    (∃ was, before = some was ∧ was.action = stored.action) ∨ request = .create request.key stored

theorem HubRequest.serve_origin (request : HubRequest) (o : HubOracle) (s : HubWorld) {stored : HubAction}
    (found : (request.serve o s).2.hub key = some stored) :
    (∃ was, s.hub key = some was ∧ was.action = stored.action) ∨ request = .create key stored := by
  by_cases own : key = request.key
  · subst own
    have unchanged : Explained request (s.hub request.key) (s.hub request.key) :=
      fun stored found => .inl ⟨stored, found, rfl⟩
    cases request with
    | get key => exact unchanged stored found
    | update key labels =>
      refine keeps_putAction _ (fun before after holds changed stored found => ?_) s unchanged stored found
      cases before with
      | none => cases changed
      | some was =>
        cases changed
        cases found
        exact (holds was rfl).imp_right fun other => by cases other
    | delete key =>
      refine keeps_putAction _ (fun before after _ changed stored found => ?_) s unchanged stored found
      cases before with
      | none => cases changed
      | some was =>
        cases changed
        cases found
    | create key desired =>
      refine keeps_putAction _ (fun before after _ changed stored found => ?_) s unchanged stored found
      cases before with
      | none =>
        cases changed
        cases found
        exact .inr rfl
      | some was => cases changed
  · rw [request.serve_elsewhere o s own] at found
    exact .inl ⟨stored, found, rfl⟩

/-! ### Any number of reconciles at once -/

abbrev PolicyPool := Pool HubWorld PolicyPass HubRequest HubRequest.Reply Unit

/-- Interleavings of the calls of reconciles. -/
abbrev PolicyRuns (start : PolicyPool) := Pool.Runs Reserved.reserve HubRequest.serve start

abbrev PolicyStep := Step PolicyPool (PoolTurn PolicyPass HubOracle) PolicyPool

/-- The reconciles that begin in a run. -/
def begun (steps : List PolicyStep) : List PolicyPass :=
  steps.filterMap fun step =>
    match step.input with
    | .start _ pass => some pass
    | .step _ _ => none

/-- A turn in which no Action of the other Policy stands where the call looks, so that
none is deleted, relabelled or taken for the own, and all of them stay as they are. -/
structure SparesPolicy (other : String) (step : PolicyStep) : Prop where
  meets : ∀ request ∈ step.before.called step.input, ∀ stored,
    step.before.world.hub request.key = some stored → stored.action.spec.policyRef ≠ other
  leaves : ∀ key stored, step.before.world.hub key = some stored → stored.action.spec.policyRef = other →
    step.output.world.hub key = some stored

theorem mem_begun {steps : List PolicyStep} :
    pass ∈ begun steps ↔ ∃ step ∈ steps, ∃ id, step.input = .start id pass := by
  rw [begun, List.mem_filterMap]
  refine exists_congr fun step => and_congr_right fun _ => ?_
  cases step.input <;> simp

section
variable {start state : PolicyPool} {steps : List PolicyStep} (run : PolicyRuns start steps state)
variable (idle : ∀ id, start.threads id = none)
include run idle

/-- The call that a reconcile makes next is about its own Actions. -/
theorem owns_next {id : Nat} {pass : PolicyPass} {request : HubRequest} {next : request.Reply → HubThread Unit}
    (running : state.threads id = some (pass, .call request next)) : pass ∈ begun steps ∧ pass.Owns request := by
  obtain ⟨step, member, started⟩ := Pool.Runs.started run idle running
  exact ⟨mem_begun.mpr ⟨step, member, id, started⟩,
    (Pool.Runs.calls_own run idle PolicyPass.owns running).1⟩

/-- An Action refers to the Policy that it referred to at the start, or to one whose
reconcile has made it. -/
theorem stored_origin {key : ObjKey} {stored : HubAction} (found : state.world.hub key = some stored) :
    (∃ first, start.world.hub key = some first ∧ first.action.spec.policyRef = stored.action.spec.policyRef) ∨
      ∃ pass ∈ begun steps, pass.policy.name = stored.action.spec.policyRef ∧ key ∈ pass.keys := by
  induction run generalizing stored with
  | nil => exact .inl ⟨stored, found, rfl⟩
  | @snoc steps state turn after earlier taken ih =>
    have grown {pass : PolicyPass} (member : pass ∈ begun steps) : pass ∈ begun (steps ++ [⟨state, turn, after⟩]) := by
      rw [begun, List.filterMap_append]
      exact List.mem_append_left _ member
    have before {was : HubAction} (there : state.world.hub key = some was) (same : was.action = stored.action) :
        (∃ first, start.world.hub key = some first ∧ first.action.spec.policyRef = stored.action.spec.policyRef) ∨
          ∃ pass ∈ begun (steps ++ [⟨state, turn, after⟩]),
            pass.policy.name = stored.action.spec.policyRef ∧ key ∈ pass.keys := by
      rw [← same]
      exact (ih there).imp_right fun made => made.imp fun pass holds => ⟨grown holds.1, holds.2⟩
    cases Pool.act_taken taken with
    | started free => exact before found rfl
    | @served id o pass request next running =>
      rcases request.serve_origin o state.world found with ⟨was, there, same⟩ | rfl
      · exact before there same
      · obtain ⟨member, owns⟩ := owns_next earlier idle running
        exact .inr ⟨pass, grown member, (owns.2 key stored rfl).symm, owns.1⟩

end

/-- However the calls of the reconciles interleave and fail: if the names tell the
Policies apart, and no Action of the other Policy stood where they look at the start,
a reconcile of one Policy never touches or meets an Action of the other. -/
theorem run_spares {start state : PolicyPool} {steps : List PolicyStep} (run : PolicyRuns start steps state)
    (idle : ∀ id, start.threads id = none) {other : String}
    (apart : ∀ a ∈ begun steps, ∀ b ∈ begun steps, a.policy.name ≠ other → b.policy.name = other → a.NamesApart b)
    (clean : ∀ a ∈ begun steps, a.policy.name ≠ other → ∀ key ∈ a.keys, ∀ stored,
      start.world.hub key = some stored → stored.action.spec.policyRef ≠ other) :
    ∀ step ∈ steps, ∀ id o pass thread, step.input = .step id o → step.before.threads id = some (pass, thread) →
      pass.policy.name ≠ other → SparesPolicy other step := by
  rintro ⟨pool, turn, after⟩ member id o pass thread rfl running different
  obtain ⟨earlier, later, split⟩ := List.append_of_mem member
  obtain ⟨before, taken⟩ := run.reached earlier later _ split
  have sooner {pass : PolicyPass} (inside : pass ∈ begun earlier) : pass ∈ begun steps := by
    rw [split, begun, List.filterMap_append]
    exact List.mem_append_left _ inside
  have turned := Pool.act_taken taken
  dsimp only at turned
  cases turned with
  | @served _ _ job request next stepping =>
    obtain ⟨rfl, -⟩ := Prod.mk.inj (Option.some.inj (stepping.symm.trans running))
    obtain ⟨own, owns⟩ := owns_next before idle stepping
    have free : ∀ stored, pool.world.hub request.key = some stored → stored.action.spec.policyRef ≠ other := by
      intro stored found refers
      rcases stored_origin before idle found with ⟨first, there, same⟩ | ⟨maker, made, name, shared⟩
      · exact clean job (sooner own) different request.key owns.1 first there (same.trans refers)
      · exact (apart job (sooner own) maker (sooner made) different (name.trans refers)).keys owns.1 shared
    constructor
    · intro called calls
      obtain rfl : request = called := by simpa [Pool.called, stepping, Thread.pending] using calls
      exact free
    · intro key stored found refers
      have elsewhere : key ≠ request.key := by
        rintro rfl
        exact free stored found refers
      exact (request.serve_elsewhere o pool.world elsewhere).trans found

/-! ### Two Policies with short and two with long names -/

def carts : Policy := { namespace_ := "shop", name := "carts" }

def blue : Policy := { namespace_ := "shop", name := ledgerData.name ++ "-blue" }

def green : Policy := { namespace_ := "shop", name := ledgerData.name ++ "-green" }

def noActions : PolicyPool := { world := { hub := fun _ => none } }

/-- Two reconciles at once, each of which makes its live Replicate. -/
private def bothLive : List (PoolTurn PolicyPass HubOracle) :=
  [.start 0 { policy := tills, replicate := true }, .start 1 { policy := carts, replicate := true },
    .step 0 {}, .step 1 {}, .step 1 {}, .step 0 {}]

private theorem tills_apart (first : a.policy = tills) (second : b.policy = carts) (quiet : a.restores = false)
    (unscheduled : a.period = none) : a.NamesApart b where
  replicas _ := by
    rw [first, second]
    decide
  restores _ restores := by
    rw [quiet] at restores
    cases restores
  backups _ d period := by
    rw [unscheduled] at period
    cases period

theorem run_spares_tills : ∃ steps state, PolicyRuns noActions steps state ∧
    state.world.hub tills.replicaKey = some tills.replica ∧ state.world.hub carts.replicaKey = some carts.replica ∧
    ∀ step ∈ steps, ∀ id o pass thread, step.input = .step id o → step.before.threads id = some (pass, thread) →
      pass.policy.name ≠ carts.name → SparesPolicy carts.name step := by
  obtain ⟨steps, state, run, first, second, inputs⟩ : ∃ steps state, PolicyRuns noActions steps state ∧
      state.world.hub tills.replicaKey = some tills.replica ∧ state.world.hub carts.replicaKey = some carts.replica ∧
      ∀ a ∈ begun steps, (a.policy = tills ∨ a.policy = carts) ∧ a.restores = false ∧ a.period = none :=
    Run.exists_of_execute bothLive (by decide +kernel)
  refine ⟨steps, state, run, first, second, run_spares run (fun _ => rfl) ?_ fun _ _ _ _ _ _ there => by cases there⟩
  intro a inside b member different other
  obtain ⟨known, quiet, unscheduled⟩ := inputs a inside
  have tilling : a.policy = tills := known.resolve_right fun carting => different (by rw [carting])
  have carting : b.policy = carts := (inputs b member).1.resolve_left fun tilling => by
    rw [tilling] at other
    exact absurd other (by decide)
  exact tills_apart tilling carting quiet unscheduled

/-- A reconcile begins and makes two calls, with no other turn between them. -/
private theorem two_calls {start pool : PolicyPool} {steps : List PolicyStep} (run : PolicyRuns start steps pool)
    {id : Nat} (free : pool.threads id = none) {first second : HubRequest} {next : first.Reply → HubThread Unit}
    {last : second.Reply → HubThread Unit} (opens : Reserved.reserve pass = .call first next)
    (goes : next (first.serve {} pool.world).1 = .call second last) :
    ∃ earlier between after, PolicyRuns start (earlier ++ [⟨between, .step id {}, after⟩]) after ∧
      between.threads id = some (pass, .call second last) ∧ between.world = (first.serve {} pool.world).2 ∧
      after.world = (second.serve {} between.world).2 ∧ ∀ other ≠ id, after.threads other = pool.threads other := by
  have begins : Pool.act Reserved.reserve HubRequest.serve pool (.start id pass) = some _ := Pool.act_started free
  rw [opens] at begins
  have calls := (run.snoc begins).snoc (Pool.act_served {} (Function.update_self ..))
  dsimp only at calls
  rw [goes] at calls
  have ends := calls.snoc (Pool.act_served {} (Function.update_self ..))
  refine ⟨_, _, _, ends, Function.update_self .., rfl, rfl, ?_⟩
  intro other different
  simp [different]

section
variable (p q : Policy)

/-- The live Replicate that a Policy's reconcile makes in a hub without Actions. -/
private theorem reserve_creates : ∃ next last, Reserved.reserve { policy := p, replicate := true } =
      .call (.get p.replicaKey) next ∧
    next (.error (actionNotFound p.replicaKey)) = .call (.create p.replicaKey p.replica) last :=
  ⟨_, _, rfl, rfl⟩

/-- A Policy that does not replicate deletes what it takes for its live Replicate. -/
private theorem reserve_deletes : ∃ next last, Reserved.reserve { policy := q } = .call (.get q.replicaKey) next ∧
    next (.ok p.replica) = .call (.delete q.replicaKey) last :=
  ⟨_, _, rfl, rfl⟩

variable {p q}

/-- Of two Policies whose Actions have one name, the one that does not replicate deletes
the other's. -/
theorem run_takes (same : q.replicaKey = p.replicaKey) : ∃ steps state, PolicyRuns noActions steps state ∧
    ∃ step ∈ steps, ∃ id o pass thread, step.input = .step id o ∧
      step.before.threads id = some (pass, thread) ∧ pass.policy.name = q.name ∧ ¬ SparesPolicy p.name step := by
  obtain ⟨_, _, opens, goes⟩ := reserve_creates p
  have empty : PolicyRuns noActions [] noActions := .nil
  have free : noActions.threads 0 = none := rfl
  obtain ⟨_, _, after, run, _, read, made, others⟩ := two_calls empty free opens goes
  have stored : after.world.hub p.replicaKey = some p.replica := by
    rw [made, read]
    exact ActionHub.put_self _ _ _
  have answer : ((HubRequest.get q.replicaKey).serve {} after.world).1 = .ok p.replica := by
    rw [same]
    simp [HubRequest.serve, getAction, stored]
  obtain ⟨_, _, opens, goes⟩ := reserve_deletes p q
  rw [← answer] at goes
  obtain ⟨_, between, last, run, running, read, gone, _⟩ := two_calls run (others 1 (by decide)) opens goes
  have there : between.world.hub p.replicaKey = some p.replica := by
    rw [read]
    exact stored
  have absent : last.world.hub p.replicaKey = none := by
    rw [gone, same]
    simp [HubRequest.serve, deleteAction, putAction, there]
  refine ⟨_, last, run, _, List.mem_append_right _ (List.mem_singleton_self _), 1, {}, _, _, rfl, running, rfl, ?_⟩
  intro spares
  have kept := spares.leaves _ _ there rfl
  rw [absent] at kept
  cases kept

end

private theorem green_key : green.replicaKey = blue.replicaKey := by
  have names : replicateName green.name = replicateName blue.name := by
    rw [replicateName, replicateName, cutName, cutName, String.ofList_inj]
    decide
  rw [Policy.replicaKey, names]
  rfl

/-- Live replication is on for one Policy and off for another, and their names begin
with the same 53 characters: the second deletes the Action of the first. -/
theorem run_takes_blue : legalName blue.name = true ∧ legalName green.name = true ∧ blue.name ≠ green.name ∧
    ∃ steps state, PolicyRuns noActions steps state ∧
      ∃ step ∈ steps, ∃ id o pass thread, step.input = .step id o ∧
        step.before.threads id = some (pass, thread) ∧ pass.policy.name = green.name ∧ ¬ SparesPolicy blue.name step :=
  ⟨by decide, by decide, by decide, run_takes green_key⟩

end Portage
