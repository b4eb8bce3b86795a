import Portage.Controller.DestinationWrites

/-! Which cluster Policy and Action passes take for the source when its pair cannot be
read, cannot be resolved, or comes back with clients missing. -/
namespace Portage

open Go Kube Process Program

/-! ### The Policy pass -/

/-- What resolving gives a Policy pass: a pair that could not be read is resolved as
none, which is the hub on both sides. -/
def policyOutcome (hub : Hub) (readError : Option String) (outcome : Option (Except String ResolvedPair)) :
    Option (Except String ResolvedPair) :=
  match readError, outcome with
  | none, _ => outcome
  | some _, some _ => some (Resolver.resolve hub (.error "") (.error "") none)
  | some _, none => none

/-- The client that a Policy pass walks with; whatever is missing is the hub's. -/
def policySource (hub : Hub) (readError : Option String) (outcome : Option (Except String ResolvedPair)) :
    ClusterId :=
  match policyOutcome hub readError outcome with
  | some (.ok resolved) => resolved.sourceKube hub
  | _ => hub.kube

/-- The status that a Policy pass stores; a failed walk leaves the inventory alone. -/
def policyPass (hub : Hub) (readError : Option String) (outcome : Option (Except String ResolvedPair))
    (seen : Observed) (pol : Policy) : PolicyStatus :=
  match seen.walk (policySource hub readError outcome) with
  | .error text => { pol.status with phase := .unhealthy, message := text }
  | .ok listed => observeInventory pol (withClusterObjects pol listed)

/-- The stored status describes the resolved source, or nothing new. -/
def PolicySourced (hub : Hub) (readError : Option String) (outcome : Option (Except String ResolvedPair))
    (seen : Observed) (pol : Policy) : Prop :=
  (policyPass hub readError outcome seen pol).inventory = pol.status.inventory ∧
      (policyPass hub readError outcome seen pol).backupHealthy = pol.status.backupHealthy ∨
    ∃ resolved kube listed, outcome = some (.ok resolved) ∧ resolved.source.kube = some kube ∧
      seen.walk kube = .ok listed ∧
      policyPass hub readError outcome seen pol = observeInventory pol (withClusterObjects pol listed)

/-! ### The Action pass -/

/-- An Action pass from the reading of its pair on. -/
def actionPass (hub : Hub) (readError : Option String) (outcome : Option (Except String ResolvedPair))
    (seen : Observed) (base : LiveEnv) (act : Action) : Prog (Except Stop ActionResult) :=
  match readError with
  | some text => pure (.error (.error text))
  | none => livePass hub outcome seen base act

/-- The runner's environment has only clients of the resolved source on the source's
side: those that walk, dump and freeze, and the dynamic one that captures the object graph
and writes ReplicationSources. -/
structure SourcedFrom (resolved : ResolvedPair) (seen : Observed) (env : LiveEnv) : Prop where
  typed : resolved.source.kube = some env.source.kube
  exec : env.source.exec = resolved.source.exec
  own : env.source.dynamic = resolved.source.dynamic
  dynamic : env.sourceDyn = resolved.source.dynamic
  inventory : ∃ listed, seen.walk env.source.kube = .ok listed ∧
    env.inventory = withClusterObjects env.policy listed
  graph : ∀ d, resolved.source.dynamic = some d → env.graph = seen.graph d

def ActionSourced (hub : Hub) (readError : Option String) (outcome : Option (Except String ResolvedPair))
    (seen : Observed) (base : LiveEnv) (act : Action) : Prop :=
  StopsUntouched (actionPass hub readError outcome seen base act) ∨
    ∃ resolved env, outcome = some (.ok resolved) ∧ SourcedFrom resolved seen env ∧
      actionPass hub readError outcome seen base act = liveRun env act

variable {env : LiveEnv} {dyn : ClusterId}

/-- The commands of a Backup, its dumps among them, run with the resolved source's client. -/
theorem SourcedFrom.dumps {resolved : ResolvedPair} {seen : Observed} (sourced : SourcedFrom resolved seen env)
    (o : Oracle) (s : World) :
    Logged o (fun e => ∀ workload c pod container command answer,
      e = .exec workload c pod container command answer → resolved.source.exec = some c) s (runBackup env o s).2 := by
  refine ((moves_runBackup env s).mono fun e logged => ?_).log
  rintro workload c pod container command answer rfl
  cases logged with
  | exec client => exact sourced.exec.symm.trans client

/-- A Cutover scales workloads of the resolved source and of the destination, and no
others. -/
theorem SourcedFrom.scales {resolved : ResolvedPair} {seen : Observed} (sourced : SourcedFrom resolved seen env)
    (act : Action) (o : Oracle) (s : World) :
    Logged o (fun e => ∀ c resource key, e = .wrote (.update c resource key) →
      resolved.source.kube = some c ∨ c = env.dest.kube) s (runCutover env.toEnv act o s).2 := by
  have moves : Moves o (Extends o fun e => ∀ c resource key, e = .wrote (.update c resource key) →
      resolved.source.kube = some c ∨ c = env.dest.kube) (runCutover env.toEnv act) := by
    refine moves_runCutover env.toEnv act fun e logged => ?_
    rintro c resource key rfl
    cases logged with
    | quiet quiet => simp [Event.touches] at quiet
    | froze | unfroze => exact .inl sourced.typed
    | raised => exact .inr rfl
    | promoted due logged =>
      cases logged
      exact .inr rfl
  exact (moves s).log

/-! ### When the source is known -/

/-- Both passes can tell the source: the pair was read and resolved, with a typed client
for the source, and with a dynamic one too wherever the hub has one that would stand in
for it, unless the destination is refused. -/
def SourceKnown (hub : Hub) (pair : ClusterPair) (readError : Option String)
    (outcome : Option (Except String ResolvedPair)) : Prop :=
  readError = none ∧ ∃ resolved kube, outcome = some (.ok resolved) ∧ resolved.source.kube = some kube ∧
    (resolved.source.dynamic ≠ none ∨ hub.dynamic = none ∨
      pair.destHasRemoteAuth = true ∧ (resolved.dest.kube = none ∨ resolved.dest.kube = some kube))

section
variable {hub : Hub} {pair : ClusterPair} {readError : Option String} {resolved : ResolvedPair}
  {kube : ClusterId}

theorem endpoints_resolved (hub : Hub) (typed : resolved.source.kube = some kube) (pair : Option ClusterPair) :
    (∃ text, endpoints hub pair (some (.ok resolved)) = .error text) ∧ remoteDest pair = true ∧
        (resolved.dest.kube = none ∨ resolved.dest.kube = some kube) ∨
      ∃ dest, endpoints hub pair (some (.ok resolved)) = .ok ⟨resolved.source.endpoint kube, dest⟩ ∧
        ¬ (remoteDest pair = true ∧ (resolved.dest.kube = none ∨ resolved.dest.kube = some kube)) := by
  have source : resolved.source.orHub (hub.endpoint (localName pair)) = resolved.source.endpoint kube := by
    simp [Clients.orHub, typed]
  have client : (resolved.source.endpoint kube).kube = kube := rfl
  cases auth : remoteDest pair <;> cases dest : resolved.dest.kube with
  | none => simp [endpoints, source, auth, dest]
  | some other =>
    by_cases same : other = kube <;> simp [endpoints, source, client, auth, dest, same]

theorem policySource_cases (readError : Option String) (outcome : Option (Except String ResolvedPair)) :
    policySource hub readError outcome = hub.kube ∨
      readError = none ∧ ∃ resolved kube, outcome = some (.ok resolved) ∧ resolved.source.kube = some kube := by
  match readError, outcome with
  | some _, none => exact .inl rfl
  | some _, some _ => exact .inl rfl
  | none, none => exact .inl rfl
  | none, some (.error _) => exact .inl rfl
  | none, some (.ok resolved) =>
    cases typed : resolved.source.kube with
    | none => exact .inl (by simp [policySource, policyOutcome, ResolvedPair.sourceKube, typed])
    | some kube => exact .inr ⟨rfl, resolved, kube, rfl, typed⟩

theorem policySourced_of_typed (typed : resolved.source.kube = some kube) (seen : Observed) (pol : Policy) :
    PolicySourced hub none (some (.ok resolved)) seen pol := by
  have source : policySource hub none (some (.ok resolved)) = kube := by
    simp [policySource, policyOutcome, ResolvedPair.sourceKube, typed]
  unfold PolicySourced policyPass
  rw [source]
  cases walked : seen.walk kube with
  | error text => exact .inl ⟨rfl, rfl⟩
  | ok listed => exact .inr ⟨resolved, kube, listed, rfl, typed, walked, rfl⟩

theorem actionSourced_of_known (known : SourceKnown hub pair readError (some (.ok resolved)))
    (seen : Observed) {base : LiveEnv} (paired : base.pair = some pair) (act : Action) :
    ActionSourced hub readError (some (.ok resolved)) seen base act := by
  obtain ⟨rfl, found, kube, same, typed, dynamic⟩ := known
  obtain rfl := Except.ok.inj (Option.some.inj same)
  unfold ActionSourced actionPass livePass
  rw [paired]
  rcases endpoints_resolved hub typed (some pair) with ⟨⟨text, refused⟩, _⟩ | ⟨dest, connected, accepted⟩
  · rw [refused]
    exact .inl fun o s => ⟨_, rfl⟩
  · rw [connected]
    dsimp only
    cases walked : seen.walk (resolved.source.endpoint kube).kube with
    | error text => exact .inl fun o s => ⟨_, rfl⟩
    | ok listed =>
      have own : resolved.source.dynamic.or hub.dynamic = resolved.source.dynamic := by
        rcases dynamic with present | missing | refused
        · obtain ⟨d, found⟩ := Option.ne_none_iff_exists'.mp present
          simp [found]
        · simp [missing]
        · exact absurd refused accepted
      refine .inr ⟨resolved, base.connected hub seen ⟨resolved.source.endpoint kube, dest⟩ listed, rfl, ⟨typed, rfl, rfl, own, ⟨listed, walked, rfl⟩, fun d found => ?_⟩, rfl⟩
      have client : (resolved.source.endpoint kube).dynamic.or hub.dynamic = some d := own.trans found
      simp [LiveEnv.connected, client]

end

/-! ### Passes that give the hub away -/

/-- A workload with one volume, as the walk would list it. -/
def uploads : Workload :=
  { namespace_ := "shop", name := "uploads", kind := "Deployment", cls := .genericPVC, pvcNames := ["uploads"] }

private theorem select_uploads (pair : Option ClusterPair) :
    select (registry pair []) uploads (moverOverride {} uploads .replicate) =
      .ok (some .volsync, { backup := true, replicate := true, restore := true }) := by
  have unpinned : moverOverride {} uploads .replicate = "" := by decide +kernel
  rw [unpinned]
  simp [select, registry, uploads, Mover.supports, Mover.classes, Mover.discover]

private theorem mem_bind {o : Oracle} {s : World} {e : Event} {x : Prog α} {f : α → Prog β}
    (logged : e ∈ (x o s).2.log) (grows : ∀ value, Moves o (Extends o fun _ => True) (f value)) :
    e ∈ ((x >>= f) o s).2.log :=
  (grows (x o s).1 (x o s).2).grows.subset logged

/-- Where the claim of a workload is gone, its pair is given up. -/
private theorem mem_volsyncReplicate {m : VolSync.Mover} {kube : ClusterId} (typed : m.kube = some kube)
    (client : m.dynamic = some dyn) (act : Action) :
    .wrote (.delete dyn .replicationSources ⟨"shop", "portage-uploads"⟩) ∈
      (VolSync.replicate m uploads {} { clusters := fun _ => {}, action := act }).2.log := by
  have missing : VolSync.sourceMissing m "shop" "uploads" {} { clusters := fun _ => {}, action := act } =
      (.ok true, { clusters := fun _ => {}, action := act, calls := 1 }) := by
    simp only [VolSync.sourceMissing, typed]
    rfl
  have volume : VolSync.firstDataPVC uploads.pvcNames = "uploads" := by decide +kernel
  have named : pairName uploads = "portage-uploads" := by decide +kernel
  have namespaced : uploads.namespace_ = "shop" := rfl
  unfold VolSync.replicate
  rw [client]
  dsimp only
  rw [if_neg (by decide), volume, if_neg (by decide)]
  show _ ∈ (andThen (VolSync.sourceMissing m "shop" "uploads") _ _ _).2.log
  unfold andThen
  rw [bind_run, missing]
  dsimp only
  rw [if_pos rfl, map_run]
  unfold deletePair
  rw [if_neg (by decide +kernel)]
  refine mem_bind (mem_bind ?_ fun _ => moves_pure _) fun _ => ?_
  · rw [deleteSource, (send_kept ..).2]
    simp [named, namespaced]
  · cases m.destDyn with
    | none => exact moves_pure _
    | some c => exact moves_bind (moves_send trivial) fun _ => moves_pure _

private theorem mem_replicateStep (policy : env.policy = {}) (plugins : env.plugins = [])
    (client : env.sourceDyn = some dyn) (act : Action) (graph : GraphSeen) :
    .wrote (.delete dyn .replicationSources ⟨"shop", "portage-uploads"⟩) ∈
      (replicateStepWith env.calls env.toEnv graph {} uploads {} { clusters := fun _ => {}, action := act }).2.log := by
  have stateful : uploads.cls ≠ .stateless := by decide
  have plain : uploads.isObjectGraph = false := by decide +kernel
  have selected : select env.movers uploads (moverOverride env.policy uploads .replicate) =
      .ok (some .volsync, { backup := true, replicate := true, restore := true }) := by
    rw [policy, Env.movers, plugins]
    exact select_uploads _
  have replicated : .wrote (.delete dyn .replicationSources ⟨"shop", "portage-uploads"⟩) ∈
      (env.replicate .volsync uploads {} { clusters := fun _ => {}, action := act }).2.log := by
    have typed : env.volsync.kube = some env.source.kube := rfl
    have dynamic : env.volsync.dynamic = some dyn := client
    show _ ∈ ((LiveEnv.failure <$> VolSync.replicate env.volsync uploads) _ _).2.log
    rw [map_run]
    exact mem_volsyncReplicate typed dynamic act
  unfold replicateStepWith
  rw [if_neg stateful, if_neg (by simp [plain]), selected]
  refine mem_bind replicated fun answer => ?_
  cases answer with
  | some text => exact moves_pure _
  | none => exact moves_bind (moves_liveProbe env uploads (fun _ _ => trivial) .volsync) fun _ => moves_pure _

private theorem mem_runReplicate (policy : env.policy = {}) (plugins : env.plugins = [])
    (inventory : env.inventory = [uploads]) (client : env.sourceDyn = some dyn) (act : Action) :
    .wrote (.delete dyn .replicationSources ⟨"shop", "portage-uploads"⟩) ∈
      (env.runReplicate act {} { clusters := fun _ => {}, action := act }).2.log := by
  have graphs : [uploads].filter Workload.isObjectGraph = [] := by decide +kernel
  unfold LiveEnv.runReplicate runReplicateWith
  rw [inventory, graphs, bind_run]
  exact mem_bind (mem_bind (mem_replicateStep policy plugins client act {}) fun _ => moves_pure _) fun _ =>
    moves_bind (moves_pruneVolSync env.toEnv fun _ _ => trivial) fun _ => moves_pure _

private theorem dynamic_of_deletes {m : VolSync.Mover} {w : Workload} {req : Request} (sends : m.Sends w req)
    {c : ClusterId} {key : ObjKey} (same : req = .delete c .replicationSources key) : m.dynamic = some c := by
  cases sends with
  | source client kind =>
    rename_i verb resource key'
    cases verb <;> simp only [Side.request, reduceCtorEq] at same
    cases same
    simp [VolSync.sourceKinds] at kind
  | sourceHalf verb client =>
    cases verb <;> simp only [Side.request, reduceCtorEq] at same
    cases same
    exact client
  | dest | destHalf | misplacedSource => simp [Side.request] at same
  | dropped | misplacedDest => simp at same

/-- Without a dynamic client for the source no ReplicationSource is deleted. -/
private theorem not_mem_runReplicate (own : env.source.dynamic = none) (client : env.sourceDyn = none) (act : Action)
    (o : Oracle) (c : ClusterId) (key : ObjKey) :
    .wrote (.delete c .replicationSources key) ∉
      (env.runReplicate act o { clusters := fun _ => {}, action := act }).2.log := by
  have other {w : Workload} (e : Event) (logged : MoverEvent env w e) :
      ∀ c key, e ≠ .wrote (.delete c .replicationSources key) := by
    rintro c key rfl
    generalize same : Event.wrote (.delete c .replicationSources key) = e at logged
    cases logged with
    | volsync sends =>
      have dynamic := dynamic_of_deletes sends (Event.wrote.inj same).symm
      exact absurd (client.symm.trans dynamic) (by simp)
    | standby does => cases does <;> simp [Side.request] at same
    | saw | moved => simp at same
  have moves : Moves o (Extends o fun e => ∀ c key, e ≠ .wrote (.delete c .replicationSources key))
      (env.runReplicate act) := by
    refine moves_runReplicateWith env.toEnv (fun m _ w _ => moves_liveReplicate env w other m)
      (fun m _ w _ => moves_liveProbe env w other m) (fun _ _ _ _ _ => by simp) (fun req asked => ?_) act
    cases asked with
    | source client => simp [own] at client
    | dest => simp
  intro logged
  obtain ⟨_, added, log, all, _⟩ := moves { clusters := fun _ => {}, action := act }
  rw [log] at logged
  exact all _ (by simpa using logged) c key rfl

/-! ### The source of both passes -/

section
variable {hub : Hub} {pair : ClusterPair} {readError : Option String}

/-- A Policy pass that walks the hub stores what is there. -/
private theorem policySource_ne_hub {outcome : Option (Except String ResolvedPair)}
    (apart : ∀ resolved, outcome = some (.ok resolved) → resolved.source.kube ≠ some hub.kube)
    (policies : ∀ seen pol, PolicySourced hub readError outcome seen pol) :
    policySource hub readError outcome ≠ hub.kube := by
  intro same
  rcases policies { walk := fun c => if c = hub.kube then .ok [ordersDB] else .error "" } {} with
    ⟨unchanged, _⟩ | ⟨resolved, kube, listed, resolves, typed, walked, _⟩
  · simp [policyPass, same, observeInventory, withClusterObjects] at unchanged
  · by_cases here : kube = hub.kube
    · exact apart resolved resolves (by rw [typed, here])
    · simp [here] at walked

/-- A missing dynamic client is replaced by the hub's, which then gives up a pair there. -/
private theorem not_actionSourced {resolved : ResolvedPair} {kube d : ClusterId}
    (typed : resolved.source.kube = some kube) (missing : resolved.source.dynamic = none)
    (other : hub.dynamic = some d)
    (accepted : ¬ (pair.destHasRemoteAuth = true ∧
      (resolved.dest.kube = none ∨ resolved.dest.kube = some kube))) :
    ∃ seen base act, base.pair = some pair ∧ ¬ ActionSourced hub none (some (.ok resolved)) seen base act := by
  rcases endpoints_resolved hub typed (some pair) with ⟨_, refused⟩ | ⟨dest, connected, _⟩
  · exact absurd refused accepted
  let seen : Observed := { walk := fun _ => .ok [uploads] }
  let base : LiveEnv := { pair := some pair, source := resolved.source.endpoint kube, dest }
  let act : Action := { spec := { type := .replicate } }
  let env := base.connected hub seen ⟨resolved.source.endpoint kube, dest⟩ [uploads]
  have ran : actionPass hub none (some (.ok resolved)) seen base act = .ok <$> env.runReplicate act := by
    show livePass hub (some (.ok resolved)) seen base act = _
    unfold livePass
    rw [connected]
    rfl
  have client : env.sourceDyn = some d := by
    show resolved.source.dynamic.or hub.dynamic = some d
    simp [missing, other]
  have logged : _ ∈ (env.runReplicate act {} _).2.log := mem_runReplicate rfl rfl rfl client act
  refine ⟨seen, base, act, rfl, ?_⟩
  rintro (stops | ⟨found, env', same, sourced, again⟩)
  · obtain ⟨text, stopped⟩ := stops {} { clusters := fun _ => {}, action := act }
    rw [ran, map_run] at stopped
    rw [(Prod.mk.inj stopped).2] at logged
    simp at logged
  · obtain rfl := Except.ok.inj (Option.some.inj same)
    refine not_mem_runReplicate (sourced.own.trans missing) (sourced.dynamic.trans missing) act {} d
      ⟨"shop", "portage-uploads"⟩ ?_
    have runs := congrArg (fun program => (program {} { clusters := fun _ => {}, action := act }).2)
      (ran.symm.trans again)
    have worlds : (env.runReplicate act {} { clusters := fun _ => {}, action := act }).2 =
        (env'.runReplicate act {} { clusters := fun _ => {}, action := act }).2 := runs
    rw [← worlds]
    exact logged

end

/-- A source with credentials of its own has clients of its own. Then no pass takes the
hub for the source, exactly if the source is known. -/
theorem sourced_iff_sourceKnown (hub : Hub) (pair : ClusterPair) (remote : pair.sourceHasRemoteAuth = true)
    (readError : Option String) (outcome : Option (Except String ResolvedPair))
    (fresh : pair.sourceHasRemoteAuth = true → ∀ resolved, outcome = some (.ok resolved) →
      resolved.source.kube ≠ some hub.kube) :
    ((∀ seen pol, PolicySourced hub readError outcome seen pol) ∧
        ∀ seen base act, base.pair = some pair → ActionSourced hub readError outcome seen base act) ↔
      SourceKnown hub pair readError outcome := by
  constructor
  · rintro ⟨policies, actions⟩
    have apart := fresh remote
    have hidden := policySource_ne_hub apart policies
    obtain ⟨rfl, resolved, kube, rfl, typed⟩ := (policySource_cases readError outcome).resolve_left hidden
    refine ⟨rfl, resolved, kube, rfl, typed, ?_⟩
    by_contra unknown
    obtain ⟨missing, present, accepted⟩ := not_or.mp unknown |>.imp_right not_or.mp
    obtain ⟨d, other⟩ := Option.ne_none_iff_exists'.mp present
    obtain ⟨seen, base, act, paired, treated⟩ :=
      not_actionSourced typed (not_not.mp missing) other accepted
    exact treated (actions seen base act paired)
  · intro known
    have ⟨unread, resolved, kube, resolves, typed, _⟩ := known
    subst unread resolves
    exact ⟨policySourced_of_typed typed, fun seen base act paired => actionSourced_of_known known seen paired act⟩

/-! A pair whose source is reached with a kubeconfig and whose destination is the hub. -/

def remoteSource : ClusterPair := { sourceName := "eu", destName := "hub", sourceAuth := [.kubeconfigSecret] }

/-- The kubeconfig yields all clients of the source. -/
theorem sourced_remoteSource :
    (∀ seen pol, PolicySourced hubClients none
        (some (Resolver.resolve hubClients (.ok { kube := some 1, dynamic := some 1 }) (.error "") (some remoteSource)))
        seen pol) ∧
      ∀ seen base act, base.pair = some remoteSource → ActionSourced hubClients none
        (some (Resolver.resolve hubClients (.ok { kube := some 1, dynamic := some 1 }) (.error "") (some remoteSource)))
        seen base act := by
  refine (sourced_iff_sourceKnown hubClients remoteSource (by decide) none _ fun _ resolved same => ?_).mpr
    ⟨rfl, _, 1, rfl, rfl, .inl (by simp)⟩
  cases same
  decide

/-- The kubeconfig's Secret cannot be read: the Policy pass stores the hub's workloads as
the source's. -/
theorem not_sourced_unresolved :
    remoteSource.sourceHasRemoteAuth = true ∧
      ¬ PolicySourced hubClients none
        (some (Resolver.resolve hubClients (.error "secrets \"eu\" not found") (.error "") (some remoteSource)))
        { walk := fun c => if c = 0 then .ok [ordersDB] else .ok [] } {} := by
  refine ⟨by decide, ?_⟩
  rintro (⟨unchanged, _⟩ | ⟨resolved, kube, listed, resolves, _⟩)
  · revert unchanged
    decide +kernel
  · cases resolves

end Portage
