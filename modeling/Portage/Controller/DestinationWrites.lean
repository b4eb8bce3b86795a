import Portage.Clusters.Endpoints
import Portage.Controller.Backup
import Portage.Controller.Cutover
import Portage.Controller.Restore

/-! An Action pass from the resolving of its clients on, and where its writes for the
destination go when the destination has credentials of its own. -/
namespace Portage

open Go Kube Process Program

/-- What a pass sees of the clusters through a client: the workloads, and the object
graph. -/
structure Observed where
  walk : ClusterId → Except String (List Workload) := fun _ => .ok []
  graph : ClusterId → Except String (List String) := fun _ => .ok []

/-- The environment of a pass whose clients are resolved. -/
def LiveEnv.connected (base : LiveEnv) (hub : Hub) (seen : Observed) (ends : Ends)
    (inventory : List Workload) : LiveEnv :=
  { base with
    source := ends.source, dest := ends.dest, fallback := hub.dynamic
    inventory := withClusterObjects base.policy inventory
    graph := match ends.source.dynamic.or hub.dynamic with
      | some c => seen.graph c
      | none => .ok [] }

/-- Call the runner for the Action's type. -/
def liveRun (env : LiveEnv) (act : Action) : Prog (Except Stop ActionResult) :=
  match act.spec.type with
  | .backup => Except.mapError .error <$> runBackup env
  | .restore => runRestore env.toEnv act
  | .replicate => .ok <$> env.runReplicate act
  | .cutover => .ok <$> runCutover env.toEnv act

/-- A pass over one Action, up to the storing of its result. -/
def livePass (hub : Hub) (outcome : Option (Except String ResolvedPair)) (seen : Observed)
    (base : LiveEnv) (act : Action) : Prog (Except Stop ActionResult) :=
  match endpoints hub base.pair outcome with
  | .error text => pure (.error (.error ("resolve ClusterPair: " ++ text)))
  | .ok ends =>
    match seen.walk ends.source.kube with
    | .error text => pure (.error (.error ("classify: " ++ text)))
    | .ok inventory => liveRun (base.connected hub seen ends inventory) act

/-! ### Writes that belong on the destination -/

/-- The client of an event that writes what belongs on the destination: the objects of
replication and standbys, ReplicationDestinations that are given up, the object graph,
and all that a Restore writes. -/
def Kube.Event.destClient (type : ActionType) : Event → Option ClusterId
  | .wrote (.place _ c _ _) => some c
  | .wrote (.delete c .replicationDestinations _) => some c
  | .wrote (.create c _ _) | .wrote (.update c _ _) | .wrote (.delete c _ _) =>
    if type = .restore then some c else none
  | .synced c objects => if objects.isEmpty then none else some c
  | _ => none

/-- No write of the program that belongs on the destination goes to the cluster of
`source`. -/
def SparesSource (address : ClusterId → κ) (type : ActionType) (source : ClusterId) (x : Prog α) : Prop :=
  ∀ o s, ∃ events, (x o s).2.log = s.log ++ events ∧
    ∀ e ∈ events, ∀ c, e.destClient type = some c → address c ≠ address source

/-- An event whose write for the destination, if it is one, uses one of the given clients. -/
def Uses (type : ActionType) (clients : ClusterId → Prop) (e : Event) : Prop :=
  ∀ c, e.destClient type = some c → clients c

section
variable {type : ActionType} {clients : ClusterId → Prop}

theorem uses_other {e : Event} (other : e.destClient type = none) : Uses type clients e := by
  intro c used
  rw [other] at used
  contradiction

theorem uses_synced {c : ClusterId} {objects : List String} (client : clients c) :
    Uses type clients (.synced c objects) := by
  intro used same
  simp only [Event.destClient] at same
  split at same
  · contradiction
  · obtain rfl := Option.some.inj same
    exact client

/-- Whatever a write is for, it uses the client that it goes to. -/
theorem uses_wrote {req : Request} {c : ClusterId} (on : req.cluster = some c) (client : clients c) :
    Uses type clients (.wrote req) := by
  intro used same
  have named : req.cluster = some used := by
    unfold Event.destClient at same
    split at same <;> simp_all [Request.cluster]
  obtain rfl := Option.some.inj (on.symm.trans named)
  exact client

theorem destClient_quiet {e : Event} (quiet : e.touches = false) : e.destClient type = none := by
  cases e <;> simp_all [Event.touches, Event.destClient]

end

theorem sparesSource_of_logged {address : ClusterId → κ} {type : ActionType} {source : ClusterId}
    {clients : ClusterId → Prop} {x : Prog α} (apart : ∀ c, clients c → address c ≠ address source)
    (logs : ∀ o s, Logged o (Uses type clients) s (x o s).2) : SparesSource address type source x := by
  intro o s
  obtain ⟨events, log, all, _⟩ := logs o s
  exact ⟨events, log, fun e member c found => apart c (all e member c found)⟩

/-! ### The clients of each runner -/

/-- The clients of a remote destination. -/
def Endpoint.Client (dest : Endpoint) (c : ClusterId) : Prop := c = dest.kube ∨ dest.dynamic = some c

section
variable {env : LiveEnv} (remote : env.dest.kube ≠ env.source.kube)
include remote

private theorem remotePair_of_ne : remotePair env.source env.dest = true := by
  simpa [remotePair] using fun same : env.source.kube = env.dest.kube => remote same.symm

theorem destDyn_remote {c : ClusterId} (client : destDyn env.source env.dest = some c) :
    env.dest.dynamic = some c := by
  unfold destDyn at client
  cases found : env.dest.dynamic with
  | none => simp [found, remotePair_of_ne remote] at client
  | some d => simpa [found] using client

theorem destDynamic_remote {c : ClusterId} (client : env.destDynamic = .ok (some c)) :
    env.dest.dynamic = some c := by
  unfold Env.destDynamic at client
  cases found : env.dest.dynamic with
  | none => simp [found, remotePair_of_ne remote] at client
  | some d => simpa [found] using client

theorem volsync_destDyn_remote {c : ClusterId} (client : env.volsync.destDyn = some c) :
    env.dest.dynamic = some c := by
  unfold VolSync.Mover.destDyn at client
  cases found : env.dest.dynamic with
  | some d => simpa [LiveEnv.volsync, LiveEnv.destinationDyn, found] using client
  | none =>
    have apart : env.volsync.remoteDest = true := by
      simpa [VolSync.Mover.remoteDest, LiveEnv.volsync] using remote
    simp [LiveEnv.volsync, LiveEnv.destinationDyn, found, remotePair_of_ne remote] at client
    simp [LiveEnv.volsync, VolSync.Mover.remoteDest] at client apart
    exact absurd client.1 apart

/-- A VolSync mover writes for the destination with the destination's clients. -/
theorem uses_of_sends {type : ActionType} (other : type ≠ .restore) {w : Workload} {req : Request}
    (sends : env.volsync.Sends w req) : Uses type env.dest.Client (.wrote req) := by
  cases sends with
  | source client kind =>
    rename_i verb resource key
    refine uses_other ?_
    cases verb <;> simp [Side.request, Event.destClient, other]
    revert kind
    cases resource <;> simp [VolSync.sourceKinds]
  | dest client kind =>
    refine uses_wrote rfl (.inl ?_)
    simpa [VolSync.Mover.destKubeClient, LiveEnv.volsync] using client.symm
  | sourceHalf verb client =>
    refine uses_other ?_
    cases verb <;> simp [Side.request, Event.destClient, other]
  | destHalf client => exact uses_wrote rfl (.inr (volsync_destDyn_remote remote client))
  | dropped client => exact uses_wrote rfl (.inr (volsync_destDyn_remote remote client))
  | misplacedSource client => exact uses_wrote rfl (.inr (volsync_destDyn_remote remote client))
  | misplacedDest client => exact uses_other rfl

theorem uses_of_moverEvent {type : ActionType} (other : type ≠ .restore) {w : Workload} {e : Event}
    (logged : MoverEvent env w e) : Uses type env.dest.Client e := by
  cases logged with
  | volsync sends => exact uses_of_sends remote other sends
  | standby does =>
    cases does with
    | service client => exact uses_other (by simp [Event.destClient, other])
    | standby verb client kind =>
      refine uses_wrote rfl (.inl ?_)
      simpa [Standby.Mover.destKube, LiveEnv.standby] using client.symm
    | exec client => exact uses_other rfl
  | saw | moved => exact uses_other rfl

private theorem logged_runBackup (o : Oracle) (s : World) :
    Logged o (Uses .backup env.dest.Client) s (runBackup env o s).2 := by
  refine ((moves_runBackup env s).mono fun e logged => ?_).log
  cases logged with
  | volsync sends => exact uses_of_sends remote (by decide) sends
  | snapshot | exec | moved => exact uses_other rfl

private theorem logged_runReplicate (act : Action) (o : Oracle) (s : World) :
    Logged o (Uses .replicate env.dest.Client) s (env.runReplicate act o s).2 := by
  have uses {w : Workload} (e : Event) (logged : MoverEvent env w e) : Uses .replicate env.dest.Client e :=
    uses_of_moverEvent remote (by decide) logged
  have moves : Moves o (Extends o (Uses .replicate env.dest.Client)) (env.runReplicate act) := by
    refine moves_runReplicateWith env.toEnv (fun m _ w _ => moves_liveReplicate env w uses m)
      (fun m _ w _ => moves_liveProbe env w uses m)
      (fun c objects client => uses_synced (.inr (destDynamic_remote remote client))) (fun req asked => ?_) act
    cases asked with
    | source client key => exact uses_other rfl
    | dest client key => exact uses_wrote rfl (.inr (destDyn_remote remote client))
  exact (moves s).log

private theorem logged_runRestore (act : Action) (o : Oracle) (s : World) :
    Logged o (Uses .restore env.dest.Client) s (runRestore env.toEnv act o s).2 := by
  have moves : Moves o (Proceeds o (Uses .restore env.dest.Client)) (runRestore env.toEnv act) := by
    refine proceeds_runRestore env.toEnv (fun e logged => ?_) act
    cases logged with
    | wrote req client => exact uses_wrote client (.inl rfl)
    | synced client => exact uses_synced (.inr (destDynamic_remote remote client))
    | exec | replay | moved => exact uses_other rfl
  exact (moves s).log

private theorem logged_runCutover (act : Action) (o : Oracle) (s : World) :
    Logged o (Uses .cutover env.dest.Client) s (runCutover env.toEnv act o s).2 := by
  have moves : Moves o (Extends o (Uses .cutover env.dest.Client)) (runCutover env.toEnv act) := by
    refine moves_runCutover env.toEnv act fun e logged => ?_
    cases logged with
    | quiet quiet => exact uses_other (destClient_quiet quiet)
    | synced client objects => exact uses_synced (.inr (destDynamic_remote remote client))
    | promoted due logged => cases logged <;> exact uses_other rfl
    | froze | raised | unfroze => exact uses_other rfl
  exact (moves s).log

/-- Every runner writes for a remote destination with the destination's clients. -/
theorem logged_liveRun (act : Action) (o : Oracle) (s : World) :
    Logged o (Uses act.spec.type env.dest.Client) s (liveRun env act o s).2 := by
  unfold liveRun
  cases act.spec.type with
  | backup => exact logged_runBackup remote o s
  | restore => exact logged_runRestore remote act o s
  | replicate => exact logged_runReplicate remote act o s
  | cutover => exact logged_runCutover remote act o s

end

/-! ### A pass that writes -/

/-- Running `x` logs `e`. -/
private def Emits (o : Oracle) (x : Prog α) (e : Event) : Prop := ∀ s, e ∈ (x o s).2.log

section
variable {o : Oracle} {e : Event}

private theorem emits_bind {x : Prog α} {f : α → Prog β} (emits : Emits o x e)
    (grows : ∀ value, Moves o (Extends o fun _ => True) (f value)) : Emits o (x >>= f) e := by
  intro s
  exact (grows (x o s).1 (x o s).2).grows.subset (emits s)

private theorem emits_then {x : Prog α} {f : α → Prog β} (emits : ∀ value, Emits o (f value) e) :
    Emits o (x >>= f) e := fun s => emits (x o s).1 (x o s).2

private theorem emits_send {req : Request} {c : ClusterId} {change : Cluster → Except ApiError Cluster} :
    Emits o (send req c change) (.wrote req) := by
  intro s
  rw [(send_kept (o := o) req c change s).2]
  simp

private theorem moves_any {x : Prog α} {allowed : Event → Prop} (moves : Moves o (Extends o allowed) x) :
    Moves o (Extends o fun _ => True) x := Moves.widen moves fun _ _ => trivial

/-- The first write of a standby is the ConfigMap on the destination. -/
private theorem emits_standby (m : Standby.Mover) {dest : ClusterId} (client : m.destKube = some dest)
    (src dst : Standby.ClusterHandle) (w : Workload) :
    Emits o (Standby.replicate m src dst w)
      (.wrote (.place .create dest .configMaps ⟨w.namespace_, Standby.standbyName w⟩)) := by
  have chains := extends_chains o (m.Does w)
  unfold Standby.replicate
  rw [client]
  refine emits_bind (emits_bind emits_send fun answer => ?_) fun answer => ?_
  · cases answer with
    | ok _ => exact moves_pure _
    | error _ => exact moves_map (moves_send trivial)
  · cases answer with
    | error text => exact moves_pure _
    | ok _ =>
      exact moves_any (.andThen chains (Standby.moves_ensurePrimaryService m w _) fun _ =>
        .andThen chains (moves_map (Standby.moves_ensureReplicatorRole m w fun _ _ _ _ _ exec => .exec exec)) fun _ =>
          .andThen chains (Standby.moves_ensureBasebackupJob m w client _ _) fun _ =>
            Standby.moves_patchDestStandby m w client)

end

/-- A Postgres workload, as the walk would list it. -/
def ordersDB : Workload :=
  { namespace_ := "shop", name := "orders", kind := "StatefulSet", cls := .sqlLogical, engine := "postgres" }

private theorem select_ordersDB (pair : Option ClusterPair) :
    select (registry pair []) ordersDB (moverOverride {} ordersDB .replicate) =
      .ok (some .postgresStreaming, { replicate := true, restore := true }) := by
  have unpinned : moverOverride {} ordersDB .replicate = "" := by decide +kernel
  rw [unpinned]
  simp [select, registry, ordersDB, Mover.supports, Mover.classes, Mover.discover]

private theorem emits_map {f : α → β} {x : Prog α} {o : Oracle} {e : Event} (emits : Emits o x e) :
    Emits o (f <$> x) e := fun s => by simpa using emits s

private theorem emits_replicateStep (o : Oracle) {env : LiveEnv} (policy : env.policy = {})
    (plugins : env.plugins = []) (graph : GraphSeen) (seen : ReplicateSeen) :
    Emits o (replicateStepWith env.calls env.toEnv graph seen ordersDB)
      (.wrote (.place .create env.dest.kube .configMaps ⟨"shop", Standby.standbyName ordersDB⟩)) := by
  have stateful : ordersDB.cls ≠ .stateless := by decide
  have plain : ordersDB.isObjectGraph = false := by decide +kernel
  have selected : select env.movers ordersDB (moverOverride env.policy ordersDB .replicate) =
      .ok (some .postgresStreaming, { replicate := true, restore := true }) := by
    rw [policy, Env.movers, plugins]
    exact select_ordersDB _
  have replicates := emits_standby (o := o) env.standby rfl env.sourceHandle env.destHandle ordersDB
  unfold replicateStepWith
  rw [if_neg stateful, if_neg (by simp [plain]), selected]
  refine emits_bind (emits_map replicates) fun answer => ?_
  cases answer with
  | some text => exact moves_pure _
  | none =>
    exact moves_bind (moves_liveProbe env ordersDB (fun _ _ => trivial) .postgresStreaming) fun _ => moves_pure _

/-- A Replicate pass over one Postgres workload writes the standby's ConfigMap. -/
private theorem emits_runReplicate (o : Oracle) {env : LiveEnv} (act : Action) (policy : env.policy = {})
    (plugins : env.plugins = []) (inventory : env.inventory = [ordersDB]) :
    Emits o (env.runReplicate act)
      (.wrote (.place .create env.dest.kube .configMaps ⟨"shop", Standby.standbyName ordersDB⟩)) := by
  unfold LiveEnv.runReplicate runReplicateWith
  rw [inventory]
  exact emits_then fun graph => emits_bind
    (emits_bind (emits_replicateStep o policy plugins graph {}) fun _ => moves_pure _) fun _ =>
      moves_bind (moves_pruneVolSync env.toEnv fun _ _ => trivial) fun _ => moves_pure _

private theorem emits_livePass (o : Oracle) {hub : Hub} {pair : ClusterPair}
    {outcome : Option (Except String ResolvedPair)} {ends : Ends} {base : LiveEnv} {act : Action}
    (connected : endpoints hub (some pair) outcome = .ok ends) (paired : base.pair = some pair)
    (policy : base.policy = {}) (plugins : base.plugins = []) (type : act.spec.type = .replicate) :
    Emits o (livePass hub outcome { walk := fun _ => .ok [ordersDB] } base act)
      (.wrote (.place .create ends.dest.kube .configMaps ⟨"shop", Standby.standbyName ordersDB⟩)) := by
  unfold livePass
  rw [paired, connected]
  dsimp only
  unfold liveRun
  rw [type]
  refine emits_map (emits_runReplicate o act policy plugins ?_)
  simp [LiveEnv.connected, policy, withClusterObjects]

/-! ### Where the writes go -/

section
variable {address : ClusterId → κ} {hub : Hub} {pair : ClusterPair}
  {outcome : Option (Except String ResolvedPair)} {ends : Ends}

/-- With coherent clients the destination's clients are apart from the source's cluster
as soon as the typed one is. -/
private theorem address_of_client (remote : pair.destHasRemoteAuth = true)
    (coherent : ∀ resolved, outcome = some (.ok resolved) → resolved.dest.Coherent address)
    (connected : endpoints hub (some pair) outcome = .ok ends) {c : ClusterId} (client : ends.dest.Client c) :
    address c = address ends.dest.kube := by
  obtain ⟨resolved, kube, same, typed, _, rfl⟩ := (endpoints_remote_iff remote).mp connected
  rcases client with rfl | dynamic
  · rfl
  · exact coherent resolved same kube c typed dynamic

private theorem livePass_sparesSource (remote : pair.destHasRemoteAuth = true)
    (coherent : ∀ resolved, outcome = some (.ok resolved) → resolved.dest.Coherent address)
    (connected : endpoints hub (some pair) outcome = .ok ends)
    (apart : address ends.dest.kube ≠ address ends.source.kube) (seen : Observed) {base : LiveEnv}
    (paired : base.pair = some pair) (act : Action) :
    SparesSource address act.spec.type ends.source.kube (livePass hub outcome seen base act) := by
  have different : ends.dest.kube ≠ ends.source.kube := fun same => apart (by rw [same])
  unfold livePass
  rw [paired, connected]
  dsimp only
  cases seen.walk ends.source.kube with
  | error text => exact fun o s => ⟨[], by simp, by simp⟩
  | ok inventory =>
    have far : (base.connected hub seen ends inventory).dest.kube ≠
        (base.connected hub seen ends inventory).source.kube := different
    refine sparesSource_of_logged (fun c client => ?_) (logged_liveRun far act)
    rw [address_of_client remote coherent connected client]
    exact apart

end

/-- The program gives up with an error and leaves everything as it was. -/
def StopsUntouched (x : Prog (Except Stop ActionResult)) : Prop :=
  ∀ o s, ∃ text, x o s = (.error (.error text), s)

/-- Every Action pass over a pair stops before it writes, or keeps its writes for the
destination off the source's cluster. -/
def KeepsApart (address : ClusterId → κ) (hub : Hub) (pair : ClusterPair)
    (outcome : Option (Except String ResolvedPair)) : Prop :=
  ∀ seen base act, base.pair = some pair →
    StopsUntouched (livePass hub outcome seen base act) ∨
      ∃ ends, endpoints hub (some pair) outcome = .ok ends ∧
        SparesSource address act.spec.type ends.source.kube (livePass hub outcome seen base act)

private theorem KeepsApart.address_ne {address : ClusterId → κ} {hub : Hub} {pair : ClusterPair}
    {outcome : Option (Except String ResolvedPair)} {ends : Ends} (keeps : KeepsApart address hub pair outcome)
    (connected : endpoints hub (some pair) outcome = .ok ends) :
    address ends.dest.kube ≠ address ends.source.kube := by
  let base : LiveEnv := { pair := some pair, source := ends.source, dest := ends.dest }
  let act : Action := { spec := { type := .replicate } }
  let start : World := { clusters := fun _ => {}, action := act }
  have emits : Emits {} (livePass hub outcome { walk := fun _ => .ok [ordersDB] } base act)
      (.wrote (.place .create ends.dest.kube .configMaps ⟨"shop", Standby.standbyName ordersDB⟩)) :=
    emits_livePass {} connected rfl rfl rfl rfl
  have written := emits start
  rcases keeps { walk := fun _ => .ok [ordersDB] } base act rfl with stops | ⟨same, again, spares⟩
  · obtain ⟨text, stopped⟩ := stops {} start
    rw [stopped] at written
    simp [start] at written
  · obtain rfl := Except.ok.inj (connected.symm.trans again)
    obtain ⟨events, log, all⟩ := spares {} start
    rw [log] at written
    exact all _ (by simpa [start] using written) _ rfl

/-- When the destination has credentials of its own and each resolved endpoint addresses
one cluster, the passes keep apart exactly if a destination whose typed client is not
the source's own client is another cluster. Only the identity of the clients is compared,
so credentials that lead back to the source are not noticed. -/
theorem keepsApart_iff (address : ClusterId → κ) (hub : Hub) (pair : ClusterPair)
    (remote : pair.destHasRemoteAuth = true) (outcome : Option (Except String ResolvedPair))
    (coherent : ∀ resolved, outcome = some (.ok resolved) →
      resolved.source.Coherent address ∧ resolved.dest.Coherent address) :
    KeepsApart address hub pair outcome ↔
      ∀ resolved kube, outcome = some (.ok resolved) → resolved.dest.kube = some kube →
        kube ≠ resolved.sourceKube hub → address kube ≠ address (resolved.sourceKube hub) := by
  constructor
  · intro keeps resolved kube same typed different
    have connected := (endpoints_remote_iff remote).mpr ⟨resolved, kube, same, typed, different, rfl⟩
    simpa [Clients.endpoint, ResolvedPair.sourceKube] using keeps.address_ne connected
  · intro apart seen base act paired
    cases connected : endpoints hub (some pair) outcome with
    | error text =>
      exact .inl fun o s => ⟨"resolve ClusterPair: " ++ text, by simp [livePass, paired, connected]⟩
    | ok ends =>
      obtain ⟨resolved, kube, same, typed, different, rfl⟩ := (endpoints_remote_iff remote).mp connected
      refine .inr ⟨_, rfl, livePass_sparesSource remote (fun resolved same => (coherent resolved same).2)
        connected ?_ seen paired act⟩
      simpa [Clients.endpoint, ResolvedPair.sourceKube] using apart resolved kube same typed different

/-! A pair whose destination is reached with a kubeconfig, from a hub that is the source. -/

def hubClients : Hub := { kube := 0, dynamic := some 0 }

def kubeconfigPair : ClusterPair :=
  { sourceName := "eu", destName := "us", destAuth := [.kubeconfigSecret] }

/-- What resolving the pair gives when the kubeconfig yields the clients `c`. -/
def kubeconfigOutcome (c : ClusterId) : Option (Except String ResolvedPair) :=
  some (Resolver.resolve hubClients (.error "") (.ok { kube := some c, dynamic := some c }) (some kubeconfigPair))

private theorem kubeconfigOutcome_coherent (c : ClusterId) (address : ClusterId → κ) (resolved : ResolvedPair)
    (same : kubeconfigOutcome c = some (.ok resolved)) :
    resolved.source.Coherent address ∧ resolved.dest.Coherent address := by
  simp only [kubeconfigOutcome, Resolver.resolve, Resolver.endpoints, kubeconfigPair, hubClients,
    Option.some.injEq] at same
  cases same
  constructor <;> (intro kube dynamic typed other; simp_all)

private theorem endpoints_kubeconfig {c : ClusterId} (other : c ≠ 0) :
    endpoints hubClients (some kubeconfigPair) (kubeconfigOutcome c) = .ok
      { source := { name := "eu", kube := 0, dynamic := some 0 }
        dest := { name := "us", kube := c, dynamic := some c } } := by
  simp [endpoints, kubeconfigOutcome, Resolver.resolve, Resolver.endpoints, kubeconfigPair, hubClients,
    Except.map, Clients.orHub, Clients.endpoint, other]

/-- A kubeconfig of another cluster. -/
theorem keepsApart_other : KeepsApart id hubClients kubeconfigPair (kubeconfigOutcome 1) := by
  refine (keepsApart_iff id hubClients kubeconfigPair (by decide) (kubeconfigOutcome 1)
    (kubeconfigOutcome_coherent 1 id)).mpr fun resolved kube _ _ different => different

/-- A kubeconfig of the source's own cluster: its client is a new one, so the passes go
on and write there. Clients are numbered so that those of one cluster have one parity. -/
theorem not_keepsApart_loopback :
    kubeconfigPair.destHasRemoteAuth = true ∧
      (∀ resolved, kubeconfigOutcome 2 = some (.ok resolved) →
        resolved.source.Coherent (· % 2) ∧ resolved.dest.Coherent (· % 2)) ∧
      ¬ KeepsApart (· % 2) hubClients kubeconfigPair (kubeconfigOutcome 2) := by
  refine ⟨by decide, kubeconfigOutcome_coherent 2 _, fun keeps => ?_⟩
  exact keeps.address_ne (endpoints_kubeconfig (by decide)) rfl

end Portage
