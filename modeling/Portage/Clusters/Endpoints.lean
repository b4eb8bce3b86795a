import Portage.Movers.Registry
import Portage.Workloads.Commands

/-! The clients of a pass: how a ClusterPair is resolved into clients, and which of them,
or of the controller's own, stand for the source and the destination. -/
namespace Portage

open Kube

/-- The clients of one cluster, as far as they could be made. -/
structure Clients where
  name : String := ""
  kube : Option ClusterId := none
  dynamic : Option ClusterId := none
  exec : Option ClusterId := none
  deriving DecidableEq, Repr

structure ResolvedPair where
  source : Clients
  dest : Clients
  deriving DecidableEq, Repr

/-- The clients of the cluster that the controller runs on; it does not start without a
typed one. -/
structure Hub where
  kube : ClusterId
  dynamic : Option ClusterId := none
  exec : Option ClusterId := none
  deriving DecidableEq, Repr

/-- The endpoints that a pass works with. -/
structure Ends where
  source : Endpoint
  dest : Endpoint
  deriving DecidableEq, Repr

namespace Resolver

/-- The clients for one side of a pair: without credentials of its own it is the hub, and
else `build` makes new clients. -/
def endpoints (hub : Hub) (build : Except String Clients) (name : String) (auth : List AuthMethod) :
    Except String Clients :=
  if auth.length = 0 then
    .ok { name := if name ≠ "" then name else "local"
          kube := some hub.kube, dynamic := hub.dynamic, exec := hub.exec }
  else build.map fun clients => { clients with name }

/-- Resolve both sides of a pair; `sourceBuild` and `destBuild` are what comes of making
clients from their credentials. -/
def resolve (hub : Hub) (sourceBuild destBuild : Except String Clients) :
    Option ClusterPair → Except String ResolvedPair
  | none =>
    let clients : Clients := { name := "local", kube := some hub.kube, dynamic := hub.dynamic, exec := hub.exec }
    .ok ⟨clients, clients⟩
  | some pair =>
    match endpoints hub sourceBuild pair.sourceName pair.sourceAuth with
    | .error text => .error ("source cluster: " ++ text)
    | .ok source =>
      match endpoints hub destBuild pair.destName pair.destAuth with
      | .error text => .error ("destination cluster: " ++ text)
      | .ok dest => .ok ⟨source, dest⟩

end Resolver

def Hub.endpoint (hub : Hub) (name : String) : Endpoint :=
  { name, kube := hub.kube, dynamic := hub.dynamic, exec := hub.exec }

/-- The endpoint of the given clients, once there is a typed one. -/
def Clients.endpoint (clients : Clients) (kube : ClusterId) : Endpoint :=
  { name := clients.name, kube, dynamic := clients.dynamic, exec := clients.exec }

/-- The source of a pass; clients without a typed one are replaced by the hub's. -/
def Clients.orHub (clients : Clients) (hub : Endpoint) : Endpoint :=
  match clients.kube with
  | some kube => clients.endpoint kube
  | none => hub

def localName : Option ClusterPair → String
  | none => "local"
  | some pair => if pair.sourceName ≠ "" then pair.sourceName else "local"

def remoteDest : Option ClusterPair → Bool
  | none => false
  | some pair => pair.destHasRemoteAuth

def pairDestName : Option ClusterPair → String
  | none => ""
  | some pair => pair.destName

/-- The endpoints of an Action pass from the outcome of resolving its pair, which is
absent without a resolver. Only a destination without credentials may fall back to the
source. -/
def endpoints (hub : Hub) (pair : Option ClusterPair) (outcome : Option (Except String ResolvedPair)) :
    Except String Ends :=
  let loc := hub.endpoint (localName pair)
  match outcome with
  | some (.error text) =>
    if remoteDest pair then .error ("resolve dest cluster: " ++ text) else .ok ⟨loc, loc⟩
  | some (.ok resolved) =>
    let source := resolved.source.orHub loc
    match resolved.dest.kube with
    | none =>
      if remoteDest pair then
        .error ("destination cluster \"" ++ pairDestName pair ++ "\" client is empty")
      else .ok ⟨source, source⟩
    | some kube =>
      if remoteDest pair ∧ kube = source.kube then
        .error ("destination cluster \"" ++ pairDestName pair ++
          "\" resolved to the source cluster; refusing to write dest CRs in-cluster")
      else .ok ⟨source, resolved.dest.endpoint kube⟩
  | none =>
    if remoteDest pair then .error "clusterpair dest has remote auth but no resolver" else .ok ⟨loc, loc⟩

/-- The typed client of the source that a resolved pair leaves a pass with. -/
def ResolvedPair.sourceKube (resolved : ResolvedPair) (hub : Hub) : ClusterId :=
  resolved.source.kube.getD hub.kube

@[simp] theorem Clients.orHub_kube (clients : Clients) (hub : Hub) (name : String) :
    (clients.orHub (hub.endpoint name)).kube = clients.kube.getD hub.kube := by
  unfold Clients.orHub
  cases clients.kube <;> rfl

/-- A remote destination has the clients that were resolved for it, and its typed client
is not the source's. -/
theorem endpoints_remote_iff {hub : Hub} {pair : ClusterPair} {outcome : Option (Except String ResolvedPair)}
    {ends : Ends} (remote : pair.destHasRemoteAuth = true) :
    endpoints hub (some pair) outcome = .ok ends ↔
      ∃ resolved kube, outcome = some (.ok resolved) ∧ resolved.dest.kube = some kube ∧
        kube ≠ resolved.sourceKube hub ∧
        ends = ⟨resolved.source.orHub (hub.endpoint (localName (some pair))), resolved.dest.endpoint kube⟩ := by
  have auth : remoteDest (some pair) = true := remote
  constructor
  · intro connected
    match outcome with
    | none => simp [endpoints, auth] at connected
    | some (.error text) => simp [endpoints, auth] at connected
    | some (.ok resolved) =>
      cases client : resolved.dest.kube with
      | none => simp [endpoints, auth, client] at connected
      | some kube =>
        by_cases same : kube = resolved.source.kube.getD hub.kube
        · simp [endpoints, auth, client, same] at connected
        · simp only [endpoints, client, Clients.orHub_kube, same, and_false, if_false,
            Except.ok.injEq] at connected
          exact ⟨resolved, kube, rfl, client, same, connected.symm⟩
  · rintro ⟨resolved, kube, rfl, client, different, rfl⟩
    simp only [ResolvedPair.sourceKube] at different
    simp [endpoints, client, different]

/-- Two clients of an endpoint that are both present address one cluster. -/
def Clients.Coherent (address : ClusterId → κ) (clients : Clients) : Prop :=
  ∀ kube dynamic, clients.kube = some kube → clients.dynamic = some dynamic → address dynamic = address kube

end Portage
