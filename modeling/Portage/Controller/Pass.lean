import Portage.Movers.DataPath
import Portage.Workloads.Apply

/-! What a runner is called with, and the object graph that it keeps in step. -/
namespace Portage

open Go Kube Process Program

/-- What one reconcile resolved before it calls a runner: the Policy, the pair
and its clients, the plugins, the walked inventory, the object graph of the
source, and the services around the clusters. `rpo` is the Policy's RPO if it can
be read as a duration. -/
structure Env where
  policy : Policy := {}
  pair : Option ClusterPair := none
  source : Endpoint
  dest : Endpoint
  fallback : Option ClusterId := none
  plugins : List Plugin := []
  inventory : List Workload := []
  graph : Except String (List String) := .ok []
  archived : Bytes → Except String (List String) := fun _ => .ok []
  render : List Manifest → Except String (List Manifest) := fun objects => .ok objects
  store : String → Except String Bytes := fun _ => .error "object not found"
  rpo : Option Duration := none
  now : Time := 0

namespace Env

def movers (env : Env) : List Mover := registry env.pair env.plugins

def stateful (env : Env) : List Workload := env.inventory.filter Workload.stateful

/-- The dynamic client that reads the object graph. -/
def graphSource (env : Env) : Option ClusterId := env.source.dynamic.or env.fallback

/-- The dynamic client that the object graph is written with. -/
def destDynamic (env : Env) : Except String (Option ClusterId) :=
  match env.dest.dynamic with
  | some c => .ok (some c)
  | none =>
    if remotePair env.source env.dest then .error "clusterobjects: dest dynamic client required"
    else .ok (env.fallback.or env.source.dynamic)

end Env

/-- Create or update the objects on the destination and read them back. The
skipped kinds keep workloads, claims and VolSync objects out of the graph. -/
def syncObjects (dest : Option ClusterId) (objects : List String) :
    Prog (Except String (Bool × String)) :=
  match dest with
  | none => pure (.error "clusterobjects: dest dynamic client required")
  | some c => do
    record (.synced c objects)
    let n ← tick
    let o ← Program.answers
    Program.modify fun s => if objects = [] then s else { s with
      clusters := fun other =>
        if other = c then { s.clusters c with payloads := o.applied n (s.clusters c).payloads }
        else s.clusters other }
    pure (o.sync n)

/-- Write a captured graph to the destination. -/
def writeGraph (env : Env) (captured : Except String (List String)) :
    Prog (Except String (Bool × String)) :=
  match captured with
  | .error text => pure (.error text)
  | .ok objects =>
    match env.destDynamic with
    | .error text => pure (.error text)
    | .ok dest => syncObjects dest objects

def Env.listClusterObjects (env : Env) : Except String (List String) :=
  if env.graphSource.isNone then .error "clusterobjects: kube and dynamic clients required" else env.graph

def syncClusterObjectsLive (env : Env) : Prog (Except String (Bool × String)) :=
  writeGraph env env.listClusterObjects

/-- The objects of a stored graph. -/
def Env.archive (env : Env) (artifactID : String) : Except String (List String) :=
  match env.store artifactID with
  | .error text => .error text
  | .ok raw => env.archived raw

def restoreClusterObjects (env : Env) (artifactID : String) : Prog (Except String (Bool × String)) :=
  writeGraph env (env.archive artifactID)

/-- An error of `Ready` counts as not Ready where the caller drops it. -/
def isReady (c : ClusterId) (w : Workload) : Prog Bool := do
  match ← ready c w with
  | .error _ => pure false
  | .ok answer => pure answer

/-- The class probe of a Ready workload, if there is an exec client. -/
def probeReady (env : Env) (w : Workload) (up : Bool) : Prog (Option ProbeResult) :=
  match up, env.dest.exec with
  | true, some c => some <$> Probe.run env.dest.kube c w
  | _, _ => pure none

section
variable {o : Oracle} {allowed : Event → Prop}

theorem moves_syncObjects (dest : Option ClusterId) (objects : List String)
    (fits : ∀ c, dest = some c → allowed (.synced c objects)) :
    Moves o (Extends o allowed) (syncObjects dest objects) := by
  cases dest with
  | none => exact moves_pure _
  | some c =>
    intro s
    by_cases empty : objects = []
    · refine ⟨?_, [.synced c objects], ?_, by simpa using fits c rfl, fun _ kept keeps before => ?_⟩ <;>
        simp [syncObjects, record, tick, empty]
      exact keeps s.calls s.clusters before
    · refine ⟨?_, [.synced c objects], ?_, by simpa using fits c rfl, fun quiet => ?_⟩
      · simp [syncObjects, record, tick, empty]
      · simp [syncObjects, record, tick, empty]
      · simp [Event.touches, empty] at quiet

theorem moves_writeGraph (env : Env) (captured : Except String (List String))
    (fits : ∀ objects c, captured = .ok objects → env.destDynamic = .ok (some c) → allowed (.synced c objects)) :
    Moves o (Extends o allowed) (writeGraph env captured) := by
  unfold writeGraph
  cases captured with
  | error text => exact moves_pure _
  | ok objects =>
    dsimp only
    cases client : env.destDynamic with
    | error text => exact moves_pure _
    | ok dest => exact moves_syncObjects dest objects fun c same => fits objects c rfl (by rw [client, same])

theorem moves_isReady (c : ClusterId) (w : Workload) : Moves o (Extends o allowed) (isReady c w) := by
  refine moves_bind (moves_ready c w) fun answer => ?_
  cases answer <;> exact moves_pure _

theorem moves_probeReady (env : Env) (w : Workload) (fits : ∀ e, e.touches = false → allowed e) (up : Bool) :
    Moves o (Extends o allowed) (probeReady env w up) := by
  unfold probeReady
  split
  · exact moves_map (moves_probeRun _ _ _ fun _ _ _ => fits _ rfl)
  · exact moves_pure _

end

end Portage
