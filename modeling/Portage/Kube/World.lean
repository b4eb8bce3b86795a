import Portage.Kube.Objects
import Portage.Process.Program

/-! What a reconcile pass works on: the clusters, the stored Action, and a log of
what the pass issued. Every call to the outside may fail, and the rest of the
world may move before it is served. -/
namespace Portage.Kube

open Go Process

inductive Verb where
  | create
  | update
  | delete
  deriving DecidableEq, Repr

/-- Requests to the API servers. The reads of objects to export, the writes of
replication that belong on the destination, the deletes of objects that were left on
the wrong cluster and the calls on the Action itself are told apart by their
purpose. -/
inductive Request where
  | export_ (cluster : ClusterId) (resource : Resource) (key : ObjKey)
  | get (cluster : ClusterId) (resource : Resource) (key : ObjKey)
  | list (cluster : ClusterId) (resource : Resource) (namespace_ : String)
  | create (cluster : ClusterId) (resource : Resource) (key : ObjKey)
  | update (cluster : ClusterId) (resource : Resource) (key : ObjKey)
  | delete (cluster : ClusterId) (resource : Resource) (key : ObjKey)
  | place (verb : Verb) (cluster : ClusterId) (resource : Resource) (key : ObjKey)
  | scrub (cluster : ClusterId) (resource : Resource) (key : ObjKey)
  | readAction
  | readForRecord
  | recordDump
  | readForStatus
  | writeStatus
  deriving DecidableEq, Repr

/-- The cluster that a write of replication belongs on. -/
inductive Side where
  | source
  | dest
  deriving DecidableEq, Repr

def Side.request : Side → Verb → ClusterId → Resource → ObjKey → Request
  | source, .create, c, resource, key => .create c resource key
  | source, .update, c, resource, key => .update c resource key
  | source, .delete, c, resource, key => .delete c resource key
  | dest, verb, c, resource, key => .place verb c resource key

/-- The cluster that a request goes to, unless it is about the Action itself. -/
def Request.cluster : Request → Option ClusterId
  | export_ c .. | get c .. | list c .. | create c .. | update c .. | delete c .. => some c
  | place _ c .. | scrub c .. => some c
  | readAction | readForRecord | recordDump | readForStatus | writeStatus => none

def Request.exports : Request → Bool
  | export_ .. => true
  | _ => false

structure ExecAnswer where
  stdout : String := ""
  stderr : String := ""
  error : Option String := none
  deriving DecidableEq, Repr

inductive MoverOp where
  | backup
  | replicate
  | restore
  | promote
  deriving DecidableEq, Repr

/-- What a pass issued, in order. -/
inductive Event where
  | wrote (request : Request)
  | exec (workload : String) (cluster : ClusterId) (pod : ObjKey) (container : String)
      (command : List String) (answer : ExecAnswer)
  | replay (workload artifactID : String) (cluster : ClusterId) (pod : ObjKey) (container : String)
      (command : List String) (stdin : Bytes) (done : Bool)
  | saw (cluster : ClusterId) (destination : ReplicationDestination)
  | moved (operation : MoverOp) (mover workload : String)
  | synced (cluster : ClusterId) (objects : List String)
  | hooked (action : String)

/-- Whether an event changes workloads, claims, replication or data of a cluster,
or asks somebody to. -/
def Event.touches : Event → Bool
  | .wrote _ | .replay .. | .moved .. => true
  | .synced _ objects => !objects.isEmpty
  | .exec .. | .saw .. | .hooked _ => false

/-- A failure of a request that the server could have served. -/
structure Fault where
  conflict : Bool := false
  message : String := ""
  deriving DecidableEq, Repr

def Fault.error (fault : Fault) : ApiError :=
  ⟨if fault.conflict then .conflict else .other, fault.message⟩

/-- How the outside answers the calls of a pass, by the number of the call. A
failed write may have been carried out all the same, `drift` is what others do
before a call is served, and `listed` are the keys under which a list finds objects
that are kept in a table. -/
structure Oracle where
  fault : Nat → Request → Option Fault := fun _ _ => none
  lost : Nat → Bool := fun _ => false
  drift : Nat → Clusters → Clusters := fun _ clusters => clusters
  exec : Nat → List String → ExecAnswer := fun _ _ => {}
  mover : Nat → Option String := fun _ => none
  replicated : Nat → Clusters → Clusters := fun _ clusters => clusters
  probe : Nat → ProbeResult := fun _ => {}
  sync : Nat → Except String (Bool × String) := fun _ => .ok (true, "")
  applied : Nat → Payloads → Payloads := fun _ payloads => payloads
  hook : Nat → Option String := fun _ => none
  listed : Nat → List ObjKey := fun _ => []
  random : Nat → String := fun _ => ""

structure World where
  clusters : Clusters
  action : Action
  calls : Nat := 0
  log : List Event := []

abbrev Prog := Program Oracle World

/-- Number the next call to the outside, which first lets the others move. -/
def tick : Prog Nat := fun o s =>
  (s.calls, { s with calls := s.calls + 1, clusters := o.drift s.calls s.clusters })

def record (event : Event) : Prog Unit := Program.modify fun s => { s with log := s.log ++ [event] }

def setCluster (c : ClusterId) (after : Cluster) : Prog Unit := Program.modify fun s =>
  { s with clusters := fun other => if other = c then after else s.clusters other }

/-- A request that reads, served by `look` if it does not fail. -/
def fetch (req : Request) (look : World → Except ApiError α) : Prog (Except ApiError α) := do
  let n ← tick
  let o ← Program.answers
  match o.fault n req with
  | some fault => pure (.error fault.error)
  | none => do
    let s ← Program.world
    pure (look s)

def getObject (c : ClusterId) (resource : Resource) (key : ObjKey) (select : Cluster → Option α) :
    Prog (Except ApiError α) :=
  fetch (.get c resource key) fun s => found resource key (select (s.clusters c))

/-- Read an object to be copied to the destination. -/
def exportObject (c : ClusterId) (resource : Resource) (key : ObjKey) (select : Cluster → Option α) :
    Prog (Except ApiError α) :=
  fetch (.export_ c resource key) fun s => found resource key (select (s.clusters c))

def listObjects (c : ClusterId) (resource : Resource) (ns : String) (select : Cluster → List α) :
    Prog (Except ApiError (List α)) :=
  fetch (.list c resource ns) fun s => .ok (select (s.clusters c))

/-- A request that writes to a cluster. -/
def send (req : Request) (c : ClusterId) (change : Cluster → Except ApiError Cluster) :
    Prog (Except ApiError Unit) := do
  let n ← tick
  let o ← Program.answers
  record (.wrote req)
  let s ← Program.world
  match o.fault n req, change (s.clusters c) with
  | none, .ok after => do
    setCluster c after
    pure (.ok ())
  | none, .error refused => pure (.error refused)
  | some fault, .ok after => do
    if o.lost n then setCluster c after
    pure (.error fault.error)
  | some fault, .error _ => pure (.error fault.error)

/-- Run a command in a pod of a workload. -/
def execIn (workload : String) (c : ClusterId) (pod : ObjKey) (container : String)
    (command : List String) : Prog ExecAnswer := do
  let n ← tick
  let o ← Program.answers
  record (.exec workload c pod container command (o.exec n command))
  pure (o.exec n command)

end Portage.Kube
