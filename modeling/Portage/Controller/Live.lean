import Portage.Controller.Replicate
import Portage.Movers.Standby
import Portage.Movers.VolSync.Replicate

/-! The movers that a reconcile configures, and a Replicate pass that runs them. -/
namespace Portage

open Go Kube Process Program

/-- What else the movers are configured from: the object store's credentials, the
schedule, and how the pieces outside read: hosts, sizes in a log, a marshalled graph,
a plugin's artifact, the store, and the time as the names of objects show it. -/
structure LiveEnv extends Env where
  creds : ObjectStore.Creds := {}
  schedule : String := ""
  parseAuthority : String → Option String := some
  resticBytes : String → Int := fun _ => 0
  marshal : List String → Except String Int := fun _ => .ok 0
  pluginArtifact : Workload → Backup.Artifact := fun _ => { useful := true }
  put : String → Option String := fun _ => none
  policyWritten : Option String := none
  stamp : String := ""
  minute : String := ""

namespace LiveEnv

/-- The dynamic client of the source's half. -/
def sourceDyn (env : LiveEnv) : Option ClusterId := env.source.dynamic.or env.fallback

/-- The dynamic client of the destination's half: only within one cluster may it be the
source's. -/
def destinationDyn (env : LiveEnv) : Option ClusterId :=
  match env.dest.dynamic with
  | some c => some c
  | none => if remotePair env.source env.dest then none else env.sourceDyn

def volsync (env : LiveEnv) : VolSync.Mover :=
  { dynamic := env.sourceDyn, destDynamic := env.destinationDyn
    kube := some env.source.kube, destKube := some env.dest.kube
    transport := transportOf env.pair, destPath := Portage.destPath env.pair, creds := env.creds
    schedule := env.schedule, snapshotClass := snapshotClassOf env.pair
    storageClassMap := storageClassMapOf env.pair
    parseAuthority := env.parseAuthority, resticBytes := env.resticBytes }

/-- The VolSync mover that is pinned to rclone. -/
def rclone (env : LiveEnv) : VolSync.Mover :=
  { env.volsync with transport := .objectStore, objectMover := "rclone" }

def standby (env : LiveEnv) : Standby.Mover :=
  { kube := some env.source.kube, dest := some env.dest.kube, exec := env.dest.exec }

def sourceHandle (env : LiveEnv) : Standby.ClusterHandle :=
  match env.pair with
  | none => { name := "source" }
  | some pair => { name := pair.sourceName, address := pair.sourceAddress }

def destHandle (env : LiveEnv) : Standby.ClusterHandle :=
  match env.pair with
  | none => { name := "dest" }
  | some pair => { name := pair.destName }

def failure : Except String Unit → Option String
  | .ok _ => none
  | .error text => some text

def replicate (env : LiveEnv) (m : Mover) (w : Workload) : Prog (Option String) :=
  match m with
  | .postgresStreaming => failure <$> Standby.replicate env.standby env.sourceHandle env.destHandle w
  | .volsync => failure <$> VolSync.replicate env.volsync w
  | .rclone => failure <$> VolSync.replicate env.rclone w
  | .webhook _ => m.replicate w

def probe (env : LiveEnv) (m : Mover) (w : Workload) : Prog ProbeResult :=
  match m with
  | .postgresStreaming => Standby.probe env.standby w
  | .volsync => VolSync.probe env.volsync w
  | .rclone => VolSync.probe env.rclone w
  | .webhook _ => Mover.probe

/-- The calls on the configured movers. -/
def calls (env : LiveEnv) : MoverCalls := ⟨env.replicate, env.probe⟩

def runReplicate (env : LiveEnv) (act : Action) : Prog ActionResult :=
  runReplicateWith env.calls env.toEnv act

end LiveEnv

/-! ### What the movers do -/

/-- What the configured movers do for a workload; how a plugin goes about it is its own
affair. -/
inductive MoverEvent (env : LiveEnv) (w : Workload) : Event → Prop where
  | volsync {req : Request} (sends : env.volsync.Sends w req) : MoverEvent env w (.wrote req)
  | standby {event : Event} (does : env.standby.Does w event) : MoverEvent env w event
  | saw {c : ClusterId} {rd : ReplicationDestination} : MoverEvent env w (.saw c rd)
  | moved {operation : MoverOp} {m : String} : MoverEvent env w (.moved operation m w.key)

section
variable {o : Oracle} {allowed : Event → Prop} (env : LiveEnv) (w : Workload)

/-- The rclone variant has the clients of the plain one. -/
theorem LiveEnv.sends_rclone {req : Request} (sends : env.rclone.Sends w req) : env.volsync.Sends w req := by
  cases sends with
  | source client kind => exact .source client kind
  | dest client kind => exact .dest client kind
  | sourceHalf verb client => exact .sourceHalf verb client
  | destHalf client => exact .destHalf client
  | dropped client => exact .dropped client
  | misplacedSource client => exact .misplacedSource client
  | misplacedDest client => exact .misplacedDest client

variable (fits : ∀ e, MoverEvent env w e → allowed e)
include fits

theorem moves_liveReplicate (m : Mover) : Moves o (Extends o allowed) (env.replicate m w) := by
  cases m with
  | postgresStreaming =>
    exact moves_map fun s => (Standby.moves_replicate env.standby w _ _ s).mono fun e does => fits e (.standby does)
  | volsync => exact moves_map (Moves.extends (VolSync.confined_replicate env.volsync w) fun _ sends =>
      fits _ (.volsync sends))
  | rclone => exact moves_map (Moves.extends (VolSync.confined_replicate env.rclone w) fun _ sends =>
      fits _ (.volsync (env.sends_rclone w sends)))
  | webhook plugin => exact moves_callMover (fits _ .moved)

theorem moves_liveProbe (m : Mover) : Moves o (Extends o allowed) (env.probe m w) := by
  cases m with
  | postgresStreaming =>
    exact Standby.moves_probe env.standby w fun _ _ _ _ _ client => fits _ (.standby (.exec client))
  | volsync => exact VolSync.moves_probe env.volsync w fun _ _ => fits _ .saw
  | rclone => exact VolSync.moves_probe env.rclone w fun _ _ => fits _ .saw
  | webhook plugin => exact moves_moverProbe

end

end Portage
