import Portage.Policy.Status

/-! The movers that a reconcile registers, and how one is picked for a workload. -/
namespace Portage

open Go

/-- What a mover can do for one workload. -/
structure Capability where
  backup : Bool := false
  replicate : Bool := false
  restore : Bool := false
  deriving DecidableEq, Repr

inductive PluginType where
  | unset
  | mover
  | other (text : String)
  deriving DecidableEq, Repr

/-- A Plugin object: an out-of-tree mover behind a webhook. -/
structure Plugin where
  name : String
  type : PluginType := .unset
  webhookURL : String := ""
  classes : List WorkloadClass := []
  backup : Bool := false
  restore : Bool := false
  replicate : Bool := false
  deriving DecidableEq, Repr

inductive Mover where
  | postgresStreaming
  | volsync
  | rclone
  | webhook (plugin : Plugin)
  deriving DecidableEq, Repr

namespace Mover

def name : Mover → String
  | postgresStreaming => "postgres-streaming"
  | volsync => "volsync"
  | rclone => "rclone"
  | webhook plugin => if plugin.name ≠ "" then plugin.name else "webhook"

def classes : Mover → List WorkloadClass
  | postgresStreaming => [.sqlLogical]
  | volsync | rclone =>
    [.genericPVC, .unknownStateful, .searchFS, .queueDurable, .objectStore, .sqlLogical, .kvLogical]
  | webhook plugin =>
    if plugin.classes ≠ [] then plugin.classes
    else [.genericPVC, .sqlLogical, .kvLogical, .searchFS, .queueDurable, .objectStore,
      .unknownStateful, .operatorManaged]

/-- What the mover reports for a workload; no mover fails to answer. -/
def discover (m : Mover) (w : Workload) : Capability :=
  match m with
  | postgresStreaming =>
    if w.engine ≠ "postgres" ∧ w.engine ≠ "timescale" then {}
    else { replicate := true, restore := true }
  | volsync | rclone =>
    if w.pvcNames = [] then {} else { backup := true, replicate := true, restore := true }
  | webhook plugin =>
    if !plugin.backup && !plugin.restore && !plugin.replicate then { backup := true, restore := true }
    else { backup := plugin.backup, restore := plugin.restore, replicate := plugin.replicate }

def supports (m : Mover) (cls : WorkloadClass) : Bool := m.classes.contains cls

end Mover

inductive TransportType where
  | unset
  | objectStore
  | other (text : String)
  deriving DecidableEq, Repr

/-- The ways to log in to a cluster that a ClusterRef can configure. -/
inductive AuthMethod where
  | kubeconfigSecret
  | azure
  | aws
  | gcp
  deriving DecidableEq, Repr

/-- The parts of a ClusterPair that Actions read. -/
structure ClusterPair where
  sourceName : String := ""
  destName : String := ""
  transport : TransportType := .unset
  storageClassMap : GoMap String String := .nil
  runtimeClassMap : GoMap String String := .nil
  sourceAddress : String := ""
  sourceAuth : List AuthMethod := []
  destAuth : List AuthMethod := []
  destStoreURL : String := ""
  snapshotClassMap : GoMap String String := .nil
  deriving DecidableEq, Repr

/-- Whether the source is reached with credentials of its own; without them it is the
cluster that the controller runs on. -/
def ClusterPair.sourceHasRemoteAuth (pair : ClusterPair) : Bool := decide (0 < pair.sourceAuth.length)

def ClusterPair.destHasRemoteAuth (pair : ClusterPair) : Bool := decide (0 < pair.destAuth.length)

/-- A VolumeSnapshotClass of the pair: the first that the iteration over the map
meets. -/
def snapshotClassOf : Option ClusterPair → String
  | none => ""
  | some pair =>
    match pair.snapshotClassMap with
    | .nil => ""
    | .table entries => ((entries.find? fun entry => entry.2 ≠ "").map Prod.snd).getD ""

def storageClassMapOf : Option ClusterPair → GoMap String String
  | none => .nil
  | some pair => pair.storageClassMap

def destPath : Option ClusterPair → String
  | none => ""
  | some pair => pair.destStoreURL

def transportOf : Option ClusterPair → TransportType
  | none => .objectStore
  | some pair => if pair.transport = .unset then .objectStore else pair.transport

/-- The plugins that are registered as movers. -/
def registerPlugins (plugins : List Plugin) : List Mover :=
  (plugins.filter fun p => p.webhookURL ≠ "" ∧ (p.type = .unset ∨ p.type = .mover)).map .webhook

def registry (pair : Option ClusterPair) (plugins : List Plugin) : List Mover :=
  [.postgresStreaming, .volsync] ++ (if transportOf pair = .objectStore then [.rclone] else []) ++
    registerPlugins plugins

/-- The first mover that supports the class and can do something; an override
must exist and is taken as it is. -/
def select (movers : List Mover) (w : Workload) (override : String) :
    Except String (Option Mover × Capability) :=
  if override ≠ "" then
    match movers.find? fun m => m.name = override with
    | none => .error ("unknown mover: " ++ override)
    | some m => .ok (some m, m.discover w)
  else
    match movers.find? fun m =>
        m.supports w.cls && ((m.discover w).backup || (m.discover w).replicate || (m.discover w).restore) with
    | none => .ok (none, {})
    | some m => .ok (some m, m.discover w)

theorem mem_of_select {movers : List Mover} {w : Workload} {override : String} {m : Mover}
    {capability : Capability} (selected : select movers w override = .ok (some m, capability)) :
    m ∈ movers := by
  unfold select at selected
  split at selected
  · split at selected
    · cases selected
    · rename_i found
      cases selected
      exact List.mem_of_find?_eq_some found
  · split at selected
    · cases selected
    · rename_i found
      cases selected
      exact List.mem_of_find?_eq_some found

inductive Operation where
  | backup
  | restore
  | replicate
  deriving DecidableEq, Repr

/-- The mover that the Policy pins for a workload: by class first, then by Action. -/
def moverOverride (pol : Policy) (w : Workload) (op : Operation) : String :=
  let pinned := pol.spec.moverOverrides.get w.cls.text
  if pinned ≠ "" then pinned
  else
    match op with
    | .backup => pol.spec.backupMover
    | .restore => pol.spec.restoreMover
    | .replicate => pol.spec.replicateMover

/-- The mover that will replicate and promote a workload, if one is capable. -/
def replicator (movers : List Mover) (pol : Policy) (w : Workload) : Option Mover :=
  match select movers w (moverOverride pol w .replicate) with
  | .ok (some m, capability) => if capability.replicate then some m else none
  | _ => none

end Portage
