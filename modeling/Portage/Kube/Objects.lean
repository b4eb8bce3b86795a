import Portage.Api.Types
import Portage.Go.Map
import Portage.Go.Text

/-! The Kubernetes objects that the Action runners read and write, with the
fields they use, and one cluster's worth of them. -/
namespace Portage.Kube

open Go

structure ObjKey where
  namespace_ : String
  name : String
  deriving DecidableEq, Repr

structure Toleration where
  key : String
  rest : String := ""
  deriving DecidableEq, Repr

/-- The scheduling and volume part of a pod template. An absent security context
is an absent `fsGroup`. -/
structure PodSpec where
  nodeSelector : List (String × String) := []
  nodeName : String := ""
  nodeAffinity : Option String := none
  topologySpreadConstraints : List String := []
  tolerations : List Toleration := []
  fsGroup : Option Int := none
  initImages : List String := []
  images : List String := []
  deriving DecidableEq, Repr

/-- A StatefulSet or a Deployment. `replicas` is absent when the field is nil, and
`standby` is the ConfigMap that a standby's template mounts. -/
structure Controller where
  annotations : GoMap String String := .nil
  replicas : Option Int32 := none
  readyReplicas : Int32 := 0
  template : PodSpec := {}
  standby : Option String := none
  deriving DecidableEq

/-- The number of replicas asked for; nil means one. -/
def Controller.wanted (controller : Controller) : Int32 := controller.replicas.getD 1

structure DaemonSet where
  numberReady : Int32 := 0
  template : PodSpec := {}
  deriving DecidableEq

structure NodeRequirement where
  key : String
  operator : String := "In"
  values : List String := []
  deriving DecidableEq, Repr

structure NodeSelectorTerm where
  matchExpressions : List NodeRequirement := []
  matchFields : List NodeRequirement := []
  deriving DecidableEq, Repr

/-- What ties a pod to nodes: the selector, the node it is bound to, and the terms
of its required node affinity. -/
structure Pinning where
  nodeSelector : GoMap String String := .nil
  nodeName : String := ""
  required : List NodeSelectorTerm := []
  deriving DecidableEq, Repr

/-- A pod. `claims` are the claims of its volumes, and `jobOwners` the Jobs among its
owner references. -/
structure Pod where
  key : ObjKey
  running : Bool := true
  ready : Bool := true
  containers : List String := []
  owners : List String := []
  claims : List String := []
  pinning : Pinning := {}
  labels : GoMap String String := .nil
  images : List String := []
  jobOwners : List String := []
  deriving DecidableEq, Repr

structure Node where
  name : String
  hostname : String := ""
  ready : Bool := true
  deriving DecidableEq, Repr

structure Job where
  key : ObjKey
  pinning : Pinning := {}
  succeeded : Int32 := 0
  env : List (String × String) := []
  deriving DecidableEq

structure Namespace where
  labels : GoMap String String := .nil
  annotations : GoMap String String := .nil
  deriving DecidableEq, Repr

/-- A Secret that replication reads its credentials from. -/
structure Secret where
  type : String := "Opaque"
  data : GoMap String String := .nil
  deriving DecidableEq, Repr

structure ReplicaSet where
  key : ObjKey
  owners : List (String × String) := []
  deriving DecidableEq, Repr

inductive ClaimPhase where
  | bound
  | pending
  | other
  deriving DecidableEq, Repr

structure Claim where
  annotations : GoMap String String := .nil
  labels : GoMap String String := .nil
  storageClassName : Option String := none
  volumeName : String := ""
  size : String := ""
  dataSource : Option String := none
  phase : ClaimPhase := .other
  owners : List (String × String) := []
  deriving DecidableEq, Repr

/-- A VolumeSnapshot with the labels it is selected by. `pvc` is the label that names the
claim, `source` the claim that it is a copy of, and `taken` when the driver took it, zero
before that. -/
structure VolumeSnapshot where
  key : ObjKey
  workloadName : String
  workloadKind : String
  readyToUse : Bool
  restoreSize : String := ""
  pvc : String := ""
  source : String := ""
  taken : Time := 0
  deriving DecidableEq, Repr

structure SecurityContext where
  fsGroup : Option Int := none
  runAsUser : Option Int := none
  deriving DecidableEq, Repr

structure ResticSpec where
  repository : String
  copyMethod : String
  cacheCapacity : String
  pruneIntervalDays : Option Int := none
  retainHourly : Option Int := none
  retainDaily : Option Int := none
  destinationPVC : Option String := none
  accessModes : List String := []
  capacity : Option String := none
  volumeSnapshotClassName : Option String := none
  moverSecurityContext : Option SecurityContext := none
  moverTolerations : Option (List Toleration) := none
  deriving DecidableEq, Repr

structure RcloneSpec where
  configSection : String
  config : String
  destPath : String
  copyMethod : String
  moverTolerations : Option (List Toleration) := none
  deriving DecidableEq, Repr

structure RsyncSpec where
  copyMethod : Option String := none
  serviceType : Option String := none
  keySecret : String
  moverTolerations : Option (List Toleration) := none
  deriving DecidableEq, Repr

/-- The mover section of a VolSync spec. -/
inductive Transfer where
  | restic (spec : ResticSpec)
  | rclone (spec : RcloneSpec)
  | rsyncTLS (spec : RsyncSpec)
  deriving DecidableEq, Repr

/-- The claim that a restore writes into, if the spec names one. -/
def Transfer.destinationPVC : Transfer → Option String
  | restic spec => spec.destinationPVC
  | rclone _ | rsyncTLS _ => none

/-- A VolSync ReplicationSource, as written by Portage and reported on by VolSync. -/
structure ReplicationSource where
  key : ObjKey
  owner : String := ""
  sourcePVC : String := ""
  lastSyncTime : String := ""
  latestImage : Bool := false
  schedule : String := ""
  transfer : Option Transfer := none
  moverLogs : String := ""
  deriving DecidableEq, Repr

/-- A VolSync ReplicationDestination. `finished` lists when the source snapshots
were taken that it has finished syncing; VolSync reports a sync only after it has
finished one. -/
structure ReplicationDestination where
  key : ObjKey
  lastSyncTime : String := ""
  latestImage : Bool := false
  finished : List Time := []
  reported : lastSyncTime ≠ "" ∨ latestImage = true → finished ≠ []
  owner : String := ""
  schedule : Option String := none
  transfer : Option Transfer := none
  paused : Bool := false
  deriving DecidableEq

inductive PayloadKind where
  | configMap
  | secret
  | service
  deriving DecidableEq, Repr

abbrev Payloads := PayloadKind → ObjKey → Option String

/-- One cluster. -/
structure Cluster where
  statefulSets : ObjKey → Option Controller := fun _ => none
  deployments : ObjKey → Option Controller := fun _ => none
  daemonSets : ObjKey → Option DaemonSet := fun _ => none
  replicaSets : List ReplicaSet := []
  pods : List Pod := []
  claims : ObjKey → Option Claim := fun _ => none
  snapshots : List VolumeSnapshot := []
  replicationSources : List ReplicationSource := []
  replicationDestinations : List ReplicationDestination := []
  payloads : Payloads := fun _ _ => none
  namespaces : String → Option Namespace := fun _ => none
  nodes : List Node := []
  jobs : List Job := []
  secrets : ObjKey → Option Secret := fun _ => none

abbrev ClusterId := Nat

abbrev Clusters := ClusterId → Cluster

abbrev Bytes := List UInt8

/-- The kinds whose API the runners call. -/
inductive Resource where
  | statefulSets
  | deployments
  | daemonSets
  | replicaSets
  | pods
  | claims
  | configMaps
  | secrets
  | services
  | snapshots
  | replicationSources
  | replicationDestinations
  | namespaces
  | nodes
  | jobs
  deriving DecidableEq, Repr

/-- The plural name an API error quotes. -/
def Resource.text : Resource → String
  | statefulSets => "statefulsets.apps"
  | deployments => "deployments.apps"
  | daemonSets => "daemonsets.apps"
  | replicaSets => "replicasets.apps"
  | pods => "pods"
  | claims => "persistentvolumeclaims"
  | configMaps => "configmaps"
  | secrets => "secrets"
  | services => "services"
  | snapshots => "volumesnapshots.snapshot.storage.k8s.io"
  | replicationSources => "replicationsources.volsync.backube"
  | replicationDestinations => "replicationdestinations.volsync.backube"
  | namespaces => "namespaces"
  | nodes => "nodes"
  | jobs => "jobs.batch"

def PayloadKind.resource : PayloadKind → Resource
  | configMap => .configMaps
  | secret => .secrets
  | service => .services

/-- Why the API server refused a request, as the controllers tell it apart. -/
inductive Reason where
  | notFound
  | alreadyExists
  | conflict
  | other
  deriving DecidableEq, Repr

structure ApiError where
  reason : Reason
  message : String
  deriving DecidableEq, Repr

def notFound (resource : Resource) (key : ObjKey) : ApiError :=
  ⟨.notFound, resource.text ++ " \"" ++ key.name ++ "\" not found"⟩

def alreadyExists (resource : Resource) (key : ObjKey) : ApiError :=
  ⟨.alreadyExists, resource.text ++ " \"" ++ key.name ++ "\" already exists"⟩

def found (resource : Resource) (key : ObjKey) : Option α → Except ApiError α
  | some value => .ok value
  | none => .error (notFound resource key)

@[simp] theorem found_some (resource : Resource) (key : ObjKey) (value : α) :
    found resource key (some value) = .ok value := rfl

@[simp] theorem found_none (resource : Resource) (key : ObjKey) :
    found resource key (none : Option α) = .error (notFound resource key) := rfl

end Portage.Kube
