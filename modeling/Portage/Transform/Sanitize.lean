import Portage.Classify.Catalog
import Portage.Go.Json
import Portage.Go.Map

/-! The sanitizer: it strips what ties an object to its cluster and maps storage and
runtime classes. -/
namespace Portage.Transform

open Go

structure Options where
  storageClassMap : GoMap String String := .nil
  defaultStorageClass : String := ""
  runtimeClassMap : GoMap String String := .nil
  deriving DecidableEq, Repr

/-! ### Labels and annotations -/

def dropAnnotationExact : List String := [
  "volume.kubernetes.io/selected-node",
  "pv.kubernetes.io/bind-completed",
  "pv.kubernetes.io/bound-by-controller",
  "volume.beta.kubernetes.io/storage-provisioner",
  "volume.kubernetes.io/storage-provisioner",
  "velero.io/backup-name",
  "velero.io/restore-name"]

def dropAnnotationStarts : List String := [
  "service.beta.kubernetes.io/aws-load-balancer-",
  "service.beta.kubernetes.io/azure-",
  "cloud.google.com/",
  "kubernetes.digitalocean.com/",
  "ovhcloud.com/",
  "metallb.universe.tf/"]

def dropLabelKeys : List String := [
  "topology.kubernetes.io/zone",
  "topology.kubernetes.io/region",
  "failure-domain.beta.kubernetes.io/zone",
  "failure-domain.beta.kubernetes.io/region",
  "topology.ebs.csi.aws.com/zone",
  "topology.gke.io/zone"]

def dropsAnn (key : String) : Bool :=
  dropAnnotationExact.contains key || dropAnnotationStarts.any (hasPrefix key)

def filterAnns (annotations : List (String × String)) : List (String × String) :=
  annotations.filter fun entry => !dropsAnn entry.1

def filterLabels (labels : List (String × String)) : List (String × String) :=
  labels.filter fun entry => !dropLabelKeys.contains entry.1

/-- `SetAnnotations` and `SetLabels`: an empty map removes the field. -/
def setStrings (path : List String) (entries : List (String × String)) (obj : Fields) : Fields :=
  if entries = [] then obj.removeNested path
  else obj.setNested path (.object (entries.map fun entry => (entry.1, .string entry.2)))

/-! ### Classes -/

def mapSC (src : String) (opt : Options) : String :=
  match opt.storageClassMap.find? src with
  | some dst => dst
  | none => if opt.defaultStorageClass ≠ "" then opt.defaultStorageClass else src

def storageClassPath : List String := ["spec", "storageClassName"]

def remapStorageClass (opt : Options) (obj : Fields) : Fields :=
  let sc := (obj.nestedString storageClassPath).getD ""
  if sc = "" then
    if opt.defaultStorageClass ≠ "" then obj.setNested storageClassPath (.string opt.defaultStorageClass) else obj
  else obj.setNested storageClassPath (.string (mapSC sc opt))

/-- The class that a runtime class becomes; the others are stripped. -/
def mapRuntimeClass (classes : GoMap String String) (src : String) : Option String :=
  (classes.find? src).filter (· ≠ "")

mutual

/-- Map or strip the runtime class of a map, then of the maps below it: those among its
values, and those among the items of a list. -/
def walkRuntimeClass (classes : GoMap String String) : Fields → Fields
  | [] => []
  | (key, value) :: rest =>
    if key = "runtimeClassName" ∧ value.text ≠ "" then
      match mapRuntimeClass classes value.text with
      | some dst => (key, .string dst) :: walkRuntimeClass classes rest
      | none => walkRuntimeClass classes rest
    else (key, walkRuntimeValue classes value) :: walkRuntimeClass classes rest

def walkRuntimeValue (classes : GoMap String String) : Json → Json
  | .object fields => .object (walkRuntimeClass classes fields)
  | .array items => .array (walkRuntimeItems classes items)
  | .null => .null
  | .bool value => .bool value
  | .int value => .int value
  | .float value => .float value
  | .string text => .string text

def walkRuntimeItems (classes : GoMap String String) : List Json → List Json
  | [] => []
  | item :: rest => walkRuntimeItem classes item :: walkRuntimeItems classes rest

def walkRuntimeItem (classes : GoMap String String) : Json → Json
  | .object fields => .object (walkRuntimeClass classes fields)
  | .array items => .array items
  | .null => .null
  | .bool value => .bool value
  | .int value => .int value
  | .float value => .float value
  | .string text => .string text

end

/-! ### Scheduling -/

def clusterLocalTolerationKey (key : String) : Bool :=
  ["sandbox.gke.io/runtime", "nvidia.com/gpu", "kubernetes.io/hostname"].contains key ||
    contains key "runtimeclass" || hasSuffix key "/runtime"

/-- Whether a toleration goes; only a map with such a key does. -/
def localToleration : Json → Bool
  | .object fields => clusterLocalTolerationKey ((fields.lookup "key").elim "" Json.text)
  | _ => false

mutual

/-- Drop the cluster-local tolerations of a map and of the maps below it. A list that
is left empty is removed. -/
def stripClusterLocalTolerations : Fields → Fields
  | [] => []
  | (key, value) :: rest =>
    let stripped := stripTolerationValue (key = "tolerations") value
    if key = "tolerations" ∧ stripped = .array [] then stripClusterLocalTolerations rest
    else (key, stripped) :: stripClusterLocalTolerations rest

def stripTolerationValue (tolerations : Bool) : Json → Json
  | .object fields => .object (stripClusterLocalTolerations fields)
  | .array items => .array (stripTolerationItems tolerations items)
  | .null => .null
  | .bool value => .bool value
  | .int value => .int value
  | .float value => .float value
  | .string text => .string text

def stripTolerationItems (tolerations : Bool) : List Json → List Json
  | [] => []
  | item :: rest =>
    if tolerations && localToleration item then stripTolerationItems tolerations rest
    else stripTolerationItem item :: stripTolerationItems tolerations rest

def stripTolerationItem : Json → Json
  | .object fields => .object (stripClusterLocalTolerations fields)
  | .array items => .array items
  | .null => .null
  | .bool value => .bool value
  | .int value => .int value
  | .float value => .float value
  | .string text => .string text

end

def affinityPaths : List (List String) := [
  ["spec", "nodeSelector"],
  ["spec", "nodeName"],
  ["spec", "affinity", "nodeAffinity"],
  ["spec", "template", "spec", "nodeSelector"],
  ["spec", "template", "spec", "nodeName"],
  ["spec", "template", "spec", "affinity", "nodeAffinity"],
  ["spec", "template", "spec", "topologySpreadConstraints"],
  ["spec", "jobTemplate", "spec", "template", "spec", "nodeSelector"],
  ["spec", "jobTemplate", "spec", "template", "spec", "nodeName"]]

/-- Remove the fields at some paths. -/
def removeAll (paths : List (List String)) (obj : Fields) : Fields :=
  paths.foldl (fun obj path => obj.removeNested path) obj

def stripAffinity (obj : Fields) : Fields := stripClusterLocalTolerations (removeAll affinityPaths obj)

/-! ### Volume ownership -/

def intFromUnstructured : Json → Option Int
  | .int n => some n
  | .float value => some (value.num.tdiv value.den)
  | _ => none

def containersMatchPostgres : Json → Bool
  | .array items => items.any fun item =>
    match item with
    | .object container => (matchImage ((container.lookup "image").elim "" Json.text)).any (·.name = "postgres")
    | _ => false
  | _ => false

def postgresContainers (spec : Fields) : Bool :=
  (spec.lookup "containers").any containersMatchPostgres || (spec.lookup "initContainers").any containersMatchPostgres

/-- Whether the map is a pod spec whose `fsGroup` has to go: any on Postgres, and zero
on every engine. -/
def dropsFSGroup (spec : Fields) : Bool :=
  match spec.lookup "securityContext" with
  | some (.object sc) =>
    ((spec.lookup "containers").isSome || (spec.lookup "initContainers").isSome) &&
      ((sc.lookup "fsGroup").bind intFromUnstructured).any fun group => group = 0 || postgresContainers spec
  | _ => false

/-- Whether a security context holds nothing but its `fsGroup`. -/
def onlyFSGroup : Json → Bool
  | .object sc => Fields.erase "fsGroup" sc == []
  | _ => false

mutual

/-- Strip a map and the maps below it. `drops` says that the map is a pod spec that
loses its `fsGroup`, and `skips` that it is the security context of one. -/
def stripFSGroupEntries (drops skips : Bool) : Fields → Fields
  | [] => []
  | (key, value) :: rest =>
    if skips ∧ key = "fsGroup" then stripFSGroupEntries drops skips rest
    else if drops ∧ key = "securityContext" ∧ onlyFSGroup value then stripFSGroupEntries drops skips rest
    else (key, stripFSGroupValue (drops ∧ key = "securityContext") value) :: stripFSGroupEntries drops skips rest

def stripFSGroupValue (skips : Bool) : Json → Json
  | .object fields => .object (stripFSGroupEntries (dropsFSGroup fields) skips fields)
  | .array items => .array (stripFSGroupItems items)
  | .null => .null
  | .bool value => .bool value
  | .int value => .int value
  | .float value => .float value
  | .string text => .string text

def stripFSGroupItems : List Json → List Json
  | [] => []
  | item :: rest => stripFSGroupItem item :: stripFSGroupItems rest

def stripFSGroupItem : Json → Json
  | .object fields => .object (stripFSGroupEntries (dropsFSGroup fields) false fields)
  | .array items => .array items
  | .null => .null
  | .bool value => .bool value
  | .int value => .int value
  | .float value => .float value
  | .string text => .string text

end

def stripPodFSGroup (obj : Fields) : Fields := stripFSGroupEntries (dropsFSGroup obj) false obj

/-! ### The whole -/

/-- What `Object` removes first. -/
def localPaths : List (List String) := [
  ["metadata", "uid"],
  ["metadata", "resourceVersion"],
  ["metadata", "generation"],
  ["metadata", "managedFields"],
  ["metadata", "ownerReferences"],
  ["metadata", "deletionTimestamp"],
  ["metadata", "deletionGracePeriodSeconds"],
  ["status"],
  ["spec", "volumeName"],
  ["spec", "clusterIP"],
  ["spec", "clusterIPs"],
  ["spec", "nodeName"]]

def annotationsPath : List String := ["metadata", "annotations"]

def labelsPath : List String := ["metadata", "labels"]

/-- Drop the cluster-local fields, labels and annotations. -/
def dropLocal (obj : Fields) : Fields :=
  let obj := removeAll localPaths obj
  let obj := setStrings annotationsPath (filterAnns (obj.nestedStrings annotationsPath)) obj
  setStrings labelsPath (filterLabels (obj.nestedStrings labelsPath)) obj

/-- `transform.Object`. -/
def object (opt : Options) (obj : Fields) : Fields :=
  stripPodFSGroup (stripAffinity (walkRuntimeClass opt.runtimeClassMap (remapStorageClass opt (dropLocal obj))))

end Portage.Transform
