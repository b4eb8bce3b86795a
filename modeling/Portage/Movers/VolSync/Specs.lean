import Portage.Classify.Walk
import Portage.Movers.Registry
import Portage.ObjectStore.Location

/-! The VolSync mover: its clients and settings, the names that it derives from a
workload, and the custom resources that it writes. -/
namespace Portage.VolSync

open Go Kube ObjectStore

/-- A configured mover. An absent destination client stands for the source's where
both are one cluster, `parseAuthority` is how `net/url` reads a host, and `resticBytes`
reads the size of a copy from the mover's log. -/
structure Mover where
  dynamic : Option ClusterId := none
  destDynamic : Option ClusterId := none
  kube : Option ClusterId := none
  destKube : Option ClusterId := none
  transport : TransportType := .objectStore
  destPath : String := ""
  schedule : String := ""
  creds : Creds := {}
  copyMethod : String := ""
  snapshotClass : String := ""
  objectMover : String := ""
  storageClassMap : GoMap String String := .nil
  parseAuthority : String → Option String := some
  resticBytes : String → Int := fun _ => 0

def Mover.name (m : Mover) : String := if m.objectMover = "rclone" then "rclone" else "volsync"

/-! ### Claims -/

/-- The first claim that holds data, or the empty name. -/
def firstDataPVC (names : List String) : String :=
  (names.find? fun name => name ≠ "" && !scratchPVCName name).getD ""

/-! ### Names -/

def rcloneSecretName : String := "portage-rclone"

def tlsSecretName : String := "portage-rsync-tls"

def resticSecretStart : String := "portage-restic-"

/-- Fold every run of other characters to one dash; `dashed` says that the output so
far ends in one. -/
def foldName (started dashed : Bool) : List Char → List Char
  | [] => []
  | c :: rest =>
    if ('a' ≤ c ∧ c ≤ 'z') ∨ ('0' ≤ c ∧ c ≤ '9') then c :: foldName true false rest
    else if !dashed && started then '-' :: foldName started true rest
    else foldName started dashed rest

/-- A legal resource name for a workload, which leaves room for the start of the
Secret's name. -/
def dns1123 (name : String) : String :=
  let folded := trim '-' (foldName false false (toLower name).toList)
  let out := if folded = [] then "workload".toList else folded
  let most := 253 - resticSecretStart.length
  if out.length > most then
    let cut := trim '-' (out.take most)
    if cut = [] then "workload" else String.ofList cut
  else String.ofList out

def resticSecretName (workload : String) : String := resticSecretStart ++ dns1123 workload

/-- The folder of one workload under the pair's store URL, which every tenant shares. -/
def Mover.objectPath (m : Mover) (w : Workload) : String :=
  let base := String.ofList (trimRight '/' m.destPath.toList)
  let base := if base = "" then "s3://portage" else base
  let ns := if w.namespace_ = "" then "default" else w.namespace_
  let name := if w.name = "" then "workload" else w.name
  base ++ "/" ++ ns ++ "/" ++ name

/-! ### Settings -/

def Mover.effectiveCopyMethod (m : Mover) : String :=
  if m.copyMethod ≠ "" then m.copyMethod
  else if m.snapshotClass ≠ "" then "Snapshot" else "Direct"

def Mover.effectiveSchedule (m : Mover) : String :=
  if m.schedule ≠ "" then m.schedule else "*/5 * * * *"

/-- Whether the data goes through a restic repository that both sides would
initialise. -/
def Mover.resticCopy (m : Mover) : Bool := m.transport == .objectStore && m.objectMover != "rclone"

def needsPrivilegedMover (w : Workload) : Bool :=
  if w.runAsUser.any (· ≠ 0) then false else !w.fsGroup.any (· ≠ 0)

def moverSecurityContext (w : Workload) : Option SecurityContext :=
  if w.fsGroup.isNone ∧ w.runAsUser.isNone then none
  else some { fsGroup := w.fsGroup, runAsUser := w.runAsUser }

def engineRestoreUID (w : Workload) : Int :=
  if w.engine = "mysql" ∨ w.engine = "mariadb" then 27
  else if ["postgres", "redis", "mongo", "mongodb"].contains w.engine then 999
  else if w.cls = .sqlLogical ∨ w.cls = .kvLogical then 999
  else 0

/-- The destination's mover runs as the owner of the data and never with an
`fsGroup`, which would widen file modes. -/
def destMoverSecurityContext (w : Workload) : Option SecurityContext :=
  let uid := match w.runAsUser with
    | some user => if user ≠ 0 then user else engineRestoreUID w
    | none => engineRestoreUID w
  if uid = 0 then none else some { runAsUser := some uid }

def Mover.snapshotClassName (m : Mover) : Option String :=
  if m.effectiveCopyMethod = "Snapshot" ∧ m.snapshotClass ≠ "" then some m.snapshotClass else none

/-! ### Custom resources -/

def Mover.resticSpec (m : Mover) (w : Workload) : ResticSpec where
  repository := resticSecretName w.name
  copyMethod := m.effectiveCopyMethod
  cacheCapacity := "1Gi"
  pruneIntervalDays := some 7
  retainHourly := some 3
  retainDaily := some 1
  volumeSnapshotClassName := m.snapshotClassName
  moverSecurityContext := moverSecurityContext w

def Mover.destResticSpec (m : Mover) (w : Workload) : ResticSpec :=
  let pvc := firstDataPVC w.pvcNames
  { repository := resticSecretName w.name
    copyMethod := m.effectiveCopyMethod
    cacheCapacity := "1Gi"
    destinationPVC := if pvc = "" then none else some pvc
    accessModes := if pvc = "" then ["ReadWriteOnce"] else []
    capacity := if pvc = "" then some "1Gi" else none
    volumeSnapshotClassName := m.snapshotClassName
    moverSecurityContext := destMoverSecurityContext w
    moverTolerations := some [] }

def Mover.rcloneSpec (m : Mover) (w : Workload) : RcloneSpec where
  configSection := "rclone"
  config := rcloneSecretName
  destPath := m.objectPath w
  copyMethod := m.effectiveCopyMethod

/-- The ReplicationSource that copies a claim out. -/
def Mover.source (m : Mover) (w : Workload) (name pvc : String) : ReplicationSource where
  key := ⟨w.namespace_, name⟩
  owner := w.name
  sourcePVC := pvc
  schedule := m.effectiveSchedule
  transfer := some (
    if m.transport = .objectStore then
      if m.objectMover = "rclone" then .rclone (m.rcloneSpec w) else .restic (m.resticSpec w)
    else .rsyncTLS { copyMethod := some m.effectiveCopyMethod, keySecret := tlsSecretName })

/-- The ReplicationDestination that restores what the source copied. -/
def Mover.destination (m : Mover) (w : Workload) (name : String) : ReplicationDestination where
  key := ⟨w.namespace_, name⟩
  owner := w.name
  schedule := if m.transport = .objectStore then some m.effectiveSchedule else none
  transfer := some (
    if m.transport = .objectStore then
      if m.objectMover = "rclone" then .rclone { m.rcloneSpec w with moverTolerations := some [] }
      else .restic (m.destResticSpec w)
    else .rsyncTLS { serviceType := some "LoadBalancer", keySecret := tlsSecretName, moverTolerations := some [] })
  reported := by simp

/-! ### Clients -/

def Mover.remoteDest (m : Mover) : Bool :=
  m.destKube.isSome && m.kube.isSome && m.destKube != m.kube

/-- The destination's typed client. -/
def Mover.destKubeClient (m : Mover) : Option ClusterId := m.destKube.or m.kube

/-- The destination's dynamic client; the source's never stands in for a remote one. -/
def Mover.destDyn (m : Mover) : Option ClusterId :=
  match m.destDynamic with
  | some c => some c
  | none => if m.remoteDest then none else m.dynamic

theorem firstDataPVC_mem {names : List String} (present : firstDataPVC names ≠ "") :
    firstDataPVC names ∈ names ∧ scratchPVCName (firstDataPVC names) = false := by
  unfold firstDataPVC at present ⊢
  cases found : names.find? fun name => name ≠ "" && !scratchPVCName name with
  | none =>
    rw [found] at present
    exact absurd rfl present
  | some name =>
    have kept := List.find?_some found
    rw [Bool.and_eq_true, Bool.not_eq_true'] at kept
    exact ⟨List.mem_of_find?_eq_some found, kept.2⟩

end Portage.VolSync
