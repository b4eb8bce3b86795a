import Portage.Backup.Usefulness
import Portage.Movers.DataPath
import Portage.Movers.VolSync.Destination

/-! Replication through a VolSync pair: a ReplicationSource that copies a claim out of
the source, and a ReplicationDestination that restores it. -/
namespace Portage.VolSync

open Go Kube Process Program

/-- A kind of custom resource: where a cluster keeps it, and what an update keeps of
the stored object. -/
structure CustomKind (β : Type) where
  resource : Resource
  key : β → ObjKey
  items : Cluster → List β
  store : List β → Cluster → Cluster
  keepStatus : β → β → β

namespace CustomKind

variable {β : Type} (kind : CustomKind β)

def find (key : ObjKey) (cluster : Cluster) : Option β :=
  (kind.items cluster).find? fun item => kind.key item = key

def without (key : ObjKey) (cluster : Cluster) : Cluster :=
  kind.store (Keyed.remove kind.key key (kind.items cluster)) cluster

end CustomKind

def replicationSources : CustomKind ReplicationSource where
  resource := .replicationSources
  key := ReplicationSource.key
  items := Cluster.replicationSources
  store items cluster := { cluster with replicationSources := items }
  keepStatus obj cur := { obj with
    lastSyncTime := cur.lastSyncTime, latestImage := cur.latestImage, moverLogs := cur.moverLogs }

def replicationDestinations : CustomKind ReplicationDestination where
  resource := .replicationDestinations
  key := ReplicationDestination.key
  items := Cluster.replicationDestinations
  store items cluster := { cluster with replicationDestinations := items }
  keepStatus obj cur := { obj with
    lastSyncTime := cur.lastSyncTime, latestImage := cur.latestImage
    finished := cur.finished, reported := cur.reported }

section
variable {β : Type} [DecidableEq β] (kind : CustomKind β) (side : Side) (c : ClusterId)

def createCustom (obj : β) : Prog (Except ApiError Unit) :=
  createIn side c kind.resource (kind.key obj) (fun cluster => (kind.find (kind.key obj) cluster).isSome)
    fun cluster => kind.store (kind.items cluster ++ [obj]) cluster

def updateCustom (cur obj : β) : Prog (Except ApiError Unit) :=
  updateIn side c kind.resource (kind.key obj) (kind.find (kind.key obj)) cur fun cluster =>
    kind.store (Keyed.replace kind.key obj (kind.items cluster)) cluster

/-- Create an object, or update the one that is there and keep its status. -/
def applyNamespaced (obj : β) : Prog (Except ApiError Unit) := do
  match ← createCustom kind side c obj with
  | .ok _ => pure (.ok ())
  | .error refused =>
    if refused.reason ≠ .alreadyExists then pure (.error refused)
    else andThen (getObject c kind.resource (kind.key obj) (kind.find (kind.key obj))) fun cur =>
      updateCustom kind side c cur (kind.keepStatus obj cur)

end

/-- Drop a ReplicationDestination that was left on the source. -/
def scrubDestination (c : ClusterId) (key : ObjKey) : Prog (Except ApiError Unit) :=
  send (.scrub c .replicationDestinations key) c fun cluster =>
    if (replicationDestinations.find key cluster).isSome then
      .ok (replicationDestinations.without key cluster)
    else .error (notFound .replicationDestinations key)

/-- Drop a ReplicationSource that was left on the destination. -/
def scrubSource (c : ClusterId) (key : ObjKey) : Prog (Except ApiError Unit) :=
  deleteFrom .dest c .replicationSources key (fun cluster => (replicationSources.find key cluster).isSome)
    (replicationSources.without key)

/-- Drop the halves of a pair that are on the wrong cluster. -/
def scrubMisplaced (m : Mover) (key : ObjKey) : Prog Unit :=
  match m.destDyn, m.dynamic with
  | some dest, some source =>
    if dest = source then pure ()
    else do
      ignoring (scrubSource dest key)
      ignoring (scrubDestination source key)
  | _, _ => pure ()

def sourceMissing (m : Mover) (ns pvc : String) : Prog (Except String Bool) :=
  match m.kube with
  | none => pure (.ok false)
  | some c => sourcePVCMissing c ns pvc

/-- Whether the source has finished a copy. -/
def sourceHasSnapshot (dynamic : ClusterId) (key : ObjKey) : Prog (Except String Bool) :=
  if key.namespace_ = "" ∨ key.name = "" then pure (.ok false)
  else do
    match ← getObject dynamic .replicationSources key (replicationSources.find key) with
    | .ok rs => pure (.ok (rs.lastSyncTime ≠ ""))
    | .error refused =>
      if refused.reason = .notFound then pure (.ok false)
      else pure (.error ("volsync source sync: " ++ refused.message))

def privileged (side : Side) (kube : Option ClusterId) (w : Workload) (label : String) :
    Prog (Except String Unit) :=
  if needsPrivilegedMover w then
    orElse (enablePrivilegedMovers side kube w.namespace_) fun refused => label ++ refused.message
  else pure (.ok ())

/-- Make the namespace, the Secrets and the claims of a workload on a remote
destination, and undo pins to nodes of the source. -/
def prepareRemote (m : Mover) (dk : ClusterId) (w : Workload) : Prog (Except String Unit) :=
  andThen (orElse (sourceCapsuleLabels m.kube w.namespace_) fun text => "volsync dest namespace: " ++ text)
    fun labels =>
  andThen (orElse (ensureNamespace dk w.namespace_ labels) fun refused =>
    "volsync dest namespace: " ++ refused.message) fun _ =>
  andThen (privileged .dest (some dk) w "volsync dest privileged movers: ") fun _ =>
  andThen (orElse (copySecrets m.kube (some dk) w.namespace_ w.name) fun text =>
    "volsync dest secrets: " ++ text) fun _ =>
  andThen (Program.foldUntil (fun _ claim => ensureDestPVC m w.namespace_ claim)
    (w.pvcNames.filter fun claim => !scratchPVCName claim) ()) fun _ =>
  .ok <$> stripDestScheduling m w.namespace_

def prepareDest (m : Mover) (w : Workload) : Prog (Except String Unit) :=
  match m.destKubeClient with
  | none => pure (.ok ())
  | some dk => if some dk = m.kube then pure (.ok ()) else prepareRemote m dk w

def stopMoverIf (mounted : Bool) (m : Mover) (w : Workload) : Prog Unit :=
  if mounted then deleteWorkloadMoverJobs m.destKubeClient w.namespace_ (pairName w) else pure ()

/-- The destination's half; while a user's pod runs on the claim it is paused and its
mover is stopped. -/
def applyDestination (m : Mover) (dst : ClusterId) (w : Workload) (pvc : String) :
    Prog (Except String Unit) := do
  let mounted ← destUserMounted m.destKubeClient w.namespace_ pvc
  stopMoverIf mounted m w
  orElse (applyNamespaced replicationDestinations .dest dst
    { m.destination w (pairName w) with paused := mounted }) fun refused =>
      "volsync destination: " ++ refused.message

def snapshotTaken (m : Mover) (dyn : ClusterId) (w : Workload) : Prog (Except String Bool) :=
  if m.resticCopy then sourceHasSnapshot dyn ⟨w.namespace_, pairName w⟩ else pure (.ok true)

/-- Write both halves of the pair; the destination's waits for the first copy, since
both would initialise the repository. -/
def applyPair (m : Mover) (dyn dst : ClusterId) (w : Workload) (pvc : String) : Prog (Except String Unit) := do
  scrubMisplaced m ⟨w.namespace_, pairName w⟩
  andThen (snapshotTaken m dyn w) fun taken =>
    andThen (orElse (applyNamespaced replicationSources .source dyn (m.source w (pairName w) pvc)) fun refused =>
      "volsync source: " ++ refused.message) fun _ =>
    if m.resticCopy && !taken then protectCaches m w.namespace_
    else andThen (applyDestination m dst w pvc) fun _ => protectCaches m w.namespace_

def replicateClaim (m : Mover) (dyn : ClusterId) (w : Workload) (pvc : String) : Prog (Except String Unit) :=
  andThen (orElse (ensureSecrets m w) fun refused => "volsync source secrets: " ++ refused.message) fun _ =>
  andThen (privileged .source m.kube w "volsync privileged movers: ") fun _ =>
  andThen (prepareDest m w) fun _ =>
    match m.destDyn with
    | none => pure (.error "volsync: dest dynamic client required")
    | some dst =>
      if dst = dyn ∧ m.remoteDest then
        pure (.error ("volsync: dest dynamic client is the source cluster; " ++
          "refusing to write ReplicationDestination in-cluster"))
      else applyPair m dyn dst w pvc

/-- Keep a pair for the first data claim of a workload. -/
def replicate (m : Mover) (w : Workload) : Prog (Except String Unit) :=
  match m.dynamic with
  | none => pure (.error "volsync: dynamic client required")
  | some dyn =>
    let pvc := firstDataPVC w.pvcNames
    if w.pvcNames = [] then pure (.ok ())
    else if pvc = "" then protectCaches m w.namespace_
    else andThen (sourceMissing m w.namespace_ pvc) fun missing =>
      if missing then .ok <$> deletePair (some dyn) m.destDyn ⟨w.namespace_, pairName w⟩
      else replicateClaim m dyn w pvc

/-- What the source's half reports of its last copy. -/
def artifactFromSource (m : Mover) (dyn : ClusterId) (w : Workload) : Prog Backup.Artifact := do
  match ← getObject dyn .replicationSources ⟨w.namespace_, pairName w⟩
      (replicationSources.find ⟨w.namespace_, pairName w⟩) with
  | .error _ => pure { mover := m.name, message := "volsync restic waiting for ReplicationSource" }
  | .ok rs =>
    let size := m.resticBytes rs.moverLogs
    let ev := Backup.forWorkload w { sizeBytes := size, hasSnapshot := true, snapshotReady := true }
    pure (if rs.lastSyncTime = "" then
      { mover := m.name, sizeBytes := size, message := "volsync restic waiting for lastSyncTime" }
    else { ev with
      mover := m.name, id := rs.lastSyncTime, sizeBytes := if size > 0 then size else ev.sizeBytes
      message := if ev.message = "" ∨ hasPrefix ev.message "CSI snapshot" then
        "volsync restic " ++ rs.lastSyncTime else ev.message })

/-- Take a copy of the first data claim. -/
def backup (m : Mover) (w : Workload) : Prog (Except String Backup.Artifact) :=
  match m.dynamic with
  | none => pure (.error "volsync: dynamic client required")
  | some dyn =>
    let pvc := firstDataPVC w.pvcNames
    if pvc = "" then pure (.ok { mover := m.name, message := "no pvc" })
    else
      andThen (orElse (ensureSecrets m w) fun refused => "volsync source secrets: " ++ refused.message) fun _ =>
      andThen (privileged .source m.kube w "volsync privileged movers: ") fun _ =>
      andThen (orElse (ignoreExists <$> createCustom replicationSources .source dyn
        (m.source w (pairName w) pvc)) fun refused => "volsync source: " ++ refused.message) fun _ =>
      andThen (orElse (protectCaches m w.namespace_) fun text => "volsync scratch PVCs: " ++ text) fun _ =>
      .ok <$> artifactFromSource m dyn w

/-- Whether both halves have reported a sync and nothing is pinned to the source. -/
def probe (m : Mover) (w : Workload) : Prog ProbeResult := do
  let pin ← destMoverPinMessage m w.namespace_
  if pin ≠ "" then pure ⟨false, pin⟩
  else do
    let synced ← lagZero m.dynamic m.destDyn w
    pure (if synced then ⟨true, "volsync lastSyncTime set on source and dest"⟩
      else ⟨false, "volsync lastSyncTime not set on source and dest"⟩)

/-! ### What the mover writes -/

/-- The kinds that the mover writes with the source's typed client. -/
def sourceKinds : List Resource := [.secrets, .namespaces, .claims, .pods, .jobs]

/-- The kinds that the mover writes with the destination's typed client. -/
def destKinds : List Resource :=
  [.namespaces, .secrets, .claims, .statefulSets, .deployments, .daemonSets, .pods, .jobs]

/-- The requests of a mover for one workload: with which client, on which side and for
which kinds. -/
inductive Mover.Sends (m : Mover) (w : Workload) : Request → Prop where
  | source {c : ClusterId} {verb : Verb} {resource : Resource} {key : ObjKey} (client : m.kube = some c)
      (kind : resource ∈ sourceKinds) : Sends m w (Side.source.request verb c resource key)
  | dest {c : ClusterId} {verb : Verb} {resource : Resource} {key : ObjKey}
      (client : m.destKubeClient = some c) (kind : resource ∈ destKinds) :
      Sends m w (Side.dest.request verb c resource key)
  | sourceHalf {c : ClusterId} (verb : Verb) (client : m.dynamic = some c) :
      Sends m w (Side.source.request verb c .replicationSources ⟨w.namespace_, pairName w⟩)
  | destHalf {c : ClusterId} {verb : Verb} (client : m.destDyn = some c) :
      Sends m w (Side.dest.request verb c .replicationDestinations ⟨w.namespace_, pairName w⟩)
  | dropped {c : ClusterId} (client : m.destDyn = some c) :
      Sends m w (.delete c .replicationDestinations ⟨w.namespace_, pairName w⟩)
  | misplacedSource {c : ClusterId} (client : m.destDyn = some c) :
      Sends m w (Side.dest.request .delete c .replicationSources ⟨w.namespace_, pairName w⟩)
  | misplacedDest {c : ClusterId} (client : m.dynamic = some c) :
      Sends m w (.scrub c .replicationDestinations ⟨w.namespace_, pairName w⟩)

/-- A kind keeps its objects apart from those of other kinds. -/
def CustomKind.Separate (kind : CustomKind β) : Prop :=
  ∀ items : Cluster → List β, ChangesOnly kind.resource fun cluster => kind.store (items cluster) cluster

theorem replicationSources_separate : replicationSources.Separate := spares_replicationSources

theorem replicationDestinations_separate : replicationDestinations.Separate :=
  spares_replicationDestinations

section
variable {o : Oracle} {allowed : Request → Prop}

theorem confined_applyNamespaced [DecidableEq β] {kind : CustomKind β} (separate : kind.Separate)
    (side : Side) (c : ClusterId) (obj : β)
    (kept : ∀ cur, kind.key (kind.keepStatus obj cur) = kind.key obj)
    (fits : ∀ verb, allowed (side.request verb c kind.resource (kind.key obj))) :
    Moves o (Confined o allowed) (applyNamespaced kind side c obj) := by
  refine confined_bind (confined_createIn (fits .create) (separate _)) fun answer => ?_
  cases answer with
  | ok _ => exact confined_pure _
  | error refused =>
    refine confined_ite (fun _ => confined_pure _) fun _ =>
      confined_andThen (confined_getObject _ _ _ _) fun cur => confined_updateIn ?_ (separate _)
    rw [kept]
    exact fits .update

theorem confined_deletePair {source dest : Option ClusterId} {key : ObjKey}
    (sources : ∀ c, source = some c → allowed (.delete c .replicationSources key))
    (dests : ∀ c, dest = some c → allowed (.delete c .replicationDestinations key)) :
    Moves o (Confined o allowed) (deletePair source dest key) := by
  refine confined_ite (fun _ => confined_pure _) fun _ => confined_bind ?_ fun _ => ?_
  · cases source with
    | none => exact confined_pure _
    | some c =>
      exact confined_bind (confined_send (sources c rfl) rfl
        (alters_drop (spares_replicationSources fun cluster => cluster.replicationSources.filter _)))
        fun _ => confined_pure _
  · cases dest with
    | none => exact confined_pure _
    | some c =>
      exact confined_bind (confined_send (dests c rfl) rfl
        (alters_drop (spares_replicationDestinations fun cluster => cluster.replicationDestinations.filter _)))
        fun _ => confined_pure _

variable (m : Mover) (w : Workload)

theorem confined_scrubbed {key : ObjKey}
    (sources : ∀ dest source, m.destDyn = some dest → m.dynamic = some source → dest ≠ source →
      allowed (Side.dest.request .delete dest .replicationSources key))
    (dests : ∀ dest source, m.destDyn = some dest → m.dynamic = some source → dest ≠ source →
      allowed (.scrub source .replicationDestinations key)) :
    Moves o (Confined o allowed) (scrubMisplaced m key) := by
  unfold scrubMisplaced
  split
  · rename_i dest source destClient sourceClient
    refine confined_ite (fun _ => confined_pure _) fun apart => confined_bind
      (confined_ignoring (confined_deleteFrom ?_ (replicationSources_separate _))) fun _ =>
        confined_ignoring (confined_send ?_ rfl (alters_drop (replicationDestinations_separate _)))
    · exact sources dest source destClient sourceClient apart
    · exact dests dest source destClient sourceClient apart
  · exact confined_pure _

theorem confined_scrubMisplaced :
    Moves o (Confined o (m.Sends w)) (scrubMisplaced m ⟨w.namespace_, pairName w⟩) :=
  confined_scrubbed m (fun _ _ client _ _ => .misplacedSource client) fun _ _ _ client _ => .misplacedDest client

theorem confined_sourceMissing (ns pvc : String) :
    Moves o (Confined o allowed) (sourceMissing m ns pvc) := by
  unfold sourceMissing
  cases m.kube with
  | none => exact confined_pure _
  | some c => exact confined_of_reads (moves_sourcePVCMissing c ns pvc)

theorem confined_snapshotTaken (dyn : ClusterId) :
    Moves o (Confined o allowed) (snapshotTaken m dyn w) := by
  refine confined_ite (fun _ => confined_ite (fun _ => confined_pure _) fun _ => ?_) fun _ => confined_pure _
  refine confined_bind (confined_getObject _ _ _ _) fun answer => ?_
  cases answer with
  | ok rs => exact confined_pure _
  | error refused => exact confined_ite (fun _ => confined_pure _) fun _ => confined_pure _

theorem confined_privileged (side : Side) (kube : Option ClusterId) (label : String)
    (fits : ∀ c verb key, kube = some c → allowed (side.request verb c .namespaces key)) :
    Moves o (Confined o allowed) (privileged side kube w label) :=
  confined_ite (fun _ => confined_orElse (confined_enablePrivilegedMovers side kube _ fits))
    fun _ => confined_pure _

theorem confined_replicate_protectCaches (ns : String) :
    Moves o (Confined o (m.Sends w)) (protectCaches m ns) :=
  confined_protectCaches m ns
    (fun _ _ _ _ client kind => .source client (by revert kind; simp [scratchKinds, sourceKinds]; tauto))
    fun _ _ _ _ client kind => .dest client (by revert kind; simp [scratchKinds, destKinds]; tauto)

theorem confined_prepareDest (fits : ∀ c verb resource key, m.destKubeClient = some c → some c ≠ m.kube →
      resource ∈ destKinds → allowed (Side.dest.request verb c resource key)) :
    Moves o (Confined o allowed) (prepareDest m w) := by
  unfold prepareDest
  cases client : m.destKubeClient with
  | none => exact confined_pure _
  | some dk =>
    refine confined_ite (fun _ => confined_pure _) fun remote => ?_
    have dest : ∀ {verb : Verb} {resource : Resource} {key : ObjKey}, resource ∈ destKinds →
        allowed (Side.dest.request verb dk resource key) := fun kind => fits dk _ _ _ client remote kind
    have same : ∀ {c : ClusterId}, m.destKubeClient = some c → c = dk := fun found =>
      Option.some.inj (found.symm.trans client)
    refine confined_andThen (confined_orElse (confined_sourceCapsuleLabels _ _)) fun labels => ?_
    refine confined_andThen (confined_orElse (confined_ensureNamespace dk _ labels
      fun _ _ => dest (by decide))) fun _ => ?_
    refine confined_andThen (confined_privileged w _ _ _ fun c _ _ same => ?_) fun _ => ?_
    · obtain rfl := Option.some.inj same
      exact dest (by decide)
    refine confined_andThen (confined_orElse (confined_copySecrets _ _ fun c _ _ same => ?_)) fun _ => ?_
    · obtain rfl := Option.some.inj same
      exact dest (by decide)
    refine confined_andThen (confined_foldUntil (fun _ claim _ =>
      confined_ensureDestPVC m _ claim fun c _ _ found => ?_) _) fun _ => ?_
    · obtain rfl := same found
      exact dest (by decide)
    refine confined_map (confined_stripDestScheduling m _ fun c _ _ _ found kind => ?_)
    obtain rfl := same found
    exact dest (by revert kind; simp [scheduledKinds, destKinds]; tauto)

theorem confined_applyPair {dyn dst : ClusterId} (pvc : String) (sourceClient : m.dynamic = some dyn)
    (destClient : m.destDyn = some dst) : Moves o (Confined o (m.Sends w)) (applyPair m dyn dst w pvc) := by
  refine confined_bind (confined_scrubMisplaced m w) fun _ =>
    confined_andThen (confined_snapshotTaken m w dyn) fun taken => ?_
  refine confined_andThen (confined_orElse (confined_applyNamespaced replicationSources_separate _ _ _
    (fun _ => rfl) fun verb => .sourceHalf verb sourceClient)) fun _ => ?_
  refine confined_ite (fun _ => confined_replicate_protectCaches m w _) fun _ =>
    confined_andThen ?_ fun _ => confined_replicate_protectCaches m w _
  refine confined_bind (confined_destUserMounted _ _ _) fun mounted => confined_bind ?_ fun _ => ?_
  · exact confined_ite (fun _ => confined_deleteWorkloadMoverJobs _ _ _ fun _ _ _ client =>
      .dest client (by decide)) fun _ => confined_pure _
  · exact confined_orElse (confined_applyNamespaced replicationDestinations_separate _ _ _
      (fun _ => rfl) fun _ => .destHalf destClient)

/-- Replication sends nothing but the requests of the mover. -/
theorem confined_replicate : Moves o (Confined o (m.Sends w)) (replicate m w) := by
  unfold replicate
  cases client : m.dynamic with
  | none => exact confined_pure _
  | some dyn =>
    refine confined_ite (fun _ => confined_pure _) fun _ =>
      confined_ite (fun _ => confined_replicate_protectCaches m w _) fun _ =>
        confined_andThen (confined_sourceMissing m _ _) fun missing => confined_ite (fun _ => ?_) fun _ => ?_
    · refine confined_map (confined_deletePair (fun c same => ?_) fun c found => .dropped found)
      obtain rfl := Option.some.inj same
      exact .sourceHalf .delete client
    · refine confined_andThen (confined_orElse (confined_ensureSecrets m w fun _ _ _ found =>
        .source found (by decide))) fun _ => ?_
      refine confined_andThen (confined_privileged w _ _ _ fun _ _ _ found =>
        .source found (by decide)) fun _ => ?_
      refine confined_andThen (confined_prepareDest m w fun _ _ _ _ client _ kind => .dest client kind) fun _ => ?_
      cases destClient : m.destDyn with
      | none => exact confined_pure _
      | some dst =>
        exact confined_ite (fun _ => confined_pure _) fun _ => confined_applyPair m w _ client destClient

theorem confined_artifactFromSource (dyn : ClusterId) :
    Moves o (Confined o allowed) (artifactFromSource m dyn w) := by
  refine confined_bind (confined_getObject _ _ _ _) fun answer => ?_
  cases answer <;> exact confined_pure _

theorem confined_backup : Moves o (Confined o (m.Sends w)) (backup m w) := by
  unfold backup
  cases client : m.dynamic with
  | none => exact confined_pure _
  | some dyn =>
    refine confined_ite (fun _ => confined_pure _) fun _ => ?_
    refine confined_andThen (confined_orElse (confined_ensureSecrets m w fun _ _ _ found =>
      .source found (by decide))) fun _ => ?_
    refine confined_andThen (confined_privileged w _ _ _ fun _ _ _ found =>
      .source found (by decide)) fun _ => ?_
    refine confined_andThen (confined_orElse (confined_map (confined_createIn
      (.sourceHalf .create client) (replicationSources_separate _)))) fun _ => ?_
    exact confined_andThen (confined_orElse (confined_replicate_protectCaches m w _)) fun _ =>
      confined_map (confined_artifactFromSource m w dyn)

theorem moves_probe {fits : Event → Prop} (saw : ∀ c rd, fits (.saw c rd)) :
    Moves o (Extends o fits) (probe m w) := by
  have silent : Moves o (Confined o fun _ => False) (destMoverPinMessage m w.namespace_) :=
    confined_destMoverPinMessage m w.namespace_
  refine moves_bind (Moves.extends silent fun _ never => never.elim) fun pin =>
    moves_ite (fun _ => moves_pure _) fun _ => moves_bind (moves_lagZero _ _ _ saw) fun _ => moves_pure _

end

end Portage.VolSync
