import Portage.Movers.VolSync.Secrets
import Portage.Process.Keyed
import Portage.Workloads.Claims

/-! What the mover does on the destination before it restores: the claims, the pins of
workloads, pods and Jobs to nodes of the source, and scratch claims on both sides. -/
namespace Portage.VolSync

open Go Kube Process Program

/-! ### Claims -/

/-- The destination's copy of a source claim. -/
def destClaim (m : Mover) (claim : Claim) : Claim :=
  let out := transformPVC claim { storageClassMap := m.storageClassMap }
  { out with labels := out.labels.insert "app.kubernetes.io/managed-by" "portage" }

def placeClaim (c : ClusterId) (key : ObjKey) (claim : Claim) : Prog (Except ApiError Unit) :=
  createIn .dest c .claims key (fun cluster => (cluster.claims key).isSome) (·.putClaim key claim)

/-- Create the claim on the destination if it is missing there. -/
def ensureDestPVC (m : Mover) (ns name : String) : Prog (Except String Unit) :=
  match m.kube, m.destKubeClient with
  | some src, some dst =>
    if src = dst ∨ name = "" then pure (.ok ())
    else do
      let key : ObjKey := ⟨ns, name⟩
      match ← getObject dst .claims key (·.claims key) with
      | .ok _ => pure (.ok ())
      | .error refused =>
        if refused.reason ≠ .notFound then
          pure (.error ("volsync dest pvc get " ++ ns ++ "/" ++ name ++ ": " ++ refused.message))
        else
          match ← getObject src .claims key (·.claims key) with
          | .error missing =>
            pure (.error ("volsync dest pvc: source " ++ ns ++ "/" ++ name ++ ": " ++ missing.message))
          | .ok claim => orElse (placeClaim dst key (destClaim m claim)) fun refused =>
              "volsync dest pvc create " ++ ns ++ "/" ++ name ++ ": " ++ refused.message
  | _, _ => pure (.ok ())

/-! ### Pins -/

def hostnameLabel : String := "kubernetes.io/hostname"

/-- The first value of a requirement on one of the keys. -/
def requiredHost (keys : List String) (req : NodeRequirement) : Option String :=
  if keys.contains req.key then req.values.head? else none

def termHost (term : NodeSelectorTerm) : Option String :=
  (term.matchExpressions.findSome? (requiredHost [hostnameLabel])).or
    (term.matchFields.findSome? (requiredHost ["metadata.name", hostnameLabel]))

/-- The host that a pod is tied to, or the empty name. -/
def hostnamePin (pinning : Pinning) : String :=
  let selected := pinning.nodeSelector.get hostnameLabel
  if selected ≠ "" then selected
  else if pinning.nodeName ≠ "" then pinning.nodeName
  else (pinning.required.findSome? termHost).getD ""

def isVolSyncMoverJob (name : String) : Bool :=
  hasPrefix name "volsync-src-" || hasPrefix name "volsync-dst-"

/-- The names of the Ready nodes; none if they cannot be listed. -/
def destHostnames (c : ClusterId) : Prog (List String) := do
  match ← listObjects c .nodes "" (·.nodes) with
  | .error _ => pure []
  | .ok nodes => pure ((nodes.filter fun node => node.ready).flatMap fun node =>
      if node.hostname = "" then [node.name] else [node.name, node.hostname])

/-- Whether something is tied to a host that is none of the given. -/
def pinnedElsewhere (hosts : List String) (pinning : Pinning) : Bool :=
  hostnamePin pinning ≠ "" && !hosts.contains (hostnamePin pinning)

def deletePod (side : Side) (c : ClusterId) (key : ObjKey) : Prog (Except ApiError Unit) :=
  deleteFrom side c .pods key (fun cluster => cluster.pods.any fun pod => pod.key = key) fun cluster =>
    { cluster with pods := Keyed.remove Pod.key key cluster.pods }

def deleteJob (side : Side) (c : ClusterId) (key : ObjKey) : Prog (Except ApiError Unit) :=
  deleteFrom side c .jobs key (fun cluster => cluster.jobs.any fun job => job.key = key) fun cluster =>
    { cluster with jobs := Keyed.remove Job.key key cluster.jobs }

def listJobs (c : ClusterId) (ns : String) : Prog (Except ApiError (List Job)) :=
  listObjects c .jobs ns fun cluster => cluster.jobs.filter fun job => job.key.namespace_ = ns

/-- Heal the template of a listed controller. -/
def stripController (c : ClusterId) (kind : ControllerKind) (item : ObjKey × Controller) : Prog Unit :=
  let (template, names) := healPodSpec item.2.template
  if names.isEmpty then pure ()
  else ignoring (updateIn .dest c kind.resource item.1 (kind.table · item.1) item.2
    (kind.put · item.1 { item.2 with template }))

def stripControllers (c : ClusterId) (ns : String) (kind : ControllerKind) : Prog Unit := do
  match ← listTable c kind.resource ns kind.table with
  | .error _ => pure ()
  | .ok items => forEach items (stripController c kind)

def stripDaemonSet (c : ClusterId) (item : ObjKey × DaemonSet) : Prog Unit :=
  let (template, names) := healPodSpec item.2.template
  if names.isEmpty then pure ()
  else ignoring (updateIn .dest c .daemonSets item.1 (·.daemonSets item.1) item.2 fun cluster =>
    { cluster with daemonSets := fun other =>
        if other = item.1 then some { item.2 with template } else cluster.daemonSets other })

def stripDaemonSets (c : ClusterId) (ns : String) : Prog Unit := do
  match ← listTable c .daemonSets ns (·.daemonSets) with
  | .error _ => pure ()
  | .ok items => forEach items (stripDaemonSet c)

/-- Delete the pods that are tied to a host other than the given; movers are left. -/
def deletePinnedDestPods (c : ClusterId) (ns : String) (hosts : List String) : Prog Unit := do
  match ← listObjects c .pods ns (podsIn ns) with
  | .error _ => pure ()
  | .ok pods =>
    let pinned := pods.filter fun pod => !isVolSyncMoverJob pod.key.name && pinnedElsewhere hosts pod.pinning
    forEach pinned fun pod => ignoring (deletePod .dest c pod.key)

def deletePinnedMoverJobs (c : ClusterId) (ns : String) (hosts : List String) : Prog Unit := do
  match ← listJobs c ns with
  | .error _ => pure ()
  | .ok jobs =>
    let pinned := jobs.filter fun job => isVolSyncMoverJob job.key.name && pinnedElsewhere hosts job.pinning
    forEach pinned fun job => ignoring (deleteJob .dest c job.key)

/-- Undo the pins that were copied from the source. -/
def stripDestScheduling (m : Mover) (ns : String) : Prog Unit :=
  match m.destKubeClient with
  | none => pure ()
  | some c =>
    if !m.remoteDest ∨ ns = "" then pure ()
    else do
      let hosts ← destHostnames c
      stripControllers c ns .statefulSet
      stripControllers c ns .deployment
      stripDaemonSets c ns
      deletePinnedDestPods c ns hosts
      deletePinnedMoverJobs c ns hosts

/-- What still keeps a mover or a pod of the destination from being scheduled. -/
def destMoverPinMessage (m : Mover) (ns : String) : Prog String :=
  match m.destKubeClient with
  | none => pure ""
  | some c =>
    if !m.remoteDest ∨ ns = "" then pure ""
    else do
      let hosts ← destHostnames c
      match ← listJobs c ns with
      | .error _ => pure ""
      | .ok jobs =>
        match jobs.find? fun job => isVolSyncMoverJob job.key.name && pinnedElsewhere hosts job.pinning with
        | some job => pure ("dest mover job " ++ job.key.name ++ " pinned to source-only node " ++
            hostnamePin job.pinning)
        | none =>
          match ← listObjects c .pods ns (podsIn ns) with
          | .error _ => pure ""
          | .ok pods =>
            match pods.find? fun pod => !isVolSyncMoverJob pod.key.name && pinnedElsewhere hosts pod.pinning with
            | some pod => pure ("dest pod " ++ pod.key.name ++ " pinned to source-only node " ++
                hostnamePin pod.pinning)
            | none => pure ""

/-! ### Running pods -/

/-- A Running pod of a user that mounts the claim. -/
def userMounts (pvc : String) (pod : Pod) : Bool :=
  !isVolSyncMoverJob pod.key.name && pod.running && pod.claims.contains pvc

/-- Whether a user's pod runs on the claim; a list that fails counts as no. -/
def destUserMounted (kube : Option ClusterId) (ns pvc : String) : Prog Bool :=
  match kube with
  | none => pure false
  | some c =>
    if ns = "" ∨ pvc = "" then pure false
    else do
      match ← listObjects c .pods ns (podsIn ns) with
      | .error _ => pure false
      | .ok pods => pure (pods.any (userMounts pvc))

/-- Delete the mover Jobs whose name has the name of the pair in it. -/
def deleteWorkloadMoverJobs (kube : Option ClusterId) (ns rsName : String) : Prog Unit :=
  match kube with
  | none => pure ()
  | some c =>
    if ns = "" ∨ rsName = "" then pure ()
    else do
      match ← listJobs c ns with
      | .error _ => pure ()
      | .ok jobs =>
        let named := jobs.filter fun job => isVolSyncMoverJob job.key.name &&
          (contains job.key.name (rsName ++ "-") || hasSuffix job.key.name rsName)
        forEach named fun job => ignoring (deleteJob .dest c job.key)

/-! ### Scratch claims -/

def scratchAnnotations : List (String × String) := [
  ("k8up.io/backup", "false"), ("k8up.synextreme.com/backup", "false"),
  ("backup.appuio.io/backup", "false"), ("stash.appscode.com/skip", "true")]

def scratchLabels : List (String × String) := [
  ("velero.io/exclude-from-backup", "true"), ("portage.io/scratch", "true")]

def setAll (entries : List (String × String)) (m : GoMap String String) : GoMap String String :=
  entries.foldl (fun m entry => if m.get entry.1 = entry.2 then m else m.insert entry.1 entry.2) m

/-- Mark a claim so that backup tools pass it over. -/
def scratchMarks (claim : Claim) : Claim :=
  { claim with
    annotations := setAll scratchAnnotations claim.annotations
    labels := setAll scratchLabels claim.labels }

def markScratchPVC (side : Side) (c : ClusterId) (key : ObjKey) : Prog (Except ApiError Unit) :=
  andThen (getObject c .claims key (·.claims key)) fun cur =>
    if scratchMarks cur = cur then pure (.ok ())
    else updateIn side c .claims key (·.claims key) cur (·.putClaim key (scratchMarks cur))

def isBackupToolPod (pod : Pod) : Bool :=
  if hasPrefix pod.key.name "volsync-src-" || hasPrefix pod.key.name "volsync-dst-" then false
  else
    pod.labels.get "k8up.io/type" != "" || pod.labels.get "k8upjob" != "" ||
    ["k8up", "velero", "stash"].contains (pod.labels.get "app.kubernetes.io/managed-by") ||
    pod.labels.get "velero.io/backup-name" != "" || pod.labels.get "velero.io/restore-name" != "" ||
    hasPrefix pod.key.name "backup-" ||
    pod.images.any fun image =>
      contains (toLower image) "k8up" || contains (toLower image) "velero" || contains (toLower image) "stash"

def jobOwner (pod : Pod) : String := (pod.jobOwners.find? (· ≠ "")).getD ""

/-- Delete the backup pods that hold scratch claims, or the Jobs that made them. -/
def evictBackupPodsFromScratch (side : Side) (c : ClusterId) (ns : String) (scratch : List String) :
    Prog Unit := do
  match ← listObjects c .pods ns (podsIn ns) with
  | .error _ => pure ()
  | .ok pods => do
    let held := pods.filter fun pod => pod.claims.any scratch.contains && isBackupToolPod pod
    forEach (held.filter fun pod => jobOwner pod = "") fun pod => ignoring (deletePod side c pod.key)
    forEach ((held.map jobOwner).filter (· ≠ "")).dedup fun job => ignoring (deleteJob side c ⟨ns, job⟩)

def evictIfAny (side : Side) (c : ClusterId) (ns : String) (scratch : List String) : Prog Unit :=
  if scratch = [] then pure () else evictBackupPodsFromScratch side c ns scratch

/-- Mark each scratch claim and gather what went wrong. -/
def markAll (side : Side) (c : ClusterId) (ns : String) (keys : List ObjKey) : Prog (List String) :=
  Program.fold (fun texts key => do
    match ← markScratchPVC side c key with
    | .ok _ => pure texts
    | .error refused =>
      if refused.reason = .notFound then pure texts
      else pure (texts ++ ["mark scratch PVC " ++ ns ++ "/" ++ key.name ++ ": " ++ refused.message])) keys []

/-- Keep backup tools away from the scratch claims of a namespace. -/
def protectScratchPVCs (side : Side) (kube : Option ClusterId) (ns : String) : Prog (Except String Unit) :=
  match kube with
  | none => pure (.ok ())
  | some c =>
    if ns = "" then pure (.ok ())
    else do
      match ← listTable c .claims ns (·.claims) with
      | .error refused => pure (.error ("list PVCs in " ++ ns ++ ": " ++ refused.message))
      | .ok items => do
        let scratch := (items.filter fun item => isMoverScratchPVC item.1.name item.2).map Prod.fst
        let texts ← markAll side c ns scratch
        evictIfAny side c ns (scratch.map ObjKey.name)
        pure (if texts = [] then .ok () else .error (String.intercalate "\n" texts))

def protectCaches (m : Mover) (ns : String) : Prog (Except String Unit) :=
  andThen (protectScratchPVCs .source m.kube ns) fun _ =>
    if m.destKubeClient.isSome ∧ m.destKubeClient ≠ m.kube then protectScratchPVCs .dest m.destKubeClient ns
    else pure (.ok ())

section
variable {o : Oracle} {allowed : Request → Prop} {side : Side} {c : ClusterId}

theorem spares_putClaim (key : ObjKey) (claim : Claim) :
    ChangesOnly .claims fun cluster => cluster.putClaim key claim :=
  spares_claims _

theorem spares_put (kind : ControllerKind) (key : ObjKey) (controller : Controller) :
    ChangesOnly kind.resource fun cluster => kind.put cluster key controller := by
  intro cluster other different
  cases kind <;> cases other <;> first | contradiction | rfl | exact ⟨rfl, rfl⟩

theorem confined_ensureDestPVC (m : Mover) (ns name : String)
    (fits : ∀ c verb key, m.destKubeClient = some c → allowed (Side.dest.request verb c .claims key)) :
    Moves o (Confined o allowed) (ensureDestPVC m ns name) := by
  unfold ensureDestPVC
  split
  · refine confined_ite (fun _ => confined_pure _) fun _ =>
      confined_bind (confined_getObject _ _ _ _) fun answer => ?_
    cases answer with
    | ok _ => exact confined_pure _
    | error refused =>
      refine confined_ite (fun _ => confined_pure _) fun _ =>
        confined_bind (confined_getObject _ _ _ _) fun answer => ?_
      cases answer with
      | error missing => exact confined_pure _
      | ok claim => exact confined_orElse (confined_createIn (fits _ _ _ ‹_›) (spares_putClaim _ _))
  · exact confined_pure _

theorem confined_deletePod {key : ObjKey} (fits : allowed (side.request .delete c .pods key)) :
    Moves o (Confined o allowed) (deletePod side c key) :=
  confined_deleteFrom fits (spares_pods _)

theorem confined_deleteJob {key : ObjKey} (fits : allowed (side.request .delete c .jobs key)) :
    Moves o (Confined o allowed) (deleteJob side c key) :=
  confined_deleteFrom fits (spares_jobs _)

theorem confined_destHostnames : Moves o (Confined o allowed) (destHostnames c) := by
  refine confined_bind (confined_listObjects _ _ _ _) fun answer => ?_
  cases answer <;> exact confined_pure _

theorem confined_stripControllers (ns : String) (kind : ControllerKind)
    (fits : ∀ verb key, allowed (Side.dest.request verb c kind.resource key)) :
    Moves o (Confined o allowed) (stripControllers c ns kind) := by
  refine confined_bind (confined_listTable _ _) fun answer => ?_
  cases answer with
  | error _ => exact confined_pure _
  | ok items =>
    exact confined_forEach fun item _ => confined_ite (fun _ => confined_pure _) fun _ =>
      confined_ignoring (confined_updateIn (fits _ _) (spares_put kind _ _))

theorem confined_stripDaemonSets (ns : String)
    (fits : ∀ verb key, allowed (Side.dest.request verb c .daemonSets key)) :
    Moves o (Confined o allowed) (stripDaemonSets c ns) := by
  refine confined_bind (confined_listTable _ _) fun answer => ?_
  cases answer with
  | error _ => exact confined_pure _
  | ok items =>
    exact confined_forEach fun item _ => confined_ite (fun _ => confined_pure _) fun _ =>
      confined_ignoring (confined_updateIn (fits _ _) (spares_daemonSets _))

theorem confined_deletePinnedDestPods (ns : String) (hosts : List String)
    (fits : ∀ verb key, allowed (Side.dest.request verb c .pods key)) :
    Moves o (Confined o allowed) (deletePinnedDestPods c ns hosts) := by
  refine confined_bind (confined_listObjects _ _ _ _) fun answer => ?_
  cases answer with
  | error _ => exact confined_pure _
  | ok pods => exact confined_forEach fun pod _ => confined_ignoring (confined_deletePod (fits _ _))

theorem confined_deletePinnedMoverJobs (ns : String) (hosts : List String)
    (fits : ∀ verb key, allowed (Side.dest.request verb c .jobs key)) :
    Moves o (Confined o allowed) (deletePinnedMoverJobs c ns hosts) := by
  refine confined_bind (confined_listObjects _ _ _ _) fun answer => ?_
  cases answer with
  | error _ => exact confined_pure _
  | ok jobs => exact confined_forEach fun job _ => confined_ignoring (confined_deleteJob (fits _ _))

/-- The kinds that undoing the pins writes. -/
def scheduledKinds : List Resource := [.statefulSets, .deployments, .daemonSets, .pods, .jobs]

theorem confined_stripDestScheduling (m : Mover) (ns : String)
    (fits : ∀ c verb resource key, m.destKubeClient = some c → resource ∈ scheduledKinds →
      allowed (Side.dest.request verb c resource key)) :
    Moves o (Confined o allowed) (stripDestScheduling m ns) := by
  unfold stripDestScheduling
  cases client : m.destKubeClient with
  | none => exact confined_pure _
  | some c =>
    have here : ∀ verb resource key, resource ∈ scheduledKinds →
        allowed (Side.dest.request verb c resource key) :=
      fun verb resource key member => fits c verb resource key client member
    refine confined_ite (fun _ => confined_pure _) fun _ => confined_bind confined_destHostnames fun hosts => ?_
    refine confined_bind (confined_stripControllers ns .statefulSet fun verb key =>
      here verb _ key (by decide)) fun _ => ?_
    refine confined_bind (confined_stripControllers ns .deployment fun verb key =>
      here verb _ key (by decide)) fun _ => ?_
    refine confined_bind (confined_stripDaemonSets ns fun verb key => here verb _ key (by decide)) fun _ => ?_
    exact confined_bind (confined_deletePinnedDestPods ns hosts fun verb key =>
        here verb _ key (by decide)) fun _ =>
      confined_deletePinnedMoverJobs ns hosts fun verb key => here verb _ key (by decide)

theorem confined_destMoverPinMessage (m : Mover) (ns : String) :
    Moves o (Confined o allowed) (destMoverPinMessage m ns) := by
  unfold destMoverPinMessage
  cases m.destKubeClient with
  | none => exact confined_pure _
  | some c =>
    refine confined_ite (fun _ => confined_pure _) fun _ => confined_bind confined_destHostnames fun hosts =>
      confined_bind (confined_listObjects _ _ _ _) fun answer => ?_
    cases answer with
    | error _ => exact confined_pure _
    | ok jobs =>
      dsimp only
      split
      · exact confined_pure _
      · refine confined_bind (confined_listObjects _ _ _ _) fun answer => ?_
        cases answer with
        | error _ => exact confined_pure _
        | ok pods =>
          dsimp only
          split <;> exact confined_pure _

theorem confined_destUserMounted (kube : Option ClusterId) (ns pvc : String) :
    Moves o (Confined o allowed) (destUserMounted kube ns pvc) := by
  unfold destUserMounted
  cases kube with
  | none => exact confined_pure _
  | some c =>
    refine confined_ite (fun _ => confined_pure _) fun _ =>
      confined_bind (confined_listObjects _ _ _ _) fun answer => ?_
    cases answer <;> exact confined_pure _

theorem confined_deleteWorkloadMoverJobs (kube : Option ClusterId) (ns rsName : String)
    (fits : ∀ c verb key, kube = some c → allowed (Side.dest.request verb c .jobs key)) :
    Moves o (Confined o allowed) (deleteWorkloadMoverJobs kube ns rsName) := by
  unfold deleteWorkloadMoverJobs
  cases kube with
  | none => exact confined_pure _
  | some c =>
    refine confined_ite (fun _ => confined_pure _) fun _ =>
      confined_bind (confined_listObjects _ _ _ _) fun answer => ?_
    cases answer with
    | error _ => exact confined_pure _
    | ok jobs =>
      exact confined_forEach fun job _ => confined_ignoring (confined_deleteJob (fits c _ _ rfl))

/-- The kinds that protecting scratch claims writes. -/
def scratchKinds : List Resource := [.claims, .pods, .jobs]

theorem confined_markScratchPVC {key : ObjKey} (fits : allowed (side.request .update c .claims key)) :
    Moves o (Confined o allowed) (markScratchPVC side c key) :=
  confined_andThen (confined_getObject _ _ _ _) fun _ => confined_ite (fun _ => confined_pure _) fun _ =>
    confined_updateIn fits (spares_putClaim _ _)

theorem confined_evictBackupPodsFromScratch (ns : String) (scratch : List String)
    (pods : ∀ key, allowed (side.request .delete c .pods key))
    (jobs : ∀ key, allowed (side.request .delete c .jobs key)) :
    Moves o (Confined o allowed) (evictBackupPodsFromScratch side c ns scratch) := by
  refine confined_bind (confined_listObjects _ _ _ _) fun answer => ?_
  cases answer with
  | error _ => exact confined_pure _
  | ok found =>
    exact confined_bind (confined_forEach fun pod _ => confined_ignoring (confined_deletePod (pods _)))
      fun _ => confined_forEach fun job _ => confined_ignoring (confined_deleteJob (jobs _))

theorem confined_protectScratchPVCs (kube : Option ClusterId) (ns : String)
    (fits : ∀ c verb resource key, kube = some c → resource ∈ scratchKinds →
      allowed (side.request verb c resource key)) :
    Moves o (Confined o allowed) (protectScratchPVCs side kube ns) := by
  unfold protectScratchPVCs
  cases kube with
  | none => exact confined_pure _
  | some c =>
    refine confined_ite (fun _ => confined_pure _) fun _ => confined_bind (confined_listTable _ _) fun answer => ?_
    cases answer with
    | error refused => exact confined_pure _
    | ok items =>
      refine confined_bind (confined_fold (fun texts key _ => ?_) _) fun texts => confined_bind ?_ fun _ =>
        confined_pure _
      · refine confined_bind (confined_markScratchPVC (fits c _ _ _ rfl (by decide))) fun answer => ?_
        cases answer with
        | ok _ => exact confined_pure _
        | error refused => exact confined_ite (fun _ => confined_pure _) fun _ => confined_pure _
      · exact confined_ite (fun _ => confined_pure _) fun _ =>
          confined_evictBackupPodsFromScratch ns _ (fun _ => fits c _ _ _ rfl (by decide))
            fun _ => fits c _ _ _ rfl (by decide)

theorem confined_protectCaches (m : Mover) (ns : String)
    (source : ∀ c verb resource key, m.kube = some c → resource ∈ scratchKinds →
      allowed (Side.source.request verb c resource key))
    (dest : ∀ c verb resource key, m.destKubeClient = some c → resource ∈ scratchKinds →
      allowed (Side.dest.request verb c resource key)) :
    Moves o (Confined o allowed) (protectCaches m ns) :=
  confined_andThen (confined_protectScratchPVCs _ _ source) fun _ =>
    confined_ite (fun _ => confined_protectScratchPVCs _ _ dest) fun _ => confined_pure _

end

end Portage.VolSync
