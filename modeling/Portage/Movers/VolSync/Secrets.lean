import Portage.Kube.Writes
import Portage.Movers.VolSync.Specs

/-! The Secrets that the movers on both sides read, and the namespaces they are in. -/
namespace Portage.VolSync

open Go Kube ObjectStore Process Program

def createSecret (side : Side) (c : ClusterId) (key : ObjKey) (secret : Secret) :
    Prog (Except ApiError Unit) :=
  createIn side c .secrets key (fun cluster => (cluster.secrets key).isSome) (Cluster.putSecret key secret)

def updateSecret (side : Side) (c : ClusterId) (key : ObjKey) (before after : Secret) :
    Prog (Except ApiError Unit) :=
  updateIn side c .secrets key (·.secrets key) before (Cluster.putSecret key after)

/-- An update that names no version overwrites whatever is there. -/
def overwriteSecret (c : ClusterId) (key : ObjKey) (secret : Secret) : Prog (Except ApiError Unit) :=
  send (.update c .secrets key) c fun cluster =>
    match cluster.secrets key with
    | none => .error (notFound .secrets key)
    | some _ => .ok (Cluster.putSecret key secret cluster)

def randomHex : Prog String := do
  let n ← tick
  let o ← Program.answers
  pure (o.random n)

def orRegion (region : String) : String := if region = "" then "us-east-1" else region

/-- The rclone configuration with the one section that the specs name. -/
def rcloneINI (c : Creds) : String :=
  "[rclone]\ntype = s3\nprovider = " ++ (if c.endpoint = "" then "AWS" else "Minio") ++
    "\nenv_auth = false\naccess_key_id = " ++ c.accessKey ++ "\nsecret_access_key = " ++ c.secretKey ++
    "\nendpoint = " ++ c.endpoint ++ "\nregion = " ++ orRegion c.region ++ "\n"

def upsertSecret (c : ClusterId) (key : ObjKey) (secret : Secret) : Prog (Except ApiError Unit) := do
  match ← createSecret .source c key secret with
  | .ok _ => pure (.ok ())
  | .error refused =>
    if refused.reason = .alreadyExists then overwriteSecret c key secret else pure (.error refused)

def ignoreExists : Except ApiError Unit → Except ApiError Unit
  | .ok _ => .ok ()
  | .error refused => if refused.reason = .alreadyExists then .ok () else .error refused

/-- The data of a restic Secret. -/
def repositoryData (creds : Creds) (repository password : String) : GoMap String String := .table [
  ("RESTIC_REPOSITORY", repository),
  ("RESTIC_PASSWORD", password),
  ("AWS_ACCESS_KEY_ID", creds.accessKey),
  ("AWS_SECRET_ACCESS_KEY", creds.secretKey),
  ("AWS_DEFAULT_REGION", orRegion creds.region)]

/-- The repository of a workload; a password that is there is kept. -/
def resticData (m : Mover) (w : Workload) (password : String) : GoMap String String :=
  repositoryData m.creds (m.creds.resticRepository m.parseAuthority (m.objectPath w)) password

def ensureResticSecret (m : Mover) (c : ClusterId) (w : Workload) : Prog (Except ApiError Unit) := do
  let password ← randomHex
  let key : ObjKey := ⟨w.namespace_, resticSecretName w.name⟩
  match ← getObject c .secrets key (·.secrets key) with
  | .ok cur =>
    let old := cur.data.get "RESTIC_PASSWORD"
    updateSecret .source c key cur { cur with data := resticData m w (if old = "" then password else old) }
  | .error refused =>
    if refused.reason ≠ .notFound then pure (.error refused)
    else ignoreExists <$> createSecret .source c key { data := resticData m w password }

/-- The key of the rsync peers, which is never rotated. -/
def ensureTLSSecret (c : ClusterId) (ns : String) : Prog (Except ApiError Unit) := do
  let psk ← randomHex
  let key : ObjKey := ⟨ns, tlsSecretName⟩
  match ← getObject c .secrets key (·.secrets key) with
  | .ok _ => pure (.ok ())
  | .error refused =>
    if refused.reason = .notFound then
      ignoreExists <$> createSecret .source c key { data := .table [("psk", psk)] }
    else pure (ignoreExists (.error refused))

def ensureStoreSecrets (m : Mover) (c : ClusterId) (w : Workload) : Prog (Except ApiError Unit) :=
  if m.creds.accessKey = "" then pure (.ok ())
  else andThen (upsertSecret c ⟨w.namespace_, rcloneSecretName⟩
      { data := .table [("rclone.conf", rcloneINI m.creds)] }) fun _ => ensureResticSecret m c w

/-- Write the Secrets of a workload on the source, if they are not there. -/
def ensureSecrets (m : Mover) (w : Workload) : Prog (Except ApiError Unit) :=
  match m.kube with
  | none => pure (.ok ())
  | some c =>
    if w.namespace_ = "" then pure (.ok ())
    else andThen (ensureStoreSecrets m c w) fun _ => ensureTLSSecret c w.namespace_

/-- Give the destination's Secret the data of the source's. -/
def placeSecret (c : ClusterId) (key : ObjKey) (secret : Secret) : Prog (Except ApiError Unit) := do
  match ← getObject c .secrets key (·.secrets key) with
  | .ok cur => updateSecret .dest c key cur { cur with data := secret.data }
  | .error refused =>
    if refused.reason = .notFound then ignoreExists <$> createSecret .dest c key secret
    else pure (.error refused)

/-- Copy one Secret; one that the source does not have is passed over. -/
def copySecret (src dst : ClusterId) (ns : String) (_ : Unit) (name : String) :
    Prog (Except String Unit) := do
  let key : ObjKey := ⟨ns, name⟩
  match ← getObject src .secrets key (·.secrets key) with
  | .error refused =>
    if refused.reason = .notFound then pure (.ok ()) else pure (.error refused.message)
  | .ok secret =>
    orElse (placeSecret dst key secret) fun refused => "copy " ++ name ++ ": " ++ refused.message

/-- Copy the Secrets of a workload to the destination. -/
def copySecrets (src dst : Option ClusterId) (ns workload : String) : Prog (Except String Unit) :=
  match src, dst with
  | some a, some b =>
    if a = b ∨ ns = "" then pure (.ok ())
    else Program.foldUntil (copySecret a b ns) [rcloneSecretName, resticSecretName workload, tlsSecretName] ()
  | _, _ => pure (.ok ())

/-! ### Namespaces -/

def privilegedMoversAnnotation : String := "volsync.backube/privileged-movers"

def tenantLabel : String := "capsule.clastix.io/tenant"

/-- Let VolSync's movers run privileged in a namespace. -/
def enablePrivilegedMovers (side : Side) (kube : Option ClusterId) (ns : String) :
    Prog (Except ApiError Unit) :=
  match kube with
  | none => pure (.ok ())
  | some c =>
    if ns = "" then pure (.ok ())
    else andThen (getObject c .namespaces ⟨"", ns⟩ (·.namespaces ns)) fun cur =>
      if cur.annotations.get privilegedMoversAnnotation = "true" then pure (.ok ())
      else updateIn side c .namespaces ⟨"", ns⟩ (·.namespaces ns) cur (Cluster.putNamespace ns
        { cur with annotations := cur.annotations.insert privilegedMoversAnnotation "true" })

/-- The Capsule label of the source's namespace. -/
def sourceCapsuleLabels (kube : Option ClusterId) (ns : String) :
    Prog (Except String (GoMap String String)) :=
  match kube with
  | none => pure (.ok .nil)
  | some c =>
    if ns = "" then pure (.ok .nil)
    else do
      match ← getObject c .namespaces ⟨"", ns⟩ (·.namespaces ns) with
      | .error refused => pure (.error ("source namespace " ++ ns ++ ": " ++ refused.message))
      | .ok src =>
        let tenant := src.labels.get tenantLabel
        pure (.ok (if tenant = "" then .nil else .table [(tenantLabel, tenant)]))

def createNamespace (c : ClusterId) (ns : String) (labels : GoMap String String) :
    Prog (Except ApiError Unit) :=
  createIn .dest c .namespaces ⟨"", ns⟩ (fun cluster => (cluster.namespaces ns).isSome)
    (Cluster.putNamespace ns { labels })

/-- Create the destination's namespace when it is missing; one that exists is left as
it is. -/
def ensureNamespace (c : ClusterId) (ns : String) (labels : GoMap String String) :
    Prog (Except ApiError Unit) :=
  if ns = "" then pure (.ok ())
  else do
    match ← getObject c .namespaces ⟨"", ns⟩ (·.namespaces ns) with
    | .ok _ => pure (.ok ())
    | .error refused =>
      if refused.reason ≠ .notFound then pure (.error refused)
      else ignoreExists <$> createNamespace c ns labels

section
variable {o : Oracle} {allowed : Request → Prop}

theorem confined_randomHex : Moves o (Confined o allowed) randomHex :=
  confined_bind (confined_of_reads moves_tick) fun _ =>
    confined_bind (confined_of_reads moves_answers) fun _ => confined_pure _

theorem confined_upsertSecret {c : ClusterId} {key : ObjKey} {secret : Secret}
    (fits : ∀ verb, allowed (Side.source.request verb c .secrets key)) :
    Moves o (Confined o allowed) (upsertSecret c key secret) := by
  refine confined_bind (confined_createIn (fits .create) (spares_putSecret key secret)) fun answer => ?_
  cases answer with
  | ok _ => exact confined_pure _
  | error refused =>
    refine confined_ite (fun _ => ?_) fun _ => confined_pure _
    refine confined_send (fits .update) rfl fun before after changed other different => ?_
    split at changed
    · cases changed
    · cases changed
      exact spares_putSecret key secret before other different

theorem confined_ensureResticSecret (m : Mover) {c : ClusterId} {w : Workload}
    (fits : ∀ verb key, allowed (Side.source.request verb c .secrets key)) :
    Moves o (Confined o allowed) (ensureResticSecret m c w) := by
  refine confined_bind confined_randomHex fun password =>
    confined_bind (confined_getObject _ _ _ _) fun answer => ?_
  cases answer with
  | ok cur => exact confined_updateIn (fits _ _) (spares_putSecret _ _)
  | error refused =>
    exact confined_ite (fun _ => confined_pure _) fun _ =>
      confined_map (confined_createIn (fits _ _) (spares_putSecret _ _))

theorem confined_ensureTLSSecret {c : ClusterId} {ns : String}
    (fits : ∀ verb key, allowed (Side.source.request verb c .secrets key)) :
    Moves o (Confined o allowed) (ensureTLSSecret c ns) := by
  refine confined_bind confined_randomHex fun psk =>
    confined_bind (confined_getObject _ _ _ _) fun answer => ?_
  cases answer with
  | ok _ => exact confined_pure _
  | error refused =>
    exact confined_ite (fun _ => confined_map (confined_createIn (fits _ _) (spares_putSecret _ _)))
      fun _ => confined_pure _

theorem confined_ensureSecrets (m : Mover) (w : Workload)
    (fits : ∀ c verb key, m.kube = some c → allowed (Side.source.request verb c .secrets key)) :
    Moves o (Confined o allowed) (ensureSecrets m w) := by
  unfold ensureSecrets
  cases client : m.kube with
  | none => exact confined_pure _
  | some c =>
    have here : ∀ verb key, allowed (Side.source.request verb c .secrets key) :=
      fun verb key => fits c verb key client
    refine confined_ite (fun _ => confined_pure _) fun _ =>
      confined_andThen ?_ fun _ => confined_ensureTLSSecret here
    exact confined_ite (fun _ => confined_pure _) fun _ =>
      confined_andThen (confined_upsertSecret fun verb => here verb _) fun _ =>
        confined_ensureResticSecret m here

theorem confined_copySecrets {src dst : Option ClusterId} (ns workload : String)
    (fits : ∀ c verb key, dst = some c → allowed (Side.dest.request verb c .secrets key)) :
    Moves o (Confined o allowed) (copySecrets src dst ns workload) := by
  unfold copySecrets
  cases src with
  | none => exact confined_pure _
  | some a =>
    cases dst with
    | none => exact confined_pure _
    | some b =>
      refine confined_ite (fun _ => confined_pure _) fun _ => confined_foldUntil (fun _ name _ => ?_) _
      refine confined_bind (confined_getObject _ _ _ _) fun answer => ?_
      cases answer with
      | error refused => exact confined_ite (fun _ => confined_pure _) fun _ => confined_pure _
      | ok secret =>
        refine confined_orElse (confined_bind (confined_getObject _ _ _ _) fun answer => ?_)
        cases answer with
        | ok cur => exact confined_updateIn (fits b _ _ rfl) (spares_putSecret _ _)
        | error refused =>
          exact confined_ite (fun _ => confined_map (confined_createIn (fits b _ _ rfl)
            (spares_putSecret _ _))) fun _ => confined_pure _

theorem confined_enablePrivilegedMovers (side : Side) (kube : Option ClusterId) (ns : String)
    (fits : ∀ c verb key, kube = some c → allowed (side.request verb c .namespaces key)) :
    Moves o (Confined o allowed) (enablePrivilegedMovers side kube ns) := by
  unfold enablePrivilegedMovers
  cases kube with
  | none => exact confined_pure _
  | some c =>
    exact confined_ite (fun _ => confined_pure _) fun _ =>
      confined_andThen (confined_getObject _ _ _ _) fun cur =>
        confined_ite (fun _ => confined_pure _) fun _ =>
          confined_updateIn (fits c _ _ rfl) (spares_putNamespace _ _)

theorem confined_sourceCapsuleLabels (kube : Option ClusterId) (ns : String) :
    Moves o (Confined o allowed) (sourceCapsuleLabels kube ns) := by
  unfold sourceCapsuleLabels
  cases kube with
  | none => exact confined_pure _
  | some c =>
    refine confined_ite (fun _ => confined_pure _) fun _ =>
      confined_bind (confined_getObject _ _ _ _) fun answer => ?_
    cases answer <;> exact confined_pure _

theorem confined_ensureNamespace (c : ClusterId) (ns : String) (labels : GoMap String String)
    (fits : ∀ verb key, allowed (Side.dest.request verb c .namespaces key)) :
    Moves o (Confined o allowed) (ensureNamespace c ns labels) := by
  refine confined_ite (fun _ => confined_pure _) fun _ =>
    confined_bind (confined_getObject _ _ _ _) fun answer => ?_
  cases answer with
  | ok _ => exact confined_pure _
  | error refused =>
    exact confined_ite (fun _ => confined_pure _) fun _ =>
      confined_map (confined_createIn (fits _ _) (spares_putNamespace _ _))

end

end Portage.VolSync
