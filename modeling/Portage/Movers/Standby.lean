import Portage.Movers.DataPath
import Portage.Movers.VolSync.Destination
import Portage.Workloads.Apply

/-! The streaming mover of Postgres: the objects of a standby on the destination, the
Service of the primary on the source, and the probe that waits for the first copy. -/
namespace Portage.Standby

open Go Kube Process Program

/-- A configured mover; `exec` runs commands on the destination. -/
structure Mover where
  kube : Option ClusterId := none
  dest : Option ClusterId := none
  exec : Option ClusterId := none

/-- What a mover is told of a cluster. -/
structure ClusterHandle where
  name : String := ""
  address : String := ""
  deriving DecidableEq, Repr

def Mover.destKube (m : Mover) : Option ClusterId := m.dest.or m.kube

/-! ### Addresses -/

/-- `net.SplitHostPort` on what is before and after the last colon. -/
def joinedHostPort (host port : List Char) : Option (String × String) :=
  match host with
  | '[' :: inner =>
    if inner.getLast? = some ']' ∧ ']' ∉ inner.dropLast ∧ '[' ∉ inner ∧ '[' ∉ port ∧ ']' ∉ port then
      some (String.ofList inner.dropLast, String.ofList port)
    else none
  | _ =>
    if ':' ∈ host ∨ '[' ∈ host ∨ ']' ∈ host ∨ '[' ∈ port ∨ ']' ∈ port then none
    else some (String.ofList host, String.ofList port)

/-- `net.SplitHostPort`. -/
def netSplit (address : List Char) : Option (String × String) :=
  match address.reverse.dropWhile (· != ':') with
  | [] => none
  | _ :: before => joinedHostPort before.reverse (address.reverse.takeWhile (· != ':')).reverse

/-- The host and the port of an address, which may leave the port out. -/
def splitHostPort (address : String) : String × String :=
  let address := trimSpace address
  if address = "" then ("", "5432")
  else
    match netSplit address.toList with
    | none => (address, "5432")
    | some (host, port) => (host, if port ≠ "" then port else "5432")

example : splitHostPort "172.18.0.1:30432" = ("172.18.0.1", "30432") := by decide +kernel

example : splitHostPort "[fd00::1]:" = ("fd00::1", "5432") := by decide +kernel

def svcName : String := "portage-pg-primary"

def replPass : String := "portage-repl"

/-- Where the standby finds its primary. -/
def primary (src : ClusterHandle) (w : Workload) : String × String :=
  let (host, port) := splitHostPort src.address
  if host = "" then (svcName ++ "." ++ w.namespace_ ++ ".svc", "5432") else (host, port)

/-! ### The objects of a standby -/

def standbyName (w : Workload) : String := "portage-standby-" ++ w.name

def basebackupName (w : Workload) : String := "portage-basebackup-" ++ w.name

/-- The data of the standby's ConfigMap, one entry a line. -/
def standbyConfig (host port primaryCluster : String) : String :=
  "hot_standby=on\nprimary_cluster=" ++ primaryCluster ++ "\nprimary_conninfo=host=" ++ host ++
    " port=" ++ port ++ " user=replicator application_name=portage"

/-- Create the ConfigMap, or overwrite it whatever the create failed with. -/
def applyConfig (dest : ClusterId) (key : ObjKey) (content : String) : Prog (Except String Unit) := do
  match ← createIn .dest dest .configMaps key (fun cluster => (cluster.payloads .configMap key).isSome)
      (·.putPayload .configMap key content) with
  | .ok _ => pure (.ok ())
  | .error _ =>
    orElse (send (Side.dest.request .update dest .configMaps key) dest fun cluster =>
      if (cluster.payloads .configMap key).isSome then .ok (cluster.putPayload .configMap key content)
      else .error (notFound .configMaps key)) fun refused => refused.message

/-- The type and the node port of the primary's Service. -/
def primaryService (w : Workload) (address : String) : String :=
  if address = "" then "type=ClusterIP\nselector=" ++ w.name
  else
    match atoi (splitHostPort address).2 with
    | some n =>
      if 30000 ≤ n ∧ n ≤ 32767 then "type=NodePort\nselector=" ++ w.name ++ "\nnodePort=" ++ itoa n
      else "type=NodePort\nselector=" ++ w.name
    | none => "type=NodePort\nselector=" ++ w.name

def ensurePrimaryService (m : Mover) (w : Workload) (address : String) : Prog (Except String Unit) :=
  match m.kube with
  | none => pure (.ok ())
  | some c =>
    let key : ObjKey := ⟨w.namespace_, svcName⟩
    orElse (VolSync.ignoreExists <$> createIn .source c .services key
      (fun cluster => (cluster.payloads .service key).isSome)
      (·.putPayload .service key (primaryService w address))) fun refused => refused.message

def createReplicatorCmd : List String := ["/bin/sh", "-c",
  "psql -U postgres -v ON_ERROR_STOP=1 -c \"DO \\$\\$ BEGIN CREATE ROLE replicator WITH REPLICATION LOGIN PASSWORD 'portage-repl'; EXCEPTION WHEN duplicate_object THEN NULL; END \\$\\$;\""]

/-- Ask for the replication role. The pod is looked up on the source and the command
runs with the destination's client; what comes of it is dropped. -/
def ensureReplicatorRole (m : Mover) (w : Workload) : Prog Unit :=
  match m.exec, m.kube with
  | some exec, some kube => do
    match ← firstReadyPod kube w with
    | .error _ => pure ()
    | .ok (pod, container) => ignoring (execIn w.key exec pod.key container createReplicatorCmd)
  | _, _ => pure ()

def basebackupJob (w : Workload) (host port : String) : Job :=
  { key := ⟨w.namespace_, basebackupName w⟩
    env := [("PGDATA", "/var/lib/postgresql/data/pgdata"), ("PRIMARY_HOST", host),
      ("PRIMARY_PORT", port), ("PGPASSWORD", replPass)] }

def ensureBasebackupJob (dest : ClusterId) (w : Workload) (host port : String) : Prog (Except String Unit) :=
  let job := basebackupJob w host port
  orElse (VolSync.ignoreExists <$> createIn .dest dest .jobs job.key
    (fun cluster => cluster.jobs.any fun other => other.key = job.key)
    fun cluster => { cluster with jobs := cluster.jobs ++ [job] }) fun refused => refused.message

/-- Mount the ConfigMap into the destination's StatefulSet, once that is there. -/
def patchDestStandby (dest : ClusterId) (w : Workload) : Prog (Except String Unit) := do
  match ← getObject dest .statefulSets w.objKey (·.statefulSets w.objKey) with
  | .error _ => pure (.ok ())
  | .ok sts =>
    orElse (updateIn .dest dest .statefulSets w.objKey (·.statefulSets w.objKey) sts
      (ControllerKind.statefulSet.put · w.objKey
        { sts with standby := some (sts.standby.getD (standbyName w)) })) fun refused => refused.message

def replicate (m : Mover) (src dst : ClusterHandle) (w : Workload) : Prog (Except String Unit) :=
  match m.destKube with
  | none => pure (.error "postgres-streaming: dest kube required")
  | some dest =>
    let (host, port) := primary src w
    andThen (applyConfig dest ⟨w.namespace_, standbyName w⟩ (standbyConfig host port dst.name)) fun _ =>
    andThen (ensurePrimaryService m w src.address) fun _ =>
    andThen (.ok <$> ensureReplicatorRole m w) fun _ =>
    andThen (ensureBasebackupJob dest w host port) fun _ => patchDestStandby dest w

/-- Whether the server of the standby answers. -/
def answersReady (m : Mover) (dest : ClusterId) (w : Workload) : Prog Bool :=
  match m.exec with
  | none => pure false
  | some exec => do
    match ← firstReadyPod dest w with
    | .error _ => pure false
    | .ok (pod, container) =>
      let answer ← execIn w.key exec pod.key container ["pg_isready"]
      pure answer.error.isNone

def probeObjects (dest : ClusterId) (w : Workload) : Prog ProbeResult := do
  match ← getObject dest .configMaps ⟨w.namespace_, standbyName w⟩
      (·.payloads .configMap ⟨w.namespace_, standbyName w⟩) with
  | .error _ => pure ⟨false, "standby config missing"⟩
  | .ok _ =>
    match ← getObject dest .jobs ⟨w.namespace_, basebackupName w⟩
        fun cluster => cluster.jobs.find? fun job => job.key = ⟨w.namespace_, basebackupName w⟩ with
    | .error _ => pure ⟨false, "basebackup job missing"⟩
    | .ok job =>
      pure (if job.succeeded < 1 then ⟨false, "waiting for pg_basebackup"⟩
        else ⟨true, "basebackup complete; standby configured"⟩)

/-- The standby answers, or its first copy is complete. -/
def probe (m : Mover) (w : Workload) : Prog ProbeResult :=
  match m.destKube with
  | none => pure ⟨false, "postgres-streaming: dest kube required"⟩
  | some dest => do
    if ← answersReady m dest w then pure ⟨true, "pg_isready"⟩ else probeObjects dest w

/-! ### What the mover does -/

/-- The kinds of a standby's objects. -/
def standbyKinds : List Resource := [.configMaps, .jobs, .statefulSets]

/-- What the mover does for one workload: the Service on the source, the standby's
objects on the destination, and commands. -/
inductive Mover.Does (m : Mover) (w : Workload) : Event → Prop where
  | service {c : ClusterId} {key : ObjKey} (client : m.kube = some c) :
      Does m w (.wrote (.create c .services key))
  | standby {c : ClusterId} (verb : Verb) {resource : Resource} {key : ObjKey}
      (client : m.destKube = some c) (kind : resource ∈ standbyKinds) :
      Does m w (.wrote (Side.dest.request verb c resource key))
  | exec {c : ClusterId} {pod : ObjKey} {container : String} {command : List String} {answer : ExecAnswer}
      (client : m.exec = some c) : Does m w (.exec w.key c pod container command answer)

section
variable {o : Oracle} (m : Mover) (w : Workload)
variable {dest : ClusterId} {allowed : Event → Prop}

theorem moves_applyConfig (client : m.destKube = some dest) (key : ObjKey) (content : String) :
    Moves o (Extends o (m.Does w)) (applyConfig dest key content) := by
  refine moves_bind (moves_send (.standby .create client (by decide))) fun answer => ?_
  cases answer with
  | ok _ => exact moves_pure _
  | error _ => exact moves_map (moves_send (.standby .update client (by decide)))

theorem moves_ensurePrimaryService (address : String) :
    Moves o (Extends o (m.Does w)) (ensurePrimaryService m w address) := by
  unfold ensurePrimaryService
  cases client : m.kube with
  | none => exact moves_pure _
  | some c => exact moves_map (moves_map (moves_send (.service client)))

theorem moves_ensureReplicatorRole
    (execs : ∀ c pod container command answer, m.exec = some c → allowed (.exec w.key c pod container command answer)) :
    Moves o (Extends o allowed) (ensureReplicatorRole m w) := by
  unfold ensureReplicatorRole
  split
  · refine moves_bind (moves_firstReadyPod _ w) fun answer => ?_
    cases answer with
    | error _ => exact moves_pure _
    | ok found => exact moves_bind (moves_execIn fun _ => execs _ _ _ _ _ ‹_›) fun _ => moves_pure _
  · exact moves_pure _

theorem moves_ensureBasebackupJob (client : m.destKube = some dest) (host port : String) :
    Moves o (Extends o (m.Does w)) (ensureBasebackupJob dest w host port) :=
  moves_map (moves_map (moves_send (.standby .create client (by decide))))

theorem moves_patchDestStandby (client : m.destKube = some dest) :
    Moves o (Extends o (m.Does w)) (patchDestStandby dest w) := by
  refine moves_bind (moves_getObject _ _ _ _) fun answer => ?_
  cases answer with
  | error _ => exact moves_pure _
  | ok sts => exact moves_map (moves_send (.standby .update client (by decide)))

theorem moves_replicate (src dst : ClusterHandle) :
    Moves o (Extends o (m.Does w)) (replicate m src dst w) := by
  have chains := extends_chains o (m.Does w)
  unfold replicate
  cases client : m.destKube with
  | none => exact moves_pure _
  | some dest =>
    exact .andThen chains (moves_applyConfig m w client _ _) fun _ =>
      .andThen chains (moves_ensurePrimaryService m w _) fun _ =>
        .andThen chains (moves_map (moves_ensureReplicatorRole m w fun _ _ _ _ _ client => .exec client)) fun _ =>
          .andThen chains (moves_ensureBasebackupJob m w client _ _) fun _ =>
            moves_patchDestStandby m w client

theorem moves_probeObjects (dest : ClusterId) : Moves o (Extends o allowed) (probeObjects dest w) := by
  refine moves_bind (moves_getObject _ _ _ _) fun answer => ?_
  cases answer with
  | error _ => exact moves_pure _
  | ok _ =>
    refine moves_bind (moves_getObject _ _ _ _) fun answer => ?_
    cases answer <;> exact moves_pure _

theorem moves_probe
    (execs : ∀ c pod container command answer, m.exec = some c → allowed (.exec w.key c pod container command answer)) :
    Moves o (Extends o allowed) (probe m w) := by
  unfold probe
  cases m.destKube with
  | none => exact moves_pure _
  | some dest =>
    refine moves_bind ?_ fun up => moves_ite (fun _ => moves_pure _) fun _ => moves_probeObjects w dest
    unfold answersReady
    cases client : m.exec with
    | none => exact moves_pure _
    | some exec =>
      refine moves_bind (moves_firstReadyPod dest w) fun answer => ?_
      cases answer with
      | error _ => exact moves_pure _
      | ok found => exact moves_bind (moves_execIn fun _ => execs _ _ _ _ _ client) fun _ => moves_pure _

end

end Portage.Standby
