import Portage.Workloads.Scale

/-! Commands that run inside destination pods: replaying a logical dump, and the
class probe. -/
namespace Portage

open Go Kube Process Program

/-- One cluster that the hub can talk to. Clients may be missing. -/
structure Endpoint where
  name : String := ""
  kube : ClusterId
  dynamic : Option ClusterId := none
  exec : Option ClusterId := none
  deriving DecidableEq, Repr

/-- Why a step could not go on: it returned an error, or it used a nil client. -/
inductive Stop where
  | error (text : String)
  | panic
  deriving DecidableEq, Repr

namespace Dump

def postgresDumpScript : String :=
  "pg_dump -U \"$\x7bPOSTGRES_USER:-postgres\x7d\" --no-owner --no-acl \"$\x7bPOSTGRES_DB:-postgres\x7d\""

def postgresRestoreScript : String :=
  "psql -U \"$\x7bPOSTGRES_USER:-postgres\x7d\" -d \"$\x7bPOSTGRES_DB:-postgres\x7d\" -v ON_ERROR_STOP=1"

def mysqlDumpScript : String :=
  "export MYSQL_PWD=\"$\x7bMYSQL_PASSWORD:-$\x7bMYSQL_PWD:-\x7d\x7d\"\n" ++
    "mysqldump -u \"$\x7bMYSQL_USER:-root\x7d\" --all-databases --single-transaction"

def mysqlRestoreScript : String :=
  "export MYSQL_PWD=\"$\x7bMYSQL_PASSWORD:-$\x7bMYSQL_PWD:-\x7d\x7d\"\nmysql -u \"$\x7bMYSQL_USER:-root\x7d\""

def mongoDumpScript : String :=
  "mongodump --archive --gzip " ++
    "$\x7bMONGO_INITDB_ROOT_USERNAME:+-u \"$MONGO_INITDB_ROOT_USERNAME\"\x7d " ++
    "$\x7bMONGO_INITDB_ROOT_PASSWORD:+-p \"$MONGO_INITDB_ROOT_PASSWORD\"\x7d " ++
    "--authenticationDatabase \"$\x7bMONGO_INITDB_DATABASE:-admin\x7d\""

def redisDumpScript : String :=
  "f=/tmp/portage-rdb-$$\n" ++
    "REDISCLI_AUTH=\"$\x7bREDIS_PASSWORD:-$\x7bREDISCLI_AUTH:-\x7d\x7d\" redis-cli --rdb \"$f\"\n" ++
    "e=$?\nif [ \"$e\" -eq 0 ]; then cat \"$f\"; fi\nrm -f \"$f\"\nexit \"$e\""

def shell (script : String) : List String := ["/bin/sh", "-c", script]

/-- The dump command of an engine; empty means that it is copied as files. -/
def command (engine : String) : List String :=
  if engine = "postgres" ∨ engine = "timescale" then shell postgresDumpScript
  else if engine = "mysql" ∨ engine = "mariadb" then shell mysqlDumpScript
  else if engine = "mongo" then shell mongoDumpScript
  else if engine = "redis" ∨ engine = "valkey" ∨ engine = "keydb" ∨ engine = "dragonfly" then
    shell redisDumpScript
  else []

/-- The command that reads a dump on stdin. -/
def restoreCommand (engine : String) : List String :=
  if engine = "postgres" ∨ engine = "timescale" then shell postgresRestoreScript
  else if engine = "mysql" ∨ engine = "mariadb" then shell mysqlRestoreScript
  else if engine = "mongo" then shell "mongorestore --archive --gzip"
  else []

/-- Feed a dump to a command in a pod of the workload. -/
def replayIn (w : Workload) (artifactID : String) (c : ClusterId) (pod : Pod) (container : String)
    (data : Bytes) : Prog (Option String) := do
  let n ← tick
  let o ← Program.answers
  let command := restoreCommand w.engine
  record (.replay w.key artifactID c pod.key container command data (o.exec n command).error.isNone)
  pure (o.exec n command).error

theorem replayIn_run (o : Oracle) (s : World) (w : Workload) (artifactID : String) (c : ClusterId)
    (pod : Pod) (container : String) (data : Bytes) :
    replayIn w artifactID c pod container data o s =
      ((o.exec s.calls (restoreCommand w.engine)).error, { (tick o s).2 with
        log := s.log ++ [.replay w.key artifactID c pod.key container (restoreCommand w.engine) data
          (o.exec s.calls (restoreCommand w.engine)).error.isNone] }) := rfl

/-- Download the dump and replay it on the destination. An engine without a
restore command is passed over. -/
def apply (dest : Endpoint) (store : String → Except String Bytes) (w : Workload) (key : String) :
    Prog (Except Stop Unit) :=
  if restoreCommand w.engine = [] ∨ key = "" then pure (.ok ())
  else
    match store key with
    | .error text => pure (.error (.error text))
    | .ok data => do
      match ← firstReadyPod dest.kube w with
      | .error text => pure (.error (.error text))
      | .ok (pod, container) =>
        match dest.exec with
        | none => pure (.error .panic)
        | some c => do
          match ← replayIn w key c pod container data with
          | some text => pure (.error (.error ("restore dump " ++ w.key ++ ": " ++ text)))
          | none => pure (.ok ())

end Dump

namespace Probe

structure Spec where
  command : List String := []
  message : String
  deriving DecidableEq, Repr

def default (w : Workload) : Spec :=
  if w.engine = "postgres" ∨ w.engine = "timescale" then ⟨["pg_isready"], "pg_isready"⟩
  else if w.engine = "mysql" ∨ w.engine = "mariadb" then ⟨["mysqladmin", "ping"], "mysqladmin ping"⟩
  else if w.engine = "redis" ∨ w.engine = "valkey" ∨ w.engine = "keydb" ∨ w.engine = "dragonfly" then
    ⟨["redis-cli", "ping"], "PING"⟩
  else if w.engine = "mongo" then ⟨["mongosh", "--eval", "db.hello()"], "hello"⟩
  else if w.engine = "minio" then ⟨["mc", "ready", "local"], "mc ready"⟩
  else
    match w.cls with
    | .stateless => ⟨[], "k8s-ready"⟩
    | .clusterObjects => ⟨[], "dest-get"⟩
    | _ => ⟨[], "volume-mounted"⟩

/-- The class probe in a Ready pod. -/
def run (kube exec : ClusterId) (w : Workload) : Prog ProbeResult :=
  if w.cls = .clusterObjects then
    pure ⟨false, "cluster objects require dest Get (clusterobjects.Attest)"⟩
  else if (default w).command = [] then pure ⟨true, (default w).message⟩
  else do
    match ← firstReadyPod kube w with
    | .error text => pure ⟨false, text⟩
    | .ok (pod, container) =>
      let answer ← execIn w.key exec pod.key container (default w).command
      match answer.error with
      | none => pure ⟨true, (default w).message⟩
      | some text =>
        let detail := if answer.stderr = "" then "" else ": " ++ answer.stderr
        pure ⟨false, (default w).message ++ " failed: " ++ text ++ detail⟩

end Probe

section
variable {o : Oracle} {allowed : Event → Prop}

theorem moves_replayIn {w : Workload} {artifactID : String} {c : ClusterId} {pod : Pod}
    {container : String} {data : Bytes}
    (fits : ∀ done, allowed
      (.replay w.key artifactID c pod.key container (Dump.restoreCommand w.engine) data done)) :
    Moves o (Extends o allowed) (Dump.replayIn w artifactID c pod container data) :=
  moves_bind moves_tick fun _ => moves_bind moves_answers fun _ =>
    moves_bind (moves_record (fits _)) fun _ => moves_pure _

theorem moves_probeRun (kube exec : ClusterId) (w : Workload)
    (fits : ∀ pod container answer, allowed (.exec w.key exec pod container (Probe.default w).command answer)) :
    Moves o (Extends o allowed) (Probe.run kube exec w) := by
  refine moves_ite (fun _ => moves_pure _) fun _ => moves_ite (fun _ => moves_pure _) fun _ =>
    moves_bind (moves_firstReadyPod _ _) fun answer => ?_
  cases answer with
  | error text => exact moves_pure _
  | ok found =>
    refine moves_bind (moves_execIn (fits _ _)) fun answer => ?_
    dsimp only
    split <;> exact moves_pure _

end

end Portage
