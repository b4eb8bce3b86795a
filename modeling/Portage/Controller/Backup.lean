import Portage.Controller.Live

/-! One reconcile of a Backup Action: snapshots, dumps and the movers' copies of the
source, each judged by what it holds. -/
namespace Portage

open Go Kube Process Program

/-! ### Snapshots -/

/-- The name of a snapshot of a claim, to the minute. -/
def snapshotName (w : Workload) (pvc minute : String) : String :=
  let name := (toLower ("portage-" ++ w.name ++ "-" ++ pvc ++ "-" ++ minute)).toList
  String.ofList (if name.length > 63 then trimRight '-' (name.take 63) else name)

def createSnapshot (c : ClusterId) (w : Workload) (pvc minute : String) : Prog (Except ApiError Unit) :=
  let key : ObjKey := ⟨w.namespace_, snapshotName w pvc minute⟩
  createIn .source c .snapshots key (fun cluster => cluster.snapshots.any fun snap => snap.key = key)
    fun cluster => { cluster with snapshots := cluster.snapshots ++
      [{ key, workloadName := w.name, workloadKind := w.kind, readyToUse := false, pvc, source := pvc }] }

/-- Snapshot each claim, and stop at the first failure. -/
def createForWorkload (dynamic : Option ClusterId) (w : Workload) (minute : String) : Prog Unit :=
  match dynamic with
  | none => pure ()
  | some c =>
    ignoring (Program.foldUntil (fun _ pvc => VolSync.ignoreExists <$> createSnapshot c w pvc minute) w.pvcNames ())

/-! ### Sizes and dumps -/

def postgresSizeScript : String :=
  "\nset +e\nif command -v pg_dumpall >/dev/null 2>&1; then\n  n=$(pg_dumpall 2>/dev/null | wc -c | tr -d ' ')\n  if [ -n \"$n\" ] && [ \"$n\" -gt 0 ]; then echo \"$n\"; exit 0; fi\nfi\ndu -sb \"$\x7bPGDATA:-/var/lib/postgresql/data\x7d\" /var/lib/postgresql /bitnami/postgresql 2>/dev/null | awk '\x7bs+=$1\x7d END \x7bprint s+0\x7d'\n"

def sizeOf (directories : String) : List String :=
  ["/bin/sh", "-c", "du -sb " ++ directories ++ " 2>/dev/null | awk '\x7bs+=$1\x7d END \x7bprint s+0\x7d'"]

/-- A command that prints the bytes of live data, if there is one. -/
def sizeCommand (w : Workload) : List String :=
  if w.engine = "postgres" ∨ w.engine = "timescale" then ["/bin/sh", "-c", postgresSizeScript]
  else if w.engine = "mysql" ∨ w.engine = "mariadb" then sizeOf "/var/lib/mysql /bitnami/mysql"
  else if w.engine = "mongo" then sizeOf "/data/db /bitnami/mongodb"
  else if w.engine = "redis" ∨ w.engine = "valkey" ∨ w.engine = "keydb" ∨ w.engine = "dragonfly" then
    sizeOf "/data /bitnami/redis"
  else
    match w.cls with
    | .sqlLogical | .kvLogical | .searchFS | .queueDurable | .objectStore => sizeOf "/data /var/lib /bitnami"
    | _ => []

/-- The first integer of a command's output. -/
def parseBytes (stdout : String) : Int :=
  let text := (trimSpace stdout).toList
  (atoi (String.ofList (text.takeWhile fun c => c != ' ' && c != '\n' && c != '\t'))).getD 0

/-- The size of the live data, and what to say of it. -/
def liveBytes (kube exec : ClusterId) (w : Workload) : Prog (Except String (Int × String)) :=
  if sizeCommand w = [] then pure (.ok (0, "no live size command"))
  else do
    match ← firstReadyPod kube w with
    | .error text => pure (.error text)
    | .ok (pod, container) =>
      let answer ← execIn w.key exec pod.key container (sizeCommand w)
      match answer.error with
      | some text => pure (.error ("live size " ++ w.key ++ ": " ++ text))
      | none => pure (.ok (parseBytes answer.stdout, "live size"))

/-- `objectstore.Key`. -/
def storeKey (ns workloadKey id : String) : String :=
  let flat := workloadKey.toList.map fun c => if c = '/' then '_' else c
  String.ofList (trim '/' (ns.toList ++ '/' :: flat ++ '/' :: id.toList))

/-- Dump a workload of the source into the store: the key, the size and whether it is
worth keeping. -/
def Dump.capture (env : LiveEnv) (w : Workload) : Prog (Except String (String × Int × Bool)) :=
  match env.source.exec with
  | none => pure (.ok ("", 0, false))
  | some exec => do
    match ← firstReadyPod env.source.kube w with
    | .error text => pure (.error text)
    | .ok (pod, container) =>
      let answer ← execIn w.key exec pod.key container (Dump.command w.engine)
      match answer.error with
      | some text => pure (.error ("dump " ++ w.key ++ ": " ++ text))
      | none =>
        let size : Int := answer.stdout.utf8ByteSize
        let judged := Backup.forWorkload w { sizeBytes := size, files := [⟨"dump.sql", size⟩] }
        let key := storeKey w.namespace_ w.key env.stamp
        match env.put key with
        | some text => pure (.error text)
        | none => pure (.ok (key, size, judged.useful))

/-! ### One workload -/

/-- The object graph of the source, marshalled into the store. -/
def captureClusterObjects (env : LiveEnv) (w : Workload) : Except String (String × Int × String) :=
  match env.listClusterObjects with
  | .error text => .error text
  | .ok objects =>
    match env.marshal objects with
    | .error text => .error text
    | .ok size =>
      let key := storeKey w.namespace_ w.key ("objects-" ++ env.stamp)
      match env.put key with
      | some text => .error text
      | none => .ok (key, size, itoa objects.length ++ " objects snapshot")

def backupGraph (env : LiveEnv) (w : Workload) : ArtifactHealth :=
  match captureClusterObjects env w with
  | .error text => Backup.fromArtifact w false 0 ("cluster-objects: " ++ text) ""
  | .ok (key, size, message) =>
    let judged := Backup.forWorkload w { sizeBytes := size, files := [⟨"objects.json", size⟩] }
    Backup.fromArtifact w judged.useful judged.sizeBytes message key

def LiveEnv.backup (env : LiveEnv) (m : Mover) (w : Workload) : Prog (Except String Backup.Artifact) :=
  match m with
  | .postgresStreaming => pure (.ok { mover := m.name, message := "use logical dump + CSI for backup" })
  | .volsync => VolSync.backup env.volsync w
  | .rclone => VolSync.backup env.rclone w
  | .webhook _ => do
    match ← callMover .backup m w with
    | some text => pure (.error text)
    | none => pure (.ok (env.pluginArtifact w))

def backupByMover (env : LiveEnv) (m : Mover) (w : Workload) : Prog ArtifactHealth := do
  match ← env.backup m w with
  | .error text => pure (Backup.fromArtifact w false 0 text "")
  | .ok a => pure (Backup.fromArtifact w a.useful a.sizeBytes a.message a.id)

/-- The artifact from what was measured; the snapshot counts where the size is unknown. -/
def judged (w : Workload) (snapshot : Bool × String) (size : Int) (id note : String) : ArtifactHealth :=
  let ev := Backup.forWorkload w {
    sizeBytes := size, files := if id ≠ "" then [⟨"dump.sql", size⟩] else []
    hasSnapshot := snapshot.2 ≠ "", snapshotReady := snapshot.1 }
  Backup.fromArtifact w ev.useful ev.sizeBytes (if ev.message = "" then note else ev.message) id

/-- Logical engines are judged on the dump, and others on the live size. -/
def measure (env : LiveEnv) (w : Workload) (snapshot : Bool × String) : Prog ArtifactHealth :=
  if Dump.command w.engine ≠ [] then do
    match ← Dump.capture env w with
    | .error text => pure (Backup.fromArtifact w false 0 ("dump: " ++ text) "")
    | .ok (key, size, useful) =>
      pure (judged w snapshot size key (if useful then "object-store dump " ++ key else ""))
  else
    match env.source.exec with
    | none => pure (judged w snapshot 0 "" "")
    | some exec => do
      match ← liveBytes env.source.kube exec w with
      | .ok (size, note) => pure (judged w snapshot size "" note)
      | .error text => pure (judged w snapshot 0 "" text)

def snapshotAndMeasure (env : LiveEnv) (w : Workload) : Prog ArtifactHealth := do
  createForWorkload env.source.dynamic w env.minute
  let latest ← latestReady env.source.dynamic w
  measure env w (latest.toOption.getD (false, ""))

/-- A mover that nobody asked for serves only where there is no logical dump. -/
def backupDefault (env : LiveEnv) (w : Workload) : Prog ArtifactHealth :=
  if Dump.command w.engine = [] then
    match select env.movers w "" with
    | .ok (some m, capability) => if capability.backup then backupByMover env m w else snapshotAndMeasure env w
    | _ => snapshotAndMeasure env w
  else snapshotAndMeasure env w

def backupWorkload (env : LiveEnv) (w : Workload) : Prog ArtifactHealth :=
  if w.isObjectGraph then pure (backupGraph env w)
  else if moverOverride env.policy w .backup = "" then backupDefault env w
  else
    match select env.movers w (moverOverride env.policy w .backup) with
    | .error text => pure (Backup.fromArtifact w false 0 text "")
    | .ok (some m, capability) => if capability.backup then backupByMover env m w else backupDefault env w
    | .ok (none, _) => backupDefault env w

/-! ### The pass -/

def backupArtifacts (env : LiveEnv) : Prog (List ArtifactHealth) :=
  Program.fold (fun artifacts w => (artifacts ++ [·]) <$> backupWorkload env w)
    (env.inventory.filter fun w => w.cls ≠ .stateless) []

def waiting (a : ArtifactHealth) : Bool :=
  contains a.message "waiting for lastSyncTime" || contains a.message "waiting for ReplicationSource"

/-- A copy that VolSync has not finished keeps the Action open. -/
def backupResult (env : LiveEnv) (artifacts : List ArtifactHealth) : ActionResult :=
  let result := Backup.advance env.inventory artifacts env.now
  match artifacts.find? waiting with
  | some a =>
    { phase := .catchingUp, message := a.workload ++ ": " ++ a.message, workloads := result.workloads
      requeueAfter := seconds 15 }
  | none => result

/-- A Backup stores its artifacts on the Policy before it reports. -/
def runBackup (env : LiveEnv) : Prog (Except String ActionResult) := do
  let artifacts ← backupArtifacts env
  match env.policyWritten with
  | some text => pure (.error text)
  | none => pure (.ok (backupResult env artifacts))

/-! ### What the parts of a pass log -/

/-- What a Backup does: snapshots and commands with the source's clients, and what the
movers do. -/
inductive BackupEvent (env : LiveEnv) : Event → Prop where
  | snapshot {c : ClusterId} {key : ObjKey} (client : env.source.dynamic = some c) :
      BackupEvent env (.wrote (.create c .snapshots key))
  | exec {workload : String} {c : ClusterId} {pod : ObjKey} {container : String} {command : List String}
      {answer : ExecAnswer} (client : env.source.exec = some c) :
      BackupEvent env (.exec workload c pod container command answer)
  | volsync {w : Workload} {req : Request} (sends : env.volsync.Sends w req) : BackupEvent env (.wrote req)
  | moved {m workload : String} : BackupEvent env (.moved .backup m workload)

section
variable {o : Oracle} (env : LiveEnv) (w : Workload)

theorem moves_createForWorkload (minute : String) :
    Moves o (Extends o (BackupEvent env)) (createForWorkload env.source.dynamic w minute) := by
  unfold createForWorkload
  cases client : env.source.dynamic with
  | none => exact moves_pure _
  | some c =>
    exact moves_bind (Moves.foldUntil (extends_chains o _) (fun _ pvc _ =>
      moves_map (moves_send (.snapshot client))) _) fun _ => moves_pure _

theorem moves_capture : Moves o (Extends o (BackupEvent env)) (Dump.capture env w) := by
  unfold Dump.capture
  cases client : env.source.exec with
  | none => exact moves_pure _
  | some exec =>
    refine moves_bind (moves_firstReadyPod _ w) fun answer => ?_
    cases answer with
    | error text => exact moves_pure _
    | ok found =>
      refine moves_bind (moves_execIn fun _ => .exec client) fun answer => ?_
      cases answer.error with
      | some text => exact moves_pure _
      | none =>
        dsimp only
        split <;> exact moves_pure _

theorem moves_liveBytes {exec : ClusterId} (client : env.source.exec = some exec) :
    Moves o (Extends o (BackupEvent env)) (liveBytes env.source.kube exec w) := by
  refine moves_ite (fun _ => moves_pure _) fun _ => moves_bind (moves_firstReadyPod _ w) fun answer => ?_
  cases answer with
  | error text => exact moves_pure _
  | ok found =>
    refine moves_bind (moves_execIn fun _ => .exec client) fun answer => ?_
    cases answer.error <;> exact moves_pure _

theorem moves_measure (snapshot : Bool × String) :
    Moves o (Extends o (BackupEvent env)) (measure env w snapshot) := by
  refine moves_ite (fun _ => moves_bind (moves_capture env w) fun answer => ?_) fun _ => ?_
  · cases answer <;> exact moves_pure _
  · cases client : env.source.exec with
    | none => exact moves_pure _
    | some exec =>
      refine moves_bind (moves_liveBytes env w client) fun answer => ?_
      cases answer <;> exact moves_pure _

theorem moves_snapshotAndMeasure : Moves o (Extends o (BackupEvent env)) (snapshotAndMeasure env w) :=
  moves_bind (moves_createForWorkload env w _) fun _ =>
    moves_bind (moves_latestReady _ w) fun _ => moves_measure env w _

theorem moves_backupByMover (m : Mover) : Moves o (Extends o (BackupEvent env)) (backupByMover env m w) := by
  refine moves_bind ?_ fun answer => by cases answer <;> exact moves_pure _
  cases m with
  | postgresStreaming => exact moves_pure _
  | volsync => exact Moves.extends (VolSync.confined_backup env.volsync w) fun _ sends => .volsync sends
  | rclone =>
    exact Moves.extends (VolSync.confined_backup env.rclone w) fun _ sends =>
      .volsync (env.sends_rclone w sends)
  | webhook plugin =>
    refine moves_bind (moves_callMover .moved) fun answer => ?_
    cases answer <;> exact moves_pure _

theorem moves_backupDefault : Moves o (Extends o (BackupEvent env)) (backupDefault env w) := by
  refine moves_ite (fun _ => ?_) fun _ => moves_snapshotAndMeasure env w
  split
  · exact moves_ite (fun _ => moves_backupByMover env w _) fun _ => moves_snapshotAndMeasure env w
  · exact moves_snapshotAndMeasure env w

theorem moves_backupWorkload : Moves o (Extends o (BackupEvent env)) (backupWorkload env w) := by
  refine moves_ite (fun _ => moves_pure _) fun _ => moves_ite (fun _ => moves_backupDefault env w) fun _ => ?_
  split
  · exact moves_pure _
  · exact moves_ite (fun _ => moves_backupByMover env w _) fun _ => moves_backupDefault env w
  · exact moves_backupDefault env w

theorem moves_runBackup : Moves o (Extends o (BackupEvent env)) (runBackup env) := by
  refine moves_bind (Moves.fold (extends_chains o _) (fun _ w _ => moves_map (moves_backupWorkload env w)) _)
    fun artifacts => ?_
  cases env.policyWritten <;> exact moves_pure _

end

end Portage
