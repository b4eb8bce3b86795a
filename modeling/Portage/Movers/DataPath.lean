import Portage.Movers.Registry
import Portage.Workloads.Commands

/-! What the movers do to the clusters: the streaming replica, the VolSync pair,
and plugins behind a webhook. -/
namespace Portage

open Go Kube Process Program

/-! ### The streaming replica -/

def promoteCmd : List String := ["/bin/sh", "-c",
  "if command -v psql >/dev/null; then psql -U postgres -c \"SELECT pg_promote();\"; else pg_ctl promote; fi"]

def replicaLagCmd : List String := ["/bin/sh", "-c",
  "psql -U postgres -tAc \"SELECT COALESCE(EXTRACT(EPOCH FROM (now() - pg_last_xact_replay_timestamp()))::int, 0);\""]

/-- The replay lag of the standby; without an exec client it is unknown. The
output is scanned leniently. -/
def lagSeconds (dest : Endpoint) (w : Workload) : Prog (Except String (Option Int)) :=
  match dest.exec with
  | none => pure (.ok none)
  | some c => do
    match ← firstReadyPod dest.kube w with
    | .error text => pure (.error text)
    | .ok (pod, container) =>
      let answer ← execIn w.key c pod.key container replicaLagCmd
      match answer.error with
      | some text => pure (.error text)
      | none => pure (.ok (some (sscanfInt (trimSpace answer.stdout))))

def promotePostgres (dest : Endpoint) (w : Workload) : Prog (Option String) :=
  match dest.exec with
  | none => pure (some "postgres-streaming: dest kube/exec required to promote")
  | some c => do
    match ← scale dest.kube w 1 with
    | .error text => pure (some text)
    | .ok _ =>
      match ← firstReadyPod dest.kube w with
      | .error text => pure (some ("promote: " ++ text))
      | .ok (pod, container) =>
        let answer ← execIn w.key c pod.key container promoteCmd
        pure answer.error

/-! ### Calls on a mover -/

/-- Ask a mover to act; what it does to the clusters is its own affair. -/
def callMover (operation : MoverOp) (m : Mover) (w : Workload) : Prog (Option String) := do
  record (.moved operation m.name w.key)
  let n ← tick
  let o ← Program.answers
  Program.modify fun s => { s with clusters := o.replicated n s.clusters }
  pure (o.mover n)

namespace Mover

def replicate (m : Mover) (w : Workload) : Prog (Option String) := callMover .replicate m w

/-- Restoring through a built-in mover is left to the replica. -/
def restore (m : Mover) (w : Workload) : Prog (Option String) :=
  match m with
  | webhook _ => callMover .restore m w
  | postgresStreaming | volsync | rclone => pure none

def promote (m : Mover) (dest : Endpoint) (w : Workload) : Prog (Option String) :=
  match m with
  | postgresStreaming => do
    record (.moved .promote m.name w.key)
    promotePostgres dest w
  | volsync | rclone => do
    record (.moved .promote m.name w.key)
    pure none
  | webhook _ => callMover .promote m w

/-- The read-only probe of a mover. -/
def probe : Prog ProbeResult := do
  let n ← tick
  let o ← Program.answers
  pure (o.probe n)

end Mover

/-! ### VolSync pairs -/

def pairName (w : Workload) : String := "portage-" ++ w.name

def remotePair (source dest : Endpoint) : Bool := source.kube != dest.kube

/-- The destination's dynamic client, where the source's may stand in for it. -/
def destDyn (source dest : Endpoint) : Option ClusterId :=
  match dest.dynamic with
  | some c => some c
  | none => if remotePair source dest then none else source.dynamic

def syncedSource (dynamic : Option ClusterId) (key : ObjKey) : Prog Bool :=
  match dynamic with
  | none => pure false
  | some c => do
    match ← getObject c .replicationSources key
        fun cluster => cluster.replicationSources.find? fun rs => rs.key = key with
    | .error _ => pure false
    | .ok rs => pure (rs.lastSyncTime ≠ "" || rs.latestImage)

def syncedDestination (dynamic : Option ClusterId) (key : ObjKey) : Prog Bool :=
  match dynamic with
  | none => pure false
  | some c => do
    match ← getObject c .replicationDestinations key
        fun cluster => cluster.replicationDestinations.find? fun rd => rd.key = key with
    | .error _ => pure false
    | .ok rd => do
      record (.saw c rd)
      pure (rd.lastSyncTime ≠ "" || rd.latestImage)

/-- Whether both halves of the pair have reported a sync, ever. -/
def lagZero (source dest : Option ClusterId) (w : Workload) : Prog Bool := do
  let first ← syncedSource source ⟨w.namespace_, pairName w⟩
  let second ← syncedDestination dest ⟨w.namespace_, pairName w⟩
  pure (first && second)

def sourcePVCMissing (kube : ClusterId) (ns pvc : String) : Prog (Except String Bool) :=
  if ns = "" ∨ pvc = "" then pure (.ok false)
  else do
    match ← getObject kube .claims ⟨ns, pvc⟩ (·.claims ⟨ns, pvc⟩) with
    | .ok _ => pure (.ok false)
    | .error refused =>
      if refused.reason = .notFound then pure (.ok true)
      else pure (.error ("volsync source pvc " ++ ns ++ "/" ++ pvc ++ ": " ++ refused.message))

def deleteSource (c : ClusterId) (key : ObjKey) : Prog (Except ApiError Unit) :=
  send (.delete c .replicationSources key) c fun cluster =>
    if cluster.replicationSources.any fun rs => rs.key = key then
      .ok { cluster with replicationSources := cluster.replicationSources.filter fun rs => rs.key ≠ key }
    else .error (notFound .replicationSources key)

def deleteDestination (c : ClusterId) (key : ObjKey) : Prog (Except ApiError Unit) :=
  send (.delete c .replicationDestinations key) c fun cluster =>
    if cluster.replicationDestinations.any fun rd => rd.key = key then
      .ok { cluster with
        replicationDestinations := cluster.replicationDestinations.filter fun rd => rd.key ≠ key }
    else .error (notFound .replicationDestinations key)

/-- Run a delete if there is a client for it, whatever comes of it. -/
def deleteIn (delete : ClusterId → ObjKey → Prog (Except ApiError Unit)) (key : ObjKey) :
    Option ClusterId → Prog Unit
  | none => pure ()
  | some c => do
    let _ ← delete c key
    pure ()

def deletePair (source dest : Option ClusterId) (key : ObjKey) : Prog Unit :=
  if key.namespace_ = "" ∨ key.name = "" then pure ()
  else do
    deleteIn deleteSource key source
    deleteIn deleteDestination key dest

/-- What pruning does about one ReplicationSource. -/
def pruneOne (source dest : Endpoint) (ns : String) (keep : List String) (item : ReplicationSource) :
    Prog (Except String Unit) :=
  if item.owner = "" then pure (.ok ())
  else if keep.contains item.owner then do
    match ← sourcePVCMissing source.kube ns item.sourcePVC with
    | .error text => pure (.error text)
    | .ok false => pure (.ok ())
    | .ok true => .ok <$> deletePair source.dynamic (destDyn source dest) item.key
  else .ok <$> deletePair source.dynamic (destDyn source dest) item.key

/-- What pruning asks of the clusters. -/
inductive PruneRequest (source dest : Endpoint) : Request → Prop where
  | source {c : ClusterId} (client : source.dynamic = some c) (key : ObjKey) :
      PruneRequest source dest (.delete c .replicationSources key)
  | dest {c : ClusterId} (client : destDyn source dest = some c) (key : ObjKey) :
      PruneRequest source dest (.delete c .replicationDestinations key)

/-- Delete the labelled pairs of a namespace whose workload or claim is gone. -/
def prune (source dest : Endpoint) (ns : String) (keep : List String) : Prog (Except String Unit) :=
  match source.dynamic with
  | none => pure (.ok ())
  | some c =>
    if ns = "" then pure (.ok ())
    else do
      match ← listObjects c .replicationSources ns
          fun cluster => cluster.replicationSources.filter fun rs => rs.key.namespace_ = ns with
      | .error refused =>
        if refused.reason = .notFound then pure (.ok ()) else pure (.error refused.message)
      | .ok items => Program.foldUntil (fun _ => pruneOne source dest ns keep) items ()

section
variable {o : Oracle} {allowed : Event → Prop}

theorem moves_lagSeconds (dest : Endpoint) (w : Workload)
    (fits : ∀ c pod container answer, allowed (.exec w.key c pod container replicaLagCmd answer)) :
    Moves o (Extends o allowed) (lagSeconds dest w) := by
  unfold lagSeconds
  cases dest.exec with
  | none => exact moves_pure _
  | some c =>
    refine moves_bind (moves_firstReadyPod _ _) fun answer => ?_
    cases answer with
    | error text => exact moves_pure _
    | ok found =>
      refine moves_bind (moves_execIn (fits _ _ _)) fun answer => ?_
      cases answer.error <;> exact moves_pure _

theorem moves_promotePostgres (dest : Endpoint) (w : Workload)
    (writes : ∀ kind : ControllerKind, allowed (.wrote (.update dest.kube kind.resource w.objKey)))
    (execs : ∀ c pod container answer, allowed (.exec w.key c pod container promoteCmd answer)) :
    Moves o (Extends o allowed) (promotePostgres dest w) := by
  unfold promotePostgres
  cases dest.exec with
  | none => exact moves_pure _
  | some c =>
    refine moves_bind (moves_scale _ _ writes _) fun answer => ?_
    cases answer with
    | error text => exact moves_pure _
    | ok _ =>
      refine moves_bind (moves_firstReadyPod _ _) fun answer => ?_
      cases answer with
      | error text => exact moves_pure _
      | ok found => exact moves_bind (moves_execIn (execs _ _ _)) fun _ => moves_pure _

/-- A mover is named in the log before it can change anything. -/
theorem moves_callMover {operation : MoverOp} {m : Mover} {w : Workload}
    (fits : allowed (.moved operation m.name w.key)) :
    Moves o (Extends o allowed) (callMover operation m w) := fun s =>
  ⟨rfl, [.moved operation m.name w.key], by simp [callMover, record, tick], by simpa using fits,
    fun quiet => by simp [Event.touches] at quiet⟩

theorem moves_restore {m : Mover} {w : Workload} (fits : allowed (.moved .restore m.name w.key)) :
    Moves o (Extends o allowed) (m.restore w) := by
  cases m with
  | webhook plugin => exact moves_callMover fits
  | postgresStreaming | volsync | rclone => exact moves_pure _

theorem moves_promote {m : Mover} {w : Workload} (dest : Endpoint)
    (fits : allowed (.moved .promote m.name w.key))
    (writes : ∀ kind : ControllerKind, allowed (.wrote (.update dest.kube kind.resource w.objKey)))
    (execs : ∀ c pod container answer, allowed (.exec w.key c pod container promoteCmd answer)) :
    Moves o (Extends o allowed) (m.promote dest w) := by
  cases m with
  | webhook plugin => exact moves_callMover fits
  | postgresStreaming =>
    exact moves_bind (moves_record fits) fun _ => moves_promotePostgres dest w writes execs
  | volsync | rclone => exact moves_bind (moves_record fits) fun _ => moves_pure _

theorem moves_moverProbe : Moves o (Extends o allowed) Mover.probe :=
  moves_bind moves_tick fun _ => moves_bind moves_answers fun _ => moves_pure _

theorem moves_syncedSource (dynamic : Option ClusterId) (key : ObjKey) :
    Moves o (Extends o allowed) (syncedSource dynamic key) := by
  cases dynamic with
  | none => exact moves_pure _
  | some c =>
    refine moves_bind (moves_getObject _ _ _ _) fun answer => ?_
    cases answer <;> exact moves_pure _

theorem moves_syncedDestination (dynamic : Option ClusterId) (key : ObjKey)
    (fits : ∀ c rd, allowed (.saw c rd)) : Moves o (Extends o allowed) (syncedDestination dynamic key) := by
  cases dynamic with
  | none => exact moves_pure _
  | some c =>
    refine moves_bind (moves_getObject _ _ _ _) fun answer => ?_
    cases answer with
    | error _ => exact moves_pure _
    | ok rd => exact moves_bind (moves_record (fits _ _)) fun _ => moves_pure _

theorem moves_lagZero (source dest : Option ClusterId) (w : Workload)
    (fits : ∀ c rd, allowed (.saw c rd)) : Moves o (Extends o allowed) (lagZero source dest w) :=
  moves_bind (moves_syncedSource _ _) fun _ => moves_bind (moves_syncedDestination _ _ fits) fun _ =>
    moves_pure _

theorem moves_sourcePVCMissing (kube : ClusterId) (ns pvc : String) :
    Moves o (Extends o allowed) (sourcePVCMissing kube ns pvc) := by
  refine moves_ite (fun _ => moves_pure _) fun _ => moves_bind (moves_getObject _ _ _ _) fun answer => ?_
  cases answer with
  | ok _ => exact moves_pure _
  | error refused => exact moves_ite (fun _ => moves_pure _) fun _ => moves_pure _

theorem moves_deletePair (source dest : Option ClusterId) (key : ObjKey)
    (sources : ∀ c, source = some c → allowed (.wrote (.delete c .replicationSources key)))
    (dests : ∀ c, dest = some c → allowed (.wrote (.delete c .replicationDestinations key))) :
    Moves o (Extends o allowed) (deletePair source dest key) := by
  refine moves_ite (fun _ => moves_pure _) fun _ => moves_bind ?_ fun _ => ?_
  · cases source with
    | none => exact moves_pure _
    | some c => exact moves_bind (moves_send (sources c rfl)) fun _ => moves_pure _
  · cases dest with
    | none => exact moves_pure _
    | some c => exact moves_bind (moves_send (dests c rfl)) fun _ => moves_pure _

theorem moves_pruneOne (source dest : Endpoint) (ns : String) (keep : List String)
    (item : ReplicationSource) (fits : ∀ req, PruneRequest source dest req → allowed (.wrote req)) :
    Moves o (Extends o allowed) (pruneOne source dest ns keep item) := by
  have deletes : Moves o (Extends o allowed) (deletePair source.dynamic (destDyn source dest) item.key) :=
    moves_deletePair _ _ _ (fun _ client => fits _ (.source client _)) fun _ client => fits _ (.dest client _)
  refine moves_ite (fun _ => moves_pure _) fun _ => moves_ite (fun _ =>
    moves_bind (moves_sourcePVCMissing _ _ _) fun answer => ?_) fun _ => moves_map deletes
  match answer with
  | .error text => exact moves_pure _
  | .ok false => exact moves_pure _
  | .ok true => exact moves_map deletes

theorem moves_prune (source dest : Endpoint) (ns : String) (keep : List String)
    (fits : ∀ req, PruneRequest source dest req → allowed (.wrote req)) :
    Moves o (Extends o allowed) (prune source dest ns keep) := by
  unfold prune
  cases source.dynamic with
  | none => exact moves_pure _
  | some c =>
    refine moves_ite (fun _ => moves_pure _) fun _ => moves_bind (moves_listObjects _ _ _ _) fun answer => ?_
    cases answer with
    | error refused => exact moves_ite (fun _ => moves_pure _) fun _ => moves_pure _
    | ok items =>
      exact Moves.foldUntil (extends_chains o allowed) (fun _ item _ => moves_pruneOne _ _ _ _ item fits) _

theorem sourcePVCMissing_serene (serene : o.Serene) (home : ClusterId) (ns pvc : String) (s : World) :
    (sourcePVCMissing home ns pvc o s).1 =
      .ok (ns ≠ "" && pvc ≠ "" && ((s.clusters home).claims ⟨ns, pvc⟩).isNone) := by
  unfold sourcePVCMissing
  split
  · rename_i missing
    rcases missing with rfl | rfl <;> simp
  · rename_i named
    simp only [not_or] at named
    cases stored : (s.clusters home).claims ⟨ns, pvc⟩ <;>
      simp [getObject_serene serene, stored, found, notFound, named]

/-- Served, pruning one pair does not stop the others. -/
theorem pruneOne_serene (serene : o.Serene) {source dest : Endpoint} {ns : String} {keep : List String}
    {item : ReplicationSource} {s : World} : (pruneOne source dest ns keep item o s).1 = .ok () := by
  have answer := sourcePVCMissing_serene serene source.kube ns item.sourcePVC s
  generalize (ns ≠ "" && item.sourcePVC ≠ "" && ((s.clusters source.kube).claims ⟨ns, item.sourcePVC⟩).isNone) =
    missing at answer
  unfold pruneOne
  split
  · rfl
  · split
    · cases missing <;> simp [answer]
    · rfl

end

end Portage
