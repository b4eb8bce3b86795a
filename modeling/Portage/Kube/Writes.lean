import Portage.Kube.Confined

/-! The three kinds of writes: a create of what is absent, an update of what was read,
and a delete of what is there. -/
namespace Portage.Kube

open Go Process Program

def createIn (side : Side) (c : ClusterId) (resource : Resource) (key : ObjKey)
    (present : Cluster → Bool) (add : Cluster → Cluster) : Prog (Except ApiError Unit) :=
  send (side.request .create c resource key) c fun cluster =>
    if present cluster then .error (alreadyExists resource key) else .ok (add cluster)

/-- An update under optimistic concurrency: `before` is the copy that was read. -/
def updateIn [DecidableEq β] (side : Side) (c : ClusterId) (resource : Resource) (key : ObjKey)
    (select : Cluster → Option β) (before : β) (put : Cluster → Cluster) : Prog (Except ApiError Unit) :=
  send (side.request .update c resource key) c fun cluster =>
    match select cluster with
    | none => .error (notFound resource key)
    | some now =>
      if now = before then .ok (put cluster) else .error ⟨.conflict, "the object has been modified"⟩

def deleteFrom (side : Side) (c : ClusterId) (resource : Resource) (key : ObjKey)
    (present : Cluster → Bool) (drop : Cluster → Cluster) : Prog (Except ApiError Unit) :=
  send (side.request .delete c resource key) c fun cluster =>
    if present cluster then .ok (drop cluster) else .error (notFound resource key)

/-- Do something and drop what came of it. -/
def ignoring (x : Prog α) : Prog Unit := do
  let _ ← x
  pure ()

def forEach (items : List α) (act : α → Prog Unit) : Prog Unit :=
  Program.fold (fun _ item => act item) items ()

/-- What a list finds of the objects that a cluster keeps in a table. -/
def listTable (c : ClusterId) (resource : Resource) (ns : String) (table : Cluster → ObjKey → Option β) :
    Prog (Except ApiError (List (ObjKey × β))) := do
  let o ← Program.answers
  let s ← Program.world
  listObjects c resource ns fun cluster => (o.listed s.calls).filterMap fun key =>
    if key.namespace_ = ns then (table cluster key).map fun value => (key, value) else none

@[simp] theorem Side.target_request (side : Side) (verb : Verb) (c : ClusterId) (resource : Resource)
    (key : ObjKey) : (side.request verb c resource key).target = some (c, resource) := by
  cases side <;> cases verb <;> rfl

@[simp] theorem Side.exports_request (side : Side) (verb : Verb) (c : ClusterId) (resource : Resource)
    (key : ObjKey) : (side.request verb c resource key).exports = false := by
  cases side <;> cases verb <;> rfl

/-- `step` changes objects of one kind only. -/
def ChangesOnly (resource : Resource) (step : Cluster → Cluster) : Prop :=
  ∀ cluster other, other ≠ resource → Agree cluster (step cluster) other

section
variable {o : Oracle} {allowed : Request → Prop} {side : Side} {c : ClusterId} {resource : Resource}
  {key : ObjKey} {present : Cluster → Bool}

theorem confined_createIn {add : Cluster → Cluster} (fits : allowed (side.request .create c resource key))
    (spares : ChangesOnly resource add) :
    Moves o (Confined o allowed) (createIn side c resource key present add) := by
  refine confined_send fits (Side.target_request ..) fun before after changed other different => ?_
  split at changed
  · cases changed
  · cases changed
    exact spares before other different

theorem confined_updateIn [DecidableEq β] {select : Cluster → Option β} {old : β} {put : Cluster → Cluster}
    (fits : allowed (side.request .update c resource key)) (spares : ChangesOnly resource put) :
    Moves o (Confined o allowed) (updateIn side c resource key select old put) := by
  refine confined_send fits (Side.target_request ..) fun before after changed other different => ?_
  split at changed
  · cases changed
  · split at changed
    · cases changed
      exact spares before other different
    · cases changed

/-- Taking away what is there alters one kind only. -/
theorem alters_drop {drop : Cluster → Cluster} {refused : ApiError} (spares : ChangesOnly resource drop) :
    Alters resource fun cluster => if present cluster then .ok (drop cluster) else .error refused := by
  intro before after changed other different
  dsimp only at changed
  split at changed
  · cases changed
    exact spares before other different
  · cases changed

theorem confined_deleteFrom {drop : Cluster → Cluster}
    (fits : allowed (side.request .delete c resource key)) (spares : ChangesOnly resource drop) :
    Moves o (Confined o allowed) (deleteFrom side c resource key present drop) :=
  confined_send fits (Side.target_request ..) (alters_drop spares)

theorem confined_ignoring {x : Prog α} (moves : Moves o (Confined o allowed) x) :
    Moves o (Confined o allowed) (ignoring x) := moves

theorem confined_forEach {items : List α} {act : α → Prog Unit}
    (each : ∀ item ∈ items, Moves o (Confined o allowed) (act item)) :
    Moves o (Confined o allowed) (forEach items act) :=
  confined_fold (fun _ item member => each item member) ()

theorem confined_listTable (ns : String) (table : Cluster → ObjKey → Option β) :
    Moves o (Confined o allowed) (listTable c resource ns table) :=
  confined_bind (confined_of_reads moves_answers) fun _ =>
    confined_bind (confined_of_reads moves_world) fun _ => confined_listObjects _ _ _ _

variable (still : o.Still) {s : World}
include still

theorem createIn_ok {add : Cluster → Cluster} (done : (createIn side c resource key present add o s).1 = .ok ()) :
    present (s.clusters c) = false ∧
      (createIn side c resource key present add o s).2.clusters c = add (s.clusters c) := by
  obtain ⟨after, changed, clusters⟩ := send_ok still done
  cases there : present (s.clusters c) with
  | true => simp [there] at changed
  | false =>
    simp only [there, Bool.false_eq_true, if_false, Except.ok.injEq] at changed
    exact ⟨rfl, by simp [createIn, clusters, changed]⟩

theorem updateIn_ok [DecidableEq β] {select : Cluster → Option β} {old : β} {put : Cluster → Cluster}
    (done : (updateIn side c resource key select old put o s).1 = .ok ()) :
    select (s.clusters c) = some old ∧
      (updateIn side c resource key select old put o s).2.clusters c = put (s.clusters c) := by
  obtain ⟨after, changed, clusters⟩ := send_ok still done
  cases stored : select (s.clusters c) with
  | none => simp [stored] at changed
  | some now =>
    by_cases same : now = old
    · simp only [stored, same, if_true, Except.ok.injEq] at changed
      exact ⟨by rw [same], by simp [updateIn, clusters, changed]⟩
    · simp [stored, same] at changed

/-- If nobody else moves, an object that was read is the one that is stored. -/
theorem getObject_ok {select : Cluster → Option β} {value : β}
    (done : (getObject c resource key select o s).1 = .ok value) : select (s.clusters c) = some value := by
  rw [getObject, fetch_still still] at done
  cases failed : o.fault s.calls (.get c resource key) with
  | some fault => simp [failed] at done
  | none =>
    cases stored : select (s.clusters c) with
    | none => simp [failed, stored] at done
    | some now => simpa [failed, stored] using done

/-- Only the server says that an object is not there. -/
theorem getObject_notFound {select : Cluster → Option β} {refused : ApiError}
    (answer : (getObject c resource key select o s).1 = .error refused) (gone : refused.reason = .notFound) :
    select (s.clusters c) = none := by
  rw [getObject, fetch_still still] at answer
  cases failed : o.fault s.calls (.get c resource key) with
  | some fault =>
    obtain rfl : fault.error = refused := by simpa [failed] using answer
    cases conflict : fault.conflict <;> simp [Fault.error, conflict] at gone
  | none =>
    cases stored : select (s.clusters c) with
    | none => rfl
    | some now => simp [failed, stored] at answer

theorem getObject_refused {select : Cluster → Option β} {refused : ApiError}
    (answer : (getObject c resource key select o s).1 = .error refused) : refused.reason ≠ .alreadyExists := by
  rw [getObject, fetch_still still] at answer
  cases failed : o.fault s.calls (.get c resource key) with
  | some fault =>
    obtain rfl : fault.error = refused := by simpa [failed] using answer
    cases conflict : fault.conflict <;> simp [Fault.error, conflict]
  | none =>
    cases stored : select (s.clusters c) with
    | none =>
      obtain rfl : notFound resource key = refused := by simpa [failed, stored] using answer
      simp [notFound]
    | some now => simp [failed, stored] at answer

theorem listObjects_ok {ns : String} {select : Cluster → List β} {items : List β}
    (done : (listObjects c resource ns select o s).1 = .ok items) : items = select (s.clusters c) := by
  rw [listObjects, fetch_still still] at done
  cases failed : o.fault s.calls (.list c resource ns) with
  | some fault => simp [failed] at done
  | none => simpa [failed] using done.symm

end

section
variable {o : Oracle} (serene : o.Serene) {side : Side} {c : ClusterId} {resource : Resource} {key : ObjKey} {s : World}
include serene

theorem createIn_serene {present : Cluster → Bool} (add : Cluster → Cluster) (absent : present (s.clusters c) = false) :
    (createIn side c resource key present add o s).1 = .ok () ∧
      (createIn side c resource key present add o s).2.clusters c = add (s.clusters c) := by
  simp [createIn, send, tick_serene serene, serene.served _ _ (Side.exports_request ..), record, setCluster, absent]

/-- What is there already is reported, and left. -/
theorem createIn_present {present : Cluster → Bool} (add : Cluster → Cluster) (there : present (s.clusters c) = true) :
    (createIn side c resource key present add o s).1 = .error (alreadyExists resource key) ∧
      (createIn side c resource key present add o s).2.clusters = s.clusters := by
  simp [createIn, send, tick_serene serene, serene.served _ _ (Side.exports_request ..), record, there]

theorem updateIn_serene [DecidableEq β] {select : Cluster → Option β} {old : β} (put : Cluster → Cluster)
    (stored : select (s.clusters c) = some old) : (updateIn side c resource key select old put o s).1 = .ok () ∧
      (updateIn side c resource key select old put o s).2.clusters c = put (s.clusters c) := by
  simp [updateIn, send, tick_serene serene, serene.served _ _ (Side.exports_request ..), record, setCluster, stored]

end

/-! ### The parts of a cluster -/

def Cluster.putSecret (key : ObjKey) (secret : Secret) (cluster : Cluster) : Cluster :=
  { cluster with secrets := fun other => if other = key then some secret else cluster.secrets other }

def Cluster.putNamespace (name : String) (ns : Namespace) (cluster : Cluster) : Cluster :=
  { cluster with namespaces := fun other => if other = name then some ns else cluster.namespaces other }

theorem spares_putSecret (key : ObjKey) (secret : Secret) : ChangesOnly .secrets (Cluster.putSecret key secret) := by
  intro cluster other different
  cases other <;> first | contradiction | rfl

theorem spares_putNamespace (name : String) (ns : Namespace) :
    ChangesOnly .namespaces (Cluster.putNamespace name ns) := by
  intro cluster other different
  cases other <;> first | contradiction | rfl | exact ⟨rfl, rfl⟩

theorem spares_claims (change : Cluster → ObjKey → Option Claim) :
    ChangesOnly .claims fun cluster => { cluster with claims := change cluster } := by
  intro cluster other different
  cases other <;> first | contradiction | rfl | exact ⟨rfl, rfl⟩

theorem spares_pods (change : Cluster → List Pod) :
    ChangesOnly .pods fun cluster => { cluster with pods := change cluster } := by
  intro cluster other different
  cases other <;> first | contradiction | rfl | exact ⟨rfl, rfl⟩

theorem spares_jobs (change : Cluster → List Job) :
    ChangesOnly .jobs fun cluster => { cluster with jobs := change cluster } := by
  intro cluster other different
  cases other <;> first | contradiction | rfl | exact ⟨rfl, rfl⟩

theorem spares_daemonSets (change : Cluster → ObjKey → Option DaemonSet) :
    ChangesOnly .daemonSets fun cluster => { cluster with daemonSets := change cluster } := by
  intro cluster other different
  cases other <;> first | contradiction | rfl | exact ⟨rfl, rfl⟩

theorem spares_replicationSources (change : Cluster → List ReplicationSource) :
    ChangesOnly .replicationSources fun cluster => { cluster with replicationSources := change cluster } := by
  intro cluster other different
  cases other <;> first | contradiction | rfl | exact ⟨rfl, rfl⟩

theorem spares_replicationDestinations (change : Cluster → List ReplicationDestination) :
    ChangesOnly .replicationDestinations fun cluster =>
      { cluster with replicationDestinations := change cluster } := by
  intro cluster other different
  cases other <;> first | contradiction | rfl | exact ⟨rfl, rfl⟩

end Portage.Kube
