import Portage.Kube.World

/-! What the calls of a pass can do to the world. -/
namespace Portage.Kube

open Go Process Program

/-- Nobody else changes the clusters while the pass runs. -/
def Oracle.Still (o : Oracle) : Prop := ∀ n clusters, o.drift n clusters = clusters

/-- Only others can have moved between the two: what each of their moves keeps
is kept. -/
def Oracle.Drifts (o : Oracle) (before after : Clusters) : Prop :=
  ∀ kept : Clusters → Prop, (∀ n clusters, kept clusters → kept (o.drift n clusters)) →
    kept before → kept after

theorem Oracle.Drifts.eq {o : Oracle} {before after : Clusters} (drifts : o.Drifts before after)
    (still : o.Still) : after = before :=
  drifts (· = before) (fun n clusters same => (still n clusters).trans same) rfl

/-- From `s` to `t` only events that satisfy `allowed` were added, and if none of
them touches a cluster then only others can have moved. -/
def Logged (o : Oracle) (allowed : Event → Prop) (s t : World) : Prop :=
  ∃ added, t.log = s.log ++ added ∧ (∀ e ∈ added, allowed e) ∧
    ((∀ e ∈ added, e.touches = false) → o.Drifts s.clusters t.clusters)

theorem logged_chains (o : Oracle) (allowed : Event → Prop) : Chains (Logged o allowed) where
  refl s := ⟨[], by simp, by simp, fun _ _ _ same => same⟩
  trans := by
    rintro s t u ⟨first, logFirst, allFirst, clustersFirst⟩ ⟨second, logSecond, allSecond, clustersSecond⟩
    refine ⟨first ++ second, by simp [logSecond, logFirst], ?_, ?_⟩
    · intro e member
      exact (List.mem_append.mp member).elim (allFirst e) (allSecond e)
    · intro quiet kept keeps before
      exact clustersSecond (fun e member => quiet e (by simp [member])) kept keeps
        (clustersFirst (fun e member => quiet e (by simp [member])) kept keeps before)

theorem Logged.grows {o : Oracle} {allowed : Event → Prop} {s t : World} (logged : Logged o allowed s t) :
    s.log <+: t.log := by
  obtain ⟨added, log, _⟩ := logged
  exact ⟨added, log.symm⟩

/-- The log is extended as allowed, and the Action is the same. -/
structure Extends (o : Oracle) (allowed : Event → Prop) (s t : World) : Prop where
  action : t.action = s.action
  log : Logged o allowed s t

theorem extends_chains (o : Oracle) (allowed : Event → Prop) : Chains (Extends o allowed) where
  refl s := ⟨rfl, (logged_chains o allowed).refl s⟩
  trans := fun before after =>
    ⟨after.action.trans before.action, (logged_chains o allowed).trans before.log after.log⟩

section
variable {o : Oracle} {allowed wider : Event → Prop}

theorem Extends.mono {s t : World} (extended : Extends o allowed s t)
    (implies : ∀ e, allowed e → wider e) : Extends o wider s t := by
  obtain ⟨same, added, log, all, clusters⟩ := extended
  exact ⟨same, added, log, fun e member => implies e (all e member), clusters⟩

theorem Moves.widen {x : Prog α} (moves : Moves o (Extends o allowed) x)
    (implies : ∀ e, allowed e → wider e) : Moves o (Extends o wider) x :=
  fun s => (moves s).mono implies

theorem Extends.grows {s t : World} (extended : Extends o allowed s t) : s.log <+: t.log :=
  extended.log.grows

theorem moves_pure (value : α) : Moves o (Extends o allowed) (pure value : Prog α) :=
  Moves.pure (extends_chains o allowed) value

theorem moves_bind {x : Prog α} {f : α → Prog β} (first : Moves o (Extends o allowed) x)
    (then_ : ∀ value, Moves o (Extends o allowed) (f value)) : Moves o (Extends o allowed) (x >>= f) :=
  Moves.bind (extends_chains o allowed) first then_

theorem moves_map {f : α → β} {x : Prog α} (moves : Moves o (Extends o allowed) x) :
    Moves o (Extends o allowed) (f <$> x) := moves

theorem moves_ite {condition : Prop} [Decidable condition] {x y : Prog α}
    (yes : condition → Moves o (Extends o allowed) x) (no : ¬ condition → Moves o (Extends o allowed) y) :
    Moves o (Extends o allowed) (if condition then x else y) := by
  split
  · exact yes ‹_›
  · exact no ‹_›

theorem moves_tick : Moves o (Extends o allowed) tick := fun s =>
  ⟨rfl, [], by simp [tick], by simp, fun _ _ keeps before => keeps s.calls s.clusters before⟩

theorem moves_world : Moves o (Extends o allowed) (world : Prog World) := fun s =>
  (extends_chains o allowed).refl s

theorem moves_answers : Moves o (Extends o allowed) (answers : Prog Oracle) := fun s =>
  (extends_chains o allowed).refl s

theorem moves_record {event : Event} (fits : allowed event) :
    Moves o (Extends o allowed) (record event) := fun s =>
  ⟨rfl, [event], by simp [record], by simpa using fits, fun _ _ _ same => same⟩

theorem moves_fetch (req : Request) (look : World → Except ApiError α) :
    Moves o (Extends o allowed) (fetch req look) := by
  refine moves_bind moves_tick fun n => moves_bind moves_answers fun o' => ?_
  cases o'.fault n req with
  | some fault => exact moves_pure _
  | none => exact moves_bind moves_world fun s => moves_pure _

theorem moves_getObject (c : ClusterId) (resource : Resource) (key : ObjKey)
    (select : Cluster → Option α) : Moves o (Extends o allowed) (getObject c resource key select) :=
  moves_fetch _ _

theorem moves_exportObject (c : ClusterId) (resource : Resource) (key : ObjKey)
    (select : Cluster → Option α) : Moves o (Extends o allowed) (exportObject c resource key select) :=
  moves_fetch _ _

theorem moves_listObjects (c : ClusterId) (resource : Resource) (ns : String)
    (select : Cluster → List α) : Moves o (Extends o allowed) (listObjects c resource ns select) :=
  moves_fetch _ _

theorem send_kept (req : Request) (c : ClusterId) (change : Cluster → Except ApiError Cluster) (s : World) :
    (send req c change o s).2.action = s.action ∧
      (send req c change o s).2.log = s.log ++ [.wrote req] := by
  cases failed : o.fault s.calls req <;>
    cases changed : change (o.drift s.calls s.clusters c) <;>
    cases lost : o.lost s.calls <;>
    simp [send, tick, record, setCluster, failed, changed, lost]

/-- A write is logged before it can change anything. -/
theorem moves_send {req : Request} {c : ClusterId} {change : Cluster → Except ApiError Cluster}
    (fits : allowed (.wrote req)) : Moves o (Extends o allowed) (send req c change) := by
  intro s
  have kept := send_kept (o := o) req c change s
  refine ⟨kept.1, [.wrote req], kept.2, by simpa using fits, fun quiet => ?_⟩
  simp [Event.touches] at quiet

theorem moves_execIn {workload : String} {c : ClusterId} {pod : ObjKey} {container : String}
    {command : List String} (fits : ∀ answer, allowed (.exec workload c pod container command answer)) :
    Moves o (Extends o allowed) (execIn workload c pod container command) :=
  moves_bind moves_tick fun _ => moves_bind moves_answers fun _ =>
    moves_bind (moves_record (fits _)) fun _ => moves_pure _

end

/-- A call that only reads leaves the Action and the log alone. -/
theorem Moves.reads {o : Oracle} {x : Prog α} (moves : Moves o (Extends o fun _ => False) x) (s : World) :
    (x o s).2.action = s.action ∧ (x o s).2.log = s.log := by
  obtain ⟨same, added, log, nothing, _⟩ := moves s
  obtain rfl : added = [] := List.eq_nil_iff_forall_not_mem.mpr nothing
  exact ⟨same, by simpa using log⟩

/-- A call that touches nothing leaves the clusters alone if nobody else moves. -/
theorem Moves.clusters_eq {o : Oracle} {x : Prog α} (still : o.Still)
    (moves : Moves o (Extends o fun e => e.touches = false) x) (s : World) :
    (x o s).2.clusters = s.clusters := by
  obtain ⟨_, added, _, quiet, same⟩ := moves s
  exact (same quiet).eq still

/-- If nobody else moves, a read is refused or answers from the world as it is. -/
theorem fetch_still {o : Oracle} (still : o.Still) (req : Request) (look : World → Except ApiError α)
    (s : World) : fetch req look o s =
      ((o.fault s.calls req).elim (look { s with calls := s.calls + 1 }) fun fault => .error fault.error,
        { s with calls := s.calls + 1 }) := by
  cases refused : o.fault s.calls req <;> simp [fetch, tick, refused, still s.calls s.clusters]

/-! ### Passes in which every call succeeds -/

/-- Nobody else moves, and no call fails other than a read of an object to export. -/
structure Oracle.Serene (o : Oracle) : Prop where
  still : o.Still
  served : ∀ n req, req.exports = false → o.fault n req = none

/-- The oracle that serves every call. -/
theorem serene_default : Oracle.Serene {} := ⟨fun _ _ => rfl, fun _ _ _ => rfl⟩

section
variable {o : Oracle} (serene : o.Serene)
include serene

theorem tick_serene (s : World) : tick o s = (s.calls, { s with calls := s.calls + 1 }) := by
  simp [tick, serene.still s.calls s.clusters]

theorem fetch_serene {req : Request} (here : req.exports = false) (look : World → Except ApiError α)
    (s : World) : fetch req look o s =
      (look { s with calls := s.calls + 1 }, { s with calls := s.calls + 1 }) := by
  simp [fetch, tick_serene serene, serene.served _ _ here]

theorem getObject_serene (c : ClusterId) (resource : Resource) (key : ObjKey)
    (select : Cluster → Option α) (s : World) :
    getObject c resource key select o s =
      (found resource key (select (s.clusters c)), { s with calls := s.calls + 1 }) := by
  rw [getObject, fetch_serene serene rfl]

theorem listObjects_serene (c : ClusterId) (resource : Resource) (ns : String)
    (select : Cluster → List α) (s : World) :
    listObjects c resource ns select o s = (.ok (select (s.clusters c)), { s with calls := s.calls + 1 }) := by
  rw [listObjects, fetch_serene serene rfl]

theorem send_serene {req : Request} {c : ClusterId} {change : Cluster → Except ApiError Cluster}
    {s : World} {after : Cluster} (here : req.exports = false)
    (accepted : change (s.clusters c) = .ok after) : send req c change o s = (.ok (), { s with
      calls := s.calls + 1, log := s.log ++ [.wrote req]
      clusters := fun other => if other = c then after else s.clusters other }) := by
  simp [send, tick_serene serene, serene.served _ _ here, record, setCluster, accepted]

end

end Portage.Kube
