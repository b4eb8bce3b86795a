import Portage.Kube.Rules

/-! Programs that write only what their requests name. A request names a cluster and
a kind; everything that no request names is as it was. -/
namespace Portage.Kube

open Go Process Program

/-- The cluster and the kind that a write changes. -/
def Request.target : Request → Option (ClusterId × Resource)
  | create c resource _ | update c resource _ | delete c resource _ => some (c, resource)
  | place _ c resource _ | scrub c resource _ => some (c, resource)
  | export_ .. | get .. | list .. => none
  | readAction | readForRecord | recordDump | readForStatus | writeStatus => none

/-- The two clusters have the same objects of a kind. -/
def Agree (before after : Cluster) : Resource → Prop
  | .statefulSets => after.statefulSets = before.statefulSets
  | .deployments => after.deployments = before.deployments
  | .daemonSets => after.daemonSets = before.daemonSets
  | .replicaSets => after.replicaSets = before.replicaSets
  | .pods => after.pods = before.pods
  | .claims => after.claims = before.claims
  | .configMaps => after.payloads .configMap = before.payloads .configMap
  | .secrets => after.payloads .secret = before.payloads .secret ∧ after.secrets = before.secrets
  | .services => after.payloads .service = before.payloads .service
  | .snapshots => after.snapshots = before.snapshots
  | .replicationSources => after.replicationSources = before.replicationSources
  | .replicationDestinations => after.replicationDestinations = before.replicationDestinations
  | .namespaces => after.namespaces = before.namespaces
  | .nodes => after.nodes = before.nodes
  | .jobs => after.jobs = before.jobs

theorem Agree.refl (cluster : Cluster) (resource : Resource) : Agree cluster cluster resource := by
  cases resource <;> simp [Agree]

theorem Agree.trans {a b c : Cluster} {resource : Resource} (first : Agree a b resource)
    (second : Agree b c resource) : Agree a c resource := by
  cases resource <;> simp_all [Agree]

/-- `change` writes objects of one kind only. -/
def Alters (resource : Resource) (change : Cluster → Except ApiError Cluster) : Prop :=
  ∀ before after, change before = .ok after → ∀ other, other ≠ resource → Agree before after other

/-- `inv` does not look at anything that a request names. -/
def Overlooks (allowed : Request → Prop) (inv : Clusters → Prop) : Prop :=
  ∀ before after : Clusters, (∀ c resource, (∀ req, allowed req → req.target ≠ some (c, resource)) →
    Agree (before c) (after c) resource) → inv before → inv after

/-- From `s` to `t` only requests that satisfy `allowed` were sent. If nobody else moves
then what none of them names is as it was; if the others keep to an invariant that does
not look at what they name, then it is kept. -/
structure Confined (o : Oracle) (allowed : Request → Prop) (s t : World) : Prop where
  sent : Extends o (fun e => ∃ req, e = .wrote req ∧ allowed req) s t
  rest : o.Still → ∀ c resource, (∀ req, allowed req → req.target ≠ some (c, resource)) →
    Agree (s.clusters c) (t.clusters c) resource
  kept : ∀ inv : Clusters → Prop, (∀ n clusters, inv clusters → inv (o.drift n clusters)) →
    Overlooks allowed inv → inv s.clusters → inv t.clusters

theorem confined_chains (o : Oracle) (allowed : Request → Prop) : Chains (Confined o allowed) where
  refl s := ⟨(extends_chains o _).refl s, fun _ _ _ _ => Agree.refl _ _, fun _ _ _ holds => holds⟩
  trans first second := ⟨(extends_chains o _).trans first.sent second.sent,
    fun still c resource spared => (first.rest still c resource spared).trans
      (second.rest still c resource spared),
    fun inv drifts overlooks holds =>
      second.kept inv drifts overlooks (first.kept inv drifts overlooks holds)⟩

section
variable {o : Oracle} {allowed wider : Request → Prop}
variable {req : Request} {c : ClusterId} {change : Cluster → Except ApiError Cluster}

theorem confined_pure (value : α) : Moves o (Confined o allowed) (pure value : Prog α) :=
  Moves.pure (confined_chains o allowed) value

theorem confined_bind {x : Prog α} {f : α → Prog β} (first : Moves o (Confined o allowed) x)
    (then_ : ∀ value, Moves o (Confined o allowed) (f value)) : Moves o (Confined o allowed) (x >>= f) :=
  Moves.bind (confined_chains o allowed) first then_

theorem confined_andThen {x : Prog (Except ε α)} {f : α → Prog (Except ε β)}
    (first : Moves o (Confined o allowed) x) (then_ : ∀ value, Moves o (Confined o allowed) (f value)) :
    Moves o (Confined o allowed) (andThen x f) :=
  Moves.andThen (confined_chains o allowed) first then_

theorem confined_map {f : α → β} {x : Prog α} (moves : Moves o (Confined o allowed) x) :
    Moves o (Confined o allowed) (f <$> x) := moves

theorem confined_orElse {x : Prog (Except γ α)} {reword : γ → ε} (moves : Moves o (Confined o allowed) x) :
    Moves o (Confined o allowed) (orElse x reword) := moves

theorem confined_ite {condition : Prop} [Decidable condition] {x y : Prog α}
    (yes : condition → Moves o (Confined o allowed) x) (no : ¬ condition → Moves o (Confined o allowed) y) :
    Moves o (Confined o allowed) (if condition then x else y) := by
  split
  · exact yes ‹_›
  · exact no ‹_›

theorem confined_fold {step : β → α → Prog β} {xs : List α}
    (each : ∀ acc, ∀ x ∈ xs, Moves o (Confined o allowed) (step acc x)) (acc : β) :
    Moves o (Confined o allowed) (Program.fold step xs acc) :=
  Moves.fold (confined_chains o allowed) each acc

theorem confined_foldUntil {step : β → α → Prog (Except ε β)} {xs : List α}
    (each : ∀ acc, ∀ x ∈ xs, Moves o (Confined o allowed) (step acc x)) (acc : β) :
    Moves o (Confined o allowed) (Program.foldUntil step xs acc) :=
  Moves.foldUntil (confined_chains o allowed) each acc

/-- A call that only reads writes nothing. -/
theorem confined_of_reads {x : Prog α} (reads : Moves o (Extends o fun _ => False) x) :
    Moves o (Confined o allowed) x := by
  intro s
  have drifts : o.Drifts s.clusters (x o s).2.clusters := by
    obtain ⟨_, added, _, nothing, quiet⟩ := reads s
    exact quiet fun e member => (nothing e member).elim
  refine ⟨(reads s).mono fun _ never => never.elim, fun still c resource _ => ?_, fun inv keeps _ => drifts inv keeps⟩
  rw [drifts.eq still]
  exact Agree.refl _ _

theorem confined_getObject (c : ClusterId) (resource : Resource) (key : ObjKey)
    (select : Cluster → Option α) : Moves o (Confined o allowed) (getObject c resource key select) :=
  confined_of_reads (moves_getObject c resource key select)

theorem confined_listObjects (c : ClusterId) (resource : Resource) (ns : String)
    (select : Cluster → List α) : Moves o (Confined o allowed) (listObjects c resource ns select) :=
  confined_of_reads (moves_listObjects c resource ns select)

/-- What a write leaves of the clusters after the others have moved. -/
theorem send_drifted (req : Request) (c : ClusterId) (change : Cluster → Except ApiError Cluster) (s : World) :
    (send req c change o s).2.clusters = o.drift s.calls s.clusters ∨
      ∃ after, change (o.drift s.calls s.clusters c) = .ok after ∧
        (send req c change o s).2.clusters =
          fun other => if other = c then after else o.drift s.calls s.clusters other := by
  cases changed : change (o.drift s.calls s.clusters c) with
  | error refused =>
    left
    cases failed : o.fault s.calls req <;> simp [send, tick, record, failed, changed]
  | ok after =>
    cases failed : o.fault s.calls req with
    | none =>
      right
      exact ⟨after, rfl, by simp [send, tick, record, setCluster, failed, changed]⟩
    | some fault =>
      cases lost : o.lost s.calls with
      | true =>
        right
        exact ⟨after, rfl, by simp [send, tick, record, setCluster, failed, changed, lost]⟩
      | false =>
        left
        simp [send, tick, record, failed, changed, lost]

/-- What a write leaves of the clusters: the old ones, or one of them changed. -/
theorem send_clusters (req : Request) (c : ClusterId) (change : Cluster → Except ApiError Cluster)
    (still : o.Still) (s : World) : (send req c change o s).2.clusters = s.clusters ∨
      ∃ after, change (s.clusters c) = .ok after ∧
        (send req c change o s).2.clusters = fun other => if other = c then after else s.clusters other := by
  simpa only [still s.calls s.clusters] using send_drifted (o := o) req c change s

/-- A write that succeeds was carried out. -/
theorem send_ok (still : o.Still) {s : World} (done : (send req c change o s).1 = .ok ()) :
    ∃ after, change (s.clusters c) = .ok after ∧
      (send req c change o s).2.clusters = fun other => if other = c then after else s.clusters other := by
  have unmoved := still s.calls s.clusters
  cases failed : o.fault s.calls req with
  | some fault =>
    cases changed : change (s.clusters c) <;> cases lost : o.lost s.calls <;>
      simp [send, tick, record, setCluster, unmoved, failed, changed, lost] at done
  | none =>
    cases changed : change (s.clusters c) with
    | error refused => simp [send, tick, record, unmoved, failed, changed] at done
    | ok after => exact ⟨after, rfl, by simp [send, tick, record, setCluster, unmoved, failed, changed]⟩

/-- Only the server says that an object is there already, and then nothing changes. -/
theorem send_exists (still : o.Still) {s : World} {refused : ApiError}
    (answer : (send req c change o s).1 = .error refused) (there : refused.reason = .alreadyExists) :
    change (s.clusters c) = .error refused ∧
      (send req c change o s).2.clusters = s.clusters := by
  have unmoved := still s.calls s.clusters
  cases failed : o.fault s.calls req with
  | some fault =>
    have other : fault.error = refused := by
      cases changed : change (s.clusters c) <;> cases lost : o.lost s.calls <;>
        simpa [send, tick, record, setCluster, unmoved, failed, changed, lost] using answer
    subst other
    cases conflict : fault.conflict <;> simp [Fault.error, conflict] at there
  | none =>
    cases changed : change (s.clusters c) with
    | ok after => simp [send, tick, record, setCluster, unmoved, failed, changed] at answer
    | error reason =>
      refine ⟨?_, by simp [send, tick, record, unmoved, failed, changed]⟩
      simpa [send, tick, record, unmoved, failed, changed] using answer

/-- A write that changes what its request names. -/
theorem confined_send {resource : Resource} (fits : allowed req) (names : req.target = some (c, resource))
    (alters : Alters resource change) : Moves o (Confined o allowed) (send req c change) := by
  intro s
  have agrees {clusters : Clusters} {after : Cluster} (changed : change (clusters c) = .ok after) (other : ClusterId)
      (kind : Resource) (spared : ∀ req, allowed req → req.target ≠ some (other, kind)) :
      Agree (clusters other) (if other = c then after else clusters other) kind := by
    by_cases here : other = c
    · subst here
      have different : kind ≠ resource := fun equal => spared req fits (equal ▸ names)
      simpa using alters _ _ changed kind different
    · simpa [here] using Agree.refl _ _
  refine ⟨moves_send ⟨req, rfl, fits⟩ s, fun still other kind spared => ?_, fun inv drifts overlooks holds => ?_⟩
  · rcases send_clusters req c change still s with same | ⟨after, changed, same⟩
    · rw [same]
      exact Agree.refl _ _
    · rw [same]
      exact agrees changed other kind spared
  · have moved := drifts s.calls _ holds
    rcases send_drifted req c change s with same | ⟨after, changed, same⟩
    · rwa [same]
    · rw [same]
      exact overlooks _ _ (agrees changed) moved

end

/-- A confined program only adds writes that are allowed. -/
theorem Moves.extends {o : Oracle} {allowed : Request → Prop} {fits : Event → Prop} {x : Prog α}
    (moves : Moves o (Confined o allowed) x) (implies : ∀ req, allowed req → fits (.wrote req)) :
    Moves o (Extends o fits) x := by
  intro s
  refine (moves s).sent.mono ?_
  rintro _ ⟨req, rfl, holds⟩
  exact implies req holds

end Portage.Kube
