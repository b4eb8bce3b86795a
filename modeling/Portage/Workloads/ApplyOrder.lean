import Portage.Kube.Writes
import Portage.Workloads.Apply

/-! What is on the destination when the objects have been applied, and in which order it
comes there. -/
namespace Portage

open Go Kube Process Program

/-! ### One object -/

/-- The kinds of the order of application. -/
def orderedKinds : List String :=
  ["Namespace", "PersistentVolumeClaim", "Secret", "ConfigMap", "Service", "StatefulSet", "Deployment", "DaemonSet"]

/-- Whether a cluster has an object of one of these kinds. -/
def Kube.Cluster.has (cluster : Cluster) (kind : String) (key : ObjKey) : Bool :=
  if kind = "Namespace" then (cluster.namespaces key.name).isSome
  else if kind = "PersistentVolumeClaim" then (cluster.claims key).isSome
  else if kind = "Secret" then (cluster.payloads .secret key).isSome
  else if kind = "ConfigMap" then (cluster.payloads .configMap key).isSome
  else if kind = "Service" then (cluster.payloads .service key).isSome
  else if kind = "StatefulSet" then (cluster.statefulSets key).isSome
  else if kind = "Deployment" then (cluster.deployments key).isSome
  else kind = "DaemonSet" && (cluster.daemonSets key).isSome

namespace Manifest

/-- An object of a kind that has a typed form is not passed over. -/
def Decoded : Manifest → Prop
  | .ignored kind _ => kind ∉ typedKinds
  | _ => True

end Manifest

/-! ### What an application does -/

/-- What is there stays, claims as they are; namespaces and DaemonSets are not written. -/
structure Grows (c : ClusterId) (s t : World) : Prop where
  has : ∀ kind key, (s.clusters c).has kind key = true → (t.clusters c).has kind key = true
  claims : ∀ key claim, (s.clusters c).claims key = some claim → (t.clusters c).claims key = some claim
  namespaces : (t.clusters c).namespaces = (s.clusters c).namespaces
  daemonSets : (t.clusters c).daemonSets = (s.clusters c).daemonSets

variable {c : ClusterId} {s t : World} {after : Cluster}

theorem Grows.of_same (same : t.clusters c = s.clusters c) : Grows c s t := by
  refine ⟨?_, ?_, ?_, ?_⟩ <;> simp [same]

theorem grows_chains (c : ClusterId) : Chains (Grows c) where
  refl _ := .of_same rfl
  trans first second := {
    has := fun kind key there => second.has kind key (first.has kind key there)
    claims := fun key claim there => second.claims key claim (first.claims key claim there)
    namespaces := second.namespaces.trans first.namespaces
    daemonSets := second.daemonSets.trans first.daemonSets }

/-- Tables that keep their objects make `has` grow. -/
private theorem grows_of_tables (same : t.clusters c = after)
    (claims : ∀ key claim, (s.clusters c).claims key = some claim → after.claims key = some claim)
    (payloads : ∀ kind key, ((s.clusters c).payloads kind key).isSome → (after.payloads kind key).isSome) (controllers
      : ∀ (kind : ControllerKind) key, (kind.table (s.clusters c) key).isSome → (kind.table after key).isSome)
    (namespaces : after.namespaces = (s.clusters c).namespaces)
    (daemonSets : after.daemonSets = (s.clusters c).daemonSets) : Grows c s t := by
  subst same
  refine ⟨fun kind key there => ?_, claims, namespaces, daemonSets⟩
  unfold Cluster.has at there ⊢
  rw [namespaces, daemonSets]
  repeat' split at there
  · simp [*]
  · obtain ⟨claim, held⟩ := Option.isSome_iff_exists.mp there
    simp [*, claims key claim held]
  · simp [*, payloads .secret key there]
  · simp [*, payloads .configMap key there]
  · simp [*, payloads .service key there]
  · have held : ((t.clusters c).statefulSets key).isSome := controllers .statefulSet key there
    simp [*]
  · have held : ((t.clusters c).deployments key).isSome := controllers .deployment key there
    simp [*]
  · simp [*]

/-- A write of an object keeps the others. -/
theorem Manifest.Leaves.grows {object : Manifest} (leaves : object.Leaves (s.clusters c) after)
    (same : t.clusters c = after) : Grows c s t := by
  cases leaves with
  | @claim name claim _ absent =>
    refine grows_of_tables same (fun key held there => ?_) (fun _ _ there => there)
      (fun kind _ there => by cases kind <;> exact there) rfl rfl
    have other : key ≠ name := by
      rintro rfl
      rw [absent] at there
      cases there
    simpa [Cluster.putClaim, other] using there
  | @payload kind name =>
    refine grows_of_tables same (fun _ _ there => there) (fun other key there => ?_)
      (fun kind _ there => by cases kind <;> exact there) rfl rfl
    by_cases here : other = kind ∧ key = name <;> simp [Cluster.putPayload, here, there]
  | @controller kind name =>
    refine grows_of_tables same (by cases kind <;> exact fun _ _ there => there)
      (by cases kind <;> exact fun _ _ there => there) (fun other key there => ?_) (by cases kind <;> rfl)
      (by cases kind <;> rfl)
    by_cases here : other = kind ∧ key = name
    · obtain ⟨rfl, rfl⟩ := here
      simp
    · rwa [ControllerKind.table_put_other here]

/-- An object of a kind that is written is there after a write of it. -/
theorem Manifest.Leaves.has {object : Manifest} {before : Cluster} (leaves : object.Leaves before after) :
    after.has object.kind object.key = true := by
  cases leaves with
  | claim absent => simp [Cluster.has, Manifest.kind, Manifest.key, Cluster.putClaim]
  | @payload kind => cases kind <;> simp [Cluster.has, Manifest.kind, Manifest.key, PayloadKind.text, Cluster.putPayload]
  | @controller kind => cases kind <;> simp [Cluster.has, Manifest.kind, Manifest.key, ControllerKind.text, ControllerKind.put]

section
variable {o : Oracle} (still : o.Still) {c : ClusterId} {object : Manifest}
variable {s : World}
include still

theorem grows_createTyped : Moves o (Grows c) (createTyped c object) := by
  refine walk_createTyped (grows_chains c) object (fun resource select s => ?_) fun req change _ effect s => ?_
  · exact .of_same (congrFun (Moves.clusters_eq still (moves_getObject c resource object.key select) s) c)
  · rcases send_clusters req c change still s with same | ⟨after, changed, same⟩
    · exact .of_same (congrFun same c)
    · exact (effect _ after changed).grows (by simp [same])

theorem grows_typedLoop (objects : List Manifest) :
    Moves o (Grows c) (Program.foldUntil (typedStep c) objects ()) :=
  .foldUntil (grows_chains c) (fun _ _ _ => walk_typedStep (grows_chains c) (grows_createTyped still)) ()

/-- An object is there after a create, or a create was refused for it. -/
private theorem send_has {req : Request} {change : Cluster → Except ApiError Cluster} {kind : String} {key : ObjKey}
    (made : ∀ before after, change before = .ok after → after.has kind key = true)
    (found : ∀ before refused, change before = .error refused → before.has kind key = true)
    (accepted : ∀ refused, (send req c change o s).1 = .error refused → refused.reason = .alreadyExists) :
    ((send req c change o s).2.clusters c).has kind key = true := by
  cases answer : (send req c change o s).1 with
  | ok _ =>
    obtain ⟨after, changed, same⟩ := send_ok still answer
    simp [same, made _ _ changed]
  | error refused =>
    obtain ⟨changed, same⟩ := send_exists still answer (accepted refused answer)
    rw [same]
    exact found _ _ changed

omit still in
/-- A create comes first, and only its refusal for an object that is there does not end it. -/
private theorem createOrUpdate_eq [DecidableEq β] (c : ClusterId) (resource : Resource) (key : ObjKey)
    (select : Cluster → Option β) (created : Cluster → Cluster) (updated : β → Cluster → Cluster) : ∃ change f,
      createOrUpdate c resource key select created updated = send (.create c resource key) c change >>= f ∧
      f (.ok ()) = pure (.ok ()) ∧
      (∀ refused, refused.reason ≠ .alreadyExists → f (.error refused) = pure (.error refused)) ∧
      (∀ before after, change before = .ok after → after = created before) ∧
      ∀ before refused, change before = .error refused → (select before).isSome = true := by
  refine ⟨_, _, rfl, rfl, fun _ other => if_pos other, fun before after changed => ?_,
    fun before refused changed => ?_⟩
  · split at changed
    · cases changed
    · exact (Except.ok.inj changed).symm
  · split at changed
    · simp [*]
    · cases changed

/-- The same with an update of what is there. -/
private theorem createOrUpdate_has [DecidableEq β] {resource : Resource} {key : ObjKey} {select : Cluster → Option β}
    {created : Cluster → Cluster} {updated : β → Cluster → Cluster} {kind : String}
    (made : ∀ cluster, (created cluster).has kind key = true)
    (found : ∀ cluster, (select cluster).isSome = true → cluster.has kind key = true)
    (grows : Moves o (Grows c) (createOrUpdate c resource key select created updated)) (accepted : ∀ refused,
      (createOrUpdate c resource key select created updated o s).1 = .error refused → refused.reason = .alreadyExists) :
    ((createOrUpdate c resource key select created updated o s).2.clusters c).has kind key = true := by
  obtain ⟨change, f, shape, goes, stops, creates, finds⟩ := createOrUpdate_eq c resource key select created updated
  rw [shape] at grows accepted ⊢
  cases answer : (send (.create c resource key) c change o s).1 with
  | ok _ =>
    rw [bind_run, answer, goes]
    refine send_has still (fun before after changed => ?_) (fun before refused changed => ?_) (by simp [answer])
    · rw [creates before after changed, made]
    · exact found before (finds before refused changed)
  | error refused =>
    by_cases other : refused.reason = .alreadyExists
    · exact (grows s).has kind key (found _ (finds _ _ (send_exists still answer other).1))
    · refine absurd (accepted refused ?_) other
      rw [bind_run, answer, stops refused other]
      rfl

omit still in
private theorem has_payload (cluster : Cluster) (kind : PayloadKind) (key : ObjKey) :
    cluster.has kind.text key = (cluster.payloads kind key).isSome := by
  cases kind <;> simp [Cluster.has, PayloadKind.text]

omit still in
private theorem has_controller (cluster : Cluster) (kind : ControllerKind) (key : ObjKey) :
    cluster.has kind.text key = (kind.table cluster key).isSome := by
  cases kind <;> simp [Cluster.has, ControllerKind.text, ControllerKind.table]

/-- An object of a typed kind is there once its application is accepted. -/
theorem createTyped_has (typed : object.kind ∈ typedKinds) (decoded : object.Decoded)
    (accepted : ∀ refused, (createTyped c object o s).1 = .error refused → refused.reason = .alreadyExists) :
    ((createTyped c object o s).2.clusters c).has object.kind object.key = true := by
  have grows : Moves o (Grows c) (createTyped c object) := grows_createTyped still
  cases object with
  | claim key claim =>
    have held (cluster : Cluster) (there : (cluster.claims key).isSome = true) :
        cluster.has "PersistentVolumeClaim" key = true := by simpa [Cluster.has] using there
    cases read : (getObject c .claims key (·.claims key) o s).1 with
    | ok value => exact (grows s).has _ _ (held _ (by simp [getObject_ok still read]))
    | error refused =>
      simp only [createTyped, bind_run, read] at accepted ⊢
      by_cases gone : refused.reason = .notFound
      · rw [if_neg (not_not.mpr gone)] at accepted ⊢
        refine send_has still (fun before after changed => ?_) (fun before refused changed => ?_) accepted
        · split at changed
          · cases changed
          · cases changed
            exact Manifest.Leaves.has (.claim ‹_›)
        · split at changed
          · exact held before (by simp [*])
          · cases changed
      · rw [if_pos gone] at accepted
        exact absurd (accepted refused rfl) (getObject_refused still read)
  | payload kind key content =>
    have held (cluster : Cluster) (there : (cluster.payloads kind key).isSome = true) :
        cluster.has kind.text key = true := by rw [has_payload, there]
    cases kind with
    | service =>
      refine send_has still (fun before after changed => ?_) (fun before refused changed => ?_) accepted
      · split at changed
        · cases changed
        · cases changed
          exact Manifest.Leaves.payload.has
      · split at changed
        · exact held before (by simp [*])
        · cases changed
    | configMap | secret =>
      exact createOrUpdate_has still (fun _ => Manifest.Leaves.payload.has) held grows accepted
  | controller kind key controller =>
    exact createOrUpdate_has still (fun _ => Manifest.Leaves.controller.has)
      (fun cluster there => by rw [Manifest.kind, has_controller, there]) grows accepted
  | daemonSet key daemonSet => exact absurd typed (by simp [Manifest.kind, typedKinds])
  | ignored kind key => exact absurd typed decoded
  | undecodable kind key text =>
    have listed : typedKinds.contains kind = true := List.contains_iff_mem.mpr typed
    have refused := accepted ⟨.other, text⟩ (by simp only [createTyped, listed, ↓reduceIte, pure_run])
    cases refused

theorem typedStep_has (went : (typedStep c () object o s).1 = .ok ()) (typed : object.kind ∈ typedKinds)
    (decoded : object.Decoded) : ((typedStep c () object o s).2.clusters c).has object.kind object.key = true := by
  have same : (typedStep c () object o s).2 = (createTyped c object o s).2 := by
    rw [typedStep, bind_run]
    cases (createTyped c object o s).1 with
    | ok _ => rfl
    | error refused =>
      dsimp only
      split <;> rfl
  rw [same]
  refine createTyped_has still typed decoded fun refused answer => ?_
  by_contra other
  simp [typedStep, bind_run, answer, other] at went

/-- What has been applied is there. -/
theorem typedLoop_has {done : List Manifest} {t : World}
    (went : Program.foldUntil (typedStep c) done () o s = (.ok (), t)) (decoded : ∀ object ∈ done, object.Decoded) :
    ∀ object ∈ done, object.kind ∈ typedKinds → (t.clusters c).has object.kind object.key = true := by
  induction done generalizing s with
  | nil => simp
  | cons first rest ih =>
    simp only [Program.foldUntil, bind_run] at went
    cases answer : (typedStep c () first o s).1 with
    | error text => simp [answer] at went
    | ok _ =>
      simp only [answer] at went
      have later : Grows c (typedStep c () first o s).2 _ := grows_typedLoop still rest _
      rw [went] at later
      intro object member typed
      rcases List.mem_cons.mp member with rfl | member
      · exact later.has _ _ (typedStep_has still answer typed (decoded object (by simp)))
      · exact ih went (fun object member => decoded object (by simp [member])) object member typed

end

/-! ### Objects that are passed over -/

/-- An application that returns without an error leaves every object of a listed kind on the
destination just if its namespaces and DaemonSets, which it passes over, were there. -/
theorem typed_has_iff {o : Oracle} (still : o.Still) {c : ClusterId} {objects : List Manifest} {s : World}
    (decoded : ∀ object ∈ objects, object.Decoded) (done : (typed c objects o s).1 = .ok ()) :
    (∀ object ∈ objects, object.kind ∈ orderedKinds →
      ((typed c objects o s).2.clusters c).has object.kind object.key = true) ↔
    ∀ object ∈ objects, object.kind = "Namespace" ∨ object.kind = "DaemonSet" →
      (s.clusters c).has object.kind object.key = true := by
  have grows : Grows c s (typed c objects o s).2 := grows_typedLoop still _ s
  constructor
  · intro there object member kind
    have after := there object member (by rcases kind with kind | kind <;> simp [kind, orderedKinds])
    rcases kind with kind | kind <;> simpa [Cluster.has, kind, grows.namespaces, grows.daemonSets] using after
  · intro before object member listed
    by_cases typed : object.kind ∈ typedKinds
    · exact typedLoop_has still (Prod.ext done rfl) (fun object inside => decoded object (List.mem_insertionSort _ |>.mp inside))
        object ((List.mem_insertionSort _).mpr member) typed
    · refine grows.has _ _ (before object member ?_)
      simp only [orderedKinds, List.mem_cons, List.not_mem_nil, or_false] at listed
      simp only [typedKinds, List.mem_cons, List.not_mem_nil, or_false, not_or] at typed
      tauto

/-- A database with its claim, the workload first. -/
def dbManifests : List Manifest := [.controller .statefulSet ⟨"shop", "db"⟩ {}, .claim ⟨"shop", "data"⟩ {}]

/-- A log collector on the first cluster. -/
def collectorWorld : World where
  clusters c := { daemonSets := fun key => if c = 0 ∧ key = ⟨"shop", "logs"⟩ then some {} else none }
  action := { spec := { type := .restore, policyRef := "shop" } }

theorem typed_has_iff_db :
    (typed 1 dbManifests {} collectorWorld).1 = .ok () ∧ ∀ object ∈ dbManifests, object.kind ∈ orderedKinds →
      ((typed 1 dbManifests {} collectorWorld).2.clusters 1).has object.kind object.key = true :=
  ⟨rfl, (typed_has_iff (fun _ _ => rfl) (by simp [dbManifests, Manifest.Decoded]) rfl).mpr
    (by simp [dbManifests, Manifest.kind, ControllerKind.text])⟩

/-- The DaemonSet is exported, and then passed over without an error. -/
theorem typed_drops_daemonSet :
    ∃ w : Workload, (exportWorkload 0 w {} collectorWorld).1.map Manifest.kind = ["DaemonSet"] ∧
      (exportWorkload 0 w {} collectorWorld).1.map Manifest.key = [w.objKey] ∧ "DaemonSet" ∈ orderedKinds ∧
      (typed 1 (exportWorkload 0 w {} collectorWorld).1 {} collectorWorld).1 = .ok () ∧
      ((typed 1 (exportWorkload 0 w {} collectorWorld).1 {} collectorWorld).2.clusters 1).has "DaemonSet" w.objKey =
        false :=
  ⟨{ namespace_ := "shop", name := "logs", kind := "DaemonSet", cls := .stateless }, by decide +kernel⟩

/-! ### Claims before workloads -/

/-- The world in which the turn of an object comes: all objects before it went through. -/
def TypedTurn (c : ClusterId) (objects : List Manifest) (o : Oracle) (s : World) (object : Manifest) (t : World) : Prop :=
  ∃ done rest, (objects.insertionSort fun a b => order a.kind ≤ order b.kind) = done ++ object :: rest ∧
    Program.foldUntil (typedStep c) done () o s = (.ok (), t)

/-- A write of a StatefulSet or a Deployment. -/
def Kube.Request.writesController (req : Request) : Prop := ∃ c kind, req.target = some (c, ControllerKind.resource kind)

section
variable {o : Oracle} {c : ClusterId} {object : Manifest}
variable {req : Request}

/-- A request of an object names the one kind that its write changes. -/
theorem Manifest.Requests.alters (own : object.Requests c req) {change : Cluster → Except ApiError Cluster}
    (effect : ∀ before after, change before = .ok after → object.Leaves before after) :
    ∃ resource, req.target = some (c, resource) ∧ Alters resource change := by
  cases object with
  | claim key claim =>
    obtain rfl := own
    refine ⟨.claims, rfl, fun before after changed other different => ?_⟩
    cases effect before after changed
    cases other <;> simp_all [Agree, Cluster.putClaim]
  | payload kind key content =>
    refine ⟨kind.resource, by rcases own with rfl | rfl <;> rfl, fun before after changed other different => ?_⟩
    cases effect before after changed
    cases kind <;> cases other <;> simp_all [Agree, Cluster.putPayload, PayloadKind.resource]
  | controller kind key controller =>
    refine ⟨kind.resource, by rcases own with rfl | rfl <;> rfl, fun before after changed other different => ?_⟩
    cases effect before after changed
    cases kind <;> cases other <;> simp_all [Agree, ControllerKind.put, ControllerKind.resource]
  | daemonSet | ignored | undecodable => exact own.elim

theorem confined_typedStep : Moves o (Confined o (object.Requests c)) (typedStep c () object) := by
  refine walk_typedStep (confined_chains o _) (walk_createTyped (confined_chains o _) object
    (fun _ _ => confined_getObject _ _ _ _) fun req change own effect => ?_)
  obtain ⟨resource, names, alters⟩ := own.alters effect
  exact confined_send own names alters

/-- Only controllers write StatefulSets and Deployments. -/
theorem Manifest.Requests.controller (own : object.Requests c req) (writes : req.writesController) :
    ∃ kind key controller, object = .controller kind key controller := by
  obtain ⟨d, kind, target⟩ := writes
  cases object with
  | claim key claim =>
    obtain rfl := own
    cases kind <;> cases target
  | payload other key content =>
    rcases own with rfl | rfl <;> cases other <;> cases kind <;> cases target
  | controller kind key controller => exact ⟨kind, key, controller, rfl⟩
  | daemonSet | ignored | undecodable => exact own.elim

/-- In the order of application claims come before controllers. -/
theorem claim_before_controller {objects done rest : List Manifest} {kind : ControllerKind} {key : ObjKey}
    {controller : Controller}
    (sorted : (objects.insertionSort fun a b => order a.kind ≤ order b.kind) =
      done ++ .controller kind key controller :: rest) {claim : Manifest} (named : claim.kind = "PersistentVolumeClaim") :
    claim ∉ .controller kind key controller :: rest := by
  have ranks : order "PersistentVolumeClaim" < order kind.text := by cases kind <;> decide +kernel
  rw [← named] at ranks
  have pairwise := List.pairwise_insertionSort (fun a b : Manifest => order a.kind ≤ order b.kind) objects
  rw [sorted, List.pairwise_append, List.pairwise_cons] at pairwise
  intro member
  rcases List.mem_cons.mp member with rfl | later
  · exact Nat.lt_irrefl _ ranks
  · exact Nat.not_le_of_lt ranks (pairwise.2.1.1 claim later)

/-- A loop that has gone through an element went on after its turn. -/
theorem went_of_split {done mid : List Manifest} {x : Manifest} {s t u : World}
    (went : Program.foldUntil (typedStep c) (done ++ x :: mid) () o s = (.ok (), u))
    (turn : Program.foldUntil (typedStep c) done () o s = (.ok (), t)) : (typedStep c () x o t).1 = .ok () := by
  rw [Program.foldUntil_append, andThen, bind_run, turn] at went
  simp only [Program.foldUntil, bind_run] at went
  cases answer : (typedStep c () x o t).1 with
  | ok _ => rfl
  | error text => simp [answer] at went

/-- A controller is written in a turn that finds the claims before it. -/
theorem exists_turn {objects : List Manifest} {s : World} {front back : List Event}
    (logged : (typed c objects o s).2.log = front ++ .wrote req :: back) (new : s.log <+: front)
    (writes : req.writesController) : ∃ done kind key controller rest t,
      (objects.insertionSort fun a b => order a.kind ≤ order b.kind) = done ++ .controller kind key controller :: rest ∧
      Program.foldUntil (typedStep c) done () o s = (.ok (), t) ∧ t.log <+: front ∧
      front ++ [.wrote req] <+: (typedStep c () (.controller kind key controller) o t).2.log := by
  obtain ⟨done, object, rest, _, t, sorted, went, early, late⟩ := Program.foldUntil_turn
    (fun _ object _ s => (confined_typedStep s).sent.grows) logged new
  have step : Confined o (object.Requests c) t (typedStep c () object o t).2 := confined_typedStep t
  obtain ⟨-, added, log, all, -⟩ := step.sent
  have issued : Event.wrote req ∈ added := by
    obtain ⟨gap, rfl⟩ := early
    rw [log, List.append_assoc, List.prefix_append_right_inj] at late
    exact late.subset (by simp)
  obtain ⟨_, same, own⟩ := all _ issued
  cases same
  obtain ⟨kind, key, controller, rfl⟩ := own.controller writes
  exact ⟨done, kind, key, controller, rest, t, sorted, went, early, late⟩

end

/-- In every application, whatever calls fail: a StatefulSet or a Deployment is written in a
turn that finds every claim of the list and leaves the claims alone; claims that were there
are as they were; and if the turn of a claim fails no workload is written. -/
theorem typed_claims_first {o : Oracle} (still : o.Still) {c : ClusterId} {objects : List Manifest}
    (decoded : ∀ object ∈ objects, object.Decoded) (s : World) :
    (∀ front req back, (typed c objects o s).2.log = front ++ .wrote req :: back → s.log <+: front →
      req.writesController → ∃ object t, TypedTurn c objects o s object t ∧ t.log <+: front ∧
        front ++ [.wrote req] <+: (typedStep c () object o t).2.log ∧
        (∀ claim ∈ objects, claim.kind = "PersistentVolumeClaim" →
          (t.clusters c).has claim.kind claim.key = true) ∧
        ((typedStep c () object o t).2.clusters c).claims = (t.clusters c).claims) ∧
    (∀ key claim, (s.clusters c).claims key = some claim →
      ((typed c objects o s).2.clusters c).claims key = some claim) ∧
    ∀ claim t, TypedTurn c objects o s claim t → claim.kind = "PersistentVolumeClaim" →
      (typedStep c () claim o t).1 ≠ .ok () → ∀ front req back,
        (typed c objects o s).2.log = front ++ .wrote req :: back → s.log <+: front → ¬ req.writesController := by
  refine ⟨fun front req back logged new writes => ?_, (grows_typedLoop still _ s).claims,
    fun claim t turn named failed front req back logged new writes => ?_⟩
  · obtain ⟨done, kind, key, controller, rest, t, sorted, went, early, late⟩ := exists_turn logged new writes
    refine ⟨.controller kind key controller, t, ⟨done, rest, sorted, went⟩, early, late, fun claim listed named => ?_, ?_⟩
    · have member : claim ∈ done ++ .controller kind key controller :: rest :=
        sorted ▸ (List.mem_insertionSort _).mpr listed
      have earlier := (List.mem_append.mp member).resolve_right (claim_before_controller sorted named)
      refine typedLoop_has still went (fun object inside => decoded object ?_) claim earlier (by simp [named, typedKinds])
      have listed := List.mem_append_left (.controller kind key controller :: rest) inside
      rwa [← sorted, List.mem_insertionSort] at listed
    · have step : Confined o (Manifest.Requests c (.controller kind key controller)) t _ := confined_typedStep t
      refine step.rest still c .claims fun req own => ?_
      rcases own with rfl | rfl <;> cases kind <;> nofun
  · obtain ⟨done, kind, key, controller, rest, u, sorted, went, -, -⟩ := exists_turn logged new writes
    obtain ⟨before, after, split, reached⟩ := turn
    rw [sorted] at split
    have later := claim_before_controller sorted named
    rcases List.append_eq_append_iff.mp split with ⟨mid, -, tail⟩ | ⟨mid, shape, tail⟩
    · exact later (tail ▸ by simp)
    · cases mid with
      | nil => exact later (by simp [(List.cons_eq_cons.mp tail).1])
      | cons first mid =>
        obtain rfl := (List.cons_eq_cons.mp tail).1
        exact failed (went_of_split (shape ▸ went) reached)

theorem typed_claims_first_db :
    ∃ front req back, (typed 1 dbManifests {} collectorWorld).2.log = front ++ .wrote req :: back ∧
      req.writesController ∧ ∃ object t, TypedTurn 1 dbManifests {} collectorWorld object t ∧
        ∀ claim ∈ dbManifests, claim.kind = "PersistentVolumeClaim" →
          (t.clusters 1).has claim.kind claim.key = true := by
  have decoded : ∀ object ∈ dbManifests, object.Decoded := by simp [dbManifests, Manifest.Decoded]
  have first := (typed_claims_first (o := {}) (c := 1) (fun _ _ => rfl) decoded collectorWorld).1
  refine ⟨[.wrote (.create 1 .claims ⟨"shop", "data"⟩)], .create 1 .statefulSets ⟨"shop", "db"⟩, [], rfl,
    ⟨1, .statefulSet, rfl⟩, ?_⟩
  obtain ⟨object, t, turn, -, -, there, -⟩ := first _ _ _ rfl List.nil_prefix ⟨1, .statefulSet, rfl⟩
  exact ⟨object, t, turn, there⟩

end Portage
