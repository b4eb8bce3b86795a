import Portage.Controller.DumpRun
import Portage.Kube.Writes

/-! What a Restore creates its claims from: the manifests create them empty, and the
rehydration from a snapshot. -/
namespace Portage

open Go Kube Process Program

/-- Neither others nor a mover's plugin write the claim while the pass runs. -/
structure Kube.Oracle.LeavesClaim (o : Oracle) (c : ClusterId) (key : ObjKey) : Prop where
  drift : ∀ n clusters, (o.drift n clusters c).claims key = (clusters c).claims key
  plugin : ∀ n clusters, (o.replicated n clusters c).claims key = (clusters c).claims key

def SameClaim (c : ClusterId) (key : ObjKey) (s t : World) : Prop :=
  (t.clusters c).claims key = (s.clusters c).claims key

theorem sameClaim_chains (c : ClusterId) (key : ObjKey) : Chains (SameClaim c key) where
  refl _ := rfl
  trans first second := second.trans first

/-- A claim that is there stays as it is. -/
def StandingClaim (c : ClusterId) (key : ObjKey) (s t : World) : Prop :=
  ((s.clusters c).claims key).isSome = true → SameClaim c key s t

variable {c : ClusterId} {key : ObjKey} {s t : World} {action : Action}

theorem SameClaim.standing (same : SameClaim c key s t) : StandingClaim c key s t := fun _ => same

theorem standingClaim_chains (c : ClusterId) (key : ObjKey) : Chains (StandingClaim c key) where
  refl _ _ := rfl
  trans := by
    intro s t u first second there
    have kept : SameClaim c key s t := first there
    have still : ((t.clusters c).claims key).isSome = true := by rw [kept]; exact there
    exact (sameClaim_chains c key).trans kept (second still)

/-- A claim that restores a snapshot and that healing would leave as it is. -/
def Kube.Claim.FromSnapshot (claim : Claim) : Prop :=
  claim.dataSource.isSome = true ∧ ∀ opt, (healPVC claim opt).2 = []

/-- A claim that is missing is only created from a snapshot, and then left alone. -/
structure Sourcing (c : ClusterId) (key : ObjKey) (s t : World) : Prop where
  absent : (s.clusters c).claims key = none →
    (t.clusters c).claims key = none ∨ ∃ claim, (t.clusters c).claims key = some claim ∧ claim.FromSnapshot
  made : ∀ claim, (s.clusters c).claims key = some claim → claim.FromSnapshot → SameClaim c key s t

theorem SameClaim.sourcing (same : SameClaim c key s t) :
    Sourcing c key s t where
  absent none := .inl (same.trans none)
  made _ _ _ := same

theorem sourcing_chains (c : ClusterId) (key : ObjKey) : Chains (Sourcing c key) where
  refl s := SameClaim.sourcing rfl
  trans := by
    intro s t u first second
    refine ⟨fun none => ?_, fun claim there fresh => ?_⟩
    · rcases first.absent none with none | ⟨claim, there, fresh⟩
      · exact second.absent none
      · exact .inr ⟨claim, (second.made claim there fresh).trans there, fresh⟩
    · have kept : SameClaim c key s t := first.made claim there fresh
      exact (sameClaim_chains c key).trans kept (second.made claim (kept.trans there) fresh)

section
variable {o : Oracle} {c : ClusterId} {key : ObjKey} (alone : o.LeavesClaim c key)
variable {d : ClusterId}
include alone

/-! ### Calls that leave the claim alone -/

theorem sameClaim_of_drifts {s t : World} (drifts : o.Drifts s.clusters t.clusters) : SameClaim c key s t :=
  drifts (fun clusters => (clusters c).claims key = (s.clusters c).claims key)
    (fun n clusters same => (alone.drift n clusters).trans same) rfl

theorem sameClaim_of_reads {x : Prog α} (reads : Moves o (Extends o fun e => e.touches = false) x) :
    Moves o (SameClaim c key) x := by
  intro s
  obtain ⟨_, added, _, quiet, drifts⟩ := reads s
  exact sameClaim_of_drifts alone (drifts quiet)

/-- A write that leaves the claim alone wherever it is accepted. -/
theorem sameClaim_send {req : Request} {change : Cluster → Except ApiError Cluster}
    (spares : ∀ before after, change before = .ok after → d = c → after.claims key = before.claims key) :
    Moves o (SameClaim c key) (send req d change) := by
  intro s
  unfold SameClaim
  rcases send_drifted (o := o) req d change s with same | ⟨after, changed, same⟩
  · rw [same, alone.drift]
  · rw [same]
    dsimp only
    by_cases here : c = d
    · subst here
      rw [if_pos rfl, spares _ _ changed rfl, alone.drift]
    · rw [if_neg here, alone.drift]

theorem sameClaim_createOrUpdate [DecidableEq β] {resource : Resource} {name : ObjKey} {select : Cluster → Option β}
    {created : Cluster → Cluster} {updated : β → Cluster → Cluster}
    (creates : ∀ cluster, (created cluster).claims = cluster.claims)
    (updates : ∀ current cluster, (updated current cluster).claims = cluster.claims) :
    Moves o (SameClaim c key) (createOrUpdate d resource name select created updated) := by
  have chains := sameClaim_chains c key
  refine .bind chains (sameClaim_send alone fun before after changed _ => ?_) fun answer => ?_
  · split at changed
    · cases changed
    · cases changed
      rw [creates]
  · cases answer with
    | ok _ => exact .pure chains _
    | error refused =>
      dsimp only
      split
      · exact .pure chains _
      · refine .bind chains (sameClaim_of_reads alone (moves_getObject _ _ _ _)) fun answer => ?_
        cases answer with
        | error missing => exact .pure chains _
        | ok current =>
          refine sameClaim_send alone fun before after changed _ => ?_
          split at changed
          · cases changed
          · split at changed
            · cases changed
              rw [updates]
            · cases changed

omit alone in
private theorem claims_put (kind : ControllerKind) (cluster : Cluster) (name : ObjKey) (controller : Controller) :
    (kind.put cluster name controller).claims = cluster.claims := by
  cases kind <;> rfl

theorem sameClaim_healWorkloadOn (d : ClusterId) (w : Workload) :
    Moves o (SameClaim c key) (healWorkloadOn d w) := by
  have chains := sameClaim_chains c key
  unfold healWorkloadOn
  cases ControllerKind.of? w.kind with
  | none => exact .pure chains _
  | some kind =>
    refine .bind chains (sameClaim_of_reads alone (moves_getObject _ _ _ _)) fun answer => ?_
    cases answer with
    | error refused => exact .pure chains _
    | ok controller =>
      dsimp only
      split
      · exact .pure chains _
      · refine .bind chains (sameClaim_send alone fun before after changed _ => ?_) fun _ => .pure chains _
        split at changed
        · cases changed
        · split at changed
          · cases changed
            rw [claims_put]
          · cases changed

theorem sameClaim_settle (env : Env) (always : Bool) (facts : Restore.Facts) (w : Workload) :
    Moves o (SameClaim c key) (settle env always facts w) := by
  have chains := sameClaim_chains c key
  refine .bind chains (sameClaim_healWorkloadOn alone _ w) fun _ =>
    .bind chains (sameClaim_of_reads alone (moves_ready _ w)) fun answer => ?_
  cases answer with
  | error _ => exact .pure chains _
  | ok up =>
    exact .bind chains (sameClaim_of_reads alone (moves_probeReady env w (fun _ quiet => quiet) up)) fun _ =>
      .pure chains _

theorem sameClaim_restoreByMover (env : Env) (facts : Restore.Facts) (m : Mover) (w : Workload) :
    Moves o (SameClaim c key) (restoreByMover env facts m w) := by
  have chains := sameClaim_chains c key
  have asked : Moves o (SameClaim c key) (m.restore w) := by
    cases m with
    | webhook plugin =>
      intro s
      unfold SameClaim
      simp [Mover.restore, callMover, record, tick, alone.plugin, alone.drift]
    | postgresStreaming | volsync | rclone => exact .pure chains _
  refine .bind chains asked fun answer => ?_
  cases answer with
  | some text => exact .pure chains _
  | none => exact sameClaim_settle alone env true _ w

theorem sameClaim_restoreGraph (env : Env) (facts : Restore.Facts) (w : Workload) :
    Moves o (SameClaim c key) (restoreGraph env facts w) := by
  have chains := sameClaim_chains c key
  have synced (dest : Option ClusterId) (objects : List String) :
      Moves o (SameClaim c key) (syncObjects dest objects) := by
    cases dest with
    | none => exact .pure chains _
    | some d =>
      intro s
      unfold SameClaim
      by_cases empty : objects = []
      · simp [syncObjects, record, tick, empty, alone.drift]
      · by_cases here : c = d
        · subst here
          simp [syncObjects, record, tick, empty, alone.drift]
        · simp [syncObjects, record, tick, empty, here, alone.drift]
  unfold restoreGraph
  cases env.usefulID w with
  | none => exact .pure chains _
  | some id =>
    refine .bind chains ?_ fun answer => ?_
    · unfold restoreClusterObjects writeGraph
      cases env.archive id with
      | error text => exact .pure chains _
      | ok objects =>
        dsimp only
        cases env.destDynamic with
        | error text => exact .pure chains _
        | ok dest => exact synced dest objects
    · cases answer <;> exact .pure chains _

private theorem sameClaim_dumpApply (env : Env) (w : Workload) (id : String) :
    Moves o (SameClaim c key) (Dump.apply env.dest env.store w id) := by
  have chains := sameClaim_chains c key
  unfold Dump.apply
  split
  · exact .pure chains _
  · cases env.store id with
    | error text => exact .pure chains _
    | ok data =>
      refine .bind chains (sameClaim_of_reads alone (moves_firstReadyPod _ _)) fun answer => ?_
      cases answer with
      | error text => exact .pure chains _
      | ok found =>
        dsimp only
        cases env.dest.exec with
        | none => exact .pure chains _
        | some d =>
          refine .bind chains (fun s => ?_) fun answer => by cases answer <;> exact .pure chains _
          rw [Dump.replayIn_run]
          exact alone.drift s.calls s.clusters

theorem sameClaim_replayIfDue (env : Env) (phase : ActionPhase) (seen : RestoreSeen) (w : Workload)
    (rehydrated : Bool) : Moves o (SameClaim c key) (replayIfDue env phase seen w rehydrated) := by
  have chains := sameClaim_chains c key
  have recorded : Moves o (SameClaim c key) (recordReplay seen w rehydrated) := by
    intro s
    have silent : Proceeds o (fun _ => False) s (recordReplay seen w rehydrated o s).2 :=
      proceeds_recordReplay seen w rehydrated s
    obtain ⟨_, added, _, nothing, drifts⟩ := silent
    exact sameClaim_of_drifts alone (drifts fun e member => (nothing e member).elim)
  unfold replayIfDue replayDump
  cases env.usefulID w with
  | none => dsimp only; split <;> exact .pure chains _
  | some id =>
    dsimp only
    split
    · exact .pure chains _
    · split
      · exact .pure chains _
      · refine .bind chains (sameClaim_of_reads alone (moves_isReady _ _)) fun up => ?_
        split
        · refine .bind chains (sameClaim_dumpApply alone env w id) fun answer => ?_
          cases answer with
          | ok _ => exact recorded
          | error stop => cases stop <;> exact .pure chains _
        · exact .pure chains _

/-! ### Writes of claims -/

theorem sameClaim_createClaim {name : ObjKey} (claim : Claim) (other : d = c → name ≠ key) :
    Moves o (SameClaim c key) (createClaim d name claim) := by
  refine sameClaim_send alone fun before after changed here => ?_
  split at changed
  · cases changed
  · cases changed
    simp [Kube.Cluster.putClaim, (other here).symm]

/-- A create of the claim is refused if it is there, and else leaves what it was given. -/
private theorem createClaim_here (claim : Claim) (s : World) :
    SameClaim c key s (createClaim c key claim o s).2 ∨ (s.clusters c).claims key = none ∧
      ((createClaim c key claim o s).2.clusters c).claims key = some claim := by
  rcases send_drifted (o := o) (.create c .claims key) c _ s with same | ⟨after, changed, same⟩
  · left
    unfold SameClaim createClaim
    rw [same, alone.drift]
  · right
    unfold createClaim
    rw [same]
    split at changed
    · cases changed
    · rename_i absent
      cases changed
      rw [alone.drift] at absent
      exact ⟨absent, by simp [Kube.Cluster.putClaim]⟩

theorem standingClaim_createClaim (d : ClusterId) (name : ObjKey) (claim : Claim) :
    Moves o (StandingClaim c key) (createClaim d name claim) := by
  intro s there
  by_cases other : d = c → name ≠ key
  · exact sameClaim_createClaim alone claim other s
  · obtain ⟨rfl, rfl⟩ : d = c ∧ name = key := by simpa using other
    rcases createClaim_here alone claim s with same | ⟨absent, _⟩
    · exact same
    · simp [absent] at there

theorem sourcing_createClaim (d : ClusterId) (name : ObjKey) {claim : Claim} (fresh : claim.FromSnapshot) :
    Moves o (Sourcing c key) (createClaim d name claim) := by
  intro s
  by_cases other : d = c → name ≠ key
  · exact (sameClaim_createClaim alone claim other s).sourcing
  · obtain ⟨rfl, rfl⟩ : d = c ∧ name = key := by simpa using other
    rcases createClaim_here alone claim s with same | ⟨absent, created⟩
    · exact same.sourcing
    · exact ⟨fun _ => .inr ⟨claim, created, fresh⟩, fun old there => by simp [absent] at there⟩

/-- An update is only accepted of the claim it was computed from. -/
theorem sourcing_updateClaim (d : ClusterId) (name : ObjKey) {old : Claim} (stale : ¬ old.FromSnapshot)
    (claim : Claim) : Moves o (Sourcing c key) (updateClaim d name old claim) := by
  intro s
  rcases send_drifted (o := o) (.update d .claims name) d _ s with same | ⟨after, changed, same⟩
  · refine SameClaim.sourcing ?_
    unfold SameClaim updateClaim
    rw [same, alone.drift]
  · split at changed
    · cases changed
    · split at changed
      · rename_i now there unmoved
        cases changed
        by_cases here : c = d ∧ key = name
        · obtain ⟨rfl, rfl⟩ := here
          rw [alone.drift, unmoved] at there
          exact ⟨fun absent => by simp [absent] at there, fun claim found fresh => by
            obtain rfl : old = claim := Option.some.inj (there.symm.trans found)
            exact absurd fresh stale⟩
        · refine SameClaim.sourcing ?_
          unfold SameClaim updateClaim
          rw [same]
          by_cases cluster : c = d
          · have different : key ≠ name := fun equal => here ⟨cluster, equal⟩
            simp [cluster, Kube.Cluster.putClaim, different]
            exact cluster ▸ alone.drift s.calls s.clusters
          · simp [cluster, alone.drift]
      · cases changed

/-! ### The manifests -/

theorem sameClaim_createTyped {object : Manifest} (other : d = c → ∀ claim, object ≠ .claim key claim) :
    Moves o (SameClaim c key) (createTyped d object) := by
  have chains := sameClaim_chains c key
  cases object with
  | claim name claim =>
    refine .bind chains (sameClaim_of_reads alone (moves_getObject _ _ _ _)) fun answer => ?_
    cases answer with
    | ok _ => exact .pure chains _
    | error refused =>
      dsimp only
      split
      · exact .pure chains _
      · exact sameClaim_createClaim alone claim fun here same => other here claim (by rw [same])
  | payload kind name content =>
    cases kind with
    | service =>
      refine sameClaim_send alone fun before after changed _ => ?_
      split at changed
      · cases changed
      · cases changed
        rfl
    | configMap | secret => exact sameClaim_createOrUpdate alone (fun _ => rfl) fun _ _ => rfl
  | controller kind name controller =>
    exact sameClaim_createOrUpdate alone (fun _ => claims_put _ _ _ _) fun _ _ => claims_put _ _ _ _
  | daemonSet | ignored => exact .pure chains _
  | undecodable kind name text =>
    dsimp only [createTyped]
    split <;> exact .pure chains _

theorem standingClaim_createTyped (d : ClusterId) (object : Manifest) :
    Moves o (StandingClaim c key) (createTyped d object) := by
  have chains := standingClaim_chains c key
  by_cases other : d = c → ∀ claim, object ≠ .claim key claim
  · exact fun s => (sameClaim_createTyped alone other s).standing
  · obtain ⟨rfl, claim, rfl⟩ : d = c ∧ ∃ claim, object = .claim key claim := by simpa using other
    refine .bind chains (fun s => (sameClaim_of_reads alone (moves_getObject _ _ _ _) s).standing) fun answer => ?_
    cases answer with
    | ok _ => exact .pure chains _
    | error refused =>
      dsimp only
      split
      · exact .pure chains _
      · exact standingClaim_createClaim alone _ _ claim

omit alone in
private theorem moves_typedStep {R : World → World → Prop} (chains : Chains R) {object : Manifest}
    (moves : Moves o R (createTyped d object)) (acc : Unit) : Moves o R (typedStep d acc object) := by
  refine .bind chains moves fun answer => ?_
  cases answer with
  | ok _ => exact .pure chains _
  | error refused => dsimp only; split <;> exact .pure chains _

theorem standingClaim_typed (d : ClusterId) (objects : List Manifest) :
    Moves o (StandingClaim c key) (typed d objects) :=
  .foldUntil (standingClaim_chains c key) (fun acc object _ =>
    moves_typedStep (standingClaim_chains c key) (standingClaim_createTyped alone d object) acc) _

theorem sameClaim_typed {objects : List Manifest} (other : d = c → ∀ claim, Manifest.claim key claim ∉ objects) :
    Moves o (SameClaim c key) (typed d objects) := by
  refine .foldUntil (sameClaim_chains c key) (fun acc object member =>
    moves_typedStep (sameClaim_chains c key) (sameClaim_createTyped alone fun here claim same => ?_) acc) _
  have listed : object ∈ objects := (List.perm_insertionSort _ objects).subset member
  exact other here claim (same ▸ listed)

end

/-- No claim of this name among the objects, or one that is `there`. -/
def ReadsClaim (key : ObjKey) (there : Option Claim) (objects : List Manifest) : Prop :=
  ∀ claim, Manifest.claim key claim ∈ objects → there = some claim

/-- Nothing that renders to the claim can be exported if the source has `there` under its name. -/
def Env.Unrendered (env : Env) (key : ObjKey) (there : Option Claim) : Prop :=
  ∀ objects out, ReadsClaim key there objects → env.render objects = .ok out →
    ∀ claim, Manifest.claim key claim ∉ out

def HasClaim (c : ClusterId) (key : ObjKey) (there : Option Claim) (s : World) : Prop :=
  (s.clusters c).claims key = there

theorem HasClaim.kept {o : Oracle} {there : Option Claim} {x : Prog α} (has : HasClaim c key there s)
    (moves : Moves o (SameClaim c key) x) : HasClaim c key there (x o s).2 :=
  (moves s).trans has

section
variable {o : Oracle} {c : ClusterId} {key : ObjKey} (alone : o.LeavesClaim c key) {there : Option Claim}
include alone

/-- What a read of the claim to export answers. -/
private theorem exportObject_claim {s : World} (has : HasClaim c key there s) {claim : Claim}
    (answer : (exportObject c .claims key (·.claims key) o s).1 = .ok claim) : there = some claim := by
  have kept := alone.drift s.calls s.clusters
  unfold HasClaim at has
  cases unread : o.fault s.calls (.export_ c .claims key) with
  | some fault => simp [exportObject, fetch, tick, unread] at answer
  | none =>
    cases there with
    | none => simp [exportObject, fetch, tick, unread, kept, has, found] at answer
    | some old => simpa [exportObject, fetch, tick, unread, kept, has] using answer

private theorem exportClaim_reads (w : Workload) (name : String) (objects : List Manifest) :
    Holds o (fun s => ReadsClaim key there objects ∧ HasClaim c key there s) (exportClaim c w objects name)
      (fun objects s => ReadsClaim key there objects ∧ HasClaim c key there s) := by
  rintro s ⟨reads, has⟩
  have after := has.kept (sameClaim_of_reads alone
    (moves_exportObject c .claims ⟨w.namespace_, name⟩ (·.claims ⟨w.namespace_, name⟩)))
  simp only [exportClaim, bind_run]
  cases answer : (exportObject c .claims ⟨w.namespace_, name⟩ (·.claims ⟨w.namespace_, name⟩) o s).1 with
  | error refused => exact ⟨reads, after⟩
  | ok claim =>
    refine ⟨fun found member => ?_, after⟩
    rcases List.mem_append.mp member with old | new
    · exact reads found old
    · obtain ⟨rfl, rfl⟩ : key = ⟨w.namespace_, name⟩ ∧ found = claim := by simpa using new
      exact exportObject_claim alone has answer

omit alone in
private theorem exportController_claimless (w : Workload) (claim : Claim) (s : World) :
    Manifest.claim key claim ∉ (exportController c w o s).1 := by
  unfold exportController
  cases ControllerKind.of? w.kind with
  | some kind =>
    simp only [bind_run]
    cases (exportObject c kind.resource w.objKey (kind.table · w.objKey) o s).1 <;> simp
  | none =>
    dsimp only
    split
    · simp only [bind_run]
      cases (exportObject c .daemonSets w.objKey (·.daemonSets w.objKey) o s).1 <;> simp
    · simp

private theorem exportWorkload_reads (w : Workload) :
    Holds o (HasClaim c key there) (exportWorkload c w)
      (fun objects s => ReadsClaim key there objects ∧ HasClaim c key there s) := by
  intro s has
  have started : ReadsClaim key there [] := fun claim member => by simp at member
  have claims := Holds.fold (fun _ objects s => ReadsClaim key there objects ∧ HasClaim c key there s)
    w.pvcNames (fun _ name _ objects _ => exportClaim_reads alone w name objects) [] s ⟨started, has⟩
  refine ⟨fun claim member => ?_, has.kept (sameClaim_of_reads alone (moves_exportWorkload c w))⟩
  simp only [exportWorkload, bind_run, pure_run] at member
  rcases List.mem_append.mp member with first | second
  · exact claims.1 claim first
  · exact absurd second (exportController_claimless w claim _)

private theorem renderStep_claimless {env : Env} (source : env.source.kube = c)
    (unrendered : env.Unrendered key there) (w : Workload) (rendered : List Manifest) :
    Holds o (fun s => (∀ claim, Manifest.claim key claim ∉ rendered) ∧ HasClaim c key there s) (renderStep env rendered w)
      (fun rendered s => (∀ claim, Manifest.claim key claim ∉ rendered) ∧ HasClaim c key there s) := by
  rintro s ⟨claimless, has⟩
  obtain ⟨reads, after⟩ := exportWorkload_reads alone w s has
  simp only [renderStep, bind_run, source]
  cases out : env.render (exportWorkload c w o s).1 with
  | error text => exact ⟨claimless, after⟩
  | ok more =>
    refine ⟨fun claim member => ?_, after⟩
    rcases List.mem_append.mp member with old | new
    · exact claimless claim old
    · exact unrendered _ more reads out claim new

private theorem renderAll_claimless {env : Env} (source : env.source.kube = c) (unrendered : env.Unrendered key there)
    {s : World} (has : HasClaim c key there s) (claim : Claim) : Manifest.claim key claim ∉ (renderAll env o s).1 := by
  have rendered := Holds.fold
    (fun _ rendered s => (∀ claim, Manifest.claim key claim ∉ rendered) ∧ HasClaim c key there s) env.exported
    (fun _ w _ rendered _ => renderStep_claimless alone source unrendered w rendered) [] s ⟨fun claim => by simp, has⟩
  exact rendered.1 claim

end

/-- What a Restore that may create claims meets: if it applies manifests to this cluster
then the claim is there, or nothing renders to it. -/
def Env.BringsNoClaim (env : Env) (o : Oracle) (phase : ActionPhase) (c : ClusterId) (key : ObjKey)
    (clusters : Clusters) : Prop :=
  env.dest.kube = c → appliesManifests phase = true → ((clusters c).claims key).isSome = true ∨
    o.LeavesClaim env.source.kube key ∧ env.Unrendered key ((clusters env.source.kube).claims key)

section
variable {o : Oracle} {c : ClusterId} {key : ObjKey} (alone : o.LeavesClaim c key) {env : Env}
include alone

theorem applyIfDue_sameClaim {phase : ActionPhase} {s : World} (spares : env.BringsNoClaim o phase c key s.clusters) :
    SameClaim c key s (applyIfDue env phase o s).2 := by
  have chains := sameClaim_chains c key
  unfold applyIfDue
  split
  · rename_i applies
    have rendered : SameClaim c key s (renderAll env o s).2 := sameClaim_of_reads alone (moves_renderAll env) s
    simp only [applyManifests, bind_run]
    refine chains.trans rendered ?_
    by_cases here : env.dest.kube = c
    · rcases spares here applies with there | ⟨aloneSource, unrendered⟩
      · refine standingClaim_typed alone _ _ _ ?_
        rw [rendered]
        exact there
      · have claimless := renderAll_claimless aloneSource rfl unrendered (s := s) rfl
        exact sameClaim_typed alone (fun _ => claimless) _
    · exact sameClaim_typed alone (fun same => absurd same here) _
  · rfl

/-! ### Rehydration -/

omit alone in
theorem fromSnapshot_claimFromSnapshot (w : Workload) (pvcName snapName size : String) (pair : Option ClusterPair) :
    (claimFromSnapshot w pvcName snapName size (rehydrateOpts pair)).FromSnapshot := by
  have classless : (claimFromSnapshot w pvcName snapName size (rehydrateOpts pair)).storageClassName = none := by
    cases pair <;> rfl
  have unpinned : (claimFromSnapshot w pvcName snapName size (rehydrateOpts pair)).annotations.find?
      "volume.kubernetes.io/selected-node" = none := by
    simp [claimFromSnapshot, transformPVC, filterAnns, find?_filterKeys, Transform.dropsAnn, Transform.dropAnnotationExact]
  have unzoned : (claimFromSnapshot w pvcName snapName size (rehydrateOpts pair)).labels.find?
      "topology.kubernetes.io/zone" = none := by
    simp [claimFromSnapshot, transformPVC, filterLabels, find?_filterKeys, Transform.dropLabelKeys]
  have unbound : (claimFromSnapshot w pvcName snapName size (rehydrateOpts pair)).phase = .other := by
    cases pair <;> rfl
  refine ⟨rfl, fun opt => ?_⟩
  simp only [healPVC, unpinned, unzoned, unbound, transformPVC, classless]
  by_cases unset : opt.defaultStorageClass = "" <;> simp [unset]

theorem sourcing_ensurePVCFromSnapshot (d : ClusterId) (dynamic : Option ClusterId) (w : Workload)
    (pvcName : String) (pair : Option ClusterPair) :
    Moves o (Sourcing c key) (ensurePVCFromSnapshot d dynamic w pvcName (rehydrateOpts pair)) := by
  have chains := sourcing_chains c key
  have reads {α : Type} {x : Prog α} (reads : Moves o (Extends o fun e => e.touches = false) x) :
      Moves o (Sourcing c key) x := fun s => (sameClaim_of_reads alone reads s).sourcing
  unfold ensurePVCFromSnapshot
  dsimp only
  split
  · exact .pure chains _
  · refine .bind chains (reads (moves_getObject _ _ _ _)) fun answer => ?_
    cases answer with
    | ok claim =>
      dsimp only
      split
      · exact .pure chains _
      · split
        · exact .pure chains _
        · split
          · exact .pure chains _
          · rename_i healed
            have stale : ¬ claim.FromSnapshot := fun fresh => healed (by simp [fresh.2])
            refine .bind chains (sourcing_updateClaim alone _ _ stale _) fun answer => ?_
            cases answer <;> exact .pure chains _
    | error refused =>
      dsimp only
      split
      · exact .pure chains _
      · refine .bind chains (reads (moves_latestReady _ _)) fun answer => ?_
        cases answer with
        | error text => exact .pure chains _
        | ok latest =>
          dsimp only
          split
          · exact .pure chains _
          · refine .bind chains (reads (moves_restoreSize _ _)) fun restored =>
              .bind chains (sourcing_createClaim alone _ _ (fromSnapshot_claimFromSnapshot _ _ _ _ pair)) fun answer => ?_
            cases answer with
            | ok _ => exact .pure chains _
            | error refused => dsimp only; split <;> exact .pure chains _

theorem sourcing_ensureClaims (facts : Restore.Facts) (w : Workload) :
    Moves o (Sourcing c key) (ensureClaims env facts w) := by
  have chains := sourcing_chains c key
  refine .fold chains (fun acc pvcName _ =>
    .bind chains (sourcing_ensurePVCFromSnapshot alone _ _ w pvcName env.pair) fun answer => ?_) _
  obtain ⟨outcome, healed⟩ := answer
  cases outcome with
  | ok done => exact .pure chains _
  | error text => dsimp only; split <;> exact .pure chains _

theorem sourcing_restoreStep (phase : ActionPhase) (seen : RestoreSeen) (w : Workload) :
    Moves o (Sourcing c key) (restoreStep env phase seen w) := by
  have chains := sourcing_chains c key
  have same {α : Type} {x : Prog α} (same : Moves o (SameClaim c key) x) : Moves o (Sourcing c key) x :=
    fun s => (same s).sourcing
  unfold restoreStep
  dsimp only
  split
  · exact .bind chains (same (sameClaim_of_reads alone (moves_restoreStateless env _ w))) fun _ => .pure chains _
  · split
    · exact .pure chains _
    · split
      · exact .bind chains (same (sameClaim_restoreGraph alone env _ w)) fun _ => .pure chains _
      · unfold restoreUseful
        cases env.pinnedRestore w with
        | unknown text => exact .pure chains _
        | capable m => exact .bind chains (same (sameClaim_restoreByMover alone env _ m w)) fun _ => .pure chains _
        | none =>
          refine .bind chains (sourcing_ensureClaims alone _ w) fun bound =>
            .bind chains (same (sameClaim_replayIfDue alone env phase _ w _)) fun answer => ?_
          cases answer with
          | error stop => exact .pure chains _
          | ok after => exact .bind chains (same (sameClaim_settle alone env false _ w)) fun _ => .pure chains _

/-- A Restore creates a claim that is missing from a snapshot only. -/
theorem runRestore_sourcing {act : Action} {s : World} (spares : env.BringsNoClaim o act.status.phase c key s.clusters) :
    Sourcing c key s (runRestore env act o s).2 := by
  have chains := sourcing_chains c key
  have applied := (applyIfDue_sameClaim alone spares).sourcing
  simp only [runRestore, bind_run]
  cases (applyIfDue env act.status.phase o s).1 with
  | error text => exact applied
  | ok _ =>
    have looped : Moves o (Sourcing c key) (restoreLoop env act) :=
      .foldUntil chains (fun seen w _ => sourcing_restoreStep alone _ seen w) _
    have both := chains.trans applied (looped (applyIfDue env act.status.phase o s).2)
    simp only [bind_run]
    cases (restoreLoop env act o (applyIfDue env act.status.phase o s).2).1 with
    | error stop => exact both
    | ok seen =>
      dsimp only
      cases Restore.advance act.status (seen.gathered env act) <;> exact both

end

/-! ### Reconciles -/

/-- Nobody else writes the claim during the reconcile, and manifests are applied only if the
claim is there or none of them renders to it. -/
structure PassInput.SparesClaim (input : PassInput) (action : Action) (c : ClusterId) (key : ObjKey) : Prop where
  alone : input.oracle.LeavesClaim c key
  spares : input.env.BringsNoClaim input.oracle (calledIn action.status.phase) c key input.clusters

theorem Env.BringsNoClaim.drifted {env : Env} {o : Oracle} {phase : ActionPhase} (alone : o.LeavesClaim c key)
    (spares : env.BringsNoClaim o phase c key s.clusters) (drifts : o.Drifts s.clusters t.clusters) :
    env.BringsNoClaim o phase c key t.clusters := by
  intro here applies
  rcases spares here applies with there | ⟨source, unrendered⟩
  · left
    rw [sameClaim_of_drifts alone drifts]
    exact there
  · right
    rw [sameClaim_of_drifts source drifts]
    exact ⟨source, unrendered⟩

theorem reconcile_sourcing {input : PassInput} (restores : input.spec.type = .restore)
    (spared : input.SparesClaim action c key) :
    Sourcing c key (input.opening action) (reconcile input input.oracle (input.opening action)).2 := by
  have chains := sourcing_chains c key
  have drifted {s t : World} (drifts : input.oracle.Drifts s.clusters t.clusters) : Sourcing c key s t :=
    (sameClaim_of_drifts spared.alone drifts).sourcing
  have ran {u t : World} {act : Action} {answer : Except Stop ActionResult}
      (called : Called input.oracle (input.opening action) u act)
      (ran : runAction input act input.oracle u = (answer, t)) : Sourcing c key (input.opening action) t := by
    obtain ⟨desired, _, written⟩ := called.before
    have given : input.covered.BringsNoClaim input.oracle (calledIn action.status.phase) c key
        (input.opening action).clusters := spared.spares
    have spares : input.covered.BringsNoClaim input.oracle act.status.phase c key u.clusters := by
      rw [called.phase]
      exact given.drifted spared.alone written.drifts
    have restored := runRestore_sourcing spared.alone spares
    simp only [runAction, restores] at ran
    rw [ran] at restored
    exact chains.trans (drifted written.drifts) restored
  have branch := reconcile_reconciled input input.oracle (input.opening action)
  generalize reconcile input input.oracle (input.opening action) = answer at branch
  cases branch with
  | closed desired _ written _ => exact drifted written.drifts
  | stopped called stopped _ => exact ran called stopped
  | advanced called advanced written => exact chains.trans (ran called advanced) (drifted written.drifts)

/-! ### Runs -/

/-- The reconcile creates the claim, and from no snapshot. -/
def CreatesEmpty (step : ReconcileStep) (c : ClusterId) (key : ObjKey) : Prop :=
  (step.input.clusters c).claims key = none ∧
    ∃ claim, (step.input.after step.before c).claims key = some claim ∧ claim.dataSource = none

/-- One of the reconciles created the claim from no snapshot, and it was there ever since. -/
def MadeEmpty (steps : List ReconcileStep) (c : ClusterId) (key : ObjKey) : Prop :=
  ∃ earlier step later, steps = earlier ++ step :: later ∧ CreatesEmpty step c key ∧
    ∀ next ∈ later, (next.input.clusters c).claims key ≠ none

/-- A stateful workload whose data neither a dump nor a mover of its own brings back. -/
structure SnapshotTarget (env : Env) (w : Workload) : Prop where
  member : w ∈ env.inventory
  stateful : w.stateful = true
  unpinned : moverOverride env.policy w .restore = ""
  undumped : Dump.restoreCommand w.engine = []

/-- Whenever a reconcile reports success, the claims of the workloads that take part and
that only a snapshot can fill were not created empty by the Action. -/
def AttestsFilled (steps : List ReconcileStep) : Prop :=
  ∀ earlier step later result stored, steps = earlier ++ step :: later →
    step.output.outcome = .advanced result stored → result.phase = .succeeded →
    ∀ w, SnapshotTarget step.input.covered w → TakesPart result w → ∀ name ∈ w.pvcNames,
      ¬ MadeEmpty (earlier ++ [step]) step.input.env.dest.kube ⟨w.namespace_, name⟩

theorem not_createsEmpty {step : ReconcileStep} (restores : step.input.spec.type = .restore)
    (spared : step.input.SparesClaim step.before c key) : ¬ CreatesEmpty step c key := by
  rintro ⟨absent, claim, created, empty⟩
  rcases (reconcile_sourcing restores spared).absent absent with none | ⟨claim', there, fresh⟩
  · have created : ((reconcile step.input step.input.oracle (step.input.opening step.before)).2.clusters c).claims key =
        some claim := created
    simp [none] at created
  · obtain rfl : claim = claim' := Option.some.inj (created.symm.trans there)
    simp [Claim.FromSnapshot, empty] at fresh

/-- Among Restore reconciles that each spare the claims that only a snapshot can fill, no
success attests a claim that one of them created empty. What one reconcile leaves to the next
plays no part, so they may be those of a run or any others. -/
theorem run_attestsFilled {steps : List ReconcileStep} (restores : ∀ step ∈ steps, step.input.spec.type = .restore)
    (spared : ∀ step ∈ steps, ∀ w, SnapshotTarget step.input.covered w → ∀ name ∈ w.pvcNames, ∀ past ∈ steps,
      past.input.SparesClaim past.before step.input.env.dest.kube ⟨w.namespace_, name⟩) :
    AttestsFilled steps := by
  rintro earlier step later result stored split _ _ w target _ name listed
    ⟨before, past, after, same, creates, _⟩
  have member : step ∈ steps := by simp [split]
  have within : past ∈ steps := by
    have inside : past ∈ earlier ++ [step] := by simp [same]
    rw [split]
    simp only [List.mem_append, List.mem_cons, List.not_mem_nil, or_false] at inside ⊢
    tauto
  exact not_createsEmpty (restores past within) (spared step member w target name listed past within) creates

/-! ### A volume of files -/

def photos : Workload :=
  { namespace_ := "shop", name := "photos", kind := "StatefulSet", cls := .genericPVC, pvcNames := ["data"] }

def photosSet (ready : Int32) (claim : Option Claim) (snapshots : List VolumeSnapshot) : Cluster where
  claims := fun key => if key = ⟨"shop", "data"⟩ then claim else none
  statefulSets := fun key => if key = photos.objKey then some { replicas := some 1, readyReplicas := ready } else none
  snapshots := snapshots

/-- What the default renderer makes of claims and controllers that have no pins. -/
def sanitizeManifest : Manifest → Manifest
  | .claim key claim => .claim key (transformPVC claim {})
  | .controller kind key controller => .controller kind key { controller with readyReplicas := 0 }
  | other => other

/-- A reconcile that finds `dest` on the destination, and a useful artifact on record. -/
def photosPass (dest : Cluster) : PassInput where
  spec := { type := .restore, policyRef := "shop" }
  env := {
    policy := { status := { artifacts := [⟨photos.key, true, 3, "photos-data", ""⟩] } }
    source := { kube := 0 }
    dest := { kube := 1, dynamic := some 1, exec := some 1 }
    inventory := [photos]
    render := fun objects => .ok (objects.map sanitizeManifest) }
  clusters := fun c => if c = 0 then photosSet 1 (some { size := "10Gi", phase := .bound }) [] else dest

def photosSnapshot : VolumeSnapshot :=
  { key := ⟨"shop", "photos-data"⟩, workloadName := "photos", workloadKind := "StatefulSet", readyToUse := true
    pvc := "data", source := "data", taken := 1 }

/-- A new Action is reconciled over each of the destinations in turn. -/
def photosSteps : Action → List Cluster → List ReconcileStep
  | _, [] => []
  | action, dest :: rest =>
    ⟨action, photosPass dest, (photosPass dest).pass action⟩ :: photosSteps ((photosPass dest).pass action).action rest

private theorem photosSteps_run (action : Action) (dests : List Cluster) :
    ∃ state, ReconcileRun action (photosSteps action dests) state := by
  induction dests generalizing action with
  | nil => exact ⟨action, .nil⟩
  | cons dest rest ih =>
    obtain ⟨state, run⟩ := ih ((photosPass dest).pass action).action
    exact ⟨state, Run.cons ⟨action, photosPass dest, (photosPass dest).pass action⟩ rfl run⟩

private theorem mem_photosSteps {dests : List Cluster} {step : ReconcileStep}
    (member : step ∈ photosSteps action dests) : ∃ dest ∈ dests, step.input = photosPass dest := by
  induction dests generalizing action with
  | nil => simp [photosSteps] at member
  | cons dest rest ih =>
    rcases List.mem_cons.mp member with rfl | later
    · exact ⟨dest, by simp, rfl⟩
    · obtain ⟨found, listed, same⟩ := ih later
      exact ⟨found, by simp [listed], same⟩

private theorem photos_target (dest : Cluster) : SnapshotTarget (photosPass dest).covered photos :=
  ⟨List.mem_singleton.mpr rfl, rfl, rfl, by decide⟩

private theorem eq_photos_of_target {dest : Cluster} {w : Workload} (target : SnapshotTarget (photosPass dest).covered w) :
    w = photos := List.mem_singleton.mp target.member

/-- The claim as it stands once a volume is bound to it. -/
def photosBound (dataSource : Option String) : Option Claim := some { size := "10Gi", phase := .bound, dataSource }

private theorem photosPass_spares {dest : Cluster}
    (spares : appliesManifests (calledIn action.status.phase) = true → (dest.claims ⟨"shop", "data"⟩).isSome = true) :
    (photosPass dest).SparesClaim action 1 ⟨"shop", "data"⟩ where
  alone := ⟨fun _ _ => rfl, fun _ _ => rfl⟩
  spares := fun _ applies => .inl (spares applies)

/-- With a ready snapshot on the destination the first reconcile creates the claim from it. -/
theorem run_attestsFilled_photos : ∃ steps state, ReconcileRun (booksAction .unset) steps state ∧
    (∃ step ∈ steps, ∃ result stored, step.output.outcome = .advanced result stored ∧ result.phase = .succeeded) ∧
    AttestsFilled steps := by
  obtain ⟨state, run⟩ := photosSteps_run (booksAction .unset)
    [{ snapshots := [photosSnapshot] }, photosSet 1 (photosBound (some "photos-data")) [photosSnapshot]]
  refine ⟨_, state, run, ⟨_, List.mem_cons_of_mem _ (List.mem_singleton.mpr rfl), _, _, rfl, by decide +kernel⟩,
    run_attestsFilled (fun step member => ?_) fun step member w target name listed past inside => ?_⟩
  · obtain ⟨dest, _, same⟩ := mem_photosSteps member
    rw [same]
    rfl
  · obtain ⟨dest, _, same⟩ := mem_photosSteps member
    rw [same] at target ⊢
    obtain rfl := eq_photos_of_target target
    obtain rfl : name = "data" := List.mem_singleton.mp listed
    rcases List.mem_cons.mp inside with rfl | later
    · exact photosPass_spares (by decide)
    · obtain rfl := List.mem_singleton.mp later
      exact photosPass_spares fun _ => rfl

/-- Without a snapshot on the destination the second reconcile creates the claim empty, and
the third one attests it. -/
theorem run_attests_empty : ∃ steps state, ReconcileRun (booksAction .unset) steps state ∧
    (∀ step ∈ steps, step.input.spec.type = .restore ∧ step.input.spec.dryRun = false) ∧ ¬ AttestsFilled steps := by
  obtain ⟨state, run⟩ := photosSteps_run (booksAction .unset) [{}, {}, photosSet 1 (photosBound none) []]
  refine ⟨_, state, run, fun step member => ?_, fun filled => ?_⟩
  · obtain ⟨dest, _, same⟩ := mem_photosSteps member
    rw [same]
    exact ⟨rfl, rfl⟩
  · refine filled [_, _] _ [] _ _ rfl rfl (by decide +kernel) photos (photos_target _)
      ⟨_, List.mem_singleton.mpr rfl, by decide +kernel⟩ "data" (by decide) ?_
    exact ⟨[_], _, [_], rfl, ⟨by decide +kernel, _, rfl, by decide +kernel⟩, by decide +kernel⟩

end Portage
