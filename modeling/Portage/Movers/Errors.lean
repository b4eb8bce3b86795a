import Portage.Movers.Standby
import Portage.Movers.VolSync.Replicate

/-! Every error of a mover says something, as long as the errors from outside do: a
runner takes an empty text for the absence of an error. -/
namespace Portage

open Go Kube Process Program

/-- The errors from outside say something. -/
structure Kube.Oracle.Worded (o : Oracle) : Prop where
  faults : ∀ n req fault, o.fault n req = some fault → fault.message ≠ ""
  plugins : ∀ n, o.mover n ≠ some ""

/-- A text that says something. -/
def Says (text : String) : Prop := text ≠ ""

theorem says_append {start : String} (said : start ≠ "") (rest : String) : Says (start ++ rest) := by
  simp [Says, said]

theorem says_intercalate {texts : List String} (some_ : texts ≠ []) (each : ∀ text ∈ texts, Says text) :
    Says (String.intercalate "\n" texts) := by
  cases texts with
  | nil => exact absurd rfl some_
  | cons first rest =>
    have said : first ≠ "" := each first (by simp)
    by_cases more : rest = []
    · simpa [more, Says] using said
    · rw [String.intercalate_cons_of_ne_nil more, String.append_assoc]
      exact says_append said _

namespace VolSync

section
variable {o : Oracle}

theorem says_markAll (side : Side) (c : ClusterId) (ns : String) (keys : List ObjKey) (s : World) :
    ∀ text ∈ (markAll side c ns keys o s).1, Says text := by
  refine Holds.fold (fun _ texts _ => ∀ text ∈ texts, Says text) keys (fun done key rest texts _ s before => ?_) []
    s (by simp)
  cases answer : (markScratchPVC side c key o s).1 with
  | ok _ => simpa [answer] using before
  | error refused =>
    by_cases gone : refused.reason = .notFound
    · simpa [answer, gone] using before
    · simp only [bind_run, answer, gone, if_false, pure_run, List.mem_append, List.mem_singleton]
      rintro text (member | rfl)
      · exact before text member
      · simp [Says]

theorem stops_protectScratchPVCs (side : Side) (kube : Option ClusterId) (ns : String) :
    Stops o Says (protectScratchPVCs side kube ns) := by
  unfold protectScratchPVCs
  cases kube with
  | none => exact .ok _
  | some c =>
    refine .ite (fun _ => .ok _) fun _ => .bind fun answer => ?_
    cases answer with
    | error refused => exact .error (by simp [Says])
    | ok items =>
      intro s text stopped
      simp only [bind_run, pure_run] at stopped
      split at stopped
      · cases stopped
      · cases stopped
        exact says_intercalate ‹_› (says_markAll side c ns _ _)

theorem stops_protectCaches (m : Mover) (ns : String) : Stops o Says (protectCaches m ns) :=
  .andThen (stops_protectScratchPVCs _ _ _) fun _ =>
    .ite (fun _ => stops_protectScratchPVCs _ _ _) fun _ => .ok _

theorem stops_privileged (side : Side) (kube : Option ClusterId) (w : Workload) {label : String}
    (said : label ≠ "") : Stops o Says (privileged side kube w label) :=
  .ite (fun _ => .reworded fun _ => says_append said _) fun _ => .ok _

theorem stops_ensureDestPVC (m : Mover) (ns name : String) : Stops o Says (ensureDestPVC m ns name) := by
  unfold ensureDestPVC
  split
  · refine .ite (fun _ => .ok _) fun _ => .bind fun answer => ?_
    cases answer with
    | ok _ => exact .ok _
    | error refused =>
      refine .ite (fun _ => .error (by simp [Says])) fun _ => .bind fun answer => ?_
      cases answer with
      | error missing => exact .error (by simp [Says])
      | ok claim => exact .reworded fun _ => by simp [Says]
  · exact .ok _

theorem stops_prepareDest (m : Mover) (w : Workload) : Stops o Says (prepareDest m w) := by
  unfold prepareDest
  cases m.destKubeClient with
  | none => exact .ok _
  | some dk =>
    refine .ite (fun _ => .ok _) fun _ => ?_
    refine .andThen (.reworded fun _ => by simp [Says]) fun _ => ?_
    refine .andThen (.reworded fun _ => by simp [Says]) fun _ => ?_
    refine .andThen (stops_privileged _ _ _ (by decide)) fun _ => ?_
    refine .andThen (.reworded fun _ => by simp [Says]) fun _ => ?_
    exact .andThen (.foldUntil (fun _ claim _ => stops_ensureDestPVC m _ claim) _) fun _ => .map _ _

theorem stops_snapshotTaken (m : Mover) (dyn : ClusterId) (w : Workload) : Stops o Says (snapshotTaken m dyn w) := by
  refine .ite (fun _ => .ite (fun _ => .ok _) fun _ => .bind fun answer => ?_) fun _ => .ok _
  cases answer with
  | ok rs => exact .ok _
  | error refused => exact .ite (fun _ => .ok _) fun _ => .error (by simp [Says])

theorem stops_applyPair (m : Mover) (dyn dst : ClusterId) (w : Workload) (pvc : String) :
    Stops o Says (applyPair m dyn dst w pvc) := by
  refine .bind fun _ => .andThen (stops_snapshotTaken m dyn w) fun _ =>
    .andThen (.reworded fun _ => by simp [Says]) fun _ => ?_
  refine .ite (fun _ => stops_protectCaches m _) fun _ => .andThen ?_ fun _ => stops_protectCaches m _
  exact .bind fun _ => .bind fun _ => .reworded fun _ => by simp [Says]

theorem stops_sourceMissing (m : Mover) (ns pvc : String) : Stops o Says (sourceMissing m ns pvc) := by
  unfold sourceMissing
  cases m.kube with
  | none => exact .ok _
  | some c =>
    refine .ite (fun _ => .ok _) fun _ => .bind fun answer => ?_
    cases answer with
    | ok _ => exact .ok _
    | error refused => exact .ite (fun _ => .ok _) fun _ => .error (by simp [Says])

/-- The VolSync mover says why it fails, whatever the errors from outside. -/
theorem stops_replicate (m : Mover) (w : Workload) : Stops o Says (replicate m w) := by
  unfold replicate
  cases m.dynamic with
  | none => exact .error (by simp [Says])
  | some dyn =>
    refine .ite (fun _ => .ok _) fun _ => .ite (fun _ => stops_protectCaches m _) fun _ =>
      .andThen (stops_sourceMissing m _ _) fun _ => .ite (fun _ => .map _ _) fun _ => ?_
    refine .andThen (.reworded fun _ => by simp [Says]) fun _ =>
      .andThen (stops_privileged _ _ _ (by decide)) fun _ => .andThen (stops_prepareDest m w) fun _ => ?_
    cases m.destDyn with
    | none => exact .error (by simp [Says])
    | some dst => exact .ite (fun _ => .error (by simp [Says])) fun _ => stops_applyPair m dyn dst w _

end

end VolSync

namespace Standby

section
variable {o : Oracle} (worded : o.Worded)
include worded

theorem stops_send {req : Request} {c : ClusterId} {change : Cluster → Except ApiError Cluster}
    (refusals : ∀ before refused, change before = .error refused → Says refused.message) :
    Stops o (fun refused : ApiError => Says refused.message) (send req c change) := by
  intro s refused stopped
  cases failed : o.fault s.calls req with
  | some fault =>
    have said : Says fault.message := worded.faults _ _ _ failed
    obtain rfl : fault.error = refused := by
      cases changed : change (o.drift s.calls s.clusters c) <;> cases lost : o.lost s.calls <;>
        simpa [send, tick, record, setCluster, failed, changed, lost] using stopped
    exact said
  | none =>
    cases changed : change (o.drift s.calls s.clusters c) with
    | ok after => simp [send, tick, record, setCluster, failed, changed] at stopped
    | error reason =>
      obtain rfl : reason = refused := by simpa [send, tick, record, failed, changed] using stopped
      exact refusals _ _ changed

theorem stops_createIn {side : Side} {c : ClusterId} {resource : Resource} {key : ObjKey}
    {present : Cluster → Bool} {add : Cluster → Cluster} :
    Stops o (fun refused : ApiError => Says refused.message) (createIn side c resource key present add) := by
  refine stops_send worded fun before refused failed => ?_
  split at failed
  · cases failed
    simp [alreadyExists, Says]
  · cases failed

omit worded in
theorem stops_ignoreExists {x : Prog (Except ApiError Unit)}
    (first : Stops o (fun refused : ApiError => Says refused.message) x) :
    Stops o (fun refused : ApiError => Says refused.message) (VolSync.ignoreExists <$> x) := by
  intro s refused stopped
  cases answer : (x o s).1 with
  | ok _ => simp [answer, VolSync.ignoreExists] at stopped
  | error reason =>
    by_cases there : reason.reason = .alreadyExists
    · simp [answer, VolSync.ignoreExists, there] at stopped
    · obtain rfl : reason = refused := by simpa [answer, VolSync.ignoreExists, there] using stopped
      exact first s reason answer

theorem stops_applyConfig (dest : ClusterId) (key : ObjKey) (content : String) :
    Stops o Says (applyConfig dest key content) := by
  refine .bind fun answer => ?_
  cases answer with
  | ok _ => exact .ok _
  | error _ =>
    refine .orElse (stops_send worded fun before refused failed => ?_) fun _ said => said
    split at failed
    · cases failed
    · cases failed
      simp [notFound, Says]

theorem stops_patchDestStandby (dest : ClusterId) (w : Workload) : Stops o Says (patchDestStandby dest w) := by
  refine .bind fun answer => ?_
  cases answer with
  | error _ => exact .ok _
  | ok sts =>
    refine .orElse (stops_send worded fun before refused failed => ?_) fun _ said => said
    split at failed
    · cases failed
      simp [notFound, Says]
    · split at failed
      · cases failed
      · cases failed
        simp [Says]

/-- The streaming mover says why it fails. -/
theorem stops_replicate (m : Mover) (src dst : ClusterHandle) (w : Workload) :
    Stops o Says (replicate m src dst w) := by
  unfold replicate
  cases m.destKube with
  | none => exact .error (by simp [Says])
  | some dest =>
    refine .andThen (stops_applyConfig worded _ _ _) fun _ => .andThen ?_ fun _ => .andThen (.map _ _) fun _ =>
      .andThen (.orElse (stops_ignoreExists (stops_createIn worded)) fun _ said => said) fun _ =>
        stops_patchDestStandby worded _ _
    unfold ensurePrimaryService
    cases m.kube with
    | none => exact .ok _
    | some c => exact .orElse (stops_ignoreExists (stops_createIn worded)) fun _ said => said

end

end Standby

end Portage
