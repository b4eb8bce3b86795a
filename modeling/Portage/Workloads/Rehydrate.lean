import Mathlib.Data.List.Nodup
import Portage.Kube.Confined
import Portage.Kube.Quiet
import Portage.Workloads.Claims

/-! Which VolumeSnapshot a missing claim is restored from. -/
namespace Portage

open Go Kube Process Program

/-- A snapshot carries the labels that a workload's snapshots are listed by. -/
def Kube.VolumeSnapshot.carries (snap : VolumeSnapshot) (w : Workload) : Prop :=
  snap.key.namespace_ = w.namespace_ ∧ snap.workloadName = w.name ∧ snap.workloadKind = w.kind

/-- A ready snapshot in a namespace that was taken of a claim, by its label and its source. -/
def Kube.VolumeSnapshot.copies (snap : VolumeSnapshot) (claim : ObjKey) : Prop :=
  snap.key.namespace_ = claim.namespace_ ∧ snap.pvc = claim.name ∧ snap.source = claim.name ∧ snap.readyToUse = true

/-- A snapshot of a claim than which no ready one is later. -/
def LatestCopy (snapshots : List VolumeSnapshot) (claim : ObjKey) (snap : VolumeSnapshot) : Prop :=
  snap ∈ snapshots ∧ snap.copies claim ∧ ∀ other ∈ snapshots, other.copies claim → other.taken ≤ snap.taken

/-- The latest copy of a claim carries the workload's labels, and no ready snapshot that does
is listed before it. -/
def ListedFirst (snapshots : List VolumeSnapshot) (w : Workload) (claim : ObjKey) : Prop :=
  ∃ before snap after, snapshots = before ++ snap :: after ∧ LatestCopy snapshots claim snap ∧ snap.carries w ∧
    ∀ other ∈ before, other.carries w → other.readyToUse = false

section
variable {o : Oracle} {w : Workload}

/-- A ready snapshot that is reported was the first to be listed. -/
private theorem latestReady_first (still : o.Still) {d : ClusterId} {s : World} {name : String}
    (reported : (latestReady (some d) w o s).1 = .ok (true, name)) :
    ∃ snap, (snapshotsOf w (s.clusters d)).find? (fun snap => snap.readyToUse) = some snap ∧ snap.key.name = name := by
  simp only [latestReady, bind_run, listObjects, fetch_still still] at reported
  cases refused : o.fault s.calls (.list d .snapshots w.namespace_) with
  | some fault =>
    simp only [refused, Option.elim_some] at reported
    split at reported <;> simp at reported
  | none =>
    simp only [refused, Option.elim_none] at reported
    cases first : (snapshotsOf w (s.clusters d)).find? (fun snap => snap.readyToUse) with
    | none => simp [first] at reported
    | some snap => exact ⟨snap, rfl, by simpa [first] using reported⟩

private theorem latestReady_clusters (still : o.Still) (dynamic : Option ClusterId) (s : World) :
    (latestReady dynamic w o s).2.clusters = s.clusters :=
  Moves.clusters_eq still (moves_latestReady dynamic w) s

/-- What a create leaves of a claim that was missing. -/
private theorem createClaim_missing (still : o.Still) {c : ClusterId} {key : ObjKey} {fresh claim : Claim} {s : World}
    (missing : (s.clusters c).claims key = none)
    (created : ((createClaim c key fresh o s).2.clusters c).claims key = some claim) : claim = fresh := by
  rcases send_clusters (.create c .claims key) c _ still s with same | ⟨after, changed, same⟩
  · rw [createClaim, same, missing] at created
    cases created
  · rw [createClaim, same] at created
    simp only [missing, Except.ok.injEq] at changed
    simpa [← changed, Kube.Cluster.putClaim, eq_comm] using created

/-- A claim that is created is created from the first ready snapshot of the workload. -/
theorem ensurePVCFromSnapshot_created (still : o.Still) {c d : ClusterId} {pvcName : String} {opt : RehydrateOptions}
    {s : World} {claim : Claim} (missing : (s.clusters c).claims ⟨w.namespace_, pvcName⟩ = none)
    (created : ((ensurePVCFromSnapshot c (some d) w pvcName opt o s).2.clusters c).claims ⟨w.namespace_, pvcName⟩ =
      some claim) :
    ∃ snap, (snapshotsOf w (s.clusters d)).find? (fun snap => snap.readyToUse) = some snap ∧
      claim.dataSource = some snap.key.name := by
  unfold ensurePVCFromSnapshot at created
  dsimp only at created
  split at created
  · simp [missing] at created
  · simp only [bind_run, getObject, fetch_still still, missing] at created
    cases refused : o.fault s.calls (.get c .claims ⟨w.namespace_, pvcName⟩) with
    | some fault => simp [refused, fault.error_reason, missing] at created
    | none =>
      simp only [refused, Option.elim_none, found, notFound, ne_eq, not_true_eq_false, ↓reduceIte, bind_run] at created
      -- The state after the get differs in the call count only.
      have kept := latestReady_clusters still (some d) (w := w) { s with calls := s.calls + 1 }
      cases answer : (latestReady (some d) w o { s with calls := s.calls + 1 }).1 with
      | error text => simp [answer, kept, missing] at created
      | ok latest =>
        obtain ⟨ready, name⟩ := latest
        simp only [answer] at created
        split at created
        · simp [kept, missing] at created
        · rename_i usable
          obtain rfl : ready = true := by simp_all
          obtain ⟨snap, first, rfl⟩ := latestReady_first still answer
          refine ⟨snap, first, ?_⟩
          have sized := Moves.clusters_eq still (moves_restoreSize (some d) ⟨w.namespace_, snap.key.name⟩)
            (latestReady (some d) w o { s with calls := s.calls + 1 }).2
          have absent : (((restoreSize (some d) ⟨w.namespace_, snap.key.name⟩ o
              (latestReady (some d) w o { s with calls := s.calls + 1 }).2).2.clusters c).claims
                ⟨w.namespace_, pvcName⟩) = none := by rw [sized, kept, missing]
          simp only [bind_run] at created
          generalize ran : createClaim c ⟨w.namespace_, pvcName⟩ _ o _ = answer at created
          have stored : (answer.2.clusters c).claims ⟨w.namespace_, pvcName⟩ = some claim := by
            cases told : answer.1 with
            | ok done => simpa [told] using created
            | error refused =>
              simp only [told] at created
              split at created <;> exact created
          have fresh := createClaim_missing still absent (by rw [ran]; exact stored)
          rw [fresh]
          rfl

/-- The first ready snapshot of a workload in the whole list. -/
private theorem find?_snapshotsOf_iff {cluster : Cluster} {snap : VolumeSnapshot} :
    (snapshotsOf w cluster).find? (fun snap => snap.readyToUse) = some snap ↔
      (snap.carries w ∧ snap.readyToUse = true) ∧ ∃ before after, cluster.snapshots = before ++ snap :: after ∧
        ∀ other ∈ before, other.carries w → other.readyToUse = false := by
  rw [snapshotsOf, List.find?_filter, List.find?_eq_some_iff_append]
  refine and_congr (by simp [VolumeSnapshot.carries]) (exists_congr fun before => exists_congr fun after =>
    and_congr_right fun _ => forall₂_congr fun other _ => ?_)
  by_cases carries : other.carries w
  · have labels := carries
    unfold VolumeSnapshot.carries at labels
    simp [carries, labels]
  · have labels := carries
    unfold VolumeSnapshot.carries at labels
    simp [carries, labels]

/-- A claim that is created is a copy of its latest ready snapshot exactly if that snapshot
is listed before every other ready one of the workload. -/
theorem ensurePVCFromSnapshot_latest_iff (still : o.Still) {c d : ClusterId} {pvcName : String}
    {opt : RehydrateOptions} {s : World} {claim : Claim}
    (distinct : ((s.clusters d).snapshots.map VolumeSnapshot.key).Nodup)
    (missing : (s.clusters c).claims ⟨w.namespace_, pvcName⟩ = none)
    (created : ((ensurePVCFromSnapshot c (some d) w pvcName opt o s).2.clusters c).claims ⟨w.namespace_, pvcName⟩ =
      some claim) :
    (∃ snap, claim.dataSource = some snap.key.name ∧
        LatestCopy (s.clusters d).snapshots ⟨w.namespace_, pvcName⟩ snap) ↔
      ListedFirst (s.clusters d).snapshots w ⟨w.namespace_, pvcName⟩ := by
  obtain ⟨chosen, first, source⟩ := ensurePVCFromSnapshot_created still missing created
  obtain ⟨⟨carries, _⟩, before, after, split, earlier⟩ := find?_snapshotsOf_iff.mp first
  constructor
  · rintro ⟨snap, named, latest⟩
    -- Within the namespace the name tells the snapshot.
    have sameKey : snap.key = chosen.key := by
      have sameName : snap.key.name = chosen.key.name := by simpa [named] using source
      have sameNamespace : snap.key.namespace_ = chosen.key.namespace_ := latest.2.1.1.trans carries.1.symm
      cases here : snap.key
      cases there : chosen.key
      simp_all
    have same : snap = chosen := List.inj_on_of_nodup_map distinct latest.1 (by simp [split]) sameKey
    exact ⟨before, chosen, after, split, same ▸ latest, carries, earlier⟩
  · rintro ⟨before', snap, after', split', latest, carries', earlier'⟩
    have found := find?_snapshotsOf_iff.mpr ⟨⟨carries', latest.2.1.2.2.2⟩, before', after', split', earlier'⟩
    obtain rfl : chosen = snap := Option.some.inj (first.symm.trans found)
    exact ⟨chosen, source, latest⟩

end

/-- Two volumes, each snapshotted on two days; the server lists them by name. -/
def journalSet : Workload :=
  { namespace_ := "shop", name := "journal", kind := "StatefulSet", cls := .genericPVC, pvcNames := ["data", "wal"] }

def journalSnapshot (pvc day : String) (taken : Time) : VolumeSnapshot :=
  { key := ⟨"shop", "portage-journal-" ++ pvc ++ "-" ++ day⟩, workloadName := "journal", workloadKind := "StatefulSet"
    readyToUse := true, pvc, source := pvc, taken }

def journalSnapshots : List VolumeSnapshot :=
  [journalSnapshot "data" "20260105-0200" 1, journalSnapshot "data" "20260106-0200" 2,
   journalSnapshot "wal" "20260105-0200" 1, journalSnapshot "wal" "20260106-0200" 2]

def journalWorld (snapshots : List VolumeSnapshot) : World :=
  { clusters := fun _ => { snapshots }
    action := { spec := { type := .restore, policyRef := "shop" } } }

/-- The missing journal is restored from the data volume, and from the older copy of it. -/
theorem ensurePVCFromSnapshot_wal : ∃ claim,
    ((ensurePVCFromSnapshot 0 (some 0) journalSet "wal" {} {} (journalWorld journalSnapshots)).2.clusters 0).claims
      ⟨"shop", "wal"⟩ = some claim ∧
    claim.dataSource = some "portage-journal-data-20260105-0200" ∧
    ¬ ∃ snap, claim.dataSource = some snap.key.name ∧ LatestCopy journalSnapshots ⟨"shop", "wal"⟩ snap := by
  refine ⟨_, rfl, by decide, ?_⟩
  rintro ⟨snap, named, member, copies, _⟩
  have other : ∀ snap ∈ journalSnapshots, snap.pvc = "wal" → snap.key.name ≠ "portage-journal-data-20260105-0200" := by
    decide
  exact other snap member copies.2.1 (Option.some.inj named).symm

/-- Listed the other way, with the later copies first, the same snapshots restore the journal. -/
theorem ensurePVCFromSnapshot_reversed : ∃ claim,
    ((ensurePVCFromSnapshot 0 (some 0) journalSet "wal" {} {} (journalWorld journalSnapshots.reverse)).2.clusters 0).claims
      ⟨"shop", "wal"⟩ = some claim ∧
    ∃ snap, claim.dataSource = some snap.key.name ∧ LatestCopy journalSnapshots.reverse ⟨"shop", "wal"⟩ snap := by
  have first : ListedFirst journalSnapshots.reverse journalSet ⟨"shop", "wal"⟩ := by
    refine ⟨[], journalSnapshot "wal" "20260106-0200" 2, _, rfl, ⟨by simp [journalSnapshots], ⟨rfl, rfl, rfl, rfl⟩, ?_⟩,
      ⟨rfl, rfl, rfl⟩, by simp⟩
    have none : ∀ other ∈ journalSnapshots.reverse, other.taken ≤ 2 := by decide
    exact fun other member _ => none other member
  have created : ((ensurePVCFromSnapshot 0 (some 0) journalSet "wal" {} {}
      (journalWorld journalSnapshots.reverse)).2.clusters 0).claims ⟨"shop", "wal"⟩ =
        some (claimFromSnapshot journalSet "wal" "portage-journal-wal-20260106-0200" "10Gi" {}) := rfl
  exact ⟨_, created, (ensurePVCFromSnapshot_latest_iff (fun _ _ => rfl) (by decide) rfl created).mpr first⟩

end Portage
