import Portage.Go.Format
import Portage.Kube.Sweep
import Portage.Movers.DataPath
import Portage.Movers.VolSync.Destination

/-! Which mover Jobs go when the Jobs of one workload are deleted. A Job is recognised by
the name of the workload's pair in its own name. -/
namespace Portage.VolSync

open Go Kube Process Program

def jobList : ObjectList Job where
  resource := .jobs
  key := Job.key
  items := Cluster.jobs
  put jobs cluster := { cluster with jobs }
  items_put _ _ := rfl

/-! ### Names of Jobs -/

/-- The name that VolSync gives the Job of a pair, on either side. -/
def moverJobName (side : Side) (rsName : String) : String :=
  (match side with | .source => "volsync-src-" | .dest => "volsync-dst-") ++ rsName

/-- Whether the Jobs of `other` are taken for Jobs of `name`. -/
def takenFor (name other : String) : Bool :=
  hasPrefix other (name ++ "-") || contains other ("portage-" ++ name ++ "-") || hasSuffix other ("portage-" ++ name)

private theorem moverJobName_toList (side : Side) (name : String) : ∃ start : List Char, 'p' ∉ start ∧
    (moverJobName side ("portage-" ++ name)).toList = start ++ 'p' :: ("ortage-".toList ++ name.toList) := by
  cases side with
  | source => exact ⟨"volsync-src-".toList, by decide, by simp [moverJobName]⟩
  | dest => exact ⟨"volsync-dst-".toList, by decide, by simp [moverJobName]⟩

/-- The name of a pair ends the name of a Job exactly if the Job is of that workload, or of
one whose name ends in the name of the pair. -/
theorem hasSuffix_moverJobName (side : Side) (name other : String) :
    hasSuffix (moverJobName side ("portage-" ++ other)) ("portage-" ++ name) = true ↔
      other = name ∨ hasSuffix other ("portage-" ++ name) = true := by
  obtain ⟨start, plain, shape⟩ := moverJobName_toList side other
  have pair : ("portage-" ++ name).toList = 'p' :: ("ortage-".toList ++ name.toList) := by simp
  simp only [hasSuffix, List.isSuffixOf_iff_suffix, shape, pair]
  rw [suffix_skip plain, List.suffix_cons_iff, suffix_skip (by decide)]
  refine or_congr_left ⟨fun same => ?_, fun same => by rw [same]⟩
  simpa [String.toList_inj, eq_comm] using same

theorem contains_moverJobName (side : Side) (name other : String) :
    contains (moverJobName side ("portage-" ++ other)) ("portage-" ++ name ++ "-") = true ↔
      hasPrefix other (name ++ "-") = true ∨ contains other ("portage-" ++ name ++ "-") = true := by
  obtain ⟨start, plain, shape⟩ := moverJobName_toList side other
  have pair : ("portage-" ++ name ++ "-").toList = 'p' :: ("ortage-".toList ++ (name ++ "-").toList) := by simp
  simp only [contains_iff, hasPrefix_iff, shape, pair]
  rw [infix_skip plain, List.infix_cons_iff, infix_skip (by decide), List.cons_prefix_cons, List.prefix_append_right_inj]
  simp

/-- The test that a Job is deleted by, on Jobs with the names that VolSync gives. -/
theorem taken_moverJobName (side : Side) (name other : String) :
    (isVolSyncMoverJob (moverJobName side ("portage-" ++ other)) &&
      (contains (moverJobName side ("portage-" ++ other)) ("portage-" ++ name ++ "-") ||
        hasSuffix (moverJobName side ("portage-" ++ other)) ("portage-" ++ name))) = true ↔
      other = name ∨ takenFor name other = true := by
  have mover : isVolSyncMoverJob (moverJobName side ("portage-" ++ other)) = true := by
    cases side <;> simp [isVolSyncMoverJob, hasPrefix_iff, moverJobName]
  rw [mover, Bool.true_and, Bool.or_eq_true, hasSuffix_moverJobName, contains_moverJobName]
  simp only [takenFor, Bool.or_eq_true]
  tauto

/-! ### Deleting the Jobs of a workload -/

/-- A mover Job of a workload in a namespace. -/
def MovesFor (ns name : String) (job : Job) : Prop := ∃ side, job.key = ⟨ns, moverJobName side ("portage-" ++ name)⟩

private theorem deleteWorkloadMoverJobs_eq {c : ClusterId} {ns : String} (inside : ns ≠ "") (w : Workload) :
    deleteWorkloadMoverJobs (some c) ns (pairName w) = jobList.sweep .dest c ns fun job =>
      isVolSyncMoverJob job.key.name &&
        (contains job.key.name (pairName w ++ "-") || hasSuffix job.key.name (pairName w)) := by
  have named : pairName w ≠ "" := by
    intro empty
    have texts := congrArg String.toList empty
    simp [pairName] at texts
  simp only [deleteWorkloadMoverJobs, inside, named, or_self, ↓reduceIte]
  refine congrArg (listJobs c ns >>= ·) (funext fun answer => ?_)
  cases answer <;> rfl

/-- Where every call is served, exactly the mover Jobs of the workload go and those of the
others stay, if and only if no other workload with a mover Job has a name that is taken for
it. -/
theorem deleteWorkloadMoverJobs_iff {o : Oracle} (serene : o.Serene) {c : ClusterId} {ns : String} (inside : ns ≠ "")
    {s : World} (distinct : ((s.clusters c).jobs.map Job.key).Nodup) (w : Workload) (workloads : List String) :
    ((∀ job ∈ (s.clusters c).jobs, MovesFor ns w.name job →
        job ∉ ((deleteWorkloadMoverJobs (some c) ns (pairName w) o s).2.clusters c).jobs) ∧
      ∀ other ∈ workloads, other ≠ w.name → ∀ job ∈ (s.clusters c).jobs, MovesFor ns other job →
        job ∈ ((deleteWorkloadMoverJobs (some c) ns (pairName w) o s).2.clusters c).jobs) ↔
      ∀ other ∈ workloads, other ≠ w.name → (∃ job ∈ (s.clusters c).jobs, MovesFor ns other job) →
        takenFor w.name other = false := by
  rw [deleteWorkloadMoverJobs_eq inside]
  have goes {job : Job} {other : String} (member : job ∈ (s.clusters c).jobs) (moves : MovesFor ns other job)
      (taken : other = w.name ∨ takenFor w.name other = true) :
      job ∉ ((jobList.sweep .dest c ns (fun job => isVolSyncMoverJob job.key.name &&
        (contains job.key.name (pairName w ++ "-") || hasSuffix job.key.name (pairName w))) o s).2.clusters c).jobs := by
    obtain ⟨side, named⟩ := moves
    have listed : jobList.key job = ⟨ns, moverJobName side ("portage-" ++ other)⟩ := named
    refine jobList.sweep_served serene.still (fun n => serene.served n _ rfl) (fun n key => serene.served n _ (by simp))
      member (by rw [listed]) ?_
    simpa [named, pairName] using (taken_moverJobName side w.name other).mpr taken
  constructor
  · rintro ⟨_, kept⟩ other known different ⟨job, member, moves⟩
    by_contra taken
    exact goes member moves (.inr (by simpa using taken)) (kept other known different job member moves)
  · intro apart
    refine ⟨fun job member moves => goes member moves (.inl rfl), fun other known different job member moves => ?_⟩
    by_contra gone
    have free := apart other known different ⟨job, member, moves⟩
    obtain ⟨side, named⟩ := moves
    have passes := (jobList.sweep_gone serene.still distinct member gone).2
    have taken := (taken_moverJobName side w.name other).mp (by simpa [named, pairName] using passes)
    exact taken.elim different (by simp [free])

def dbWorkload : Workload :=
  { namespace_ := "shop", name := "db", kind := "StatefulSet", cls := .genericPVC, pvcNames := ["data-db-0"] }

/-- A destination with a mover Job for each of some workloads. -/
def moverWorld (names : List String) : World :=
  { clusters := fun _ => { jobs := names.map fun name => { key := ⟨"shop", moverJobName .dest ("portage-" ++ name)⟩ } }
    action := { spec := { type := .replicate, policyRef := "shop" } } }

/-- The names of the Jobs that are left after those of `db` were deleted. -/
def leftAfterDb (names : List String) : List String :=
  ((deleteWorkloadMoverJobs (some 0) "shop" (pairName dbWorkload) {} (moverWorld names)).2.clusters 0).jobs.map
    fun job => job.key.name

def cacheJob : Job := { key := ⟨"shop", moverJobName .dest ("portage-" ++ "cache")⟩ }

/-- The Job of `cache` stays when the one of `db` goes. -/
theorem deleteWorkloadMoverJobs_cache :
    cacheJob ∈ ((moverWorld ["db", "cache"]).clusters 0).jobs ∧
    cacheJob ∈ ((deleteWorkloadMoverJobs (some 0) "shop" (pairName dbWorkload) {}
      (moverWorld ["db", "cache"])).2.clusters 0).jobs := by
  have distinct : (((moverWorld ["db", "cache"]).clusters 0).jobs.map Job.key).Nodup := by decide
  have free : ∀ other ∈ ["db", "cache"], other ≠ dbWorkload.name →
      (∃ job ∈ ((moverWorld ["db", "cache"]).clusters 0).jobs, MovesFor "shop" other job) →
      takenFor dbWorkload.name other = false := by
    intro other member different _
    have every : ∀ other ∈ ["db", "cache"], other ≠ dbWorkload.name → takenFor dbWorkload.name other = false := by
      decide
    exact every other member different
  have member : cacheJob ∈ ((moverWorld ["db", "cache"]).clusters 0).jobs := .tail _ (.head _)
  have kept := ((deleteWorkloadMoverJobs_iff serene_default (by decide) distinct dbWorkload ["db", "cache"]).mpr free).2
  exact ⟨member, kept "cache" (by decide) (by decide) cacheJob member ⟨.dest, rfl⟩⟩

/-- With the Job of `db` go those of `db-2` and of `my-portage-db`. -/
theorem deleteWorkloadMoverJobs_others : leftAfterDb ["db", "db-2", "my-portage-db", "cache"] =
    ["volsync-dst-portage-cache"] := by
  decide +kernel

end Portage.VolSync
