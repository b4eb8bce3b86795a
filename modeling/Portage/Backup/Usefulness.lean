import Mathlib.Algebra.BigOperators.Group.List.Basic
import Mathlib.Data.List.Induction
import Portage.Go.Text
import Portage.Policy.Status

/-! What a backup is worth: the judgement of one artifact by its size and its files, and
the result of a Backup Action from the artifacts of all workloads. -/
namespace Portage.Backup

open Go

/-- The floor for a database dump; failed ones held certificates only. -/
def minLogicalBytes : Int := 64 * 1024

/-- The floor for a volume tree. -/
def minVolumeBytes : Int := 64 * 1024

structure File where
  path : String
  sizeBytes : Int
  deriving DecidableEq, Repr

/-- What is known about a candidate artifact. -/
structure Input where
  sizeBytes : Int := 0
  files : List File := []
  snapshotReady : Bool := false
  hasSnapshot : Bool := false
  deriving DecidableEq, Repr

/-- What a mover reports of a backup. -/
structure Artifact where
  id : String := ""
  mover : String := ""
  sizeBytes : Int := 0
  useful : Bool := false
  message : String := ""
  deriving DecidableEq, Repr

/-- `filepath.Base`. -/
def base (path : String) : String :=
  if path = "" then "."
  else
    let kept := trimRight '/' path.toList
    if kept = [] then "/" else String.ofList (kept.reverse.takeWhile (· != '/')).reverse

def looksLikeDump (path : String) : Bool :=
  let name := toLower (base path)
  [".sql", ".rdb", ".archive.gz", ".archive", ".dump", ".bak"].any (hasSuffix name) ||
    contains (toLower path) "prebackup"

/-- The largest dump, the first of those. -/
def bestDump (files : List File) : Option File :=
  files.foldl (fun best file =>
    if !looksLikeDump file.path then best
    else
      match best with
      | none => some file
      | some other => if file.sizeBytes > other.sizeBytes then some file else best) none

/-- The sum of the sizes, in the width of the field. -/
def totalBytes (files : List File) : Int :=
  files.foldl (fun total file => (total + file.sizeBytes + 2 ^ 63) % 2 ^ 64 - 2 ^ 63) 0

def logical (input : Input) (size : Int) : Artifact :=
  match bestDump input.files with
  | some dump =>
    if dump.sizeBytes ≥ minLogicalBytes then
      { useful := true, sizeBytes := dump.sizeBytes, message := "logical dump " ++ dump.path }
    else { sizeBytes := size, message := "logical dump too small (certs-only class): " ++ dump.path }
  | none =>
    if size ≥ minLogicalBytes then { useful := true, sizeBytes := size, message := "logical size floor met" }
    else if size > 0 then
      { sizeBytes := size, message := "logical backup below size floor (likely empty or certs-only)" }
    else if input.hasSnapshot && input.snapshotReady then
      { sizeBytes := size, message := "snapshot ready but no logical dump size; refusing (RequireUseful)" }
    else { sizeBytes := size, message := "no useful logical dump" }

/-- Snapshots do not tell their size, so one that is ready counts for plain volumes. -/
def volume (cls : WorkloadClass) (input : Input) (size : Int) : Artifact :=
  if size ≥ minVolumeBytes then { useful := true, sizeBytes := size, message := "volume size floor met" }
  else if input.hasSnapshot && input.snapshotReady && size == 0 &&
      (cls == .genericPVC || cls == .unknownStateful) then
    { useful := true, sizeBytes := size, message := "CSI snapshot ReadyToUse (size unknown)" }
  else if size > 0 then { sizeBytes := size, message := "volume backup below size floor" }
  else { sizeBytes := size, message := "no useful volume artifact" }

/-- Whether an artifact holds data that can be restored. -/
def evaluate (cls : WorkloadClass) (input : Input) : Artifact :=
  let size := if input.sizeBytes = 0 ∧ input.files ≠ [] then totalBytes input.files else input.sizeBytes
  match cls with
  | .stateless => { useful := true, sizeBytes := size, message := "stateless" }
  | .clusterObjects =>
    if size = 0 ∧ input.files = [] then { sizeBytes := size, message := "no object-graph snapshot" }
    else { useful := true, sizeBytes := size, message := "object-graph snapshot" }
  | .sqlLogical | .kvLogical => logical input size
  | _ => volume cls input size

/-- Evaluate with the class of a classified workload. -/
def forWorkload (w : Workload) (input : Input) : Artifact := evaluate w.cls input

example : (evaluate .sqlLogical { sizeBytes := 11800, hasSnapshot := true, snapshotReady := true }).useful = false := by
  decide +kernel

/-! ### The verdict on a logical backup -/

/-- A dump among the files that no other dump there exceeds. -/
def LargestDump (files : List File) (dump : File) : Prop :=
  (dump ∈ files ∧ looksLikeDump dump.path = true) ∧
    ∀ file ∈ files, looksLikeDump file.path = true → file.sizeBytes ≤ dump.sizeBytes

def NoDump (files : List File) : Prop := ∀ file ∈ files, looksLikeDump file.path = false

/-- What the search for the largest dump knows after the files it has seen. -/
def Best (files : List File) : Option File → Prop
  | none => NoDump files
  | some dump => LargestDump files dump

theorem bestDump_snoc (files : List File) (file : File) :
    bestDump (files ++ [file])
      = if looksLikeDump file.path && (bestDump files).all (·.sizeBytes < file.sizeBytes) then some file
        else bestDump files := by
  rw [bestDump, List.foldl_append, ← bestDump, List.foldl_cons, List.foldl_nil]
  cases looksLikeDump file.path with
  | false => rfl
  | true =>
    cases bestDump files with
    | none => rfl
    | some dump =>
      by_cases larger : file.sizeBytes > dump.sizeBytes
      · simp [larger]
      · simp [larger]

/-- A new file that is no larger dump changes nothing. -/
private theorem best_snoc_keep {files : List File} {best : Option File} (seen : Best files best) {file : File}
    (kept : looksLikeDump file.path = true → ∃ dump, best = some dump ∧ file.sizeBytes ≤ dump.sizeBytes) :
    Best (files ++ [file]) best := by
  cases best with
  | none =>
    intro other member
    rcases List.mem_append.mp member with old | new
    · exact seen other old
    · rw [List.mem_singleton.mp new]
      cases isDump : looksLikeDump file.path with
      | false => rfl
      | true =>
        obtain ⟨_, none, _⟩ := kept isDump
        cases none
  | some dump =>
    refine ⟨⟨List.mem_append_left _ seen.1.1, seen.1.2⟩, ?_⟩
    intro other member isDump
    rcases List.mem_append.mp member with old | new
    · exact seen.2 other old isDump
    · rw [List.mem_singleton.mp new] at isDump ⊢
      obtain ⟨_, same, smaller⟩ := kept isDump
      cases same
      exact smaller

/-- A new dump larger than the best so far takes its place. -/
private theorem best_snoc_replace {files : List File} {best : Option File} (seen : Best files best) {file : File}
    (isDump : looksLikeDump file.path = true) (larger : ∀ dump, best = some dump → dump.sizeBytes < file.sizeBytes) :
    Best (files ++ [file]) (some file) := by
  refine ⟨⟨List.mem_append_right _ (List.mem_singleton_self file), isDump⟩, ?_⟩
  intro other member otherDump
  rcases List.mem_append.mp member with old | new
  · cases best with
    | none =>
      rw [seen other old] at otherDump
      cases otherDump
    | some dump => exact Int.le_trans (seen.2 other old otherDump) (Int.le_of_lt (larger dump rfl))
  · obtain rfl := List.mem_singleton.mp new
    exact Int.le_refl _

theorem best_bestDump (files : List File) : Best files (bestDump files) := by
  induction files using List.reverseRecOn with
  | nil =>
    intro file member
    cases member
  | append_singleton front file seen =>
    rw [bestDump_snoc]
    cases replaces : looksLikeDump file.path && (bestDump front).all (·.sizeBytes < file.sizeBytes) with
    | true =>
      rw [if_pos rfl]
      obtain ⟨isDump, larger⟩ := Bool.and_eq_true_iff.mp replaces
      refine best_snoc_replace seen isDump ?_
      intro dump best
      simpa [best] using larger
    | false =>
      rw [if_neg Bool.false_ne_true]
      refine best_snoc_keep seen ?_
      intro isDump
      cases best : bestDump front with
      | none => simp [isDump, best] at replaces
      | some dump =>
        refine ⟨dump, rfl, ?_⟩
        simpa [isDump, best] using replaces

/-- The size of the largest dump is settled by which dumps there are. -/
theorem bestDump_size_congr {first second : List File}
    (same : ∀ file, looksLikeDump file.path = true → (file ∈ first ↔ file ∈ second)) :
    (bestDump first).map File.sizeBytes = (bestDump second).map File.sizeBytes := by
  have left := best_bestDump first
  have right := best_bestDump second
  cases inFirst : bestDump first with
  | none =>
    rw [inFirst] at left
    cases inSecond : bestDump second with
    | none => rfl
    | some dump =>
      rw [inSecond] at right
      have absent := left dump ((same dump right.1.2).mpr right.1.1)
      rw [right.1.2] at absent
      cases absent
  | some dump =>
    rw [inFirst] at left
    have inside := (same dump left.1.2).mp left.1.1
    cases inSecond : bestDump second with
    | none =>
      rw [inSecond] at right
      have absent := right dump inside
      rw [left.1.2] at absent
      cases absent
    | some other =>
      rw [inSecond] at right
      have below := right.2 dump inside left.1.2
      have above := left.2 other ((same other right.1.2).mpr right.1.1) right.1.2
      exact congrArg some (Int.le_antisymm below above)

/-- Sizes that no addition takes out of the width of the field. -/
structure Input.Measured (input : Input) : Prop where
  size : 0 ≤ input.sizeBytes
  files : ∀ file ∈ input.files, 0 ≤ file.sizeBytes
  total : (input.files.map File.sizeBytes).sum < 2 ^ 63

theorem totalBytes_eq {files : List File} (sizes : ∀ file ∈ files, 0 ≤ file.sizeBytes)
    (total : (files.map File.sizeBytes).sum < 2 ^ 63) :
    totalBytes files = (files.map File.sizeBytes).sum ∧ 0 ≤ totalBytes files := by
  induction files using List.reverseRecOn with
  | nil => exact ⟨rfl, Int.le_refl 0⟩
  | append_singleton front file ih =>
    have last : 0 ≤ file.sizeBytes := sizes file (by simp)
    rw [List.map_append, List.sum_append, List.map_singleton, List.sum_singleton] at total ⊢
    obtain ⟨sum, positive⟩ := ih (fun other member => sizes other (by simp [member])) (by omega)
    have step : totalBytes (front ++ [file])
        = (totalBytes front + file.sizeBytes + 2 ^ 63) % 2 ^ 64 - 2 ^ 63 := by
      rw [totalBytes, List.foldl_append]
      rfl
    rw [step, sum]
    omega

/-- The size of the artifact: as measured, or that of all its files together. -/
def Input.total (input : Input) : Int :=
  if input.sizeBytes = 0 then (input.files.map File.sizeBytes).sum else input.sizeBytes

theorem Input.Measured.size_eq {input : Input} (measured : input.Measured) :
    (if input.sizeBytes = 0 ∧ input.files ≠ [] then totalBytes input.files else input.sizeBytes)
      = input.total := by
  unfold Input.total
  by_cases none : input.files = []
  · simp [none]
  · by_cases zero : input.sizeBytes = 0
    · simp [none, zero, (totalBytes_eq measured.files measured.total).1]
    · simp [zero]

theorem evaluate_of_logical {cls : WorkloadClass} (isLogical : cls = .sqlLogical ∨ cls = .kvLogical)
    (input : Input) :
    evaluate cls input = logical input
      (if input.sizeBytes = 0 ∧ input.files ≠ [] then totalBytes input.files else input.sizeBytes) := by
  rcases isLogical with rfl | rfl <;> rfl

/-- The largest dump decides alone where there is one. -/
theorem logical_useful (input : Input) (size : Int) :
    (logical input size).useful
      = decide (minLogicalBytes ≤ ((bestDump input.files).map File.sizeBytes).getD size) := by
  unfold logical
  cases bestDump input.files with
  | none =>
    by_cases large : size ≥ minLogicalBytes
    · simp [large]
    · simp only [large, if_false, Option.map_none, Option.getD_none, decide_false]
      split
      · rfl
      · split <;> rfl
  | some dump =>
    by_cases large : dump.sizeBytes ≥ minLogicalBytes <;> simp [large]

theorem logical_sizeBytes (input : Input) (size : Int) :
    (logical input size).sizeBytes
      = if (logical input size).useful then ((bestDump input.files).map File.sizeBytes).getD size else size := by
  rw [logical_useful]
  unfold logical
  cases bestDump input.files with
  | none =>
    by_cases large : size ≥ minLogicalBytes
    · simp [large]
    · simp only [large, if_false, Option.map_none, Option.getD_none, ite_self]
      split
      · rfl
      · split <;> rfl
  | some dump =>
    by_cases large : dump.sizeBytes ≥ minLogicalBytes <;> simp [large]

/-- What a logical backup has to show: a dump that reaches the floor, or, where no file
looks like one, a total size that does. -/
def Input.Suffices (input : Input) : Prop :=
  (∃ dump, LargestDump input.files dump ∧ minLogicalBytes ≤ dump.sizeBytes) ∨
    (NoDump input.files ∧ minLogicalBytes ≤ input.total)

theorem Input.suffices_iff (input : Input) :
    input.Suffices ↔ minLogicalBytes ≤ ((bestDump input.files).map File.sizeBytes).getD input.total := by
  have found := best_bestDump input.files
  cases best : bestDump input.files with
  | none =>
    rw [best] at found
    constructor
    · rintro (⟨dump, largest, _⟩ | ⟨_, enough⟩)
      · have absent := found dump largest.1.1
        rw [largest.1.2] at absent
        cases absent
      · exact enough
    · intro enough
      exact .inr ⟨found, enough⟩
  | some dump =>
    rw [best] at found
    constructor
    · rintro (⟨other, largest, enough⟩ | ⟨noDump, _⟩)
      · exact Int.le_trans enough (found.2 other largest.1.1 largest.1.2)
      · have absent := noDump dump found.1.1
        rw [found.1.2] at absent
        cases absent
    · intro enough
      exact .inl ⟨dump, found, enough⟩

theorem Input.Measured.perm {input : Input} (measured : input.Measured) {files : List File}
    (order : files.Perm input.files) :
    ({ input with files } : Input).Measured ∧ ({ input with files } : Input).total = input.total := by
  have sum : (files.map File.sizeBytes).sum = (input.files.map File.sizeBytes).sum :=
    (order.map File.sizeBytes).sum_eq
  refine ⟨⟨measured.size, fun file member => measured.files file (order.mem_iff.mp member), ?_⟩, ?_⟩
  · rw [sum]
    exact measured.total
  · simp only [Input.total, sum]

/-- A logical backup is judged by its largest dump alone, or by its total size where no file
looks like a dump: neither the snapshot, nor what else lies beside a dump, nor the order of
the files has a say. -/
theorem evaluate_logical {cls : WorkloadClass} (isLogical : cls = .sqlLogical ∨ cls = .kvLogical)
    {input : Input} (measured : input.Measured) :
    ((evaluate cls input).useful = true ↔ input.Suffices) ∧
      (∀ ready taken : Bool,
        (evaluate cls { input with snapshotReady := ready, hasSnapshot := taken }).useful
          = (evaluate cls input).useful) ∧
      (∀ files : List File, ¬ NoDump input.files →
        (∀ file, looksLikeDump file.path = true → (file ∈ files ↔ file ∈ input.files)) →
        (evaluate cls { input with files }).useful = (evaluate cls input).useful) ∧
      ∀ files : List File, files.Perm input.files →
        (evaluate cls { input with files }).useful = (evaluate cls input).useful ∧
          (evaluate cls { input with files }).sizeBytes = (evaluate cls input).sizeBytes := by
  refine ⟨?_, ?_, ?_, ?_⟩
  · rw [evaluate_of_logical isLogical, measured.size_eq, logical_useful, decide_eq_true_iff,
      Input.suffices_iff]
  · intro ready taken
    rw [evaluate_of_logical isLogical, evaluate_of_logical isLogical, logical_useful, logical_useful]
  · intro files dumped same
    rw [evaluate_of_logical isLogical, evaluate_of_logical isLogical, logical_useful, logical_useful,
      bestDump_size_congr same]
    cases best : bestDump input.files with
    | none =>
      have found := best_bestDump input.files
      rw [best] at found
      exact absurd found dumped
    | some dump => rfl
  · intro files order
    obtain ⟨other, total⟩ := measured.perm order
    have size := bestDump_size_congr fun file _ => order.mem_iff (a := file)
    have useful : (evaluate cls { input with files }).useful = (evaluate cls input).useful := by
      rw [evaluate_of_logical isLogical, evaluate_of_logical isLogical, other.size_eq, measured.size_eq,
        total, logical_useful, logical_useful, size]
    refine ⟨useful, ?_⟩
    rw [evaluate_of_logical isLogical, evaluate_of_logical isLogical, other.size_eq, measured.size_eq,
      total] at useful ⊢
    rw [logical_sizeBytes, logical_sizeBytes, useful, size]

/-- A tiny dump inside a large live directory is no backup. -/
def liveDatadir : Input :=
  { files := [⟨"pgdata/base/1", 900000⟩, ⟨"prebackup/app.sql", 12000⟩], hasSnapshot := true,
    snapshotReady := true }

theorem evaluate_logical_liveDatadir :
    (evaluate .sqlLogical liveDatadir).useful = false ∧
      (evaluate .sqlLogical { liveDatadir with files := liveDatadir.files.reverse }).useful = false := by
  have measured : liveDatadir.Measured :=
    ⟨by decide, by decide, by decide⟩
  have judged := evaluate_logical (.inl rfl : WorkloadClass.sqlLogical = .sqlLogical ∨ _) measured
  have useless : (evaluate .sqlLogical liveDatadir).useful = false := by decide +kernel
  exact ⟨useless, ((judged.2.2.2 _ (List.reverse_perm _)).1).trans useless⟩

def fromArtifact (w : Workload) (useful : Bool) (size : Int) (message id : String) : ArtifactHealth :=
  { workload := w.key, useful, sizeBytes := size, artifactID := id, message }

/-! ### The result of a Backup Action -/

def workloadStatus (artifacts : List ArtifactHealth) (w : Workload) : WorkloadActionStatus :=
  let status : WorkloadActionStatus :=
    { name := w.name, key := w.key, cls := w.cls, engine := w.engine, ready := true }
  let status :=
    match (GoMap.indexBy ArtifactHealth.workload artifacts).find? w.key with
    | some a => { status with probeOK := a.useful, probe := a.message, message := a.message }
    | none => status
  if w.cls = .stateless then { status with probeOK := true, probe := "stateless" } else status

/-- A Backup succeeds when every stateful workload has a useful artifact; a job that
completed is not enough. -/
def advance (inventory : List Workload) (artifacts : List ArtifactHealth) (now : Time) : ActionResult :=
  let workloads := inventory.map (workloadStatus artifacts)
  let (ok, missing) := healthy inventory artifacts
  if !ok then
    { phase := .failed, workloads, terminal := true
      message := match missing with
        | first :: _ => "backup not useful: " ++ first
        | [] => "backup not useful" }
  else
    { phase := .succeeded, message := "all stateful artifacts useful", workloads, terminal := true
      attestation := some { recordedAt := now, source := "controller", workloads } }

end Portage.Backup
