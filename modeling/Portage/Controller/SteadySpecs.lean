import Portage.Controller.Live
import Portage.Movers.VolSync.Pairs

/-! Two passes over the same ClusterPair. The order in which a Go map is iterated over is
another one in every pass; what the VolSync and rclone movers render may not depend on it. -/
namespace Portage

open Go Kube VolSync

namespace Go.GoMap

variable {κ ν : Type}

/-- One map, as two iterations over it may meet its entries. -/
inductive Reordered : GoMap κ ν → GoMap κ ν → Prop where
  | nil : Reordered .nil .nil
  | table {entries other : List (κ × ν)} (perm : entries.Perm other) : Reordered (.table entries) (.table other)

/-- The values, in the order of an iteration. -/
def values : GoMap κ ν → List ν
  | .nil => []
  | .table entries => entries.map Prod.snd

theorem Reordered.values_perm {m m' : GoMap κ ν} (reordered : m.Reordered m') : m.values.Perm m'.values := by
  cases reordered with
  | nil => exact .refl _
  | table perm => exact perm.map _

end Go.GoMap

/-- One ClusterPair, as two passes may iterate over its maps. -/
inductive ClusterPair.Reordered (pair : ClusterPair) : ClusterPair → Prop where
  | maps {storage runtime snapshot : GoMap String String} (storages : pair.storageClassMap.Reordered storage)
      (runtimes : pair.runtimeClassMap.Reordered runtime) (snapshots : pair.snapshotClassMap.Reordered snapshot) :
      pair.Reordered { pair with storageClassMap := storage, runtimeClassMap := runtime, snapshotClassMap := snapshot }

/-- The snapshot classes that a pair maps to. -/
def snapshotClasses : Option ClusterPair → List String
  | none => []
  | some pair => pair.snapshotClassMap.values

/-! ### What a mover renders -/

namespace VolSync

/-- A write of `second` over what a write of `first` left, up to the status that VolSync
reports, changes nothing. -/
def CustomKind.KeepsWritten {β : Type} (kind : CustomKind β) (first second : β) : Prop :=
  ∀ cur, kind.keepStatus first cur = cur → kind.written second [cur] = [cur]

theorem CustomKind.keepsWritten_self {β : Type} (kind : CustomKind β) (obj : β) : kind.KeepsWritten obj obj := by
  intro cur kept
  rw [CustomKind.written, List.map_singleton, kept]

/-- A second pass with `second` renders what the first did, and its writes change nothing. -/
structure Mover.Repeats (first second : Mover) : Prop where
  source : ∀ w name pvc, second.source w name pvc = first.source w name pvc ∧
    replicationSources.KeepsWritten (first.source w name pvc) (second.source w name pvc)
  destination : ∀ w name, second.destination w name = first.destination w name ∧
    replicationDestinations.KeepsWritten (first.destination w name) (second.destination w name)

/-- Two settings of a mover that differ in the snapshot class at most. -/
structure Mover.Alike (first second : Mover) : Prop where
  transport : second.transport = first.transport
  destPath : second.destPath = first.destPath
  schedule : second.schedule = first.schedule
  copyMethod : second.copyMethod = first.copyMethod
  objectMover : second.objectMover = first.objectMover
  snapshotClass : second.snapshotClass = "" ↔ first.snapshotClass = ""

namespace Mover.Alike

variable {first second : Mover} (alike : first.Alike second)
include alike

theorem method : second.effectiveCopyMethod = first.effectiveCopyMethod := by
  simp [effectiveCopyMethod, alike.copyMethod, alike.snapshotClass]

theorem trigger : second.effectiveSchedule = first.effectiveSchedule := by
  simp [effectiveSchedule, alike.schedule]

theorem rclone (w : Workload) : second.rcloneSpec w = first.rcloneSpec w := by
  simp [rcloneSpec, objectPath, alike.destPath, alike.method]

/-- Only a restic spec names the snapshot class. -/
theorem restic (same : first.resticCopy = true → second.snapshotClass = first.snapshotClass)
    (stored : first.transport = .objectStore) (other : ¬ first.objectMover = "rclone") (w : Workload) :
    second.resticSpec w = first.resticSpec w ∧ second.destResticSpec w = first.destResticSpec w := by
  have named := same (by simp [resticCopy, stored, other])
  simp [resticSpec, destResticSpec, snapshotClassName, alike.method, named]

theorem repeats (same : first.resticCopy = true → second.snapshotClass = first.snapshotClass) :
    first.Repeats second := by
  have sources (w : Workload) (name pvc : String) : second.source w name pvc = first.source w name pvc := by
    simp only [source, alike.transport, alike.objectMover, alike.trigger, alike.method, alike.rclone]
    split
    · split
      · rfl
      · rw [(alike.restic same ‹_› ‹_› w).1]
    · rfl
  have destinations (w : Workload) (name : String) : second.destination w name = first.destination w name := by
    simp only [destination, alike.transport, alike.objectMover, alike.trigger, alike.rclone]
    split
    · split
      · rfl
      · rw [(alike.restic same ‹_› ‹_› w).2]
    · rfl
  refine ⟨fun w name pvc => ⟨sources w name pvc, ?_⟩, fun w name => ⟨destinations w name, ?_⟩⟩
  · rw [sources]
    exact replicationSources.keepsWritten_self _
  · rw [destinations]
    exact replicationDestinations.keepsWritten_self _

theorem snapshotClass_of_repeats (plain : first.copyMethod = "") (restic : first.resticCopy = true)
    (repeats : first.Repeats second) : second.snapshotClass = first.snapshotClass := by
  obtain ⟨stored, mover⟩ : first.transport = .objectStore ∧ first.objectMover ≠ "rclone" := by
    simpa [resticCopy] using restic
  by_cases empty : first.snapshotClass = ""
  · rw [empty, alike.snapshotClass.mpr empty]
  · have given : second.snapshotClass ≠ "" := fun none => empty (alike.snapshotClass.mp none)
    have specs := congrArg ReplicationSource.transfer
      (repeats.source { namespace_ := "", name := "", kind := "", cls := .genericPVC } "" "").1
    simpa [source, stored, mover, resticSpec, snapshotClassName, effectiveCopyMethod, plain, empty, given,
      alike.transport, alike.objectMover, alike.copyMethod] using specs

end Mover.Alike

end VolSync

/-! ### The registry -/

/-- The registry's movers that write ReplicationSources and ReplicationDestinations. -/
def LiveEnv.copiers (env : LiveEnv) : List VolSync.Mover :=
  env.volsync :: if transportOf env.pair = .objectStore then [env.rclone] else []

/-- In every order of iteration over the maps of its pair the movers render the same. -/
def LiveEnv.Steady (env : LiveEnv) : Prop :=
  ∀ pair, Option.Rel ClusterPair.Reordered env.pair pair →
    List.Forall₂ Mover.Repeats env.copiers ({ env with pair } : LiveEnv).copiers

theorem snapshotClassOf_eq (pair : Option ClusterPair) :
    snapshotClassOf pair = ((snapshotClasses pair).find? (· ≠ "")).getD "" := by
  cases pair with
  | none => rfl
  | some pair =>
    rw [snapshotClassOf, snapshotClasses]
    cases pair.snapshotClassMap with
    | nil => rfl
    | table entries =>
      rw [GoMap.values, List.find?_map]
      rfl

theorem snapshotClassOf_eq_empty_iff (pair : Option ClusterPair) :
    snapshotClassOf pair = "" ↔ ∀ cls ∈ snapshotClasses pair, cls = "" := by
  rw [snapshotClassOf_eq]
  cases found : (snapshotClasses pair).find? (· ≠ "") with
  | none => simpa [List.find?_eq_none] using found
  | some cls =>
    have given : cls ≠ "" := by simpa using List.find?_some found
    simp only [Option.getD_some, given, false_iff]
    exact fun every => given (every cls (List.mem_of_find?_eq_some found))

variable {pair : Option ClusterPair}

theorem snapshotClassOf_mem (known : snapshotClassOf pair ≠ "") : snapshotClassOf pair ∈ snapshotClasses pair := by
  rw [snapshotClassOf_eq] at known ⊢
  cases found : (snapshotClasses pair).find? (· ≠ "") with
  | none =>
    rw [found] at known
    exact absurd rfl known
  | some cls => exact List.mem_of_find?_eq_some found

section
variable {pair other : Option ClusterPair} (reordered : Option.Rel ClusterPair.Reordered pair other)
include reordered

private theorem snapshotClasses_perm : (snapshotClasses pair).Perm (snapshotClasses other) := by
  cases reordered with
  | none => exact .refl _
  | some maps =>
    obtain ⟨-, -, snapshots⟩ := maps
    exact snapshots.values_perm

private theorem transportOf_reordered : transportOf other = transportOf pair ∧ destPath other = destPath pair := by
  cases reordered with
  | none => exact ⟨rfl, rfl⟩
  | some maps =>
    cases maps
    exact ⟨rfl, rfl⟩

end

private theorem volsync_alike {env : LiveEnv} (reordered : Option.Rel ClusterPair.Reordered env.pair pair) :
    env.volsync.Alike ({ env with pair } : LiveEnv).volsync where
  transport := (transportOf_reordered reordered).1
  destPath := (transportOf_reordered reordered).2
  schedule := rfl
  copyMethod := rfl
  objectMover := rfl
  snapshotClass := by
    have perm := snapshotClasses_perm reordered
    rw [LiveEnv.volsync, LiveEnv.volsync, snapshotClassOf_eq_empty_iff, snapshotClassOf_eq_empty_iff]
    simp only [perm.mem_iff]

private theorem rclone_alike {env : LiveEnv} (reordered : Option.Rel ClusterPair.Reordered env.pair pair) :
    env.rclone.Alike ({ env with pair } : LiveEnv).rclone where
  transport := rfl
  destPath := (volsync_alike reordered).destPath
  schedule := rfl
  copyMethod := rfl
  objectMover := rfl
  snapshotClass := (volsync_alike reordered).snapshotClass

/-- Any of the classes may be met first. -/
private theorem exists_reordered {cls : String} (member : cls ∈ snapshotClasses pair) (given : cls ≠ "") :
    ∃ other, Option.Rel ClusterPair.Reordered pair other ∧ snapshotClassOf other = cls := by
  cases pair with
  | none => cases member
  | some pair =>
    have same (m : GoMap String String) : m.Reordered m := by
      cases m with
      | nil => exact .nil
      | table entries => exact .table (.refl entries)
    cases held : pair.snapshotClassMap with
    | nil => simp [snapshotClasses, held, GoMap.values] at member
    | table entries =>
      rw [snapshotClasses, held, GoMap.values] at member
      obtain ⟨entry, inside, rfl⟩ := List.mem_map.mp member
      refine ⟨some { pair with snapshotClassMap := .table (entry :: entries.erase entry) }, .some ?_, ?_⟩
      · exact .maps (same _) (same _) (held ▸ .table (List.perm_cons_erase inside))
      · simp [snapshotClassOf, given]

/-- The movers render the same specs in every order of iteration just if they go without
an object store, or all snapshot classes that the pair maps to are one. -/
theorem LiveEnv.steady_iff (env : LiveEnv) :
    env.Steady ↔ transportOf env.pair ≠ .objectStore ∨
      ∀ first ∈ snapshotClasses env.pair, ∀ second ∈ snapshotClasses env.pair,
        first ≠ "" → second ≠ "" → first = second := by
  constructor
  · intro steady
    by_cases stored : transportOf env.pair = .objectStore
    · have met : ∀ cls ∈ snapshotClasses env.pair, cls ≠ "" → cls = env.volsync.snapshotClass := by
        intro cls member given
        obtain ⟨pair, reordered, rfl⟩ := exists_reordered member given
        exact (volsync_alike reordered).snapshotClass_of_repeats rfl (by simp [Mover.resticCopy, volsync, stored])
          (List.forall₂_cons.mp (steady pair reordered)).1
      refine .inr fun first member second member' given given' => ?_
      rw [met first member given, met second member' given']
    · exact .inl stored
  · intro allowed pair reordered
    have volsync := (volsync_alike reordered).repeats fun restic => by
      have perm := snapshotClasses_perm reordered
      have one := allowed.resolve_left (by simpa [Mover.resticCopy, LiveEnv.volsync] using restic)
      by_cases empty : snapshotClassOf env.pair = ""
      · exact ((volsync_alike reordered).snapshotClass.mpr empty).trans empty.symm
      · have given : snapshotClassOf pair ≠ "" := fun none => empty ((volsync_alike reordered).snapshotClass.mp none)
        exact one _ (perm.mem_iff.mpr (snapshotClassOf_mem given)) _ (snapshotClassOf_mem empty) given empty
    have rclone := (rclone_alike reordered).repeats fun restic => by simp [Mover.resticCopy, LiveEnv.rclone] at restic
    refine .cons volsync ?_
    change List.Forall₂ _ _ (if transportOf pair = .objectStore then _ else _)
    rw [(transportOf_reordered reordered).1]
    split
    · exact .cons rclone .nil
    · exact .nil

/-- A pair with two snapshot classes, in the order in which an iteration meets them. -/
def twoClasses (entries : List (String × String)) : LiveEnv where
  source := { kube := 0 }
  dest := { kube := 1 }
  pair := some { snapshotClassMap := .table entries }

theorem LiveEnv.not_steady_twoClasses :
    ∃ entries : List (String × String), (entries.map Prod.fst).Nodup ∧ ¬ (twoClasses entries).Steady := by
  refine ⟨[("csi", "fast"), ("zfs", "slow")], by decide, fun steady => ?_⟩
  have reordered : Option.Rel ClusterPair.Reordered (twoClasses [("csi", "fast"), ("zfs", "slow")]).pair
      (twoClasses [("zfs", "slow"), ("csi", "fast")]).pair :=
    .some (.maps .nil .nil (.table (.swap ..)))
  have repeats := (List.forall₂_cons.mp (steady _ reordered)).1
  have same := (repeats.source { namespace_ := "shop", name := "db", kind := "StatefulSet", cls := .genericPVC }
    "db" "data").1
  exact absurd same (by decide +kernel)

end Portage
