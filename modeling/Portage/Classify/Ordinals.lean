import Portage.Classify.Frozen

/-! The claims that the walk gives a StatefulSet, against the ordinals that its controller
numbers the pods with. -/
namespace Portage

open Go Kube

namespace WalkedStatefulSet

/-- The claims that the running pods use: those of the volumes, then for each claim template
one for each ordinal from `start` on. Each stands where it comes first. -/
def runningPVCs (sts : WalkedStatefulSet) (start : Nat) : List String :=
  (sts.template.volumes.filterMap id ++
    sts.claimTemplates.flatMap fun template => (List.range' start sts.pods).map (sts.realized template)).foldl addName []

/-- The ordinals that the walk counts, from zero on and at least one, are those of the pods,
except where the claim is a volume of the pod template too. -/
def NumberedFromZero (sts : WalkedStatefulSet) (start : Nat) : Prop :=
  ∀ template ∈ sts.claimTemplates, ∀ ordinal, some (sts.realized template ordinal) ∈ sts.template.volumes ∨
    (ordinal < max 1 sts.pods ↔ start ≤ ordinal ∧ ordinal < start + sts.pods)

end WalkedStatefulSet

theorem nodup_foldl_addName {names : List String} (distinct : names.Nodup) (more : List String) :
    (more.foldl addName names).Nodup := by
  induction more generalizing names with
  | nil => exact distinct
  | cons name rest ih =>
    apply ih
    unfold addName
    split
    · exact distinct
    · rename_i missing
      rw [List.contains_iff_mem] at missing
      exact List.nodup_append.mpr ⟨distinct, List.nodup_singleton name, fun other member _ single same =>
        missing (List.mem_singleton.mp single ▸ same ▸ member)⟩

/-- A realized claim is among those of the chosen ordinals if it is a volume or its own
ordinal is chosen. -/
private theorem mem_claims {sts : WalkedStatefulSet} {template : String} (listed : template ∈ sts.claimTemplates)
    (ordinals : List Nat) (ordinal : Nat) :
    sts.realized template ordinal ∈ (sts.claimTemplates.flatMap fun template =>
        ordinals.map (sts.realized template)).foldl addName (podPVCs sts.template) ↔
      some (sts.realized template ordinal) ∈ sts.template.volumes ∨ ordinal ∈ ordinals := by
  rw [mem_foldl_addName, mem_podPVCs, List.mem_flatMap]
  refine or_congr_right ⟨?_, fun chosen => ⟨template, listed, List.mem_map_of_mem chosen⟩⟩
  rintro ⟨other, -, realized⟩
  obtain ⟨least, chosen, same⟩ := List.mem_map.mp realized
  exact realized_ordinal sts same ▸ chosen

/-- Ordinals whose claims are volumes do not matter. -/
private theorem claims_congr {sts : WalkedStatefulSet} {first second : List Nat} (sorted : first.Pairwise (· < ·))
    (sorted' : second.Pairwise (· < ·))
    (same : ∀ template ∈ sts.claimTemplates, ∀ ordinal, some (sts.realized template ordinal) ∈ sts.template.volumes ∨
      (ordinal ∈ first ↔ ordinal ∈ second)) :
    (sts.claimTemplates.flatMap fun template => first.map (sts.realized template)).foldl addName
        (podPVCs sts.template) =
      (sts.claimTemplates.flatMap fun template => second.map (sts.realized template)).foldl addName
        (podPVCs sts.template) := by
  rw [← foldl_addName_filter (fun _ member => member)]
  conv_rhs => rw [← foldl_addName_filter (fun _ member => member)]
  refine congrArg (List.foldl addName (podPVCs sts.template)) ?_
  simp only [List.filter_flatMap, List.filter_map]
  refine List.flatMap_congr fun template listed => congrArg (List.map _) ?_
  refine (sorted.filter _).eq_of_mem_iff (sorted'.filter _) fun {ordinal} => ?_
  rw [List.mem_filter, List.mem_filter]
  refine and_congr_left fun other => (same template listed ordinal).resolve_left fun volume => ?_
  simp [mem_podPVCs.mpr volume] at other

private theorem stsPVCs_eq (sts : WalkedStatefulSet) :
    stsPVCs sts = (sts.claimTemplates.flatMap fun template =>
      (List.range (max 1 sts.pods)).map (sts.realized template)).foldl addName (podPVCs sts.template) := by
  rw [stsPVCs, sts.counted_eq]

private theorem runningPVCs_eq (sts : WalkedStatefulSet) (start : Nat) :
    sts.runningPVCs start = (sts.claimTemplates.flatMap fun template =>
      (List.range' start sts.pods).map (sts.realized template)).foldl addName (podPVCs sts.template) := by
  rw [WalkedStatefulSet.runningPVCs, List.foldl_append, podPVCs]

/-- The walk finds each claim once, and it finds those of the running pods just if these are
numbered from zero and there is a pod, up to claims that are volumes. -/
theorem stsPVCs_running (sts : WalkedStatefulSet) (start : Nat) :
    (stsPVCs sts).Nodup ∧ (stsPVCs sts = sts.runningPVCs start ↔ sts.NumberedFromZero start) := by
  refine ⟨nodup_foldl_addName (nodup_foldl_addName List.nodup_nil _) _, ?_⟩
  rw [stsPVCs_eq, runningPVCs_eq]
  constructor
  · intro same template listed ordinal
    have found := mem_claims listed (List.range (max 1 sts.pods)) ordinal
    rw [same, mem_claims listed, List.mem_range, List.mem_range'_1] at found
    by_cases volume : some (sts.realized template ordinal) ∈ sts.template.volumes
    · exact .inl volume
    · simp only [volume, false_or] at found
      exact .inr found.symm
  · intro numbered
    refine claims_congr List.pairwise_lt_range List.pairwise_lt_range' fun template listed ordinal => ?_
    rw [List.mem_range, List.mem_range'_1]
    exact numbered template listed ordinal

theorem stsPVCs_from_five :
    stsPVCs { name := "db", replicas := some 2, claimTemplates := ["data"] } = ["data-db-0", "data-db-1"] ∧
    ({ name := "db", replicas := some 2, claimTemplates := ["data"] } : WalkedStatefulSet).runningPVCs 5 =
      ["data-db-5", "data-db-6"] := by
  decide +kernel

end Portage
