import Mathlib.Data.List.Sort

/-! Which of two elements a stable sort puts first. -/
namespace Portage.Process

variable {α : Type} {le : α → α → Prop} [DecidableRel le] [IsTrans α le] {related : α → α → Prop}

/-- An element goes before those that are not less, and after the others. -/
theorem pairwise_orderedInsert_iff {item : α} {items : List α} (sorted : items.Pairwise le) :
    (items.orderedInsert le item).Pairwise related ↔
      (∀ other ∈ items, if le item other then related item other else related other item) ∧ items.Pairwise related := by
  induction items with
  | nil => simp
  | cons first rest ih =>
    obtain ⟨below, sorted'⟩ := List.pairwise_cons.mp sorted
    rw [List.orderedInsert_cons]
    by_cases small : le item first
    · rw [if_pos small, List.pairwise_cons]
      refine and_congr_left fun _ => forall₂_congr fun other member => ?_
      have before : le item other := by
        rcases List.mem_cons.mp member with rfl | later
        · exact small
        · exact IsTrans.trans _ _ _ small (below other later)
      rw [if_pos before]
    · rw [if_neg small, List.pairwise_cons, ih sorted', List.forall_mem_cons, if_neg small, List.pairwise_cons]
      simp only [List.mem_orderedInsert, forall_eq_or_imp]
      tauto

/-- In a stable sort two elements keep their order unless the later one is less. -/
theorem pairwise_insertionSort_iff [Std.Total le] {items : List α} : (items.insertionSort le).Pairwise related ↔
    items.Pairwise fun first second => if le first second then related first second else related second first := by
  induction items with
  | nil => simp
  | cons item rest ih =>
    rw [List.insertionSort_cons, pairwise_orderedInsert_iff (List.pairwise_insertionSort le rest), ih,
      List.pairwise_cons]
    simp only [List.mem_insertionSort]

end Portage.Process
