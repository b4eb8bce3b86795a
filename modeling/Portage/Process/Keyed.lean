import Mathlib.Data.List.Basic

/-! Lists of items under keys: replacing and removing an item by its key, and what is
under a key afterwards. -/
namespace Portage.Process.Keyed

variable {α κ : Type} [DecidableEq κ] (key : α → κ)

/-- Put an item in the place of those with its key. -/
def replace (item : α) (items : List α) : List α :=
  items.map fun other => if key other = key item then item else other

def remove (unwanted : κ) (items : List α) : List α := items.filter fun item => key item ≠ unwanted

/-- The items with a key, in their order. -/
def under (wanted : κ) (items : List α) : List α := items.filter fun item => key item = wanted

variable {key} {item : α} {wanted : κ} {items : List α}

theorem head?_under : (under key wanted items).head? = items.find? fun item => key item = wanted :=
  List.head?_filter

theorem under_replace_self : under key (key item) (replace key item items) =
    (under key (key item) items).map fun _ => item := by
  induction items with
  | nil => rfl
  | cons head rest ih =>
    rw [replace, under] at ih
    by_cases same : key head = key item <;> simpa [replace, under, same] using ih

theorem under_replace_other (different : wanted ≠ key item) :
    under key wanted (replace key item items) = under key wanted items := by
  induction items with
  | nil => rfl
  | cons head rest ih =>
    rw [replace, under, under] at ih
    by_cases same : key head = key item
    · have first : key head ≠ wanted := fun equal => different (equal.symm.trans same)
      simpa [replace, under, same, Ne.symm different, first] using ih
    · by_cases here : key head = wanted
      · simpa [replace, under, here, different] using ih
      · simpa [replace, under, same, here] using ih

theorem under_remove_self : under key wanted (remove key wanted items) = [] := by
  simp [under, remove]

theorem under_remove_other {unwanted : κ} (different : wanted ≠ unwanted) :
    under key wanted (remove key unwanted items) = under key wanted items := by
  rw [under, remove, List.filter_filter]
  refine List.filter_congr fun other _ => ?_
  by_cases here : key other = wanted
  · simp [here, different]
  · simp [here]

theorem under_concat_self : under key (key item) (items ++ [item]) = under key (key item) items ++ [item] := by
  simp [under]

theorem under_concat_other (different : wanted ≠ key item) :
    under key wanted (items ++ [item]) = under key wanted items := by
  simp [under, Ne.symm different]

/-! ### The first item under each key -/

section
variable {β : Type} (offer : β → Option α)

/-- Take what is offered, unless something was taken under its key; the keys that were taken
come with the items. -/
def takeNew (keyOf : β → κ) (taken : List κ × List α) (x : β) : List κ × List α :=
  if keyOf x ∈ taken.1 then taken
  else
    match offer x with
    | none => taken
    | some item => (keyOf x :: taken.1, taken.2 ++ [item])

variable {offer} {keyOf : β → κ}

/-- The keys of the items are those that were noted, each once. -/
theorem foldl_takeNew_keys (agree : ∀ x item, offer x = some item → key item = keyOf x) (xs : List β)
    {taken : List κ × List α} (noted : taken.2.map key = taken.1.reverse) (once : taken.1.Nodup) :
    (xs.foldl (takeNew offer keyOf) taken).2.map key = (xs.foldl (takeNew offer keyOf) taken).1.reverse ∧
      (xs.foldl (takeNew offer keyOf) taken).1.Nodup := by
  induction xs generalizing taken with
  | nil => exact ⟨noted, once⟩
  | cons x rest ih =>
    rw [List.foldl_cons]
    unfold takeNew
    split
    · exact ih noted once
    · rename_i fresh
      cases offered : offer x with
      | none => exact ih noted once
      | some item => exact ih (by simp [noted, agree x item offered]) (List.nodup_cons.mpr ⟨fresh, once⟩)

/-- A key is noted if it was or if something was offered under it. -/
theorem mem_foldl_takeNew (xs : List β) (taken : List κ × List α) (wanted : κ) :
    wanted ∈ (xs.foldl (takeNew offer keyOf) taken).1 ↔
      wanted ∈ taken.1 ∨ ∃ x ∈ xs, keyOf x = wanted ∧ (offer x).isSome = true := by
  induction xs generalizing taken with
  | nil => simp
  | cons x rest ih =>
    rw [List.foldl_cons, ih]
    have here : wanted ∈ (takeNew offer keyOf taken x).1 ↔
        wanted ∈ taken.1 ∨ keyOf x = wanted ∧ (offer x).isSome = true := by
      unfold takeNew
      split
      · rename_i there
        constructor
        · exact .inl
        · rintro (old | ⟨rfl, _⟩)
          · exact old
          · exact there
      · cases offer x with
        | none => simp
        | some item => simp [eq_comm, or_comm]
    rw [here, List.exists_mem_cons_iff, or_assoc]

/-- Every item that was taken was offered. -/
theorem of_mem_foldl_takeNew (xs : List β) {taken : List κ × List α} {item : α}
    (member : item ∈ (xs.foldl (takeNew offer keyOf) taken).2) :
    item ∈ taken.2 ∨ ∃ x ∈ xs, offer x = some item := by
  induction xs generalizing taken with
  | nil => exact .inl member
  | cons x rest ih =>
    rw [List.foldl_cons] at member
    rcases ih member with now | ⟨y, inside, offered⟩
    · unfold takeNew at now
      split at now
      · exact .inl now
      · cases offered : offer x with
        | none => exact .inl (by simpa [offered] using now)
        | some found =>
          rw [offered] at now
          rcases List.mem_append.mp now with old | new
          · exact .inl old
          · obtain rfl := List.mem_singleton.mp new
            exact .inr ⟨x, by simp, offered⟩
    · exact .inr ⟨y, by simp [inside], offered⟩

end

end Portage.Process.Keyed
