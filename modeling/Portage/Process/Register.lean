import Mathlib.Data.List.Induction
import Mathlib.Data.List.Perm.Basic

/-! A register that a loop writes to: some writes replace what it holds, others only fill
it while it is blank. What it holds in the end depends on the order of the writes. -/
namespace Portage.Process.Register

variable {α : Type}

/-- A member of a list can be put last. -/
theorem exists_perm_concat {items : List α} {last : α} (member : last ∈ items) :
    ∃ rest, items.Perm (rest ++ [last]) ∧ ∀ other ∈ items, other ≠ last → other ∈ rest := by
  obtain ⟨front, back, rfl⟩ := List.append_of_mem member
  refine ⟨front ++ back, List.perm_middle.trans (List.perm_append_singleton last _).symm, fun other inside different => ?_⟩
  simpa [different] using inside

inductive Write (α : Type) where
  | overwrite (value : α)
  | fallback (value : α)
  | skip
  deriving DecidableEq, Repr

namespace Write

variable [DecidableEq α] (blank : α)

def apply (held : α) : Write α → α
  | overwrite value => value
  | fallback value => if held = blank then value else held
  | skip => held

/-- What a register holds after a list of writes. -/
def settle (writes : List (Write α)) : α := writes.foldl (apply blank) blank

@[simp] theorem settle_concat (writes : List (Write α)) (last : Write α) :
    settle blank (writes ++ [last]) = apply blank (settle blank writes) last := by
  simp [settle]

/-- Where the content of a register comes from: a write that replaced it, one that filled
it, or none. One that fills it counts only if nothing but a blank has replaced it. -/
theorem settle_origin (writes : List (Write α)) :
    overwrite (settle blank writes) ∈ writes ∨
    (fallback (settle blank writes) ∈ writes ∧
      ((∀ value, overwrite value ∉ writes) ∨ overwrite blank ∈ writes)) ∨
    (settle blank writes = blank ∧ (∀ value, overwrite value ∉ writes) ∧ ∀ value, fallback value ∉ writes) := by
  induction writes using List.reverseRecOn with
  | nil => simp [settle]
  | append_singleton writes last ih =>
    cases last with
    | overwrite value => simp [apply]
    | skip => simpa [apply] using ih
    | fallback value =>
      by_cases empty : settle blank writes = blank
      · rw [empty] at ih
        simp only [settle_concat, apply, if_pos empty]
        rcases ih with replaced | ⟨_, fits⟩ | ⟨_, none, _⟩
        · exact .inr (.inl ⟨by simp, .inr (by simp [replaced])⟩)
        · exact .inr (.inl ⟨by simp, fits.imp (by simp) (by simp)⟩)
        · exact .inr (.inl ⟨by simp, .inl (by simpa using none)⟩)
      · simp only [settle_concat, apply, if_neg empty]
        rcases ih with replaced | ⟨filled, fits⟩ | ⟨same, _⟩
        · exact .inl (by simp [replaced])
        · exact .inr (.inl ⟨by simp [filled], fits.imp (by simp) (by simp)⟩)
        · exact absurd same empty

/-! ### Orders -/

variable {blank} {κ : Type} (cls : α → κ)

/-- All writes that replace are of one class, and none of them is blank beside one that
fills. -/
structure Uniform (blank : α) (writes : List (Write α)) : Prop where
  same : ∀ a b, overwrite a ∈ writes → overwrite b ∈ writes → cls a = cls b
  filled : overwrite blank ∈ writes → ∀ value, fallback value ∉ writes

variable {cls} {writes : List (Write α)} {fill : κ}

/-- The class of the content is the same in every order of uniform writes. -/
theorem Uniform.order (uniform : Uniform cls blank writes) (fills : ∀ value, fallback value ∈ writes → cls value = fill)
    {other : List (Write α)} (perm : writes.Perm other) : cls (settle blank other) = cls (settle blank writes) := by
  have origin := settle_origin blank other
  simp only [← perm.mem_iff] at origin
  rcases origin with here | ⟨here, fits⟩ | ⟨here, none, empty⟩ <;>
    rcases settle_origin blank writes with there | ⟨there, fits'⟩ | ⟨there, none', empty'⟩
  · exact uniform.same _ _ here there
  · rcases fits' with none | blanks
    · exact absurd here (none _)
    · exact absurd there (uniform.filled blanks _)
  · exact absurd here (none' _)
  · rcases fits with none | blanks
    · exact absurd there (none _)
    · exact absurd here (uniform.filled blanks _)
  · rw [fills _ here, fills _ there]
  · exact absurd here (empty' _)
  · exact absurd there (none _)
  · exact absurd there (empty _)
  · rw [here, there]

variable {ι : Type} {items : List ι} {write : ι → Write α}

/-- If the class is the same in every order of what is written, the writes are uniform. -/
theorem Uniform.of_order (fills : ∀ value, fallback value ∈ items.map write → cls value ≠ cls blank)
    (order : ∀ other, items.Perm other →
      cls (settle blank (other.map write)) = cls (settle blank (items.map write))) :
    Uniform cls blank (items.map write) := by
  have last (value : α) (member : overwrite value ∈ items.map write) :
      cls value = cls (settle blank (items.map write)) := by
    obtain ⟨item, inside, writes⟩ := List.mem_map.mp member
    obtain ⟨rest, perm, -⟩ := exists_perm_concat inside
    have moved := order _ perm
    rwa [List.map_append, List.map_singleton, settle_concat, writes, apply] at moved
  refine ⟨fun a b first second => (last a first).trans (last b second).symm, fun blanked value filling => ?_⟩
  -- the blank just before a write that fills the register, and that one last
  obtain ⟨filler, inside, fillsIt⟩ := List.mem_map.mp filling
  obtain ⟨eraser, among, erases⟩ := List.mem_map.mp blanked
  obtain ⟨rest, perm, others⟩ := exists_perm_concat inside
  have different : eraser ≠ filler := by
    rintro rfl
    rw [erases] at fillsIt
    cases fillsIt
  obtain ⟨front, moved, -⟩ := exists_perm_concat (others _ among different)
  have filled := order _ (perm.trans (moved.append_right _))
  rw [List.map_append, List.map_append, List.map_singleton, List.map_singleton, settle_concat, settle_concat, erases,
    fillsIt, apply, apply, if_pos rfl] at filled
  exact fills value filling (filled.trans (last blank blanked).symm)

theorem uniform_iff_order (fills : ∀ value, fallback value ∈ items.map write → cls value = fill)
    (other : fill ≠ cls blank) : Uniform cls blank (items.map write) ↔
      ∀ order, items.Perm order →
        cls (settle blank (order.map write)) = cls (settle blank (items.map write)) :=
  ⟨fun uniform _ perm => uniform.order fills (perm.map write),
    Uniform.of_order fun value filling => (fills value filling).trans_ne other⟩

end Write

end Portage.Process.Register
