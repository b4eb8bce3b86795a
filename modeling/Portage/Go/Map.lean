import Mathlib.Data.List.Basic

/-! Go map values. A nil map reads as empty, and storing into it is a run-time
panic; a made map keeps the last value stored under each key. -/
namespace Portage.Go

variable {κ ν : Type} [DecidableEq κ]

inductive GoMap (κ ν : Type) where
  | nil
  | table (entries : List (κ × ν))
  deriving DecidableEq, Repr

namespace GoMap

def empty : GoMap κ ν := .table []

/-- The two-valued read `v, ok := m[key]`. -/
def find? : GoMap κ ν → κ → Option ν
  | .nil, _ => none
  | .table entries, key => entries.lookup key

/-- The one-valued read `m[key]`, with the zero value for an absent key. -/
def get [Inhabited ν] (m : GoMap κ ν) (key : κ) : ν := (m.find? key).getD default

/-- The assignment `m[key] = value`; `none` is the panic on a nil map. -/
def assign? : GoMap κ ν → κ → ν → Option (GoMap κ ν)
  | .nil, _, _ => none
  | .table entries, key, value => some (.table ((key, value) :: entries))

/-- Assignment after `if m == nil { m = map[..]{} }`. -/
def insert : GoMap κ ν → κ → ν → GoMap κ ν
  | .nil, key, value => .table [(key, value)]
  | .table entries, key, value => .table ((key, value) :: entries)

/-- Index a slice by key, later elements overwriting earlier ones. -/
def indexBy (key : ν → κ) (values : List ν) : GoMap κ ν :=
  values.foldl (fun m value => m.insert (key value) value) empty

@[simp] theorem find?_nil (key : κ) : (nil : GoMap κ ν).find? key = none := rfl

@[simp] theorem find?_empty (key : κ) : (empty : GoMap κ ν).find? key = none := rfl

theorem find?_insert (m : GoMap κ ν) (key other : κ) (value : ν) :
    (m.insert key value).find? other = if other = key then some value else m.find? other := by
  by_cases same : other = key
  · cases m <;> simp [insert, find?, same]
  · have missed : (other == key) = false := beq_eq_false_iff_ne.mpr same
    cases m <;> simp [insert, find?, List.lookup_cons, same, missed]

@[simp] theorem find?_insert_self (m : GoMap κ ν) (key : κ) (value : ν) :
    (m.insert key value).find? key = some value := by
  simp [find?_insert]

theorem find?_insert_ne (m : GoMap κ ν) (value : ν) {key other : κ} (different : other ≠ key) :
    (m.insert key value).find? other = m.find? other := by
  simp [find?_insert, different]

@[simp] theorem get_insert_self [Inhabited ν] (m : GoMap κ ν) (key : κ) (value : ν) :
    (m.insert key value).get key = value := by
  simp [get]

theorem get_insert_ne [Inhabited ν] (m : GoMap κ ν) (value : ν) {key other : κ}
    (different : other ≠ key) : (m.insert key value).get other = m.get other := by
  simp [get, find?_insert_ne m value different]

private theorem find?_foldl_insert (key : ν → κ) (values : List ν) (m : GoMap κ ν) (wanted : κ) :
    (values.foldl (fun m value => m.insert (key value) value) m).find? wanted =
      ((values.reverse.find? fun value => decide (key value = wanted)).or (m.find? wanted)) := by
  induction values generalizing m with
  | nil => simp
  | cons value rest ih =>
    simp only [List.foldl_cons, ih, find?_insert, List.reverse_cons, List.find?_append]
    by_cases same : key value = wanted
    · simp [same]
    · have other : ¬ wanted = key value := fun equal => same equal.symm
      simp [same, other]

/-- An index answers with the last element of the slice that carries the key. -/
theorem find?_indexBy (key : ν → κ) (values : List ν) (wanted : κ) :
    (indexBy key values).find? wanted =
      values.reverse.find? fun value => decide (key value = wanted) := by
  rw [indexBy, find?_foldl_insert]
  simp

theorem mem_of_find?_indexBy {key : ν → κ} {values : List ν} {wanted : κ} {value : ν}
    (found : (indexBy key values).find? wanted = some value) :
    value ∈ values ∧ key value = wanted := by
  rw [find?_indexBy] at found
  exact ⟨by simpa using List.mem_of_find?_eq_some found, by simpa using List.find?_some found⟩

end GoMap

end Portage.Go
