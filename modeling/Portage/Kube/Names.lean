import Portage.Go.Text

/-! The names that the API server accepts, and texts that are joined with a slash. -/
namespace Portage.Kube

/-- A lower-case letter or a digit. -/
def isAlnum (c : Char) : Bool := ('a' ≤ c && c ≤ 'z') || ('0' ≤ c && c ≤ '9')

theorem isAlnum_code {c : Char} (letter : isAlnum c = true) : 48 ≤ c.toNat ∧ c.toNat ≤ 122 := by
  simp only [isAlnum, Bool.or_eq_true, Bool.and_eq_true, decide_eq_true_eq, Char.le_def, UInt32.le_iff_toNat_le]
    at letter
  simp only [Char.toNat]
  rcases letter with ⟨low, high⟩ | ⟨low, high⟩
  · exact ⟨Nat.le_trans (by decide) low, high⟩
  · exact ⟨low, Nat.le_trans high (by decide)⟩

/-- The characters of names are in lower case. -/
theorem lowerChar_legal {c : Char} (legal : isAlnum c = true ∨ c = '-' ∨ c = '.') : Go.lowerChar c = c := by
  have every : ∀ n : Fin 123, isAlnum (Char.ofNat n) = true → Go.lowerChar (Char.ofNat n) = Char.ofNat n := by
    decide +kernel
  rcases legal with inside | rfl | rfl
  · have back : Char.ofNat c.toNat = c := Char.ofNat_toNat c
    simpa only [back] using every ⟨c.toNat, Nat.lt_succ_of_le (isAlnum_code inside).2⟩
      (by simpa only [back] using inside)
  · decide
  · decide

/-- What the API server asks of the name of every namespace and object modelled here:
letters, digits, dashes and dots, with a letter or a digit at both ends. -/
def legalName (name : String) : Bool :=
  (name.toList.head?.any isAlnum && name.toList.getLast?.any isAlnum) &&
    name.toList.all fun c => isAlnum c || c == '-' || c == '.'

theorem legalName_ne_empty {name : String} (legal : legalName name = true) : name ≠ "" := by
  rintro rfl
  simp [legalName] at legal

theorem legalName_mem {name : String} (legal : legalName name = true) {c : Char} (member : c ∈ name.toList) :
    isAlnum c = true ∨ c = '-' ∨ c = '.' := by
  rw [legalName, Bool.and_eq_true, List.all_eq_true] at legal
  simpa [or_assoc] using legal.2 c member

theorem legalName_slash {name : String} (legal : legalName name = true) : '/' ∉ name.toList := by
  intro member
  rcases legalName_mem legal member with inside | dash | dot
  · exact absurd inside (by decide)
  · exact absurd dash (by decide)
  · exact absurd dot (by decide)

/-- A text up to the first mark in it and what follows the mark are known from the whole. -/
theorem mark_inj {mark : Char} {first second rest other : List Char} (plain : mark ∉ first) (plain' : mark ∉ second)
    (same : first ++ mark :: rest = second ++ mark :: other) : first = second ∧ rest = other := by
  induction first generalizing second with
  | nil =>
    cases second with
    | nil => exact ⟨rfl, List.tail_eq_of_cons_eq same⟩
    | cons c _ => exact absurd (List.head_eq_of_cons_eq same) (by rintro rfl; simp at plain')
  | cons c first ih =>
    cases second with
    | nil => exact absurd (List.head_eq_of_cons_eq same) (by rintro rfl; simp at plain)
    | cons d second =>
      obtain ⟨rfl, tails⟩ := List.cons_eq_cons.mp same
      obtain ⟨rfl, rests⟩ := ih (fun inside => plain (by simp [inside])) (fun inside => plain' (by simp [inside])) tails
      exact ⟨rfl, rests⟩

/-- Namespaced texts agree only if namespace and name do. -/
theorem legalName_slash_inj {ns ns' rest other : String} (legal : legalName ns = true) (legal' : legalName ns' = true)
    (same : ns ++ "/" ++ rest = ns' ++ "/" ++ other) : ns = ns' ∧ rest = other := by
  have texts := congrArg String.toList same
  simp only [String.toList_append, List.append_assoc] at texts
  obtain ⟨front, back⟩ := mark_inj (legalName_slash legal) (legalName_slash legal') texts
  exact ⟨String.toList_inj.mp front, String.toList_inj.mp back⟩

end Portage.Kube
