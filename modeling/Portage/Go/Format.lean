import Mathlib.Data.List.DropRight
import Mathlib.Data.List.GetD
import Mathlib.Data.List.Infix
import Portage.Go.Text

/-! Texts that are cut, trimmed and searched, and times as texts. -/
namespace Portage.Go

/-! ### Texts up to the dashes they end in -/

theorem trimRight_reconstruct (cut : Char) (text : List Char) :
    ∃ n, text = trimRight cut text ++ List.replicate n cut := by
  have all : ∀ c ∈ text.reverse.takeWhile (· == cut), c = cut := fun c member => by
    simpa using List.mem_takeWhile_imp member
  refine ⟨(text.reverse.takeWhile (· == cut)).length, ?_⟩
  calc text = (text.reverse.takeWhile (· == cut) ++ text.reverse.dropWhile (· == cut)).reverse := by
        rw [List.takeWhile_append_dropWhile, List.reverse_reverse]
    _ = trimRight cut text ++ (text.reverse.takeWhile (· == cut)).reverse := by rw [List.reverse_append, trimRight]
    _ = _ := by conv_lhs => rw [List.eq_replicate_of_mem all, List.reverse_replicate]

/-- Trimming does not show in a text that is read as going on with the mark for ever. -/
theorem getD_trimRight (cut : Char) (text : List Char) (i : Nat) :
    (trimRight cut text).getD i cut = text.getD i cut := by
  obtain ⟨n, whole⟩ := trimRight_reconstruct cut text
  conv_rhs => rw [whole]
  by_cases inside : i < (trimRight cut text).length
  · rw [List.getD_append _ _ _ _ inside]
  · rw [List.getD_append_right _ _ _ _ (by omega), List.getD_eq_default _ _ (by omega)]
    simp only [List.getD_eq_getElem?_getD, List.getElem?_replicate]
    split <;> rfl

variable {cut : Char} {text : List Char}

private theorem length_le_of_getD {first second : List Char} (same : ∀ i, first.getD i cut = second.getD i cut)
    (ends : ∀ some, second.getLast some ≠ cut) : second.length ≤ first.length := by
  by_contra longer
  have some : second ≠ [] := by
    rintro rfl
    simp at longer
  have last := same (second.length - 1)
  rw [List.getD_eq_default _ _ (by omega), List.getD_eq_getElem _ _ (by have := List.length_pos_iff.mpr some; omega)]
    at last
  exact ends some (by rw [List.getLast_eq_getElem]; exact last.symm)

private theorem trimRight_getLast (some : trimRight cut text ≠ []) : (trimRight cut text).getLast some ≠ cut := by
  have last := List.rdropWhile_last_not (· == cut) text some
  simp only [beq_iff_eq] at last
  exact last

theorem trimRight_eq_iff {first second : List Char} :
    trimRight cut first = trimRight cut second ↔ ∀ i, first.getD i cut = second.getD i cut := by
  constructor
  · intro same i
    rw [← getD_trimRight cut first, same, getD_trimRight]
  · intro same
    have trimmed : ∀ i, (trimRight cut first).getD i cut = (trimRight cut second).getD i cut := fun i => by
      rw [getD_trimRight, getD_trimRight, same]
    have lengths : (trimRight cut first).length = (trimRight cut second).length :=
      Nat.le_antisymm (length_le_of_getD (fun i => (trimmed i).symm) fun some => trimRight_getLast some)
        (length_le_of_getD trimmed fun some => trimRight_getLast some)
    refine List.ext_getElem lengths fun i left right => ?_
    simpa [List.getD_eq_getElem, left, right] using trimmed i

theorem trimRight_of_getLast (ends : text.getLast? ≠ some cut) : trimRight cut text = text := by
  refine List.rdropWhile_eq_self_iff.mpr fun nonempty same => ends ?_
  rw [List.getLast?_eq_some_getLast nonempty]
  simpa using same

theorem trimRight_append {front : List Char} (ends : front.getLast? ≠ some cut) (back : List Char) :
    trimRight cut (front ++ back) = front ++ trimRight cut back := by
  have whole := trimRight_of_getLast ends
  rw [trimRight] at whole
  rw [trimRight, trimRight, List.reverse_append, List.dropWhile_append]
  cases rest : back.reverse.dropWhile (· == cut) with
  | nil => simpa using whole
  | cons c rest => simp

theorem trim_of_head? (starts : text.head? ≠ some cut) : trim cut text = trimRight cut text := by
  have kept : text.dropWhile (· == cut) = text := by
    cases text with
    | nil => rfl
    | cons c rest => exact List.dropWhile_cons_of_neg fun same => starts (by simpa using same)
  rw [trim, kept]

/-- Two texts with the same start, cut at the same place, agree up to marks at the end
exactly if what follows the start agrees before the cut. -/
theorem trimRight_take_eq_iff (start first second : List Char) (n : Nat) :
    trimRight cut (start ++ first.take n) = trimRight cut (start ++ second.take n) ↔
      ∀ i < n, first.getD i cut = second.getD i cut := by
  have shown (text : List Char) (i : Nat) :
      (start ++ text.take n).getD (start.length + i) cut = if i < n then text.getD i cut else cut := by
    rw [List.getD_append_right _ _ _ _ (by omega), Nat.add_sub_cancel_left]
    simp only [List.getD_eq_getElem?_getD, List.getElem?_take]
    split <;> rfl
  rw [trimRight_eq_iff]
  constructor
  · intro same i inside
    simpa only [shown, inside, ↓reduceIte] using same (start.length + i)
  · intro same i
    by_cases early : i < start.length
    · rw [List.getD_append _ _ _ _ early, List.getD_append _ _ _ _ early]
    · obtain ⟨k, rfl⟩ : ∃ k, i = start.length + k := ⟨i - start.length, by omega⟩
      rw [shown, shown]
      split
      · rename_i inside
        exact same k inside
      · rfl

/-! ### Minutes -/

/-- A number in decimal with leading zeros. -/
def padded : Nat → Nat → List Char
  | 0, _ => []
  | width + 1, n => padded width (n / 10) ++ [digitChar (n % 10)]

/-- A minute of a UTC clock. -/
structure UTCMinute where
  year : Nat
  month : Nat
  day : Nat
  hour : Nat
  minute : Nat
  year_lt : year < 10000
  month_le : 1 ≤ month ∧ month ≤ 12
  day_le : 1 ≤ day ∧ day ≤ 31
  hour_lt : hour < 24
  minute_lt : minute < 60
  deriving DecidableEq

/-- `time.Format("20060102-1504")`. -/
def UTCMinute.format (at_ : UTCMinute) : String :=
  String.ofList (padded 4 at_.year ++ padded 2 at_.month ++ padded 2 at_.day ++
    '-' :: (padded 2 at_.hour ++ padded 2 at_.minute))

private theorem digitChar_mod (n : Nat) :
    (digitChar (n % 10)).isDigit = true ∧ digitValue (digitChar (n % 10)) = n % 10 := by
  have every : ∀ k : Fin 10, (digitChar k).isDigit = true ∧ digitValue (digitChar k) = k := by decide
  exact every ⟨n % 10, Nat.mod_lt _ (by omega)⟩

@[simp] theorem length_padded (width n : Nat) : (padded width n).length = width := by
  induction width generalizing n with
  | zero => rfl
  | succ width ih => simp [padded, ih]

theorem padded_isDigit (width n : Nat) : ∀ c ∈ padded width n, c.isDigit = true := by
  induction width generalizing n with
  | zero => simp [padded]
  | succ width ih =>
    intro c member
    rcases List.mem_append.mp member with earlier | last
    · exact ih (n / 10) c earlier
    · obtain rfl : c = digitChar (n % 10) := by simpa using last
      exact (digitChar_mod n).1

theorem UTCMinute.length_format (at_ : UTCMinute) : at_.format.toList.length = 13 := by
  simp [UTCMinute.format]

theorem UTCMinute.format_mem (at_ : UTCMinute) : ∀ c ∈ at_.format.toList, c.isDigit = true ∨ c = '-' := by
  intro c member
  simp only [UTCMinute.format, String.toList_ofList, List.mem_append, List.mem_cons] at member
  rcases member with ((inside | inside) | inside) | rfl | inside | inside
  all_goals first | exact .inr rfl | exact .inl (padded_isDigit _ _ c inside)

theorem UTCMinute.format_getLast? (at_ : UTCMinute) : at_.format.toList.getLast? ≠ some '-' := by
  have ends : at_.format.toList.getLast? = some (digitChar (at_.minute % 10)) := by
    simp [UTCMinute.format, padded]
  rw [ends]
  intro same
  have digit := (digitChar_mod at_.minute).1
  rw [Option.some.inj same] at digit
  exact absurd digit (by decide)

/-! ### Texts in texts -/

section
variable {mark : Char} {front : List Char}
variable {part : List Char}

/-- A text that starts with a mark does not occur before the first mark. -/
theorem infix_skip (plain : mark ∉ front) (rest text : List Char) :
    mark :: rest <:+: front ++ text ↔ mark :: rest <:+: text := by
  induction front with
  | nil => rfl
  | cons c front ih =>
    have other : ¬ mark :: rest <+: c :: (front ++ text) := fun start =>
      plain (by simp [(List.cons_prefix_cons.mp start).1])
    rw [List.cons_append, List.infix_cons_iff, ih fun inside => plain (by simp [inside])]
    simp [other]

theorem suffix_skip (plain : mark ∉ front) (rest text : List Char) :
    mark :: rest <:+ front ++ text ↔ mark :: rest <:+ text := by
  induction front with
  | nil => rfl
  | cons c front ih =>
    have other : ¬ mark :: rest = c :: (front ++ text) := fun same =>
      plain (by simp [List.head_eq_of_cons_eq same])
    rw [List.cons_append, List.suffix_cons_iff, ih fun inside => plain (by simp [inside])]
    simp [other]

theorem prefix_before (plain : mark ∉ part) (front back : List Char) :
    part <+: front ++ mark :: back ↔ part <+: front := by
  induction front generalizing part with
  | nil =>
    cases part with
    | nil => simp
    | cons c part =>
      have other : c ≠ mark := fun same => plain (by simp [same])
      simp [other]
  | cons d front ih =>
    cases part with
    | nil => simp
    | cons c part =>
      rw [List.cons_append, List.cons_prefix_cons, List.cons_prefix_cons, ih fun inside => plain (by simp [inside])]

/-- A text without the mark occurs before the mark or behind it. -/
theorem infix_around (plain : mark ∉ part) (front back : List Char) :
    part <:+: front ++ mark :: back ↔ part <:+: front ∨ part <:+: back := by
  induction front with
  | nil =>
    have start := prefix_before plain [] back
    rw [List.nil_append] at start
    rw [List.nil_append, List.infix_cons_iff, start, List.prefix_nil, List.infix_nil]
  | cons d front ih =>
    rw [List.cons_append, List.infix_cons_iff, List.infix_cons_iff, ih, ← List.cons_append, prefix_before plain,
      or_assoc]

theorem infix_intercalate (plain : mark ∉ part) (some : part ≠ []) (texts : List (List Char)) :
    part <:+: [mark].intercalate texts ↔ ∃ text ∈ texts, part <:+: text := by
  induction texts with
  | nil => simp [List.intercalate, some]
  | cons text rest ih =>
    cases rest with
    | nil => simp [List.intercalate]
    | cons next more =>
      have joined : [mark].intercalate (text :: next :: more) = text ++ mark :: [mark].intercalate (next :: more) := by
        rw [List.intercalate_cons_of_ne_nil (by simp), List.append_assoc, List.singleton_append]
      rw [joined, infix_around plain, ih]
      simp

end

theorem contains_iff (text part : String) : contains text part = true ↔ part.toList <:+: text.toList := by
  simp only [contains, List.any_eq_true, List.mem_tails, List.isPrefixOf_iff_prefix]
  constructor
  · rintro ⟨rest, suffix, start⟩
    exact start.isInfix.trans suffix.isInfix
  · intro inside
    exact List.infix_iff_prefix_suffix.mp inside |>.imp fun rest both => ⟨both.2, both.1⟩

end Portage.Go
