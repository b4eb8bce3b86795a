import Mathlib.Algebra.Ring.Int.Defs
import Mathlib.Data.List.Basic
import Mathlib.Data.List.TakeWhile

/-! The parts of Go's `strings`, `strconv` and `fmt` that the reconcilers use,
over the characters of a string. -/
namespace Portage.Go

/-- `strings.HasPrefix`. -/
def hasPrefix (text start : String) : Bool := start.toList.isPrefixOf text.toList

theorem hasPrefix_iff (text start : String) :
    hasPrefix text start = true ↔ start.toList <+: text.toList := by
  simp [hasPrefix]

/-- `strings.Contains`. -/
def contains (text part : String) : Bool :=
  text.toList.tails.any fun rest => part.toList.isPrefixOf rest

/-- `unicode.ToLower` as far as it can produce the letters of a marker text:
two letters outside ASCII also have an ASCII lower case. -/
def lowerChar (c : Char) : Char :=
  if c.val = 0x212a then 'k' else if c.val = 0x130 then 'i' else c.toLower

/-- `strings.ToLower`. -/
def toLower (text : String) : String := String.ofList (text.toList.map lowerChar)

/-- `unicode.IsSpace`. -/
def isSpace (c : Char) : Bool :=
  c.val ∈ ([0x9, 0xa, 0xb, 0xc, 0xd, 0x20, 0x85, 0xa0, 0x1680, 0x2028, 0x2029, 0x202f, 0x205f,
    0x3000] : List UInt32) || (0x2000 ≤ c.val && c.val ≤ 0x200a)

/-- `strings.TrimSpace`. -/
def trimSpace (text : String) : String :=
  String.ofList ((text.toList.dropWhile isSpace).reverse.dropWhile isSpace).reverse

/-- `strings.HasSuffix`. -/
def hasSuffix (text ending : String) : Bool := ending.toList.isSuffixOf text.toList

/-- `strings.TrimRight` with a cutset of one character. -/
def trimRight (cut : Char) (text : List Char) : List Char := (text.reverse.dropWhile (· == cut)).reverse

/-- `strings.Trim` with a cutset of one character. -/
def trim (cut : Char) (text : List Char) : List Char := trimRight cut (text.dropWhile (· == cut))

/-- `strings.Cut` at the first occurrence of a character, as the two sides of it. -/
def cutAt (mark : Char) (text : List Char) : List Char × Option (List Char) :=
  match text.dropWhile (· != mark) with
  | [] => (text, none)
  | _ :: rest => (text.takeWhile (· != mark), some rest)

theorem cutAt_some {mark : Char} {text front back : List Char} (cut : cutAt mark text = (front, some back)) :
    text = front ++ mark :: back ∧ mark ∉ front := by
  unfold cutAt at cut
  split at cut
  · cases cut
  · rename_i c rest shape
    obtain ⟨rfl, rfl⟩ : text.takeWhile (· != mark) = front ∧ rest = back := by simpa using cut
    obtain rfl : c = mark := by
      have head := List.head?_dropWhile_not (p := (· != mark)) text
      rw [shape] at head
      simpa using head
    refine ⟨?_, fun inside => by simpa using List.mem_takeWhile_imp inside⟩
    rw [← shape, List.takeWhile_append_dropWhile]

theorem cutAt_append {mark : Char} {front back : List Char} (plain : mark ∉ front) :
    cutAt mark (front ++ mark :: back) = (front, some back) := by
  have pass : ∀ c ∈ front, (c != mark) = true := by
    intro c member
    have different : c ≠ mark := fun same => plain (same ▸ member)
    simpa using different
  rw [cutAt, List.dropWhile_append_of_pos pass, List.takeWhile_append_of_pos pass]
  simp

/-- `strings.Split` at a character. -/
def split (mark : Char) : List Char → List (List Char)
  | [] => [[]]
  | c :: rest =>
    match split mark rest with
    | [] => [[c]]
    | part :: more => if c = mark then [] :: part :: more else (c :: part) :: more

theorem split_ne_nil (mark : Char) (text : List Char) : split mark text ≠ [] := by
  cases text with
  | nil => simp [split]
  | cons c rest =>
    unfold split
    split
    · simp
    · split <;> simp

/-- A mark ends one list of parts and starts the next. -/
theorem split_append (mark : Char) (first second : List Char) :
    split mark (first ++ mark :: second) = split mark first ++ split mark second := by
  induction first with
  | nil =>
    cases tail : split mark second with
    | nil => exact absurd tail (split_ne_nil mark second)
    | cons part more => simp [split, tail]
  | cons c rest ih =>
    cases head : split mark rest with
    | nil => exact absurd head (split_ne_nil mark rest)
    | cons part more =>
      rw [List.cons_append, split, ih, split, head]
      by_cases same : c = mark <;> simp [same]

theorem split_of_not_mem {mark : Char} {text : List Char} (plain : mark ∉ text) : split mark text = [text] := by
  induction text with
  | nil => rfl
  | cons c rest ih =>
    have other : ¬ c = mark := fun same => plain (by simp [same])
    simp [split, ih fun inside => plain (by simp [inside]), other]

/-- One letter of each class that `strings.EqualFold` identifies, as far as letters of
ASCII are concerned: two letters outside it fold to one of them. -/
def foldChar (c : Char) : Char :=
  if c.val = 0x212a then 'k' else if c.val = 0x17f then 's' else c.toLower

/-- `strings.EqualFold`. -/
def equalFold (a b : String) : Bool := a.toList.map foldChar == b.toList.map foldChar

/-! ### Decimal numbers -/

def digitChar (n : Nat) : Char := Char.ofNat (48 + n)

def digitValue (c : Char) : Nat := c.toNat - 48

/-- The decimal digits of `n`; `fuel` bounds their number. -/
def digitsOf : Nat → Nat → List Char
  | 0, _ => []
  | fuel + 1, n => if n < 10 then [digitChar n] else digitsOf fuel (n / 10) ++ [digitChar (n % 10)]

def numberOf (digits : List Char) : Nat := digits.foldl (fun acc c => acc * 10 + digitValue c) 0

/-- `strconv.Itoa`. -/
def itoa (n : Int) : String :=
  let digits := digitsOf (n.natAbs + 1) n.natAbs
  String.ofList (if n < 0 then '-' :: digits else digits)

/-- The value of a signed decimal token, unless it leaves the range of an `int64`. -/
def int64Of (negative : Bool) (digits : List Char) : Option Int :=
  let value : Int := if negative then -(numberOf digits) else numberOf digits
  if -2 ^ 63 ≤ value ∧ value < 2 ^ 63 then some value else none

def sign : List Char → Bool × List Char
  | '-' :: rest => (true, rest)
  | '+' :: rest => (false, rest)
  | text => (false, text)

/-- `strconv.Atoi`: a sign and digits, and nothing else. -/
def atoi (text : String) : Option Int :=
  let (negative, digits) := sign text.toList
  if digits.isEmpty || digits.any (fun c => !c.isDigit) then none else int64Of negative digits

/-- `fmt.Sscanf(text, "%d", &n)` with `n` zero before: the longest run of digits
counts, and whatever cannot be read leaves zero. -/
def sscanfInt (text : String) : Int :=
  let (negative, rest) := sign text.toList
  let digits := rest.takeWhile Char.isDigit
  if digits.isEmpty then 0 else (int64Of negative digits).getD 0

private theorem digit_cases {n : Nat} (small : n < 10) :
    (digitChar n).isDigit = true ∧ digitValue (digitChar n) = n ∧ digitChar n ≠ '-' ∧ digitChar n ≠ '+' := by
  have every : ∀ k : Fin 10, (digitChar k).isDigit = true ∧ digitValue (digitChar k) = k ∧
      digitChar k ≠ '-' ∧ digitChar k ≠ '+' := by decide
  exact every ⟨n, small⟩

theorem numberOf_append (digits : List Char) (last : Char) :
    numberOf (digits ++ [last]) = numberOf digits * 10 + digitValue last := by
  simp [numberOf]

theorem numberOf_digitsOf {fuel n : Nat} (enough : n < fuel) : numberOf (digitsOf fuel n) = n := by
  induction fuel generalizing n with
  | zero => omega
  | succ fuel ih =>
    unfold digitsOf
    split
    · rename_i small
      simp [numberOf, (digit_cases small).2.1]
    · rename_i large
      have smaller : n / 10 < fuel := by omega
      rw [numberOf_append, ih smaller, (digit_cases (Nat.mod_lt n (by omega))).2.1]
      omega

theorem digitsOf_isDigit (fuel n : Nat) : ∀ c ∈ digitsOf fuel n, c.isDigit = true ∧ c ≠ '-' ∧ c ≠ '+' := by
  induction fuel generalizing n with
  | zero => simp [digitsOf]
  | succ fuel ih =>
    unfold digitsOf
    intro c member
    split at member
    · rename_i small
      obtain rfl : c = digitChar n := by simpa using member
      exact ⟨(digit_cases small).1, (digit_cases small).2.2⟩
    · rcases List.mem_append.mp member with earlier | last
      · exact ih (n / 10) c earlier
      · obtain rfl : c = digitChar (n % 10) := by simpa using last
        have small := Nat.mod_lt n (show 10 > 0 by omega)
        exact ⟨(digit_cases small).1, (digit_cases small).2.2⟩

theorem digitsOf_ne_nil (fuel n : Nat) : digitsOf (fuel + 1) n ≠ [] := by
  unfold digitsOf
  split <;> simp

/-- The digits of a number carry no sign of their own. -/
private theorem sign_digitsOf (fuel n : Nat) : sign (digitsOf fuel n) = (false, digitsOf fuel n) := by
  cases shape : digitsOf fuel n with
  | nil => rfl
  | cons c rest =>
    obtain ⟨_, notMinus, notPlus⟩ := digitsOf_isDigit fuel n c (by simp [shape])
    unfold sign
    split <;> simp_all

private theorem sign_itoa (n : Int) :
    sign (itoa n).toList = (decide (n < 0), digitsOf (n.natAbs + 1) n.natAbs) := by
  by_cases negative : n < 0
  · simp [itoa, negative, sign]
  · simpa [itoa, negative] using sign_digitsOf (n.natAbs + 1) n.natAbs

/-- Reading back what was written gives the number. -/
theorem atoi_itoa {n : Int} (lower : -2 ^ 63 ≤ n) (upper : n < 2 ^ 63) : atoi (itoa n) = some n := by
  have plain : (digitsOf (n.natAbs + 1) n.natAbs).any (fun c => !c.isDigit) = false := by
    simpa using fun c member => (digitsOf_isDigit _ _ c member).1
  have nonempty : (digitsOf (n.natAbs + 1) n.natAbs).isEmpty = false := by
    simpa using digitsOf_ne_nil n.natAbs n.natAbs
  have value : int64Of (decide (n < 0)) (digitsOf (n.natAbs + 1) n.natAbs) = some n := by
    simp only [int64Of, numberOf_digitsOf (Nat.lt_succ_self _), decide_eq_true_eq]
    have signed : (if n < 0 then -(n.natAbs : Int) else n.natAbs) = n := by split <;> omega
    rw [signed, if_pos ⟨lower, upper⟩]
  simp only [atoi, sign_itoa, nonempty, plain, Bool.or_self, Bool.false_eq_true, ↓reduceIte, value]

/-- The decimal text of a number spells it. -/
theorem itoa_inj {m n : Int} : itoa m = itoa n ↔ m = n := by
  refine ⟨fun same => ?_, congrArg itoa⟩
  have parts := congrArg (fun text => sign text.toList) same
  simp only [sign_itoa, Prod.mk.injEq, decide_eq_decide] at parts
  have sizes := congrArg numberOf parts.2
  rw [numberOf_digitsOf (Nat.lt_succ_self _), numberOf_digitsOf (Nat.lt_succ_self _)] at sizes
  omega

/-- On a whole integer text the lenient scan agrees with the strict one. -/
theorem sscanfInt_of_atoi {text : String} {n : Int} (strict : atoi text = some n) : sscanfInt text = n := by
  unfold atoi at strict
  rcases shape : sign text.toList with ⟨negative, digits⟩
  simp only [shape] at strict
  split at strict
  · contradiction
  · rename_i whole
    simp only [Bool.or_eq_true, List.isEmpty_iff, List.any_eq_true, not_or, not_exists, not_and,
      Bool.not_eq_true', Bool.not_eq_false] at whole
    have all : digits.takeWhile Char.isDigit = digits :=
      List.takeWhile_eq_self_iff.mpr fun c member => by simpa using whole.2 c member
    simp only [sscanfInt, shape, all, List.isEmpty_iff, whole.1, ↓reduceIte, strict, Option.getD_some]

end Portage.Go
