import Mathlib.Data.List.DropRight
import Portage.Controller.Restore
import Portage.Go.Format

/-! Whether a failed Restore is tried again is read off its message. The message quotes
what was applied, what the API server said and the destination's name, so a word that
marks a permanent failure can come from any of them. -/
namespace Portage

open Go

/-- None of the words that mark a permanent failure occurs, in any case. -/
def FreeOfTerminalWords (text : String) : Prop :=
  ∀ word ∈ terminalWords, contains (toLower text) word = false

instance (text : String) : Decidable (FreeOfTerminalWords text) :=
  inferInstanceAs (Decidable (∀ word ∈ terminalWords, contains (toLower text) word = false))

/-- What the API server says to an apply that can succeed later. -/
inductive Refusal
  | notFound (resource name : String)
  | conflict (resource name : String)
  | denied (webhook reason : String)

/-- The text of a refusal, with the names and the webhook's own words, if it has any, quoted in it. -/
def Refusal.text : Refusal → String
  | notFound resource name => resource ++ " \"" ++ name ++ "\" not found"
  | conflict resource name => "Operation cannot be fulfilled on " ++ resource ++ " \"" ++ name ++
      "\": the object has been modified; please apply your changes to the latest version and try again"
  | denied webhook reason => "admission webhook \"" ++ webhook ++ "\" denied the request" ++
      if reason = "" then " without explanation" else ": " ++ reason

/-- The error that `apply.Typed` wraps around the refusal of one object. -/
structure ApplyError where
  kind : String
  name : String
  refusal : Refusal

def ApplyError.text (e : ApplyError) : String :=
  "apply " ++ e.kind ++ "/" ++ e.name ++ ": " ++ e.refusal.text

/-- The message of a Restore that the error stopped: as the pass makes it, or as it is
stored with the destination's name. -/
def ApplyError.message (e : ApplyError) : Option String → String
  | none => "dest apply: " ++ e.text
  | some dest => trimSpace ("dest apply: " ++ e.text ++ "; dest=" ++ dest)

/-- How the messages of permanent failures start. -/
def permanentStarts : List String := ["preflight:", "policy:", "spec.policyRef", "unsupported action type"]

/-! ### Letters -/

theorem toList_toLower (text : String) : (toLower text).toList = text.toList.map lowerChar := by
  simp [toLower]

theorem toLower_append (a b : String) : toLower (a ++ b) = toLower a ++ toLower b := by
  simp [toLower]

private theorem lowerChar_space {c : Char} (space : isSpace c = true) : lowerChar c = c := by
  have narrow : c.val ≠ 0x212a ∧ c.val ≠ 0x130 ∧ ¬ (65 ≤ c.val ∧ c.val ≤ 90) := by
    simp only [isSpace, Bool.or_eq_true, decide_eq_true_eq, Bool.and_eq_true, List.mem_cons, List.not_mem_nil,
      or_false, ← UInt32.toNat_inj, UInt32.le_iff_toNat_le, UInt32.reduceToNat, ne_eq] at space ⊢
    omega
  rw [lowerChar, if_neg narrow.1, if_neg narrow.2.1]
  exact dif_neg narrow.2.2

/-- Trimming a text reaches only what stands behind its first and last letters. -/
theorem trimSpace_append {c d : Char} (starts : isSpace c = false) (ends : isSpace d = false)
    (inner back : List Char) :
    trimSpace (String.ofList (c :: (inner ++ d :: back))) =
      String.ofList (c :: (inner ++ d :: back.rdropWhile isSpace)) := by
  have right (front : List Char) :
      (front ++ d :: back).rdropWhile isSpace = front ++ d :: back.rdropWhile isSpace := by
    induction back using List.reverseRecOn with
    | nil => rw [List.rdropWhile_concat_neg _ _ _ (by simp [ends]), List.rdropWhile_nil]
    | append_singleton back last ih =>
      by_cases space : isSpace last = true
      · rw [← List.cons_append, ← List.append_assoc, List.rdropWhile_concat_pos _ _ _ space, ih,
          List.rdropWhile_concat_pos _ _ _ space]
      · rw [← List.cons_append, ← List.append_assoc, List.rdropWhile_concat_neg _ _ _ space,
          List.rdropWhile_concat_neg _ _ _ space, List.append_assoc, List.cons_append]
  have left : (c :: (inner ++ d :: back)).dropWhile isSpace = c :: (inner ++ d :: back) :=
    List.dropWhile_cons_of_neg (by simp [starts])
  rw [trimSpace, String.toList_ofList, left]
  exact congrArg String.ofList (right (c :: inner))

/-- Spaces at the end do not take part in an occurrence of a text that ends in a letter. -/
theorem infix_trimmed {last : Char} (letter : isSpace last = false) (part text : List Char) :
    part ++ [last] <:+: (text.rdropWhile isSpace).map lowerChar ↔ part ++ [last] <:+: text.map lowerChar := by
  induction text using List.reverseRecOn with
  | nil => simp
  | append_singleton text c ih =>
    by_cases space : isSpace c = true
    · have other : last ∉ [c] := by
        intro same
        rw [List.mem_singleton.mp same, space] at letter
        cases letter
      rw [List.rdropWhile_concat_pos _ _ _ space, ih, List.map_append, List.map_singleton, lowerChar_space space]
      -- read backwards, the text starts with a space and the part with its last letter
      refine List.reverse_infix.symm.trans (Iff.trans ?_ List.reverse_infix)
      rw [List.reverse_concat, List.reverse_concat]
      exact (infix_skip other _ _).symm
    · rw [List.rdropWhile_concat_neg _ _ _ space]

/-! ### Where a word can stand in a message -/

/-- What the words have in common: they end in a letter, and hold none of the marks
before the destination's name. -/
private theorem word_shape {word : String} (member : word ∈ terminalWords) :
    ';' ∉ word.toList ∧ '=' ∉ word.toList ∧ isSpace (word.toList.getLastD ' ') = false := by
  revert word
  decide

private theorem word_split {word : String} (member : word ∈ terminalWords) :
    ∃ part last, word.toList = part ++ [last] ∧ isSpace last = false := by
  have letter := (word_shape member).2.2
  cases shape : word.toList using List.reverseRecOn with
  | nil => rw [shape] at letter; cases letter
  | append_singleton part last =>
    rw [shape, List.getLastD_concat] at letter
    exact ⟨part, last, rfl, letter⟩

/-- No word starts in the message's own opening. -/
private theorem word_in_opening {word : String} (member : word ∈ terminalWords) (rest : List Char) :
    word.toList <:+: "dest apply: ".toList ++ rest ↔ word.toList <:+: rest := by
  simp only [terminalWords, List.mem_cons, List.not_mem_nil, or_false] at member
  rcases member with rfl | rfl | rfl | rfl | rfl | rfl | rfl <;>
    simp [List.infix_cons_iff, List.cons_prefix_cons]

/-- A word that stands before or behind the destination's mark stands in one of the two. -/
private theorem word_around_dest {word : String} (member : word ∈ terminalWords) (front back : List Char) :
    word.toList <:+: front ++ ("; dest=".toList ++ back) ↔ word.toList <:+: front ∨ word.toList <:+: back := by
  obtain ⟨noSemicolon, noEquals, -⟩ := word_shape member
  have between : ¬ word.toList <:+: " dest".toList := by
    revert word
    decide
  have mark : "; dest=".toList ++ back = ';' :: (" dest".toList ++ '=' :: back) := by simp
  rw [mark, infix_around noSemicolon, infix_around noEquals, or_iff_right between]

/-- The characters of a message: the opening, the error and, when it is stored, the
destination's name without the spaces at its end. -/
private theorem toList_message (e : ApplyError) (dest : Option String) :
    (e.message dest).toList = "dest apply: ".toList ++ (e.text.toList ++
      (dest.map fun name => "; dest=".toList ++ name.toList.rdropWhile isSpace).getD []) := by
  cases dest with
  | none => simp [ApplyError.message]
  | some name =>
    have shape : "dest apply: " ++ e.text ++ "; dest=" ++ name = String.ofList ('d' ::
        (("est apply: ".toList ++ e.text.toList ++ "; dest".toList) ++ '=' :: name.toList)) := by
      apply String.toList_injective
      simp
    rw [ApplyError.message, shape, trimSpace_append (by decide) (by decide)]
    simp

theorem terminalWord_in_message {word : String} (member : word ∈ terminalWords) (e : ApplyError)
    (dest : Option String) : contains (toLower (e.message dest)) word = true ↔
      contains (toLower e.text) word = true ∨ ∃ name ∈ dest, contains (toLower name) word = true := by
  have opening : "dest apply: ".toList.map lowerChar = "dest apply: ".toList := by decide
  have mark : "; dest=".toList.map lowerChar = "; dest=".toList := by decide
  simp only [contains_iff, toList_toLower, toList_message, List.map_append, opening]
  rw [word_in_opening member]
  cases dest with
  | none => simp
  | some name =>
    obtain ⟨part, last, shape, letter⟩ := word_split member
    have trimmed := infix_trimmed letter part name.toList
    rw [← shape] at trimmed
    simp only [Option.map_some, Option.getD_some, List.map_append, mark, word_around_dest member, trimmed,
      Option.mem_def, Option.some.injEq, exists_eq_left']

/-! ### The classification -/

/-- A message that starts as those of failed applies do is retried unless it holds one of
the words. -/
theorem restoreRetryable_of_opening {message : String} {rest : List Char}
    (opens : message.toList = "dest apply: ".toList ++ rest) :
    restoreRetryable message = true ↔ FreeOfTerminalWords message := by
  have said : message ≠ "" := by
    rintro rfl
    simp at opens
  have marked : contains message "dest apply:" = true := by
    rw [contains_iff, opens]
    exact ⟨[], ' ' :: rest, by simp⟩
  simp only [restoreRetryable, if_neg said, marked, Bool.true_or, FreeOfTerminalWords]
  split_ifs with held
  · obtain ⟨word, member, inside⟩ := List.any_eq_true.mp held
    refine iff_of_false (by simp) fun free => ?_
    rw [free word member] at inside
    cases inside
  · refine iff_of_true rfl fun word member => ?_
    rw [List.any_eq_true] at held
    exact Bool.eq_false_iff.mpr fun inside => held ⟨word, member, inside⟩

theorem restoreRetryable_message (e : ApplyError) (dest : Option String) :
    restoreRetryable (e.message dest) = true ↔
      FreeOfTerminalWords e.text ∧ ∀ name ∈ dest, FreeOfTerminalWords name := by
  have each {word : String} (member : word ∈ terminalWords) :
      contains (toLower (e.message dest)) word = false ↔
        contains (toLower e.text) word = false ∧ ∀ name ∈ dest, contains (toLower name) word = false := by
    simp only [← Bool.not_eq_true, terminalWord_in_message member, not_or, not_exists, not_and]
  rw [restoreRetryable_of_opening (toList_message e dest)]
  constructor
  · intro free
    exact ⟨fun word member => ((each member).mp (free word member)).1,
      fun name known word member => ((each member).mp (free word member)).2 name known⟩
  · rintro ⟨plainText, plainName⟩ word member
    exact (each member).mpr ⟨plainText word member, fun name known => plainName name known word member⟩

/-- A message that holds one of the words is not retried, whatever else it says. -/
theorem restoreRetryable_of_word {message word : String} (member : word ∈ terminalWords)
    (inside : contains (toLower message) word = true) : restoreRetryable message = false := by
  have held : terminalWords.any (contains (toLower message)) = true :=
    List.any_eq_true.mpr ⟨word, member, inside⟩
  simp only [restoreRetryable, if_pos held]
  split_ifs <;> rfl

theorem restoreRetryable_permanent {start : String} (member : start ∈ permanentStarts) (rest : String) :
    restoreRetryable (start ++ rest) = false := by
  have word : ∃ word ∈ terminalWords, word.toList <+: (toLower start).toList := by
    revert start
    decide
  obtain ⟨word, listed, opens⟩ := word
  refine restoreRetryable_of_word listed ?_
  rw [contains_iff, toLower_append, String.toList_append]
  exact (opens.trans (List.prefix_append _ _)).isInfix

/-- An apply that the API server refused for now is tried again exactly if neither the
error nor the destination's name holds a word of a permanent failure; the messages of
permanent failures are final whatever they go on to say. -/
theorem restoreRetryable_iff (e : ApplyError) (dest : Option String) :
    (restoreRetryable (e.message dest) = true ↔
      FreeOfTerminalWords e.text ∧ ∀ name ∈ dest, FreeOfTerminalWords name) ∧
    ∀ start ∈ permanentStarts, ∀ rest, restoreRetryable (start ++ rest) = false :=
  ⟨restoreRetryable_message e dest, fun _ member rest => restoreRetryable_permanent member rest⟩

theorem restoreRetryable_iff_shop :
    restoreRetryable (ApplyError.message ⟨"ConfigMap", "app", .notFound "namespaces" "shop"⟩ (some "east")) = true ∧
    restoreRetryable ("preflight:" ++ " claim not found") = false :=
  have sorted := restoreRetryable_iff ⟨"ConfigMap", "app", .notFound "namespaces" "shop"⟩ (some "east")
  ⟨sorted.1.mpr ⟨by decide +kernel, by decide⟩, sorted.2 _ (by decide) _⟩

/-- The colon behind an object's name makes a word of the name's last letters. -/
theorem restoreRetryable_policy_object : restoreRetryable (ApplyError.message
    ⟨"ConfigMap", "retention-policy", .notFound "namespaces" "shop"⟩ none) = false := by
  decide +kernel

end Portage
