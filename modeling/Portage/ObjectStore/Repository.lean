import Portage.Go.Format
import Portage.Kube.Names
import Portage.ObjectStore.Location

/-! How a restic repository depends on the folder that is appended to a store URL: it
shows the folder, or it is the same for all of them. -/
namespace Portage.ObjectStore

open Go Kube

/-! ### Folders -/

/-- What is appended to a store URL after a slash: legal names with slashes between. -/
structure Folder (text : List Char) : Prop where
  starts : text.head?.any isAlnum = true
  ends : text.getLast?.any isAlnum = true
  plain : ∀ c ∈ text, isAlnum c = true ∨ c = '-' ∨ c = '.' ∨ c = '/'
  slashed : '/' ∈ text

namespace Folder

variable {text : List Char}

theorem ne_nil (folder : Folder text) : text ≠ [] := by
  rintro rfl
  simpa using folder.starts

theorem head?_ne (folder : Folder text) (mark : Char) (other : isAlnum mark = false) : text.head? ≠ some mark := by
  intro same
  have letter := folder.starts
  simp [same, other] at letter

theorem getLast?_ne (folder : Folder text) {mark : Char} (other : isAlnum mark = false) :
    text.getLast? ≠ some mark := by
  intro same
  have letter := folder.ends
  simp [same, other] at letter

end Folder

variable {text : List Char}

theorem not_isSpace_of_isAlnum {c : Char} (letter : isAlnum c = true) : isSpace c = false := by
  have ⟨low, high⟩ := isAlnum_code letter
  simp only [Char.toNat] at low high
  simp only [isSpace, List.mem_cons, List.not_mem_nil, or_false, Bool.or_eq_false_iff, decide_eq_false_iff_not,
    Bool.and_eq_false_iff, not_or, UInt32.le_iff_toNat_le, ← UInt32.toNat_inj]
  simp only [UInt32.reduceToNat]
  refine ⟨?_, .inl ?_⟩ <;> omega

/-- The folder of a workload. -/
theorem folder_of_legal {ns name : String} (legal : legalName ns = true) (legal' : legalName name = true) :
    Folder (ns.toList ++ '/' :: name.toList) := by
  have plain {text : String} (legal : legalName text = true) : ∀ c ∈ text.toList,
      isAlnum c = true ∨ c = '-' ∨ c = '.' ∨ c = '/' := fun c member =>
    (legalName_mem legal member).imp_right (Or.imp_right .inl)
  refine ⟨?_, ?_, ?_, by simp⟩
  · rw [legalName, Bool.and_eq_true, Bool.and_eq_true] at legal
    have starts := legal.1.1
    cases letters : ns.toList with
    | nil => simp [letters] at starts
    | cons c rest => simpa [letters] using starts
  · rw [legalName, Bool.and_eq_true, Bool.and_eq_true] at legal'
    have ends := legal'.1.2
    have some : name.toList ≠ [] := fun none => by simp [none] at ends
    rwa [List.getLast?_append_of_ne_nil _ (by simp), List.getLast?_cons_of_ne_nil some]
  · intro c member
    rcases List.mem_append.mp member with inside | inside
    · exact plain legal c inside
    · rcases List.mem_cons.mp inside with rfl | inside
      · exact .inr (.inr (.inr rfl))
      · exact plain legal' c inside

/-! ### Trimming -/

theorem trim_folder (folder : Folder text) (front back : List Char) :
    trim '/' (front ++ text ++ back) = front.dropWhile (· == '/') ++ text ++ trimRight '/' back := by
  have slash : isAlnum '/' = false := by decide
  have kept : (text ++ back).dropWhile (· == '/') = text ++ back := by
    cases letters : text with
    | nil => exact absurd letters folder.ne_nil
    | cons c rest =>
      refine List.dropWhile_cons_of_neg fun same => folder.head?_ne '/' slash ?_
      simpa [letters] using same
  have dropped : (front ++ text ++ back).dropWhile (· == '/') = front.dropWhile (· == '/') ++ text ++ back := by
    rw [List.append_assoc, List.dropWhile_append, kept]
    cases front.dropWhile (· == '/') <;> simp
  have ends : (front.dropWhile (· == '/') ++ text).getLast? ≠ some '/' := by
    rw [List.getLast?_append_of_ne_nil _ folder.ne_nil]
    exact folder.getLast?_ne slash
  rw [trim, dropped, trimRight_append ends]

theorem trimSpace_folder (folder : Folder text) (base : List Char) :
    trimSpace (String.ofList (base ++ '/' :: text)) = String.ofList (base.dropWhile isSpace ++ '/' :: text) := by
  have front : (base ++ '/' :: text).dropWhile isSpace = base.dropWhile isSpace ++ '/' :: text := by
    rw [List.dropWhile_append]
    cases started : base.dropWhile isSpace with
    | nil => simp [List.dropWhile_cons_of_neg, show isSpace '/' = false by decide]
    | cons c rest => rfl
  have ends (start : List Char) : List.rdropWhile isSpace (start ++ '/' :: text) = start ++ '/' :: text := by
    refine List.rdropWhile_eq_self_iff.mpr fun some space => ?_
    have letter := folder.ends
    rw [List.getLast_append_of_ne_nil (by simp) (by simp), List.getLast_cons folder.ne_nil] at space
    rw [List.getLast?_eq_some_getLast folder.ne_nil, Option.any_some] at letter
    rw [not_isSpace_of_isAlnum letter] at space
    cases space
  rw [trimSpace, String.toList_ofList, front]
  exact congrArg String.ofList (ends _)

/-! ### Schemes -/

/-- A base that starts with a scheme does so before the folder. -/
theorem scheme_folder {base scheme : List Char} (folder : Folder text) (ended : base.getLast? ≠ some '/')
    (plain : '/' ∉ scheme) : scheme ++ ['/', '/'] <+: base ++ '/' :: text ↔ scheme ++ ['/', '/'] <+: base := by
  refine ⟨?_, fun starts => starts.trans (List.prefix_append ..)⟩
  rintro ⟨rest, whole⟩
  have whole : scheme ++ '/' :: ('/' :: rest) = base ++ '/' :: text := by simpa using whole
  by_cases inside : '/' ∈ base
  · obtain ⟨front, back, rfl, before⟩ := List.eq_append_cons_of_mem inside
    rw [List.append_assoc, List.cons_append] at whole
    obtain ⟨rfl, second⟩ := mark_inj plain before whole
    cases back with
    | nil => simp at ended
    | cons c back =>
      obtain ⟨rfl, _⟩ := List.cons_eq_cons.mp second
      exact ⟨back, by simp⟩
  · obtain ⟨_, second⟩ := mark_inj plain inside whole
    exact absurd (by rw [← second]; rfl) (folder.head?_ne '/' (by decide))

/-! ### Addresses -/

private theorem hexValue_slash : hexValue '/' = none := by decide

private theorem unescape_cons {c : Char} (other : c ≠ '%') (rest : List Char) :
    unescape (c :: rest) = (c :: ·) <$> unescape rest := by
  rw [unescape]
  · exact fun _ _ _ same => absurd same other
  · exact other

theorem unescape_plain (plain : '%' ∉ text) : unescape text = some text := by
  induction text with
  | nil => rfl
  | cons c rest ih =>
    have other : c ≠ '%' := fun same => plain (by simp [same])
    rw [unescape_cons other, ih fun inside => plain (by simp [inside])]
    rfl

/-- What follows a slash and has no escapes does not matter to the escapes before it. -/
theorem unescape_append (plain : '%' ∉ text) (front : List Char) :
    unescape (front ++ '/' :: text) = (unescape front).map (· ++ '/' :: text) := by
  fun_induction unescape front with
  | case1 => exact unescape_plain (by simpa using plain)
  | case2 high low rest ih =>
    simp only [List.cons_append, unescape, ih]
    cases hexValue high <;> cases hexValue low <;> cases unescape rest <;> rfl
  | case3 rest short =>
    -- an escape that is cut short would have to take in the slash
    rcases rest with _ | ⟨c, _ | ⟨d, rest⟩⟩
    · cases text <;> simp [unescape, hexValue_slash]
    · simp [unescape, hexValue_slash]
    · exact (short c d rest rfl).elim
  | case4 c rest _ other ih =>
    rw [List.cons_append, unescape_cons other, ih]
    cases unescape rest <;> rfl

/-- The part of an address that is shown as its path. -/
def Shown (address : List Char) : Prop := '#' ∉ address ∧ '?' ∉ address

instance (address : List Char) : Decidable (Shown address) := inferInstanceAs (Decidable (_ ∧ _))

private theorem cutAt_of_not_mem {mark : Char} (plain : mark ∉ text) : cutAt mark text = (text, none) := by
  have passed : text.dropWhile (· != mark) = [] :=
    List.dropWhile_eq_nil_iff.mpr fun c member => by
      have other : c ≠ mark := fun same => plain (same ▸ member)
      simpa using other
  rw [cutAt, passed]

private theorem cutAt_of_mem {mark : Char} (inside : mark ∈ text) (more : List Char) :
    ∃ front back, cutAt mark text = (front, some back) ∧ cutAt mark (text ++ more) = (front, some (back ++ more)) := by
  obtain ⟨front, back, rfl, before⟩ := List.eq_append_cons_of_mem inside
  refine ⟨front, back, cutAt_append before, ?_⟩
  rw [List.append_assoc, List.cons_append, cutAt_append before]

private theorem takeWhile_slash (front text : List Char) :
    (front ++ '/' :: text).takeWhile (· != '/') = front.takeWhile (· != '/') := by
  induction front with
  | nil => rfl
  | cons c rest ih => simp only [List.cons_append, List.takeWhile_cons, ih]

private theorem dropWhile_slash (front text : List Char) :
    (front ++ '/' :: text).dropWhile (· != '/') = front.dropWhile (· != '/') ++ '/' :: text := by
  induction front with
  | nil => rfl
  | cons c rest ih =>
    simp only [List.cons_append, List.dropWhile_cons, ih]
    split <;> rfl

/-- The marks that a folder has none of. -/
theorem Folder.not_mem (folder : Folder text) (mark : Char) (other : isAlnum mark = false)
    (special : mark ≠ '-' ∧ mark ≠ '.' ∧ mark ≠ '/') : mark ∉ '/' :: text := by
  intro inside
  rcases List.mem_cons.mp inside with same | inside
  · exact special.2.2 same
  · rcases folder.plain mark inside with letter | same | same | same
    · rw [other] at letter
      cases letter
    · exact special.1 same
    · exact special.2.1 same
    · exact special.2.2 same

theorem Folder.not_control (folder : Folder text) : ('/' :: text).any isControl = false := by
  refine List.any_eq_false.mpr fun c inside => ?_
  rcases List.mem_cons.mp inside with rfl | inside
  · decide
  · rcases folder.plain c inside with letter | rfl | rfl | rfl
    · have ⟨low, high⟩ := isAlnum_code letter
      simp only [isControl, Bool.or_eq_true, decide_eq_true_eq]
      omega
    all_goals decide

/-- The path of an address with a folder goes on with the folder, unless the folder falls
into a query or a fragment. -/
theorem parseHTTP_folder (folder : Folder text) (authority : String → Option String) (address : List Char) :
    parseHTTP authority (address ++ '/' :: text) =
      (parseHTTP authority address).map fun found =>
        (found.1, if Shown address then found.2 ++ '/' :: text else found.2) := by
  have escapes : '%' ∉ text := fun inside =>
    folder.not_mem '%' (by decide) (by decide) (List.mem_cons_of_mem _ inside)
  have query := folder.not_mem '?' (by decide) (by decide)
  have fragment := folder.not_mem '#' (by decide) (by decide)
  by_cases marked : '#' ∈ address
  · obtain ⟨front, back, cut, cut'⟩ := cutAt_of_mem marked ('/' :: text)
    have hidden : ¬ Shown address := fun shown => shown.1 marked
    have spelled : (unescape (back ++ '/' :: text)).isNone = (unescape back).isNone := by
      rw [unescape_append escapes, Option.isNone_map]
    simp only [parseHTTP, cut, cut', Option.getD_some, spelled, hidden, ↓reduceIte]
    exact Option.map_id'.symm
  · have whole : cutAt '#' (address ++ '/' :: text) = (address ++ '/' :: text, none) :=
      cutAt_of_not_mem fun inside => (List.mem_append.mp inside).elim marked fragment
    have controls : (address ++ '/' :: text).any isControl = address.any isControl := by
      rw [List.any_append, folder.not_control, Bool.or_false]
    by_cases asked : '?' ∈ address
    · obtain ⟨front, back, cut, cut'⟩ := cutAt_of_mem asked ('/' :: text)
      have hidden : ¬ Shown address := fun shown => shown.2 asked
      simp only [parseHTTP, whole, cutAt_of_not_mem marked, controls, cut, cut', hidden, ↓reduceIte]
      exact Option.map_id'.symm
    · have whole' : cutAt '?' (address ++ '/' :: text) = (address ++ '/' :: text, none) :=
        cutAt_of_not_mem fun inside => (List.mem_append.mp inside).elim asked query
      have shown : Shown address := ⟨marked, asked⟩
      simp only [parseHTTP, whole, whole', cutAt_of_not_mem marked, cutAt_of_not_mem asked, controls,
        takeWhile_slash, dropWhile_slash, unescape_append escapes, shown, ↓reduceIte]
      split
      · rfl
      · split
        · rfl
        · cases authority (String.ofList (address.takeWhile (· != '/'))) <;>
            cases unescape (address.dropWhile (· != '/')) <;> rfl

/-! ### Repositories -/

/-- What a repository has before its path. -/
def site (endpoint : String) : String :=
  let endpoint := String.ofList (trimRight '/' endpoint.toList)
  if endpoint = "" then "s3:s3.amazonaws.com/" else "s3:" ++ endpoint ++ "/"

/-- The repository for the endpoint, the bucket and the folder that a URL was found to
name. -/
def Creds.repositoryAt (c : Creds) (found : String × String × String) : String :=
  let (bucket, folder) := if found.2.1 = "" ∧ c.bucket = "" then found.2
    else (if found.2.1 = "" then c.bucket else found.2.1, if found.2.2 = "" then c.folder else found.2.2)
  site (if c.endpoint = "" then found.1 else c.endpoint) ++ String.ofList (trim '/' (bucket ++ "/" ++ folder).toList)

theorem Creds.resticRepository_eq (c : Creds) (authority : String → Option String) {dest : String} (some : dest ≠ "") :
    c.resticRepository authority dest = c.repositoryAt (parseURL authority dest) := by
  rcases parsed : parseURL authority dest with ⟨endpoint, bucket, folder⟩
  simp only [resticRepository, repositoryAt, parsed, some, site, ne_eq, not_false_eq_true, true_and]
  have chosen : (if bucket = "" then c.bucket else bucket) = "" ↔ bucket = "" ∧ c.bucket = "" := by
    by_cases none : bucket = "" <;> simp [none]
  simp only [chosen]
  generalize (if c.endpoint = "" then endpoint else c.endpoint) = endpoint
  by_cases none : String.ofList (trimRight '/' endpoint.toList) = "" <;>
    simp only [none, ↓reduceIte, String.append_assoc]

section
variable {base : List Char} (ended : base.getLast? ≠ some '/')
include ended

private theorem bare_ended : (base.dropWhile isSpace).getLast? ≠ some '/' := by
  obtain ⟨front, whole⟩ := List.dropWhile_suffix isSpace (l := base)
  by_cases none : base.dropWhile isSpace = []
  · simp [none]
  · rwa [← List.getLast?_append_of_ne_nil front none, whole]

private theorem hasPrefix_folder {text : List Char} (folder : Folder text) (scheme : String)
    (plain : '/' ∉ scheme.toList) :
    hasPrefix (String.ofList (base.dropWhile isSpace ++ '/' :: text)) (scheme ++ "//") =
      (scheme ++ "//").toList.isPrefixOf (base.dropWhile isSpace) := by
  have same := scheme_folder folder (bare_ended ended) plain
  rw [Bool.eq_iff_iff, hasPrefix_iff, String.toList_append, List.isPrefixOf_iff_prefix]
  rwa [String.toList_ofList, String.toList_ofList]

end

/-- The address of an HTTP URL. -/
def httpAddress (base : List Char) : Option (String × List Char) :=
  let bare := base.dropWhile isSpace
  if ("http:" ++ "//").toList.isPrefixOf bare then some ("http", bare.drop 7)
  else if ("https:" ++ "//").toList.isPrefixOf bare then some ("https", bare.drop 8)
  else none

/-- The endpoint, the bucket and the folder of an HTTP URL that was parsed. -/
def located (endpoint : String) (path : List Char) : String × String × String :=
  (endpoint, String.ofList (cutAt '/' (trim '/' path)).1, String.ofList ((cutAt '/' (trim '/' path)).2.getD []))

section
variable {base : List Char} (ended : base.getLast? ≠ some '/') (authority : String → Option String)
include ended

private theorem parseURL_folder {text : List Char} (folder : Folder text) :
    parseURL authority (String.ofList (base ++ '/' :: text)) =
      if ("s3:" ++ "//").toList.isPrefixOf (base.dropWhile isSpace) then
        ("", String.ofList (cutAt '/' ((base.dropWhile isSpace).drop 5 ++ '/' :: text)).1,
          String.ofList (trim '/' ((cutAt '/' ((base.dropWhile isSpace).drop 5 ++ '/' :: text)).2.getD [])))
      else (httpAddress base).elim ("", String.ofList (base.dropWhile isSpace ++ '/' :: text), "") fun http =>
        (parseHTTP authority (http.2 ++ '/' :: text)).elim
          (String.ofList (base.dropWhile isSpace ++ '/' :: text), "", "")
          fun found => located (http.1 ++ "://" ++ found.1) found.2 := by
  have short {scheme : List Char} (starts : scheme.isPrefixOf (base.dropWhile isSpace) = true) :
      (base.dropWhile isSpace ++ '/' :: text).drop scheme.length =
        (base.dropWhile isSpace).drop scheme.length ++ '/' :: text :=
    List.drop_append_of_le_length (List.isPrefixOf_iff_prefix.mp starts).length_le
  have s3 : hasPrefix (String.ofList (base.dropWhile isSpace ++ '/' :: text)) "s3://" = _ :=
    hasPrefix_folder ended folder "s3:" (by decide)
  have http : hasPrefix (String.ofList (base.dropWhile isSpace ++ '/' :: text)) "http://" = _ :=
    hasPrefix_folder ended folder "http:" (by decide)
  have https : hasPrefix (String.ofList (base.dropWhile isSpace ++ '/' :: text)) "https://" = _ :=
    hasPrefix_folder ended folder "https:" (by decide)
  simp only [parseURL, trimSpace_folder folder, httpAddress, located, s3, http, https, String.toList_ofList]
  split
  · rename_i starts
    rw [show 5 = ("s3:" ++ "//").toList.length from rfl, short starts]
    rcases cutAt '/' _ with ⟨bucket, _ | path⟩ <;> rfl
  · by_cases starts : ("http:" ++ "//").toList.isPrefixOf (base.dropWhile isSpace) = true
    · have rest : (base.dropWhile isSpace ++ '/' :: text).drop 7 = (base.dropWhile isSpace).drop 7 ++ '/' :: text :=
        short starts
      have width : "http".length + 3 = 7 := rfl
      simp only [starts, true_or, ↓reduceIte, Option.elim_some, width, rest]
      rcases parseHTTP authority _ with _ | ⟨host, path⟩
      · rfl
      · simp only [Option.elim_some]
        rcases cutAt '/' (trim '/' path) with ⟨bucket, _ | folder⟩ <;> rfl
    · by_cases starts' : ("https:" ++ "//").toList.isPrefixOf (base.dropWhile isSpace) = true
      · have rest : (base.dropWhile isSpace ++ '/' :: text).drop 8 = (base.dropWhile isSpace).drop 8 ++ '/' :: text :=
          short starts'
        have width : "https".length + 3 = 8 := rfl
        simp only [starts, starts', Bool.false_eq_true, or_true, ↓reduceIte, Option.elim_some, width, rest]
        rcases parseHTTP authority _ with _ | ⟨host, path⟩
        · rfl
        · simp only [Option.elim_some]
          rcases cutAt '/' (trim '/' path) with ⟨bucket, _ | folder⟩ <;> rfl
      · simp only [starts, starts', Bool.false_eq_true, or_false, ↓reduceIte, Option.elim_none]

theorem parseURL_http {scheme : String} {address : List Char} (http : httpAddress base = some (scheme, address))
    {text : List Char} (folder : Folder text) :
    parseURL authority (String.ofList (base ++ '/' :: text)) =
      (parseHTTP authority (address ++ '/' :: text)).elim
        (String.ofList (base.dropWhile isSpace ++ '/' :: text), "", "")
        fun found => located (scheme ++ "://" ++ found.1) found.2 := by
  have other : ¬ ("s3:" ++ "//").toList.isPrefixOf (base.dropWhile isSpace) = true := by
    intro starts
    obtain ⟨rest, whole⟩ := List.isPrefixOf_iff_prefix.mp starts
    rw [httpAddress, ← whole] at http
    cases http
  rw [parseURL_folder ended authority folder, if_neg other, http, Option.elim_some]

/-- A base that is no HTTP URL is a bucket with a folder, or is taken as the bucket. -/
theorem parseURL_plain (http : httpAddress base = none) :
    (∃ bucket front, ∀ text, Folder text → parseURL authority (String.ofList (base ++ '/' :: text)) =
      ("", bucket, String.ofList (front ++ text))) ∨
    ∀ text, Folder text → parseURL authority (String.ofList (base ++ '/' :: text)) =
      ("", String.ofList (base.dropWhile isSpace ++ '/' :: text), "") := by
  by_cases starts : ("s3:" ++ "//").toList.isPrefixOf (base.dropWhile isSpace) = true
  · left
    by_cases inside : '/' ∈ (base.dropWhile isSpace).drop 5
    · obtain ⟨bucket, start, whole, before⟩ := List.eq_append_cons_of_mem inside
      refine ⟨String.ofList bucket, (start ++ ['/']).dropWhile (· == '/'), fun text folder => ?_⟩
      have trimmed := trim_folder folder (start ++ ['/']) []
      rw [parseURL_folder ended authority folder, if_pos starts, whole, List.append_assoc, List.cons_append,
        cutAt_append before, Option.getD_some]
      simp only [List.append_assoc, List.append_nil, List.cons_append, List.nil_append] at trimmed
      simp [trimmed, trimRight]
    · refine ⟨String.ofList ((base.dropWhile isSpace).drop 5), [], fun text folder => ?_⟩
      have trimmed := trim_folder folder [] []
      rw [parseURL_folder ended authority folder, if_pos starts, cutAt_append inside, Option.getD_some]
      simp only [List.nil_append, List.append_nil] at trimmed
      simp [trimmed, trimRight]
  · exact .inr fun text folder => by rw [parseURL_folder ended authority folder, if_neg starts, http, Option.elim_none]

end

section
variable (c : Creds) {endpoint bucket folder : String}

theorem Creds.repositoryAt_folder (some : folder ≠ "") :
    c.repositoryAt (endpoint, bucket, folder) = site (if c.endpoint = "" then endpoint else c.endpoint) ++
      String.ofList (trim '/' ((if bucket = "" then c.bucket else bucket) ++ "/" ++ folder).toList) := by
  by_cases none : bucket = "" <;> by_cases none' : c.bucket = "" <;>
    simp only [repositoryAt, none, none', some, and_self, and_true, and_false, ↓reduceIte]

theorem Creds.repositoryAt_bucket (some : bucket ≠ "") :
    c.repositoryAt (endpoint, bucket, folder) = site (if c.endpoint = "" then endpoint else c.endpoint) ++
      String.ofList (trim '/' (bucket ++ "/" ++ (if folder = "" then c.folder else folder)).toList) := by
  simp only [repositoryAt, some, false_and, ↓reduceIte]

end

/-- Whether the repository under a base URL shows the folder. A folder behind `?` or `#`
in an HTTP address is lost; so is one of a URL that is no address, if the keys come with
an endpoint. -/
def Creds.Locates (c : Creds) (authority : String → Option String) (base : List Char) : Prop :=
  ∀ http ∈ httpAddress base, if (parseHTTP authority http.2).isSome then Shown http.2 else c.endpoint = ""

private theorem nonempty_folder (folder : Folder text) (front : List Char) : String.ofList (front ++ text) ≠ "" := by
  intro none
  have letters := congrArg String.toList none
  rw [String.toList_ofList] at letters
  exact folder.ne_nil (List.append_eq_nil_iff.mp letters).2

/-- A path that is not cut by a query or a fragment ends in the folder, as does what is
rejoined from its bucket and its folder. -/
theorem repositoryAt_located (folder : Folder text) (c : Creds) (endpoint : String) (path : List Char) :
    c.repositoryAt (located endpoint (path ++ '/' :: text)) =
      site (if c.endpoint = "" then endpoint else c.endpoint) ++
        String.ofList ((path ++ ['/']).dropWhile (· == '/') ++ text) := by
  have slash : isAlnum '/' = false := by decide
  have trimmed := trim_folder folder (path ++ ['/']) []
  generalize front : (path ++ ['/']).dropWhile (· == '/') = start at trimmed
  simp only [List.append_assoc, List.append_nil, List.cons_append, List.nil_append,
    show trimRight '/' [] = [] from rfl] at trimmed
  obtain ⟨bucket, rest, cut, before⟩ := List.eq_append_cons_of_mem
    (List.mem_append_right start folder.slashed)
  have starts : bucket ≠ [] := by
    rintro rfl
    cases start with
    | nil => exact folder.head?_ne '/' slash (by rw [show text = _ from cut]; rfl)
    | cons d start =>
      have first := List.head?_dropWhile_not (p := (· == '/')) (path ++ ['/'])
      rw [front, (List.cons_eq_cons.mp cut).1] at first
      cases first
  have ends : rest ≠ [] := by
    rintro rfl
    have last : (start ++ text).getLast? = some '/' := by simp [cut]
    rw [List.getLast?_append_of_ne_nil _ folder.ne_nil] at last
    exact folder.getLast?_ne slash last
  have nonempty {letters : List Char} (some : letters ≠ []) : String.ofList letters ≠ "" := fun none =>
    some (by simpa using congrArg String.toList none)
  have again : trim '/' (start ++ text) = start ++ text := by
    have same := trim_folder folder start []
    rw [← front, List.dropWhile_idempotent, front] at same
    simpa [trimRight] using same
  rw [located, trimmed, cut, cutAt_append before, Option.getD_some, c.repositoryAt_folder (nonempty ends),
    if_neg (nonempty starts), ← cut]
  have joined : (String.ofList bucket ++ "/" ++ String.ofList rest).toList = start ++ text := by simp [cut]
  rw [joined, again]

/-- An endpoint that ends in a folder is kept whole. -/
private theorem site_folder (folder : Folder text) (front : List Char) :
    site (String.ofList (front ++ '/' :: text)) = "s3:" ++ String.ofList (front ++ '/' :: text) ++ "/" := by
  have ends : (front ++ '/' :: text).getLast? ≠ some '/' := by
    rw [List.getLast?_append_of_ne_nil _ (by simp), List.getLast?_cons_of_ne_nil folder.ne_nil]
    exact folder.getLast?_ne (by decide)
  rw [site, String.toList_ofList, trimRight_of_getLast ends, if_neg (by simp)]

private theorem resticRepository_parsed (c : Creds) (authority : String → Option String) (base text : List Char) :
    c.resticRepository authority (String.ofList (base ++ '/' :: text)) =
      c.repositoryAt (parseURL authority (String.ofList (base ++ '/' :: text))) :=
  c.resticRepository_eq authority (by simp)

section
variable {base : List Char} (ended : base.getLast? ≠ some '/') (c : Creds) (authority : String → Option String)
include ended

private theorem resticRepository_plain (http : httpAddress base = none) :
    ∃ front back, ∀ text, Folder text →
      (c.resticRepository authority (String.ofList (base ++ '/' :: text))).toList = front ++ text ++ back := by
  rcases parseURL_plain ended authority http with ⟨bucket, start, parsed⟩ | parsed
  · refine ⟨(site (if c.endpoint = "" then "" else c.endpoint)).toList ++
      (((if bucket = "" then c.bucket else bucket) ++ "/").toList ++ start).dropWhile (· == '/'), [],
      fun text folder => ?_⟩
    have trimmed := trim_folder folder (((if bucket = "" then c.bucket else bucket) ++ "/").toList ++ start) []
    rw [resticRepository_parsed, parsed text folder, c.repositoryAt_folder (nonempty_folder folder start)]
    simp only [String.toList_append, String.toList_ofList, List.append_assoc, List.append_nil,
      show trimRight '/' [] = [] from rfl] at trimmed ⊢
    rw [trimmed]
  · refine ⟨(site (if c.endpoint = "" then "" else c.endpoint)).toList ++
      (base.dropWhile isSpace ++ ['/']).dropWhile (· == '/'), trimRight '/' ("/" ++ c.folder).toList,
      fun text folder => ?_⟩
    have trimmed := trim_folder folder (base.dropWhile isSpace ++ ['/']) ("/" ++ c.folder).toList
    rw [resticRepository_parsed, parsed text folder, c.repositoryAt_bucket (by simp), if_pos rfl]
    simp only [String.toList_append, String.toList_ofList, List.append_assoc, List.cons_append, List.nil_append]
      at trimmed ⊢
    rw [trimmed]

/-- What is no address is taken as the endpoint. -/
private theorem resticRepository_garbled {http : String × List Char} (found : httpAddress base = some http)
    (none : parseHTTP authority http.2 = none) :
    ∃ path : String, ∀ text, Folder text → c.resticRepository authority (String.ofList (base ++ '/' :: text)) =
      site (if c.endpoint = "" then String.ofList (base.dropWhile isSpace ++ '/' :: text) else c.endpoint) ++ path := by
  refine ⟨String.ofList (trim '/' (c.bucket ++ "/" ++ if c.bucket = "" then "" else c.folder).toList),
    fun text folder => ?_⟩
  rw [resticRepository_parsed, parseURL_http ended authority found folder, parseHTTP_folder folder, none,
    Option.map_none, Option.elim_none, Creds.repositoryAt]
  by_cases unnamed : c.bucket = "" <;> simp only [unnamed, and_self, and_false, ↓reduceIte]

theorem Creds.resticRepository_shown (locates : c.Locates authority base) :
    ∃ front back, ∀ text, Folder text →
      (c.resticRepository authority (String.ofList (base ++ '/' :: text))).toList = front ++ text ++ back := by
  cases found : httpAddress base with
  | none => exact resticRepository_plain ended c authority found
  | some http =>
    have located := locates http found
    cases parsed : parseHTTP authority http.2 with
    | none =>
      have noEndpoint : c.endpoint = "" := by simpa [parsed] using located
      obtain ⟨path, repository⟩ := resticRepository_garbled ended c authority found parsed
      refine ⟨"s3:".toList ++ base.dropWhile isSpace ++ ['/'], ("/" ++ path).toList, fun text folder => ?_⟩
      rw [repository text folder, if_pos noEndpoint, site_folder folder]
      simp
    | some place =>
      have shown : Shown http.2 := by simpa [parsed] using located
      refine ⟨(site (if c.endpoint = "" then http.1 ++ "://" ++ place.1 else c.endpoint)).toList ++
        (place.2 ++ ['/']).dropWhile (· == '/'), [], fun text folder => ?_⟩
      rw [resticRepository_parsed, parseURL_http ended authority found folder, parseHTTP_folder folder, parsed,
        Option.map_some, Option.elim_some, if_pos shown, repositoryAt_located folder]
      simp

theorem Creds.resticRepository_hidden (lost : ¬ c.Locates authority base) :
    ∃ repository, ∀ text, Folder text →
      c.resticRepository authority (String.ofList (base ++ '/' :: text)) = repository := by
  simp only [Locates, not_forall] at lost
  obtain ⟨http, found, lost⟩ := lost
  cases parsed : parseHTTP authority http.2 with
  | none =>
    have endpoint : c.endpoint ≠ "" := by simpa [parsed] using lost
    obtain ⟨path, repository⟩ := resticRepository_garbled ended c authority found parsed
    exact ⟨_, fun text folder => by rw [repository text folder, if_neg endpoint]⟩
  | some place =>
    have hidden : ¬ Shown http.2 := by simpa [parsed] using lost
    refine ⟨c.repositoryAt (ObjectStore.located (http.1 ++ "://" ++ place.1) place.2), fun text folder => ?_⟩
    rw [resticRepository_parsed, parseURL_http ended authority found folder, parseHTTP_folder folder, parsed,
      Option.map_some, Option.elim_some, if_neg hidden]

end

end Portage.ObjectStore
