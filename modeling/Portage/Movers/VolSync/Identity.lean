import Portage.Movers.VolSync.Replicate
import Portage.ObjectStore.Repository

/-! What the replication of a workload is known by: its pair of custom resources, the
Secret of its restic repository and the repository itself, and which workloads of an
inventory share one of them. -/
namespace Portage.VolSync

open Go Kube ObjectStore

/-! ### Identities -/

/-- The key of both custom resources, the key of the restic Secret, and the repository. -/
structure Identity where
  pair : ObjKey
  secret : ObjKey
  repository : String
  deriving DecidableEq

def Mover.identity (m : Mover) (w : Workload) : Identity where
  pair := ⟨w.namespace_, pairName w⟩
  secret := ⟨w.namespace_, resticSecretName w.name⟩
  repository := m.creds.resticRepository m.parseAuthority (m.objectPath w)

/-- Nothing of one identity is part of the other. -/
def Identity.Disjoint (first second : Identity) : Prop :=
  first.pair ≠ second.pair ∧ first.secret ≠ second.secret ∧ first.repository ≠ second.repository

theorem source_pair (m : Mover) (w : Workload) (pvc : String) : (m.source w (pairName w) pvc).key = (m.identity w).pair :=
  rfl

theorem destination_pair (m : Mover) (w : Workload) : (m.destination w (pairName w)).key = (m.identity w).pair := rfl

theorem resticData_repository (m : Mover) (w : Workload) (password : String) :
    (resticData m w password).get "RESTIC_REPOSITORY" = (m.identity w).repository := by
  simp only [resticData, repositoryData, Mover.identity, GoMap.get, GoMap.find?, List.lookup_cons_self, Option.getD_some]

/-! ### Words of a name -/

/-- The words of a name: what stands between dashes and dots. -/
def nameWords (name : String) : List (List Char) :=
  (name.toList.splitOnP fun c => !isAlnum c).filter (!·.isEmpty)

/-- The words of a name with one dash between any two. -/
def dashed (name : String) : List Char := ['-'].intercalate (nameWords name)

/-- The words of two names, with dashes between, show different characters within the
first 238, where a text that has ended shows dashes. -/
def WordsDiffer (name other : String) : Prop := ∃ i < 238, (dashed name).getD i '-' ≠ (dashed other).getD i '-'

instance (name other : String) : Decidable (WordsDiffer name other) :=
  inferInstanceAs (Decidable (∃ i < 238, (dashed name).getD i '-' ≠ (dashed other).getD i '-'))

/-- What folding leaves of a text that is split into words, after a dash or at the
start. -/
private def afterDash : List (List Char) → List Char
  | [] => []
  | part :: more => if part = [] then afterDash more else part ++ if more = [] then [] else '-' :: afterDash more

/-- What folding leaves of a text that is split into words, in a word. -/
private def inWord : List (List Char) → List Char
  | [] => []
  | part :: more => part ++ if more = [] then [] else '-' :: afterDash more

private theorem foldName_words (text : List Char) (started dashed : Bool) :
    foldName started dashed text =
      if started && !dashed then inWord (text.splitOnP fun c => !isAlnum c)
      else afterDash (text.splitOnP fun c => !isAlnum c) := by
  induction text generalizing started dashed with
  | nil => cases started <;> cases dashed <;> rfl
  | cons c rest ih =>
    have letter : (('a' ≤ c ∧ c ≤ 'z') ∨ ('0' ≤ c ∧ c ≤ '9')) ↔ isAlnum c = true := by simp [isAlnum]
    obtain ⟨part, more, split⟩ := List.exists_cons_of_ne_nil (List.splitOnP_ne_nil (fun c => !isAlnum c) rest)
    simp only [foldName, ih, List.splitOnP_cons_eq_if_modifyHead, split, letter]
    cases isAlnum c <;> cases started <;> cases dashed <;> simp [inWord, afterDash]

private theorem afterDash_eq {parts : List (List Char)} (ends : parts.getLast? ≠ some []) :
    afterDash parts = ['-'].intercalate (parts.filter (!·.isEmpty)) := by
  induction parts with
  | nil => rfl
  | cons part more ih =>
    cases more with
    | nil =>
      have some : part ≠ [] := by simpa using ends
      simp [afterDash, some, List.intercalate]
    | cons next rest =>
      have rest_ends : (next :: rest).getLast? ≠ some [] := by simpa using ends
      have some : (next :: rest).filter (!·.isEmpty) ≠ [] := by
        intro none
        have last := List.getLast?_eq_some_getLast (List.cons_ne_nil next rest)
        have empty := List.filter_eq_nil_iff.mp none _ (List.getLast_mem (List.cons_ne_nil next rest))
        exact rest_ends (by rw [last]; simpa using empty)
      by_cases none : part = []
      · have dropped : (part :: next :: rest).filter (!·.isEmpty) = (next :: rest).filter (!·.isEmpty) :=
          List.filter_cons_of_neg (by simp [none])
        rw [afterDash, if_pos none, ih rest_ends, dropped]
      · have kept : (part :: next :: rest).filter (!·.isEmpty) = part :: (next :: rest).filter (!·.isEmpty) :=
          List.filter_cons_of_pos (by simpa using none)
        rw [afterDash, if_neg none, if_neg (List.cons_ne_nil next rest), ih rest_ends, kept,
          List.intercalate_cons_of_ne_nil some, List.append_assoc, List.singleton_append]

private theorem splitOnP_getLast? {text : List Char} {c : Char} (letter : isAlnum c = true) :
    ((text ++ [c]).splitOnP fun c => !isAlnum c).getLast? ≠ some [] := by
  induction text with
  | nil => simp [List.splitOnP_cons_eq_if_modifyHead, letter]
  | cons d rest ih =>
    obtain ⟨part, more, split⟩ :=
      List.exists_cons_of_ne_nil (List.splitOnP_ne_nil (fun c => !isAlnum c) (rest ++ [c]))
    rw [split] at ih
    rw [List.cons_append, List.splitOnP_cons_eq_if_modifyHead, split]
    split
    · simpa using ih
    · cases more <;> simp_all

private theorem foldName_getLast? (text : List Char) {c : Char} (letter : isAlnum c = true) (started dashed : Bool) :
    (foldName started dashed (text ++ [c])).getLast? = some c := by
  induction text generalizing started dashed with
  | nil =>
    have shown : (('a' ≤ c ∧ c ≤ 'z') ∨ ('0' ≤ c ∧ c ≤ '9')) := by simpa [isAlnum] using letter
    simp [foldName, shown]
  | cons d rest ih =>
    rw [List.cons_append, foldName]
    split
    · simp [List.getLast?_cons, ih]
    · split
      · simp [List.getLast?_cons, ih]
      · exact ih _ _

section
variable {name : String} (legal : legalName name = true)
include legal

theorem toLower_legal : toLower name = name := by
  have same : name.toList.map lowerChar = name.toList :=
    (List.map_congr_left fun _ member => lowerChar_legal (legalName_mem legal member)).trans (List.map_id' _)
  rw [toLower, same, String.ofList_toList]

private theorem legal_ends : ∃ start last, name.toList = start ++ [last] ∧ isAlnum last = true := by
  rw [legalName, Bool.and_eq_true, Bool.and_eq_true] at legal
  have ends := legal.1.2
  cases last : name.toList.getLast? with
  | none => simp [last] at ends
  | some c =>
    obtain ⟨start, whole⟩ := List.getLast?_eq_some_iff.mp last
    exact ⟨start, c, whole, by simpa [last] using ends⟩

theorem foldName_legal : foldName false false name.toList = dashed name := by
  obtain ⟨start, last, whole, letter⟩ := legal_ends legal
  rw [foldName_words, dashed, nameWords, whole]
  exact afterDash_eq (splitOnP_getLast? letter)

private theorem dashed_starts : ∃ c rest, dashed name = c :: rest ∧ c ≠ '-' := by
  rw [← foldName_legal legal]
  rw [legalName, Bool.and_eq_true, Bool.and_eq_true] at legal
  have starts := legal.1.1
  cases letters : name.toList with
  | nil => simp [letters] at starts
  | cons c rest =>
    have letter : isAlnum c = true := by simpa [letters] using starts
    refine ⟨c, foldName true false rest, ?_, ?_⟩
    · rw [foldName, if_pos (by simpa [isAlnum] using letter)]
    · rintro rfl
      exact absurd letter (by decide)

theorem dashed_getLast? : (dashed name).getLast? ≠ some '-' := by
  obtain ⟨start, last, whole, letter⟩ := legal_ends legal
  rw [← foldName_legal legal, whole, foldName_getLast? start letter]
  intro same
  obtain rfl := Option.some.inj same
  exact absurd letter (by decide)

/-- A legal name is cut after 238 characters, once its words are joined by dashes. -/
theorem dns1123_legal : (dns1123 name).toList = trimRight '-' ((dashed name).take 238) := by
  obtain ⟨c, rest, shape, other⟩ := dashed_starts legal
  have whole : trim '-' (dashed name) = dashed name := by
    rw [trim_of_head? (by simpa [shape] using other), trimRight_of_getLast (dashed_getLast? legal)]
  have cut : trim '-' ((dashed name).take 238) = trimRight '-' ((dashed name).take 238) :=
    trim_of_head? (by simpa [shape] using other)
  have some : dashed name ≠ [] := by simp [shape]
  have some' : trim '-' ((dashed name).take 238) ≠ [] := by
    have first : [c].getLast? ≠ Option.some '-' := by simpa using other
    rw [cut, shape, List.take_succ_cons, ← List.singleton_append, trimRight_append first]
    simp
  have most : 253 - resticSecretStart.length = 238 := by decide
  simp only [dns1123, toLower_legal legal, foldName_legal legal, whole, most, some, some', ↓reduceIte]
  split
  · rw [String.toList_ofList, cut]
  · rw [String.toList_ofList, List.take_of_length_le (by omega), trimRight_of_getLast (dashed_getLast? legal)]

theorem dns1123_ne_iff {other : String} (legal' : legalName other = true) :
    dns1123 name ≠ dns1123 other ↔ WordsDiffer name other := by
  have same : trimRight '-' ([] ++ (dashed name).take 238) = trimRight '-' ([] ++ (dashed other).take 238) ↔ _ :=
    trimRight_take_eq_iff [] (dashed name) (dashed other) 238
  rw [List.nil_append, List.nil_append, ← dns1123_legal legal, ← dns1123_legal legal', String.toList_inj] at same
  rw [ne_eq, same, WordsDiffer]
  simp

end

/-! ### Two workloads -/

section
variable (m : Mover) {a b : Workload}

/-- The store URL of a pair without the slashes it ends in. -/
def Mover.base (m : Mover) : List Char :=
  let base := trimRight '/' m.destPath.toList
  if base = [] then "s3://portage".toList else base

/-- Whether the repositories under the pair's store URL show the folder of the workload. -/
def Mover.Locates (m : Mover) : Prop := m.creds.Locates m.parseAuthority m.base

theorem base_getLast? : m.base.getLast? ≠ some '/' := by
  rw [Mover.base]
  split
  · decide
  · rename_i some
    have last := List.rdropWhile_last_not (· == '/') m.destPath.toList some
    rw [List.getLast?_eq_some_getLast some]
    exact fun same => last (beq_iff_eq.mpr (Option.some.inj same))

theorem objectPath_legal (legal : legalName a.namespace_ = true) (legal' : legalName a.name = true) :
    m.objectPath a = String.ofList (m.base ++ '/' :: (a.namespace_.toList ++ '/' :: a.name.toList)) := by
  have based : (if String.ofList (trimRight '/' m.destPath.toList) = "" then "s3://portage"
      else String.ofList (trimRight '/' m.destPath.toList)) = String.ofList m.base := by
    have empty : String.ofList (trimRight '/' m.destPath.toList) = "" ↔ trimRight '/' m.destPath.toList = [] := by
      rw [← String.toList_inj, String.toList_ofList]
      rfl
    simp only [empty, Mover.base]
    split <;> rfl
  rw [← String.toList_inj]
  simp only [Mover.objectPath, based, legalName_ne_empty legal, legalName_ne_empty legal', ↓reduceIte]
  simp

/-- Repositories differ exactly if namespaces or names do and the repository shows them. -/
theorem repository_ne_iff (legalA : legalName a.namespace_ = true) (legalA' : legalName a.name = true)
    (legalB : legalName b.namespace_ = true) (legalB' : legalName b.name = true) :
    (m.identity a).repository ≠ (m.identity b).repository ↔
      m.Locates ∧ (a.namespace_ ≠ b.namespace_ ∨ a.name ≠ b.name) := by
  simp only [Mover.identity, objectPath_legal m legalA legalA', objectPath_legal m legalB legalB']
  have folderA := folder_of_legal legalA legalA'
  have folderB := folder_of_legal legalB legalB'
  by_cases locates : m.Locates
  · obtain ⟨front, back, shown⟩ := Creds.resticRepository_shown (base_getLast? m) m.creds m.parseAuthority locates
    rw [ne_eq, ← String.toList_inj, shown _ folderA, shown _ folderB, List.append_left_inj, List.append_right_inj]
    constructor
    · intro differ
      refine ⟨locates, ?_⟩
      by_contra same
      simp only [ne_eq, not_or, Decidable.not_not] at same
      exact differ (by rw [same.1, same.2])
    · rintro ⟨_, differ⟩ same
      obtain ⟨spaces, names⟩ := mark_inj (legalName_slash legalA) (legalName_slash legalB) same
      rcases differ with differ | differ
      · exact differ (String.toList_inj.mp spaces)
      · exact differ (String.toList_inj.mp names)
  · obtain ⟨repository, hidden⟩ := Creds.resticRepository_hidden (base_getLast? m) m.creds m.parseAuthority locates
    simp only [hidden _ folderA, hidden _ folderB, ne_eq, not_true_eq_false, locates, false_and]

theorem resticSecretName_inj {name other : String} :
    resticSecretName name = resticSecretName other ↔ dns1123 name = dns1123 other := by
  simp only [resticSecretName, ← String.toList_inj, String.toList_append, List.append_right_inj]

theorem pairName_inj : pairName a = pairName b ↔ a.name = b.name := by
  simp only [pairName, ← String.toList_inj, String.toList_append, List.append_right_inj]

end

/-- Two workloads of an inventory share nothing exactly if their namespaces or the words
of their names tell them apart and the store URL leaves them in the repository. -/
theorem Mover.identity_apart_iff {api : Listing} {namespaces : List String} {inventory : List Workload}
    (walked : walk api namespaces = .ok inventory)
    (legal : ∀ ns ∈ namespaces, legalName ns = true ∧ ∀ name, api.Names ns name → legalName name = true)
    (m : Mover) {a b : Workload} (listed : a ∈ inventory) (listed' : b ∈ inventory) :
    (m.identity a).Disjoint (m.identity b) ↔
      (a.namespace_ ≠ b.namespace_ ∨ WordsDiffer a.name b.name) ∧ m.Locates := by
  obtain ⟨space, named⟩ := walk_mem walked listed
  obtain ⟨space', named'⟩ := walk_mem walked listed'
  have legalA := (legal _ space).2 _ named
  have legalB := (legal _ space').2 _ named'
  have repositories := repository_ne_iff m (legal _ space).1 legalA (legal _ space').1 legalB
  have words := dns1123_ne_iff legalA legalB
  rw [Identity.Disjoint, repositories, ← words]
  simp only [Mover.identity, ne_eq, ObjKey.mk.injEq, pairName_inj, resticSecretName_inj, not_and_or]
  constructor
  · rintro ⟨_, secrets, locates, _⟩
    exact ⟨secrets, locates⟩
  · rintro ⟨secrets, locates⟩
    have names : ¬ a.namespace_ = b.namespace_ ∨ ¬ a.name = b.name :=
      secrets.imp_right fun differ same => differ (by rw [same])
    exact ⟨names, secrets, locates, names⟩

/-! ### Inventories -/

/-- A namespace with two Deployments, each with a claim, and a StatefulSet under the name
of one of them. -/
def namesakes : Listing where
  statefulSets ns := .ok (if ns = "shop" then [{ name := "web", claimTemplates := ["data"] }] else [])
  deployments ns := .ok (if ns = "shop" then
    [{ name := "cart", template := { volumes := [some "carts"] } }, { name := "web", template := { volumes := [some "pages"] } }]
    else [])

def cartDeployment : Workload := fromPodOwner "shop" "Deployment" "cart" { volumes := [some "carts"] } ["carts"]

def webDeployment : Workload := fromPodOwner "shop" "Deployment" "web" { volumes := [some "pages"] } ["pages"]

def webStatefulSet : Workload := fromPodOwner "shop" "StatefulSet" "web" {} ["data-web-0"]

theorem walk_namesakes : walk namesakes ["shop"] = .ok [cartDeployment, webDeployment, webStatefulSet] := by
  decide +kernel

theorem namesakes_legal {name : String} (listed : namesakes.Names "shop" name) : legalName name = true := by
  cases listed with
  | statefulSet listed member =>
    cases listed
    obtain rfl := List.mem_singleton.mp member
    decide
  | deployment listed member =>
    cases listed
    rcases List.mem_pair.mp member with rfl | rfl <;> decide
  | daemonSet listed member =>
    cases listed
    cases member
  | claim listed member =>
    cases listed
    cases member

theorem identity_apart_cart : (Mover.identity { destPath := "s3://backups" } cartDeployment).Disjoint
    (Mover.identity { destPath := "s3://backups" } webStatefulSet) := by
  refine (Mover.identity_apart_iff walk_namesakes (fun ns member => ?_) _ (by simp) (by simp)).mpr
    ⟨.inr ⟨0, by decide, by decide⟩, fun http found => ?_⟩
  · obtain rfl := List.mem_singleton.mp member
    exact ⟨by decide, fun name => namesakes_legal⟩
  · have none : httpAddress (Mover.base { destPath := "s3://backups" }) = none := by decide +kernel
    rw [none] at found
    cases found

/-- A Deployment and a StatefulSet of one name share their whole identity. -/
theorem identity_namesakes : walk namesakes ["shop"] = .ok [cartDeployment, webDeployment, webStatefulSet] ∧
    webDeployment.key ≠ webStatefulSet.key ∧ webDeployment.pvcNames = ["pages"] ∧
    webStatefulSet.pvcNames = ["data-web-0"] ∧ Mover.identity {} webDeployment = Mover.identity {} webStatefulSet ∧
    ¬ (Mover.identity {} webDeployment).Disjoint (Mover.identity {} webStatefulSet) :=
  ⟨walk_namesakes, by decide +kernel, rfl, rfl, rfl, fun apart => apart.1 rfl⟩

end Portage.VolSync
