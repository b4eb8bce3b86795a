import Portage.Classify.Catalog
import Portage.Go.Format

/-! Images that name one engine: every other matcher of the catalog stands in
them only as a fragment of that engine's own. -/
namespace Portage

open Go

/-- `part` stands in `text` from position `i` on. -/
def OccursAt (part text : String) (i : Nat) : Prop := part.toList <+: text.toList.drop i

/-- Every occurrence of another matcher of the catalog lies inside one of `m`. -/
def Covers (m image : String) : Prop :=
  ∀ e ∈ catalog, ∀ other ∈ e.imageMatchers, other ≠ m → ∀ i, OccursAt other (toLower image) i →
    ∃ j ≤ i, OccursAt m (toLower image) j ∧ i + other.length ≤ j + m.length

variable {m image : String} {e : Engine}

theorem contains_iff_occursAt {text part : String} :
    contains text part = true ↔ ∃ i, OccursAt part text i := by
  rw [contains_iff, List.infix_iff_prefix_suffix]
  constructor
  · rintro ⟨rest, start, ending⟩
    exact ⟨_, List.suffix_iff_eq_drop.mp ending ▸ start⟩
  · rintro ⟨i, start⟩
    exact ⟨_, start, List.drop_suffix i _⟩

private theorem contains_self (text : String) : contains text text = true :=
  contains_iff_occursAt.mpr ⟨0, List.prefix_rfl⟩

/-- What occurs inside an occurrence of `m` is a fragment of `m`. -/
theorem contains_of_inside {text other : String} {i j : Nat} (inner : OccursAt other text i)
    (outer : OccursAt m text j) (after : j ≤ i) (within : i + other.length ≤ j + m.length) :
    contains m other = true := by
  obtain ⟨rest, shape⟩ := outer
  have sizes : other.length = other.toList.length ∧ m.length = m.toList.length := ⟨rfl, rfl⟩
  have later : text.toList.drop i = m.toList.drop (i - j) ++ rest := by
    rw [← List.drop_append_of_le_length (by omega), shape, List.drop_drop, Nat.add_sub_cancel' after]
  have start : other.toList <+: m.toList.drop (i - j) := by
    apply List.prefix_of_prefix_length_le (later ▸ inner) (List.prefix_append _ rest)
    rw [List.length_drop]
    omega
  exact contains_iff_occursAt.mpr ⟨i - j, start⟩

private def Engine.letters (e : Engine) : List (List Char) := e.imageMatchers.map String.toList

/-- Matchers are in lower case, and apart from one of them none has a fragment that an
earlier engine looks for. -/
private theorem catalog_letters {table : List (List (List Char))} (same : table = catalog.map Engine.letters) :
    (∀ group ∈ table, ∀ m ∈ group, m ≠ [] ∧ m.map lowerChar = m) ∧
      table.Pairwise fun earlier later => ∀ m ∈ later, m ≠ "percona/percona-server-mongodb".toList →
        ∀ other ∈ earlier, (m.tails.any fun rest => other.isPrefixOf rest) = false := by
  -- spelled out first, so that the matchers are not decoded again for every pair
  simp only [catalog, Engine.letters, List.map_cons, List.map_nil, String.reduceToList] at same
  subst same
  simp only [String.reduceToList]
  decide +kernel

private theorem imageMatchers_plain (known : e ∈ catalog) (listed : m ∈ e.imageMatchers) :
    m ≠ "" ∧ toLower m = m := by
  obtain ⟨nonempty, lower⟩ := (catalog_letters rfl).1 e.letters (List.mem_map_of_mem known) m.toList
    (List.mem_map_of_mem listed)
  refine ⟨fun empty => nonempty (empty ▸ rfl), ?_⟩
  rw [toLower, lower, String.ofList_toList]

private theorem catalog_specific_first :
    catalog.Pairwise fun earlier later => ∀ m ∈ later.imageMatchers,
      m ≠ "percona/percona-server-mongodb" → ∀ other ∈ earlier.imageMatchers, contains m other = false := by
  apply (List.pairwise_map.mp (catalog_letters rfl).2).imp
  intro earlier later apart m listed regular other listedEarlier
  exact apart m.toList (List.mem_map_of_mem listed) (fun same => regular (String.toList_inj.mp same))
    other.toList (List.mem_map_of_mem listedEarlier)

private theorem matches_iff (known : e ∈ catalog) (image : String) :
    (e.imageMatchers.any fun m => m ≠ "" ∧ contains (toLower image) (toLower m)) = true ↔
      ∃ m ∈ e.imageMatchers, contains (toLower image) m = true := by
  simp only [List.any_eq_true, decide_eq_true_eq]
  constructor
  · rintro ⟨m, listed, -, found⟩
    exact ⟨m, listed, (imageMatchers_plain known listed).2 ▸ found⟩
  · rintro ⟨m, listed, found⟩
    obtain ⟨nonempty, lower⟩ := imageMatchers_plain known listed
    exact ⟨m, listed, nonempty, lower.symm ▸ found⟩

private theorem matchImage_of_covers (known : e ∈ catalog) (listed : m ∈ e.imageMatchers)
    (found : contains (toLower image) m = true) (covers : Covers m image)
    (regular : m ≠ "percona/percona-server-mongodb") : matchImage image = some e := by
  obtain ⟨before, after, shape⟩ := List.append_of_mem known
  rw [matchImage, List.find?_eq_some_iff_append]
  refine ⟨(matches_iff known image).mpr ⟨m, listed, found⟩, before, after, shape, ?_⟩
  intro earlier first
  have knownEarlier : earlier ∈ catalog := shape ▸ List.mem_append_left _ first
  rw [Bool.not_eq_true', Bool.eq_false_iff, Ne, matches_iff knownEarlier]
  rintro ⟨other, listedEarlier, foundEarlier⟩
  have ordered := catalog_specific_first
  rw [shape, List.pairwise_append] at ordered
  have apart : contains m other = false :=
    ordered.2.2 earlier first e List.mem_cons_self m listed regular other listedEarlier
  by_cases same : other = m
  · rw [same, contains_self] at apart
    cases apart
  · obtain ⟨i, inner⟩ := contains_iff_occursAt.mp foundEarlier
    obtain ⟨j, le, outer, within⟩ := covers earlier knownEarlier other listedEarlier same i inner
    rw [contains_of_inside inner outer le within] at apart
    cases apart

/-- MySQL's shorter matcher is found before MongoDB's own is looked for. -/
private theorem matchImage_percona (found : contains (toLower image) "percona/percona-server-mongodb" = true)
    (matched : matchImage image = some e) : "percona/percona-server-mongodb" ∉ e.imageMatchers := by
  have shorter : contains (toLower image) "percona/percona-server" = true := by
    obtain ⟨i, start⟩ := contains_iff_occursAt.mp found
    exact contains_iff_occursAt.mpr ⟨i, List.IsPrefix.trans (by decide +kernel) start⟩
  have some_first : ((catalog.take 5).find? fun e =>
      e.imageMatchers.any fun m => m ≠ "" ∧ contains (toLower image) (toLower m)).isSome := by
    rw [List.find?_isSome]
    refine ⟨⟨"mysql", .sqlLogical, ["bitnami/mysql", "percona/percona-server", "mysql/mysql-server",
      "mysql"]⟩, by decide +kernel, ?_⟩
    exact (matches_iff (by decide +kernel) image).mpr ⟨_, by decide +kernel, shorter⟩
  rw [matchImage, ← List.take_append_drop 5 catalog, List.find?_append, Option.or_of_isSome some_first]
    at matched
  have others : ∀ e ∈ catalog.take 5, "percona/percona-server-mongodb" ∉ e.imageMatchers := by
    decide +kernel
  exact others e (List.mem_of_find?_eq_some matched)

theorem covers_of_toLower_eq (spelled : toLower image = m) : Covers m image := by
  intro e known other listed _ i inner
  have nonempty := (imageMatchers_plain known listed).1
  refine ⟨0, i.zero_le, by simp [OccursAt, spelled], ?_⟩
  have size := inner.length_le
  rw [List.length_drop, spelled] at size
  have positive : 0 < other.toList.length :=
    List.length_pos_iff.mpr fun empty => nonempty (String.toList_eq_nil_iff.mp empty)
  have sizes : other.length = other.toList.length ∧ m.length = m.toList.length := ⟨rfl, rfl⟩
  omega

/-- An image that names one engine is matched to that engine, unless what names it is
MongoDB's matcher for the Percona server, which the catalog takes for MySQL's. -/
theorem matchImage_specific {image m : String} {e : Engine} (known : e ∈ catalog)
    (listed : m ∈ e.imageMatchers) (found : contains (toLower image) m = true) (covers : Covers m image) :
    matchImage image = some e ↔ m ≠ "percona/percona-server-mongodb" := by
  constructor
  · intro matched same
    exact matchImage_percona (same ▸ found) matched (same ▸ listed)
  · exact matchImage_of_covers known listed found covers

theorem matchImage_specific_community :
    matchImage "MongoDB/mongodb-community-server" = some ⟨"mongo", .kvLogical, ["bitnami/mongodb",
      "percona/percona-server-mongodb", "mongodb/mongodb-community-server", "mongo"]⟩ ↔
    "mongodb/mongodb-community-server" ≠ "percona/percona-server-mongodb" :=
  matchImage_specific (by decide +kernel) (by decide +kernel) (by decide +kernel)
    (covers_of_toLower_eq (by decide +kernel))

theorem matchImage_percona_mongodb :
    ∃ e ∈ catalog, e.name = "mongo" ∧ "percona/percona-server-mongodb" ∈ e.imageMatchers ∧
      contains (toLower "percona/percona-server-mongodb") "percona/percona-server-mongodb" = true ∧
      Covers "percona/percona-server-mongodb" "percona/percona-server-mongodb" ∧
      matchImage "percona/percona-server-mongodb" ≠ some e :=
  ⟨⟨"mongo", .kvLogical, ["bitnami/mongodb", "percona/percona-server-mongodb",
      "mongodb/mongodb-community-server", "mongo"]⟩, by decide +kernel, by decide +kernel,
    by decide +kernel, by decide +kernel, covers_of_toLower_eq (by decide +kernel),
    fun matched => matchImage_percona (by decide +kernel) matched (by decide +kernel)⟩

end Portage
