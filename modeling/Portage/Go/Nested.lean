import Portage.Go.Json

/-! How the reads and writes of nested maps compose: what is under a path after
something under another path was removed or set. -/
namespace Portage.Go.Fields

variable {key other : String} {path : List String} {fields : Fields} {value : Json}

theorem lookup_cons (name other : String) (value : Json) (rest : Fields) :
    List.lookup other ((name, value) :: rest) = if other = name then some value else rest.lookup other := by
  by_cases same : other = name
  · simp [same]
  · simp [List.lookup_cons, beq_false_of_ne same, same]

theorem lookup_erase (key other : String) (fields : Fields) :
    (fields.erase key).lookup other = if other = key then none else fields.lookup other := by
  induction fields with
  | nil => simp [erase]
  | cons entry rest ih =>
    obtain ⟨name, value⟩ := entry
    by_cases here : name = key
    · have gone : Fields.erase key ((name, value) :: rest) = Fields.erase key rest := by simp [erase, here]
      rw [gone, ih, lookup_cons, here]
      split <;> rfl
    · have kept : Fields.erase key ((name, value) :: rest) = (name, value) :: Fields.erase key rest := by
        simp [erase, here]
      rw [kept, lookup_cons, lookup_cons, ih]
      by_cases same : other = name
      · rw [if_pos same, if_pos same, if_neg fun erased => here (same.symm.trans erased)]
      · rw [if_neg same, if_neg same]

theorem lookup_put (key other : String) (value : Json) (fields : Fields) :
    (fields.put key value).lookup other = if other = key then some value else fields.lookup other := by
  induction fields with
  | nil => rw [put, lookup_cons]
  | cons entry rest ih =>
    obtain ⟨name, old⟩ := entry
    by_cases here : name = key
    · subst here
      rw [put, if_pos rfl, lookup_cons, lookup_cons]
      split <;> rfl
    · rw [put, if_neg here, lookup_cons, lookup_cons, ih]
      by_cases same : other = name
      · rw [if_pos same, if_pos same, if_neg fun set => here (same.symm.trans set)]
      · rw [if_neg same, if_neg same]

/-! ### Maps under a path -/

/-- The map under a key. -/
def child (key : String) (fields : Fields) : Option Fields := (fields.lookup key).bind Json.fields?

/-- The map under a path of keys. -/
def below : List String → Fields → Option Fields
  | [], fields => some fields
  | key :: path, fields => (fields.child key).bind (below path)

theorem nested_cons (key next : String) (path : List String) (fields : Fields) :
    fields.nested (key :: next :: path) = (fields.child key).bind (nested (next :: path)) := by
  simp [nested, child, Option.bind_assoc]

/-- A field under a path is a field of the map under the path before it. -/
theorem nested_append (path : List String) (key : String) (rest : List String) (fields : Fields) :
    fields.nested (path ++ key :: rest) = (fields.below path).bind (nested (key :: rest)) := by
  induction path generalizing fields with
  | nil => rfl
  | cons first path ih =>
    obtain ⟨next, others, split⟩ : ∃ next others, path ++ key :: rest = next :: others := by
      cases path <;> exact ⟨_, _, rfl⟩
    rw [List.cons_append, split, nested_cons, ← split, below, Option.bind_assoc]
    congr 1
    funext inner
    exact ih inner

/-- A longer path goes on in the map that the shorter one leads to. -/
theorem nested_further (first : String) (path : List String) (next : String) (rest : List String) (fields : Fields) :
    fields.nested (first :: path ++ next :: rest) =
      (fields.nested (first :: path)).bind fun value => value.fields?.bind (nested (next :: rest)) := by
  induction path generalizing first fields with
  | nil => rw [List.singleton_append, nested_cons, child, nested, Option.bind_assoc]
  | cons second path ih =>
    rw [List.cons_append, List.cons_append, nested_cons, nested_cons, Option.bind_assoc]
    congr 1
    funext inner
    exact ih second inner

/-- What is under a path depends only on what is under the start of it. -/
theorem nested_eq_of_start {fields others : Fields} (first : String) (path rest : List String)
    (same : fields.nested (first :: path) = others.nested (first :: path)) :
    fields.nested (first :: path ++ rest) = others.nested (first :: path ++ rest) := by
  cases rest with
  | nil => simpa using same
  | cons next rest => rw [nested_further, nested_further, same]

/-- The map under a path is what is found there, if that is a map. -/
theorem below_eq_nested (first : String) (path : List String) (fields : Fields) :
    fields.below (first :: path) = (fields.nested (first :: path)).bind Json.fields? := by
  induction path generalizing first fields with
  | nil => simp [below, child, nested]
  | cons next path ih =>
    rw [below, nested_cons, Option.bind_assoc]
    congr 1
    funext inner
    exact ih next inner

/-! ### Removing -/

theorem removeNested_cons (key next : String) (path : List String) (fields : Fields) :
    fields.removeNested (key :: next :: path) =
      (fields.child key).elim fields fun inner => fields.put key (.object (removeNested (next :: path) inner)) := by
  rw [removeNested, child]
  · cases (fields.lookup key).bind Json.fields? <;> rfl
  · exact List.cons_ne_nil _ _

theorem lookup_removeNested_ne (apart : other ≠ key) (path : List String) (fields : Fields) :
    (fields.removeNested (key :: path)).lookup other = fields.lookup other := by
  cases path with
  | nil => rw [removeNested, lookup_erase, if_neg apart]
  | cons next path =>
    rw [removeNested_cons]
    cases fields.child key with
    | none => rfl
    | some inner => exact (lookup_put _ _ _ _).trans (if_neg apart)

theorem lookup_removeNested_self (key next : String) (path : List String) (fields : Fields) :
    (fields.removeNested (key :: next :: path)).lookup key = (fields.lookup key).map fun value =>
      value.fields?.elim value fun inner => .object (removeNested (next :: path) inner) := by
  rw [removeNested_cons]
  cases found : fields.lookup key with
  | none => simp [child, found]
  | some value =>
    cases value with
    | object inner => simp [child, found, Json.fields?, lookup_put]
    | _ => simp [child, found, Json.fields?]

/-! ### Setting -/

/-- A step towards the place that is set: into a map, which is made if there is none. -/
theorem setNested_cons (key next : String) (path : List String) (value : Json) (fields : Fields) :
    fields.setNested (key :: next :: path) value =
      (((fields.lookup key).getD (.object [])).fields?).elim fields fun inner =>
        fields.put key (.object (setNested (next :: path) value inner)) := by
  rw [setNested]
  · cases found : fields.lookup key with
    | none => rfl
    | some old => cases old <;> rfl
  · exact List.cons_ne_nil _ _

theorem lookup_setNested_ne (apart : other ≠ key) (path : List String) (value : Json) (fields : Fields) :
    (fields.setNested (key :: path) value).lookup other = fields.lookup other := by
  cases path with
  | nil => rw [setNested, lookup_put, if_neg apart]
  | cons next path =>
    rw [setNested_cons]
    cases ((fields.lookup key).getD (.object [])).fields? with
    | none => rfl
    | some inner => exact (lookup_put _ _ _ _).trans (if_neg apart)

/-- What is under the first key of a path after a value was set under it. -/
theorem lookup_setNested_self (key next : String) (path : List String) (value : Json) (fields : Fields) :
    (fields.setNested (key :: next :: path) value).lookup key =
      (((fields.lookup key).getD (.object [])).fields?).elim (fields.lookup key) fun inner =>
        some (.object (setNested (next :: path) value inner)) := by
  rw [setNested_cons]
  cases ((fields.lookup key).getD (.object [])).fields? with
  | none => rfl
  | some inner => exact (lookup_put _ _ _ _).trans (if_pos rfl)

end Portage.Go.Fields
