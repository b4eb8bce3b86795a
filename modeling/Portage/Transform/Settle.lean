import Portage.Go.Nested
import Portage.Transform.Sanitize

/-! What the sanitizer leaves under a key. Its walks go through a map key by key and
treat the maps below alike, so that what it does to an object it does to the pod spec
inside. -/
namespace Portage.Transform

open Go

variable {key : String}
variable {paths : List (List String)}

/-! ### The walks, key by key -/

theorem lookup_walkRuntimeClass (classes : GoMap String String) (plain : key ≠ "runtimeClassName") (fields : Fields) :
    (walkRuntimeClass classes fields).lookup key = (fields.lookup key).map (walkRuntimeValue classes) := by
  induction fields with
  | nil => rfl
  | cons entry rest ih =>
    obtain ⟨name, value⟩ := entry
    rw [walkRuntimeClass, Fields.lookup_cons]
    split
    · rename_i named
      have apart : key ≠ name := fun same => plain (same.trans named.1)
      rw [if_neg apart]
      cases mapRuntimeClass classes value.text with
      | none => exact ih
      | some dst => exact (Fields.lookup_cons _ _ _ _).trans ((if_neg apart).trans ih)
    · rw [Fields.lookup_cons, ih]
      split <;> rfl

theorem lookup_stripClusterLocalTolerations (plain : key ≠ "tolerations") (fields : Fields) :
    (stripClusterLocalTolerations fields).lookup key = (fields.lookup key).map (stripTolerationValue false) := by
  induction fields with
  | nil => rfl
  | cons entry rest ih =>
    obtain ⟨name, value⟩ := entry
    rw [stripClusterLocalTolerations, Fields.lookup_cons]
    by_cases same : key = name
    · subst same
      simp [plain]
    · rw [if_neg same]
      split
      · exact ih
      · exact (Fields.lookup_cons _ _ _ _).trans ((if_neg same).trans ih)

theorem lookup_stripFSGroupEntries (context : key ≠ "securityContext") (group : key ≠ "fsGroup")
    (drops skips : Bool) (fields : Fields) :
    (stripFSGroupEntries drops skips fields).lookup key = (fields.lookup key).map (stripFSGroupValue false) := by
  induction fields with
  | nil => rfl
  | cons entry rest ih =>
    obtain ⟨name, value⟩ := entry
    rw [stripFSGroupEntries, Fields.lookup_cons]
    by_cases same : key = name
    · subst same
      simp [context, group]
    · rw [if_neg same]
      split
      · exact ih
      · split
        · exact ih
        · exact (Fields.lookup_cons _ _ _ _).trans ((if_neg same).trans ih)

/-! ### Removing several paths -/

/-- The paths that go on below a key. -/
def tailsUnder (key : String) (paths : List (List String)) : List (List String) :=
  paths.filterMap fun path =>
    match path with
    | first :: next :: rest => if first = key then some (next :: rest) else none
    | _ => none

def removeBelow (paths : List (List String)) (value : Json) : Json :=
  value.fields?.elim value fun fields => .object (removeAll paths fields)

theorem removeBelow_cons (path : List String) (paths : List (List String)) (value : Json) :
    removeBelow (path :: paths) value =
      removeBelow paths (value.fields?.elim value fun fields => .object (fields.removeNested path)) := by
  cases value <;> rfl

theorem removeBelow_nil : removeBelow [] = id := by
  funext value
  cases value <;> rfl

/-- A key that is not removed keeps its value, except for what is removed below it. -/
theorem lookup_removeAll (kept : [key] ∉ paths) (fields : Fields) :
    (removeAll paths fields).lookup key = (fields.lookup key).map (removeBelow (tailsUnder key paths)) := by
  induction paths generalizing fields with
  | nil =>
    have none_left : tailsUnder key [] = [] := rfl
    rw [none_left, removeBelow_nil, Option.map_id]
    rfl
  | cons path paths ih =>
    have later := ih (fun member => kept (List.mem_cons_of_mem _ member)) (fields.removeNested path)
    rw [removeAll, List.foldl_cons, ← removeAll, later]
    match path with
    | [] => rfl
    | [first] =>
      have apart : key ≠ first := fun same => kept (by simp [same])
      rw [Fields.lookup_removeNested_ne apart]
      rfl
    | first :: next :: rest =>
      by_cases same : first = key
      · subst same
        rw [Fields.lookup_removeNested_self, Option.map_map]
        congr 1
        funext value
        simp [tailsUnder, removeBelow_cons]
      · rw [Fields.lookup_removeNested_ne (Ne.symm same)]
        simp [tailsUnder, same]

theorem lookup_removeNested_none {fields : Fields} (missing : fields.lookup key = none) (path : List String) :
    (fields.removeNested path).lookup key = none := by
  match path with
  | [] => exact missing
  | first :: rest =>
    by_cases same : key = first
    · subst same
      cases rest with
      | nil => simp [Fields.removeNested, Fields.lookup_erase]
      | cons next rest => simp [Fields.lookup_removeNested_self, missing]
    · rw [Fields.lookup_removeNested_ne same, missing]

/-- A removed key is gone. -/
theorem lookup_removeAll_mem (removed : [key] ∈ paths) (fields : Fields) :
    (removeAll paths fields).lookup key = none := by
  have stays : ∀ (paths : List (List String)) (fields : Fields), fields.lookup key = none →
      (removeAll paths fields).lookup key = none := by
    intro paths
    induction paths with
    | nil => exact fun _ missing => missing
    | cons path paths ih => exact fun _ missing => ih _ (lookup_removeNested_none missing path)
  induction paths generalizing fields with
  | nil => exact absurd removed List.not_mem_nil
  | cons path paths ih =>
    rw [removeAll, List.foldl_cons, ← removeAll]
    rcases List.mem_cons.mp removed with rfl | later
    · exact stays _ _ (by simp [Fields.removeNested, Fields.lookup_erase])
    · exact ih later _

/-! ### The steps that treat all maps alike -/

/-- The steps of the sanitizer between the storage class and the volume ownership, with the
paths that are removed. -/
def stage (classes : GoMap String String) (paths : List (List String)) (fields : Fields) : Fields :=
  stripClusterLocalTolerations (removeAll paths (walkRuntimeClass classes fields))

def stageValue (classes : GoMap String String) (paths : List (List String)) (value : Json) : Json :=
  stripTolerationValue false (removeBelow paths (walkRuntimeValue classes value))

theorem lookup_stage (classes : GoMap String String) (runtime : key ≠ "runtimeClassName")
    (tolerations : key ≠ "tolerations") (kept : [key] ∉ paths) (fields : Fields) :
    (stage classes paths fields).lookup key = (fields.lookup key).map (stageValue classes (tailsUnder key paths)) := by
  rw [stage, lookup_stripClusterLocalTolerations tolerations, lookup_removeAll kept,
    lookup_walkRuntimeClass classes runtime]
  simp only [Option.map_map]
  rfl

/-- The steps of the sanitizer after the storage class. -/
def settle (classes : GoMap String String) (paths : List (List String)) (fields : Fields) : Fields :=
  stripPodFSGroup (stage classes paths fields)

theorem object_eq_settle (opt : Options) (obj : Fields) :
    object opt obj = settle opt.runtimeClassMap affinityPaths (remapStorageClass opt (dropLocal obj)) := rfl

def settleValue (classes : GoMap String String) (paths : List (List String)) (value : Json) : Json :=
  stripFSGroupValue false (stageValue classes paths value)

theorem fields?_settleValue (classes : GoMap String String) (paths : List (List String)) (value : Json) :
    (settleValue classes paths value).fields? = value.fields?.map (settle classes paths) := by
  cases value <;> rfl

/-- The keys that a walk looks for. -/
def walkedKeys : List String := ["runtimeClassName", "tolerations", "securityContext", "fsGroup"]

section
variable (classes : GoMap String String) {paths : List (List String)} (plain : key ∉ walkedKeys)
include plain

theorem lookup_settle (kept : [key] ∉ paths) (fields : Fields) :
    (settle classes paths fields).lookup key =
      (fields.lookup key).map (settleValue classes (tailsUnder key paths)) := by
  simp only [walkedKeys, List.mem_cons, List.not_mem_nil, or_false, not_or] at plain
  obtain ⟨runtime, tolerations, context, group⟩ := plain
  rw [settle, stripPodFSGroup, lookup_stripFSGroupEntries context group,
    lookup_stage classes runtime tolerations kept, Option.map_map]
  rfl

theorem lookup_settle_mem (removed : [key] ∈ paths) (fields : Fields) :
    (settle classes paths fields).lookup key = none := by
  simp only [walkedKeys, List.mem_cons, List.not_mem_nil, or_false, not_or] at plain
  obtain ⟨_, tolerations, context, group⟩ := plain
  rw [settle, stripPodFSGroup, lookup_stripFSGroupEntries context group, stage,
    lookup_stripClusterLocalTolerations tolerations, lookup_removeAll_mem removed]
  rfl

theorem child_settle (kept : [key] ∉ paths) (fields : Fields) :
    (settle classes paths fields).child key = (fields.child key).map (settle classes (tailsUnder key paths)) := by
  rw [Fields.child, lookup_settle classes plain kept, Fields.child]
  cases fields.lookup key with
  | none => rfl
  | some value => exact fields?_settleValue _ _ value

end

/-- The paths that go on below a path. -/
def tailsBelow (path : List String) (paths : List (List String)) : List (List String) :=
  path.foldl (fun paths key => tailsUnder key paths) paths

/-- Whether a path leads past all that is removed and all that a walk looks for. -/
def leadsPast (paths : List (List String)) : List String → Bool
  | [] => true
  | key :: path => key ∉ walkedKeys && [key] ∉ paths && leadsPast (tailsUnder key paths) path

/-- What the sanitizer does to an object it does to the map under a path. -/
theorem below_settle (classes : GoMap String String) {path : List String} (past : leadsPast paths path = true)
    (fields : Fields) :
    (settle classes paths fields).below path = (fields.below path).map (settle classes (tailsBelow path paths)) := by
  induction path generalizing paths fields with
  | nil => rfl
  | cons key path ih =>
    simp only [leadsPast, Bool.and_eq_true, decide_eq_true_eq] at past
    obtain ⟨⟨plain, kept⟩, further⟩ := past
    rw [Fields.below, child_settle classes plain kept, Fields.below]
    cases fields.child key with
    | none => rfl
    | some inner => exact ih further inner

/-- The same for any value under a path. -/
theorem nested_settle (classes : GoMap String String) (first : String) (rest : List String)
    (past : leadsPast paths (first :: rest) = true) (fields : Fields) :
    (settle classes paths fields).nested (first :: rest) =
      (fields.nested (first :: rest)).map (settleValue classes (tailsBelow (first :: rest) paths)) := by
  induction rest generalizing first paths fields with
  | nil =>
    simp only [leadsPast, Bool.and_eq_true, decide_eq_true_eq] at past
    exact lookup_settle classes past.1.1 past.1.2 fields
  | cons next rest ih =>
    rw [leadsPast] at past
    simp only [Bool.and_eq_true, decide_eq_true_eq] at past
    obtain ⟨⟨plain, kept⟩, further⟩ := past
    rw [Fields.nested_cons, child_settle classes plain kept, Fields.nested_cons]
    cases fields.child first with
    | none => rfl
    | some inner => exact ih next further inner

theorem string?_settleValue (classes : GoMap String String) (paths : List (List String)) (value : Json) :
    (settleValue classes paths value).string? = value.string? := by
  cases value <;> rfl

/-- Texts stay as they are. -/
theorem nestedString_settle (classes : GoMap String String) (first : String) (rest : List String)
    (past : leadsPast paths (first :: rest) = true) (fields : Fields) :
    (settle classes paths fields).nestedString (first :: rest) = fields.nestedString (first :: rest) := by
  rw [Fields.nestedString, nested_settle classes first rest past, Fields.nestedString]
  cases fields.nested (first :: rest) with
  | none => rfl
  | some value => exact string?_settleValue _ _ value

theorem walkRuntimeItems_eq_map (classes : GoMap String String) (items : List Json) :
    walkRuntimeItems classes items = items.map (walkRuntimeItem classes) := by
  induction items with
  | nil => rfl
  | cons item rest ih => rw [walkRuntimeItems, ih, List.map_cons]

theorem stripTolerationItems_false (items : List Json) :
    stripTolerationItems false items = items.map stripTolerationItem := by
  induction items with
  | nil => rfl
  | cons item rest ih => simp [stripTolerationItems, ih]

theorem stripFSGroupItems_eq_map (items : List Json) : stripFSGroupItems items = items.map stripFSGroupItem := by
  induction items with
  | nil => rfl
  | cons item rest ih => rw [stripFSGroupItems, ih, List.map_cons]

/-- A list outside of the tolerations keeps its items, each settled for itself. -/
theorem settleValue_array (classes : GoMap String String) (paths : List (List String)) (items : List Json) :
    settleValue classes paths (.array items) =
      .array (items.map fun item => stripFSGroupItem (stripTolerationItem (walkRuntimeItem classes item))) := by
  have same : settleValue classes paths (.array items) =
      .array (stripFSGroupItems (stripTolerationItems false (walkRuntimeItems classes items))) := rfl
  rw [same, walkRuntimeItems_eq_map, stripTolerationItems_false, stripFSGroupItems_eq_map]
  simp [Function.comp_def]

theorem fields?_settledItem (classes : GoMap String String) (item : Json) :
    (stripFSGroupItem (stripTolerationItem (walkRuntimeItem classes item))).fields? =
      item.fields?.map (settle classes []) := by
  cases item <;> rfl

end Portage.Transform
