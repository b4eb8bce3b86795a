import Portage.Transform.ClaimClasses

/-! What several rounds of the sanitizer, and the wire between them, leave of the runtime
classes and of the storage class. -/
namespace Portage.Transform

open Go

/-! ### The texts of an object -/

mutual

/-- The texts of a map with their keys, and those of the maps below it: among its values,
and among the items of a list. -/
def textsOf : Fields → List (String × String)
  | [] => []
  | (key, value) :: rest => textsAt key value ++ textsOf rest

def textsAt (key : String) : Json → List (String × String)
  | .string text => [(key, text)]
  | .object fields => textsOf fields
  | .array items => textsAmong items
  | .null | .bool _ | .int _ | .float _ => []

def textsAmong : List Json → List (String × String)
  | [] => []
  | item :: rest => textsIn item ++ textsAmong rest

def textsIn : Json → List (String × String)
  | .object fields => textsOf fields
  | .array _ | .null | .bool _ | .int _ | .float _ | .string _ => []

end

/-- The runtime classes that an object names, at any depth. -/
def runtimeClasses (obj : Fields) : List String :=
  ((textsOf obj).filter fun entry => entry.1 = "runtimeClassName" ∧ entry.2 ≠ "").map Prod.snd

/-- No text is a runtime class. -/
def Classless (texts : List (String × String)) : Prop := ∀ text, ("runtimeClassName", text) ∈ texts → text = ""

theorem runtimeClasses_eq_nil_iff (obj : Fields) : runtimeClasses obj = [] ↔ Classless (textsOf obj) := by
  rw [runtimeClasses, List.map_eq_nil_iff, List.filter_eq_nil_iff]
  constructor
  · intro none text member
    simpa using none _ member
  · rintro classless ⟨key, text⟩ member
    simp only [decide_eq_true_eq, not_and, not_not]
    rintro rfl
    exact classless text member

theorem Classless.mono {texts fewer : List (String × String)} (classless : Classless texts)
    (subset : fewer ⊆ texts) : Classless fewer := fun text member => classless text (subset member)

mutual

theorem textsOf_stripTolerations : ∀ fields : Fields,
    (textsOf (stripClusterLocalTolerations fields)).Sublist (textsOf fields)
  | [] => .refl _
  | (key, value) :: rest => by
    have later := textsOf_stripTolerations rest
    rw [stripClusterLocalTolerations, textsOf]
    split
    · exact later.trans (List.sublist_append_right _ _)
    · exact (textsAt_stripTolerations key _ value).append later

theorem textsAt_stripTolerations (key : String) (tolerations : Bool) : ∀ value : Json,
    (textsAt key (stripTolerationValue tolerations value)).Sublist (textsAt key value)
  | .object fields => textsOf_stripTolerations fields
  | .array items => textsAmong_stripTolerations tolerations items
  | .null | .bool _ | .int _ | .float _ | .string _ => .refl _

theorem textsAmong_stripTolerations (tolerations : Bool) : ∀ items : List Json,
    (textsAmong (stripTolerationItems tolerations items)).Sublist (textsAmong items)
  | [] => .refl _
  | item :: rest => by
    have later := textsAmong_stripTolerations tolerations rest
    rw [stripTolerationItems, textsAmong]
    split
    · exact later.trans (List.sublist_append_right _ _)
    · exact (textsIn_stripTolerations item).append later

theorem textsIn_stripTolerations : ∀ item : Json, (textsIn (stripTolerationItem item)).Sublist (textsIn item)
  | .object fields => textsOf_stripTolerations fields
  | .array _ | .null | .bool _ | .int _ | .float _ | .string _ => .refl _

end

mutual

theorem textsOf_stripFSGroup (drops skips : Bool) : ∀ fields : Fields,
    (textsOf (stripFSGroupEntries drops skips fields)).Sublist (textsOf fields)
  | [] => .refl _
  | (key, value) :: rest => by
    have later := textsOf_stripFSGroup drops skips rest
    rw [stripFSGroupEntries, textsOf]
    split
    · exact later.trans (List.sublist_append_right _ _)
    · split
      · exact later.trans (List.sublist_append_right _ _)
      · exact (textsAt_stripFSGroup key _ value).append later

theorem textsAt_stripFSGroup (key : String) (skips : Bool) : ∀ value : Json,
    (textsAt key (stripFSGroupValue skips value)).Sublist (textsAt key value)
  | .object fields => textsOf_stripFSGroup (dropsFSGroup fields) skips fields
  | .array items => textsAmong_stripFSGroup items
  | .null | .bool _ | .int _ | .float _ | .string _ => .refl _

theorem textsAmong_stripFSGroup : ∀ items : List Json,
    (textsAmong (stripFSGroupItems items)).Sublist (textsAmong items)
  | [] => .refl _
  | item :: rest => by
    rw [stripFSGroupItems, textsAmong]
    exact (textsIn_stripFSGroup item).append (textsAmong_stripFSGroup rest)

theorem textsIn_stripFSGroup : ∀ item : Json, (textsIn (stripFSGroupItem item)).Sublist (textsIn item)
  | .object fields => textsOf_stripFSGroup (dropsFSGroup fields) false fields
  | .array _ | .null | .bool _ | .int _ | .float _ | .string _ => .refl _

end

/-- Where a walk over the runtime classes has a class from. -/
def Mapped (classes : GoMap String String) (before after : List (String × String)) : Prop :=
  ∀ text, ("runtimeClassName", text) ∈ after → text ≠ "" →
    ∃ src, src ≠ "" ∧ ("runtimeClassName", src) ∈ before ∧ mapRuntimeClass classes src = some text

theorem Mapped.append {classes : GoMap String String} {first second first' second' : List (String × String)}
    (here : Mapped classes first first') (later : Mapped classes second second') :
    Mapped classes (first ++ second) (first' ++ second') := by
  intro text member set
  rcases List.mem_append.mp member with inside | inside
  · obtain ⟨src, given, found, mapped⟩ := here text inside set
    exact ⟨src, given, List.mem_append_left _ found, mapped⟩
  · obtain ⟨src, given, found, mapped⟩ := later text inside set
    exact ⟨src, given, List.mem_append_right _ found, mapped⟩

mutual

theorem mapped_walkRuntimeClass (classes : GoMap String String) : ∀ fields : Fields,
    Mapped classes (textsOf fields) (textsOf (walkRuntimeClass classes fields))
  | [] => fun _ member => absurd member List.not_mem_nil
  | (key, value) :: rest => by
    have later := mapped_walkRuntimeClass classes rest
    rw [walkRuntimeClass, textsOf]
    split
    · rename_i named
      obtain ⟨rfl, given⟩ := named
      have first : ∀ dst, mapRuntimeClass classes value.text = some dst →
          Mapped classes (textsAt "runtimeClassName" value) [("runtimeClassName", dst)] := by
        intro dst mapped text member _
        cases value with
        | string src =>
          obtain rfl : text = dst := by simpa using member
          exact ⟨src, given, List.mem_singleton_self _, mapped⟩
        | _ => exact absurd rfl given
      cases mapped : mapRuntimeClass classes value.text with
      | some dst => exact (first dst mapped).append later
      | none =>
        have nothing : Mapped classes (textsAt "runtimeClassName" value) [] :=
          fun _ member => absurd member List.not_mem_nil
        exact nothing.append later
    · rename_i plain
      exact (mapped_walkRuntimeValue classes key value fun named set => plain ⟨named, set⟩).append later

theorem mapped_walkRuntimeValue (classes : GoMap String String) (key : String) : ∀ value : Json,
    (key = "runtimeClassName" → ¬ value.text ≠ "") →
      Mapped classes (textsAt key value) (textsAt key (walkRuntimeValue classes value))
  | .object fields, _ => mapped_walkRuntimeClass classes fields
  | .array items, _ => mapped_walkRuntimeItems classes items
  | .string src, plain => by
    intro text member set
    obtain ⟨rfl, rfl⟩ : "runtimeClassName" = key ∧ text = src := by simpa [walkRuntimeValue, textsAt] using member
    exact absurd set (plain rfl)
  | .null, _ | .bool _, _ | .int _, _ | .float _, _ => fun _ member => absurd member List.not_mem_nil

theorem mapped_walkRuntimeItems (classes : GoMap String String) : ∀ items : List Json,
    Mapped classes (textsAmong items) (textsAmong (walkRuntimeItems classes items))
  | [] => fun _ member => absurd member List.not_mem_nil
  | item :: rest => (mapped_walkRuntimeItem classes item).append (mapped_walkRuntimeItems classes rest)

theorem mapped_walkRuntimeItem (classes : GoMap String String) : ∀ item : Json,
    Mapped classes (textsIn item) (textsIn (walkRuntimeItem classes item))
  | .object fields => mapped_walkRuntimeClass classes fields
  | .array _ | .null | .bool _ | .int _ | .float _ | .string _ => fun _ member => absurd member List.not_mem_nil

end

/-! ### The other steps -/

theorem textsOf_erase (key : String) (fields : Fields) : (textsOf (fields.erase key)).Sublist (textsOf fields) := by
  induction fields with
  | nil => exact .refl _
  | cons entry rest ih =>
    obtain ⟨name, value⟩ := entry
    by_cases gone : name = key
    · have dropped : Fields.erase key ((name, value) :: rest) = Fields.erase key rest := by simp [Fields.erase, gone]
      rw [dropped, textsOf]
      exact ih.trans (List.sublist_append_right _ _)
    · have kept : Fields.erase key ((name, value) :: rest) = (name, value) :: Fields.erase key rest := by
        simp [Fields.erase, gone]
      rw [kept, textsOf, textsOf]
      exact (List.Sublist.refl _).append ih

theorem textsOf_put (key : String) (value : Json) (fields : Fields) :
    textsOf (fields.put key value) ⊆ textsAt key value ++ textsOf fields := by
  induction fields with
  | nil => simp [Fields.put, textsOf]
  | cons entry rest ih =>
    obtain ⟨name, old⟩ := entry
    rw [Fields.put]
    split
    · simp only [textsOf]
      exact List.append_subset.mpr ⟨List.subset_append_left _ _, fun _ member => by simp [member]⟩
    · simp only [textsOf]
      refine List.append_subset.mpr ⟨fun _ member => by simp [member], fun entry member => ?_⟩
      rcases List.mem_append.mp (ih member) with new | kept
      · exact List.mem_append_left _ new
      · simp [kept]

theorem textsAt_of_lookup {key : String} {value : Json} {fields : Fields} (found : fields.lookup key = some value) :
    textsAt key value ⊆ textsOf fields := by
  induction fields with
  | nil => cases found
  | cons entry rest ih =>
    obtain ⟨name, other⟩ := entry
    rw [Fields.lookup_cons] at found
    rw [textsOf]
    split at found
    · rename_i same
      obtain rfl := Option.some.inj found
      rw [same]
      exact List.subset_append_left _ _
    · exact List.subset_append_of_subset_right _ (ih found)

theorem textsOf_child {key : String} {inner fields : Fields} (found : fields.child key = some inner) :
    textsOf inner ⊆ textsOf fields := by
  rw [Fields.child] at found
  cases lookup : fields.lookup key with
  | none => simp [lookup] at found
  | some value =>
    cases value with
    | object other =>
      obtain rfl : other = inner := by simpa [lookup, Json.fields?] using found
      exact textsAt_of_lookup lookup
    | _ => simp [lookup, Json.fields?] at found

theorem textsOf_removeNested (path : List String) (fields : Fields) :
    textsOf (fields.removeNested path) ⊆ textsOf fields := by
  induction path generalizing fields with
  | nil => exact List.Subset.refl _
  | cons key path ih =>
    cases path with
    | nil => exact (textsOf_erase key fields).subset
    | cons next rest =>
      rw [Fields.removeNested_cons]
      cases found : fields.child key with
      | none => exact List.Subset.refl _
      | some inner =>
        exact List.Subset.trans (textsOf_put key _ fields) (List.append_subset.mpr
          ⟨List.Subset.trans (ih inner) (textsOf_child found), List.Subset.refl _⟩)

theorem textsOf_removeAll (paths : List (List String)) (fields : Fields) :
    textsOf (removeAll paths fields) ⊆ textsOf fields := by
  induction paths generalizing fields with
  | nil => exact List.Subset.refl _
  | cons path paths ih => exact List.Subset.trans (ih (fields.removeNested path)) (textsOf_removeNested path fields)

theorem textsOf_setNested (first key : String) (value : Json) (fields : Fields) :
    textsOf (fields.setNested [first, key] value) ⊆ textsAt key value ++ textsOf fields := by
  rw [Fields.setNested_cons]
  cases map : ((fields.lookup first).getD (.object [])).fields? with
  | none => exact List.subset_append_right _ _
  | some inner =>
    have known : textsOf inner ⊆ textsOf fields := by
      cases found : fields.lookup first with
      | none =>
        obtain rfl : [] = inner := by simpa [found, Json.fields?] using map
        exact List.nil_subset _
      | some old =>
        have child : fields.child first = some inner := by simpa [Fields.child, found] using map
        exact textsOf_child child
    refine List.Subset.trans (textsOf_put first _ fields) (List.append_subset.mpr
      ⟨List.Subset.trans (textsOf_put key value inner) ?_, List.subset_append_right _ _⟩)
    refine List.append_subset.mpr ⟨List.subset_append_left _ _, ?_⟩
    exact List.subset_append_of_subset_right _ known

theorem mem_strings {fields : Fields} {entries : List (String × String)} (read : fields.strings = some entries)
    {entry : String × String} (member : entry ∈ entries) : entry.2 = "" ∨ entry ∈ textsOf fields := by
  induction fields generalizing entries with
  | nil =>
    cases read
    exact absurd member List.not_mem_nil
  | cons first rest ih =>
    obtain ⟨key, value⟩ := first
    have later : ∀ text, ((key, text) :: ·) <$> Fields.strings rest = some entries →
        entry = (key, text) ∨ entry.2 = "" ∨ entry ∈ textsOf rest := by
      intro text read
      cases others : Fields.strings rest with
      | none => simp [others] at read
      | some tail =>
        obtain rfl : (key, text) :: tail = entries := by simpa [others] using read
        exact (List.mem_cons.mp member).imp_right fun inside => ih others inside
    cases value with
    | string text =>
      rcases later text read with rfl | blank | inside
      · exact .inr (List.mem_append_left _ (List.mem_singleton_self _))
      · exact .inl blank
      · exact .inr (List.mem_append_right _ inside)
    | null =>
      rcases later "" read with rfl | blank | inside
      · exact .inl rfl
      · exact .inl blank
      · exact .inr inside
    | _ => cases read

theorem mem_nestedStrings {first key : String} {obj : Fields} {entry : String × String}
    (member : entry ∈ obj.nestedStrings [first, key]) : entry.2 = "" ∨ entry ∈ textsOf obj := by
  rw [Fields.nestedStrings, Fields.nested_cons] at member
  cases outer : obj.child first with
  | none => simp [outer] at member
  | some inner =>
    have below : (Fields.nested [key] inner).bind Json.fields? = inner.child key := rfl
    rw [outer, Option.bind_some, below] at member
    cases leaf : inner.child key with
    | none => simp [leaf] at member
    | some fields =>
      cases read : fields.strings with
      | none => simp [leaf, read] at member
      | some entries =>
        rw [leaf, Option.bind_some, read] at member
        exact (mem_strings read member).imp_right fun inside => textsOf_child outer (textsOf_child leaf inside)

theorem textsOf_strings (entries : List (String × String)) :
    textsOf (entries.map fun entry => (entry.1, .string entry.2)) = entries := by
  induction entries with
  | nil => rfl
  | cons entry rest ih => rw [List.map_cons, textsOf, ih, textsAt, List.singleton_append]

/-- Writing back some of the entries of a map of texts brings in no runtime class. -/
theorem Classless.setStrings {obj : Fields} (classless : Classless (textsOf obj)) (first key : String)
    (keep : String × String → Bool) :
    Classless (textsOf (Transform.setStrings [first, key] ((obj.nestedStrings [first, key]).filter keep) obj)) := by
  unfold Transform.setStrings
  split
  · exact classless.mono (textsOf_removeNested _ _)
  · intro text member
    rcases List.mem_append.mp (textsOf_setNested first key _ obj member) with new | old
    · rw [textsAt, textsOf_strings] at new
      exact (mem_nestedStrings (List.mem_of_mem_filter new)).elim id (classless text)
    · exact classless text old

/-- What stays of the texts once the runtime classes were mapped. -/
theorem textsOf_object (opt : Options) (obj : Fields) : textsOf (object opt obj) ⊆
    textsOf (walkRuntimeClass opt.runtimeClassMap (remapStorageClass opt (dropLocal obj))) :=
  List.Subset.trans (textsOf_stripFSGroup _ _ _).subset
    (List.Subset.trans (textsOf_stripTolerations _).subset (textsOf_removeAll affinityPaths _))

/-- The empty options strip every runtime class. -/
theorem object_strips (obj : Fields) : Classless (textsOf (object {} obj)) := by
  intro text member
  by_contra set
  obtain ⟨src, _, _, mapped⟩ := mapped_walkRuntimeClass .nil _ text (textsOf_object {} obj member) set
  cases mapped

/-- No options bring a runtime class back. -/
theorem Classless.object {obj : Fields} (classless : Classless (textsOf obj)) (opt : Options) :
    Classless (textsOf (Transform.object opt obj)) := by
  have dropped : Classless (textsOf (dropLocal obj)) :=
    ((classless.mono (textsOf_removeAll localPaths obj)).setStrings _ _ _).setStrings _ _ _
  have set (value : String) :
      Classless (textsOf ((dropLocal obj).setNested storageClassPath (.string value))) := by
    intro text member
    rcases List.mem_append.mp (textsOf_setNested _ _ _ _ member) with new | old
    · simp [textsAt] at new
    · exact dropped text old
  have remapped : Classless (textsOf (remapStorageClass opt (dropLocal obj))) := by
    simp only [remapStorageClass]
    split
    · split
      · exact set _
      · exact dropped
    · exact set _
  intro text member
  by_contra given
  obtain ⟨src, named, found, _⟩ := mapped_walkRuntimeClass _ _ text (textsOf_object opt obj member) given
  exact named (remapped src found)

mutual

theorem textsOf_untyped : ∀ fields : Fields, textsOf (Json.untypedFields fields) = textsOf fields
  | [] => rfl
  | (key, value) :: rest => by
    rw [Json.untypedFields, textsOf, textsOf, textsAt_untyped key value, textsOf_untyped rest]

theorem textsAt_untyped (key : String) : ∀ value : Json, textsAt key value.untyped = textsAt key value
  | .object fields => textsOf_untyped fields
  | .array items => textsAmong_untyped items
  | .null | .bool _ | .int _ | .float _ | .string _ => rfl

theorem textsAmong_untyped : ∀ items : List Json, textsAmong (Json.untypedItems items) = textsAmong items
  | [] => rfl
  | item :: rest => by
    rw [Json.untypedItems, textsAmong, textsAmong, textsIn_untyped item, textsAmong_untyped rest]

theorem textsIn_untyped : ∀ item : Json, textsIn item.untyped = textsIn item
  | .object fields => textsOf_untyped fields
  | .array _ | .null | .bool _ | .int _ | .float _ | .string _ => rfl

end

/-! ### Storage classes -/

theorem lookup_untyped (key : String) (fields : Fields) :
    (Json.untypedFields fields).lookup key = (fields.lookup key).map Json.untyped := by
  induction fields with
  | nil => rfl
  | cons entry rest ih =>
    obtain ⟨name, value⟩ := entry
    rw [Json.untypedFields, Fields.lookup_cons, Fields.lookup_cons, ih]
    split <;> rfl

theorem storageClass_untyped (obj : Fields) :
    (Json.untypedFields obj).nestedString storageClassPath = obj.nestedString storageClassPath := by
  rw [Fields.nestedString, Fields.nestedString, storageClassPath, Fields.nested_cons, Fields.nested_cons,
    Fields.child, Fields.child, lookup_untyped]
  cases obj.lookup "spec" with
  | none => rfl
  | some value =>
    cases value with
    | object spec =>
      change ((Json.untypedFields spec).lookup "storageClassName").bind Json.string? =
        (spec.lookup "storageClassName").bind Json.string?
      rw [lookup_untyped]
      cases spec.lookup "storageClassName" with
      | none => rfl
      | some class_ => cases class_ <;> rfl
    | _ => rfl

/-- The class that a storage class becomes; the empty one stays. -/
def Options.storageClass (opt : Options) (src : String) : String := if src = "" then "" else opt.mapped src

theorem storageClass_object {opt : Options} (undefaulted : opt.defaultStorageClass = "") (obj : Fields) :
    (object opt obj).nestedString storageClassPath = (obj.nestedString storageClassPath).map opt.storageClass :=
  (List.cons.inj (classes_object_claim obj undefaulted)).1

end Portage.Transform
