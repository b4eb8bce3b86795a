import Portage.Transform.Pins

/-! When the walks of the sanitizer leave a value alone. They rewrite maps by the names of
their keys, wherever the maps are. -/
namespace Portage.Transform

open Go

/-! ### The maps that a walk comes to -/

mutual

/-- The maps below a map that a walk comes to: those among its values, and those among the
items of a list. -/
def mapsBelow : Fields → List Fields
  | [] => []
  | (_, value) :: rest => mapsIn value ++ mapsBelow rest

def mapsIn : Json → List Fields
  | .object fields => fields :: mapsBelow fields
  | .array items => mapsAmong items
  | .null | .bool _ | .int _ | .float _ | .string _ => []

def mapsAmong : List Json → List Fields
  | [] => []
  | item :: rest => mapsOfItem item ++ mapsAmong rest

def mapsOfItem : Json → List Fields
  | .object fields => fields :: mapsBelow fields
  | .array _ | .null | .bool _ | .int _ | .float _ | .string _ => []

end

/-! ### How much a value holds -/

mutual

/-- The number of values in a value. -/
def weight : Json → Nat
  | .object fields => fieldsWeight fields + 1
  | .array items => itemsWeight items + 1
  | .null | .bool _ | .int _ | .float _ | .string _ => 1

def itemsWeight : List Json → Nat
  | [] => 0
  | item :: rest => weight item + itemsWeight rest

def fieldsWeight : Fields → Nat
  | [] => 0
  | (_, value) :: rest => weight value + fieldsWeight rest

end

theorem weight_pos (value : Json) : 0 < weight value := by
  cases value <;> simp [weight]

mutual

theorem fieldsWeight_walkRuntimeClass (classes : GoMap String String) : ∀ fields : Fields,
    fieldsWeight (walkRuntimeClass classes fields) ≤ fieldsWeight fields
  | [] => by simp [walkRuntimeClass]
  | (key, value) :: rest => by
    have later := fieldsWeight_walkRuntimeClass classes rest
    have here := weight_walkRuntimeValue classes value
    have some_ := weight_pos value
    rw [walkRuntimeClass]
    split
    · split
      · simp only [fieldsWeight, weight]
        omega
      · simp only [fieldsWeight]
        omega
    · simp only [fieldsWeight]
      omega

theorem weight_walkRuntimeValue (classes : GoMap String String) : ∀ value : Json,
    weight (walkRuntimeValue classes value) ≤ weight value
  | .object fields => by simpa [walkRuntimeValue, weight] using fieldsWeight_walkRuntimeClass classes fields
  | .array items => by simpa [walkRuntimeValue, weight] using itemsWeight_walkRuntimeItems classes items
  | .null | .bool _ | .int _ | .float _ | .string _ => by simp [walkRuntimeValue]

theorem itemsWeight_walkRuntimeItems (classes : GoMap String String) : ∀ items : List Json,
    itemsWeight (walkRuntimeItems classes items) ≤ itemsWeight items
  | [] => by simp [walkRuntimeItems]
  | item :: rest => by
    have later := itemsWeight_walkRuntimeItems classes rest
    have here := weight_walkRuntimeItem classes item
    simp only [walkRuntimeItems, itemsWeight]
    omega

theorem weight_walkRuntimeItem (classes : GoMap String String) : ∀ item : Json,
    weight (walkRuntimeItem classes item) ≤ weight item
  | .object fields => by simpa [walkRuntimeItem, weight] using fieldsWeight_walkRuntimeClass classes fields
  | .array _ | .null | .bool _ | .int _ | .float _ | .string _ => by simp [walkRuntimeItem]

end

/-- A step that only leaves out: it keeps a value or makes it smaller. -/
def Trims (size : α → Nat) (step : α → α) (value : α) : Prop :=
  size (step value) < size value ∨ step value = value

theorem Trims.le {size : α → Nat} {step : α → α} {value : α} (trims : Trims size step value) :
    size (step value) ≤ size value := by
  rcases trims with less | same
  · exact Nat.le_of_lt less
  · rw [same]

/-- Two steps, on the first of several values and on the others. -/
theorem Trims.both {size : α → Nat} {step : Json → Json} {steps : α → α} {value : Json} {rest : α}
    (here : Trims weight step value) (later : Trims size steps rest) :
    weight (step value) + size (steps rest) < weight value + size rest ∨ step value = value ∧ steps rest = rest := by
  have le := here.le
  have leRest := later.le
  rcases here with less | same
  · exact .inl (by omega)
  · rcases later with less | unchanged
    · exact .inl (by omega)
    · exact .inr ⟨same, unchanged⟩

mutual

theorem stripClusterLocalTolerations_trims : ∀ fields : Fields,
    Trims fieldsWeight stripClusterLocalTolerations fields
  | [] => .inr rfl
  | (key, value) :: rest => by
    have later := stripClusterLocalTolerations_trims rest
    have here := stripTolerationValue_trims (key = "tolerations") value
    have left := later.le
    have held := weight_pos value
    unfold Trims
    rw [stripClusterLocalTolerations]
    split
    · exact .inl (by simp only [fieldsWeight]; omega)
    · rcases here.both later with less | ⟨same, unchanged⟩
      · exact .inl less
      · exact .inr (by rw [same, unchanged])

theorem stripTolerationValue_trims (tolerations : Bool) : ∀ value : Json,
    Trims weight (stripTolerationValue tolerations) value
  | .object fields => (stripClusterLocalTolerations_trims fields).imp Nat.succ_lt_succ (congrArg Json.object)
  | .array items => (stripTolerationItems_trims tolerations items).imp Nat.succ_lt_succ (congrArg Json.array)
  | .null | .bool _ | .int _ | .float _ | .string _ => .inr rfl

theorem stripTolerationItems_trims (tolerations : Bool) : ∀ items : List Json,
    Trims itemsWeight (stripTolerationItems tolerations) items
  | [] => .inr rfl
  | item :: rest => by
    have later := stripTolerationItems_trims tolerations rest
    have here := stripTolerationItem_trims item
    have left := later.le
    have held := weight_pos item
    unfold Trims
    rw [stripTolerationItems]
    split
    · exact .inl (by simp only [itemsWeight]; omega)
    · rcases here.both later with less | ⟨same, unchanged⟩
      · exact .inl less
      · exact .inr (by rw [same, unchanged])

theorem stripTolerationItem_trims : ∀ item : Json, Trims weight stripTolerationItem item
  | .object fields => (stripClusterLocalTolerations_trims fields).imp Nat.succ_lt_succ (congrArg Json.object)
  | .array _ | .null | .bool _ | .int _ | .float _ | .string _ => .inr rfl

end

mutual

theorem stripFSGroupEntries_trims (drops skips : Bool) : ∀ fields : Fields,
    Trims fieldsWeight (stripFSGroupEntries drops skips) fields
  | [] => .inr rfl
  | (key, value) :: rest => by
    have later := stripFSGroupEntries_trims drops skips rest
    have here := stripFSGroupValue_trims (drops ∧ key = "securityContext") value
    have left := later.le
    have held := weight_pos value
    unfold Trims
    rw [stripFSGroupEntries]
    split
    · exact .inl (by simp only [fieldsWeight]; omega)
    · split
      · exact .inl (by simp only [fieldsWeight]; omega)
      · rcases here.both later with less | ⟨same, unchanged⟩
        · exact .inl less
        · exact .inr (by rw [same, unchanged])

theorem stripFSGroupValue_trims (skips : Bool) : ∀ value : Json, Trims weight (stripFSGroupValue skips) value
  | .object fields =>
    (stripFSGroupEntries_trims (dropsFSGroup fields) skips fields).imp Nat.succ_lt_succ (congrArg Json.object)
  | .array items => (stripFSGroupItems_trims items).imp Nat.succ_lt_succ (congrArg Json.array)
  | .null | .bool _ | .int _ | .float _ | .string _ => .inr rfl

theorem stripFSGroupItems_trims : ∀ items : List Json, Trims itemsWeight stripFSGroupItems items
  | [] => .inr rfl
  | item :: rest => by
    unfold Trims
    rw [stripFSGroupItems]
    rcases (stripFSGroupItem_trims item).both (stripFSGroupItems_trims rest) with less | ⟨same, unchanged⟩
    · exact .inl less
    · exact .inr (by rw [same, unchanged])

theorem stripFSGroupItem_trims : ∀ item : Json, Trims weight stripFSGroupItem item
  | .object fields =>
    (stripFSGroupEntries_trims (dropsFSGroup fields) false fields).imp Nat.succ_lt_succ (congrArg Json.object)
  | .array _ | .null | .bool _ | .int _ | .float _ | .string _ => .inr rfl

end

/-- The walks leave a value alone together just if each of them does. -/
theorem settleValue_eq_iff (classes : GoMap String String) (value : Json) : settleValue classes [] value = value ↔
    walkRuntimeValue classes value = value ∧ stripTolerationValue false value = value ∧
      stripFSGroupValue false value = value := by
  simp only [settleValue, stageValue, removeBelow_nil, id_eq]
  constructor
  · intro same
    have walked := weight_walkRuntimeValue classes value
    have stripped := stripTolerationValue_trims false (walkRuntimeValue classes value)
    have ungrouped := stripFSGroupValue_trims false (stripTolerationValue false (walkRuntimeValue classes value))
    have least := ungrouped.le
    have less := stripped.le
    rw [same] at least
    have second : stripTolerationValue false (walkRuntimeValue classes value) = walkRuntimeValue classes value :=
      stripped.resolve_left (by omega)
    rw [second] at ungrouped same
    have third : stripFSGroupValue false (walkRuntimeValue classes value) = walkRuntimeValue classes value := by
      refine ungrouped.resolve_left ?_
      rw [same]
      omega
    have first : walkRuntimeValue classes value = value := third.symm.trans same
    rw [first] at second third
    exact ⟨first, second, third⟩
  · rintro ⟨first, second, third⟩
    rw [first, second, third]

/-! ### Maps that the walks leave alone -/

/-- The runtime class of a map is mapped to itself. -/
def RuntimeKept (classes : GoMap String String) (fields : Fields) : Prop :=
  ∀ entry ∈ fields, entry.1 = "runtimeClassName" → entry.2.text ≠ "" →
    mapRuntimeClass classes entry.2.text = some entry.2.text

theorem runtimeKept_cons {classes : GoMap String String} {key : String} {value : Json} {rest : Fields} :
    RuntimeKept classes ((key, value) :: rest) ↔
      (key = "runtimeClassName" → value.text ≠ "" → mapRuntimeClass classes value.text = some value.text) ∧
        RuntimeKept classes rest := List.forall_mem_cons

/-- A list of tolerations in a map is not empty, and none is cluster-local. -/
def TolerationsKept (fields : Fields) : Prop :=
  ∀ entry ∈ fields, entry.1 = "tolerations" → ∀ items, entry.2 = .array items →
    items ≠ [] ∧ ∀ item ∈ items, localToleration item = false

theorem tolerationsKept_cons {key : String} {value : Json} {rest : Fields} :
    TolerationsKept ((key, value) :: rest) ↔
      (key = "tolerations" → ∀ items, value = .array items →
        items ≠ [] ∧ ∀ item ∈ items, localToleration item = false) ∧ TolerationsKept rest := List.forall_mem_cons

mutual

theorem walkRuntimeClass_eq_iff (classes : GoMap String String) : ∀ fields : Fields,
    walkRuntimeClass classes fields = fields ↔
      RuntimeKept classes fields ∧ ∀ below ∈ mapsBelow fields, RuntimeKept classes below
  | [] => by simp [walkRuntimeClass, RuntimeKept, mapsBelow]
  | (key, value) :: rest => by
    have later := walkRuntimeClass_eq_iff classes rest
    have here := walkRuntimeValue_eq_iff classes value
    have left := fieldsWeight_walkRuntimeClass classes rest
    have held := weight_pos value
    rw [runtimeKept_cons, mapsBelow, List.forall_mem_append, walkRuntimeClass]
    split
    · rename_i named
      obtain ⟨src, rfl⟩ : ∃ src, value = .string src := by
        cases value with
        | string src => exact ⟨src, rfl⟩
        | _ => exact absurd rfl named.2
      have walked : ∀ below ∈ mapsIn (.string src), RuntimeKept classes below := by simp [mapsIn]
      simp only [named, forall_const, ne_eq, not_false_eq_true]
      cases mapped : mapRuntimeClass classes (Json.string src).text with
      | none =>
        have shorter : walkRuntimeClass classes rest ≠ ("runtimeClassName", .string src) :: rest := by
          intro same
          rw [same, fieldsWeight] at left
          omega
        simp [shorter]
      | some dst =>
        simp only [List.cons.injEq, Prod.mk.injEq, true_and, Json.string.injEq, Option.some.injEq, later]
        constructor
        · rintro ⟨same, kept, below⟩
          exact ⟨⟨same, kept⟩, walked, below⟩
        · rintro ⟨⟨same, kept⟩, _, below⟩
          exact ⟨same, kept, below⟩
    · rename_i plain
      have free : key = "runtimeClassName" → value.text ≠ "" →
          mapRuntimeClass classes value.text = some value.text := fun named set => absurd ⟨named, set⟩ plain
      simp only [List.cons.injEq, Prod.mk.injEq, true_and, later, here]
      tauto

theorem walkRuntimeValue_eq_iff (classes : GoMap String String) : ∀ value : Json,
    walkRuntimeValue classes value = value ↔ ∀ below ∈ mapsIn value, RuntimeKept classes below
  | .object fields => by simp [walkRuntimeValue, mapsIn, walkRuntimeClass_eq_iff classes fields]
  | .array items => by simp [walkRuntimeValue, mapsIn, walkRuntimeItems_eq_iff classes items]
  | .null | .bool _ | .int _ | .float _ | .string _ => by simp [walkRuntimeValue, mapsIn]

theorem walkRuntimeItems_eq_iff (classes : GoMap String String) : ∀ items : List Json,
    walkRuntimeItems classes items = items ↔ ∀ below ∈ mapsAmong items, RuntimeKept classes below
  | [] => by simp [walkRuntimeItems, mapsAmong]
  | item :: rest => by
    simp only [walkRuntimeItems, List.cons.injEq, mapsAmong, List.forall_mem_append,
      walkRuntimeItem_eq_iff classes item, walkRuntimeItems_eq_iff classes rest]

theorem walkRuntimeItem_eq_iff (classes : GoMap String String) : ∀ item : Json,
    walkRuntimeItem classes item = item ↔ ∀ below ∈ mapsOfItem item, RuntimeKept classes below
  | .object fields => by simp [walkRuntimeItem, mapsOfItem, walkRuntimeClass_eq_iff classes fields]
  | .array _ | .null | .bool _ | .int _ | .float _ | .string _ => by simp [walkRuntimeItem, mapsOfItem]

end

mutual

theorem stripClusterLocalTolerations_eq_iff : ∀ fields : Fields,
    stripClusterLocalTolerations fields = fields ↔
      TolerationsKept fields ∧ ∀ below ∈ mapsBelow fields, TolerationsKept below
  | [] => by simp [stripClusterLocalTolerations, TolerationsKept, mapsBelow]
  | (key, value) :: rest => by
    have later := stripClusterLocalTolerations_eq_iff rest
    have here := stripTolerationValue_eq_iff (key = "tolerations") value
    have left := (stripClusterLocalTolerations_trims rest).le
    have held := weight_pos value
    rw [tolerationsKept_cons, mapsBelow, List.forall_mem_append, stripClusterLocalTolerations]
    by_cases emptied : key = "tolerations" ∧ stripTolerationValue (key = "tolerations") value = .array []
    · have shorter : stripClusterLocalTolerations rest ≠ (key, value) :: rest := by
        intro same
        rw [same, fieldsWeight] at left
        omega
      rw [if_pos emptied]
      refine iff_of_false shorter ?_
      rintro ⟨⟨kept, _⟩, _⟩
      obtain ⟨rfl, nothing⟩ := emptied
      cases value with
      | array items =>
        obtain ⟨held, foreign⟩ := kept rfl items rfl
        have dropped : stripTolerationItems true items = [] := Json.array.inj nothing
        rw [stripTolerationItems_true, List.map_eq_nil_iff, List.filter_eq_nil_iff] at dropped
        obtain ⟨item, member⟩ := List.exists_mem_of_ne_nil items held
        exact dropped item member (by rw [foreign item member]; rfl)
      | _ => cases nothing
    · have held : key = "tolerations" → ∀ items, value = .array items → items ≠ [] := by
        rintro named _ rfl rfl
        exact emptied ⟨named, rfl⟩
      rw [if_neg emptied, List.cons.injEq, Prod.mk.injEq, later, here, decide_eq_true_eq]
      constructor
      · rintro ⟨⟨_, foreign, inside⟩, kept, below⟩
        exact ⟨⟨fun named items is => ⟨held named items is, foreign named items is⟩, kept⟩, inside, below⟩
      · rintro ⟨⟨foreign, kept⟩, inside, below⟩
        exact ⟨⟨rfl, fun named items is => (foreign named items is).2, inside⟩, kept, below⟩

theorem stripTolerationValue_eq_iff (tolerations : Bool) : ∀ value : Json,
    stripTolerationValue tolerations value = value ↔
      (tolerations = true → ∀ items, value = .array items → ∀ item ∈ items, localToleration item = false) ∧
        ∀ below ∈ mapsIn value, TolerationsKept below
  | .object fields => by simp [stripTolerationValue, mapsIn, stripClusterLocalTolerations_eq_iff fields]
  | .array items => by simp [stripTolerationValue, mapsIn, stripTolerationItems_eq_iff tolerations items]
  | .null | .bool _ | .int _ | .float _ | .string _ => by simp [stripTolerationValue, mapsIn]

theorem stripTolerationItems_eq_iff (tolerations : Bool) : ∀ items : List Json,
    stripTolerationItems tolerations items = items ↔
      (tolerations = true → ∀ item ∈ items, localToleration item = false) ∧
        ∀ below ∈ mapsAmong items, TolerationsKept below
  | [] => by simp [stripTolerationItems, mapsAmong]
  | item :: rest => by
    have later := stripTolerationItems_eq_iff tolerations rest
    have here := stripTolerationItem_eq_iff item
    have left := (stripTolerationItems_trims tolerations rest).le
    have held := weight_pos item
    rw [mapsAmong, List.forall_mem_append, List.forall_mem_cons, stripTolerationItems]
    by_cases dropped : (tolerations && localToleration item) = true
    · have shorter : stripTolerationItems tolerations rest ≠ item :: rest := by
        intro same
        rw [same, itemsWeight] at left
        omega
      rw [if_pos dropped]
      rw [Bool.and_eq_true] at dropped
      refine iff_of_false shorter ?_
      rintro ⟨foreign, _⟩
      rw [(foreign dropped.1).1] at dropped
      exact Bool.false_ne_true dropped.2
    · rw [if_neg dropped, List.cons.injEq, later, here]
      have kept : tolerations = true → localToleration item = false := by
        intro set
        simpa [set] using dropped
      tauto

theorem stripTolerationItem_eq_iff : ∀ item : Json,
    stripTolerationItem item = item ↔ ∀ below ∈ mapsOfItem item, TolerationsKept below
  | .object fields => by simp [stripTolerationItem, mapsOfItem, stripClusterLocalTolerations_eq_iff fields]
  | .array _ | .null | .bool _ | .int _ | .float _ | .string _ => by simp [stripTolerationItem, mapsOfItem]

end

/-- A security context that loses its group gets smaller. -/
theorem fieldsWeight_skips {drops : Bool} {fields : Fields} (grouped : fields.lookup "fsGroup" ≠ none) :
    fieldsWeight (stripFSGroupEntries drops true fields) < fieldsWeight fields := by
  induction fields with
  | nil => exact absurd rfl grouped
  | cons entry rest ih =>
    obtain ⟨key, value⟩ := entry
    have left := (stripFSGroupEntries_trims drops true rest).le
    have held := weight_pos value
    have here := (stripFSGroupValue_trims (drops ∧ key = "securityContext") value).le
    rw [stripFSGroupEntries]
    by_cases group : key = "fsGroup"
    · simp only [group, and_self, if_true, fieldsWeight]
      omega
    · have less := ih (by simpa [Fields.lookup_cons, Ne.symm group] using grouped)
      simp only [group, and_false, if_false]
      split
      · simp only [fieldsWeight]
        omega
      · simp only [fieldsWeight]
        omega

/-- So does a pod spec with such a security context. -/
theorem fieldsWeight_drops {skips : Bool} {fields sc : Fields}
    (context : fields.lookup "securityContext" = some (.object sc)) (grouped : sc.lookup "fsGroup" ≠ none) :
    fieldsWeight (stripFSGroupEntries true skips fields) < fieldsWeight fields := by
  induction fields with
  | nil => cases context
  | cons entry rest ih =>
    obtain ⟨key, value⟩ := entry
    have left := (stripFSGroupEntries_trims true skips rest).le
    have held := weight_pos value
    rw [stripFSGroupEntries]
    by_cases named : key = "securityContext"
    · subst named
      obtain rfl : value = .object sc := by simpa using context
      have less : weight (stripFSGroupValue true (.object sc)) < weight (.object sc) :=
        Nat.succ_lt_succ (fieldsWeight_skips grouped)
      rw [if_neg (by simp)]
      split
      · simp only [fieldsWeight]
        omega
      · simp only [and_true, decide_true, fieldsWeight]
        omega
    · have less := ih (by simpa [Fields.lookup_cons, Ne.symm named] using context)
      have here := (stripFSGroupValue_trims false value).le
      simp only [named, and_false, false_and, if_false, decide_false]
      split
      · simp only [fieldsWeight]
        omega
      · simp only [fieldsWeight]
        omega

theorem dropsFSGroup_grouped {fields : Fields} (drops : dropsFSGroup fields = true) :
    ∃ sc, fields.lookup "securityContext" = some (.object sc) ∧ sc.lookup "fsGroup" ≠ none := by
  unfold dropsFSGroup at drops
  split at drops
  · rename_i sc context
    refine ⟨sc, context, fun missing => ?_⟩
    simp [missing] at drops
  · cases drops

mutual

theorem stripFSGroupEntries_eq_iff : ∀ fields : Fields, stripFSGroupEntries false false fields = fields ↔
    ∀ below ∈ mapsBelow fields, dropsFSGroup below = false
  | [] => by simp [stripFSGroupEntries, mapsBelow]
  | (key, value) :: rest => by
    have step : stripFSGroupEntries false false ((key, value) :: rest) =
        (key, stripFSGroupValue false value) :: stripFSGroupEntries false false rest := by
      simp [stripFSGroupEntries]
    rw [step, mapsBelow, List.forall_mem_append, List.cons.injEq, Prod.mk.injEq,
      stripFSGroupEntries_eq_iff rest, stripFSGroupValue_eq_iff value]
    simp

theorem stripFSGroupValue_eq_iff : ∀ value : Json, stripFSGroupValue false value = value ↔
    ∀ below ∈ mapsIn value, dropsFSGroup below = false
  | .object fields => by
    rw [mapsIn, List.forall_mem_cons, stripFSGroupValue, Json.object.injEq]
    exact stripPodFSGroup_eq_iff fields
  | .array items => by rw [mapsIn, stripFSGroupValue, Json.array.injEq, stripFSGroupItems_eq_iff items]
  | .null | .bool _ | .int _ | .float _ | .string _ => by simp [stripFSGroupValue, mapsIn]

theorem stripPodFSGroup_eq_iff : ∀ fields : Fields, stripPodFSGroup fields = fields ↔
    dropsFSGroup fields = false ∧ ∀ below ∈ mapsBelow fields, dropsFSGroup below = false := by
  intro fields
  unfold stripPodFSGroup
  cases drops : dropsFSGroup fields with
  | false => simp [stripFSGroupEntries_eq_iff fields]
  | true =>
    obtain ⟨sc, context, grouped⟩ := dropsFSGroup_grouped drops
    have less : fieldsWeight (stripFSGroupEntries true false fields) < fieldsWeight fields :=
      fieldsWeight_drops context grouped
    refine iff_of_false (fun same => ?_) (by simp)
    rw [same] at less
    exact Nat.lt_irrefl _ less

theorem stripFSGroupItems_eq_iff : ∀ items : List Json, stripFSGroupItems items = items ↔
    ∀ below ∈ mapsAmong items, dropsFSGroup below = false
  | [] => by simp [stripFSGroupItems, mapsAmong]
  | item :: rest => by
    rw [mapsAmong, List.forall_mem_append, stripFSGroupItems, List.cons.injEq, stripFSGroupItems_eq_iff rest,
      stripFSGroupItem_eq_iff item]

theorem stripFSGroupItem_eq_iff : ∀ item : Json, stripFSGroupItem item = item ↔
    ∀ below ∈ mapsOfItem item, dropsFSGroup below = false
  | .object fields => by
    rw [mapsOfItem, List.forall_mem_cons, stripFSGroupItem, Json.object.injEq]
    exact stripPodFSGroup_eq_iff fields
  | .array _ | .null | .bool _ | .int _ | .float _ | .string _ => by simp [stripFSGroupItem, mapsOfItem]

end

/-! ### ConfigMaps and Secrets -/

/-- A map that none of the walks changes. -/
structure Quiet (classes : GoMap String String) (fields : Fields) : Prop where
  runtime : RuntimeKept classes fields
  tolerations : TolerationsKept fields
  fsGroup : dropsFSGroup fields = false

/-- A value outlasts the walks just if they find nothing in any of its maps. -/
theorem settleValue_eq_iff_quiet (classes : GoMap String String) (value : Json) :
    settleValue classes [] value = value ↔ ∀ below ∈ mapsIn value, Quiet classes below := by
  rw [settleValue_eq_iff, walkRuntimeValue_eq_iff, stripTolerationValue_eq_iff, stripFSGroupValue_eq_iff]
  constructor
  · rintro ⟨runtime, ⟨_, tolerations⟩, groups⟩ below member
    exact ⟨runtime below member, tolerations below member, groups below member⟩
  · intro quiet
    exact ⟨fun below member => (quiet below member).runtime,
      ⟨fun other => absurd other Bool.false_ne_true, fun below member => (quiet below member).tolerations⟩,
      fun below member => (quiet below member).fsGroup⟩

/-- The fields of a ConfigMap or a Secret, apart from the metadata. -/
def payloadKeys : List String := ["apiVersion", "kind", "data", "binaryData", "stringData", "type", "immutable"]

theorem lookup_object_payload (opt : Options) (obj : Fields) {key : String} (payload : key ∈ payloadKeys) :
    (object opt obj).lookup key = (obj.lookup key).map (settleValue opt.runtimeClassMap []) := by
  have each : ∀ key ∈ payloadKeys, key ∉ walkedKeys ∧ [key] ∉ affinityPaths ∧ key ≠ "spec" ∧ key ≠ "metadata" ∧
      [key] ∉ localPaths ∧ tailsUnder key affinityPaths = [] ∧ tailsUnder key localPaths = [] := by decide
  obtain ⟨plain, kept, spec, metadata, stays, unpinned, unlocal⟩ := each key payload
  rw [object_eq_settle, lookup_settle _ plain kept, lookup_remapStorageClass spec, lookup_dropLocal metadata stays,
    unpinned, unlocal, removeBelow_nil, Option.map_id]
  rfl

/-- The sanitizer leaves a payload exactly as it was just if none of its maps, at any depth,
has a key that a walk acts on. -/
theorem object_payload_iff (opt : Options) (obj : Fields) :
    (∀ key ∈ payloadKeys, (object opt obj).lookup key = obj.lookup key) ↔
      ∀ key ∈ payloadKeys, ∀ value, obj.lookup key = some value →
        ∀ below ∈ mapsIn value, Quiet opt.runtimeClassMap below := by
  refine forall₂_congr fun key payload => ?_
  rw [lookup_object_payload opt obj payload]
  cases obj.lookup key with
  | none => simp
  | some value => simp [settleValue_eq_iff_quiet]

/-- A ConfigMap with one entry. -/
def configOf (key text : String) : Fields := [
  ("kind", .string "ConfigMap"),
  ("metadata", .object [("name", .string "app")]),
  ("data", .object [(key, .string text)])]

/-- An entry whose key is the name of a pod spec's field is taken for the field. -/
theorem object_payload_lost :
    (object {} (configOf "runtimeClassName" "gvisor")).lookup "data" = some (.object []) ∧
    (object { runtimeClassMap := .table [("gvisor", "kata")] } (configOf "runtimeClassName" "gvisor")).lookup "data" =
      some (.object [("runtimeClassName", .string "kata")]) := by
  decide +kernel

end Portage.Transform
