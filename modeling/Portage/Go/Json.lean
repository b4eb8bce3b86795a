import Mathlib.Data.Rat.Defs
import Mathlib.Data.List.Basic

/-! Untyped JSON values as the API machinery keeps them, and the nested reads and
writes on them. -/
namespace Portage.Go

/-- A value of Go's type `any` that came out of JSON. A `map[string]any` is the list of
its entries, in no particular order. -/
inductive Json where
  | null
  | bool (value : Bool)
  | int (value : Int)
  | float (value : Rat)
  | string (text : String)
  | array (items : List Json)
  | object (fields : List (String × Json))
  deriving Repr

abbrev Fields := List (String × Json)

namespace Json

mutual

/-- Whether two values are the same. -/
def same : Json → Json → Bool
  | null, null => true
  | bool a, bool b => a == b
  | int a, int b => a == b
  | float a, float b => a == b
  | string a, string b => a == b
  | array a, array b => sameItems a b
  | object a, object b => sameFields a b
  | _, _ => false

def sameItems : List Json → List Json → Bool
  | [], [] => true
  | a :: rest, b :: others => same a b && sameItems rest others
  | _, _ => false

def sameFields : Fields → Fields → Bool
  | [], [] => true
  | (key, a) :: rest, (other, b) :: others => key == other && same a b && sameFields rest others
  | _, _ => false

end

mutual

theorem same_iff : ∀ a b : Json, same a b = true ↔ a = b
  | null, b => by cases b <;> simp [same]
  | bool a, b => by cases b <;> simp [same]
  | int a, b => by cases b <;> simp [same]
  | float a, b => by cases b <;> simp [same]
  | string a, b => by cases b <;> simp [same]
  | array a, b => by cases b <;> simp [same, sameItems_iff a]
  | object a, b => by cases b <;> simp [same, sameFields_iff a]

theorem sameItems_iff : ∀ a b : List Json, sameItems a b = true ↔ a = b
  | [], b => by cases b <;> simp [sameItems]
  | a :: rest, b => by cases b <;> simp [sameItems, same_iff a, sameItems_iff rest]

theorem sameFields_iff : ∀ a b : Fields, sameFields a b = true ↔ a = b
  | [], b => by cases b <;> simp [sameFields]
  | (key, a) :: rest, [] => by simp [sameFields]
  | (key, a) :: rest, (other, b) :: others => by simp [sameFields, same_iff a, sameFields_iff rest]

end

instance : DecidableEq Json := fun a b => decidable_of_iff _ (same_iff a b)

/-- The type assertion `v.(string)`, with the zero value where it fails. -/
def text : Json → String
  | string text => text
  | _ => ""

/-- The type assertion `v.(map[string]any)`. -/
def fields? : Json → Option Fields
  | object fields => some fields
  | _ => none

def string? : Json → Option String
  | string text => some text
  | _ => none

end Json

/-! ### Maps -/

namespace Fields

/-- `delete(m, key)`. -/
def erase (key : String) (fields : Fields) : Fields := fields.filter fun entry => entry.1 ≠ key

/-- `m[key] = value`. -/
def put (key : String) (value : Json) : Fields → Fields
  | [] => [(key, value)]
  | entry :: rest => if entry.1 = key then (key, value) :: rest else entry :: put key value rest

/-- `unstructured.NestedFieldNoCopy`: what is under a path of keys. -/
def nested : List String → Fields → Option Json
  | [], fields => some (.object fields)
  | [key], fields => fields.lookup key
  | key :: path, fields => (fields.lookup key).bind fun value => value.fields?.bind (nested path)

/-- `unstructured.NestedString`; a value of another type counts as not found. -/
def nestedString (path : List String) (fields : Fields) : Option String := (fields.nested path).bind Json.string?

/-- `unstructured.RemoveNestedField`. -/
def removeNested : List String → Fields → Fields
  | [], fields => fields
  | [key], fields => fields.erase key
  | key :: path, fields =>
    match (fields.lookup key).bind Json.fields? with
    | some inner => fields.put key (.object (removeNested path inner))
    | none => fields

/-- `unstructured.SetNestedField`, which makes the maps that are missing on the way and
gives up at a value that is none. -/
def setNested : List String → Json → Fields → Fields
  | [], _, fields => fields
  | [key], value, fields => fields.put key value
  | key :: path, value, fields =>
    match fields.lookup key with
    | none => fields.put key (.object (setNested path value []))
    | some (.object inner) => fields.put key (.object (setNested path value inner))
    | some _ => fields

/-- The entries of a map of strings, where null counts as the empty string; a value of
another type makes the whole map unreadable. -/
def strings : Fields → Option (List (String × String))
  | [] => some []
  | (key, .string text) :: rest => ((key, text) :: ·) <$> strings rest
  | (key, .null) :: rest => ((key, "") :: ·) <$> strings rest
  | _ :: _ => none

/-- `unstructured.NestedNullCoercingStringMap`, with nil for what cannot be read. -/
def nestedStrings (path : List String) (fields : Fields) : List (String × String) :=
  (((fields.nested path).bind Json.fields?).bind strings).getD []

end Fields

/-! ### The wire -/

/-- The `float64` nearest to an integer; ties go to the even one. -/
def float64 (n : Int) : Rat :=
  let size := n.natAbs
  if size < 9007199254740992 then mkRat n 1
  else
    let unit := 1 <<< (size.log2 - 52)
    let (whole, rest) := (size / unit, size % unit)
    let up := unit < 2 * rest || (unit = 2 * rest && whole % 2 = 1)
    mkRat (n.sign * Int.ofNat ((if up then whole + 1 else whole) * unit)) 1

namespace Json

mutual

/-- What `encoding/json` decodes into an `any` from the text that it encoded a value to:
every number is a `float64`. -/
def untyped : Json → Json
  | int n => float (float64 n)
  | array items => array (untypedItems items)
  | object fields => object (untypedFields fields)
  | null => null
  | bool value => bool value
  | float value => float value
  | string text => string text

def untypedItems : List Json → List Json
  | [] => []
  | item :: rest => untyped item :: untypedItems rest

def untypedFields : Fields → Fields
  | [] => []
  | (key, value) :: rest => (key, untyped value) :: untypedFields rest

end

mutual

/-- Whether there is an integer anywhere in a value. -/
def hasInt : Json → Bool
  | int _ => true
  | array items => hasIntItems items
  | object fields => hasIntFields fields
  | null | bool _ | float _ | string _ => false

def hasIntItems : List Json → Bool
  | [] => false
  | item :: rest => hasInt item || hasIntItems rest

def hasIntFields : Fields → Bool
  | [] => false
  | (_, value) :: rest => hasInt value || hasIntFields rest

end

mutual

/-- A value survives the wire just if there is no integer in it. -/
theorem untyped_eq_iff : ∀ value : Json, value.untyped = value ↔ value.hasInt = false
  | int _ => by simp [untyped, hasInt]
  | array items => by simp [untyped, hasInt, untypedItems_eq_iff items]
  | object fields => by simp [untyped, hasInt, untypedFields_eq_iff fields]
  | null | bool _ | float _ | string _ => by simp [untyped, hasInt]

theorem untypedItems_eq_iff : ∀ items : List Json, untypedItems items = items ↔ hasIntItems items = false
  | [] => by simp [untypedItems, hasIntItems]
  | item :: rest => by simp [untypedItems, hasIntItems, untyped_eq_iff item, untypedItems_eq_iff rest]

theorem untypedFields_eq_iff : ∀ fields : Fields, untypedFields fields = fields ↔ hasIntFields fields = false
  | [] => by simp [untypedFields, hasIntFields]
  | (_, value) :: rest => by simp [untypedFields, hasIntFields, untyped_eq_iff value, untypedFields_eq_iff rest]

end

end Json

end Portage.Go
