import Mathlib.Data.List.Basic

/-!
# Reading JSON values

A JSON value and the readers that a parser of records is put together from: an object with no key beyond the known ones, a field that must be there, a field with a default, a list read element by element. A number is an integer.
-/

inductive JsonValue
  | null
  | bool (value : Bool)
  | number (value : Int)
  | string (value : String)
  | array (items : List JsonValue)
  | object (fields : List (String × JsonValue))

namespace JsonValue

variable {α β : Type}

/-! ### Readers -/

def readString : JsonValue → Option String
  | .string value => some value
  | _ => none

def readNumber : JsonValue → Option Int
  | .number value => some value
  | _ => none

def readLiteral (expected : String) : JsonValue → Option Unit
  | .string value => if value = expected then some () else none
  | _ => none

def readNullable (read : JsonValue → Option α) : JsonValue → Option (Option α)
  | .null => some none
  | value => (read value).map some

def readArray (read : JsonValue → Option α) : JsonValue → Option (List α)
  | .array items => items.mapM read
  | _ => none

/-- The fields of an object without unknown keys, by key. -/
def readObject (known : List String) : JsonValue → Option (String → Option JsonValue)
  | .object fields =>
      if ∀ field ∈ fields, field.1 ∈ known then some fun key => fields.lookup key else none
  | _ => none

def required (fields : String → Option JsonValue) (key : String) (read : JsonValue → Option α) : Option α :=
  (fields key).bind read

def defaulted (fields : String → Option JsonValue) (key : String) (default : α) (read : JsonValue → Option α) :
    Option α :=
  match fields key with
  | none => some default
  | some value => read value

/-! ### Round trips -/

/-- A list survives as far as its elements do. -/
theorem readArray_map {read : JsonValue → Option β} {dump : α → JsonValue} {f : α → β}
    (h : ∀ a, read (dump a) = some (f a)) (l : List α) : readArray read (.array (l.map dump)) = some (l.map f) := by
  show (l.map dump).mapM read = some (l.map f)
  induction l with
  | nil => rfl
  | cons a l ih =>
      simp only [List.map_cons, List.mapM_cons]
      rw [h, ih]
      rfl

end JsonValue
