import Advisory.Json.Value
import Advisory.Time.RequestDate

/-!
# Records in requests

A record is written as an object, whose members may come in any order and hold more than is asked
for. Most records may also be written as an array, which gives the fields by position; it may be
shorter than the record only by fields that have a default, and never longer.

A field that is optional may be missing or null. A field with a default may be missing, and null is
no value for it.
-/

namespace Advisory

structure Fields where
  members : List (String × Json)

namespace Json

/-- The fields of a record that has to be an object. -/
def fields? : Json → Option Fields
  | object members => some ⟨members⟩
  | _ => none

/-- The fields of a record that may also be an array of at least `required` items in the order of
`names`. -/
def record? (names : List String) (required : Nat) : Json → Option Fields
  | object members => some ⟨members⟩
  | array items =>
    if required ≤ items.length ∧ items.length ≤ names.length then some ⟨names.zip items⟩ else none
  | _ => none

/-! ## Values of fields -/

def asText? : Json → Option String
  | text s => some s
  | _ => none

def asBool? : Json → Option Bool
  | bool b => some b
  | _ => none

def asInteger? : Json → Option Int
  | integer n => if -(Nat.pow 2 63 : Int) ≤ n ∧ n < Nat.pow 2 63 then some n else none
  | _ => none

def asDate? : Json → Option Time.Instant
  | text s => Time.requestDate? s
  | _ => none

/-- A list of values that can all be read. -/
def asList? (read : Json → Option α) : Json → Option (List α)
  | array items => items.mapM read
  | _ => none

end Json

namespace Fields

/-- The value of a field as it is written. Of members with one name the last counts. -/
def value? (f : Fields) (name : String) : Option Json := Json.lookup? name f.members

def required (f : Fields) (name : String) (read : Json → Option α) : Option α := do
  read (← f.value? name)

/-- A field that may be missing or null. -/
def optional (f : Fields) (name : String) (read : Json → Option α) : Option (Option α) :=
  match f.value? name with
  | none => some none
  | some .null => some none
  | some json => (read json).map some

def withDefault (f : Fields) (name : String) (default : α) (read : Json → Option α) : Option α :=
  match f.value? name with
  | none => some default
  | some json => read json

end Fields

end Advisory
