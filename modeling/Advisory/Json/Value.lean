import Advisory.Number.Binary64

/-!
# JSON values

What a request line or a snapshot file says. An object keeps all its members in the order written,
repeated names included, because a repeated name is an error in one place and harmless in another;
looking a name up finds the last member with it. A number without fraction and exponent that fits 64
bits is an integer; every other number is a fraction, also `1.0` and `-0`.

Some text follows the grammar and still denotes nothing: a string with half of a surrogate pair, a
number beyond every binary fraction. Such a piece is read as `malformed`. It does no harm where a
reader passes over it; `Json.isSound` says whether a value is free of it and not nested too deep.
-/

namespace Advisory

inductive Json where
  | null
  | bool (value : Bool)
  | integer (value : Int)
  | fraction (value : Binary64)
  | text (value : String)
  | array (items : List Json)
  | object (members : List (String × Json))
  | malformed
deriving Repr

namespace Json

/-- The number of arrays and objects that may stand inside each other. -/
def maxDepth : Nat := 127

/-- Whether a value denotes something throughout and has at most `depth` levels of nesting. -/
def isSound : Nat → Json → Bool
  | _, malformed => false
  | 0, array _ => false
  | 0, object _ => false
  | depth + 1, array items => items.all (isSound depth)
  | depth + 1, object members => members.all fun m => isSound depth m.2
  | _, _ => true

/-- The last member with a name. -/
def lookup? (name : String) (members : List (String × Json)) : Option Json :=
  (members.reverse.find? (·.1 = name)).map (·.2)

/-- The member of an object, none if there is no such member or no object. -/
def member? (json : Json) (name : String) : Option Json :=
  match json with
  | object members => lookup? name members
  | _ => none

/-- A text, or null where there is none. -/
def ofText? : Option String → Json
  | some s => text s
  | none => null

def ofTexts (xs : List String) : Json := array (xs.map text)

/-- A member with a value, no member where there is none. -/
def given (name : String) (value : Option Json) : List (String × Json) :=
  match value with
  | some json => [(name, json)]
  | none => []

def ofNat (n : Nat) : Json := integer n

end Json

end Advisory
