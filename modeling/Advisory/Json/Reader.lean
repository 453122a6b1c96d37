import Advisory.Json.Value

/-!
# Reading JSON

The grammar is the strict one: blanks, tabs and line ends between tokens, no comments, no comma
before a closing bracket, no leading zero, no control character inside a string. Nothing but blanks
may follow the value.

Strings are read in two steps. `scanString` takes the characters up to the closing quotation mark and
turns every escape into the code unit it denotes; `joinUnits` puts the two halves of a surrogate pair
together and refuses a half that stands alone.

The recursion of `readValue` is bounded by a number, which the entry point sets to the length of the
input: a value takes at least one character.
-/

namespace Advisory.Json

/-- Drops the blanks that may stand between tokens. -/
def skip (cs : List Char) : List Char :=
  cs.dropWhile fun c => c = ' ' || c = '\t' || c = '\n' || c = '\r'

/-! ## Strings -/

def hexValue? (c : Char) : Option Nat :=
  if c.isDigit then some (c.toNat - '0'.toNat)
  else if 'a' ≤ c ∧ c ≤ 'f' then some (c.toNat - 'a'.toNat + 10)
  else if 'A' ≤ c ∧ c ≤ 'F' then some (c.toNat - 'A'.toNat + 10)
  else none

/-- The code unit of four hexadecimal digits. -/
def codeUnit? (a b c d : Char) : Option Nat := do
  return ((← hexValue? a) * 16 + (← hexValue? b)) * 256 + (← hexValue? c) * 16 + (← hexValue? d)

/-- What a letter after a backslash stands for. -/
def escaped? : Char → Option Char
  | '"' => some '"'
  | '\\' => some '\\'
  | '/' => some '/'
  | 'b' => some '\x08'
  | 'f' => some '\x0c'
  | 'n' => some '\n'
  | 'r' => some '\r'
  | 't' => some '\t'
  | _ => none

/-- The code points and code units of a string whose opening quotation mark has been read, and what
follows the closing one. `before` holds those already read, the last one first. -/
def scanString (before : List Nat) : List Char → Option (List Nat × List Char)
  | [] => none
  | '"' :: rest => some (before.reverse, rest)
  | '\\' :: 'u' :: a :: b :: c :: d :: rest =>
    match codeUnit? a b c d with
    | some unit => scanString (unit :: before) rest
    | none => none
  | '\\' :: c :: rest =>
    match escaped? c with
    | some c' => scanString (c'.toNat :: before) rest
    | none => none
  | c :: rest => if c < ' ' ∨ c = '\\' then none else scanString (c.toNat :: before) rest

/-- Whether a code unit is the first half of a surrogate pair. -/
def isHighHalf (unit : Nat) : Bool := 0xD800 ≤ unit && unit ≤ 0xDBFF

/-- Whether a code unit is the second half of a surrogate pair. -/
def isLowHalf (unit : Nat) : Bool := 0xDC00 ≤ unit && unit ≤ 0xDFFF

/-- The characters of code units, none if half of a surrogate pair stands alone. -/
def joinUnits : List Nat → Option (List Char)
  | [] => some []
  | [unit] => if isHighHalf unit || isLowHalf unit then none else some [Char.ofNat unit]
  | unit :: next :: rest =>
    if isHighHalf unit then
      if isLowHalf next then
        (joinUnits rest).map
          (Char.ofNat (0x10000 + (unit - 0xD800) * 0x400 + (next - 0xDC00)) :: ·)
      else none
    else if isLowHalf unit then none
    else (joinUnits (next :: rest)).map (Char.ofNat unit :: ·)

/-- The text of a string whose opening quotation mark has been read; no text if it denotes none. -/
def readString (cs : List Char) : Option (Option String × List Char) := do
  let (units, rest) ← scanString [] cs
  return ((joinUnits units).map String.ofList, rest)

/-! ## Numbers -/

def digitsValue (digits : List Char) : Nat :=
  digits.foldl (fun n c => 10 * n + (c.toNat - '0'.toNat)) 0

def spanDigits (cs : List Char) : List Char × List Char :=
  (cs.takeWhile Char.isDigit, cs.dropWhile Char.isDigit)

/-- The digits after a point, if one follows. -/
def readPlaces : List Char → Option (Option (List Char) × List Char)
  | '.' :: cs =>
    let (digits, rest) := spanDigits cs
    if digits = [] then none else some (some digits, rest)
  | cs => some (none, cs)

/-- The power of ten, if one follows. -/
def readPower (cs : List Char) : Option (Option Int × List Char) :=
  match cs with
  | c :: cs' =>
    if c = 'e' ∨ c = 'E' then
      let (negative, cs'') :=
        match cs' with
        | '-' :: r => (true, r)
        | '+' :: r => (false, r)
        | r => (false, r)
      let (digits, rest) := spanDigits cs''
      if digits = [] then none
      else
        let n : Int := digitsValue digits
        some (some (if negative then -n else n), rest)
    else some (none, cs)
  | [] => some (none, [])

/-- The number that the parts of a numeral denote. Without fraction and power it is an integer where
64 bits hold it; minus zero is a fraction. -/
def ofNumeral (negative : Bool) (whole : List Char) (places : Option (List Char))
    (power : Option Int) : Json :=
  let n := digitsValue whole
  let value : Int := if negative then -(n : Int) else n
  if places = none ∧ power = none ∧ -(Nat.pow 2 63 : Int) ≤ value ∧ value < Nat.pow 2 64 ∧
      ¬(negative ∧ n = 0) then
    integer value
  else
    let fractionDigits := places.getD []
    match Binary64.ofDecimal negative (digitsValue (whole ++ fractionDigits))
        (power.getD 0 - fractionDigits.length) with
    | some x => fraction x
    | none => malformed

/-- A numeral at the front. -/
def readNumber (cs : List Char) : Option (Json × List Char) := do
  let (negative, cs) :=
    match cs with
    | '-' :: r => (true, r)
    | r => (false, r)
  let (whole, cs) := spanDigits cs
  guard (whole ≠ [])
  guard (whole.length = 1 || whole.head? ≠ some '0')
  let (places, cs) ← readPlaces cs
  let (power, cs) ← readPower cs
  return (ofNumeral negative whole places power, cs)

/-! ## Values -/

/-- What follows a given word. -/
def afterWord (word cs : List Char) : Option (List Char) :=
  if word.isPrefixOf cs then some (cs.drop word.length) else none

/-- The object with the given members; one whose name denotes nothing spoils it. -/
def ofMembers (members : List (Option String × Json)) : Json :=
  match members.mapM fun m => m.1.map (·, m.2) with
  | some named => object named
  | none => malformed

mutual

/-- A value at the front, blanks before it allowed. -/
def readValue : Nat → List Char → Option (Json × List Char)
  | 0, _ => none
  | bound + 1, cs =>
    match skip cs with
    | [] => none
    | '[' :: r =>
      match skip r with
      | ']' :: r' => some (array [], r')
      | _ => (readItems bound r).map fun (items, rest) => (array items, rest)
    | '\x7b' :: r =>
      match skip r with
      | '\x7d' :: r' => some (object [], r')
      | _ => (readMembers bound r).map fun (members, rest) => (ofMembers members, rest)
    | '"' :: r =>
      (readString r).map fun (s, rest) => (s.elim malformed text, rest)
    | 'n' :: r => (afterWord ['u', 'l', 'l'] r).map (null, ·)
    | 't' :: r => (afterWord ['r', 'u', 'e'] r).map (bool true, ·)
    | 'f' :: r => (afterWord ['a', 'l', 's', 'e'] r).map (bool false, ·)
    | r => readNumber r

/-- One or more values separated by commas, up to the closing bracket. -/
def readItems : Nat → List Char → Option (List Json × List Char)
  | 0, _ => none
  | bound + 1, cs =>
    match readValue bound cs with
    | none => none
    | some (item, r) =>
      match skip r with
      | ',' :: r' => (readItems bound r').map fun (items, rest) => (item :: items, rest)
      | ']' :: r' => some ([item], r')
      | _ => none

/-- One or more members separated by commas, up to the closing brace. -/
def readMembers : Nat → List Char → Option (List (Option String × Json) × List Char)
  | 0, _ => none
  | bound + 1, cs =>
    match skip cs with
    | '"' :: r =>
      match readString r with
      | none => none
      | some (name, r) =>
        match skip r with
        | ':' :: r =>
          match readValue bound r with
          | none => none
          | some (value, r) =>
            match skip r with
            | ',' :: r' =>
              (readMembers bound r').map fun (members, rest) => ((name, value) :: members, rest)
            | '\x7d' :: r' => some ([(name, value)], r')
            | _ => none
        | _ => none
    | _ => none

end

/-- Reads a text that holds one value and nothing else. Pieces of it may be malformed. -/
def read? (s : String) : Option Json :=
  let cs := s.toList
  match readValue (2 * cs.length + 2) cs with
  | some (json, rest) => if skip rest = [] then some json else none
  | none => none

/-- Reads a text that holds one sound value and nothing else. -/
def readSound? (s : String) : Option Json :=
  (read? s).filter (isSound maxDepth)

end Advisory.Json
