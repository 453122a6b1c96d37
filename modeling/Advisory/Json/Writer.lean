import Advisory.Json.Value
import Advisory.Text.Quoted

/-!
# Writing JSON

One line without blanks. Members stand in the order in which the object holds them. Of the characters
in a string only the quotation mark, the backslash and the controls are escaped.

The pieces are written in front of what follows them, so that a long answer is put together from its
end and nothing is copied twice.
-/

namespace Advisory.Json

/-- A character inside a string. -/
def writeChar (c : Char) : List Char :=
  if c = '"' ∨ c = '\\' then ['\\', c]
  else if c = '\n' then ['\\', 'n']
  else if c = '\r' then ['\\', 'r']
  else if c = '\t' then ['\\', 't']
  else if c = '\x08' then ['\\', 'b']
  else if c = '\x0c' then ['\\', 'f']
  else if c < ' ' then ['\\', 'u', '0', '0'] ++ Binary64.padLeft 2 (Text.hexDigits c.toNat)
  else [c]

/-- A string in front of `after`. -/
def writeString (s : String) (after : List Char) : List Char :=
  '"' :: s.toList.foldr (fun c rest => writeChar c ++ rest) ('"' :: after)

/-- A word or numeral in front of `after`. -/
def writeWord (s : String) (after : List Char) : List Char := s.toList ++ after

mutual

/-- A value in front of `after`. A fraction is written with as many places as it has binary digits
behind the point, which is all of its digits; what denotes nothing is written as null. -/
def write : Json → List Char → List Char
  | null, after => writeWord "null" after
  | bool b, after => writeWord (if b then "true" else "false") after
  | integer n, after => writeWord (toString n) after
  | fraction x, after => writeWord (x.fixed (max 1 (-x.exponent).toNat)) after
  | text s, after => writeString s after
  | array [], after => '[' :: ']' :: after
  | array (item :: items), after => '[' :: write item (writeItems items after)
  | object [], after => '\x7b' :: '\x7d' :: after
  | object ((name, value) :: members), after =>
    '\x7b' :: writeString name (':' :: write value (writeMembers members after))
  | malformed, after => writeWord "null" after

/-- The items after the first one, and the closing bracket. -/
def writeItems : List Json → List Char → List Char
  | [], after => ']' :: after
  | item :: items, after => ',' :: write item (writeItems items after)

/-- The members after the first one, and the closing brace. -/
def writeMembers : List (String × Json) → List Char → List Char
  | [], after => '\x7d' :: after
  | (name, value) :: members, after =>
    ',' :: writeString name (':' :: write value (writeMembers members after))

end

def render (json : Json) : String := String.ofList (write json [])

end Advisory.Json
