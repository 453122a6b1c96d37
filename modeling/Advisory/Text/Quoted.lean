import Advisory.Text.Printable

/-!
# Quoted text

How a message shows a text that it complains about: between quotation marks, with everything escaped
that would not be read back from the page. A quotation mark and a backslash get a backslash, the
usual controls have letters, and a character that does not print is given by its code point.
-/

namespace Advisory.Text

/-- Digits of a number to base 16, in small letters. -/
def hexDigits (n : Nat) : List Char := Nat.toDigits 16 n

/-- A character as it stands between quotation marks. -/
def escapeChar (c : Char) : List Char :=
  if c = '"' ∨ c = '\\' then ['\\', c]
  else if c = '\n' then ['\\', 'n']
  else if c = '\r' then ['\\', 'r']
  else if c = '\t' then ['\\', 't']
  else if c = '\x00' then ['\\', '0']
  else if isPrintable c then [c]
  else ['\\', 'u', '{'] ++ hexDigits c.toNat ++ ['}']

/-- A text between quotation marks, everything else that could mislead a reader escaped. -/
def quote (s : String) : String :=
  String.ofList ('"' :: s.toList.flatMap escapeChar ++ ['"'])

end Advisory.Text
