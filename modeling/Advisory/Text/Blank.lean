/-!
# White space

The characters that count as white space around a request line, in a date and in a pattern that
ignores it. It is the `White_Space` property of the Unicode standard, which holds more than the six
ASCII characters.
-/

namespace Advisory.Text

/-- White space of any script. -/
def isBlank (c : Char) : Bool :=
  c = ' ' || ('\x09' ≤ c && c ≤ '\x0d') || c = '\u0085' || c = '\u00a0' || c = '\u1680' ||
  ('\u2000' ≤ c && c ≤ '\u200a') || c = '\u2028' || c = '\u2029' || c = '\u202f' ||
  c = '\u205f' || c = '\u3000'

/-- What is left after the white space at the beginning. -/
def trimStart (cs : List Char) : List Char := cs.dropWhile isBlank

/-- What is left after the white space at both ends. -/
def trim (cs : List Char) : List Char :=
  ((trimStart cs).reverse.dropWhile isBlank).reverse

end Advisory.Text
