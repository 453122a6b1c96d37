import Advisory.Package.Basic
import Advisory.Text.Quoted

/-!
# The written form of package identifiers

A package is written `name-version-release.arch`, the version with its epoch and a colon in front if
the epoch is not zero. A reader meets more than a writer produces: the epoch may stand in front of
the name instead, zero may be written out, and `.rpm` may follow.

Reading works from the right. The architecture comes after the last point, the release after the
last dash before it, the version between the last two dashes, and everything in front is the name,
which may itself hold dashes. A run of digits with a colon in front of the name or the version is an
epoch; the one on the version wins.

`Nevra.render` writes an identifier and `Nevra.parse` reads one.
-/

namespace Advisory

/-- A text that is no package identifier. -/
structure MalformedIdentifier where
  text : String
deriving DecidableEq, Repr

def MalformedIdentifier.message (e : MalformedIdentifier) : String :=
  "unable to parse nevra: " ++ Text.quote e.text

namespace Nevra

/-! ## Writing -/

/-- Writes an identifier; an epoch shows only if it is positive. -/
def render (n : Nevra) : String :=
  let epoch := if n.epoch > 0 then toString n.epoch ++ ":" else ""
  n.name ++ "-" ++ epoch ++ n.version ++ "-" ++ n.release ++ "." ++ n.arch

/-! ## Reading -/

/-- Splits at the last `sep`, which belongs to neither part. -/
def splitLast (sep : Char) : List Char → Option (List Char × List Char)
  | [] => none
  | c :: cs =>
    match splitLast sep cs with
    | some (before, after) => some (c :: before, after)
    | none => if c = sep then some ([], cs) else none

/-- Removes one `.rpm` from the end. -/
def dropRpm (cs : List Char) : List Char :=
  if ['.', 'r', 'p', 'm'].isSuffixOf cs then cs.take (cs.length - 4) else cs

/-- The number that a run of decimal digits stands for. -/
def decimalValue (digits : List Char) : Nat :=
  digits.foldl (fun n c => 10 * n + (c.toNat - '0'.toNat)) 0

/-- Epochs are signed 64-bit integers. -/
def maxEpoch : Nat := Nat.pow 2 63 - 1

/-- Splits a field into an epoch, if digits with a colon stand in front, and the rest. -/
def splitEpoch (field : List Char) : Option Nat × List Char :=
  let digits := field.takeWhile Char.isDigit
  match field.dropWhile Char.isDigit with
  | ':' :: rest =>
    if digits ≠ [] ∧ decimalValue digits ≤ maxEpoch then (some (decimalValue digits), rest)
    else (none, field)
  | _ => (none, field)

/-- Whether a field may stand as it is: it is there and holds no colon. -/
def isPlain (field : List Char) : Bool := field ≠ [] && !field.contains ':'

/-- Whether a text can name an architecture: small letters, digits and underscores. -/
def isArch (arch : List Char) : Bool :=
  arch ≠ [] && arch.all fun c => ('a' ≤ c && c ≤ 'z') || c.isDigit || c = '_'

/-- Reads an identifier from characters. -/
def parseChars (cs : List Char) : Option Nevra := do
  let (head, arch) ← splitLast '.' (dropRpm cs)
  guard (isArch arch)
  let (front, release) ← splitLast '-' head
  guard (isPlain release)
  let (nameField, versionField) ← splitLast '-' front
  let (versionEpoch, version) := splitEpoch versionField
  guard (isPlain version)
  let (nameEpoch, name) := splitEpoch nameField
  guard (isPlain name)
  return {
    name := String.ofList name
    epoch := (versionEpoch <|> nameEpoch).getD 0
    version := String.ofList version
    release := String.ofList release
    arch := String.ofList arch }

/-- Reads an identifier; any other text is malformed. -/
def parse (text : String) : Except MalformedIdentifier Nevra :=
  match parseChars text.toList with
  | some n => .ok n
  | none => .error ⟨text⟩

end Nevra

end Advisory
