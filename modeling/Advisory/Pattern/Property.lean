import Advisory.Pattern.CharSet
import Advisory.Pattern.Table.Age
import Advisory.Pattern.Table.Binary
import Advisory.Pattern.Table.Category
import Advisory.Pattern.Table.Script
import Advisory.Pattern.Table.Segment

/-!
# Named properties

A pattern may ask for a property of characters by name: a binary property, a general category or a
script. It may also name a property and a value of it: a general category, a script, an age, or a
value that tells where text may be divided. Names are compared loosely: case, blanks, underscores
and dashes do not count, nor does an `is` in front.

A single name is looked up among binary properties first, then among categories, then among scripts.
Two abbreviations mean a category although they also abbreviate a property.
-/

namespace Advisory.Pattern

open Advisory.Text (NamedRuns CharTable)

/-- A name with everything removed that does not count. -/
def looseName (name : List Char) : String :=
  let dropped :=
    match name with
    | a :: b :: rest => if a.toLower = 'i' ∧ b.toLower = 's' then rest else name
    | _ => name
  let kept := (dropped.filter fun c => c ≠ ' ' && c ≠ '_' && c ≠ '-' && c.toNat ≤ 0x7F).map Char.toLower
  if kept = ['c'] ∧ dropped ≠ name then "isc" else String.ofList kept

/-- A general category, a group of them, or one of three sets that are named like categories. -/
def category? (name : String) : Option CharSet :=
  match name with
  | "any" => some .all
  | "ascii" => some (.range '\x00' '\x7f')
  | "assigned" => (NamedRuns.find? Table.categories "cn").map fun t => .complement (.table t)
  | _ =>
    match Table.categoryGroups.find? (·.1.contains name) with
    | some (_, members) =>
      some (.unionAll (members.filterMap fun m => (NamedRuns.find? Table.categories m).map .table))
    | none => (NamedRuns.find? Table.categories name).map .table

def script? (name : String) : Option CharSet :=
  (NamedRuns.find? Table.scripts name).map .table

/-- The characters used with a script. -/
def scriptExtension? (name : String) : Option CharSet :=
  match NamedRuns.find? Table.scriptExtensions name with
  | some t => some (.table t)
  | none => script? name

/-- The characters of a version of the standard, which are those of all versions up to it. -/
def age? (name : String) : Option CharSet :=
  (Table.versions.findIdx? (·.names.contains name)).map fun i =>
    .unionAll ((Table.versions.take (i + 1)).map fun v => .table (CharTable.ofRuns v.runs))

def binary? (name : String) : Option CharSet :=
  if name = "cf" ∨ name = "sc" ∨ name = "lc" then none
  else (NamedRuns.find? Table.binaryProperties name).map .table

/-- The characters that a single name stands for. -/
def property? (name : List Char) : Option CharSet :=
  let name := looseName name
  binary? name <|> category? name <|> script? name

/-- The characters with a value of a named property. -/
def propertyValue? (property value : List Char) : Option CharSet :=
  let value := looseName value
  match looseName property with
  | "gc" | "generalcategory" | "category" => category? value
  | "sc" | "script" => script? value
  | "scx" | "scriptextensions" => scriptExtension? value
  | "age" => age? value
  | "gcb" | "graphemeclusterbreak" => (NamedRuns.find? Table.graphemeBreaks value).map .table
  | "wb" | "wordbreak" => (NamedRuns.find? Table.wordBreaks value).map .table
  | "sb" | "sentencebreak" => (NamedRuns.find? Table.sentenceBreaks value).map .table
  | _ => none

end Advisory.Pattern
