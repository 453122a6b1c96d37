import Advisory.Id
import Advisory.Number.Binary64
import Advisory.Time.SnapshotDate

/-!
# Tables of a snapshot

A snapshot is a set of tables as they were exported: named columns, and rows of cells that carry their
own type. Nothing is known about the cells beforehand; whether they fit is found out when a table is
read.

A column that the catalogue reads has a kind of value and may or may not be empty. `Row` is the type
of what a list of columns holds, one value per column, so a row that has been decoded is typed and
cannot fail any more.
-/

namespace Advisory

/-! ## What is stored -/

/-- A cell as stored. Cells are not converted, so the number 7 and the text "7" are different. -/
inductive Cell where
  | null
  | integer (n : Int)
  | real (x : Binary64)
  | text (s : String)
  | blob
deriving DecidableEq, Repr

/-- A table as stored: the names of its columns and its rows, in the order they were written. -/
structure Table where
  columns : List String
  rows : List (List Cell)
deriving DecidableEq, Repr

/-- The tables of a snapshot by name. A table that is given as absent does not exist; one that is not
given exists and is empty. -/
structure Snapshot where
  tables : List (String × Option Table)
deriving DecidableEq, Repr

/-- Names of columns are compared without regard to the case of ASCII letters. -/
def sameColumn (a b : String) : Bool :=
  a.toList.map Char.toLower = b.toList.map Char.toLower

namespace Table

def hasColumn (t : Table) (name : String) : Bool := t.columns.any (sameColumn name)

/-- The cell of a row in the column with a name, if there is such a column. -/
def cell? (t : Table) (row : List Cell) (name : String) : Option Cell :=
  ((t.columns.zip row).find? fun c => sameColumn name c.1).map (·.2)

end Table

/-! ## What is read -/

/-- An instant together with the way it was spelled. -/
structure Stamp where
  instant : Time.Instant
  spelling : String
deriving DecidableEq, Repr

/-- The kinds of value that a column may hold. -/
inductive Kind where
  | integer
  | id (numbered : Numbered)
  | text
  | real
  | date
  /-- A date whose spelling counts. -/
  | stamp
deriving DecidableEq, Repr

/-- The values of a kind. -/
abbrev Kind.Value : Kind → Type
  | integer => Int
  | id numbered => Id numbered
  | text => String
  | real => Binary64
  | date => Time.Instant
  | stamp => Stamp

/-- The value of a cell that fits a kind. Only real columns accept two types of cell. -/
def Kind.decode : (k : Kind) → Cell → Option k.Value
  | integer, .integer n => some n
  | id _, .integer n => some ⟨n⟩
  | text, .text s => some s
  | real, .real x => some x
  | real, .integer n => some (.ofInt n)
  | date, .text s => Time.snapshotDate? s
  | stamp, .text s => (Time.snapshotDate? s).map (⟨·, s⟩)
  | _, _ => none

/-- A column that the catalogue reads. -/
structure Column where
  name : String
  kind : Kind
  nullable : Bool
deriving DecidableEq, Repr

namespace Column

/-- The values of a column: those of its kind, and nothing where it may be empty. -/
abbrev Value : Column → Type
  | ⟨_, kind, true⟩ => Option kind.Value
  | ⟨_, kind, false⟩ => kind.Value

/-- The value of a cell that fits a column. -/
def decode : (c : Column) → Cell → Option c.Value
  | ⟨_, _, true⟩, .null => some none
  | ⟨_, kind, true⟩, cell => (kind.decode cell).map some
  | ⟨_, kind, false⟩, cell => kind.decode cell

end Column

/-- What a row holds in some columns. -/
abbrev Row : List Column → Type
  | [] => Unit
  | c :: cs => c.Value × Row cs

/-- Decodes the cells of some columns; all of them have to be there and fit. -/
def Row.decode (cell? : String → Option Cell) : (cs : List Column) → Option (Row cs)
  | [] => some ()
  | c :: cs => do
    let value ← c.decode (← cell? c.name)
    let rest ← Row.decode cell? cs
    return (value, rest)

end Advisory
