import Advisory.Order
import Advisory.Snapshot.Table

/-!
# Reading a table

A layout says what the catalogue reads from one table: its name, the columns with their kinds, the
columns that rows are delivered by, and what a row means. Reading a table decodes every row and
delivers them in order.

A table cannot be read if it does not exist, if it lacks a column that its rows are delivered by, or
if some row lacks a column or holds a cell that does not fit. A column that only has to be decoded is
not missed as long as there is no row.
-/

namespace Advisory

/-- Why a snapshot cannot be loaded. -/
inductive LoadError where
  /-- There is no file to open. -/
  | unopened
  /-- A table cannot be read. -/
  | unreadable (table : String)
  /-- The snapshot does not say when it was exported. -/
  | noFreshness
deriving DecidableEq, Repr

/-- What is said about a snapshot that cannot be loaded. -/
def LoadError.message : LoadError → String
  | unopened => "unable to open snapshot"
  | unreadable table => "unable to load table '" ++ table ++ "'"
  | noFreshness => "snapshot has no 'dbchange' row"

/-- How one table is read. -/
structure Layout (ρ : Type) where
  table : String
  columns : List Column
  /-- The columns that rows are delivered by. -/
  order : List String
  /-- What a row means. -/
  build : Row columns → ρ
  /-- The order of delivery, on what rows mean. -/
  compare : ρ → ρ → Ordering

namespace Layout

variable {ρ : Type}

/-- The columns of the table as they are usually stored. -/
def columnNames (l : Layout ρ) : List String := l.columns.map (·.name)

def table? (l : Layout ρ) (s : Snapshot) : Option Table :=
  match s.tables.find? (·.1 = l.table) with
  | some (_, t) => t
  | none => some ⟨l.columnNames, []⟩

/-- What a stored row means. -/
def decodeRow (l : Layout ρ) (t : Table) (row : List Cell) : Option ρ :=
  (Row.decode (t.cell? row) l.columns).map l.build

/-- The meaning of the rows in the order they are stored, if all can be decoded. -/
def decode (l : Layout ρ) (s : Snapshot) : Option (List ρ) := do
  let t ← l.table? s
  guard (l.order.all t.hasColumn)
  t.rows.mapM (l.decodeRow t)

/-- The meaning of the rows in the order they are delivered. Rows that the order does not separate stay
as they were stored. -/
def read (l : Layout ρ) (s : Snapshot) : Except LoadError (List ρ) :=
  match l.decode s with
  | some rows => .ok (stableSort l.compare rows)
  | none => .error (.unreadable l.table)

end Layout

end Advisory
