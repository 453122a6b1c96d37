import Advisory.Json.Value
import Advisory.Snapshot.Tables

/-!
# The written form of a snapshot

A snapshot is written as one JSON object with a member for each table. A table is an array of rows,
each an array of cells in the usual order of columns; or an object that names its columns and gives
the rows; or null, if the table does not exist. A cell is null, a number, a text or an object with
hexadecimal digits for bytes.
-/

namespace Advisory

def Cell.ofJson? : Json → Option Cell
  | .null => some .null
  | .integer n => some (.integer n)
  | .fraction x => some (.real x)
  | .text s => some (.text s)
  | .object [("blob", .text _)] => some .blob
  | _ => none

namespace Table

def rowsOfJson? : Json → Option (List (List Cell))
  | .array rows => rows.mapM fun
    | .array cells => cells.mapM Cell.ofJson?
    | _ => none
  | _ => none

def columnsOfJson? : Json → Option (List String)
  | .array names => names.mapM fun
    | .text name => some name
    | _ => none
  | _ => none

/-- A table that is usually stored with some columns. Nothing inside the result stands for a table
that does not exist. -/
def ofJson? (columns : List String) (json : Json) : Option (Option Table) :=
  match json with
  | .null => some none
  | .array _ => do
    return some ⟨columns, ← rowsOfJson? json⟩
  | _ => do
    return some ⟨← columnsOfJson? (← json.member? "columns"),
      ← rowsOfJson? (← json.member? "rows")⟩

end Table

namespace Snapshot

/-- A snapshot as it is written. Of members with one name the last counts. -/
def ofJson? : Json → Option Snapshot
  | .object members => do
    let tables ← members.mapM fun (name, json) => do
      return (name, ← Table.ofJson? ((standardColumns.lookup name).getD []) json)
    return ⟨tables.reverse⟩
  | _ => none

/-- A snapshot in which no table exists. -/
def hollow : Snapshot := ⟨standardColumns.map fun (name, _) => (name, none)⟩

end Snapshot

end Advisory
