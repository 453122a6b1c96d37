import Mathlib.Data.List.Nodup
import Advisory.Proofs.Readability

/-!
# Which missing columns are noticed

Two things notice that a column is missing. Putting rows in order needs the
columns that they are delivered by, whether there are rows or not; decoding
needs all columns, but only where there is a row to decode. So a table without
rows may lack any column that its rows are not delivered by, and nothing is
reported.

What is loaded then is what would be loaded if nothing were missing. A table
that lacks a column in this way delivers no rows, as a complete one without
rows does, and reading looks at nothing else.
-/

namespace Advisory

/-- A snapshot with a table in place of another one: all columns that are
read, and no rows. -/
def Snapshot.completing (s : Snapshot) (r : Requirement) : Snapshot where
  tables := (r.table, some ⟨r.columns.map (·.name), []⟩) :: s.tables

/-! ## One table -/

namespace Requirement

variable {r : Requirement} {s : Snapshot} {t : Table}

theorem unreadable_of_missing (ht : r.stored? s = some t) {c : Column}
    (hc : c ∈ r.columns) (hmissing : t.hasColumn c.name = false)
    (h : t.rows ≠ [] ∨ ∃ name ∈ r.order, t.hasColumn name = false) :
    r.Unreadable s := by
  rcases h with hrows | ⟨name, hname, habsent⟩
  · exact .lacking ht hrows hc hmissing
  · exact .unordered ht hname habsent

@[simp] theorem stored?_completing (s : Snapshot) :
    r.stored? (s.completing r) = some ⟨r.columns.map (·.name), []⟩ := by
  simp [stored?, Snapshot.stored?, Snapshot.completing]

theorem stored?_completing_of_ne {r' : Requirement}
    (h : r.table ≠ r'.table) (s : Snapshot) :
    r'.stored? (s.completing r) = r'.stored? s := by
  simp [stored?, Snapshot.stored?, Snapshot.completing, h]

end Requirement

namespace Layout

variable {ρ : Type} {l : Layout ρ} {s s' : Snapshot} {t : Table}

/-- A table that can be put in order and has no rows delivers none, whatever
else it lacks. -/
theorem decode_of_no_rows (ht : l.requirement.stored? s = some t)
    (hrows : t.rows = [])
    (horder : ∀ name ∈ l.order, t.hasColumn name = true) :
    l.decode s = some [] := by
  rw [decode_eq ht, hrows, if_pos (List.all_eq_true.2 horder)]
  rfl

theorem read_congr (h : l.decode s = l.decode s') : l.read s = l.read s' := by
  rw [read, read, h]

end Layout

/-! ## All tables -/

theorem requirements_nodup : (requirements.map (·.table)).Nodup := by
  decide

/-- Rows are delivered by columns that are read. -/
theorem order_subset : ∀ r ∈ requirements, ∀ name ∈ r.order,
    name ∈ r.columns.map (·.name) := by
  decide

theorem requirement_eq_of_table {r r' : Requirement} (hr : r ∈ requirements)
    (hr' : r' ∈ requirements) (h : r.table = r'.table) : r = r' :=
  List.inj_on_of_nodup_map requirements_nodup hr hr' h

theorem Tables.read_congr {s s' : Snapshot}
    (h : ∀ {ρ : Type} (l : Layout ρ), l.requirement ∈ requirements →
      l.read s = l.read s') : Tables.read s = Tables.read s' := by
  rw [Tables.read, Tables.read]
  iterate 23
    rw [h _ (by simp only [requirements, List.mem_cons, true_or, or_true])]

section Completing

variable {s : Snapshot} {r : Requirement} {t : Table}

theorem Table.hasColumn_of_mem {columns : List String}
    {rows : List (List Cell)} {name : String} (h : name ∈ columns) :
    Table.hasColumn ⟨columns, rows⟩ name = true :=
  List.any_eq_true.2 ⟨name, h, sameColumn_iff.2 rfl⟩

/-- Completing a table that delivers no rows changes no reading: its own one
delivers no rows either, and the others do not see it. -/
theorem Layout.read_completing (hr : r ∈ requirements)
    (ht : r.stored? s = some t) (hrows : t.rows = [])
    (horder : ∀ name ∈ r.order, t.hasColumn name = true) {ρ : Type}
    (l : Layout ρ) (hl : l.requirement ∈ requirements) :
    l.read s = l.read (s.completing r) := by
  by_cases htable : r.table = l.requirement.table
  · obtain rfl := requirement_eq_of_table hr hl htable
    refine read_congr ?_
    rw [decode_of_no_rows ht hrows horder, decode_of_no_rows
      (Requirement.stored?_completing s) rfl fun name hname =>
        Table.hasColumn_of_mem (order_subset _ hr name hname)]
  · refine read_congr ?_
    have hstored := Requirement.stored?_completing_of_ne htable s
    change l.table? (s.completing r) = l.table? s at hstored
    rw [decode, decode, hstored]

theorem Catalog.load_completing (hr : r ∈ requirements)
    (ht : r.stored? s = some t) (hrows : t.rows = [])
    (horder : ∀ name ∈ r.order, t.hasColumn name = true) :
    Catalog.load s = Catalog.load (s.completing r) := by
  have hread : Tables.read s = Tables.read (s.completing r) :=
    Tables.read_congr (Layout.read_completing hr ht hrows horder)
  rw [Catalog.load, Catalog.load, hread]

/-- A table that cannot be read fails the load, unless an earlier one does. -/
theorem Catalog.load_of_unreadable {before after : List Requirement}
    (hr : requirements = before ++ r :: after) (h : r.Unreadable s) :
    ∃ r' ∈ before ++ [r],
      Catalog.load s = .error (.unreadable r'.table) := by
  have hmem : r ∈ requirements := by rw [hr]; simp
  obtain ⟨name, hload⟩ := load_of_not_readable fun hs => hs r hmem h
  obtain ⟨before', r', after', hsplit, rfl, -, hbefore⟩ :=
    load_eq_unreadable_iff.1 hload
  refine ⟨r', ?_, hload⟩
  -- The table that is named stands no later, since all before it can be read.
  rw [hr, List.append_eq_append_iff] at hsplit
  rcases hsplit with ⟨rest, rfl, hrest⟩ | ⟨rest, rfl, hrest⟩
  · cases rest with
    | nil => cases hrest; simp
    | cons b rest =>
        cases hrest
        exact absurd h (hbefore r (by simp))
  · cases rest with
    | nil => cases hrest; simp
    | cons b rest => cases hrest; simp

end Completing

/-- A column that is missing from a table fails the load at that table or an
earlier one, if the table has rows or lacks a column that they are delivered
by. Else nothing notices: the snapshot is loaded as if the table had all its
columns. -/
theorem missing_column_noticed {s : Snapshot}
    {before after : List Requirement} {r : Requirement}
    (hr : requirements = before ++ r :: after) {t : Table}
    (ht : r.stored? s = some t) {c : Column} (hc : c ∈ r.columns)
    (hmissing : t.hasColumn c.name = false) :
    ((t.rows ≠ [] ∨ ∃ name ∈ r.order, t.hasColumn name = false) →
      ∃ r' ∈ before ++ [r],
        Catalog.load s = .error (.unreadable r'.table)) ∧
    (t.rows = [] → (∀ name ∈ r.order, t.hasColumn name = true) →
      Catalog.load s = Catalog.load (s.completing r)) := by
  constructor
  · intro h
    exact Catalog.load_of_unreadable hr
      (Requirement.unreadable_of_missing ht hc hmissing h)
  · intro hrows horder
    exact Catalog.load_completing (by rw [hr]; simp) ht hrows horder

/-- The snapshot with two builds, and a table of texts without texts. -/
def untextedSnapshot : Snapshot where
  tables := ("string", some ⟨["id"], []⟩) :: kernelSnapshot.tables

/-- The snapshot with two builds, and versions without a release. -/
def unreleasedSnapshot : Snapshot where
  tables := ("evr", some ⟨["id", "epoch", "version"],
    [[.integer 1, .integer 0, .text "4"]]⟩) :: kernelSnapshot.tables

/-- Versions that lack their releases are noticed, a table that lacks the
texts that it could hold is not. -/
theorem missing_column_noticed_unreleased :
    requirements = [nameLayout.requirement] ++
      evrLayout.requirement :: requirements.drop 2 ∧
    evrLayout.requirement.stored? unreleasedSnapshot =
      some ⟨["id", "epoch", "version"],
        [[.integer 1, .integer 0, .text "4"]]⟩ ∧
    ⟨"release", .text, false⟩ ∈ evrLayout.requirement.columns ∧
    Table.hasColumn ⟨["id", "epoch", "version"],
      [[.integer 1, .integer 0, .text "4"]]⟩ "release" = false ∧
    (∃ r' ∈ [nameLayout.requirement] ++ [evrLayout.requirement],
      Catalog.load unreleasedSnapshot = .error (.unreadable r'.table)) ∧
    textLayout.requirement.stored? untextedSnapshot = some ⟨["id"], []⟩ ∧
    Catalog.load untextedSnapshot =
      Catalog.load (untextedSnapshot.completing textLayout.requirement) := by
  have hevr : requirements = [nameLayout.requirement] ++
      evrLayout.requirement :: requirements.drop 2 := rfl
  have htext : requirements = requirements.take 4 ++
      textLayout.requirement :: requirements.drop 5 := rfl
  have hnoticed := (missing_column_noticed hevr (s := unreleasedSnapshot)
    (t := ⟨["id", "epoch", "version"],
      [[.integer 1, .integer 0, .text "4"]]⟩)
    (c := ⟨"release", .text, false⟩) rfl (by decide) (by decide)).1
    (.inl (by decide))
  have hunnoticed := (missing_column_noticed htext (s := untextedSnapshot)
    (t := ⟨["id"], []⟩) (c := ⟨"string", .text, true⟩) rfl (by decide)
    (by decide)).2 rfl (by decide)
  exact ⟨hevr, rfl, by decide, by decide, hnoticed, rfl, hunnoticed⟩

/-- A snapshot may load although a table lacks a column that is read. -/
theorem exists_unnoticed_column :
    textLayout.requirement ∈ requirements ∧
    textLayout.requirement.stored? untextedSnapshot = some ⟨["id"], []⟩ ∧
    ⟨"string", .text, true⟩ ∈ textLayout.requirement.columns ∧
    Table.hasColumn ⟨["id"], []⟩ "string" = false ∧
    Catalog.load untextedSnapshot =
      .ok (kernelTables.catalog kernelFreshness) := by
  have hread : Tables.read untextedSnapshot = .ok kernelTables :=
    toOption_eq_some_iff.1 (by decide +kernel)
  exact ⟨by simp [requirements], rfl, by decide, by decide,
    Catalog.load_eq_ok_iff.2 ⟨_, _, hread, rfl, rfl⟩⟩

end Advisory
