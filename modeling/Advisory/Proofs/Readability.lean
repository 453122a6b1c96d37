import Advisory.Proofs.Storage

/-!
# Which snapshots load

A snapshot fails to load for one of two reasons: a table cannot be read, or
all can be and none says when the snapshot was exported. What makes a table
unreadable is said here without the reader, by the columns that have to be
there and the types of cell that have to stand in them. Which table an error
names is then a matter of their order alone, the first one that is
unreadable.

Nothing else counts. No table is compared with another one, so numbers
without a record, rows that are given twice and rows that break the order of
versions are all loaded.
-/

namespace Advisory

/-! ## Cells that fit -/

/-- The cells that hold a value of a kind. -/
inductive Kind.Holds : Kind → Cell → Prop
  | integer (n : Int) : Holds .integer (.integer n)
  | id (numbered : Numbered) (n : Int) : Holds (.id numbered) (.integer n)
  | text (s : String) : Holds .text (.text s)
  | real (x : Binary64) : Holds .real (.real x)
  /-- Where a fraction may stand a whole number may stand as well. -/
  | whole (n : Int) : Holds .real (.integer n)
  | date (s : String) (t : Time.Instant) (h : Time.snapshotDate? s = some t) :
    Holds .date (.text s)
  | stamp (s : String) (t : Time.Instant) (h : Time.snapshotDate? s = some t) :
    Holds .stamp (.text s)

/-- The cells that may stand in a column: those that hold a value of its
kind, and an empty one if the column may be empty. -/
inductive Column.Fits (c : Column) : Cell → Prop
  | empty (h : c.nullable = true) : Fits c .null
  | value {cell : Cell} (h : c.kind.Holds cell) : Fits c cell

theorem Kind.holds_iff {k : Kind} {cell : Cell} :
    k.Holds cell ↔ ∃ v, k.decode cell = some v := by
  constructor
  · intro h
    cases h with
    | integer n => exact ⟨n, rfl⟩
    | id _ n => exact ⟨⟨n⟩, rfl⟩
    | text s => exact ⟨s, rfl⟩
    | real x => exact ⟨x, rfl⟩
    | whole n => exact ⟨.ofInt n, rfl⟩
    | date _ t ht => exact ⟨t, ht⟩
    | stamp s t ht => exact ⟨⟨t, s⟩, by rw [Kind.decode, ht]; rfl⟩
  · intro h
    obtain ⟨v, hv⟩ := h
    fun_cases Kind.decode k cell with
    | case1 n => exact .integer n
    | case2 numbered n => exact .id numbered n
    | case3 s => exact .text s
    | case4 x => exact .real x
    | case5 n => exact .whole n
    | case6 s => exact .date s v hv
    | case7 s =>
        obtain ⟨t, ht, -⟩ := Option.map_eq_some_iff.1 hv
        exact .stamp s t ht
    | case8 =>
        rw [Kind.decode] at hv
        · cases hv
        all_goals assumption

theorem Column.fits_iff {c : Column} {cell : Cell} :
    c.Fits cell ↔ ∃ v, c.decode cell = some v := by
  obtain ⟨name, kind, nullable⟩ := c
  constructor
  · intro h
    cases h with
    | empty h =>
        cases h
        exact ⟨none, rfl⟩
    | value h =>
        obtain ⟨v, hv⟩ := Kind.holds_iff.1 h
        cases nullable with
        | false => exact ⟨v, hv⟩
        | true =>
            cases cell with
            | null => exact ⟨none, rfl⟩
            | integer | real | text | blob =>
                exact ⟨some v, congrArg (Option.map some) hv⟩
  · intro h
    obtain ⟨v, hv⟩ := h
    cases nullable with
    | false => exact .value (Kind.holds_iff.2 ⟨v, hv⟩)
    | true =>
        cases cell with
        | null => exact .empty rfl
        | integer | real | text | blob =>
            obtain ⟨w, hw, -⟩ := Option.map_eq_some_iff.1 hv
            exact .value (Kind.holds_iff.2 ⟨w, hw⟩)

theorem Column.decode_eq_none_iff {c : Column} {cell : Cell} :
    c.decode cell = none ↔ ¬ c.Fits cell := by
  rw [fits_iff, Option.eq_none_iff_forall_not_mem, not_exists]
  exact Iff.rfl

/-- A row has no meaning exactly if one of its cells is missing or does not
fit. -/
theorem Row.decode_eq_none_iff {f : String → Option Cell}
    {columns : List Column} : Row.decode f columns = none ↔
      ∃ c ∈ columns, ∀ cell, f c.name = some cell → ¬ c.Fits cell := by
  induction columns with
  | nil => simp [Row.decode]
  | cons c columns ih =>
      rw [Row.decode, List.exists_mem_cons_iff, ← ih]
      cases f c.name with
      | none => simp
      | some cell =>
          simp only [Option.some.injEq, forall_eq',
            ← Column.decode_eq_none_iff]
          cases hv : c.decode cell with
          | none => simp [hv]
          | some v => cases Row.decode f columns <;> simp [hv]

/-! ## Tables that can be read -/

/-- What a table has to store so that it can be read. -/
structure Requirement where
  table : String
  columns : List Column
  /-- The columns that rows are delivered by. -/
  order : List String

/-- The table that a requirement is about. -/
def Requirement.stored? (r : Requirement) (s : Snapshot) : Option Table :=
  s.stored? r.table (r.columns.map (·.name))

/-- A table cannot be read. -/
inductive Requirement.Unreadable (r : Requirement) (s : Snapshot) : Prop
  | absent (h : r.stored? s = none)
  /-- A column is missing that rows are delivered by. -/
  | unordered {t : Table} (h : r.stored? s = some t) {name : String}
    (hname : name ∈ r.order) (hmissing : t.hasColumn name = false)
  /-- There is a row, and a column is missing that is read. -/
  | lacking {t : Table} (h : r.stored? s = some t) (hrows : t.rows ≠ [])
    {c : Column} (hc : c ∈ r.columns) (hmissing : t.hasColumn c.name = false)
  /-- A cell has the wrong type. -/
  | unfit {t : Table} (h : r.stored? s = some t) {row : List Cell}
    (hrow : row ∈ t.rows) {c : Column} (hc : c ∈ r.columns) {cell : Cell}
    (hcell : t.cell? row c.name = some cell) (hunfit : ¬ c.Fits cell)
  /-- A row ends before a column that is read. No database stores such a
  row. -/
  | short {t : Table} (h : r.stored? s = some t) {row : List Cell}
    (hrow : row ∈ t.rows) (hlength : row.length < t.columns.length)
    {c : Column} (hc : c ∈ r.columns) (hcell : t.cell? row c.name = none)

/-- What a layout requires of its table. -/
def Layout.requirement {ρ : Type} (l : Layout ρ) : Requirement :=
  ⟨l.table, l.columns, l.order⟩

namespace Table

variable {t : Table} {row : List Cell} {name : String}

theorem cell?_eq_none_iff : t.cell? row name = none ↔
    ∀ c ∈ t.columns.zip row, sameColumn name c.1 = false := by
  simp [cell?]

theorem cell?_eq_none_of_missing (h : t.hasColumn name = false) :
    t.cell? row name = none := by
  rw [cell?_eq_none_iff]
  intro c hc
  rw [← Bool.not_eq_true]
  exact fun hsame => Bool.false_ne_true
    (h.symm.trans (List.any_eq_true.2 ⟨c.1, (List.of_mem_zip hc).1, hsame⟩))

/-- A row that has no cell in one of the columns is too short. -/
theorem length_lt_of_cell?_eq_none (hcell : t.cell? row name = none)
    (hcolumn : t.hasColumn name = true) :
    row.length < t.columns.length := by
  refine Nat.lt_of_not_le fun hle => ?_
  obtain ⟨column, hmem, hsame⟩ := List.any_eq_true.1 hcolumn
  rw [← List.map_fst_zip hle, List.mem_map] at hmem
  obtain ⟨c, hc, rfl⟩ := hmem
  rw [cell?_eq_none_iff.1 hcell c hc] at hsame
  cases hsame

end Table

section Reading

variable {ρ : Type} {l : Layout ρ} {s : Snapshot} {t : Table}

theorem Layout.unreadable_of_decodeRow (h : l.table? s = some t)
    {row : List Cell} (hrow : row ∈ t.rows)
    (hnone : l.decodeRow t row = none) : l.requirement.Unreadable s := by
  rw [decodeRow, Option.map_eq_none_iff, Row.decode_eq_none_iff] at hnone
  obtain ⟨c, hc, hfit⟩ := hnone
  cases hcell : t.cell? row c.name with
  | some cell => exact .unfit h hrow hc hcell (hfit cell hcell)
  | none =>
      cases hcolumn : t.hasColumn c.name with
      | false => exact .lacking h (List.ne_nil_of_mem hrow) hc hcolumn
      | true =>
          exact .short h hrow (Table.length_lt_of_cell?_eq_none hcell hcolumn)
            hc hcell

/-- A row without a meaning is what makes a table unreadable that exists and
can be put in order. -/
theorem Layout.decodeRow_of_unreadable (h : l.table? s = some t)
    (horder : ∀ name ∈ l.order, t.hasColumn name = true)
    (hun : l.requirement.Unreadable s) :
    ∃ row ∈ t.rows, l.decodeRow t row = none := by
  -- The fault is found in a table of its own, which is this one.
  have htable : ∀ {t'}, l.requirement.stored? s = some t' → t' = t :=
    fun h' => Option.some.inj (h'.symm.trans h)
  have hnone : ∀ {row c}, c ∈ l.columns →
      (∀ cell, t.cell? row c.name = some cell → ¬ c.Fits cell) →
      l.decodeRow t row = none := fun hc hfit => by
    rw [decodeRow, Option.map_eq_none_iff, Row.decode_eq_none_iff]
    exact ⟨_, hc, hfit⟩
  cases hun with
  | absent h' => cases h'.symm.trans h
  | unordered h' hname hmissing =>
      rw [htable h', horder _ hname] at hmissing
      cases hmissing
  | lacking h' hrows hc hmissing =>
      cases htable h'
      obtain ⟨row, hrow⟩ := List.exists_mem_of_ne_nil _ hrows
      refine ⟨row, hrow, hnone hc fun cell hcell => ?_⟩
      rw [Table.cell?_eq_none_of_missing hmissing] at hcell
      cases hcell
  | unfit h' hrow hc hcell hunfit =>
      cases htable h'
      refine ⟨_, hrow, hnone hc fun cell' hcell' => ?_⟩
      rw [hcell] at hcell'
      cases hcell'
      exact hunfit
  | short h' hrow hlength hc hcell =>
      cases htable h'
      refine ⟨_, hrow, hnone hc fun cell' hcell' => ?_⟩
      rw [hcell] at hcell'
      cases hcell'

theorem Layout.decode_eq (h : l.table? s = some t) : l.decode s =
    if l.order.all t.hasColumn then t.rows.mapM (l.decodeRow t) else none := by
  rw [decode, h]
  show (guard (l.order.all t.hasColumn) >>= fun _ =>
    t.rows.mapM (l.decodeRow t)) = _
  cases l.order.all t.hasColumn <;> rfl

theorem Layout.decode_eq_none_iff :
    l.decode s = none ↔ l.requirement.Unreadable s := by
  cases h : l.table? s with
  | none =>
      rw [decode, h]
      exact ⟨fun _ => .absent h, fun _ => rfl⟩
  | some t =>
      rw [decode_eq h]
      cases hall : l.order.all t.hasColumn with
      | false =>
          obtain ⟨name, hname, hmissing⟩ := List.all_eq_false.1 hall
          rw [Bool.not_eq_true] at hmissing
          exact ⟨fun _ => .unordered h hname hmissing, fun _ => rfl⟩
      | true =>
          rw [if_pos rfl, mapM_eq_none_iff]
          constructor
          · intro hrow
            obtain ⟨row, hrow, hnone⟩ := hrow
            exact unreadable_of_decodeRow h hrow hnone
          · exact decodeRow_of_unreadable h (List.all_eq_true.1 hall)

end Reading

/-! ## Reading one table after the other -/

/-- The tables that are read, in the order in which they are. -/
def requirements : List Requirement := [nameLayout.requirement,
  evrLayout.requirement, archLayout.requirement,
  archCompatLayout.requirement, textLayout.requirement,
  packageLayout.requirement, updateLayout.requirement,
  indexLayout.requirement, repositoryLayout.requirement,
  packageRepositoryLayout.requirement, packageErratumLayout.requirement,
  erratumRepositoryLayout.requirement, erratumCveLayout.requirement,
  erratumBugzillaLayout.requirement, erratumReferenceLayout.requirement,
  erratumModuleLayout.requirement, modularLayout.requirement,
  erratumLayout.requirement, cveWeaknessLayout.requirement,
  cvePackageLayout.requirement, cveLayout.requirement,
  streamLayout.requirement, freshnessLayout.requirement]

/-- What comes of reading tables one after the other: a value if all of them
can be read, and else the error that names the first one that cannot. -/
inductive ReadsInOrder (s : Snapshot) {α : Type} :
    List Requirement → Except LoadError α → Prop
  | done (a : α) : ReadsInOrder s [] (.ok a)
  | stops {r : Requirement} {rs : List Requirement} (h : r.Unreadable s) :
    ReadsInOrder s (r :: rs) (.error (.unreadable r.table))
  | goesOn {r : Requirement} {rs : List Requirement}
    {x : Except LoadError α} (h : ¬ r.Unreadable s)
    (hx : ReadsInOrder s rs x) : ReadsInOrder s (r :: rs) x

/-- The first of some tables that cannot be read has a name. -/
def FirstUnreadable (s : Snapshot) (rs : List Requirement) (name : String) :
    Prop :=
  ∃ before r after, rs = before ++ r :: after ∧ r.table = name ∧
    r.Unreadable s ∧ ∀ b ∈ before, ¬ b.Unreadable s

section Order

variable {s : Snapshot} {α : Type} {r : Requirement} {rs : List Requirement}
  {name : String}

theorem firstUnreadable_cons_of_unreadable (h : r.Unreadable s) :
    FirstUnreadable s (r :: rs) name ↔ r.table = name := by
  constructor
  · intro h'
    obtain ⟨before, r', after, heq, hname, -, hbefore⟩ := h'
    cases before with
    | nil =>
        cases heq
        exact hname
    | cons b before =>
        cases heq
        exact absurd h (hbefore r List.mem_cons_self)
  · intro hname
    exact ⟨[], r, rs, rfl, hname, h, fun _ hb => (by cases hb)⟩

theorem firstUnreadable_cons_of_readable (h : ¬ r.Unreadable s) :
    FirstUnreadable s (r :: rs) name ↔ FirstUnreadable s rs name := by
  constructor
  · intro h'
    obtain ⟨before, r', after, heq, hname, hun, hbefore⟩ := h'
    cases before with
    | nil =>
        cases heq
        exact absurd hun h
    | cons b before =>
        cases heq
        exact ⟨before, r', after, rfl, hname, hun,
          fun b' hb' => hbefore b' (List.mem_cons_of_mem r hb')⟩
  · intro h'
    obtain ⟨before, r', after, rfl, hname, hun, hbefore⟩ := h'
    refine ⟨r :: before, r', after, rfl, hname, hun, fun b hb => ?_⟩
    rcases List.mem_cons.1 hb with rfl | hb
    · exact h
    · exact hbefore b hb

namespace ReadsInOrder

variable {x : Except LoadError α}

theorem eq_ok_iff (h : ReadsInOrder s rs x) :
    (∃ a, x = .ok a) ↔ ∀ r ∈ rs, ¬ r.Unreadable s := by
  induction h with
  | done a => simp
  | stops h => simp [h]
  | goesOn h _ ih => simp [ih, h]

theorem eq_error_iff (h : ReadsInOrder s rs x) (e : LoadError) :
    x = .error e ↔
      ∃ name, e = .unreadable name ∧ FirstUnreadable s rs name := by
  induction h with
  | done a => simp [FirstUnreadable]
  | stops h => simp [firstUnreadable_cons_of_unreadable h, eq_comm]
  | goesOn h _ ih => rw [ih]; simp only [firstUnreadable_cons_of_readable h]

/-- Reading one more table in front. -/
theorem bind {ρ : Type} {l : Layout ρ} {f : List ρ → Except LoadError α}
    (h : ∀ rows, ReadsInOrder s rs (f rows)) :
    ReadsInOrder s (l.requirement :: rs) (l.read s >>= f) := by
  rw [Layout.read]
  cases hdec : l.decode s with
  | none => exact .stops (Layout.decode_eq_none_iff.1 hdec)
  | some rows =>
      refine .goesOn (fun hun => ?_) (h _)
      rw [Layout.decode_eq_none_iff.2 hun] at hdec
      cases hdec

end ReadsInOrder

theorem Tables.read_inOrder (s : Snapshot) :
    ReadsInOrder s requirements (Tables.read s) := by
  rw [Tables.read, requirements]
  iterate 23 refine .bind fun _ => ?_
  exact .done _

end Order

/-! ## Loading -/

/-- No table that is read is unreadable. -/
def Snapshot.Readable (s : Snapshot) : Prop :=
  ∀ r ∈ requirements, ¬ r.Unreadable s

section Loading

variable {s : Snapshot} {t : Tables}

theorem Tables.read_eq_ok_iff_readable :
    (∃ t, Tables.read s = .ok t) ↔ s.Readable :=
  (Tables.read_inOrder s).eq_ok_iff

/-- As many rows are delivered as are stored, so none exactly if none are. -/
theorem Layout.Delivers.exists_stored {ρ : Type} {l : Layout ρ}
    {rows : List ρ} (h : l.Delivers s rows) :
    ∃ table, l.requirement.stored? s = some table ∧
      (rows = [] ↔ table.rows = []) := by
  obtain ⟨table, meanings, htable, hmap, hperm, -⟩ := h.stored
  have hlength : table.rows.length = meanings.length := by
    simpa using congrArg List.length hmap
  refine ⟨table, htable, ?_⟩
  rw [← List.length_eq_zero_iff, ← List.length_eq_zero_iff, hlength,
    hperm.length_eq]

/-- The catalogue is built once all tables are read, unless none says when
the snapshot was exported. -/
theorem Catalog.load_of_read (h : Tables.read s = .ok t) :
    t.freshness = [] ∧ Catalog.load s = .error .noFreshness ∨
    t.freshness ≠ [] ∧ ∃ f, Catalog.load s = .ok (t.catalog f) := by
  cases hrows : t.freshness with
  | nil =>
      have hnone : t.freshness? = none := by
        rw [Tables.freshness?, hrows]
        rfl
      refine Or.inl ⟨rfl, ?_⟩
      simp only [Catalog.load, h, bind, Except.bind, hnone]
      rfl
  | cons row rows =>
      have hsome : t.freshness? = some row.freshness := by
        rw [Tables.freshness?, hrows]
        rfl
      exact Or.inr ⟨List.cons_ne_nil _ _, row.freshness,
        Catalog.load_eq_ok_iff.2 ⟨t, _, h, hsome, rfl⟩⟩

theorem Catalog.load_of_read_error {e : LoadError}
    (h : Tables.read s = .error e) : Catalog.load s = .error e := by
  rw [Catalog.load, h]
  rfl

theorem Catalog.load_eq_unreadable_iff {name : String} :
    Catalog.load s = .error (.unreadable name) ↔
      FirstUnreadable s requirements name := by
  have hread := (Tables.read_inOrder s).eq_error_iff (.unreadable name)
  simp only [LoadError.unreadable.injEq, exists_eq_left'] at hread
  rw [← hread]
  cases h : Tables.read s with
  | error e => rw [Catalog.load_of_read_error h]; simp
  | ok t =>
      rcases Catalog.load_of_read h with ⟨-, hload⟩ | ⟨-, f, hload⟩
      · simp [hload]
      · simp [hload]

/-- Once all tables can be read only the rows of the last one count. -/
theorem Catalog.load_of_readable (h : s.Readable) :
    ∃ table, freshnessLayout.requirement.stored? s = some table ∧
      (table.rows = [] ∧ Catalog.load s = .error .noFreshness ∨
        table.rows ≠ [] ∧ ∃ c, Catalog.load s = .ok c) := by
  obtain ⟨t, ht⟩ := Tables.read_eq_ok_iff_readable.2 h
  obtain ⟨table, htable, hnil⟩ :=
    (Tables.read_delivers ht).freshness.exists_stored
  refine ⟨table, htable, ?_⟩
  rcases Catalog.load_of_read ht with ⟨hrows, hload⟩ | ⟨hrows, f, hload⟩
  · exact Or.inl ⟨hnil.1 hrows, hload⟩
  · exact Or.inr ⟨fun hempty => hrows (hnil.2 hempty), _, hload⟩

theorem Catalog.load_of_not_readable (h : ¬ s.Readable) :
    ∃ name, Catalog.load s = .error (.unreadable name) := by
  cases hread : Tables.read s with
  | ok t => exact absurd (Tables.read_eq_ok_iff_readable.1 ⟨t, hread⟩) h
  | error e =>
      obtain ⟨name, rfl, -⟩ := ((Tables.read_inOrder s).eq_error_iff e).1 hread
      exact ⟨name, Catalog.load_of_read_error hread⟩

theorem Catalog.load_eq_noFreshness_iff :
    Catalog.load s = .error .noFreshness ↔ s.Readable ∧
      ∃ table, freshnessLayout.requirement.stored? s = some table ∧
        table.rows = [] := by
  by_cases hs : s.Readable
  · obtain ⟨table, htable, ⟨hrows, hload⟩ | ⟨hrows, c, hload⟩⟩ :=
      Catalog.load_of_readable hs
    · simp [hs, htable, hrows, hload]
    · simp [hs, htable, hrows, hload]
  · obtain ⟨name, hload⟩ := Catalog.load_of_not_readable hs
    simp [hs, hload]

theorem Catalog.exists_load_eq_ok_iff :
    (∃ c, Catalog.load s = .ok c) ↔ s.Readable ∧
      ∃ table, freshnessLayout.requirement.stored? s = some table ∧
        table.rows ≠ [] := by
  by_cases hs : s.Readable
  · obtain ⟨table, htable, ⟨hrows, hload⟩ | ⟨hrows, c, hload⟩⟩ :=
      Catalog.load_of_readable hs
    · simp [htable, hrows, hload]
    · simp [hs, htable, hrows, hload]
  · obtain ⟨name, hload⟩ := Catalog.load_of_not_readable hs
    simp [hs, hload]

end Loading

/-- A snapshot whose tables can all be read gives the whole catalogue, or none
if no row says when it was exported; else the error names the first table, in
the order of reading, that cannot be read. Whatever rows say that can be read
is loaded. -/
theorem load_fails_exactly (s : Snapshot) :
    requirements.map (·.table) = ["packagename", "evr", "arch", "arch_compat",
      "string", "package_detail", "updates", "updates_index", "repo_detail",
      "pkg_repo", "pkg_errata", "errata_repo", "errata_cve",
      "errata_bugzilla", "errata_refs", "errata_module", "errata_modulepkg",
      "errata_detail", "cve_cwe", "cve_pkg", "cve_detail", "module_stream",
      "dbchange"] ∧
    (∀ name, Catalog.load s = .error (.unreadable name) ↔
      FirstUnreadable s requirements name) ∧
    (Catalog.load s = .error .noFreshness ↔ s.Readable ∧
      ∃ table, freshnessLayout.requirement.stored? s = some table ∧
        table.rows = []) ∧
    ((∃ c, Catalog.load s = .ok c) ↔ s.Readable ∧
      ∃ table, freshnessLayout.requirement.stored? s = some table ∧
        table.rows ≠ []) ∧
    ∀ t, Tables.read s = .ok t → t.freshness ≠ [] →
      ∃ f, Catalog.load s = .ok (t.catalog f) := by
  refine ⟨rfl, fun name => Catalog.load_eq_unreadable_iff,
    Catalog.load_eq_noFreshness_iff, Catalog.exists_load_eq_ok_iff,
    fun t ht hne => ?_⟩
  rcases Catalog.load_of_read ht with ⟨hnil, -⟩ | ⟨-, hload⟩
  · exact absurd hnil hne
  · exact hload

/-- A link that is given twice, links of packages and errata that have no
record, and a version that is out of place: all of it is loaded, and only the
last is counted. -/
example : (Catalog.load { tables :=
    ("pkg_errata", some ⟨["pkg_id", "errata_id"],
      [[.integer 20, .integer 100], [.integer 20, .integer 100],
        [.integer 30, .integer 200]]⟩) ::
    ("updates", some ⟨["name_id", "package_id", "package_order"],
      [[.integer 1, .integer 10, .integer 0],
        [.integer 1, .integer 20, .integer 7]]⟩) ::
    kernelSnapshot.tables }).toOption.map (·.orderingViolations) = some 1 := by
  decide +kernel

end Advisory
