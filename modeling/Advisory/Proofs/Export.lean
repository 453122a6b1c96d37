import Advisory.Proofs.Ordering
import Advisory.Proofs.Timestamps

/-!
# Which freshness record is published

Rows that say when the snapshot was exported are delivered by the text of the
export, the greatest first, and the first one is published. What is published
is an instant, though, and texts are not always in the order of the instants
that they name. So the published record is the one with the greatest text
(`IsPublished`), and no other row is newer that is spelled in a comparable way
(`published_not_before`). Rows that are spelled in different ways may be: a row
with a letter between day and hour is preferred to a row of the same day with a
blank, though it be older (`exists_newer_row`).
-/

namespace Advisory

/-- A row is the first one, in the order in which rows are stored, of those with
the greatest spelling of the export. -/
structure IsPublished (rows : List FreshnessRow) (row : FreshnessRow) :
    Prop where
  first : rows.find? (·.spelling = row.spelling) = some row
  greatest : ∀ other ∈ rows, ¬ row.spelling < other.spelling

/-! ## Spelling and instant -/

theorem Kind.snapshotDate?_of_stamp {cell : Cell} {v : Stamp}
    (h : Kind.stamp.decode cell = some v) :
    Time.snapshotDate? v.spelling = some v.instant := by
  cases cell with
  | text s =>
      obtain ⟨t, ht, rfl⟩ := Option.map_eq_some_iff.1 h
      exact ht
  | null | integer | real | blob => cases h

theorem Row.decode_cons_eq_some {f : String → Option Cell} {c : Column}
    {columns : List Column} {v : c.Value} {rest : Row columns} :
    Row.decode f (c :: columns) = some (v, rest) ↔
      (∃ cell, f c.name = some cell ∧ c.decode cell = some v) ∧
        Row.decode f columns = some rest := by
  simp only [Row.decode, Option.bind_eq_bind, Option.bind_eq_some_iff,
    Option.pure_def, Option.some.injEq, Prod.mk.injEq]
  constructor
  · rintro ⟨cell, hcell, _, hv, _, hrest, rfl, rfl⟩
    exact ⟨⟨cell, hcell, hv⟩, hrest⟩
  · rintro ⟨⟨cell, hcell, hv⟩, hrest⟩
    exact ⟨cell, hcell, v, hv, rest, hrest, rfl, rfl⟩

/-- A row names the instant that its export is spelled as. -/
theorem FreshnessRow.snapshotDate?_spelling {t : Table} {cells : List Cell}
    {row : FreshnessRow} (h : freshnessLayout.decodeRow t cells = some row) :
    Time.snapshotDate? row.spelling = some row.freshness.exported := by
  obtain ⟨⟨errata, cves, repositories, last, exported, _⟩, hrow, rfl⟩ :=
    Option.map_eq_some_iff.1 h
  obtain ⟨-, hrow⟩ := Row.decode_cons_eq_some.1 hrow
  obtain ⟨-, hrow⟩ := Row.decode_cons_eq_some.1 hrow
  obtain ⟨-, hrow⟩ := Row.decode_cons_eq_some.1 hrow
  obtain ⟨-, hrow⟩ := Row.decode_cons_eq_some.1 hrow
  obtain ⟨⟨cell, -, hcell⟩, -⟩ := Row.decode_cons_eq_some.1 hrow
  exact Kind.snapshotDate?_of_stamp hcell

theorem snapshotDate?_of_decode {s : Snapshot} {rows : List FreshnessRow}
    (h : freshnessLayout.decode s = some rows) : ∀ row ∈ rows,
      Time.snapshotDate? row.spelling = some row.freshness.exported := by
  intro row hrow
  obtain ⟨t, -, h⟩ := Option.bind_eq_some_iff.1 h
  obtain ⟨_, -, h⟩ := Option.bind_eq_some_iff.1 h
  have hmem : some row ∈ t.rows.map (freshnessLayout.decodeRow t) := by
    rw [mapM_eq_some_iff.1 h]
    exact List.mem_map_of_mem hrow
  obtain ⟨cells, -, hcells⟩ := List.mem_map.1 hmem
  exact FreshnessRow.snapshotDate?_spelling hcells

/-! ## The published row -/

theorem not_lt_of_isLE {a b : String} (h : (compare a b).isLE) :
    ¬ b < a := by
  intro hlt
  rw [← compare_lt_iff_lt] at hlt
  rw [Std.OrientedCmp.gt_of_lt hlt] at h
  cases h

/-- The row that is delivered first is published. -/
theorem isPublished_of_head? {rows : List FreshnessRow} {row : FreshnessRow}
    (h : (stableSort freshnessLayout.compare rows).head? = some row) :
    IsPublished rows row := by
  obtain ⟨rest, hsorted⟩ := List.head?_eq_some_iff.1 h
  have htie : ∀ other : FreshnessRow,
      freshnessLayout.compare row other = .eq ↔
        other.spelling = row.spelling := by
    intro other
    change compare other.spelling row.spelling = .eq ↔ _
    rw [Std.LawfulEqCmp.compare_eq_iff_eq]
  constructor
  · have hties : (stableSort freshnessLayout.compare rows).filter
        (freshnessLayout.compare row · = .eq) =
          rows.filter (freshnessLayout.compare row · = .eq) :=
      stableSort_ties row rows
    simp only [htie] at hties
    rw [← List.head?_filter, ← hties, hsorted]
    simp
  · intro other hother
    have hmem : other ∈ row :: rest := by
      rw [← hsorted]
      exact mem_stableSort.2 hother
    rcases List.mem_cons.1 hmem with rfl | hrest
    · exact lt_irrefl _
    · have hascending : Sorted freshnessLayout.compare (row :: rest) :=
        hsorted ▸ stableSort_sorted rows
      exact not_lt_of_isLE ((List.pairwise_cons.1 hascending).1 other hrest)

theorem Tables.read_freshness {s : Snapshot} {t : Tables}
    (h : Tables.read s = .ok t) : freshnessLayout.read s = .ok t.freshness := by
  simp only [Tables.read, bind_eq_ok] at h
  obtain ⟨_, -, _, -, _, -, _, -, _, -, _, -, _, -, _, -, _, -, _, -, _, -,
    _, -, _, -, _, -, _, -, _, -, _, -, _, -, _, -, _, -, _, -, _, -, _,
    hfreshness, h⟩ := h
  cases h
  exact hfreshness

/-- The published record is the first stored one of those with the greatest
text of the export, and its export is not before that of any row that is spelled
in a comparable way. -/
theorem published_not_before {s : Snapshot} {c : Catalog}
    (hload : Catalog.load s = .ok c) :
    ∃ rows row, freshnessLayout.decode s = some rows ∧
      IsPublished rows row ∧ c.freshness = row.freshness ∧
      (∀ other ∈ rows, Time.snapshotDate? other.spelling =
        some other.freshness.exported) ∧
      ∀ other ∈ rows, ∀ a b : Time.Timestamp, row.spelling = a.text →
        other.spelling = b.text → a.Comparable b →
        row.freshness.exported.isBefore other.freshness.exported = false := by
  obtain ⟨t, f, hread, hf, rfl⟩ := Catalog.load_eq_ok_iff.1 hload
  obtain ⟨rows, hrows, hsorted⟩ :=
    Layout.decode_of_read (Tables.read_freshness hread)
  obtain ⟨row, hrow, rfl⟩ := Option.map_eq_some_iff.1 hf
  rw [hsorted] at hrow
  have hpublished := isPublished_of_head? hrow
  have hdates := snapshotDate?_of_decode hrows
  refine ⟨rows, row, hrows, hpublished, rfl, hdates, ?_⟩
  intro other hother a b ha hb hab
  rw [← Bool.not_eq_true]
  intro hbefore
  have hdate := hdates row (List.mem_of_find?_eq_some hpublished.first)
  have hdate' := hdates other hother
  rw [ha] at hdate
  rw [hb] at hdate'
  refine hpublished.greatest other hother ?_
  rw [ha, hb]
  exact Time.Timestamp.text_lt_of_isBefore hab hdate hdate' hbefore

/-- The row that says when the snapshot with two builds changed, with another
time of export. -/
def exportedRow (exported : String) : List Cell :=
  [.text "2020-06-01 00:00:00", .text "2020-06-02 00:00:00",
    .text "2020-06-03 00:00:00", .text "2020-06-03 00:00:00", .text exported]

/-- The snapshot with two builds, exported at some times. -/
def exportedSnapshot (exports : List String) : Snapshot where
  tables := ("dbchange", some ⟨["errata_changes", "cve_changes",
    "repository_changes", "last_change", "exported"],
      exports.map exportedRow⟩) :: kernelSnapshot.tables

/-- What a row says that was exported at some instant. -/
def exportedAt (exported : Time.Instant) (spelling : String) : FreshnessRow :=
  ⟨{ kernelFreshness with exported := exported }, spelling⟩

/-- A noon in June 2020. -/
def noonStamp : Time.Timestamp where
  year := ⟨['2', '0', '2', '0'], rfl, by simp⟩
  month := ⟨['0', '6'], rfl, by simp⟩
  day := ⟨['0', '4'], rfl, by simp⟩
  separator := ' '
  hour := ⟨['1', '2'], rfl, by simp⟩
  minute := ⟨['0', '0'], rfl, by simp⟩
  second := ⟨['0', '0'], rfl, by simp⟩
  fraction := []
  offset := []
  separator_eq := .inr rfl
  decimal := by simp
  apart := by simp

/-- A quarter of a second later, with the offset written out. -/
def laterStamp : Time.Timestamp where
  __ := noonStamp
  fraction := ['2', '5']
  offset := ['+', '0', '0', ':', '0', '0']
  decimal := by simp
  apart := by simp

/-- The row of that noon and the row of the later export. -/
def noonRows : List FreshnessRow := [
  exportedAt ⟨1591272000, 0⟩ noonStamp.text,
  exportedAt ⟨1591272000, 250000000⟩ laterStamp.text]

theorem load_noonSnapshot :
    Catalog.load (exportedSnapshot [noonStamp.text, laterStamp.text]) =
      .ok ({ kernelTables with freshness := noonRows.reverse }.catalog
        { kernelFreshness with exported := ⟨1591272000, 250000000⟩ }) :=
  Catalog.load_eq_ok_iff.2 ⟨{ kernelTables with freshness := noonRows.reverse },
    _, toOption_eq_some_iff.1 (by decide +kernel), rfl, rfl⟩

/-- Of two exports, one of them with a fraction and an offset, the later one is
published. -/
theorem published_not_before_noon :
    Catalog.load (exportedSnapshot [noonStamp.text, laterStamp.text]) =
      .ok ({ kernelTables with freshness := noonRows.reverse }.catalog
        { kernelFreshness with exported := ⟨1591272000, 250000000⟩ }) ∧
    laterStamp.Comparable noonStamp ∧
    ∃ rows row, freshnessLayout.decode
        (exportedSnapshot [noonStamp.text, laterStamp.text]) = some rows ∧
      IsPublished rows row ∧ row.spelling = laterStamp.text ∧
      ∃ other ∈ rows, other.spelling = noonStamp.text ∧
        row.freshness.exported.isBefore other.freshness.exported = false := by
  have hcomparable : laterStamp.Comparable noonStamp :=
    ⟨by decide, fun _ => rfl, .inr (by decide)⟩
  obtain ⟨rows, row, hrows, hpublished, hfreshness, -, hnewest⟩ :=
    published_not_before load_noonSnapshot
  have hnoon : rows = noonRows := by
    have hdecode : freshnessLayout.decode
        (exportedSnapshot [noonStamp.text, laterStamp.text]) =
          some noonRows := by decide +kernel
    exact Option.some.inj (hrows.symm.trans hdecode)
  subst hnoon
  have hrow : row.spelling = laterStamp.text := by
    rcases List.mem_cons.1 (List.mem_of_find?_eq_some hpublished.first)
      with rfl | hmem
    · cases hfreshness
    · rw [List.mem_singleton.1 hmem]
      rfl
  exact ⟨load_noonSnapshot, hcomparable, noonRows, row, hrows, hpublished, hrow,
    _, List.mem_cons_self, rfl, hnewest _ List.mem_cons_self laterStamp
      noonStamp hrow rfl hcomparable⟩

/-- A row with a letter between day and hour is published, though another row
of the same day is newer. -/
theorem exists_newer_row : ∃ c rows row,
    Catalog.load (exportedSnapshot
      ["2020-06-04 12:00:00", "2020-06-04T06:00:00"]) = .ok c ∧
    freshnessLayout.decode (exportedSnapshot
      ["2020-06-04 12:00:00", "2020-06-04T06:00:00"]) = some rows ∧
    row ∈ rows ∧
    c.freshness.exported.isBefore row.freshness.exported = true := by
  have hread : Tables.read (exportedSnapshot
      ["2020-06-04 12:00:00", "2020-06-04T06:00:00"]) =
        .ok { kernelTables with freshness := [
          exportedAt ⟨1591250400, 0⟩ "2020-06-04T06:00:00",
          exportedAt ⟨1591272000, 0⟩ "2020-06-04 12:00:00"] } :=
    toOption_eq_some_iff.1 (by decide +kernel)
  exact ⟨_, [exportedAt ⟨1591272000, 0⟩ "2020-06-04 12:00:00",
      exportedAt ⟨1591250400, 0⟩ "2020-06-04T06:00:00"],
    exportedAt ⟨1591272000, 0⟩ "2020-06-04 12:00:00",
    Catalog.load_eq_ok_iff.2 ⟨_, _, hread, rfl, rfl⟩, by decide +kernel,
    List.mem_cons_self, by decide⟩

end Advisory
