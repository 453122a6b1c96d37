import Advisory.Proofs.Join
import Advisory.Proofs.Lookup

/-!
# Errata and vulnerabilities mirror each other

An erratum shows the vulnerabilities it fixes, a vulnerability the errata that
fix it. Both lists come from one table of links, grouped by either of its
columns, handed on by number and shown by name. Grouping keeps multiplicities,
and so does the step from numbers to names as long as a name belongs to one
number; then a link that is stored twice is shown twice, on both sides.
-/

namespace Advisory

/-! ## Counting links -/

/-- A row is delivered as often as it is stored. -/
theorem Layout.Delivers.exists_count_eq {ρ : Type} [DecidableEq ρ] [BEq ρ]
    [LawfulBEq ρ] {l : Layout ρ} {s : Snapshot} {rows : List ρ}
    (h : l.Delivers s rows) :
    ∃ table, l.table? s = some table ∧ ∀ row, rows.count row =
      table.rows.countP (l.decodeRow table · = some row) := by
  obtain ⟨table, meanings, htable, hdecode, hperm, -⟩ := h.stored
  refine ⟨table, htable, fun row => ?_⟩
  have hcount := List.count_map_of_injective meanings some
    (Option.some_injective ρ) row
  rw [hperm.count_eq, ← hcount, ← hdecode, List.count_eq_countP,
    List.countP_map]
  exact List.countP_congr fun _ _ => by simp

/-- A name that belongs to one number is shown as often as this number is
listed. -/
theorem count_filterMap_of_unique {κ : Type} [DecidableEq κ]
    {name? : κ → Option String} {name : String} {id : κ}
    (h : ∀ k, name? k = some name ↔ k = id) (ids : List κ) :
    (ids.filterMap name?).count name = ids.count id := by
  rw [List.count_filterMap, List.count_eq_countP]
  refine List.countP_congr fun k _ => ?_
  rw [beq_iff_eq, beq_iff_eq]
  exact h k

/-! ## Both sides of a link -/

section Sides

variable {s : Snapshot} {t : Tables} {f : Freshness} {x : ErratumRow}
  {v : CveRow}

/-- An erratum shows a vulnerability as often as they are linked. -/
theorem Tables.count_cves (h : t.DeliveredBy s)
    (hxids : (t.errata.map (·.id)).Nodup)
    (hxnames : (t.errata.map (·.name)).Nodup)
    (hvids : (t.cves.map (·.id)).Nodup)
    (hvnames : (t.cves.map (·.name)).Nodup) (hx : x ∈ t.errata)
    (hv : v ∈ t.cves) : ∃ e, (t.catalog f).errata[x.name]? = some e ∧
      ((t.catalog f).cveNamesOf e).count v.name =
        t.erratumCves.count (x.id, v.id) := by
  obtain ⟨e, he, hbecomes⟩ := (errataByName_lists h hxids hxnames).record x hx
  have hnamed := Dict.getElem?_ofPairs_eq_name_iff hvids hvnames hv
  refine ⟨e, he, ?_⟩
  rw [Catalog.cveNamesOf, hbecomes.cves]
  exact (count_filterMap_of_unique hnamed _).trans (count_valuesOf _ _ _)

/-- A vulnerability shows an erratum as often as they are linked. -/
theorem Tables.count_errata (hxids : (t.errata.map (·.id)).Nodup)
    (hxnames : (t.errata.map (·.name)).Nodup)
    (hvids : (t.cves.map (·.id)).Nodup)
    (hvnames : (t.cves.map (·.name)).Nodup) (hx : x ∈ t.errata)
    (hv : v ∈ t.cves) : ∃ e, (t.catalog f).cves[v.name]? = some e ∧
      ((t.catalog f).erratumNamesOf e).count x.name =
        t.erratumCves.count (x.id, v.id) := by
  obtain ⟨e, he, hbecomes⟩ := (cvesByName_lists hvids hvnames).record v hv
  have hnamed := Dict.getElem?_ofPairs_eq_name_iff hxids hxnames hx
  refine ⟨e, he, ?_⟩
  rw [Catalog.erratumNamesOf, hbecomes.errata]
  refine (count_filterMap_of_unique hnamed _).trans ?_
  rw [count_valuesOf]
  exact List.count_map_of_injective t.erratumCves Prod.swap
    Prod.swap_injective (x.id, v.id)

end Sides

/-! ## Answers -/

/-- An erratum and a vulnerability are shown, and wherever one of them is
shown it shows the other one so many times. -/
structure Catalog.ShowsLinked (c : Catalog) (erratum cve : String) (n : Nat) :
    Prop where
  erratumShown : ∃ entry, c.ShowsErratum erratum entry
  cveShown : ∃ entry, c.ShowsCve cve entry
  cves : ∀ entry, c.ShowsErratum erratum entry → entry.cves.count cve = n
  errata : ∀ entry, c.ShowsCve cve entry → entry.errata.count erratum = n

theorem Catalog.showsLinked_of_count {c : Catalog} {erratum cve : String}
    {n : Nat}
    (he : ∃ e, c.errata[erratum]? = some e ∧ (c.cveNamesOf e).count cve = n)
    (hv : ∃ v, c.cves[cve]? = some v ∧
      (c.erratumNamesOf v).count erratum = n) :
    c.ShowsLinked erratum cve n := by
  obtain ⟨e, he, hecount⟩ := he
  obtain ⟨v, hv, hvcount⟩ := hv
  refine ⟨⟨_, showsErratum_iff.2 ⟨e, he, rfl⟩⟩,
    ⟨_, showsCve_iff.2 ⟨v, hv, rfl⟩⟩, fun entry h => ?_, fun entry h => ?_⟩
  · obtain ⟨e', he', rfl⟩ := showsErratum_iff.1 h
    rw [he] at he'
    cases he'
    exact hecount
  · obtain ⟨v', hv', rfl⟩ := showsCve_iff.1 h
    rw [hv] at hv'
    cases hv'
    exact hvcount

/-- Where errata and vulnerabilities are unique by number and by name, each
erratum and each vulnerability show each other equally often, as often as rows
are stored that link them. -/
theorem links_mirrored {s : Snapshot} {t : Tables} {c : Catalog}
    (hread : Tables.read s = .ok t) (hload : Catalog.load s = .ok c)
    (hxids : (t.errata.map (·.id)).Nodup)
    (hxnames : (t.errata.map (·.name)).Nodup)
    (hvids : (t.cves.map (·.id)).Nodup)
    (hvnames : (t.cves.map (·.name)).Nodup) {x : ErratumRow}
    (hx : x ∈ t.errata) {v : CveRow} (hv : v ∈ t.cves) :
    ∃ table, erratumCveLayout.table? s = some table ∧
      c.ShowsLinked x.name v.name (table.rows.countP
        (erratumCveLayout.decodeRow table · = some (x.id, v.id))) := by
  obtain ⟨f, rfl⟩ := Catalog.load_eq_catalog hread hload
  have hdel := Tables.read_delivers hread
  obtain ⟨table, htable, hcount⟩ := hdel.erratumCves.exists_count_eq
  refine ⟨table, htable, ?_⟩
  rw [← hcount]
  exact Catalog.showsLinked_of_count
    (Tables.count_cves hdel hxids hxnames hvids hvnames hx hv)
    (Tables.count_errata hxids hxnames hvids hvnames hx hv)

theorem links_mirrored_reported :
    Tables.read reportedSnapshot = .ok reportedTables ∧
    Catalog.load reportedSnapshot =
      .ok (reportedTables.catalog kernelFreshness) ∧
    (reportedTables.errata.map (·.id)).Nodup ∧
    (reportedTables.errata.map (·.name)).Nodup ∧
    (reportedTables.cves.map (·.id)).Nodup ∧
    (reportedTables.cves.map (·.name)).Nodup ∧
    (∃ x ∈ reportedTables.errata, x.name = "RHSA-2020:1") ∧
    (∃ v ∈ reportedTables.cves, v.name = "CVE-2020-1") ∧
    (reportedTables.catalog kernelFreshness).ShowsLinked
      "RHSA-2020:1" "CVE-2020-1" 1 := by
  have hxids : (reportedTables.errata.map (·.id)).Nodup := by decide
  have hxnames : (reportedTables.errata.map (·.name)).Nodup := by decide
  have hvids : (reportedTables.cves.map (·.id)).Nodup := by decide
  have hvnames : (reportedTables.cves.map (·.name)).Nodup := by decide
  have hx : reportedTables.errata[0] ∈ reportedTables.errata :=
    List.getElem_mem _
  have hv : reportedTables.cves[0] ∈ reportedTables.cves :=
    List.getElem_mem _
  obtain ⟨table, htable, hlinked⟩ := links_mirrored read_reportedSnapshot
    load_reportedSnapshot hxids hxnames hvids hvnames hx hv
  cases htable
  exact ⟨read_reportedSnapshot, load_reportedSnapshot, hxids, hxnames, hvids,
    hvnames, ⟨_, hx, rfl⟩, ⟨_, hv, rfl⟩, hlinked⟩

/-- A link that is stored twice is shown twice, on both sides. -/
example : (Catalog.load { tables :=
    ("errata_cve", some ⟨["errata_id", "cve_id"],
      [[.integer 100, .integer 1000], [.integer 100, .integer 1000]]⟩) ::
    reportedSnapshot.tables }).toOption.map (fun c =>
      (c.errata["RHSA-2020:1"]?.map c.cveNamesOf,
        c.cves["CVE-2020-1"]?.map c.erratumNamesOf)) =
    some (some ["CVE-2020-1", "CVE-2020-1"],
      some ["RHSA-2020:1", "RHSA-2020:1"]) := by
  decide +kernel

end Advisory
