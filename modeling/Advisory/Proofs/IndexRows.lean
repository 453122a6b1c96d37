import Advisory.Proofs.Ordering

/-!
# What the index may leave out

Loading goes through the index row by row and asks of each row whether a package
of its version stands at its place. It does not go through the places and ask
whether each of them has a row. So without violations the index never lists a
place under a wrong version, and it lists exactly the places that its rows name;
but a place that no row names is listed nowhere, and nothing is reported.

What the engine does at a place depends on that. Where a row names the place, the
package that stands there is found, and updates of its version are looked for
behind it. A place without a row is as good as not there: its package cannot be
placed, and another build of its version starts in front of it.
-/

namespace Advisory

/-- A row of the index names a place of a name. -/
def Indexed (index : List IndexRow) (name : NameId) (place : Nat) : Prop :=
  ∃ r ∈ index, r.name = name ∧ r.order = place

/-- The engine takes a place of a name into account: a text for the package that
stands there is answered with a list, and updates for any build of its version
are looked for behind the place, so that whatever is found for the build, and
with it whatever is listed, stands behind it. -/
structure Catalog.Heeds (c : Catalog) (name : NameId) (place : Nat)
    (p : Package) : Prop where
  resolved : ∀ (r : UpdatesRequest) (o : UpdateOptions),
    ∀ text ∈ r.packages.getD [], c.Denotes text ⟨name, p.evr, p.arch⟩ →
      ∃ entry updates, (r.resolve c o).entries[text]? = some entry ∧
        entry.available = some updates
  behind : ∀ text arch i, c.Denotes text ⟨name, p.evr, arch⟩ →
    (Nevra.parse text).toOption.bind c.installed? = some i → place < i.next
  searched : ∀ (r : UpdatesRequest) (o : UpdateOptions) (text : String) arch,
    c.Denotes text ⟨name, p.evr, arch⟩ →
      ∀ found, r.findings? c o text = some found →
        (r.resolve c o).listOf? text =
          some (stableSort compare (found.map (·.update))) ∧
        ∀ g ∈ found, g.package ∈ (c.versions.listAt name).drop (place + 1)

/-! ## Listed places -/

namespace Tables

variable {t : Tables} {f : Freshness}

theorem mem_positions_iff {name : NameId} {evr : EvrId} {place : Nat} :
    place ∈ (t.catalog f).positions.listAt (name, evr) ↔
      ∃ r ∈ t.index, r.name = name ∧ r.evr = evr ∧ r.order = place := by
  change place ∈ (Dict.group _).listAt (name, evr) ↔ _
  simp only [Dict.mem_listAt_group, List.mem_filterMap, Option.map_eq_some_iff,
    Prod.mk.injEq, IndexRow.place?_eq_some_iff]
  constructor
  · rintro ⟨r, hr, place', horder, ⟨hname, hevr⟩, rfl⟩
    exact ⟨r, hr, hname, hevr, horder⟩
  · rintro ⟨r, hr, hname, hevr, horder⟩
    exact ⟨r, hr, place, horder, ⟨hname, hevr⟩, rfl⟩

/-- A row that names a place has the version of the package there. -/
theorem evr_eq_of_order (h : t.orderingViolations = 0) {r : IndexRow}
    (hr : r ∈ t.index) {place : Nat} (horder : r.order = place)
    {id : PackageId} (hid : (t.versionsByName.listAt r.name)[place]? = some id)
    {p : Package} (hp : (Dict.ofPairs t.packages)[id]? = some p) :
    r.evr = p.evr := by
  obtain ⟨place', id', p', horder', hid', hp', hevr⟩ :=
    IndexRow.isFaithful_iff.1 ((no_violations_iff_rows.1 h).2 r hr)
  obtain rfl : place = place' := Int.ofNat.inj (horder.symm.trans horder')
  obtain rfl : id = id' := Option.some.inj (hid.symm.trans hid')
  obtain rfl : p = p' := Option.some.inj (hp.symm.trans hp')
  exact hevr.symm

theorem mem_positions_iff_indexed (h : t.orderingViolations = 0)
    {name : NameId} {place : Nat} {id : PackageId} {p : Package}
    (hid : ((t.catalog f).versions.listAt name)[place]? = some id)
    (hp : (t.catalog f).packages[id]? = some p) (evr : EvrId) :
    place ∈ (t.catalog f).positions.listAt (name, evr) ↔
      Indexed t.index name place ∧ evr = p.evr := by
  rw [mem_positions_iff]
  constructor
  · rintro ⟨r, hr, rfl, rfl, horder⟩
    exact ⟨⟨r, hr, rfl, horder⟩, evr_eq_of_order h hr horder hid hp⟩
  · rintro ⟨⟨r, hr, rfl, horder⟩, rfl⟩
    exact ⟨r, hr, rfl, evr_eq_of_order h hr horder hid hp, horder⟩

end Tables

/-- A place that is listed under its version is taken into account. -/
theorem Catalog.heeds_of_listed {c : Catalog} (h : c.PlacesAscend)
    {name : NameId} {place : Nat} {id : PackageId} {p : Package}
    (hid : (c.versions.listAt name)[place]? = some id)
    (hp : c.packages[id]? = some p)
    (hplace : place ∈ c.positions.listAt (name, p.evr)) :
    c.Heeds name place p where
  resolved _ o _ htext hkey := (UpdatesRequest.exists_entry_iff h o htext).2
    ⟨_, hkey, place, id, hplace, hid, p, hp, rfl⟩
  behind text arch i hkey hi := by
    obtain ⟨key, hkey', hplaces⟩ := (placed_iff h).1 hi
    obtain rfl := denotes_unique hkey hkey'
    exact (hplaces.behind i.next).1 (Nat.le_refl _) place hplace
  searched r o text arch hkey found hfound := by
    refine ⟨?_, fun g hg => ?_⟩
    · rw [UpdatesRequest.listOf?_eq_findings, hfound, Option.map_some]
    · obtain ⟨id, -, f, hcandidate, -⟩ :=
        offer_of_emits h hkey ⟨found, hfound, hg⟩
      rw [← hcandidate]
      exact mem_drop_iff.2 ⟨f.place, f.behind place hplace, f.stands⟩

/-- In a snapshot without violations a place that holds a package with a detail
is listed under the version of the package exactly if a row of the index names
it, and under no other version. What is named is taken into account. -/
theorem listed_iff_indexed {s : Snapshot} {c : Catalog}
    (hload : Catalog.load s = .ok c) (hzero : c.orderingViolations = 0) :
    ∃ index, indexLayout.decode s = some index ∧
      ∀ name place id p, (c.versions.listAt name)[place]? = some id →
        c.packages[id]? = some p →
        (∀ evr, place ∈ c.positions.listAt (name, evr) ↔
          Indexed index name place ∧ evr = p.evr) ∧
        (Indexed index name place → c.Heeds name place p) := by
  have hascend := Catalog.load_placesAscend hload
  obtain ⟨t, f, hread, -, rfl⟩ := Catalog.load_eq_ok_iff.1 hload
  obtain ⟨index, hindex, hsorted⟩ :=
    Layout.decode_of_read (Tables.read_versions hread).2.2
  refine ⟨index, hindex, fun name place id p hid hp => ?_⟩
  have hlisted : ∀ evr, place ∈ (t.catalog f).positions.listAt (name, evr) ↔
      Indexed index name place ∧ evr = p.evr := by
    simpa only [Indexed, hsorted, mem_stableSort] using
      Tables.mem_positions_iff_indexed hzero hid hp
  exact ⟨hlisted, fun hnamed =>
    Catalog.heeds_of_listed hascend hid hp ((hlisted p.evr).2 ⟨hnamed, rfl⟩)⟩

/-- The place of the older one of two builds is listed, so the text for it is
answered with a list, and the newer build, which is found for it, stands behind
it. -/
theorem listed_iff_indexed_kernel :
    Catalog.load kernelSnapshot =
      .ok (kernelTables.catalog kernelFreshness) ∧
    (kernelTables.catalog kernelFreshness).orderingViolations = 0 ∧
    (∃ index, indexLayout.decode kernelSnapshot = some index ∧
      Indexed index ⟨1⟩ 0 ∧
      (kernelTables.catalog kernelFreshness).Heeds ⟨1⟩ 0
        ⟨⟨1⟩, ⟨1⟩, ⟨1⟩, ⟨0⟩, ⟨0⟩, none⟩) ∧
    (kernelTables.catalog kernelFreshness).Denotes "kernel-4-1.x86_64"
      ⟨⟨1⟩, ⟨1⟩, ⟨1⟩⟩ ∧
    (∃ entry updates, (kernelRequest.resolve
        (kernelTables.catalog kernelFreshness)
        ⟨false, true⟩).entries["kernel-4-1.x86_64"]? = some entry ∧
      entry.available = some updates) ∧
    (kernelRequest.resolve (kernelTables.catalog kernelFreshness)
      ⟨false, true⟩).listOf? "kernel-4-1.x86_64" = some [kernelUpdate] ∧
    (⟨20⟩ : PackageId) ∈
      ((kernelTables.catalog kernelFreshness).versions.listAt ⟨1⟩).drop 1 := by
  have hzero : (kernelTables.catalog kernelFreshness).orderingViolations = 0 := by
    decide +kernel
  obtain ⟨index, hindex, h⟩ := listed_iff_indexed load_kernelSnapshot hzero
  obtain ⟨hlisted, hheeds⟩ := h ⟨1⟩ 0 ⟨10⟩ ⟨⟨1⟩, ⟨1⟩, ⟨1⟩, ⟨0⟩, ⟨0⟩, none⟩
    (by decide +kernel) (by decide +kernel)
  have hnamed : Indexed index ⟨1⟩ 0 :=
    ((hlisted ⟨1⟩).1 (by decide +kernel)).1
  obtain ⟨hlist, hbehind⟩ := (hheeds hnamed).searched kernelRequest
    ⟨false, true⟩ _ _ kernel_denotes _ kernel_findings?
  exact ⟨load_kernelSnapshot, hzero, ⟨index, hindex, hnamed, hheeds hnamed⟩,
    kernel_denotes, (hheeds hnamed).resolved kernelRequest ⟨false, true⟩ _
      (List.mem_singleton.2 rfl) kernel_denotes, hlist,
    hbehind _ List.mem_cons_self⟩

/-- Two builds of one version, of which the index names the first one only. -/
def unlistedSnapshot : Snapshot where
  tables := [
    ("arch", some ⟨["id", "arch"],
      [[.integer 1, .text "x86_64"], [.integer 2, .text "i686"]]⟩),
    ("package_detail", some ⟨["id", "name_id", "evr_id", "arch_id",
      "summary_id", "description_id", "source_package_id"],
      [[.integer 10, .integer 1, .integer 1, .integer 1, .integer 0,
          .integer 0, .null],
        [.integer 11, .integer 1, .integer 1, .integer 2, .integer 0,
          .integer 0, .null]]⟩),
    ("updates", some ⟨["name_id", "package_id", "package_order"],
      [[.integer 1, .integer 10, .integer 0],
        [.integer 1, .integer 11, .integer 1]]⟩),
    ("updates_index", some ⟨["name_id", "evr_id", "package_order"],
      [[.integer 1, .integer 1, .integer 0]]⟩)] ++ kernelSnapshot.tables

/-- What the snapshot with a place that has no row holds. -/
def unlistedTables : Tables := { kernelTables with
  arches := [(⟨1⟩, "x86_64"), (⟨2⟩, "i686")]
  packages := [(⟨10⟩, ⟨⟨1⟩, ⟨1⟩, ⟨1⟩, ⟨0⟩, ⟨0⟩, none⟩),
    (⟨11⟩, ⟨⟨1⟩, ⟨1⟩, ⟨2⟩, ⟨0⟩, ⟨0⟩, none⟩)]
  updates := [⟨⟨1⟩, ⟨10⟩, 0⟩, ⟨⟨1⟩, ⟨11⟩, 1⟩]
  index := [⟨⟨1⟩, ⟨1⟩, 0⟩] }

theorem read_unlistedSnapshot :
    Tables.read unlistedSnapshot = .ok unlistedTables :=
  toOption_eq_some_iff.1 (by decide +kernel)

theorem load_unlistedSnapshot : Catalog.load unlistedSnapshot =
    .ok (unlistedTables.catalog kernelFreshness) :=
  Catalog.load_eq_ok_iff.2 ⟨_, _, read_unlistedSnapshot, rfl, rfl⟩

/-- A snapshot without violations may have a place that is not listed: the
package there cannot be placed, and the other build of its version starts in
front of it. -/
theorem exists_unlisted_place :
    Catalog.load unlistedSnapshot =
      .ok (unlistedTables.catalog kernelFreshness) ∧
    (unlistedTables.catalog kernelFreshness).orderingViolations = 0 ∧
    ∃ name place id p,
      ((unlistedTables.catalog kernelFreshness).versions.listAt
        name)[place]? = some id ∧
      (unlistedTables.catalog kernelFreshness).packages[id]? = some p ∧
      place ∉ (unlistedTables.catalog kernelFreshness).positions.listAt
        (name, p.evr) ∧
      (unlistedTables.catalog kernelFreshness).Denotes "kernel-4-1.i686"
        ⟨name, p.evr, p.arch⟩ ∧
      (∀ r o, ((unlistedTables.catalog kernelFreshness).updatesEntry r o
        "kernel-4-1.i686").available = none) ∧
      ∃ arch i, (unlistedTables.catalog kernelFreshness).Denotes
          "kernel-4-1.x86_64" ⟨name, p.evr, arch⟩ ∧
        (Nevra.parse "kernel-4-1.x86_64").toOption.bind
          (unlistedTables.catalog kernelFreshness).installed? = some i ∧
        i.next ≤ place := by
  refine ⟨load_unlistedSnapshot, by decide +kernel, ⟨1⟩, 1, ⟨11⟩,
    ⟨⟨1⟩, ⟨1⟩, ⟨2⟩, ⟨0⟩, ⟨0⟩, none⟩, by decide +kernel, by decide +kernel,
    by decide +kernel, ?_, fun r o => ?_, ⟨1⟩, ⟨⟨10⟩, ⟨1⟩, [⟨10⟩, ⟨11⟩], 1⟩,
    ?_, by decide +kernel, Nat.le_refl 1⟩
  · exact ⟨⟨"kernel", 0, "4", "1", "i686"⟩, rfl, by decide +kernel,
      by decide +kernel, by decide +kernel⟩
  · have hnone : (Nevra.parse "kernel-4-1.i686").toOption.bind
        (unlistedTables.catalog kernelFreshness).installed? = none := by
      decide +kernel
    rw [Catalog.available_updatesEntry, hnone]
    rfl
  · exact ⟨⟨"kernel", 0, "4", "1", "x86_64"⟩, rfl, by decide +kernel,
      by decide +kernel, by decide +kernel⟩

end Advisory
