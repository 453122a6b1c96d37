import Advisory.Catalog.Load
import Advisory.Proofs.Sorting

/-!
# What a loaded catalogue is made from

A snapshot loads exactly if each of its tables can be read and one of them
says when it was exported, and the catalogue is then a function of what was
read. The statements here take that apart once, so that nothing later has to
look into the chain of readings again.

What is read from a table is said without the reader: every stored row means
something, and these meanings are delivered, each as often as it is stored,
in the order of the table's layout and otherwise as they are stored.
-/

namespace Advisory

/-- A chain of two steps succeeds exactly if both do. -/
theorem bind_eq_ok {ε α β : Type} {x : Except ε α} {f : α → Except ε β}
    {b : β} : (x >>= f) = .ok b ↔ ∃ a, x = .ok a ∧ f a = .ok b := by
  cases x with
  | error e => exact ⟨fun h => (by cases h), fun ⟨_, h, _⟩ => (by cases h)⟩
  | ok a => exact ⟨fun h => ⟨a, rfl, h⟩, fun ⟨_, rfl, h⟩ => h⟩

theorem map_eq_ok {ε α β : Type} {x : Except ε α} {f : α → β} {b : β} :
    f <$> x = .ok b ↔ ∃ a, x = .ok a ∧ f a = b := by
  rw [← bind_pure_comp, bind_eq_ok]
  simp only [pure, Except.pure, Except.ok.injEq]

theorem toOption_eq_some_iff {ε α : Type} {x : Except ε α} {a : α} :
    x.toOption = some a ↔ x = .ok a := by
  cases x with
  | error e => exact ⟨fun h => (by cases h), fun h => (by cases h)⟩
  | ok b => simp only [Except.toOption, Option.some.injEq, Except.ok.injEq]

/-- All elements have a meaning exactly if the meanings form a list. -/
theorem mapM_eq_some_iff {α β : Type} {f : α → Option β} {xs : List α}
    {ys : List β} : xs.mapM f = some ys ↔ xs.map f = ys.map some := by
  induction xs generalizing ys with
  | nil => cases ys <;> simp
  | cons x xs ih =>
      rw [List.mapM_cons]
      cases hx : f x with
      | none => cases ys <;> simp [hx]
      | some y =>
          cases hxs : xs.mapM f with
          | none =>
              cases ys with
              | nil => simp
              | cons y' ys =>
                  have hne : xs.map f ≠ ys.map some := fun h => by
                    rw [ih.2 h] at hxs
                    cases hxs
                  simp [hne]
          | some zs =>
              have hzs := ih.1 hxs
              cases ys with
              | nil => simp
              | cons y' ys => simp [hx, hzs, List.map_inj_right]

theorem mapM_eq_none_iff {α β : Type} {f : α → Option β} {xs : List α} :
    xs.mapM f = none ↔ ∃ x ∈ xs, f x = none := by
  induction xs with
  | nil => simp
  | cons x xs ih =>
      simp only [List.mapM_cons, List.mem_cons, exists_eq_or_imp, ← ih]
      cases f x with
      | none => simp
      | some y => cases xs.mapM f <;> simp

/-! ## One table -/

/-- What rows a layout delivers from a snapshot: every stored row means one
of them, they stand in the order of the layout, and those that the order does
not separate stand as they are stored. -/
structure Layout.Delivers {ρ : Type} (l : Layout ρ) (s : Snapshot)
    (rows : List ρ) : Prop where
  stored : ∃ table meanings, l.table? s = some table ∧
    table.rows.map (l.decodeRow table) = meanings.map some ∧
    rows.Perm meanings ∧ ∀ row, rows.filter (l.compare row · = .eq) =
      meanings.filter (l.compare row · = .eq)
  sorted : Sorted l.compare rows

theorem Layout.delivers_of_read {ρ : Type} {l : Layout ρ} {s : Snapshot}
    {rows : List ρ} (hcmp : Std.TransCmp l.compare)
    (h : l.read s = .ok rows) : l.Delivers s rows := by
  rw [Layout.read] at h
  split at h
  · next meanings hdec =>
      injection h with h
      subst h
      rw [Layout.decode] at hdec
      obtain ⟨table, htable, hdec⟩ := Option.bind_eq_some_iff.1 hdec
      obtain ⟨_, -, hrows⟩ := Option.bind_eq_some_iff.1 hdec
      exact ⟨⟨table, meanings, htable, mapM_eq_some_iff.1 hrows,
        stableSort_perm l.compare meanings,
        fun row => stableSort_ties row meanings⟩, stableSort_sorted meanings⟩
  · cases h

/-! ## All tables -/

/-- The tables of a snapshot, each as its layout delivers it. -/
structure Tables.DeliveredBy (t : Tables) (s : Snapshot) : Prop where
  names : nameLayout.Delivers s t.names
  evrs : evrLayout.Delivers s t.evrs
  arches : archLayout.Delivers s t.arches
  archCompat : archCompatLayout.Delivers s t.archCompat
  texts : textLayout.Delivers s t.texts
  packages : packageLayout.Delivers s t.packages
  updates : updateLayout.Delivers s t.updates
  index : indexLayout.Delivers s t.index
  repositories : repositoryLayout.Delivers s t.repositories
  packageRepositories :
    packageRepositoryLayout.Delivers s t.packageRepositories
  packageErrata : packageErratumLayout.Delivers s t.packageErrata
  erratumRepositories :
    erratumRepositoryLayout.Delivers s t.erratumRepositories
  erratumCves : erratumCveLayout.Delivers s t.erratumCves
  erratumBugzillas : erratumBugzillaLayout.Delivers s t.erratumBugzillas
  erratumReferences : erratumReferenceLayout.Delivers s t.erratumReferences
  erratumModules : erratumModuleLayout.Delivers s t.erratumModules
  modular : modularLayout.Delivers s t.modular
  errata : erratumLayout.Delivers s t.errata
  cveWeaknesses : cveWeaknessLayout.Delivers s t.cveWeaknesses
  cvePackages : cvePackageLayout.Delivers s t.cvePackages
  cves : cveLayout.Delivers s t.cves
  streams : streamLayout.Delivers s t.streams
  freshness : freshnessLayout.Delivers s t.freshness

/-- Delivering the greatest spelling first is an order as well. -/
instance transCmp_freshness : Std.TransCmp freshnessLayout.compare :=
  inferInstanceAs (Std.TransCmp fun a b =>
    compareOn FreshnessRow.spelling b a)

theorem Tables.read_delivers {s : Snapshot} {t : Tables}
    (h : Tables.read s = .ok t) : t.DeliveredBy s := by
  simp only [Tables.read, bind_eq_ok] at h
  obtain ⟨_, h1, _, h2, _, h3, _, h4, _, h5, _, h6, _, h7, _, h8, _, h9,
    _, h10, _, h11, _, h12, _, h13, _, h14, _, h15, _, h16, _, h17, _, h18,
    _, h19, _, h20, _, h21, _, h22, _, h23, h⟩ := h
  injection h with h
  subst h
  constructor
  all_goals
    refine Layout.delivers_of_read ?_ (by assumption)
    dsimp only [nameLayout, evrLayout, archLayout, archCompatLayout,
      textLayout, packageLayout, updateLayout, indexLayout, repositoryLayout,
      packageRepositoryLayout, packageErratumLayout, erratumRepositoryLayout,
      erratumCveLayout, erratumBugzillaLayout, erratumReferenceLayout,
      erratumModuleLayout, modularLayout, erratumLayout, cveWeaknessLayout,
      cvePackageLayout, cveLayout, streamLayout, freshnessLayout, Layout.link,
      Layout.texts, Layout.words]
  case freshness => exact transCmp_freshness
  all_goals infer_instance

/-- A snapshot loads exactly if its tables can be read and one row says when
it was exported. -/
theorem Catalog.load_eq_ok_iff {s : Snapshot} {c : Catalog} :
    Catalog.load s = .ok c ↔ ∃ t f, Tables.read s = .ok t ∧
      t.freshness? = some f ∧ c = t.catalog f := by
  rw [Catalog.load, bind_eq_ok]
  constructor
  · intro h'
    obtain ⟨t, ht, h⟩ := h'
    split at h
    · next f hf =>
        injection h with h
        exact ⟨t, f, ht, hf, h.symm⟩
    · cases h
  · intro h'
    obtain ⟨t, f, ht, hf, rfl⟩ := h'
    exact ⟨t, ht, by rw [hf]; rfl⟩

/-- What is loaded is the catalogue of the tables that are read. -/
theorem Catalog.load_eq_catalog {s : Snapshot} {t : Tables} {c : Catalog}
    (hread : Tables.read s = .ok t) (hload : Catalog.load s = .ok c) :
    ∃ f, c = t.catalog f := by
  obtain ⟨t', f, hread', -, rfl⟩ := Catalog.load_eq_ok_iff.1 hload
  rw [hread] at hread'
  cases hread'
  exact ⟨f, rfl⟩

/-! ## Snapshots that load -/

/-- A snapshot with two builds of one package. The newer one fixes a
vulnerability, and both are shipped by one repository. -/
def kernelSnapshot : Snapshot where
  tables := [
    ("packagename", some ⟨["id", "packagename"],
      [[.integer 1, .text "kernel"]]⟩),
    ("evr", some ⟨["id", "epoch", "version", "release"],
      [[.integer 1, .integer 0, .text "4", .text "1"],
        [.integer 2, .integer 0, .text "4", .text "2"]]⟩),
    ("arch", some ⟨["id", "arch"], [[.integer 1, .text "x86_64"]]⟩),
    ("arch_compat", some ⟨["from_arch_id", "to_arch_id"],
      [[.integer 1, .integer 1]]⟩),
    ("package_detail", some ⟨["id", "name_id", "evr_id", "arch_id",
      "summary_id", "description_id", "source_package_id"],
      [[.integer 10, .integer 1, .integer 1, .integer 1, .integer 0,
          .integer 0, .null],
        [.integer 20, .integer 1, .integer 2, .integer 1, .integer 0,
          .integer 0, .null]]⟩),
    ("updates", some ⟨["name_id", "package_id", "package_order"],
      [[.integer 1, .integer 10, .integer 0],
        [.integer 1, .integer 20, .integer 1]]⟩),
    ("updates_index", some ⟨["name_id", "evr_id", "package_order"],
      [[.integer 1, .integer 1, .integer 0],
        [.integer 1, .integer 2, .integer 1]]⟩),
    ("repo_detail", some ⟨["id", "label", "name", "url", "basearch",
      "releasever", "product", "product_id", "revision"],
      [[.integer 5, .text "baseos", .text "BaseOS", .text "http://mirror/8",
        .null, .text "8", .text "Enterprise", .integer 7, .null]]⟩),
    ("pkg_repo", some ⟨["pkg_id", "repo_id"],
      [[.integer 10, .integer 5], [.integer 20, .integer 5]]⟩),
    ("pkg_errata", some ⟨["pkg_id", "errata_id"],
      [[.integer 20, .integer 100]]⟩),
    ("errata_repo", some ⟨["errata_id", "repo_id"],
      [[.integer 100, .integer 5]]⟩),
    ("errata_cve", some ⟨["errata_id", "cve_id"],
      [[.integer 100, .integer 1000]]⟩),
    ("errata_detail", some ⟨["id", "name", "synopsis", "summary", "type",
      "severity", "description", "solution", "issued", "updated", "url"],
      [[.integer 100, .text "RHSA-2020:1", .text "Important", .null,
        .text "security", .null, .null, .null, .null, .null, .text ""]]⟩),
    ("dbchange", some ⟨["errata_changes", "cve_changes",
      "repository_changes", "last_change", "exported"],
      [[.text "2020-06-01 00:00:00", .text "2020-06-02 00:00:00",
        .text "2020-06-03 00:00:00", .text "2020-06-03 00:00:00",
        .text "2020-06-04 12:00:00"]]⟩)]

/-- What the snapshot with two builds says about its changes. -/
def kernelFreshness : Freshness where
  errataChanges := ⟨1590969600, 0⟩
  cveChanges := ⟨1591056000, 0⟩
  repositoryChanges := ⟨1591142400, 0⟩
  lastChange := ⟨1591142400, 0⟩
  exported := ⟨1591272000, 0⟩

/-- What the snapshot with two builds holds. -/
def kernelTables : Tables where
  names := [(⟨1⟩, "kernel")]
  evrs := [(⟨1⟩, ⟨0, "4", "1"⟩), (⟨2⟩, ⟨0, "4", "2"⟩)]
  arches := [(⟨1⟩, "x86_64")]
  archCompat := [(⟨1⟩, ⟨1⟩)]
  texts := []
  packages := [(⟨10⟩, ⟨⟨1⟩, ⟨1⟩, ⟨1⟩, ⟨0⟩, ⟨0⟩, none⟩),
    (⟨20⟩, ⟨⟨1⟩, ⟨2⟩, ⟨1⟩, ⟨0⟩, ⟨0⟩, none⟩)]
  updates := [⟨⟨1⟩, ⟨10⟩, 0⟩, ⟨⟨1⟩, ⟨20⟩, 1⟩]
  index := [⟨⟨1⟩, ⟨1⟩, 0⟩, ⟨⟨1⟩, ⟨2⟩, 1⟩]
  repositories := [(⟨5⟩, ⟨"baseos", "BaseOS", "http://mirror/8", none,
    some "8", "Enterprise", 7, none⟩)]
  packageRepositories := [(⟨10⟩, ⟨5⟩), (⟨20⟩, ⟨5⟩)]
  packageErrata := [(⟨20⟩, ⟨100⟩)]
  erratumRepositories := [(⟨100⟩, ⟨5⟩)]
  erratumCves := [(⟨100⟩, ⟨1000⟩)]
  erratumBugzillas := []
  erratumReferences := []
  erratumModules := []
  modular := []
  errata := [⟨⟨100⟩, "RHSA-2020:1", ⟨"Important", none, "security", none,
    none, none, none, none, ""⟩⟩]
  cveWeaknesses := []
  cvePackages := []
  cves := []
  streams := []
  freshness := [⟨kernelFreshness, "2020-06-04 12:00:00"⟩]

theorem read_kernelSnapshot :
    Tables.read kernelSnapshot = .ok kernelTables :=
  toOption_eq_some_iff.1 (by decide +kernel)

theorem load_kernelSnapshot : Catalog.load kernelSnapshot =
    .ok (kernelTables.catalog kernelFreshness) :=
  Catalog.load_eq_ok_iff.2 ⟨_, _, read_kernelSnapshot, rfl, rfl⟩

/-- The snapshot with two builds, and what is reported about the vulnerability
that the newer build fixes and about another one. -/
def reportedSnapshot : Snapshot where
  tables := ("cve_detail", some ⟨["id", "name", "redhat_url",
      "secondary_url", "cvss3_score", "cvss3_metrics", "impact",
      "published_date", "modified_date", "iava", "description",
      "cvss2_score", "cvss2_metrics", "source"],
      [[.integer 1000, .text "CVE-2020-1", .null, .null, .null, .null,
          .text "Important", .text "2020-01-01 00:00:00", .null, .null,
          .null, .null, .null, .text "Red Hat"],
        [.integer 2000, .text "CVE-2020-2", .null, .null, .null, .null,
          .null, .null, .null, .null, .null, .null, .null, .null]]⟩) ::
    kernelSnapshot.tables

/-- What the snapshot with vulnerabilities holds. -/
def reportedTables : Tables := { kernelTables with
  cves := [
    ⟨⟨1000⟩, "CVE-2020-1", ⟨none, none, none, none, "Important",
      some ⟨1577836800, 0⟩, none, none, "", none, none, "Red Hat"⟩⟩,
    ⟨⟨2000⟩, "CVE-2020-2", ⟨none, none, none, none, "", none, none, none, "",
      none, none, ""⟩⟩] }

theorem read_reportedSnapshot :
    Tables.read reportedSnapshot = .ok reportedTables :=
  toOption_eq_some_iff.1 (by decide +kernel)

theorem load_reportedSnapshot : Catalog.load reportedSnapshot =
    .ok (reportedTables.catalog kernelFreshness) :=
  Catalog.load_eq_ok_iff.2 ⟨_, _, read_reportedSnapshot, rfl, rfl⟩

end Advisory
