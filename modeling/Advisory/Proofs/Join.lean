import Advisory.Proofs.Delivery
import Advisory.Proofs.Dictionaries

/-!
# The catalogue is the join of the tables

Where no two records of a snapshot have the same number or the same name,
nothing of it is lost, doubled or filed under a wrong key: every record has
its entry, an erratum and a vulnerability carry exactly the links that
concern them, and a dictionary of links holds under each key the links with
that key, in the order of their rows and as often as they are given.

Two things need an argument. The links of an erratum go to the first row
with its number, so it matters that there is only one; `markFirst_of_nodup`
says that every row is then a first one. And the packages that an erratum
ships as parts of modules are freed of repetitions by comparing neighbours
only, which is enough because their rows are delivered by package.
-/

namespace Advisory

/-- No two records of a kind have one number, and no two errata and no two
vulnerabilities have one name. -/
structure Tables.Unambiguous (t : Tables) : Prop where
  names : (t.names.map (·.1)).Nodup
  evrs : (t.evrs.map (·.1)).Nodup
  arches : (t.arches.map (·.1)).Nodup
  packages : (t.packages.map (·.1)).Nodup
  repositories : (t.repositories.map (·.1)).Nodup
  errata : (t.errata.map (·.id)).Nodup
  erratumNames : (t.errata.map (·.name)).Nodup
  cves : (t.cves.map (·.id)).Nodup
  cveNames : (t.cves.map (·.name)).Nodup

/-! ## What a row becomes -/

/-- The erratum that a row becomes: what the row says, and the values of the
links with its number. -/
structure ErratumRow.Becomes (t : Tables) (row : ErratumRow) (e : Erratum) :
    Prop where
  id : e.id = row.id
  notice : e.notice = row.notice
  cves : e.cves = valuesOf t.erratumCves row.id
  packages : e.packages = valuesOf (t.packageErrata.map Prod.swap) row.id
  bugzillas : e.bugzillas = valuesOf t.erratumBugzillas row.id
  references : e.references = valuesOf t.erratumReferences row.id
  modules : e.modules = valuesOf t.erratumModules row.id
  /-- Packages of modules are listed once each, by number. -/
  ascending : e.modulePackages.Pairwise (·.value < ·.value)
  modulePackages : ∀ p, p ∈ e.modulePackages ↔
    ∃ m ∈ t.modular, m.erratum = row.id ∧ m.package = p

/-- The vulnerability that a row becomes. -/
structure CveRow.Becomes (t : Tables) (row : CveRow) (v : Cve) : Prop where
  id : v.id = row.id
  report : v.report = row.report
  sorted : Sorted compare v.weaknesses
  weaknesses : v.weaknesses.Perm (valuesOf t.cveWeaknesses row.id)
  packages : v.packages = valuesOf t.cvePackages row.id
  errata : v.errata = valuesOf (t.erratumCves.map Prod.swap) row.id

/-- The packages under one erratum ascend as their rows are delivered. -/
theorem modular_sorted {rows : List ModularRow}
    (h : Sorted modularLayout.compare rows) (x : ErratumId) :
    Sorted compare
      (valuesOf (rows.map fun m => (m.erratum, m.package)) x) := by
  rw [Sorted, valuesOf, List.pairwise_map]
  refine List.Pairwise.filter _ (List.pairwise_map.2 (h.imp fun hab => ?_))
  exact Ordering.isLE_left_of_isLE_then hab

theorem ErratumRow.linked_becomes {s : Snapshot} {t : Tables}
    (h : t.DeliveredBy s) (row : ErratumRow) :
    row.Becomes t (row.linked (ErratumLinks.ofTables t)) where
  id := rfl
  notice := rfl
  cves := Dict.listAt_group_eq_valuesOf _ _
  packages := Dict.listAt_group_eq_valuesOf _ _
  bugzillas := Dict.listAt_group_eq_valuesOf _ _
  references := Dict.listAt_group_eq_valuesOf _ _
  modules := Dict.listAt_group_eq_valuesOf _ _
  ascending := by
    show (dropRepeats (Dict.listAt (.group _) row.id)).Pairwise _
    rw [Dict.listAt_group_eq_valuesOf]
    have hasc := dropRepeats_ascending (modular_sorted h.modular.sorted row.id)
    exact hasc.imp fun hab => Int.compare_eq_lt.1 hab
  modulePackages p := by
    show p ∈ dropRepeats (Dict.listAt (.group _) row.id) ↔ _
    rw [mem_dropRepeats, Dict.mem_listAt_group, List.mem_map]
    simp only [Prod.mk.injEq]

theorem CveRow.linked_becomes (t : Tables) (row : CveRow) :
    row.Becomes t (row.linked (CveLinks.ofTables t)) where
  id := rfl
  report := rfl
  sorted := stableSort_sorted _
  weaknesses := by
    rw [← Dict.listAt_group_eq_valuesOf]
    exact stableSort_perm _ _
  packages := Dict.listAt_group_eq_valuesOf _ _
  errata := Dict.listAt_group_eq_valuesOf _ _

/-! ## Errata and vulnerabilities by name -/

theorem errataByName_lists {s : Snapshot} {t : Tables}
    (h : t.DeliveredBy s) (hids : (t.errata.map (·.id)).Nodup)
    (hnames : (t.errata.map (·.name)).Nodup) :
    t.errataByName.Lists t.errata (·.name) (ErratumRow.Becomes t) := by
  rw [Tables.errataByName,
    markFirst_of_nodup hids fun _ _ => Std.ExtTreeSet.not_mem_empty,
    List.map_map]
  refine (Dict.ofPairs_lists hnames).imp fun row v hv => ?_
  subst hv
  exact row.linked_becomes h

theorem cvesByName_lists {t : Tables} (hids : (t.cves.map (·.id)).Nodup)
    (hnames : (t.cves.map (·.name)).Nodup) :
    t.cvesByName.Lists t.cves (·.name) (CveRow.Becomes t) := by
  rw [Tables.cvesByName,
    markFirst_of_nodup hids fun _ _ => Std.ExtTreeSet.not_mem_empty,
    List.map_map]
  refine (Dict.ofPairs_lists hnames).imp fun row v hv => ?_
  subst hv
  exact row.linked_becomes t

/-! ## The whole catalogue -/

/-- A catalogue is the join of some tables. -/
structure Tables.JoinedIn (t : Tables) (c : Catalog) : Prop where
  names : ∀ id name, c.names[id]? = some name ↔ (id, name) ∈ t.names
  evrs : ∀ id evr, c.evrs[id]? = some evr ↔ (id, evr) ∈ t.evrs
  arches : ∀ id arch, c.arches[id]? = some arch ↔ (id, arch) ∈ t.arches
  packages : ∀ id p, c.packages[id]? = some p ↔ (id, p) ∈ t.packages
  repositories : ∀ id repo,
    c.repositories[id]? = some repo ↔ (id, repo) ∈ t.repositories
  errata : c.errata.Lists t.errata (·.name) (ErratumRow.Becomes t)
  cves : c.cves.Lists t.cves (·.name) (CveRow.Becomes t)
  packageErrata : c.packageErrata.Groups t.packageErrata
  erratumRepositories : c.erratumRepositories.Groups t.erratumRepositories
  packageRepositories : c.packageRepositories.Groups t.packageRepositories
  pairStreams : c.pairStreams.Groups
    (t.modular.map fun m => ((m.package, m.erratum), m.stream))
  streams : c.streams.Groups t.streams
  labelIds : c.labelIds.Groups
    (t.repositories.map fun (id, repo) => (repo.label, id))
  /-- A package with a source package is filed under that one. -/
  binaries : c.binaries.Groups
    (t.packages.filterMap fun (id, p) => p.source.map (·, id))

theorem Tables.joinedIn_catalog {s : Snapshot} {t : Tables} (f : Freshness)
    (h : t.DeliveredBy s) (hu : t.Unambiguous) :
    t.JoinedIn (t.catalog f) where
  names _ _ := Dict.getElem?_ofPairs_of_nodup hu.names
  evrs _ _ := Dict.getElem?_ofPairs_of_nodup hu.evrs
  arches _ _ := Dict.getElem?_ofPairs_of_nodup hu.arches
  packages _ _ := Dict.getElem?_ofPairs_of_nodup hu.packages
  repositories _ _ := Dict.getElem?_ofPairs_of_nodup hu.repositories
  errata := errataByName_lists h hu.errata hu.erratumNames
  cves := cvesByName_lists hu.cves hu.cveNames
  packageErrata := Dict.group_groups _
  erratumRepositories := Dict.group_groups _
  packageRepositories := Dict.group_groups _
  pairStreams := Dict.group_groups _
  streams := Dict.group_groups _
  labelIds := Dict.group_groups _
  binaries := Dict.group_groups _

/-- A snapshot without ambiguous records loads as the join of its tables,
each of them read row by row and put in its order. -/
theorem load_joins {s : Snapshot} {t : Tables} {c : Catalog}
    (hread : Tables.read s = .ok t) (hload : Catalog.load s = .ok c)
    (hu : t.Unambiguous) : t.DeliveredBy s ∧ t.JoinedIn c := by
  have hdel := Tables.read_delivers hread
  obtain ⟨t', f, hread', -, rfl⟩ := Catalog.load_eq_ok_iff.1 hload
  rw [hread] at hread'
  injection hread' with heq
  subst heq
  exact ⟨hdel, Tables.joinedIn_catalog f hdel hu⟩

theorem load_joins_kernel :
    Tables.read kernelSnapshot = .ok kernelTables ∧
    Catalog.load kernelSnapshot =
      .ok (kernelTables.catalog kernelFreshness) ∧
    kernelTables.Unambiguous ∧ kernelTables.DeliveredBy kernelSnapshot ∧
    kernelTables.JoinedIn (kernelTables.catalog kernelFreshness) := by
  have hu : kernelTables.Unambiguous := by
    constructor <;> decide
  exact ⟨read_kernelSnapshot, load_kernelSnapshot, hu,
    load_joins read_kernelSnapshot load_kernelSnapshot hu⟩

end Advisory
