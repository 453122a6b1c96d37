import Advisory.Catalog.Basic
import Advisory.Snapshot.Tables

/-!
# Building a catalogue

Every dictionary of the catalogue is one table seen from one side. A table of records is indexed by
number or name, and where a number or name is given twice the later row counts. A table of links is
grouped by one of its columns, and the rows keep their order and their multiplicity.

An erratum and a vulnerability also carry the links that concern them. Where a number is given twice,
the links belong to the first row with it.

The order of versions is checked row by row. A row of the version table must stand at the place it
names, and a row of the index must name a place that holds a package of its version. Rows that do
not are counted and do not prevent the catalogue from being used; only a row of the index with a
negative place is dropped.
-/

namespace Advisory

/-! ## Errata and vulnerabilities with their links -/

structure ErratumLinks where
  cves : Dict ErratumId (List CveId)
  packages : Dict ErratumId (List PackageId)
  modulePackages : Dict ErratumId (List PackageId)
  bugzillas : Dict ErratumId (List String)
  references : Dict ErratumId (List String)
  modules : Dict ErratumId (List ModuleBuild)

def ErratumLinks.ofTables (t : Tables) : ErratumLinks where
  cves := .group t.erratumCves
  packages := .group (t.packageErrata.map Prod.swap)
  modulePackages := .group (t.modular.map fun r => (r.erratum, r.package))
  bugzillas := .group t.erratumBugzillas
  references := .group t.erratumReferences
  modules := .group t.erratumModules

/-- The erratum of a row that is not the first one with its number. -/
def ErratumRow.bare (row : ErratumRow) : Erratum where
  id := row.id
  notice := row.notice
  cves := []
  packages := []
  modulePackages := []
  bugzillas := []
  references := []
  modules := []

/-- The erratum of a row that is the first one with its number. A package that belongs to several
streams is listed once. -/
def ErratumRow.linked (row : ErratumRow) (links : ErratumLinks) : Erratum where
  id := row.id
  notice := row.notice
  cves := links.cves.listAt row.id
  packages := links.packages.listAt row.id
  modulePackages := dropRepeats (links.modulePackages.listAt row.id)
  bugzillas := links.bugzillas.listAt row.id
  references := links.references.listAt row.id
  modules := links.modules.listAt row.id

structure CveLinks where
  weaknesses : Dict CveId (List String)
  packages : Dict CveId (List PackageId)
  errata : Dict CveId (List ErratumId)

def CveLinks.ofTables (t : Tables) : CveLinks where
  weaknesses := .group t.cveWeaknesses
  packages := .group t.cvePackages
  errata := .group (t.erratumCves.map Prod.swap)

/-- The vulnerability of a row that is not the first one with its number. -/
def CveRow.bare (row : CveRow) : Cve where
  id := row.id
  report := row.report
  weaknesses := []
  packages := []
  errata := []

/-- The vulnerability of a row that is the first one with its number. -/
def CveRow.linked (row : CveRow) (links : CveLinks) : Cve where
  id := row.id
  report := row.report
  weaknesses := stableSort compare (links.weaknesses.listAt row.id)
  packages := links.packages.listAt row.id
  errata := links.errata.listAt row.id

/-! ## Rows of the index -/

/-- The place that a row of the index names, if it is one. -/
def IndexRow.place? (r : IndexRow) : Option Nat :=
  if 0 ≤ r.order then some r.order.toNat else none

/-- The package at the place that a row of the index names. -/
def IndexRow.package? (versions : Dict NameId (List PackageId))
    (packages : Dict PackageId Package) (r : IndexRow) : Option Package := do
  packages[← (versions.listAt r.name)[← r.place?]?]?

/-- Whether a row of the index names a place that holds a package of its version. -/
def IndexRow.isFaithful (versions : Dict NameId (List PackageId))
    (packages : Dict PackageId Package) (r : IndexRow) : Bool :=
  (r.package? versions packages).any (·.evr = r.evr)

namespace Tables

/-! ## Errata and vulnerabilities by name -/

def errataByName (t : Tables) : Dict String Erratum :=
  let links := ErratumLinks.ofTables t
  .ofPairs ((markFirst (·.id) ∅ t.errata).map fun (row, first) =>
    (row.name, if first then row.linked links else row.bare))

def cvesByName (t : Tables) : Dict String Cve :=
  let links := CveLinks.ofTables t
  .ofPairs ((markFirst (·.id) ∅ t.cves).map fun (row, first) =>
    (row.name, if first then row.linked links else row.bare))

/-! ## The order of versions -/

def versionsByName (t : Tables) : Dict NameId (List PackageId) :=
  .group (t.updates.map fun r => (r.name, r.package))

/-- The number of places of a list that do not hold the number of the place. -/
def displaced (orders : List Int) : Nat :=
  (orders.zipIdx.filter fun (order, place) => order ≠ place).length

/-- The number of rows of the version table that do not stand at the place they name. -/
def misplacedVersions (t : Tables) : Nat :=
  ((Dict.group (t.updates.map fun r => (r.name, r.order))).toList.map
    fun (_, orders) => displaced orders).foldr (· + ·) 0

/-- The number of rows that break the order of versions. -/
def orderingViolations (t : Tables) : Nat :=
  let versions := t.versionsByName
  let packages := Dict.ofPairs t.packages
  t.misplacedVersions + (t.index.filter (!·.isFaithful versions packages)).length

/-! ## The whole catalogue -/

/-- The freshness record: the first row that is delivered. -/
def freshness? (t : Tables) : Option Freshness := t.freshness.head?.map (·.freshness)

def catalog (t : Tables) (freshness : Freshness) : Catalog where
  names := .ofPairs t.names
  nameIds := .ofPairs (t.names.map Prod.swap)
  evrs := .ofPairs t.evrs
  evrIds := .ofPairs (t.evrs.map Prod.swap)
  arches := .ofPairs t.arches
  archIds := .ofPairs (t.arches.map Prod.swap)
  replacements := .ofList t.archCompat
  texts := .ofPairs (t.texts.filterMap fun (id, s) => s.map (id, ·))
  packages := .ofPairs t.packages
  packageIds := .ofPairs (t.packages.map fun (id, p) => (p.key, id))
  binaries := .group (t.packages.filterMap fun (id, p) => p.source.map (·, id))
  versions := t.versionsByName
  positions := .group (t.index.filterMap fun r => r.place?.map ((r.name, r.evr), ·))
  repositories := .ofPairs t.repositories
  labelIds := .group (t.repositories.map fun (id, r) => (r.label, id))
  packageRepositories := .group t.packageRepositories
  errata := t.errataByName
  erratumNames := .ofPairs (t.errata.map fun r => (r.id, r.name))
  packageErrata := .group t.packageErrata
  erratumRepositories := .group t.erratumRepositories
  cves := t.cvesByName
  cveNames := .ofPairs (t.cves.map fun r => (r.id, r.name))
  pairStreams := .group (t.modular.map fun r => ((r.package, r.erratum), r.stream))
  streams := .group t.streams
  freshness := freshness
  orderingViolations := t.orderingViolations

end Tables

/-- Loads a snapshot: reads every table, then looks for the freshness record. -/
def Catalog.load (s : Snapshot) : Except LoadError Catalog := do
  let tables ← Tables.read s
  match tables.freshness? with
  | some freshness => return tables.catalog freshness
  | none => throw .noFreshness

end Advisory
