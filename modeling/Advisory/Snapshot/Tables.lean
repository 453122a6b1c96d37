import Advisory.Catalog.Records
import Advisory.Package.Basic
import Advisory.Snapshot.Layout

/-!
# The tables that are read

One layout for each of the twenty-three tables, and the record of what all of them hold. The tables
are read in a fixed order, which `Tables.read` spells out: the first one that cannot be read is the
one an error names.
-/

namespace Advisory

/-! ## Shapes that several tables share -/

/-- The table of links between two kinds of record, delivered by both numbers. -/
def Layout.link (table : String) (a b : Numbered) (left right : String) :
    Layout (Id a × Id b) where
  table := table
  columns := [⟨left, .id a, false⟩, ⟨right, .id b, false⟩]
  order := [left, right]
  build := fun (x, y, _) => (x, y)
  compare := compareLex (compareOn (·.1)) (compareOn (·.2))

/-- The table of texts that belong to a kind of record, delivered by number and text. -/
def Layout.texts (table : String) (a : Numbered) (owner text : String) :
    Layout (Id a × String) where
  table := table
  columns := [⟨owner, .id a, false⟩, ⟨text, .text, false⟩]
  order := [owner, text]
  build := fun (x, s, _) => (x, s)
  compare := compareLex (compareOn (·.1)) (compareOn (·.2))

/-- The table of the words that a kind of record is called by, delivered by number. -/
def Layout.words (table : String) (a : Numbered) (text : String) : Layout (Id a × String) where
  table := table
  columns := [⟨"id", .id a, false⟩, ⟨text, .text, false⟩]
  order := ["id"]
  build := fun (x, s, _) => (x, s)
  compare := compareOn (·.1)

/-! ## Packages -/

def nameLayout : Layout (NameId × String) := .words "packagename" .name "packagename"

def evrLayout : Layout (EvrId × Evr) where
  table := "evr"
  columns := [⟨"id", .id .evr, false⟩, ⟨"epoch", .integer, false⟩, ⟨"version", .text, false⟩,
    ⟨"release", .text, false⟩]
  order := ["id"]
  build := fun (id, epoch, version, release, _) => (id, ⟨epoch, version, release⟩)
  compare := compareOn (·.1)

def archLayout : Layout (ArchId × String) := .words "arch" .arch "arch"

/-- Which architecture may be replaced by which. -/
def archCompatLayout : Layout (ArchId × ArchId) :=
  .link "arch_compat" .arch .arch "from_arch_id" "to_arch_id"

def textLayout : Layout (TextId × Option String) where
  table := "string"
  columns := [⟨"id", .id .text, false⟩, ⟨"string", .text, true⟩]
  order := ["id"]
  build := fun (id, s, _) => (id, s)
  compare := compareOn (·.1)

def packageLayout : Layout (PackageId × Package) where
  table := "package_detail"
  columns := [⟨"id", .id .package, false⟩, ⟨"name_id", .id .name, false⟩,
    ⟨"evr_id", .id .evr, false⟩, ⟨"arch_id", .id .arch, false⟩,
    ⟨"summary_id", .id .text, false⟩, ⟨"description_id", .id .text, false⟩,
    ⟨"source_package_id", .id .package, true⟩]
  order := ["id"]
  build := fun (id, name, evr, arch, summary, description, source, _) =>
    (id, ⟨name, evr, arch, summary, description, source⟩)
  compare := compareOn (·.1)

/-- A place of a package among the versions of its name. -/
structure UpdateRow where
  name : NameId
  package : PackageId
  order : Int
deriving DecidableEq, Repr

/-- The packages of every name from the oldest to the newest. -/
def updateLayout : Layout UpdateRow where
  table := "updates"
  columns := [⟨"name_id", .id .name, false⟩, ⟨"package_id", .id .package, false⟩,
    ⟨"package_order", .integer, false⟩]
  order := ["name_id", "package_order"]
  build := fun (name, package, order, _) => ⟨name, package, order⟩
  compare := compareLex (compareOn (·.name)) (compareOn (·.order))

/-- A place of a version among the versions of a name. -/
structure IndexRow where
  name : NameId
  evr : EvrId
  order : Int
deriving DecidableEq, Repr

/-- Where the versions stand among the packages of a name. -/
def indexLayout : Layout IndexRow where
  table := "updates_index"
  columns := [⟨"name_id", .id .name, false⟩, ⟨"evr_id", .id .evr, false⟩,
    ⟨"package_order", .integer, false⟩]
  order := ["name_id", "package_order"]
  build := fun (name, evr, order, _) => ⟨name, evr, order⟩
  compare := compareLex (compareOn (·.name)) (compareOn (·.order))

/-! ## Repositories -/

def repositoryLayout : Layout (RepositoryId × Repository) where
  table := "repo_detail"
  columns := [⟨"id", .id .repository, false⟩, ⟨"label", .text, false⟩, ⟨"name", .text, false⟩,
    ⟨"url", .text, false⟩, ⟨"basearch", .text, true⟩, ⟨"releasever", .text, true⟩,
    ⟨"product", .text, false⟩, ⟨"product_id", .integer, false⟩, ⟨"revision", .date, true⟩]
  order := ["id"]
  build := fun (id, label, name, url, basearch, releasever, product, productId, revision, _) =>
    (id, ⟨label, name, url, basearch, releasever, product, productId, revision⟩)
  compare := compareOn (·.1)

/-- Which repository ships which package. -/
def packageRepositoryLayout : Layout (PackageId × RepositoryId) :=
  .link "pkg_repo" .package .repository "pkg_id" "repo_id"

/-! ## Errata -/

/-- Which erratum ships which package. -/
def packageErratumLayout : Layout (PackageId × ErratumId) :=
  .link "pkg_errata" .package .erratum "pkg_id" "errata_id"

/-- In which repositories an erratum was released. -/
def erratumRepositoryLayout : Layout (ErratumId × RepositoryId) :=
  .link "errata_repo" .erratum .repository "errata_id" "repo_id"

/-- Which vulnerabilities an erratum fixes. -/
def erratumCveLayout : Layout (ErratumId × CveId) :=
  .link "errata_cve" .erratum .cve "errata_id" "cve_id"

/-- The bug reports that an erratum resolves. -/
def erratumBugzillaLayout : Layout (ErratumId × String) :=
  .texts "errata_bugzilla" .erratum "errata_id" "bugzilla"

/-- The references that an erratum gives. -/
def erratumReferenceLayout : Layout (ErratumId × String) :=
  .texts "errata_refs" .erratum "errata_id" "ref"

/-- The builds of modules that an erratum ships. -/
def erratumModuleLayout : Layout (ErratumId × ModuleBuild) where
  table := "errata_module"
  columns := [⟨"errata_id", .id .erratum, false⟩, ⟨"module_name", .text, false⟩,
    ⟨"module_stream", .text, false⟩, ⟨"module_version", .text, false⟩,
    ⟨"module_context", .text, false⟩]
  order := ["errata_id", "module_name", "module_stream"]
  build := fun (id, name, stream, version, context, _) => (id, ⟨name, stream, version, context⟩)
  compare :=
    compareLex (compareOn (·.1)) (compareLex (compareOn (·.2.name)) (compareOn (·.2.stream)))

/-- A package that an erratum ships as part of a stream of a module. -/
structure ModularRow where
  erratum : ErratumId
  stream : StreamId
  package : PackageId
deriving DecidableEq, Repr

/-- The packages that errata ship as parts of modules. -/
def modularLayout : Layout ModularRow where
  table := "errata_modulepkg"
  columns := [⟨"errata_id", .id .erratum, false⟩, ⟨"module_stream_id", .id .stream, false⟩,
    ⟨"pkg_id", .id .package, false⟩]
  order := ["pkg_id", "errata_id", "module_stream_id"]
  build := fun (erratum, stream, package, _) => ⟨erratum, stream, package⟩
  compare :=
    compareLex (compareOn (·.package)) (compareLex (compareOn (·.erratum)) (compareOn (·.stream)))

/-- An erratum under its number and its name. -/
structure ErratumRow where
  id : ErratumId
  name : String
  notice : Notice
deriving DecidableEq, Repr

def erratumLayout : Layout ErratumRow where
  table := "errata_detail"
  columns := [⟨"id", .id .erratum, false⟩, ⟨"name", .text, false⟩, ⟨"synopsis", .text, false⟩,
    ⟨"summary", .text, true⟩, ⟨"type", .text, false⟩, ⟨"severity", .text, true⟩,
    ⟨"description", .text, true⟩, ⟨"solution", .text, true⟩, ⟨"issued", .date, true⟩,
    ⟨"updated", .date, true⟩, ⟨"url", .text, false⟩]
  order := ["id"]
  build := fun (id, name, synopsis, summary, kind, severity, description, solution, issued, updated,
      url, _) =>
    ⟨id, name, synopsis, summary, kind, severity, description, solution, issued, updated, url⟩
  compare := compareOn (·.id)

/-! ## Vulnerabilities -/

/-- The weaknesses behind a vulnerability. -/
def cveWeaknessLayout : Layout (CveId × String) := .texts "cve_cwe" .cve "cve_id" "cwe"

/-- The packages that a vulnerability concerns. -/
def cvePackageLayout : Layout (CveId × PackageId) :=
  .link "cve_pkg" .cve .package "cve_id" "pkg_id"

/-- A vulnerability under its number and its name. -/
structure CveRow where
  id : CveId
  name : String
  report : Report
deriving DecidableEq, Repr

/-- What is reported about vulnerabilities. Impact, description and source are empty texts where they
are not given. -/
def cveLayout : Layout CveRow where
  table := "cve_detail"
  columns := [⟨"id", .id .cve, false⟩, ⟨"name", .text, false⟩, ⟨"redhat_url", .text, true⟩,
    ⟨"secondary_url", .text, true⟩, ⟨"cvss3_score", .real, true⟩, ⟨"cvss3_metrics", .text, true⟩,
    ⟨"impact", .text, true⟩, ⟨"published_date", .date, true⟩, ⟨"modified_date", .date, true⟩,
    ⟨"iava", .text, true⟩, ⟨"description", .text, true⟩, ⟨"cvss2_score", .real, true⟩,
    ⟨"cvss2_metrics", .text, true⟩, ⟨"source", .text, true⟩]
  order := ["id"]
  build := fun (id, name, redhatUrl, secondaryUrl, cvss3Score, cvss3Metrics, impact, published,
      modified, iava, description, cvss2Score, cvss2Metrics, source, _) =>
    ⟨id, name, redhatUrl, secondaryUrl, cvss3Score, cvss3Metrics, impact.getD "", published,
      modified, iava, description.getD "", cvss2Score, cvss2Metrics, source.getD ""⟩
  compare := compareOn (·.id)

/-! ## Modules and freshness -/

/-- The builds of every stream. -/
def streamLayout : Layout (ModuleStream × StreamId) where
  table := "module_stream"
  columns := [⟨"stream_id", .id .stream, false⟩, ⟨"module", .text, false⟩,
    ⟨"stream", .text, false⟩]
  order := ["module", "stream", "stream_id"]
  build := fun (id, module, stream, _) => (⟨module, stream⟩, id)
  compare := compareLex (compareOn (·.1)) (compareOn (·.2))

/-- A freshness record and how the time of its export is spelled. -/
structure FreshnessRow where
  freshness : Freshness
  spelling : String
deriving DecidableEq, Repr

/-- When the snapshot changed. Rows are delivered by the spelling of the export, the greatest first. -/
def freshnessLayout : Layout FreshnessRow where
  table := "dbchange"
  columns := [⟨"errata_changes", .date, false⟩, ⟨"cve_changes", .date, false⟩,
    ⟨"repository_changes", .date, false⟩, ⟨"last_change", .date, false⟩,
    ⟨"exported", .stamp, false⟩]
  order := ["exported"]
  build := fun (errata, cves, repositories, last, exported, _) =>
    ⟨⟨errata, cves, repositories, last, exported.instant⟩, exported.spelling⟩
  compare := fun a b => Ord.compare b.spelling a.spelling

/-! ## All tables -/

/-- What the tables of a snapshot hold, each in the order of delivery. -/
structure Tables where
  names : List (NameId × String)
  evrs : List (EvrId × Evr)
  arches : List (ArchId × String)
  archCompat : List (ArchId × ArchId)
  texts : List (TextId × Option String)
  packages : List (PackageId × Package)
  updates : List UpdateRow
  index : List IndexRow
  repositories : List (RepositoryId × Repository)
  packageRepositories : List (PackageId × RepositoryId)
  packageErrata : List (PackageId × ErratumId)
  erratumRepositories : List (ErratumId × RepositoryId)
  erratumCves : List (ErratumId × CveId)
  erratumBugzillas : List (ErratumId × String)
  erratumReferences : List (ErratumId × String)
  erratumModules : List (ErratumId × ModuleBuild)
  modular : List ModularRow
  errata : List ErratumRow
  cveWeaknesses : List (CveId × String)
  cvePackages : List (CveId × PackageId)
  cves : List CveRow
  streams : List (ModuleStream × StreamId)
  freshness : List FreshnessRow
deriving DecidableEq, Repr

/-- Reads all tables, one after the other. -/
def Tables.read (s : Snapshot) : Except LoadError Tables := do
  return {
    names := ← nameLayout.read s
    evrs := ← evrLayout.read s
    arches := ← archLayout.read s
    archCompat := ← archCompatLayout.read s
    texts := ← textLayout.read s
    packages := ← packageLayout.read s
    updates := ← updateLayout.read s
    index := ← indexLayout.read s
    repositories := ← repositoryLayout.read s
    packageRepositories := ← packageRepositoryLayout.read s
    packageErrata := ← packageErratumLayout.read s
    erratumRepositories := ← erratumRepositoryLayout.read s
    erratumCves := ← erratumCveLayout.read s
    erratumBugzillas := ← erratumBugzillaLayout.read s
    erratumReferences := ← erratumReferenceLayout.read s
    erratumModules := ← erratumModuleLayout.read s
    modular := ← modularLayout.read s
    errata := ← erratumLayout.read s
    cveWeaknesses := ← cveWeaknessLayout.read s
    cvePackages := ← cvePackageLayout.read s
    cves := ← cveLayout.read s
    streams := ← streamLayout.read s
    freshness := ← freshnessLayout.read s }

/-- The tables in the order they are read, each with its columns as they are usually stored. -/
def standardColumns : List (String × List String) := [
  (nameLayout.table, nameLayout.columnNames),
  (evrLayout.table, evrLayout.columnNames),
  (archLayout.table, archLayout.columnNames),
  (archCompatLayout.table, archCompatLayout.columnNames),
  (textLayout.table, textLayout.columnNames),
  (packageLayout.table, packageLayout.columnNames),
  (updateLayout.table, updateLayout.columnNames),
  (indexLayout.table, indexLayout.columnNames),
  (repositoryLayout.table, repositoryLayout.columnNames),
  (packageRepositoryLayout.table, packageRepositoryLayout.columnNames),
  (packageErratumLayout.table, packageErratumLayout.columnNames),
  (erratumRepositoryLayout.table, erratumRepositoryLayout.columnNames),
  (erratumCveLayout.table, erratumCveLayout.columnNames),
  (erratumBugzillaLayout.table, erratumBugzillaLayout.columnNames),
  (erratumReferenceLayout.table, erratumReferenceLayout.columnNames),
  (erratumModuleLayout.table, erratumModuleLayout.columnNames),
  (modularLayout.table, modularLayout.columnNames),
  (erratumLayout.table, erratumLayout.columnNames),
  (cveWeaknessLayout.table, cveWeaknessLayout.columnNames),
  (cvePackageLayout.table, cvePackageLayout.columnNames),
  (cveLayout.table, cveLayout.columnNames),
  (streamLayout.table, streamLayout.columnNames),
  (freshnessLayout.table, freshnessLayout.columnNames)]

end Advisory
