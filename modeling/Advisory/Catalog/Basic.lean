import Advisory.Catalog.Records
import Advisory.Dict
import Advisory.Package.Written

/-!
# The catalogue

A catalogue is a snapshot arranged for lookups. It is built once and never changed; a newer snapshot
gives another catalogue. Records refer to each other by number, and nothing promises that a number
has a record, so every lookup may find nothing, and what an answer shows is then empty or left out.

Which of two packages is newer is never computed. Under a name stand its packages from the oldest to
the newest, and `positions` says where among them a version stands.
-/

namespace Advisory

/-- A snapshot arranged for lookups. -/
structure Catalog where
  names : Dict NameId String
  nameIds : Dict String NameId
  evrs : Dict EvrId Evr
  evrIds : Dict Evr EvrId
  arches : Dict ArchId String
  archIds : Dict String ArchId
  /-- Pairs of an installed architecture and one that may replace it. -/
  replacements : Std.ExtTreeSet (ArchId × ArchId)
  texts : Dict TextId String
  packages : Dict PackageId Package
  packageIds : Dict PackageKey PackageId
  /-- The packages built from a source package. -/
  binaries : Dict PackageId (List PackageId)
  /-- The packages of a name, from the oldest to the newest. -/
  versions : Dict NameId (List PackageId)
  /-- Where among the packages of a name those of a version stand. -/
  positions : Dict (NameId × EvrId) (List Nat)
  repositories : Dict RepositoryId Repository
  labelIds : Dict String (List RepositoryId)
  packageRepositories : Dict PackageId (List RepositoryId)
  errata : Dict String Erratum
  erratumNames : Dict ErratumId String
  packageErrata : Dict PackageId (List ErratumId)
  erratumRepositories : Dict ErratumId (List RepositoryId)
  cves : Dict String Cve
  cveNames : Dict CveId String
  /-- The streams that a package of an erratum is part of. -/
  pairStreams : Dict (PackageId × ErratumId) (List StreamId)
  streams : Dict ModuleStream (List StreamId)
  freshness : Freshness
  /-- The number of rows that break the order of versions. -/
  orderingViolations : Nat

namespace Catalog

/-! ## Texts -/

/-- A shared text, empty if it is not known. -/
def text (c : Catalog) (id : TextId) : String := c.texts[id]?.getD ""

/-- The identifier of a package. Parts that are not known are empty, the epoch is then zero. -/
def nevra (c : Catalog) (p : Package) : Nevra :=
  .ofParts (c.names[p.name]?.getD "") (c.evrs[p.evr]?.getD default) (c.arches[p.arch]?.getD "")

def written (c : Catalog) (p : Package) : String := (c.nevra p).render

def written? (c : Catalog) (id : PackageId) : Option String := c.packages[id]?.map c.written

/-! ## Packages -/

def isSource (c : Catalog) (p : Package) : Bool := c.arches[p.arch]? = some "src"

/-- Whether a package of one architecture may be replaced by one of another. -/
def mayReplace (c : Catalog) (installed candidate : ArchId) : Bool :=
  c.replacements.contains (installed, candidate)

/-- The numbers that the parts of an identifier stand for. -/
def key? (c : Catalog) (n : Nevra) : Option PackageKey := do
  return ⟨← c.nameIds[n.name]?, ← c.evrIds[n.evr]?, ← c.archIds[n.arch]?⟩

def find? (c : Catalog) (n : Nevra) : Option PackageId := do
  c.packageIds[← c.key? n]?

/-- The repositories with some numbers, as far as they are known. -/
def repositoriesWith (c : Catalog) (ids : List RepositoryId) : List Repository :=
  ids.filterMap (c.repositories[·]?)

def repositoriesOf (c : Catalog) (id : PackageId) : List Repository :=
  c.repositoriesWith (c.packageRepositories.listAt id)

/-- The written identifiers of the packages among some numbers: of those that are no source packages,
and of those that are. -/
def splitBySource (c : Catalog) (ids : List PackageId) : List String × List String :=
  let known := ids.filterMap (c.packages[·]?)
  ((known.filter (!c.isSource ·)).map c.written, (known.filter c.isSource).map c.written)

/-! ## Errata and vulnerabilities -/

def erratum? (c : Catalog) (id : ErratumId) : Option (String × Erratum) := do
  let name ← c.erratumNames[id]?
  return (name, ← c.errata[name]?)

def cveNamesOf (c : Catalog) (e : Erratum) : List String := e.cves.filterMap (c.cveNames[·]?)

def erratumNamesOf (c : Catalog) (v : Cve) : List String := v.errata.filterMap (c.erratumNames[·]?)

end Catalog

end Advisory
