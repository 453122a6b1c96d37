import Advisory.Id
import Advisory.Number.Binary64
import Advisory.Package.Module
import Advisory.Time.Instant

/-!
# Records of the catalogue

What the catalogue knows about packages, repositories, errata and vulnerabilities. Records refer to
each other by number.
-/

namespace Advisory

open Time (Instant)

/-- A package: what it is called, by number, its texts, and the source package it was built from. -/
structure Package where
  name : NameId
  evr : EvrId
  arch : ArchId
  summary : TextId
  description : TextId
  source : Option PackageId
deriving DecidableEq, Repr

/-- The numbers that a package identifier stands for. -/
structure PackageKey where
  name : NameId
  evr : EvrId
  arch : ArchId
deriving DecidableEq, Repr

namespace PackageKey

/-- Keys are ordered by name, version and architecture, as numbers. -/
instance : Ord PackageKey where
  compare := compareLex (compareOn name) (compareLex (compareOn evr) (compareOn arch))

instance : Std.TransOrd PackageKey :=
  inferInstanceAs (Std.TransCmp
    (compareLex (compareOn name) (compareLex (compareOn evr) (compareOn arch))))

instance : Std.LawfulEqOrd PackageKey where
  eq_of_compare {a b} h := by
    obtain ⟨an, ae, aa⟩ := a
    obtain ⟨bn, be, ba⟩ := b
    have h' : ((compare an bn).then ((compare ae be).then (compare aa ba))) = .eq := h
    rw [Ordering.then_eq_eq, Ordering.then_eq_eq] at h'
    obtain ⟨h1, h2, h3⟩ := h'
    cases Std.LawfulEqCmp.eq_of_compare h1
    cases Std.LawfulEqCmp.eq_of_compare h2
    cases Std.LawfulEqCmp.eq_of_compare h3
    rfl

end PackageKey

def Package.key (p : Package) : PackageKey := ⟨p.name, p.evr, p.arch⟩

/-- A repository. Several may share a label, one for each architecture and release. -/
structure Repository where
  label : String
  name : String
  url : String
  basearch : Option String
  releasever : Option String
  product : String
  productId : Int
  revision : Option Instant
deriving DecidableEq, Repr

structure Notice where
  synopsis : String
  summary : Option String
  /-- Security, bugfix, enhancement or any other word. -/
  kind : String
  severity : Option String
  description : Option String
  solution : Option String
  issued : Option Instant
  updated : Option Instant
  url : String
deriving DecidableEq, Repr

/-- An erratum: what it says, and what it is about. -/
structure Erratum where
  id : ErratumId
  notice : Notice
  cves : List CveId
  packages : List PackageId
  /-- The packages it ships as parts of modules. -/
  modulePackages : List PackageId
  bugzillas : List String
  references : List String
  modules : List ModuleBuild
deriving DecidableEq, Repr

/-- An erratum concerns security if it says so or fixes a vulnerability. -/
def Erratum.isSecurity (e : Erratum) : Bool :=
  e.notice.kind = "security" || !e.cves.isEmpty

structure Report where
  redhatUrl : Option String
  secondaryUrl : Option String
  cvss3Score : Option Binary64
  cvss3Metrics : Option String
  impact : String
  published : Option Instant
  modified : Option Instant
  iava : Option String
  description : String
  cvss2Score : Option Binary64
  cvss2Metrics : Option String
  source : String
deriving DecidableEq, Repr

/-- A vulnerability: what is reported about it, and what it concerns. -/
structure Cve where
  id : CveId
  report : Report
  /-- The kinds of weakness behind it, in order. -/
  weaknesses : List String
  packages : List PackageId
  errata : List ErratumId
deriving DecidableEq, Repr

/-- When the parts of a snapshot last changed, and when it was exported. -/
structure Freshness where
  errataChanges : Instant
  cveChanges : Instant
  repositoryChanges : Instant
  lastChange : Instant
  exported : Instant
deriving DecidableEq, Repr

end Advisory
