import Advisory.Catalog.Basic
import Advisory.Catalog.Freshness
import Advisory.Package.Encoded

/-!
# Listing a catalogue

Every part of a catalogue can be listed as JSON. A dictionary is an array of pairs in the order of
its keys; a list keeps its order; what is absent is null.
-/

namespace Advisory

namespace Json

def ofId (id : Id kind) : Json := integer id.value

def ofIds (ids : List (Id kind)) : Json := array (ids.map ofId)

def pair (a b : Json) : Json := array [a, b]

def ofDict [Ord κ] [Std.TransOrd κ] (key : κ → Json) (value : α → Json) (d : Dict κ α) : Json :=
  array (d.toList.map fun (k, v) => pair (key k) (value v))

/-- A date, or null. -/
def ofDate? (date : Option Time.Instant) : Json := ofText? (date.map Time.Instant.render)

/-- A score, or null. -/
def ofScore? (score : Option Binary64) : Json := ofText? (score.map fun x => x.fixed 3)

def ofEvr (e : Evr) : Json := array [integer e.epoch, text e.version, text e.release]

def ofStream (s : ModuleStream) : Json := array [text s.module, text s.stream]

end Json

def Repository.listing (r : Repository) : Json :=
  .object [("label", .text r.label), ("name", .text r.name), ("url", .text r.url),
    ("basearch", .ofText? r.basearch), ("releasever", .ofText? r.releasever),
    ("product", .text r.product), ("product_id", .integer r.productId),
    ("revision", .ofDate? r.revision)]

def Erratum.listing (e : Erratum) : Json :=
  .object [("id", .ofId e.id), ("synopsis", .text e.notice.synopsis),
    ("summary", .ofText? e.notice.summary), ("kind", .text e.notice.kind),
    ("severity", .ofText? e.notice.severity), ("description", .ofText? e.notice.description),
    ("solution", .ofText? e.notice.solution), ("issued", .ofDate? e.notice.issued),
    ("updated", .ofDate? e.notice.updated), ("url", .text e.notice.url), ("cves", .ofIds e.cves),
    ("pkg_ids", .ofIds e.packages), ("module_pkg_ids", .ofIds e.modulePackages),
    ("bugzillas", .ofTexts e.bugzillas), ("refs", .ofTexts e.references),
    ("modules", .array (e.modules.map ModuleBuild.toJson)), ("is_security", .bool e.isSecurity)]

def Cve.listing (v : Cve) : Json :=
  .object [("id", .ofId v.id), ("redhat_url", .ofText? v.report.redhatUrl),
    ("secondary_url", .ofText? v.report.secondaryUrl),
    ("cvss3_score", .ofScore? v.report.cvss3Score),
    ("cvss3_metrics", .ofText? v.report.cvss3Metrics), ("impact", .text v.report.impact),
    ("published_date", .ofDate? v.report.published),
    ("modified_date", .ofDate? v.report.modified), ("iava", .ofText? v.report.iava),
    ("description", .text v.report.description), ("cvss2_score", .ofScore? v.report.cvss2Score),
    ("cvss2_metrics", .ofText? v.report.cvss2Metrics), ("source", .text v.report.source),
    ("cwes", .ofTexts v.weaknesses), ("pkg_ids", .ofIds v.packages),
    ("errata_ids", .ofIds v.errata)]

namespace Catalog

/-- A package with all its fields and its written identifier. -/
def packageListing (c : Catalog) (p : Package) : Json :=
  .object [("name_id", .ofId p.name), ("evr_id", .ofId p.evr), ("arch_id", .ofId p.arch),
    ("summary_id", .ofId p.summary), ("description_id", .ofId p.description),
    ("src_pkg_id", (p.source.map Json.ofId).getD .null), ("nevra", .text (c.written p))]

/-- The places of versions, by name and then by version. -/
def positionsByName (c : Catalog) : Dict NameId (List (EvrId × List Nat)) :=
  .group (c.positions.toList.map fun ((name, evr), places) => (name, (evr, places)))

/-- The parts of a catalogue under their names. -/
def parts : List (String × (Catalog → Json)) := [
  ("name_ids", fun c => .ofDict .text .ofId c.nameIds),
  ("names", fun c => .ofDict .ofId .text c.names),
  ("updates", fun c => .ofDict .ofId .ofIds c.versions),
  ("updates_index", fun c => .ofDict .ofId (fun evrs => .array (evrs.map fun (evr, places) =>
    .pair (.ofId evr) (.array (places.map .ofNat)))) c.positionsByName),
  ("evr_ids", fun c => .ofDict .ofEvr .ofId c.evrIds),
  ("evrs", fun c => .ofDict .ofId .ofEvr c.evrs),
  ("arch_ids", fun c => .ofDict .text .ofId c.archIds),
  ("arches", fun c => .ofDict .ofId .text c.arches),
  ("arch_compat", fun c => .ofDict .ofId .ofIds (Dict.group c.replacements.toList)),
  ("packages", fun c => .ofDict .ofId c.packageListing c.packages),
  ("nevra_pkg_ids", fun c => .array (c.packageIds.toList.map fun (key, id) =>
    .array [.ofId key.name, .ofId key.evr, .ofId key.arch, .ofId id])),
  ("src_binaries", fun c => .ofDict .ofId .ofIds c.binaries),
  ("repos", fun c => .ofDict .ofId Repository.listing c.repositories),
  ("repo_label_ids", fun c => .ofDict .text .ofIds c.labelIds),
  ("pkg_repos", fun c => .ofDict .ofId .ofIds c.packageRepositories),
  ("errata", fun c => .ofDict .text Erratum.listing c.errata),
  ("errata_names", fun c => .ofDict .ofId .text c.erratumNames),
  ("pkg_errata", fun c => .ofDict .ofId .ofIds c.packageErrata),
  ("errata_repos", fun c => .ofDict .ofId .ofIds c.erratumRepositories),
  ("cves", fun c => .ofDict .text Cve.listing c.cves),
  ("cve_names", fun c => .ofDict .ofId .text c.cveNames),
  ("pkg_errata_streams", fun c => .ofDict (fun (package, erratum) =>
    .pair (.ofId package) (.ofId erratum)) .ofIds c.pairStreams),
  ("module_streams", fun c => .ofDict .ofStream .ofIds c.streams),
  ("strings", fun c => .ofDict .ofId .text c.texts),
  ("dbchange", fun c => c.freshness.toJson),
  ("ordering_violations", fun c => .ofNat c.orderingViolations)]

/-- The parts of a catalogue that are asked for, all of them if none are named. -/
def listing (c : Catalog) (wanted : Option (List String)) : Json :=
  let chosen := parts.filter fun (name, _) => wanted.all (·.contains name)
  .object (chosen.map fun (name, list) => (name, list c))

end Catalog

end Advisory
