import Advisory.Catalog.Basic
import Advisory.Query.Named

/-!
# Vulnerabilities by name
-/

namespace Advisory

open Time (Instant isAfter renderDate)

structure CvesRequest where
  names : Option (List String)
  /-- Only those modified or published after this. -/
  modifiedSince : Option Instant
  /-- Only those published after this. -/
  publishedSince : Option Instant
  /-- Only those that Red Hat reports. -/
  redHatOnly : Bool
  paging : Paging
deriving DecidableEq, Repr

/-- What is answered about a vulnerability. -/
structure CveEntry where
  impact : String
  synopsis : String
  description : String
  published : String
  modified : String
  redhatUrl : String
  secondaryUrl : String
  cvss2Score : String
  cvss2Metrics : String
  cvss3Score : String
  cvss3Metrics : String
  weaknesses : List String
  errata : List String
  packages : List String
  sourcePackages : List String
deriving DecidableEq, Repr

structure CvesAnswer where
  info : PageInfo
  entries : List (String × CveEntry)
  modifiedSince : Option Instant
  publishedSince : Option Instant
deriving DecidableEq, Repr

namespace CvesRequest

/-- The source of the reports of Red Hat. -/
def redHat : String := "Red Hat"

def ofJson? (json : Json) : Option CvesRequest := do
  let f ← json.fields?
  return {
    names := ← f.optional "cve_list" (Json.asList? Json.asText?)
    modifiedSince := ← f.optional "modified_since" Json.asDate?
    publishedSince := ← f.optional "published_since" Json.asDate?
    redHatOnly := ← f.withDefault "rh_only" false Json.asBool?
    paging := ← Paging.ofFields? f }

def validate (r : CvesRequest) : Except Failure Unit := requireList r.names "cve_list"

def passes (r : CvesRequest) (v : Cve) : Bool :=
  (r.modifiedSince.all fun t => isAfter v.report.modified t || isAfter v.report.published t) &&
  (r.publishedSince.all fun t => isAfter v.report.published t) &&
  (!r.redHatOnly || v.report.source = redHat)

end CvesRequest

/-- What is answered about a vulnerability with a name. -/
def Catalog.cveEntry (c : Catalog) (name : String) (v : Cve) : CveEntry :=
  let (packages, sourcePackages) := c.splitBySource v.packages
  { impact := v.report.impact
    synopsis := name
    description := v.report.description
    published := renderDate v.report.published
    modified := renderDate v.report.modified
    redhatUrl := v.report.redhatUrl.getD ""
    secondaryUrl := v.report.secondaryUrl.getD ""
    cvss2Score := renderScore v.report.cvss2Score
    cvss2Metrics := v.report.cvss2Metrics.getD ""
    cvss3Score := renderScore v.report.cvss3Score
    cvss3Metrics := v.report.cvss3Metrics.getD ""
    weaknesses := v.weaknesses
    errata := c.erratumNamesOf v
    packages
    sourcePackages }

def CvesRequest.answer (r : CvesRequest) (c : Catalog) : Except Failure CvesAnswer := do
  let found ← select c.cves (r.names.getD []) r.passes r.paging
  return {
    info := found.info
    entries := found.entries.map fun (name, v) => (name, c.cveEntry name v)
    modifiedSince := r.modifiedSince
    publishedSince := r.publishedSince }

def CveEntry.toJson (e : CveEntry) : Json :=
  .object [("impact", .text e.impact), ("synopsis", .text e.synopsis),
    ("description", .text e.description), ("public_date", .text e.published),
    ("modified_date", .text e.modified), ("redhat_url", .text e.redhatUrl),
    ("secondary_url", .text e.secondaryUrl), ("cvss2_score", .text e.cvss2Score),
    ("cvss2_metrics", .text e.cvss2Metrics), ("cvss3_score", .text e.cvss3Score),
    ("cvss3_metrics", .text e.cvss3Metrics), ("cwe_list", .ofTexts e.weaknesses),
    ("errata_list", .ofTexts e.errata), ("package_list", .ofTexts e.packages),
    ("source_package_list", .ofTexts e.sourcePackages)]

/-- An answer as an object. The limits of the request are repeated where it had any. -/
def CvesAnswer.toJson (a : CvesAnswer) : Json :=
  .object (a.info.members ++
    [("cve_list", .object (a.entries.map fun (name, e) => (name, e.toJson)))] ++
    Json.given "modified_since" (a.modifiedSince.map fun t => .text t.render) ++
    Json.given "published_since" (a.publishedSince.map fun t => .text t.render))

end Advisory
