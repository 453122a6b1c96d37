import Advisory.Catalog.Basic
import Advisory.Package.Encoded
import Advisory.Query.Named

/-!
# Errata by name
-/

namespace Advisory

open Time (Instant isAfter renderDate)

structure ErrataRequest where
  names : Option (List String)
  /-- Only those updated or issued after this. -/
  modifiedSince : Option Instant
  paging : Paging
deriving DecidableEq, Repr

/-- What is answered about an erratum. -/
structure ErratumEntry where
  severity : Option String
  kind : String
  references : List String
  updated : String
  issued : String
  description : Option String
  summary : Option String
  solution : Option String
  url : String
  synopsis : String
  cves : List String
  bugzillas : List String
  packages : List String
  sourcePackages : List String
  modules : List ModuleBuild
deriving DecidableEq, Repr

structure ErrataAnswer where
  info : PageInfo
  entries : List (String × ErratumEntry)
  modifiedSince : Option Instant
deriving DecidableEq, Repr

namespace ErrataRequest

def ofJson? (json : Json) : Option ErrataRequest := do
  let f ← json.fields?
  return {
    names := ← f.optional "errata_list" (Json.asList? Json.asText?)
    modifiedSince := ← f.optional "modified_since" Json.asDate?
    paging := ← Paging.ofFields? f }

def validate (r : ErrataRequest) : Except Failure Unit := requireList r.names "errata_list"

def passes (r : ErrataRequest) (e : Erratum) : Bool :=
  r.modifiedSince.all fun t => isAfter e.notice.updated t || isAfter e.notice.issued t

end ErrataRequest

/-- What is answered about an erratum. -/
def Catalog.erratumEntry (c : Catalog) (e : Erratum) : ErratumEntry :=
  let (packages, sourcePackages) := c.splitBySource e.packages
  { severity := e.notice.severity
    kind := e.notice.kind
    references := e.references
    updated := renderDate e.notice.updated
    issued := renderDate e.notice.issued
    description := e.notice.description
    summary := e.notice.summary
    solution := e.notice.solution
    url := e.notice.url
    synopsis := e.notice.synopsis
    cves := c.cveNamesOf e
    bugzillas := e.bugzillas
    packages
    sourcePackages
    modules := e.modules }

def ErrataRequest.answer (r : ErrataRequest) (c : Catalog) : Except Failure ErrataAnswer := do
  let found ← select c.errata (r.names.getD []) r.passes r.paging
  return {
    info := found.info
    entries := found.entries.map fun (name, e) => (name, c.erratumEntry e)
    modifiedSince := r.modifiedSince }

def ErratumEntry.toJson (e : ErratumEntry) : Json :=
  .object [("severity", .ofText? e.severity), ("type", .text e.kind),
    ("reference_list", .ofTexts e.references), ("updated", .text e.updated),
    ("issued", .text e.issued), ("description", .ofText? e.description),
    ("summary", .ofText? e.summary), ("solution", .ofText? e.solution), ("url", .text e.url),
    ("synopsis", .text e.synopsis), ("cve_list", .ofTexts e.cves),
    ("bugzilla_list", .ofTexts e.bugzillas), ("package_list", .ofTexts e.packages),
    ("source_package_list", .ofTexts e.sourcePackages),
    ("modules_list", .array (e.modules.map ModuleBuild.toJson))]

def ErrataAnswer.toJson (a : ErrataAnswer) : Json :=
  .object (a.info.members ++
    [("errata_list", .object (a.entries.map fun (name, e) => (name, e.toJson)))] ++
    Json.given "modified_since" (a.modifiedSince.map fun t => .text t.render))

end Advisory
