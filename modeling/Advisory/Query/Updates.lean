import Advisory.Catalog.Basic
import Advisory.Package.Encoded
import Advisory.Query.Failure
import Advisory.Text.Part

/-!
# Updates of installed packages

For every installed package the service lists what may replace it. A candidate stands behind every
place of the installed version among the packages of the name, has an architecture that may replace
the installed one, and is shipped by an erratum through a repository that the request and the
installed package admit. Every such triple is one update, and the updates of a package are in order.

The scope of an installed package is what its own repositories say: a repository is in scope if one
of them has its product and one of them has its release.

A package that cannot be placed among the packages of its name is answered without a list, one that
stands at the end of them with an empty list.
-/

namespace Advisory

/-! ## Requests and answers -/

/-- A request for the updates of installed packages, or for the vulnerabilities they fix. -/
structure UpdatesRequest where
  packages : Option (List String)
  /-- Only from repositories with these labels, from all if there are none. -/
  repositories : Option (List String)
  /-- Only what needs no other streams than these. -/
  modules : Option (List ModuleStream)
  releasever : Option String
  basearch : Option String
  securityOnly : Bool
deriving DecidableEq, Repr

namespace UpdatesRequest

def ofJson? (json : Json) : Option UpdatesRequest := do
  let f ← json.record? ["package_list", "repository_list", "modules_list", "releasever",
    "basearch", "security_only"] 5
  return {
    packages := ← f.optional "package_list" (Json.asList? Json.asText?)
    repositories := ← f.optional "repository_list" (Json.asList? Json.asText?)
    modules := ← f.optional "modules_list" (Json.asList? ModuleStream.ofJson?)
    releasever := ← f.optional "releasever" Json.asText?
    basearch := ← f.optional "basearch" Json.asText?
    securityOnly := ← f.withDefault "security_only" false Json.asBool? }

def toJson (r : UpdatesRequest) : Json :=
  .object [("package_list", (r.packages.map Json.ofTexts).getD .null),
    ("repository_list", (r.repositories.map Json.ofTexts).getD .null),
    ("modules_list", (r.modules.map fun ms => .array (ms.map ModuleStream.toJson)).getD .null),
    ("releasever", .ofText? r.releasever), ("basearch", .ofText? r.basearch),
    ("security_only", .bool r.securityOnly)]

/-- Checks that no part of the name of a stream is empty. -/
def validateModule (m : ModuleStream) : Except Failure Unit :=
  if m.module = "" then .error (.invalidModule "module_name")
  else if m.stream = "" then .error (.invalidModule "module_stream")
  else .ok ()

def validate (r : UpdatesRequest) : Except Failure Unit :=
  match r.packages with
  | none => .error (.missingField "package_list")
  | some _ => (r.modules.getD []).forM validateModule

end UpdatesRequest

/-- What a version of the endpoint decides. -/
structure UpdateOptions where
  /-- Whether the texts of the installed package are answered. -/
  includeText : Bool
  /-- Whether only security errata count. -/
  securityOnly : Bool
deriving DecidableEq, Repr

inductive UpdatesVersion where
  | first | second | third
deriving DecidableEq, Repr

namespace UpdatesVersion

def ofNumber? : Nat → Option UpdatesVersion
  | 1 => some first
  | 2 => some second
  | 3 => some third
  | _ => none

/-- What a version decides. Only the third asks the request. -/
def options (v : UpdatesVersion) (r : UpdatesRequest) : UpdateOptions :=
  match v with
  | first => ⟨true, true⟩
  | second => ⟨false, true⟩
  | third => ⟨false, r.securityOnly⟩

end UpdatesVersion

/-- A package that may replace an installed one. -/
structure Update where
  package : String
  erratum : String
  repository : String
  basearch : String
  releasever : String
deriving DecidableEq, Repr

namespace Update

/-- Updates are ordered by their fields, one after the other. -/
instance : Ord Update where
  compare := compareLex (compareOn package) (compareLex (compareOn erratum)
    (compareLex (compareOn repository) (compareLex (compareOn basearch) (compareOn releasever))))

instance : Std.TransOrd Update :=
  inferInstanceAs (Std.TransCmp (compareLex (compareOn package) (compareLex (compareOn erratum)
    (compareLex (compareOn repository) (compareLex (compareOn basearch) (compareOn releasever))))))

instance : Std.LawfulEqOrd Update where
  eq_of_compare {a b} h := by
    obtain ⟨ap, ae, ar, ab, av⟩ := a
    obtain ⟨bp, be, br, bb, bv⟩ := b
    obtain ⟨h1, h2, h3, h4, h5⟩ : compare ap bp = .eq ∧ compare ae be = .eq ∧
        compare ar br = .eq ∧ compare ab bb = .eq ∧ compare av bv = .eq := by
      simpa only [compare, compareLex, compareOn, Ordering.then_eq_eq] using h
    cases Std.LawfulEqCmp.eq_of_compare h1
    cases Std.LawfulEqCmp.eq_of_compare h2
    cases Std.LawfulEqCmp.eq_of_compare h3
    cases Std.LawfulEqCmp.eq_of_compare h4
    cases Std.LawfulEqCmp.eq_of_compare h5
    rfl

end Update

/-- What is answered about an installed package. -/
structure PackageUpdates where
  /-- The updates, none at all if the package could not be placed. -/
  available : Option (List Update)
  description : Option String
  summary : Option String
deriving DecidableEq, Repr

def PackageUpdates.unplaced : PackageUpdates := ⟨none, none, none⟩

/-- The answer to a request for updates. It repeats what the request was restricted to. -/
structure UpdatesAnswer where
  entries : Dict String PackageUpdates
  repositories : Option (List String)
  modules : Option (List ModuleStream)
  releasever : Option String
  basearch : Option String

/-! ## What a request admits -/

/-- Whether a repository agrees with a wanted value. One without a value agrees if its address
contains the wanted one. -/
def Repository.agrees (r : Repository) (value wanted : Option String) : Bool :=
  match wanted, value with
  | none, _ => true
  | some w, some v => v = w
  | some w, none => Text.isPartOf w.toList r.url.toList

namespace UpdatesRequest

/-- Whether a request names one of the labels that a repository stands under. -/
def admitsLabel (r : UpdatesRequest) (c : Catalog) (id : RepositoryId) : Bool :=
  match r.repositories.getD [] with
  | [] => true
  | labels => labels.any fun label => (c.labelIds.listAt label).contains id

/-- Whether a request admits updates from a repository. -/
def admitsRepository (r : UpdatesRequest) (c : Catalog) (id : RepositoryId) : Bool :=
  r.admitsLabel c id && c.repositories[id]?.any fun repo =>
    repo.agrees repo.releasever r.releasever && repo.agrees repo.basearch r.basearch

/-- Whether a request admits a build of a stream. -/
def admitsStream (r : UpdatesRequest) (c : Catalog) (id : StreamId) : Bool :=
  r.modules.all fun ms => ms.any fun m => (c.streams.listAt m).contains id

/-- Whether a request admits a package as part of an erratum: each stream that the pair is part of. -/
def admitsPair (r : UpdatesRequest) (c : Catalog) (package : PackageId) (erratum : ErratumId) :
    Bool :=
  (c.pairStreams.listAt (package, erratum)).all (r.admitsStream c)

end UpdatesRequest

/-- Whether some repositories have the product and the release of another one between them. -/
def inScope (own : List Repository) (r : Repository) : Bool :=
  own.any (·.productId = r.productId) &&
  own.any (·.releasever.getD "" = r.releasever.getD "")

/-! ## Finding updates -/

/-- An installed package among the packages of its name. -/
structure Installed where
  package : PackageId
  arch : ArchId
  /-- The packages of the name. -/
  versions : List PackageId
  /-- The first place behind all those of the installed version. -/
  next : Nat
deriving DecidableEq, Repr

namespace Catalog

/-- Places an identifier among the packages of its name: at the last place of its version that holds
a package of its architecture. -/
def installed? (c : Catalog) (n : Nevra) : Option Installed := do
  let key ← c.key? n
  let versions ← c.versions[key.name]?
  let positions ← c.positions[(key.name, key.evr)]?
  let standing := positions.filterMap (versions[·]?)
  let package ← (standing.filter fun id => c.packages[id]?.any (·.arch = key.arch)).getLast?
  return ⟨package, key.arch, versions, (← positions.getLast?) + 1⟩

/-- The repositories through which an erratum ships a package and that the request and the scope
admit. -/
def updateRepositories (c : Catalog) (r : UpdatesRequest) (own : List Repository)
    (package : PackageId) (erratum : ErratumId) : List Repository :=
  let shipped := (c.packageRepositories.listAt package).filter fun id =>
    (c.erratumRepositories.listAt erratum).contains id && r.admitsRepository c id
  (c.repositoriesWith shipped).filter (inScope own)

def updatesThrough (c : Catalog) (r : UpdatesRequest) (o : UpdateOptions) (own : List Repository)
    (id : PackageId) (p : Package) (erratum : ErratumId) : List Update :=
  match c.erratum? erratum with
  | none => []
  | some (name, e) =>
    if (o.securityOnly && !e.isSecurity) || !r.admitsPair c id erratum then []
    else (c.updateRepositories r own id erratum).map fun repo =>
      ⟨c.written p, name, repo.label, repo.basearch.getD "", repo.releasever.getD ""⟩

def updatesTo (c : Catalog) (r : UpdatesRequest) (o : UpdateOptions) (own : List Repository)
    (arch : ArchId) (id : PackageId) : List Update :=
  match c.packages[id]? with
  | none => []
  | some p =>
    if c.mayReplace arch p.arch then
      (c.packageErrata.listAt id).flatMap (c.updatesThrough r o own id p)
    else []

/-- The updates that stand behind an installed package, in order. -/
def updatesBehind (c : Catalog) (r : UpdatesRequest) (o : UpdateOptions) (i : Installed) :
    List Update :=
  stableSort compare
    ((i.versions.drop i.next).flatMap (c.updatesTo r o (c.repositoriesOf i.package) i.arch))

/-- The updates of an installed package. Behind the newest one nothing is looked for. -/
def updatesOf (c : Catalog) (r : UpdatesRequest) (o : UpdateOptions) (i : Installed) :
    List Update :=
  if i.versions.getLast? = some i.package then [] else c.updatesBehind r o i

/-- A shared text unless it is empty. -/
def text? (c : Catalog) (id : TextId) : Option String :=
  let s := c.text id
  if s = "" then none else some s

/-- What is answered about an installed package that has been placed. -/
def placedEntry (c : Catalog) (r : UpdatesRequest) (o : UpdateOptions) (i : Installed) :
    PackageUpdates :=
  let shown := if o.includeText then c.packages[i.package]? else none
  { available := some (c.updatesOf r o i)
    description := shown.bind fun p => c.text? p.description
    summary := shown.bind fun p => c.text? p.summary }

/-- What is answered about the package that a text identifies. -/
def updatesEntry (c : Catalog) (r : UpdatesRequest) (o : UpdateOptions) (text : String) :
    PackageUpdates :=
  match (Nevra.parse text).toOption.bind c.installed? with
  | none => .unplaced
  | some i => c.placedEntry r o i

end Catalog

def UpdatesRequest.resolve (r : UpdatesRequest) (c : Catalog) (o : UpdateOptions) :
    UpdatesAnswer where
  entries := .ofPairs ((r.packages.getD []).map fun text => (text, c.updatesEntry r o text))
  repositories := r.repositories.filter (!·.isEmpty)
  modules := r.modules
  releasever := r.releasever
  basearch := r.basearch

/-! ## Written answers -/

def Update.toJson (u : Update) : Json :=
  .object [("package", .text u.package), ("erratum", .text u.erratum),
    ("repository", .text u.repository), ("basearch", .text u.basearch),
    ("releasever", .text u.releasever)]

/-- An entry as an object. What is absent has no member. -/
def PackageUpdates.toJson (e : PackageUpdates) : Json :=
  .object (Json.given "available_updates" (e.available.map fun us => .array (us.map Update.toJson))
    ++ Json.given "description" (e.description.map .text)
    ++ Json.given "summary" (e.summary.map .text))

def UpdatesAnswer.toJson (a : UpdatesAnswer) : Json :=
  .object ([("update_list", .object (a.entries.toList.map fun (text, e) => (text, e.toJson)))]
    ++ Json.given "repository_list" (a.repositories.map .ofTexts)
    ++ Json.given "modules_list" (a.modules.map fun ms => .array (ms.map ModuleStream.toJson))
    ++ Json.given "releasever" (a.releasever.map .text)
    ++ Json.given "basearch" (a.basearch.map .text))

end Advisory
