import Advisory.Catalog.Basic
import Advisory.Json.Fields
import Advisory.Query.Failure

/-!
# Packages by identifier

Every identifier of a request is looked up by itself. One that is malformed or not known is left
out of the answer.
-/

namespace Advisory

structure PackagesRequest where
  packages : Option (List String)
deriving DecidableEq, Repr

structure ShippedIn where
  label : String
  name : String
  basearch : String
  releasever : String
deriving DecidableEq, Repr

/-- What is answered about a package. -/
structure PackageEntry where
  summary : String
  description : String
  /-- The source package it was built from, empty if there is none or it is not known. -/
  source : String
  /-- The packages built from it. -/
  binaries : List String
  repositories : List ShippedIn
deriving DecidableEq, Repr

structure PackagesAnswer where
  entries : Dict String PackageEntry

namespace PackagesRequest

def ofJson? (json : Json) : Option PackagesRequest := do
  let f ← json.record? ["package_list"] 1
  return ⟨← f.optional "package_list" (Json.asList? Json.asText?)⟩

def validate (r : PackagesRequest) : Except Failure Unit := requireList r.packages "package_list"

end PackagesRequest

/-- A repository as that of a package. -/
def Repository.shippedIn (r : Repository) : ShippedIn where
  label := r.label
  name := r.name
  basearch := r.basearch.getD ""
  releasever := r.releasever.getD ""

namespace Catalog

def packageEntry (c : Catalog) (id : PackageId) (p : Package) : PackageEntry where
  summary := c.text p.summary
  description := c.text p.description
  source := (p.source.bind c.written?).getD ""
  binaries := (c.binaries.listAt id).filterMap c.written?
  repositories := (c.repositoriesOf id).map Repository.shippedIn

/-- What is answered about the package that a text identifies, if there is one. -/
def packageEntry? (c : Catalog) (text : String) : Option PackageEntry := do
  let n ← (Nevra.parse text).toOption
  let id ← c.find? n
  return c.packageEntry id (← c.packages[id]?)

end Catalog

def PackagesRequest.answer (r : PackagesRequest) (c : Catalog) : PackagesAnswer where
  entries := .ofPairs ((r.packages.getD []).filterMap fun text =>
    (c.packageEntry? text).map (text, ·))

def ShippedIn.toJson (r : ShippedIn) : Json :=
  .object [("label", .text r.label), ("name", .text r.name), ("basearch", .text r.basearch),
    ("releasever", .text r.releasever)]

def PackageEntry.toJson (e : PackageEntry) : Json :=
  .object [("summary", .text e.summary), ("description", .text e.description),
    ("source_package", .text e.source), ("package_list", .ofTexts e.binaries),
    ("repositories", .array (e.repositories.map ShippedIn.toJson))]

def PackagesAnswer.toJson (a : PackagesAnswer) : Json :=
  .object [("package_list", .object (a.entries.toList.map fun (text, e) => (text, e.toJson)))]

end Advisory
