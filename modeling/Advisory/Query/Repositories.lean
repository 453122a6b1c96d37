import Advisory.Catalog.Basic
import Advisory.Query.Named

/-!
# Repositories by label

A label may stand for several repositories. It passes a filter if one of them does, and is then
answered with all of them.
-/

namespace Advisory

open Time (Instant isAfter renderDate)

structure RepositoriesRequest where
  labels : Option (List String)
  /-- Only labels with a repository revised after this. -/
  modifiedSince : Option Instant
  paging : Paging
deriving DecidableEq, Repr

structure RepositoryEntry where
  label : String
  name : String
  url : String
  basearch : String
  releasever : String
  product : String
  revision : String
deriving DecidableEq, Repr

structure RepositoriesAnswer where
  info : PageInfo
  entries : List (String × List RepositoryEntry)
deriving DecidableEq, Repr

namespace RepositoriesRequest

def ofJson? (json : Json) : Option RepositoriesRequest := do
  let f ← json.fields?
  return {
    labels := ← f.optional "repository_list" (Json.asList? Json.asText?)
    modifiedSince := ← f.optional "modified_since" Json.asDate?
    paging := ← Paging.ofFields? f }

def validate (r : RepositoriesRequest) : Except Failure Unit :=
  requireList r.labels "repository_list"

/-- Whether one of the repositories with some numbers passes the filter. -/
def passes (r : RepositoriesRequest) (c : Catalog) (ids : List RepositoryId) : Bool :=
  (c.repositoriesWith ids).any fun repo => r.modifiedSince.all fun t => isAfter repo.revision t

end RepositoriesRequest

def Repository.entry (r : Repository) : RepositoryEntry where
  label := r.label
  name := r.name
  url := r.url
  basearch := r.basearch.getD ""
  releasever := r.releasever.getD ""
  product := r.product
  revision := renderDate r.revision

def RepositoriesRequest.answer (r : RepositoriesRequest) (c : Catalog) :
    Except Failure RepositoriesAnswer := do
  let found ← select c.labelIds (r.labels.getD []) (r.passes c) r.paging
  return {
    info := found.info
    entries := found.entries.map fun (label, ids) =>
      (label, (c.repositoriesWith ids).map Repository.entry) }

def RepositoryEntry.toJson (e : RepositoryEntry) : Json :=
  .object [("label", .text e.label), ("name", .text e.name), ("url", .text e.url),
    ("basearch", .text e.basearch), ("releasever", .text e.releasever),
    ("product", .text e.product), ("revision", .text e.revision)]

def RepositoriesAnswer.toJson (a : RepositoriesAnswer) : Json :=
  .object (a.info.members ++
    [("repository_list", .object (a.entries.map fun (label, entries) =>
      (label, .array (entries.map RepositoryEntry.toJson))))])

end Advisory
