import Advisory.Catalog.Records
import Advisory.Json.Value

/-!
# The freshness of the catalogue
-/

namespace Advisory

/-- The freshness record as an object. Its times end in a letter and not in an offset. -/
def Freshness.toJson (f : Freshness) : Json :=
  .object [("errata_changes", .text f.errataChanges.renderZulu),
    ("cve_changes", .text f.cveChanges.renderZulu),
    ("repository_changes", .text f.repositoryChanges.renderZulu),
    ("last_change", .text f.lastChange.renderZulu), ("exported", .text f.exported.renderZulu)]

end Advisory
