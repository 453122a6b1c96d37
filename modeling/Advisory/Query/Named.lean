import Advisory.Pattern.Anchored
import Advisory.Query.Failure
import Advisory.Query.Page

/-!
# Records asked for by name

Vulnerabilities, errata and repositories are asked for in the same way: a list of names, a filter and
a page. A single name is a pattern that is matched against all known names; several are meant
literally. A name that is not known is left out, so the answer depends only on which known names the
list denotes.
-/

namespace Advisory

/-- The names that a list denotes. Only a single one is compared with the known names. -/
def denoted (requested known : List String) : Except Failure (List String) :=
  match requested with
  | [pattern] =>
    match Pattern.compile pattern with
    | .ok r => .ok (known.filter r.occursIn)
    | .error _ => .error .invalidPattern
  | _ => .ok requested

/-- A page of records under their names. -/
structure Selection (α : Type) where
  entries : List (String × α)
  info : PageInfo

/-- The page of those records that a list denotes and that pass. -/
def select (records : Dict String α) (requested : List String) (passes : α → Bool)
    (paging : Paging) : Except Failure (Selection α) := do
  let names ← denoted requested records.keys
  let (page, info) := paginate names (fun name => records[name]?.any passes) paging
  return ⟨page.filterMap fun name => records[name]?.map (name, ·), info⟩

end Advisory
