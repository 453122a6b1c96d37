import Advisory.Dict
import Advisory.Json.Fields

/-!
# Pages

A long answer is given page by page. The items are put in order, repetitions and those that do not
pass are dropped, and the page with the requested number is cut out of the rest. A page number or
size that is not positive stands for the default.

Counts are 64-bit words. Rounding up takes a sum that wraps around, and the place where a page begins
is a product that stops at the greatest word; both are written out here.
-/

namespace Advisory

/-! ## Words -/

/-- The number of 64-bit words. -/
def wordCount : Nat := Nat.pow 2 64

/-- The sum of two words, wrapped around. -/
def addWords (a b : Nat) : Nat := (a + b) % wordCount

/-- The product of two words, at most the greatest word. -/
def mulWords (a b : Nat) : Nat := min (a * b) (wordCount - 1)

/-! ## Pages -/

/-- The page a request asks for. -/
structure Paging where
  page : Int
  size : Int
deriving DecidableEq, Repr

namespace Paging

/-- The page that is meant where none is asked for. -/
def defaultPage : Nat := 1

/-- The size of a page where none is asked for. -/
def defaultSize : Nat := 5000

/-- A number if it is positive, else a default. -/
def positiveOr (n : Int) (default : Nat) : Nat := if 0 < n then n.toNat else default

def number (p : Paging) : Nat := positiveOr p.page defaultPage

/-- The greatest number of items on a page. -/
def capacity (p : Paging) : Nat := positiveOr p.size defaultSize

/-- The place of the first item of the page. -/
def start (p : Paging) : Nat := mulWords (p.number - 1) p.capacity

/-- The number of pages that some number of items fill. -/
def pageCount (p : Paging) (items : Nat) : Nat := (addWords items p.capacity - 1) / p.capacity

/-- Reads the page that the fields of a request ask for. -/
def ofFields? (f : Fields) : Option Paging := do
  return {
    page := ← f.withDefault "page" 0 Json.asInteger?
    size := ← f.withDefault "page_size" 0 Json.asInteger? }

/-- Reads the page that a record of its own asks for. -/
def ofJson? (json : Json) : Option Paging := do
  ofFields? (← json.record? ["page", "page_size"] 0)

end Paging

/-- What an answer says about its page. -/
structure PageInfo where
  page : Nat
  size : Nat
  pages : Nat
deriving DecidableEq, Repr

/-- The members of an answer that say so. -/
def PageInfo.members (i : PageInfo) : List (String × Json) :=
  [("page", .ofNat i.page), ("page_size", .ofNat i.size), ("pages", .ofNat i.pages)]

/-- The items in order, each once, that pass. -/
def passing [Ord α] [Std.TransOrd α] (items : List α) (keep : α → Bool) : List α :=
  (ascending items).filter keep

/-- Cuts a page out of the items in order, each once, that pass. -/
def paginate [Ord α] [Std.TransOrd α] (items : List α) (keep : α → Bool) (p : Paging) :
    List α × PageInfo :=
  let all := passing items keep
  let page := (all.drop p.start).take p.capacity
  (page, ⟨p.number, page.length, p.pageCount all.length⟩)

end Advisory
