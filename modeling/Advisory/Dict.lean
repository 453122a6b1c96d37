import Std.Data.ExtTreeMap
import Std.Data.ExtTreeSet
import Advisory.Order

/-!
# Dictionaries in key order

A catalogue is a set of dictionaries, and a dump or an answer shows their entries sorted by key. The
order therefore belongs to the type: a dictionary is an extensional ordered tree map, two
dictionaries that look the same are the same, and listing one lists it in key order.

What a join table adds is always the same step, one more value at the end of the list of a key.
`Dict.group` folds a whole table that way, and `getElem?_group` says what comes out: under a key the
values of the rows with that key, in the order of the rows and as often as they occur, and nothing
under a key without a row.
-/

namespace Advisory

/-- A finite map whose listing is in key order. -/
abbrev Dict (κ α : Type) [Ord κ] := Std.ExtTreeMap κ α

namespace Dict

variable {κ α : Type} [Ord κ] [Std.TransOrd κ]

/-- The list under `k`, empty where the key is absent. -/
def listAt (d : Dict κ (List α)) (k : κ) : List α := d[k]?.getD []

def push (d : Dict κ (List α)) (k : κ) (v : α) : Dict κ (List α) :=
  d.insert k (d.listAt k ++ [v])

/-- Collects pairs into lists by key, keeping the order of the pairs. -/
def group (pairs : List (κ × α)) : Dict κ (List α) :=
  pairs.foldl (fun d (k, v) => d.push k v) ∅

/-- The dictionary of some pairs, of which the last one with a key counts. -/
def ofPairs (pairs : List (κ × α)) : Dict κ α :=
  pairs.foldl (fun d (k, v) => d.insert k v) ∅

variable [Std.LawfulEqOrd κ] [DecidableEq κ]

theorem getElem?_push (d : Dict κ (List α)) (k k' : κ) (v : α) :
    (d.push k v)[k']? = if k = k' then some (d.listAt k ++ [v]) else d[k']? := by
  simp [push, Std.ExtTreeMap.getElem?_insert]

/-- What one more pair does to the list under a key, present or not. -/
theorem listAt_push (d : Dict κ (List α)) (k k' : κ) (v : α) :
    (d.push k v).listAt k' = d.listAt k' ++ (if k = k' then [v] else []) := by
  by_cases h : k = k'
  · subst h
    simp [listAt, push]
  · simp [listAt, getElem?_push, h]

theorem listAt_foldl_push (pairs : List (κ × α)) (d : Dict κ (List α)) (k : κ) :
    (pairs.foldl (fun d (p : κ × α) => d.push p.1 p.2) d).listAt k =
      d.listAt k ++ (pairs.filter (·.1 = k)).map (·.2) := by
  induction pairs generalizing d with
  | nil => simp
  | cons p ps ih =>
    rw [List.foldl_cons, ih, listAt_push]
    by_cases h : p.1 = k <;> simp [h]

/-- The list under a key holds the values of the pairs with that key, in their order. -/
theorem listAt_group (pairs : List (κ × α)) (k : κ) :
    (group pairs).listAt k = (pairs.filter (·.1 = k)).map (·.2) := by
  rw [group, listAt_foldl_push]
  simp [listAt]

theorem isSome_foldl_push (pairs : List (κ × α)) (d : Dict κ (List α)) (k : κ) :
    ((pairs.foldl (fun d (p : κ × α) => d.push p.1 p.2) d)[k]?).isSome =
      (d[k]?.isSome || pairs.any (·.1 = k)) := by
  induction pairs generalizing d with
  | nil => simp
  | cons p ps ih =>
    rw [List.foldl_cons, ih, getElem?_push]
    by_cases h : p.1 = k <;> simp [h]

/-- A key is present exactly if some pair has it, and then with all its values. -/
theorem getElem?_group (pairs : List (κ × α)) (k : κ) :
    (group pairs)[k]? =
      if pairs.any (·.1 = k) then some ((pairs.filter (·.1 = k)).map (·.2)) else none := by
  have hsome := isSome_foldl_push pairs (∅ : Dict κ (List α)) k
  have hlist := listAt_group pairs k
  rw [group] at hlist ⊢
  rw [listAt] at hlist
  split
  · rename_i h
    rw [h, Bool.or_true] at hsome
    obtain ⟨l, hl⟩ := Option.isSome_iff_exists.1 hsome
    rw [hl] at hlist ⊢
    exact congrArg some hlist
  · rename_i h
    rw [Bool.not_eq_true] at h
    rw [h, Bool.or_false, Std.ExtTreeMap.getElem?_empty, Option.isSome_none] at hsome
    exact Option.not_isSome_iff_eq_none.1 (by rw [hsome]; decide)

end Dict

/-- Pairs every element with whether it is the first one with its key, given the keys seen before. -/
def markFirst [Ord κ] [Std.TransOrd κ] (key : α → κ) (seen : Std.ExtTreeSet κ) :
    List α → List (α × Bool)
  | [] => []
  | x :: xs => (x, !seen.contains (key x)) :: markFirst key (seen.insert (key x)) xs

/-- The elements in ascending order, each once. -/
def ascending [Ord α] [Std.TransOrd α] (xs : List α) : List α :=
  (Std.ExtTreeSet.ofList xs).toList

end Advisory
