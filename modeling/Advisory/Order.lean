/-!
# Orders on records and stable sorting

Every list the service answers with has an order that the answer shows, and most of them come from
comparing records field by field. `compareLex` and `compareOn` of core say how; this module adds the
two facts that make such an order usable as the key order of a dictionary, and one sort.

The sort is by insertion, from the right. It keeps equal elements in the order they had, it is
linear on a list that is already in order, which is how tables are written, and it is structural, so
that a concrete table can be sorted inside a proof.
-/

namespace Advisory

/-! ## Sorting -/

/-- Puts `x` in front of the first element that is not smaller. -/
def insertSorted (cmp : α → α → Ordering) (x : α) : List α → List α
  | [] => [x]
  | y :: ys => if cmp x y = .gt then y :: insertSorted cmp x ys else x :: y :: ys

/-- The elements in ascending order; those that compare equal keep their order. -/
def stableSort (cmp : α → α → Ordering) (xs : List α) : List α :=
  xs.foldr (insertSorted cmp) []

/-- The elements without those that repeat the one before. -/
def dropRepeats [DecidableEq α] : List α → List α
  | [] => []
  | [x] => [x]
  | x :: y :: rest =>
    if x = y then dropRepeats (y :: rest) else x :: dropRepeats (y :: rest)

@[simp] theorem mem_dropRepeats [DecidableEq α] {x : α} {xs : List α} :
    x ∈ dropRepeats xs ↔ x ∈ xs := by
  fun_induction dropRepeats xs with
  | case1 => rfl
  | case2 => rfl
  | case3 _ _ ih => simp [ih]
  | case4 y z rest _ ih => simp [ih]

/-! ## Orders by several keys

A record compared by one key after another is ordered as soon as each key is, and the order
separates different records as soon as the keys together determine the record. -/

/-- Comparing by `f` and then by `g` finds equality exactly where both keys compare equal. -/
theorem compareLex_compareOn_eq [Ord β] [Ord γ] {f : α → β} {g : α → γ} {a b : α} :
    compareLex (compareOn f) (compareOn g) a b = .eq ↔
      compare (f a) (f b) = .eq ∧ compare (g a) (g b) = .eq := by
  simp [compareLex, compareOn, Ordering.then_eq_eq]

/-- Pairs are ordered by their first component, then by their second. -/
instance instOrdPair [Ord α] [Ord β] : Ord (α × β) where
  compare := compareLex (compareOn Prod.fst) (compareOn Prod.snd)

instance instTransOrdPair [Ord α] [Ord β] [Std.TransOrd α] [Std.TransOrd β] :
    Std.TransOrd (α × β) :=
  inferInstanceAs (Std.TransCmp (compareLex (compareOn Prod.fst) (compareOn Prod.snd)))

instance instLawfulEqOrdPair [Ord α] [Ord β] [Std.LawfulEqOrd α] [Std.LawfulEqOrd β] :
    Std.LawfulEqOrd (α × β) where
  compare_self := compareLex_compareOn_eq.2 ⟨Std.ReflCmp.compare_self, Std.ReflCmp.compare_self⟩
  eq_of_compare h :=
    Prod.ext (Std.LawfulEqCmp.eq_of_compare (compareLex_compareOn_eq.1 h).1)
      (Std.LawfulEqCmp.eq_of_compare (compareLex_compareOn_eq.1 h).2)

end Advisory
