import Mathlib.Data.List.Sort
import Advisory.Order

/-!
# Sorted lists stay what they are under filters

Rows are delivered sorted and answers are given sorted, and both times the
sort is that of `Order.lean`. It is the insertion sort of the library for the
relation "compares as at most", so what is known there holds here: it permutes,
it sorts for any comparison that is transitive, and it leaves sorted lists
alone.

Two more facts carry the arguments on deliveries and answers. Sorting a part of
a list gives a part of the sorted list, whichever elements are missing; this is
where the order has to be transitive, because an element is inserted in front of
the first one that is not smaller, and that place must not move when others are
missing. So dropping elements and sorting commute, an answer that is restricted
and then sorted is the sorted answer restricted, and the sort is stable, because
what ties with one element is sorted as it stands. A list that ascends weakly
ascends strictly once neighbours that repeat are dropped. And what a sorted list
holds determines it, unless two different elements tie.
-/

namespace Advisory

variable {α : Type} {cmp : α → α → Ordering}

/-- The list ascends, with ties. -/
abbrev Sorted (cmp : α → α → Ordering) (xs : List α) : Prop :=
  xs.Pairwise fun a b => (cmp a b).isLE

/-! ## The sort is the insertion sort -/

theorem insertSorted_eq (x : α) (ys : List α) : insertSorted cmp x ys =
    ys.orderedInsert (fun a b => (cmp a b).isLE) x := by
  induction ys with
  | nil => rfl
  | cons y ys ih =>
      rw [insertSorted, List.orderedInsert_cons, ih]
      simp only [Ordering.isLE_iff_ne_gt, ite_not]

theorem stableSort_eq (xs : List α) : stableSort cmp xs =
    xs.insertionSort fun a b => (cmp a b).isLE := by
  rw [stableSort, List.insertionSort, funext₂ insertSorted_eq]

theorem stableSort_perm (cmp : α → α → Ordering) (xs : List α) :
    (stableSort cmp xs).Perm xs := by
  rw [stableSort_eq]
  exact List.perm_insertionSort _ xs

@[simp] theorem mem_stableSort {x : α} {xs : List α} :
    x ∈ stableSort cmp xs ↔ x ∈ xs :=
  (stableSort_perm cmp xs).mem_iff

instance total_isLE [Std.OrientedCmp cmp] :
    Std.Total fun a b => (cmp a b).isLE = true where
  total a b := by
    cases hab : cmp a b with
    | lt | eq => exact .inl rfl
    | gt =>
        rw [Std.OrientedCmp.lt_of_gt hab]
        exact .inr rfl

instance trans_isLE [Std.TransCmp cmp] :
    IsTrans α fun a b => (cmp a b).isLE = true where
  trans _ _ _ := Std.TransCmp.isLE_trans

theorem stableSort_sorted [Std.TransCmp cmp] (xs : List α) :
    Sorted cmp (stableSort cmp xs) := by
  rw [stableSort_eq]
  exact List.pairwise_insertionSort _ xs

theorem stableSort_of_sorted {xs : List α} (h : Sorted cmp xs) :
    stableSort cmp xs = xs := by
  rw [stableSort_eq]
  exact h.insertionSort_eq

/-! ## The sort commutes with dropping elements -/

/-- Sorting a part of a list gives a part of the sorted list. -/
theorem stableSort_sublist [Std.TransCmp cmp] {xs ys : List α}
    (h : xs.Sublist ys) : (stableSort cmp xs).Sublist (stableSort cmp ys) := by
  rw [stableSort_eq, stableSort_eq]
  induction h with
  | slnil => exact List.Sublist.refl _
  | cons y h ih => exact ih.trans (List.sublist_orderedInsert y _)
  | cons_cons x h ih =>
      exact ih.orderedInsert_sublist x (List.pairwise_insertionSort _ _)

theorem filter_stableSort [Std.TransCmp cmp] (p : α → Bool) (xs : List α) :
    (stableSort cmp xs).filter p = stableSort cmp (xs.filter p) := by
  have hsub : (stableSort cmp (xs.filter p)).Sublist
      ((stableSort cmp xs).filter p) := by
    have hkept : (stableSort cmp (xs.filter p)).filter p =
        stableSort cmp (xs.filter p) :=
      List.filter_eq_self.2 fun x hx =>
        (List.mem_filter.1 (mem_stableSort.1 hx)).2
    rw [← hkept]
    exact (stableSort_sublist List.filter_sublist).filter p
  have hperm := ((stableSort_perm cmp xs).filter p).trans
    (stableSort_perm cmp (xs.filter p)).symm
  exact (hsub.eq_of_length hperm.length_eq.symm).symm

/-- Elements that tie with one another keep their order. -/
theorem stableSort_ties [Std.TransCmp cmp] (a : α) (xs : List α) :
    (stableSort cmp xs).filter (cmp a · = .eq) =
      xs.filter (cmp a · = .eq) := by
  rw [filter_stableSort]
  apply stableSort_of_sorted
  rw [Sorted, List.pairwise_filter]
  refine List.pairwise_of_forall fun x y hx hy => ?_
  have hxa : cmp x a = .eq := Std.OrientedCmp.eq_symm (of_decide_eq_true hx)
  rw [Std.TransCmp.eq_trans hxa (of_decide_eq_true hy)]
  rfl

/-! ## Sorted lists are determined by what they hold -/

theorem eq_of_sorted_perm [Std.OrientedCmp cmp] {xs ys : List α}
    (hx : Sorted cmp xs) (hy : Sorted cmp ys) (h : xs.Perm ys)
    (hties : ∀ a ∈ xs, ∀ b ∈ xs, cmp a b = .eq → a = b) : xs = ys :=
  h.eq_of_pairwise (fun a b ha hb hab hba =>
    hties a ha b (h.mem_iff.2 hb) (Std.OrientedCmp.isLE_antisymm hab hba))
    hx hy

theorem nodup_of_ascending [Std.ReflCmp cmp] {xs : List α}
    (h : xs.Pairwise fun a b => cmp a b = .lt) : xs.Nodup := by
  refine h.imp fun {a b} hlt heq => ?_
  subst heq
  rw [show cmp a a = .eq from Std.ReflCmp.compare_self] at hlt
  cases hlt

/-- A sorted list without repetitions ascends strictly. -/
theorem ascending_of_sorted_nodup [Std.LawfulEqCmp cmp] {xs : List α}
    (h : Sorted cmp xs) (hnodup : xs.Nodup) :
    xs.Pairwise fun a b => cmp a b = .lt := by
  refine (h.and hnodup).imp fun {a b} hab => ?_
  obtain ⟨hle, hne⟩ := hab
  cases hc : cmp a b with
  | lt => rfl
  | eq => exact absurd (Std.LawfulEqCmp.eq_of_compare hc) hne
  | gt =>
      rw [hc] at hle
      cases hle

/-- Lists that ascend strictly and hold the same elements are the same. -/
theorem eq_of_ascending [Std.TransCmp cmp] {xs ys : List α}
    (hx : xs.Pairwise fun a b => cmp a b = .lt)
    (hy : ys.Pairwise fun a b => cmp a b = .lt)
    (h : ∀ x, x ∈ xs ↔ x ∈ ys) : xs = ys := by
  have hperm := (List.perm_ext_iff_of_nodup (nodup_of_ascending hx)
    (nodup_of_ascending hy)).2 h
  refine hperm.eq_of_pairwise (fun a b _ _ hab hba => ?_) hx hy
  rw [Std.OrientedCmp.gt_of_lt hab] at hba
  cases hba

/-! ## Dropping repetitions -/

/-- Weakly ascending keys without neighbours that repeat ascend strictly. -/
theorem dropRepeats_ascending [DecidableEq α] [Std.TransCmp cmp]
    [Std.LawfulEqCmp cmp] {xs : List α} (h : Sorted cmp xs) :
    (dropRepeats xs).Pairwise fun a b => cmp a b = .lt := by
  fun_induction dropRepeats xs with
  | case1 => exact List.Pairwise.nil
  | case2 x => exact List.pairwise_singleton _ x
  | case3 x rest ih => exact ih (List.pairwise_cons.1 h).2
  | case4 x y rest hne ih =>
      obtain ⟨hx, hrest⟩ := List.pairwise_cons.1 h
      refine List.pairwise_cons.2 ⟨fun z hz => ?_, ih hrest⟩
      -- `x` is below its neighbour, which is at most every later element.
      have hxy : cmp x y = .lt := by
        cases hc : cmp x y with
        | lt => rfl
        | eq => exact absurd (Std.LawfulEqCmp.eq_of_compare hc) hne
        | gt =>
            have hle := hx y List.mem_cons_self
            rw [hc] at hle
            cases hle
      rcases List.mem_cons.1 (mem_dropRepeats.1 hz) with rfl | hz
      · exact hxy
      · exact Std.TransCmp.lt_of_lt_of_isLE hxy
          ((List.pairwise_cons.1 hrest).1 z hz)

end Advisory
