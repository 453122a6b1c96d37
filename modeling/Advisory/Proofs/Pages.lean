import Mathlib.Algebra.Order.Floor.Div
import Mathlib.Data.List.Perm.Subperm
import Advisory.Proofs.Dictionaries
import Advisory.Proofs.Sorting
import Advisory.Query.Page

/-!
# Walking the pages of an answer

An answer is cut into pages by counting in words, and a walk over all pages
is right if the counting is: every page says how many pages there are, the
pages one after the other show all items that pass, and behind them there is
nothing. Words could spoil it in two places. The sum that rounds the number
of pages up wraps around, which needs more items than memory holds; and the
place where a page begins stops at the greatest word, which is behind every
item anyway. So pages are what they would be with unbounded numbers, for
every page and size that a request can ask for (`pages_exact`), and from
there the walk is a fact about lists: taking pieces of one length until
nothing is left takes the list.

What passes is a set of items. The order in which they come and how often is
lost when they are put in order, so two lists of items with the same passing
ones fill the same pages.
-/

namespace Advisory

/-! ## The items that pass -/

section Passing

variable {α : Type} [Ord α] [Std.TransOrd α]

theorem passing_sorted (items : List α) (keep : α → Bool) :
    (passing items keep).Pairwise fun a b => compare a b = .lt :=
  (ascending_sorted items).filter keep

/-- Nothing passes twice. -/
theorem length_passing_le_of_subset {items ys : List α} {keep : α → Bool}
    (h : passing items keep ⊆ ys) : (passing items keep).length ≤ ys.length :=
  (List.subperm_of_subset (nodup_of_ascending (passing_sorted items keep))
    h).length_le

variable [Std.LawfulEqOrd α] [DecidableEq α] {keep : α → Bool}

theorem mem_passing {items : List α} {x : α} :
    x ∈ passing items keep ↔ x ∈ items ∧ keep x = true := by
  rw [passing, List.mem_filter, mem_ascending]

/-- Only the items that pass count, each of them once. -/
theorem passing_congr {items items' : List α}
    (h : ∀ x, keep x = true → (x ∈ items ↔ x ∈ items')) :
    passing items keep = passing items' keep := by
  refine eq_of_ascending (passing_sorted items keep)
    (passing_sorted items' keep) fun x => ?_
  rw [mem_passing, mem_passing]
  exact and_congr_left (h x)

end Passing

/-! ## Counting in words -/

/-- A number of items that memory can hold, and a size that a request can ask
for, are smaller than this. -/
def signedWordCount : Nat := 2 ^ 63

theorem signedWordCount_add_self :
    signedWordCount + signedWordCount = wordCount := by decide

/-- A number that a request can ask for. -/
def IsSignedWord (n : Int) : Prop :=
  -signedWordCount ≤ n ∧ n < signedWordCount

namespace Paging

theorem positiveOr_pos {n : Int} {default : Nat} (h : 0 < default) :
    0 < positiveOr n default := by
  rw [positiveOr]
  split
  · omega
  · exact h

theorem positiveOr_lt {n : Int} {default bound : Nat} (hn : n < bound)
    (h : default < bound) : positiveOr n default < bound := by
  rw [positiveOr]
  split
  · omega
  · exact h

theorem eq_positiveOr {n : Int} {m default : Nat}
    (h : (m : Int) = if 0 < n then n else default) :
    m = positiveOr n default := by
  rw [positiveOr]
  split at h
  · next hpos => rw [if_pos hpos, ← h, Int.toNat_natCast]
  · next hpos => rw [if_neg hpos, Int.ofNat_inj.1 h]

theorem capacity_pos (p : Paging) : 0 < p.capacity :=
  positiveOr_pos (by decide)

theorem number_pos (p : Paging) : 0 < p.number := positiveOr_pos (by decide)

/-- The page with a positive number. -/
theorem number_of_pos {k size : Int} (h : 0 < k) :
    (Paging.mk k size).number = k.toNat := if_pos h

theorem addWords_capacity {p : Paging} {items : Nat}
    (hitems : items < signedWordCount) (hsize : p.capacity < signedWordCount) :
    addWords items p.capacity = items + p.capacity := by
  have hword := signedWordCount_add_self
  rw [addWords, Nat.mod_eq_of_lt (by omega)]

/-- The number of pages is rounded up, and the sum for it does not wrap
around. -/
theorem pageCount_eq {p : Paging} {items : Nat}
    (hitems : items < signedWordCount) (hsize : p.capacity < signedWordCount) :
    p.pageCount items = items ⌈/⌉ p.capacity := by
  rw [pageCount, addWords_capacity hitems hsize, Nat.ceilDiv_eq_add_pred_div]

/-- A page begins where it should, or it begins behind all items and should
do so. -/
theorem start_exact (p : Paging) {items : Nat}
    (hitems : items < signedWordCount) :
    p.start = (p.number - 1) * p.capacity ∨
      items ≤ p.start ∧ items ≤ (p.number - 1) * p.capacity := by
  have hword := signedWordCount_add_self
  rw [start, mulWords]
  rcases Nat.le_total ((p.number - 1) * p.capacity) (wordCount - 1) with
    hle | hge
  · exact .inl (Nat.min_eq_left hle)
  · rw [Nat.min_eq_right hge]
    exact .inr ⟨by omega, by omega⟩

theorem drop_start {α : Type} {xs : List α} {p : Paging}
    (h : xs.length < signedWordCount) :
    xs.drop p.start = xs.drop ((p.number - 1) * p.capacity) := by
  rcases p.start_exact h with heq | ⟨hstart, hproduct⟩
  · rw [heq]
  · rw [List.drop_of_length_le hstart, List.drop_of_length_le hproduct]

/-- Counting in words for some number of items goes as it would with
unbounded numbers: what is subtracted from is positive, what is divided by is
not zero, no sum wraps around, and a product that is cut off lies behind all
items as the right one does. -/
structure CountsExactly (p : Paging) (items : Nat) : Prop where
  number_word : p.number < wordCount
  capacity_word : p.capacity < wordCount
  number_pos : 1 ≤ p.number
  capacity_ne_zero : p.capacity ≠ 0
  sum : addWords items p.capacity = items + p.capacity
  sum_pos : 1 ≤ addWords items p.capacity
  start : p.start = (p.number - 1) * p.capacity ∨
    items ≤ p.start ∧ items ≤ (p.number - 1) * p.capacity

theorem countsExactly {page size : Int} {items : Nat}
    (hitems : items < signedWordCount) (hpage : IsSignedWord page)
    (hsize : IsSignedWord size) : (Paging.mk page size).CountsExactly items := by
  have hword := signedWordCount_add_self
  have hnumber : (Paging.mk page size).number < signedWordCount :=
    positiveOr_lt hpage.2 (by decide)
  have hcapacity : (Paging.mk page size).capacity < signedWordCount :=
    positiveOr_lt hsize.2 (by decide)
  have hpos := capacity_pos ⟨page, size⟩
  have hsum := addWords_capacity hitems hcapacity
  exact {
    number_word := by omega
    capacity_word := by omega
    number_pos := number_pos _
    capacity_ne_zero := by omega
    sum := hsum
    sum_pos := by omega
    start := start_exact _ hitems }

end Paging

/-! ## A page -/

section Between

variable {α : Type}

/-- The elements whose places are at least `first` and less than `last`. -/
def between (xs : List α) (first last : Nat) : List α :=
  (xs.zipIdx.filter fun e => first ≤ e.2 ∧ e.2 < last).map (·.1)

theorem map_filter_zipIdx (xs : List α) (k first last : Nat) :
    ((xs.zipIdx k).filter fun e => decide (first ≤ e.2 ∧ e.2 < last)).map
      (·.1) = (xs.take (last - k)).drop (first - k) := by
  -- The first place is `k`, and both bounds come nearer as it moves on.
  induction xs generalizing k with
  | nil => rw [List.take_nil, List.drop_nil]; rfl
  | cons x xs ih =>
      rw [List.zipIdx_cons, List.filter_cons]
      by_cases hlast : k < last
      · rw [show last - k = last - (k + 1) + 1 by omega, List.take_succ_cons]
        by_cases hfirst : first ≤ k
        · rw [if_pos (decide_eq_true ⟨hfirst, hlast⟩), List.map_cons, ih,
            show first - k = 0 by omega, show first - (k + 1) = 0 by omega]
          rfl
        · rw [if_neg (by simp [hfirst]), ih,
            show first - k = first - (k + 1) + 1 by omega, List.drop_succ_cons]
      · rw [if_neg (by simp [hlast]), ih, show last - k = 0 by omega,
          show last - (k + 1) = 0 by omega, List.take_zero, List.take_zero,
          List.drop_nil, List.drop_nil]

theorem between_eq (xs : List α) (first last : Nat) :
    between xs first last = (xs.drop first).take (last - first) := by
  rw [between, map_filter_zipIdx, Nat.sub_zero, Nat.sub_zero, List.drop_take]

/-- Every page but the last is full. -/
theorem length_between {items : List α} {size k : Nat}
    (hpos : 0 < size) (hk : 1 ≤ k) (h : k < items.length ⌈/⌉ size) :
    (between items ((k - 1) * size) (k * size)).length = size := by
  have hwhole : k * size ≤ items.length := by
    refine Nat.le_of_not_lt fun hlt => Nat.not_le_of_lt h ?_
    rw [ceilDiv_le_iff_le_mul hpos, Nat.mul_comm]
    exact Nat.le_of_lt hlt
  obtain ⟨j, rfl⟩ : ∃ j, k = j + 1 := ⟨k - 1, by omega⟩
  rw [Nat.succ_mul] at hwhole
  rw [between_eq, List.length_take, List.length_drop, Nat.add_sub_cancel,
    Nat.succ_mul, Nat.add_sub_cancel_left]
  omega

/-- What is shown and said is page `n` of some items in pages of some size,
computed with unbounded numbers. -/
structure IsPage (items : List α) (n size : Nat) (page : List α × PageInfo) :
    Prop where
  cut : page.1 = between items ((n - 1) * size) (n * size)
  number : page.2.page = n
  shown : page.2.size = page.1.length
  pages : page.2.pages = items.length ⌈/⌉ size

end Between

/-! ## A walk -/

/-- What `page k` shows and says, for every number `k`, is a walk over some
items in pages of some size. -/
structure Walks {α : Type} (items : List α) (size : Nat)
    (page : Int → List α × PageInfo) : Prop where
  /-- Every page says how many pages there are. -/
  pages : ∀ k, (page k).2.pages = items.length ⌈/⌉ size
  /-- Every page says how many items it shows. -/
  shown : ∀ k, (page k).2.size = (page k).1.length
  /-- The pages one after the other show all items. -/
  whole : (List.range (items.length ⌈/⌉ size)).flatMap
    (fun i : Nat => (page (i + 1)).1) = items
  /-- Behind the last page there is nothing. -/
  beyond : ∀ k : Int, (items.length ⌈/⌉ size : Nat) < k → (page k).1 = []

/-- Pieces of one length cover a list from its beginning. -/
theorem flatMap_pieces {α : Type} (xs : List α) (size count : Nat) :
    (List.range count).flatMap (fun i => (xs.drop (i * size)).take size) =
      xs.take (count * size) := by
  induction count with
  | zero => rw [Nat.zero_mul]; rfl
  | succ count ih =>
      rw [List.range_succ, List.flatMap_append, ih, Nat.succ_mul,
        List.take_add]
      simp

theorem le_ceilDiv_mul (n : Nat) {size : Nat} (h : 0 < size) :
    n ≤ n ⌈/⌉ size * size := by
  rw [Nat.mul_comm, ← smul_eq_mul]
  exact le_smul_ceilDiv h

variable {α : Type} [Ord α] [Std.TransOrd α] {items : List α}
  {keep : α → Bool}

theorem paginate_fst {p : Paging}
    (h : (passing items keep).length < signedWordCount) :
    (paginate items keep p).1 = ((passing items keep).drop
      ((p.number - 1) * p.capacity)).take p.capacity := by
  show ((passing items keep).drop p.start).take p.capacity = _
  rw [Paging.drop_start h]

theorem paginate_isPage {p : Paging}
    (hfit : (passing items keep).length < signedWordCount)
    (hword : p.capacity < signedWordCount) :
    IsPage (passing items keep) p.number p.capacity
      (paginate items keep p) where
  cut := by
    have hpos := p.number_pos
    rw [paginate_fst hfit, between_eq, ← Nat.sub_mul,
      show p.number - (p.number - 1) = 1 by omega, Nat.one_mul]
  number := rfl
  shown := rfl
  pages := Paging.pageCount_eq hfit hword

/-- Walking the pages shows the items that pass, as long as memory holds them
and the size is one that a request can ask for. -/
theorem paginate_walks {size : Int}
    (hfit : (passing items keep).length < signedWordCount)
    (hword : size < signedWordCount) :
    Walks (passing items keep) (Paging.positiveOr size Paging.defaultSize)
      fun k => paginate items keep ⟨k, size⟩ := by
  have hcap : ∀ k, (Paging.mk k size).capacity < signedWordCount :=
    fun k => Paging.positiveOr_lt hword (by decide)
  have hcover := le_ceilDiv_mul (passing items keep).length
    (Paging.capacity_pos ⟨0, size⟩)
  generalize hs : Paging.positiveOr size Paging.defaultSize = s
  have hcapacity : ∀ k, (Paging.mk k size).capacity = s := fun k => hs
  rw [hcapacity] at hcover
  refine ⟨fun k => ?_, fun k => rfl, ?_, fun k hk => ?_⟩
  · rw [(paginate_isPage hfit (hcap k)).pages, hcapacity]
  · have hpage : ∀ i : Nat, (paginate items keep ⟨i + 1, size⟩).1 =
        ((passing items keep).drop (i * s)).take s := by
      intro i
      rw [paginate_fst hfit, Paging.number_of_pos (by omega), hcapacity,
        show ((i : Int) + 1).toNat - 1 = i by omega]
    show (List.range _).flatMap
      (fun i : Nat => (paginate items keep ⟨i + 1, size⟩).1) = _
    rw [funext hpage, flatMap_pieces,
      List.take_of_length_le hcover]
  · show (paginate items keep ⟨k, size⟩).1 = []
    rw [paginate_fst hfit, Paging.number_of_pos (by omega), hcapacity]
    have hlast : (passing items keep).length ⌈/⌉ s ≤ k.toNat - 1 := by
      omega
    rw [List.drop_of_length_le
      (Nat.le_trans hcover (Nat.mul_le_mul_right _ hlast)), List.take_nil]

/-- Pages are exact for every request. Whatever page and size are asked for,
nothing in the counting goes wrong, and what is shown are the items that pass
whose places the page covers, with the right numbers beside them. So the pages
of one size are the items that pass one after the other, and all but the last
are full. -/
theorem pages_exact [Std.LawfulEqOrd α] [DecidableEq α]
    (hitems : items.length < signedWordCount) (keep : α → Bool)
    {size : Int} (hsize : IsSignedWord size) {s : Nat}
    (hs : (s : Int) = if 0 < size then size else 5000) :
    ∃ all : List α,
      all.Pairwise (fun a b => compare a b = .lt) ∧
      (∀ x, x ∈ all ↔ x ∈ items ∧ keep x = true) ∧
      (∀ (page : Int) (n : Nat), IsSignedWord page →
        (n : Int) = (if 0 < page then page else 1) →
        (Paging.mk page size).CountsExactly all.length ∧
        IsPage all n s (paginate items keep ⟨page, size⟩)) ∧
      Walks all s (fun k => paginate items keep ⟨k, size⟩) ∧
      ∀ k : Nat, 1 ≤ k → k < all.length ⌈/⌉ s →
        (paginate items keep ⟨k, size⟩).1.length = s := by
  have hfit : (passing items keep).length < signedWordCount :=
    Nat.lt_of_le_of_lt
      (length_passing_le_of_subset fun x hx => (mem_passing.1 hx).1) hitems
  obtain rfl := Paging.eq_positiveOr (n := size) (m := s) hs
  have hpage : ∀ page, IsPage (passing items keep)
      (Paging.mk page size).number (Paging.mk page size).capacity
      (paginate items keep ⟨page, size⟩) := fun page =>
    paginate_isPage hfit (Paging.positiveOr_lt hsize.2 (by decide))
  refine ⟨passing items keep, passing_sorted items keep,
    fun x => mem_passing, fun page n hword hn => ?_,
    paginate_walks hfit hsize.2, fun k hk hlast => ?_⟩
  · obtain rfl := Paging.eq_positiveOr (n := page) (m := n) hn
    exact ⟨Paging.countsExactly hfit hword hsize, hpage page⟩
  · have hnumber : (Paging.mk k size).number = k :=
      Paging.number_of_pos (by omega)
    rw [(hpage k).cut, hnumber]
    exact length_between (Paging.capacity_pos ⟨k, size⟩) hk hlast

/-- Names in no order, two of them twice. -/
def repeatedNames : List String :=
  ["kernel", "bash", "vim", "kernel", "curl", "dnf", "bash"]

/-- The greatest page number that can be asked for makes the product stop,
and nothing is shown. -/
theorem pages_exact_greatest :
    repeatedNames.length < signedWordCount ∧ IsSignedWord 3 ∧
    IsSignedWord (2 ^ 63 - 1) ∧
    (∃ all : List String,
      all.Pairwise (fun a b => compare a b = .lt) ∧
      (∀ x, x ∈ all ↔ x ∈ repeatedNames ∧ (x != "vim") = true) ∧
      (Paging.mk (2 ^ 63 - 1) 3).CountsExactly all.length ∧
      IsPage all (2 ^ 63 - 1) 3
        (paginate repeatedNames (· != "vim") ⟨2 ^ 63 - 1, 3⟩) ∧
      Walks all 3 (fun k => paginate repeatedNames (· != "vim") ⟨k, 3⟩)) ∧
    (Paging.mk (2 ^ 63 - 1) 3).start = wordCount - 1 ∧
    paginate repeatedNames (· != "vim") ⟨1, 3⟩ =
      (["bash", "curl", "dnf"], ⟨1, 3, 2⟩) ∧
    paginate repeatedNames (· != "vim") ⟨2, 3⟩ = (["kernel"], ⟨2, 1, 2⟩) ∧
    paginate repeatedNames (· != "vim") ⟨2 ^ 63 - 1, 3⟩ =
      ([], ⟨2 ^ 63 - 1, 0, 2⟩) := by
  have hitems : repeatedNames.length < signedWordCount := by decide
  have hsize : IsSignedWord 3 := ⟨by decide, by decide⟩
  have hpage : IsSignedWord (2 ^ 63 - 1) := ⟨by decide, by decide⟩
  obtain ⟨all, hascends, hmem, hcuts, hwalk, -⟩ :=
    pages_exact hitems (· != "vim") hsize (s := 3) rfl
  obtain ⟨hcounts, hcut⟩ := hcuts (2 ^ 63 - 1) (2 ^ 63 - 1) hpage rfl
  exact ⟨hitems, hsize, hpage, ⟨all, hascends, hmem, hcounts, hcut, hwalk⟩,
    by decide +kernel, by decide +kernel, by decide +kernel,
    by decide +kernel⟩

end Advisory
