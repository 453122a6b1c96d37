import Mathlib.Data.Nat.Bitwise
import Advisory.Pattern.Search

/-!
# The search finds the matches

`Regex.Matches` says which stretches of a text an expression matches, one at a
time; the search follows sets of places instead. `Regex.testBit_ends` says
that the two agree: the places it ends at are those where a match ends that
begins at one of the places it started from. So an expression occurs in a text
exactly if it matches some stretch of it.

Each construct is an image under a relation, and only a repetition needs an
argument. It stops after as many rounds as the text has places, or as soon as
nothing is new. The second is harmless because a set that a step does not
change is not changed by any number of steps; the first because matches never
lead back, so that whatever is reached at all is reached in rounds that each
move on, and there are no more of them than places.

Rounds that a repetition must take are counted before those it may take. A
repetition that allows fewer than it asks for matches nothing and would be
searched wrongly; `Regex.Proper` excludes it, and so does the reader.
-/

namespace Advisory.Pattern

/-! ## Sets of places -/

namespace Places

/-- A set holds no place behind place `n`. -/
def Within (n : Nat) (s : Places) : Prop := ∀ i, s.testBit i = true → i ≤ n

theorem testBit_foldl (p : Nat → Bool) (is : List Nat) (s : Places) (j : Nat) :
    (is.foldl (fun s i => if p i then s ||| 1 <<< i else s) s).testBit j =
      (s.testBit j || (is.contains j && p j)) := by
  induction is generalizing s with
  | nil => simp
  | cons i is ih =>
      rw [List.foldl_cons, ih]
      by_cases hij : j = i
      · subst hij
        cases hp : p j <;> simp
      · have hne : ¬ i = j := fun h => hij h.symm
        cases hp : p i <;> simp [Nat.one_shiftLeft, hij, hne]

theorem testBit_upTo {n : Nat} {p : Nat → Bool} {j : Nat} :
    (upTo n p).testBit j = true ↔ j ≤ n ∧ p j = true := by
  rw [upTo, testBit_foldl, Nat.zero_testBit, Bool.false_or, Bool.and_eq_true,
    List.contains_iff_mem, List.mem_range, Nat.lt_add_one_iff]

end Places

/-! ## Rounds -/

/-- What a relation leads to in some number of rounds. -/
inductive Rounds (R : Nat → Nat → Prop) : Nat → Nat → Nat → Prop
  | none (i : Nat) : Rounds R 0 i i
  | next {k i j l : Nat} (h : R i j) (rest : Rounds R k j l) :
    Rounds R (k + 1) i l

namespace Rounds

variable {R : Nat → Nat → Prop} {k i j l : Nat}

theorem zero_iff : Rounds R 0 i j ↔ i = j := by
  constructor
  · intro h
    cases h
    rfl
  · intro h
    subst h
    exact .none i

theorem succ_iff : Rounds R (k + 1) i l ↔ ∃ j, R i j ∧ Rounds R k j l := by
  constructor
  · intro h
    cases h with
    | next h rest => exact ⟨_, h, rest⟩
  · intro h
    obtain ⟨j, h, rest⟩ := h
    exact .next h rest

theorem append {k' : Nat} (h : Rounds R k i j) (h' : Rounds R k' j l) :
    Rounds R (k + k') i l := by
  induction h with
  | none => rwa [Nat.zero_add]
  | @next k _ _ _ hR _ ih =>
      rw [Nat.add_right_comm]
      exact .next hR (ih h')

theorem split {m : Nat} (h : Rounds R (k + m) i l) :
    ∃ j, Rounds R k i j ∧ Rounds R m j l := by
  induction k generalizing i with
  | zero => exact ⟨i, .none i, by rwa [Nat.zero_add] at h⟩
  | succ k ih =>
      rw [Nat.add_right_comm] at h
      obtain ⟨j, hR, h⟩ := succ_iff.1 h
      obtain ⟨j', hk, hm⟩ := ih h
      exact ⟨j', .next hR hk, hm⟩

theorem le_of_le {n : Nat} (hR : ∀ i j, R i j → j ≤ n) (h : Rounds R k i j)
    (hi : i ≤ n) : j ≤ n := by
  induction h with
  | none => exact hi
  | next h _ ih => exact ih (hR _ _ h)

/-- Rounds that stay where they are can be left out, and then there are no
more of them than places to move on to. -/
theorem shorten (hR : ∀ i j, R i j → i ≤ j) (h : Rounds R k i j) :
    i ≤ j ∧ ∃ q, q ≤ j - i ∧ Rounds R q i j := by
  induction h with
  | none i => exact ⟨Nat.le_refl i, 0, Nat.zero_le _, .none i⟩
  | @next k i j l h _ ih =>
      obtain ⟨hjl, q, hq, hrest⟩ := ih
      have hij := hR i j h
      refine ⟨Nat.le_trans hij hjl, ?_⟩
      by_cases heq : i = j
      · subst heq
        exact ⟨q, hq, hrest⟩
      · exact ⟨q + 1, by omega, .next h hrest⟩

end Rounds

/-! ## Steps of the search -/

/-- A step leads from a set of places to where a relation leads from them. -/
def Follows (n : Nat) (step : Places → Places) (R : Nat → Nat → Prop) :
    Prop :=
  ∀ s : Places, s.Within n → ∀ j,
    (step s).testBit j = true ↔ ∃ i, s.testBit i = true ∧ R i j

section Steps

variable {step : Places → Places}

theorem times_of_fixed {s : Places} (h : step s = s) (k : Nat) :
    times step k s = s := by
  cases k with
  | zero => rfl
  | succ k => rw [times, if_pos h]

/-- To stop early changes nothing. -/
theorem times_succ (k : Nat) (s : Places) :
    times step (k + 1) s = times step k (step s) := by
  rw [times]
  split
  · next h => rw [h, times_of_fixed h]
  · rfl

theorem spread_of_fixed {s : Places} (h : s ||| step s = s) (k : Nat) :
    spread step k s = s := by
  cases k with
  | zero => rfl
  | succ k => rw [spread, if_pos h]

theorem spread_succ (k : Nat) (s : Places) :
    spread step (k + 1) s = spread step k (s ||| step s) := by
  rw [spread]
  split
  · next h => rw [h, spread_of_fixed h]
  · rfl

variable {n : Nat} {R : Nat → Nat → Prop}

theorem Follows.within (h : Follows n step R) (hR : ∀ i j, R i j → j ≤ n)
    {s : Places} (hs : s.Within n) : (step s).Within n := by
  intro j hj
  obtain ⟨i, -, hij⟩ := (h s hs j).1 hj
  exact hR i j hij

theorem Follows.times (h : Follows n step R) (hR : ∀ i j, R i j → j ≤ n)
    (k : Nat) : Follows n (times step k) (Rounds R k) := by
  induction k with
  | zero =>
      intro s _ j
      simp only [Pattern.times, Rounds.zero_iff, exists_eq_right]
  | succ k ih =>
      intro s hs j
      rw [times_succ, ih _ (h.within hR hs)]
      constructor
      · intro h'
        obtain ⟨m, hm, hrest⟩ := h'
        obtain ⟨i, hi, him⟩ := (h s hs m).1 hm
        exact ⟨i, hi, .next him hrest⟩
      · intro h'
        obtain ⟨i, hi, hrounds⟩ := h'
        obtain ⟨m, him, hrest⟩ := Rounds.succ_iff.1 hrounds
        exact ⟨m, (h s hs m).2 ⟨i, hi, him⟩, hrest⟩

theorem Follows.spread (h : Follows n step R) (hR : ∀ i j, R i j → j ≤ n)
    (k : Nat) :
    Follows n (spread step k) fun i j => ∃ q, q ≤ k ∧ Rounds R q i j := by
  induction k with
  | zero =>
      intro s _ j
      simp only [Pattern.spread, Nat.le_zero, exists_eq_left,
        Rounds.zero_iff, exists_eq_right]
  | succ k ih =>
      intro s hs j
      have hs' : Places.Within n (s ||| step s) := by
        intro i hi
        rw [Nat.testBit_or, Bool.or_eq_true] at hi
        rcases hi with hi | hi
        · exact hs i hi
        · exact h.within hR hs i hi
      rw [spread_succ, ih _ hs']
      constructor
      · intro h'
        obtain ⟨m, hm, q, hq, hrest⟩ := h'
        rw [Nat.testBit_or, Bool.or_eq_true] at hm
        rcases hm with hm | hm
        · exact ⟨m, hm, q, by omega, hrest⟩
        · obtain ⟨i, hi, him⟩ := (h s hs m).1 hm
          exact ⟨i, hi, q + 1, by omega, .next him hrest⟩
      · intro h'
        obtain ⟨i, hi, q, hq, hrounds⟩ := h'
        cases q with
        | zero =>
            refine ⟨i, ?_, 0, Nat.zero_le k, hrounds⟩
            rw [Nat.testBit_or, hi, Bool.true_or]
        | succ q =>
            obtain ⟨m, him, hrest⟩ := Rounds.succ_iff.1 hrounds
            refine ⟨m, ?_, q, by omega, hrest⟩
            rw [Nat.testBit_or, (h s hs m).2 ⟨i, hi, him⟩, Bool.or_true]

end Steps

/-! ## What expressions match -/

/-- No repetition allows fewer rounds than it asks for. -/
def Regex.Proper {α : Type} : Regex α → Prop
  | empty => True
  | atom _ => True
  | seq r s => r.Proper ∧ s.Proper
  | alt r s => r.Proper ∧ s.Proper
  | repeated r min max => r.Proper ∧ ∀ m, max = some m → min ≤ m

variable {text : Array Char}

theorem Atom.leads_bounds {a : Atom} {i j : Nat}
    (h : a.leads text i j = true) : i ≤ j ∧ j ≤ text.size := by
  cases a with
  | char s =>
      simp only [Atom.leads, Bool.and_eq_true, decide_eq_true_eq] at h
      obtain ⟨rfl, h⟩ := h
      obtain ⟨c, hc, -⟩ := (Option.any_eq_true _ _).1 h
      have := (Array.getElem?_eq_some_iff.1 hc).1
      omega
  | look l =>
      simp only [Atom.leads, Bool.and_eq_true, decide_eq_true_eq] at h
      omega

namespace Regex

variable {r s : Regex Atom} {i j : Nat}

/-- A match is a stretch of the text. -/
theorem Matches.bounds (h : r.Matches text i j) : i ≤ j ∧ j ≤ text.size := by
  induction h with
  | empty h => exact ⟨Nat.le_refl _, h⟩
  | atom h => exact Atom.leads_bounds h
  | seq _ _ ihr ihs => exact ⟨Nat.le_trans ihr.1 ihs.1, ihs.2⟩
  | altLeft _ ih => exact ih
  | altRight _ ih => exact ih
  | done h => exact ⟨Nat.le_refl _, h⟩
  | more _ _ _ ihr ihs => exact ⟨Nat.le_trans ihr.1 ihs.1, ihs.2⟩

theorem matches_empty_iff :
    (empty : Regex Atom).Matches text i j ↔ i = j ∧ i ≤ text.size := by
  constructor
  · intro h
    cases h with
    | empty h => exact ⟨rfl, h⟩
  · intro h
    obtain ⟨rfl, h⟩ := h
    exact .empty h

theorem matches_atom_iff {a : Atom} :
    (atom a).Matches text i j ↔ a.leads text i j = true := by
  constructor
  · intro h
    cases h with
    | atom h => exact h
  · exact .atom

theorem matches_seq_iff {k : Nat} : (seq r s).Matches text i k ↔
    ∃ j, r.Matches text i j ∧ s.Matches text j k := by
  constructor
  · intro h
    cases h with
    | seq hr hs => exact ⟨_, hr, hs⟩
  · intro h
    obtain ⟨j, hr, hs⟩ := h
    exact .seq hr hs

theorem matches_alt_iff : (alt r s).Matches text i j ↔
    r.Matches text i j ∨ s.Matches text i j := by
  constructor
  · intro h
    cases h with
    | altLeft h => exact .inl h
    | altRight h => exact .inr h
  · intro h
    rcases h with h | h
    · exact .altLeft h
    · exact .altRight h

theorem matches_repeated_of_rounds {k : Nat}
    (h : Rounds (r.Matches text) k i j) (hi : i ≤ text.size) {min : Nat}
    {max : Option Nat} (hmin : min ≤ k) (hmax : ∀ m, max = some m → k ≤ m) :
    (repeated r min max).Matches text i j := by
  induction h generalizing min max with
  | none i =>
      obtain rfl := Nat.le_zero.1 hmin
      exact .done hi
  | @next k i j l hr _ ih =>
      refine .more ?_ hr (ih hr.bounds.2 (by omega) ?_)
      · rintro rfl
        have := hmax 0 rfl
        omega
      · intro m hm
        obtain ⟨m', rfl, rfl⟩ := Option.map_eq_some_iff.1 hm
        have := hmax m' rfl
        omega

theorem rounds_of_matches_repeated {t : Regex Atom}
    (h : t.Matches text i j) {min : Nat} {max : Option Nat}
    (ht : t = repeated r min max) :
    ∃ k, min ≤ k ∧ (∀ m, max = some m → k ≤ m) ∧
      Rounds (r.Matches text) k i j := by
  induction h generalizing min max with
  | empty | atom | seq | altLeft | altRight => cases ht
  | @done _ _ i _ =>
      cases ht
      exact ⟨0, Nat.le_refl 0, fun m _ => Nat.zero_le m, .none i⟩
  | @more _ _ _ i j l hmax hr _ _ ih =>
      cases ht
      obtain ⟨k, hk, hm, hrounds⟩ := ih rfl
      refine ⟨k + 1, by omega, fun m hmm => ?_, .next hr hrounds⟩
      subst hmm
      have := hm (m - 1) rfl
      have : m ≠ 0 := fun h => hmax (by rw [h])
      omega

/-- A repetition matches what a number of rounds between its counts does. -/
theorem matches_repeated_iff {min : Nat} {max : Option Nat} :
    (repeated r min max).Matches text i j ↔ i ≤ text.size ∧
      ∃ k, min ≤ k ∧ (∀ m, max = some m → k ≤ m) ∧
        Rounds (r.Matches text) k i j := by
  constructor
  · intro h
    have := h.bounds
    exact ⟨by omega, rounds_of_matches_repeated h rfl⟩
  · intro h
    obtain ⟨hi, k, hmin, hmax, hrounds⟩ := h
    exact matches_repeated_of_rounds hrounds hi hmin hmax

/-- The search takes the rounds that are asked for and then some of those that
are allowed, which is as good as to take any number between the counts. -/
theorem exists_rounds_iff {min : Nat} {max : Option Nat}
    (hproper : ∀ m, max = some m → min ≤ m) (hi : i ≤ text.size) :
    (∃ k, min ≤ k ∧ (∀ m, max = some m → k ≤ m) ∧
      Rounds (r.Matches text) k i j) ↔
    ∃ m, Rounds (r.Matches text) min i m ∧
      ∃ q, q ≤ (max.map (· - min)).getD (text.size + 1) ∧
        Rounds (r.Matches text) q m j := by
  constructor
  · intro h
    obtain ⟨k, hmin, hmax, hrounds⟩ := h
    obtain ⟨q, rfl⟩ := Nat.exists_eq_add_of_le hmin
    obtain ⟨m, hm, hq⟩ := hrounds.split
    refine ⟨m, hm, ?_⟩
    cases max with
    | none =>
        have hj := hrounds.le_of_le (fun _ _ h => h.bounds.2) hi
        obtain ⟨-, q', hq', hrounds'⟩ :=
          hq.shorten fun _ _ h => h.bounds.1
        refine ⟨q', ?_, hrounds'⟩
        show q' ≤ text.size + 1
        omega
    | some b =>
        have := hmax b rfl
        refine ⟨q, ?_, hq⟩
        show q ≤ b - min
        omega
  · intro h
    obtain ⟨m, hm, q, hq, hrounds⟩ := h
    refine ⟨min + q, Nat.le_add_right _ _, fun b hb => ?_, hm.append hrounds⟩
    subst hb
    have := hproper b rfl
    simp only [Option.map_some, Option.getD_some] at hq
    omega

end Regex

/-! ## The search -/

theorem Atom.apply_move (a : Atom) :
    Follows text.size (fun s => (a.move text).apply s)
      fun i j => a.leads text i j = true := by
  intro s _ j
  cases a with
  | char c =>
      simp only [Atom.move, Move.apply, Atom.leads, Nat.testBit_shiftLeft,
        Nat.testBit_and, Bool.and_eq_true, decide_eq_true_eq,
        Places.testBit_upTo]
      constructor
      · intro h
        obtain ⟨hj, hs, -, hc⟩ := h
        exact ⟨j - 1, hs, by omega, hc⟩
      · intro h
        obtain ⟨i, hs, rfl, hc⟩ := h
        obtain ⟨_, hi, -⟩ := (Option.any_eq_true _ _).1 hc
        have hlt := (Array.getElem?_eq_some_iff.1 hi).1
        exact ⟨by omega, hs, by omega, hc⟩
  | look l =>
      simp only [Atom.move, Move.apply, Atom.leads, Nat.testBit_and,
        Bool.and_eq_true, decide_eq_true_eq, Places.testBit_upTo]
      constructor
      · intro h
        obtain ⟨hs, hj, hl⟩ := h
        exact ⟨j, hs, ⟨rfl, hj⟩, hl⟩
      · intro h
        obtain ⟨i, hs, ⟨rfl, hj⟩, hl⟩ := h
        exact ⟨hs, hj, hl⟩

namespace Regex

/-- The search ends where the matches end that begin where it started. -/
theorem testBit_ends {r : Regex Atom} (h : r.Proper) :
    Follows text.size ((r.map (Atom.move text)).ends (text.size + 1))
      (r.Matches text) := by
  induction r with
  | empty =>
      intro s hs j
      simp only [Regex.map, ends, matches_empty_iff]
      constructor
      · exact fun hj => ⟨j, hj, rfl, hs j hj⟩
      · intro h'
        obtain ⟨i, hi, rfl, -⟩ := h'
        exact hi
  | atom a =>
      intro s hs j
      simp only [matches_atom_iff]
      exact a.apply_move s hs j
  | seq r t ihr iht =>
      intro s hs j
      have hmid := (ihr h.1).within (fun _ _ h => h.bounds.2) hs
      rw [Regex.map, ends, iht h.2 _ hmid]
      simp only [matches_seq_iff]
      constructor
      · intro h'
        obtain ⟨m, hm, hmj⟩ := h'
        obtain ⟨i, hi, him⟩ := (ihr h.1 s hs m).1 hm
        exact ⟨i, hi, m, him, hmj⟩
      · intro h'
        obtain ⟨i, hi, m, him, hmj⟩ := h'
        exact ⟨m, (ihr h.1 s hs m).2 ⟨i, hi, him⟩, hmj⟩
  | alt r t ihr iht =>
      intro s hs j
      rw [Regex.map, ends, Nat.testBit_or, Bool.or_eq_true, ihr h.1 s hs,
        iht h.2 s hs]
      simp only [matches_alt_iff, and_or_left, exists_or]
  | repeated r min max ih =>
      intro s hs j
      have hstep := ih h.1
      have hbound : ∀ i j, r.Matches text i j → j ≤ text.size :=
        fun _ _ h => h.bounds.2
      have hfirst := hstep.times hbound min
      have hmid : Places.Within text.size
          (times ((r.map (Atom.move text)).ends (text.size + 1)) min s) := by
        intro m hm
        obtain ⟨i, hi, hrounds⟩ := (hfirst s hs m).1 hm
        exact hrounds.le_of_le hbound (hs i hi)
      rw [Regex.map, ends, hstep.spread hbound _ _ hmid]
      constructor
      · intro h'
        obtain ⟨m, hm, hrest⟩ := h'
        obtain ⟨i, hi, hrounds⟩ := (hfirst s hs m).1 hm
        exact ⟨i, hi, matches_repeated_iff.2 ⟨hs i hi,
          (exists_rounds_iff h.2 (hs i hi)).2 ⟨m, hrounds, hrest⟩⟩⟩
      · intro h'
        obtain ⟨i, hi, hmatch⟩ := h'
        obtain ⟨m, hrounds, hrest⟩ := (exists_rounds_iff h.2 (hs i hi)).1
          (matches_repeated_iff.1 hmatch).2
        exact ⟨m, (hfirst s hs m).2 ⟨i, hi, hrounds⟩, hrest⟩

/-- An expression occurs in a text if it matches a stretch of it. -/
theorem occursIn_iff {r : Regex Atom} (h : r.Proper) {s : String} :
    r.occursIn s = true ↔ ∃ i j, r.Matches s.toList.toArray i j := by
  have hall : Places.Within s.toList.toArray.size
      (Places.upTo s.toList.toArray.size fun _ => true) :=
    fun i hi => (Places.testBit_upTo.1 hi).1
  have hends := testBit_ends h _ hall
  rw [occursIn, decide_eq_true_iff]
  constructor
  · intro hne
    obtain ⟨j, hj⟩ := Nat.exists_testBit_of_ne_zero hne
    obtain ⟨i, -, hij⟩ := (hends j).1 hj
    exact ⟨i, j, hij⟩
  · intro h' hzero
    obtain ⟨i, j, hij⟩ := h'
    have hi : i ≤ s.toList.toArray.size :=
      Nat.le_trans hij.bounds.1 hij.bounds.2
    have hj := (hends j).2 ⟨i, Places.testBit_upTo.2 ⟨hi, rfl⟩, hij⟩
    rw [hzero, Nat.zero_testBit] at hj
    cases hj

end Regex

end Advisory.Pattern
