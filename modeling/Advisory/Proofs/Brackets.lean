import Advisory.Proofs.Remainders

/-!
# Reading classes with something behind

A class ends at its own bracket, so that a parenthesis behind the pattern is not
part of it. The reader of a class takes a character with each step, and the
number that bounds its steps only has to exceed what is left; with that, one
step with the closing characters behind follows one step without them.

A class that is only begun leaves nothing for its reader, and with the closing
characters it leaves these. No more than the anchor is left when it ends.
-/

namespace Advisory.Pattern

open Advisory.Text (isBlank)

variable {α : Type}

/-! ## Items -/

theorem readEscape_word (flags : Flags) {cs : Chars} {p : Primitive}
    {rest : Chars} (h : readEscape flags ('b' :: cs) = .ok (p, rest)) :
    ∃ l, p = .look l := by
  obtain ⟨⟨edge, rest'⟩, -, h⟩ := bind_eq_ok.1 h
  cases h
  exact ⟨_, rfl⟩

theorem readClassPrimitive_leaves (flags : Flags) (cs : Chars) :
    Leaves cs.tail (readClassPrimitive flags cs) := by
  cases cs with
  | nil => exact .error
  | cons c r =>
      rw [readClassPrimitive]
      split
      · exact readEscape_leaves flags r
      · exact .ok List.suffix_rfl

/-- A word boundary is no part of a class, so that what follows it does not
matter. -/
theorem readClassPrimitive_kept (flags : Flags) (cs : Chars) {lost : Chars}
    {f g : Primitive × Chars → Except Fault (α × Chars)}
    (hlost : ['$'] <:+ lost)
    (hf : ∀ p cs, Kept lost (f (p, cs)) (g (p, cs ++ closing)))
    (hleaves : ∀ p cs, Leaves cs (g (p, cs)))
    (hlook : ∀ l cs x, g (.look l, cs) ≠ .ok x) :
    Kept lost (readClassPrimitive flags cs >>= f)
      (readClassPrimitive flags (cs ++ closing) >>= g) := by
  by_cases hbare : ∃ r, cs = '\\' :: 'b' :: r ∧ IsBareBrace flags r
  · obtain ⟨r, rfl, -⟩ := hbare
    intro x rest h
    obtain ⟨⟨p, mid⟩, hread, h⟩ := bind_eq_ok.1 h
    obtain ⟨l, rfl⟩ := readEscape_word flags hread
    exact absurd h (hlook l mid _)
  · refine Kept.bind (Kept.mono ?_ hlost) hf hleaves
    cases cs with
    | nil => exact .of_leaves (.ok List.suffix_rfl) List.suffix_rfl
    | cons c r =>
        rw [List.cons_append, readClassPrimitive, readClassPrimitive]
        split
        · next hc =>
            refine readEscape_kept flags fun r' hr hb => ?_
            exact hbare ⟨r', by rw [hc, hr], hb⟩
        · exact .ok _ r

theorem dropWhile_isBlank_of_head? {cs : Chars} {c : Char}
    (hc : isBlank c = false) (h : cs.head? = some c) :
    cs.dropWhile isBlank = cs := by
  obtain ⟨r, rfl⟩ := List.head?_eq_some_iff.1 h
  rw [List.dropWhile_cons, hc]
  rfl

/-- What closes a class or begins an operator is seen with or without the
closing characters. -/
theorem Flags.next?_append (flags : Flags) (cs : Chars) {c : Char}
    (hc : c ≠ ')') (hblank : isBlank c = false) (hsign : c ≠ '#') :
    flags.next? (cs ++ closing) = some c ↔ flags.next? cs = some c := by
  have hseen : ∀ r : Chars, (r = [] → cs.head? ≠ some c) →
      (((r ++ closing).head? <|> (cs ++ closing).head?) = some c ↔
        (r.head? <|> cs.head?) = some c) := by
    intro r hr
    cases r with
    | nil =>
        have hhead : cs.head? ≠ some c := hr rfl
        simpa [closing, hhead] using hc.symm
    | cons d r => exact Iff.rfl
  rw [next?, next?]
  split
  · dsimp only
    rw [dropWhile_isBlank_append, after?_append _ (by decide)]
    cases hrest : after? '#' (cs.dropWhile isBlank) with
    | none =>
        refine hseen _ fun hnil hhead => ?_
        rw [dropWhile_isBlank_of_head? hblank hhead] at hnil
        rw [hnil] at hhead
        cases hhead
    | some rest =>
        simp only [Option.map_some]
        rw [dropWhile_isBlank_append]
        refine hseen _ fun _ hhead => ?_
        rw [dropWhile_isBlank_of_head? hblank hhead,
          after?_eq_some_iff] at hrest
        rw [hrest] at hhead
        exact hsign (Option.some.inj hhead).symm
  · exact head?_append cs hc

theorem readRangeEnd_steady (flags : Flags) (first : Primitive) :
    Steady ['$'] (readRangeEnd flags first) := by
  have hends : ∀ p : Primitive, Steady ['$'] fun cs => (do
      let a ← first.rangeEnd flags
      let b ← p.rangeEnd flags
      if a ≤ b then return (CharSet.range a b, cs) else throw .badRange :
        Except Fault (CharSet × Chars)) := by
    refine fun p => .bind_value fun a => .bind_value fun b => ?_
    split
    · exact .done _
    · exact .failed _
  refine Steady.skip (f := fun cs => readClassPrimitive flags cs >>= _)
    ⟨fun cs => ?_, fun cs => ?_⟩ flags
  · exact ((readClassPrimitive_leaves flags cs).mono
      (List.tail_suffix cs)).bind fun p => (hends p).leaves
  · refine readClassPrimitive_kept flags cs List.suffix_rfl
      (fun p => (hends p).kept) (fun p => (hends p).leaves) ?_
    intro l cs x h
    obtain ⟨a, -, h⟩ := bind_eq_ok.1 h
    cases h

theorem readRange_leaves (flags : Flags) (first : Primitive) (cs : Chars) :
    Leaves cs (readRange flags first cs) := by
  rw [readRange]
  split
  · next r h =>
      split
      · exact .bind_value fun _ => .ok List.suffix_rfl
      · rw [after?_eq_some_iff.1 h]
        exact ((readRangeEnd_steady flags first).leaves r).mono
          (List.suffix_cons _ r)
  · split
    · exact .error
    · exact .bind_value fun _ => .ok List.suffix_rfl

theorem readRange_kept (flags : Flags) (first : Primitive) (cs : Chars) :
    Kept closing (readRange flags first cs)
      (readRange flags first (cs ++ closing)) := by
  by_cases hnil : cs = []
  · rw [hnil]
    exact .of_leaves (readRange_leaves flags first _) List.suffix_rfl
  · rw [readRange, readRange, after?_append _ (by decide)]
    cases after? '-' cs with
    | some r =>
        simp only [Option.map_some,
          flags.next?_append r (c := ']') (by decide) (by decide) (by decide),
          flags.next?_append r (c := '-') (by decide) (by decide) (by decide)]
        split
        · exact .bind_value fun s => .ok s cs
        · exact ((readRangeEnd_steady flags first).kept r).mono
            (List.suffix_cons _ _)
    | none =>
        simp only [Option.map_none]
        rw [if_neg hnil, if_neg (by simp [closing])]
        exact .bind_value fun s => .ok s cs

theorem readRange_look (flags : Flags) (l : Look) (cs : Chars)
    (x : CharSet × Chars) : readRange flags (.look l) cs ≠ .ok x := by
  intro h
  rw [readRange] at h
  split at h
  · split at h
    · cases h
    · obtain ⟨⟨last, rest⟩, -, h⟩ := bind_eq_ok.1 h
      cases h
  · split at h <;> cases h

theorem readClassItem_leaves (flags : Flags) (cs : Chars) :
    Leaves cs.tail (readClassItem flags cs) :=
  (readClassPrimitive_leaves flags cs).bind fun first rest =>
    (readRange_leaves flags first _).mono (flags.skip_suffix rest)

theorem readClassItem_kept (flags : Flags) (cs : Chars) :
    Kept closing (readClassItem flags cs)
      (readClassItem flags (cs ++ closing)) := by
  have hrange : ∀ first, Steady closing (readRange flags first) :=
    fun first => ⟨readRange_leaves flags first, readRange_kept flags first⟩
  exact readClassPrimitive_kept flags cs (List.suffix_cons _ _)
    (fun first => ((hrange first).skip flags).kept)
    (fun first => ((hrange first).skip flags).leaves)
    fun l cs x => readRange_look flags l _ x

theorem takeNegation_append (cs : Chars) :
    takeNegation (cs ++ closing) =
      ((takeNegation cs).1, (takeNegation cs).2 ++ closing) := by
  rw [takeNegation, takeNegation, after?_append _ (by decide)]
  cases after? '^' cs with
  | some r => rfl
  | none => rfl

theorem takeNegation_suffix (cs : Chars) : (takeNegation cs).2 <:+ cs := by
  rw [takeNegation]
  split
  · next r h =>
      rw [after?_eq_some_iff.1 h]
      exact List.suffix_cons _ r
  · exact List.suffix_rfl

theorem readDashes_leaves (flags : Flags) (n : Nat) (union : List NestedSet)
    (cs : Chars) : Leaves cs (readDashes flags n union cs) := by
  induction n generalizing union cs with
  | zero => exact .ok List.suffix_rfl
  | succ n ih =>
      rw [readDashes]
      split
      · next r h =>
          rw [after?_eq_some_iff.1 h]
          exact (ih _ _).mono ((flags.skip_suffix r).trans (List.suffix_cons _ r))
      · exact .ok List.suffix_rfl

theorem readDashes_kept (flags : Flags) {n m : Nat} (union : List NestedSet)
    {cs : Chars} (hn : cs.length ≤ n) (hm : (cs ++ closing).length ≤ m) :
    Kept closing (readDashes flags n union cs)
      (readDashes flags m union (cs ++ closing)) := by
  induction m generalizing n union cs with
  | zero => simp [closing] at hm
  | succ m ih =>
      rw [readDashes.eq_def flags (m + 1)]
      simp only [after?_append cs (show '-' ≠ ')' by decide)]
      cases hdash : after? '-' cs with
      | none =>
          have halone : readDashes flags n union cs = .ok (union, cs) := by
            cases n with
            | zero => rfl
            | succ n => rw [readDashes, hdash]; rfl
          rw [halone]
          exact .ok union cs
      | some r =>
          obtain rfl := after?_eq_some_iff.1 hdash
          obtain ⟨n, rfl⟩ : ∃ k, n = k + 1 :=
            Nat.exists_eq_add_one.2 (Nat.lt_of_lt_of_le (Nat.succ_pos _) hn)
          rw [readDashes, hdash]
          simp only [Option.map_some]
          have hskip := (flags.skip_suffix r).length_le
          simp only [List.length_append, List.length_cons] at hn hm
          rcases flags.skip_append r with h | ⟨-, h⟩
          · rw [h]
            exact ih _ (by omega) (by simp only [List.length_append]; omega)
          · rw [h]
            exact .of_leaves (readDashes_leaves flags m _ []) List.nil_suffix

theorem readFirstBracket_steady (flags : Flags) (union : List NestedSet) :
    Steady closing (readFirstBracket flags union) := by
  cases union with
  | nil => exact .of_after? (by decide) ((Steady.done _).skip flags) (.done [])
  | cons s union => exact .done (s :: union)

theorem readFirstItems_steady (flags : Flags) :
    Steady closing (readFirstItems flags) := by
  have hdashes : Steady closing fun cs => readDashes flags cs.length [] cs :=
    ⟨fun cs => readDashes_leaves flags _ [] cs,
      fun cs => readDashes_kept flags [] (Nat.le_refl _) (Nat.le_refl _)⟩
  refine hdashes.bind fun dashes =>
    (readFirstBracket_steady flags dashes).bind fun union =>
      ⟨fun cs => ?_, fun cs => ?_⟩
  · dsimp only
    split
    · exact .error
    · exact .ok List.suffix_rfl
  · dsimp only
    by_cases hnil : cs = []
    · rw [hnil]
      exact .of_leaves (.ok List.suffix_rfl) List.suffix_rfl
    · rw [if_neg hnil, if_neg (by simp [closing])]
      exact .ok union cs

theorem readNegation_steady (flags : Flags) :
    Steady ['$'] (readNegation flags) where
  leaves cs := .ok ((flags.skip_suffix _).trans (takeNegation_suffix cs))
  kept cs := by
    rw [readNegation, readNegation, takeNegation_append]
    exact ((Steady.done _).skip flags).kept _

theorem readClassStart_steady (flags : Flags) :
    Steady closing (readClassStart flags) :=
  (((readNegation_steady flags).mono (List.suffix_cons _ _)).skip flags).bind
    fun negated => (readFirstItems_steady flags).bind fun union =>
      .done (negated, union)

theorem readNamedClass?_append (flags : Flags) (cs : Chars) :
    readNamedClass? flags (cs ++ closing) =
      (readNamedClass? flags cs).map fun (s, rest) => (s, rest ++ closing) := by
  rw [readNamedClass?, readNamedClass?, after?_append _ (by decide)]
  cases after? ':' cs with
  | none => rfl
  | some r =>
      simp only [Option.map_some, Option.bind_eq_bind, Option.bind_some,
        takeNegation_append]
      generalize (takeNegation r).2 = r
      rcases takeWhile_append (· ≠ ':') r with ⟨-, htake, hdrop⟩ | ⟨halone, hwhole⟩
      · rw [htake, hdrop, after?_append _ (by decide)]
        cases after? ':' (r.dropWhile (· ≠ ':')) with
        | none => rfl
        | some r' =>
            simp only [Option.map_some, Option.bind_some]
            rw [after?_append _ (by decide)]
            cases after? ']' r' with
            | none => rfl
            | some rest =>
                simp only [Option.map_some, Option.bind_some]
                cases CharSet.named? (String.ofList (r.takeWhile (· ≠ ':'))) with
                | none => rfl
                | some s => rfl
      · rw [halone, hwhole]
        rfl

theorem readNamedClass?_suffix {flags : Flags} {cs rest : Chars}
    {s : Except Fault CharSet} (h : readNamedClass? flags cs = some (s, rest)) :
    rest <:+ cs := by
  simp only [readNamedClass?, Option.bind_eq_bind,
    Option.bind_eq_some_iff, after?_eq_some_iff] at h
  obtain ⟨r, rfl, r', hdrop, r'', rfl, s', -, h⟩ := h
  cases h
  have hsuffix := (List.dropWhile_suffix (l := (takeNegation r).2)
    (· ≠ ':')).trans (takeNegation_suffix r)
  rw [hdrop] at hsuffix
  exact (List.suffix_append [':', ']'] _).trans
    (hsuffix.trans (List.suffix_cons _ _))

theorem takeOperator?_append (cs : Chars) :
    takeOperator? (cs ++ closing) =
      (takeOperator? cs).map fun (op, rest) => (op, rest ++ closing) := by
  match cs with
  | [] => rfl
  | [c] =>
      by_cases hc : c = ')'
      · rw [hc]
        rfl
      · exact if_neg hc
  | c :: d :: cs =>
      rw [List.cons_append, List.cons_append, takeOperator?, takeOperator?]
      split
      · rw [Option.map_map]
        rfl
      · rfl

theorem takeOperator?_suffix {cs rest : Chars} {op : SetOperator}
    (h : takeOperator? cs = some (op, rest)) : rest <:+ cs.tail := by
  rw [takeOperator?.eq_def] at h
  split at h
  · next c d r =>
      split at h
      · obtain ⟨op', -, h'⟩ := Option.map_eq_some_iff.1 h
        cases h'
        exact List.suffix_cons d rest
      · cases h
  · cases h

theorem readClassRest_leaves (flags : Flags) (n : Nat) (current : OpenClass)
    (around : List OpenClass) (union : List NestedSet) (cs : Chars) :
    Leaves cs.tail (readClassRest flags n current around union cs) := by
  induction n generalizing current around union cs with
  | zero => exact .error
  | succ n ih =>
      have hrest : ∀ {r : Chars} (current around union rest), rest <:+ r →
          Leaves r (readClassRest flags n current around union rest) :=
        fun current around union rest h =>
          (ih current around union rest).mono ((List.tail_suffix rest).trans h)
      rw [readClassRest]
      split
      · exact .error
      · next c r hskip =>
          have hr : r <:+ cs.tail := by
            have h := flags.skip_suffix cs
            rw [hskip] at h
            exact suffix_tail h
          refine .mono ?_ hr
          split
          · split
            · next s rest hnamed =>
                exact .bind_value fun s =>
                  hrest _ _ _ _ (readNamedClass?_suffix hnamed)
            · exact ((readClassStart_steady flags).leaves r).bind
                fun _ rest => hrest _ _ _ _ List.suffix_rfl
          · split
            · refine .bind_value fun closed => ?_
              split
              · exact .ok List.suffix_rfl
              · exact hrest _ _ _ _ List.suffix_rfl
            · split
              · next op rest hop =>
                  exact hrest _ _ _ _ (takeOperator?_suffix hop)
              · exact (readClassItem_leaves flags (c :: r)).bind
                  fun _ rest => hrest _ _ _ _ List.suffix_rfl

theorem readClassRest_kept (flags : Flags) {n m : Nat} (current : OpenClass)
    (around : List OpenClass) (union : List NestedSet) {cs : Chars}
    (hn : cs.length < n) (hm : (cs ++ closing).length < m) :
    Kept ['$'] (readClassRest flags n current around union cs)
      (readClassRest flags m current around union (cs ++ closing)) := by
  induction m generalizing n current around union cs with
  | zero => exact absurd hm (Nat.not_lt_zero _)
  | succ m ih =>
      obtain ⟨n, rfl⟩ := Nat.exists_eq_add_one.2 (Nat.zero_lt_of_lt hn)
      rw [List.length_append] at hm
      have hlost : ∀ {rest : Chars} (current around union), rest <:+ closing →
          Leaves ['$'] (readClassRest flags m current around union rest) :=
        fun current around union h =>
          (readClassRest_leaves flags m _ _ _ _).mono (suffix_tail h)
      rw [readClassRest, readClassRest]
      rcases flags.skip_append cs with h | ⟨-, h⟩
      · rw [h]
        have hskip := (flags.skip_suffix cs).length_le
        cases hcs : flags.skip cs with
        | nil =>
            change Kept _ _ (readClassItem flags closing >>= _)
            exact .of_leaves ((readClassItem_leaves flags closing).bind
              fun s rest => (readClassRest_leaves flags m _ _ _ _).mono
                (List.tail_suffix rest)) List.suffix_rfl
        | cons c r =>
            rw [hcs, List.length_cons] at hskip
            have hrest : ∀ {rest : Chars} (current around union), rest <:+ r →
                Kept ['$'] (readClassRest flags n current around union rest)
                  (readClassRest flags m current around union
                    (rest ++ closing)) := by
              intro rest current around union hr
              have hlength := hr.length_le
              exact ih current around union (by omega)
                (by rw [List.length_append]; omega)
            simp only [List.cons_append]
            split
            · rw [readNamedClass?_append]
              cases hnamed : readNamedClass? flags r with
              | some x =>
                  exact .bind_value fun s =>
                    hrest _ _ _ (readNamedClass?_suffix hnamed)
              | none =>
                  exact ((readClassStart_steady flags).kept r).bind_of_lost
                    (fun x rest halone => hrest _ _ _
                      ((readClassStart_steady flags).leaves r _ _ halone))
                    fun x rest => hlost _ _ _
            · split
              · refine .bind_value fun closed => ?_
                cases around with
                | nil => exact .ok closed r
                | cons outer others => exact hrest _ _ _ List.suffix_rfl
              · rw [← List.cons_append, takeOperator?_append]
                cases hop : takeOperator? (c :: r) with
                | some x => exact hrest _ _ _ (takeOperator?_suffix hop)
                | none =>
                    exact (readClassItem_kept flags (c :: r)).bind_of_lost
                      (fun s rest halone => hrest _ _ _
                        (readClassItem_leaves flags (c :: r) _ _ halone))
                      fun s rest => hlost _ _ _
      · rw [h]
        exact .error

theorem readClass_steady (flags : Flags) : Steady ['$'] (readClass flags) where
  leaves cs := ((readClassStart_steady flags).leaves cs).bind fun _ rest =>
    (readClassRest_leaves flags _ _ _ _ rest).mono (List.tail_suffix rest)
  kept cs := ((readClassStart_steady flags).kept cs).bind_of_lost
    (fun _ _ _ => readClassRest_kept flags _ _ _ (Nat.lt_succ_self _)
      (Nat.lt_succ_self _))
    fun _ rest h => (readClassRest_leaves flags _ _ _ _ rest).mono
      (suffix_tail h)

end Advisory.Pattern
