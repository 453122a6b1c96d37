import Advisory.Pattern.Anchored
import Advisory.Proofs.Delivery

/-!
# Reading with something behind

A pattern for names is read with a parenthesis and an anchor behind it. Each
reader takes a piece from the front, and two things are said about it. What it
leaves is an end of what it was given: `Leaves`. And the closing characters
behind the pattern do not change what it reads, unless it takes one of them
itself: `Kept`. Either so little is left that the parenthesis is gone, or the
same piece is read without the closing characters, which are still there. A
reader that is both is called steady, and readers in sequence are steady if each
of them is.

Looking ahead makes no exception, because a parenthesis has no meaning inside
escapes, counts and classes. Two readers give up at the end of a pattern where
they go on in front of a parenthesis: a word boundary behind which a brace is
all that comes, and a class that is only begun. These come to nothing in front
of the parenthesis as well, but later.
-/

namespace Advisory.Pattern

open Advisory.Text (isBlank)

variable {α β : Type}

/-- What stands behind a pattern for names. -/
def closing : Chars := [')', '$']

/-! ## What is left -/

theorem suffix_tail {cs cs' : Chars} (h : cs <:+ cs') : cs.tail <:+ cs'.tail := by
  obtain ⟨ds, rfl⟩ := h
  cases ds with
  | nil => exact List.suffix_rfl
  | cons d ds => exact (List.tail_suffix cs).trans (List.suffix_append ds cs)

/-- What a reader leaves is an end of what it was given. -/
def Leaves (cs : Chars) (r : Except Fault (α × Chars)) : Prop :=
  ∀ x rest, r = .ok (x, rest) → rest <:+ cs

namespace Leaves

variable {cs cs' : Chars} {r : Except Fault (α × Chars)}

theorem error {e : Fault} : Leaves (α := α) cs (.error e) := by
  intro x rest h
  cases h

theorem ok {x : α} {rest : Chars} (h : rest <:+ cs) :
    Leaves cs (.ok (x, rest)) := by
  intro y rest' h'
  cases h'
  exact h

theorem mono (h : Leaves cs r) (hcs : cs <:+ cs') : Leaves cs' r :=
  fun x rest h' => (h x rest h').trans hcs

theorem bind {f : α × Chars → Except Fault (β × Chars)} (h : Leaves cs r)
    (hf : ∀ x rest, Leaves rest (f (x, rest))) : Leaves cs (r >>= f) := by
  intro y rest h'
  obtain ⟨⟨x, mid⟩, hread, h'⟩ := bind_eq_ok.1 h'
  exact (hf x mid y rest h').trans (h x mid hread)

/-- A step between that reads nothing. -/
theorem bind_value {value : Except Fault α}
    {f : α → Except Fault (β × Chars)} (hf : ∀ x, Leaves cs (f x)) :
    Leaves cs (value >>= f) := by
  intro y rest h'
  obtain ⟨x, -, h'⟩ := bind_eq_ok.1 h'
  exact hf x y rest h'

end Leaves

/-- Reading a text that `closing` stands behind, compared with reading the text
alone: at most `lost` is left, or the text alone gives the same, and leaves the
same but for what stands behind. -/
def Kept (lost : Chars) (alone whole : Except Fault (α × Chars)) : Prop :=
  ∀ x rest, whole = .ok (x, rest) →
    rest <:+ lost ∨ ∃ rest', rest = rest' ++ closing ∧ alone = .ok (x, rest')

namespace Kept

variable {lost lost' : Chars} {alone whole : Except Fault (α × Chars)}

theorem error {e : Fault} : Kept lost alone (.error e) := by
  intro x rest h
  cases h

theorem ok (x : α) (cs : Chars) :
    Kept lost (.ok (x, cs)) (.ok (x, cs ++ closing)) := by
  intro y rest h
  cases h
  exact .inr ⟨cs, rfl, rfl⟩

theorem of_leaves {cs : Chars} (h : Leaves cs whole) (hcs : cs <:+ lost) :
    Kept lost alone whole :=
  fun x rest h' => .inl ((h x rest h').trans hcs)

theorem mono (h : Kept lost alone whole) (hlost : lost <:+ lost') :
    Kept lost' alone whole :=
  fun x rest h' => (h x rest h').imp_left (·.trans hlost)

/-- What is lost in the end may be less than what is lost after the first
reader, if the second one takes some of it. -/
theorem bind_of_lost {f g : α × Chars → Except Fault (β × Chars)}
    (h : Kept lost alone whole)
    (hf : ∀ x cs, alone = .ok (x, cs) →
      Kept lost' (f (x, cs)) (g (x, cs ++ closing)))
    (hlost : ∀ x cs, cs <:+ lost → Leaves lost' (g (x, cs))) :
    Kept lost' (alone >>= f) (whole >>= g) := by
  intro y rest h'
  obtain ⟨⟨x, mid⟩, hread, h'⟩ := bind_eq_ok.1 h'
  rcases h x mid hread with hmid | ⟨mid', rfl, halone⟩
  · exact .inl (hlost x mid hmid y rest h')
  · rw [halone]
    exact hf x mid' halone y rest h'

theorem bind {f g : α × Chars → Except Fault (β × Chars)}
    (h : Kept lost alone whole)
    (hf : ∀ x cs, Kept lost (f (x, cs)) (g (x, cs ++ closing)))
    (hleaves : ∀ x cs, Leaves cs (g (x, cs))) :
    Kept lost (alone >>= f) (whole >>= g) :=
  h.bind_of_lost (fun x cs _ => hf x cs) fun x cs hcs =>
    (hleaves x cs).mono hcs

theorem bind_value {value : Except Fault α}
    {f g : α → Except Fault (β × Chars)}
    (hf : ∀ x, Kept lost (f x) (g x)) :
    Kept lost (value >>= f) (value >>= g) := by
  intro y rest h'
  obtain ⟨x, hx, h'⟩ := bind_eq_ok.1 h'
  rw [hx]
  exact hf x y rest h'

end Kept

/-- A reader that closing characters do not disturb. -/
structure Steady (lost : Chars) (f : Chars → Except Fault (α × Chars)) :
    Prop where
  leaves : ∀ cs, Leaves cs (f cs)
  kept : ∀ cs, Kept lost (f cs) (f (cs ++ closing))

namespace Steady

variable {lost lost' : Chars} {f : Chars → Except Fault (α × Chars)}

theorem done (x : α) : Steady lost fun cs => .ok (x, cs) :=
  ⟨fun _ => .ok List.suffix_rfl, .ok x⟩

theorem failed (e : Fault) :
    Steady lost fun _ => (.error e : Except Fault (α × Chars)) :=
  ⟨fun _ => .error, fun _ => .error⟩

theorem mono (h : Steady lost f) (hlost : lost <:+ lost') : Steady lost' f :=
  ⟨h.leaves, fun cs => (h.kept cs).mono hlost⟩

theorem bind {g : α × Chars → Except Fault (β × Chars)} (h : Steady lost f)
    (hg : ∀ x, Steady lost fun cs => g (x, cs)) :
    Steady lost fun cs => f cs >>= g where
  leaves cs := (h.leaves cs).bind fun x => (hg x).leaves
  kept cs := (h.kept cs).bind (fun x => (hg x).kept) fun x => (hg x).leaves

theorem bind_value {value : Except Fault α}
    {g : Chars → α → Except Fault (β × Chars)}
    (hg : ∀ x, Steady lost fun cs => g cs x) :
    Steady lost fun cs => value >>= g cs where
  leaves cs := .bind_value fun x => (hg x).leaves cs
  kept cs := .bind_value fun x => (hg x).kept cs

end Steady

/-! ## What comes next -/

theorem after?_eq_some_iff {c : Char} {cs r : Chars} :
    after? c cs = some r ↔ cs = c :: r := by
  cases cs with
  | nil => simp [after?]
  | cons d cs =>
      rw [after?]
      split
      · next hd => simp [hd]
      · next hd => simp [hd]

theorem after?_append (cs : Chars) {c : Char} (hc : c ≠ ')') :
    after? c (cs ++ closing) = (after? c cs).map (· ++ closing) := by
  cases cs with
  | nil => exact if_neg hc.symm
  | cons d cs =>
      rw [List.cons_append, after?, after?]
      split
      · rfl
      · rfl

theorem dropChar_suffix (c : Char) (cs : Chars) : dropChar c cs <:+ cs := by
  rw [dropChar]
  cases h : after? c cs with
  | none => exact List.suffix_rfl
  | some r =>
      rw [after?_eq_some_iff.1 h]
      exact List.suffix_cons c r

theorem dropChar_append (cs : Chars) {c : Char} (hc : c ≠ ')') :
    dropChar c (cs ++ closing) = dropChar c cs ++ closing := by
  rw [dropChar, dropChar, after?_append cs hc]
  cases after? c cs with
  | none => rfl
  | some r => rfl

theorem head?_append (cs : Chars) {c : Char} (hc : c ≠ ')') :
    (cs ++ closing).head? = some c ↔ cs.head? = some c := by
  cases cs with
  | nil => simpa [closing] using hc.symm
  | cons d cs => rfl

/-- What is taken while a condition holds ends in front of the closing characters,
or runs into them. -/
theorem takeWhile_append (p : Char → Bool) (cs : Chars) :
    cs.dropWhile p ≠ [] ∧ (cs ++ closing).takeWhile p = cs.takeWhile p ∧
        (cs ++ closing).dropWhile p = cs.dropWhile p ++ closing ∨
      cs.dropWhile p = [] ∧
        (cs ++ closing).dropWhile p = closing.dropWhile p := by
  induction cs with
  | nil => exact .inr ⟨rfl, rfl⟩
  | cons c cs ih =>
      simp only [List.cons_append, List.takeWhile_cons, List.dropWhile_cons]
      split
      · rcases ih with ⟨hne, htake, hdrop⟩ | h
        · exact .inl ⟨hne, by rw [htake], hdrop⟩
        · exact .inr h
      · exact .inl ⟨List.cons_ne_nil c cs, rfl, rfl⟩

theorem dropWhile_isBlank_append (cs : Chars) :
    (cs ++ closing).dropWhile isBlank = cs.dropWhile isBlank ++ closing := by
  rcases takeWhile_append isBlank cs with ⟨-, -, h⟩ | ⟨hnil, h⟩
  · exact h
  · rw [hnil, h]
    rfl

/-! ## White space -/

theorem skipComments_suffix (inComment : Bool) (cs : Chars) :
    skipComments inComment cs <:+ cs := by
  induction cs generalizing inComment with
  | nil => exact List.suffix_rfl
  | cons c cs ih =>
      rw [skipComments]
      split
      · exact (ih _).trans (List.suffix_cons c cs)
      · split
        · exact (ih _).trans (List.suffix_cons c cs)
        · split
          · exact (ih _).trans (List.suffix_cons c cs)
          · exact List.suffix_rfl

theorem skipComments_append (inComment : Bool) (cs : Chars) :
    skipComments inComment (cs ++ closing) =
        skipComments inComment cs ++ closing ∨
      skipComments inComment cs = [] ∧
        skipComments inComment (cs ++ closing) = [] := by
  induction cs generalizing inComment with
  | nil => cases inComment with
    | false => exact .inl (by decide)
    | true => exact .inr (by decide)
  | cons c cs ih =>
      rw [List.cons_append, skipComments, skipComments]
      split
      · exact ih _
      · split
        · exact ih _
        · split
          · exact ih _
          · exact .inl rfl

namespace Flags

variable (flags : Flags)

theorem skip_suffix (cs : Chars) : flags.skip cs <:+ cs := by
  rw [skip]
  split
  · exact skipComments_suffix false cs
  · exact List.suffix_rfl

/-- Passing over what does not count stops in front of the closing characters,
unless they belong to a comment. -/
theorem skip_append (cs : Chars) :
    flags.skip (cs ++ closing) = flags.skip cs ++ closing ∨
      flags.skip cs = [] ∧ flags.skip (cs ++ closing) = [] := by
  rw [skip, skip]
  split
  · exact skipComments_append false cs
  · exact .inl rfl

theorem takeWhile_suffix (p : Char → Bool) (n : Nat) (cs : Chars) :
    (flags.takeWhile p n cs).2 <:+ cs := by
  induction n generalizing cs with
  | zero => exact List.suffix_rfl
  | succ n ih =>
      cases cs with
      | nil => exact List.suffix_rfl
      | cons c cs =>
          rw [takeWhile]
          split
          · exact (ih _).trans
              ((flags.skip_suffix cs).trans (List.suffix_cons c cs))
          · exact List.suffix_rfl

theorem takeWhile_nil (p : Char → Bool) (n : Nat) :
    flags.takeWhile p n [] = ([], []) := by
  cases n with
  | zero => rfl
  | succ n => rfl

/-- The bounds only have to be large enough. -/
theorem takeWhile_kept (p : Char → Bool) {n m : Nat} {cs : Chars}
    (hn : cs.length ≤ n) (hm : (cs ++ closing).length ≤ m) :
    Kept ['$'] (.ok (flags.takeWhile p n cs))
      (.ok (flags.takeWhile p m (cs ++ closing))) := by
  induction m generalizing n cs with
  | zero => simp [closing] at hm
  | succ m ih =>
      cases cs with
      | nil =>
          rw [takeWhile_nil, List.nil_append, closing, takeWhile]
          split
          · exact .of_leaves (.ok ((flags.takeWhile_suffix p m _).trans
              (flags.skip_suffix _))) List.suffix_rfl
          · exact .ok [] []
      | cons c cs =>
          obtain ⟨n, rfl⟩ : ∃ k, n = k + 1 :=
            Nat.exists_eq_add_one.2 (Nat.lt_of_lt_of_le (Nat.succ_pos _) hn)
          have hskip := (flags.skip_suffix cs).length_le
          simp only [List.length_append, List.length_cons] at hn hm
          rw [List.cons_append, takeWhile, takeWhile]
          split
          · rcases flags.skip_append cs with h | ⟨-, h⟩
            · rw [h]
              have hrest : Kept ['$']
                  (.ok (flags.takeWhile p n (flags.skip cs)))
                  (.ok (flags.takeWhile p m (flags.skip cs ++ closing))) :=
                ih (by omega) (by simp only [List.length_append]; omega)
              exact hrest.bind (f := fun (x, rest) => .ok (c :: x, rest))
                (g := fun (x, rest) => .ok (c :: x, rest))
                (fun x rest => .ok (c :: x) rest)
                fun x rest => .ok List.suffix_rfl
            · rw [h, takeWhile_nil]
              exact .of_leaves (.ok List.suffix_rfl) (List.nil_suffix)
          · exact .ok [] (c :: cs)

end Flags

/-- A reader may pass over what does not count first. -/
theorem Steady.skip {lost : Chars} {f : Chars → Except Fault (α × Chars)}
    (h : Steady lost f) (flags : Flags) :
    Steady lost fun cs => f (flags.skip cs) where
  leaves cs := (h.leaves _).mono (flags.skip_suffix cs)
  kept cs := by
    rcases flags.skip_append cs with hskip | ⟨-, hskip⟩
    · rw [hskip]
      exact h.kept _
    · rw [hskip]
      exact .of_leaves (h.leaves []) List.nil_suffix

theorem readWhile_steady (flags : Flags) (p : Char → Bool) :
    Steady ['$'] (readWhile flags p) where
  leaves cs := .ok (flags.takeWhile_suffix p cs.length cs)
  kept _ := flags.takeWhile_kept p (Nat.le_refl _) (Nat.le_refl _)

/-- A reader that goes two ways, depending on the character that comes next. -/
theorem Steady.of_after? {lost : Chars} {c : Char} (hc : c ≠ ')')
    {f g : Chars → Except Fault (α × Chars)} (hf : Steady lost f)
    (hg : Steady lost g) :
    Steady lost fun cs =>
      match after? c cs with
      | some r => f r
      | none => g cs where
  leaves cs := by
    split
    · next r h =>
        rw [after?_eq_some_iff.1 h]
        exact (hf.leaves r).mono (List.suffix_cons c r)
    · exact hg.leaves cs
  kept cs := by
    rw [after?_append cs hc]
    cases after? c cs with
    | some r => exact hf.kept r
    | none => exact hg.kept cs

theorem readChar_steady {c : Char} (hc : c ≠ ')') (e : Fault) :
    Steady ['$'] (readChar c e) :=
  .of_after? hc (.done c) (.failed e)

/-! ## Escapes -/

theorem readBraced_steady (flags : Flags) : Steady ['$'] (readBraced flags) :=
  ((readWhile_steady flags _).skip flags).bind fun name =>
    (readChar_steady (by decide) _).bind fun _ => .done name

theorem takeHex_leaves (flags : Flags) (n : Nat) (cs : Chars) :
    Leaves cs (flags.takeHex n cs) := by
  induction n generalizing cs with
  | zero => exact .ok List.suffix_rfl
  | succ n ih =>
      cases cs with
      | nil => exact .error
      | cons c cs =>
          rw [Flags.takeHex]
          split
          · exact ((ih _).mono ((flags.skip_suffix cs).trans
              (List.suffix_cons c cs))).bind fun x rest => .ok List.suffix_rfl
          · exact .error

theorem takeHex_steady (flags : Flags) (n : Nat) :
    Steady ['$'] (flags.takeHex n) := by
  refine ⟨takeHex_leaves flags n, fun cs => ?_⟩
  induction n generalizing cs with
  | zero => exact .ok [] cs
  | succ n ih =>
      cases cs with
      | nil => exact .error
      | cons c cs =>
          rw [List.cons_append, Flags.takeHex, Flags.takeHex]
          split
          · have hskip := Steady.skip ⟨takeHex_leaves flags n, ih⟩ flags
            exact (hskip.kept cs).bind (fun x rest => .ok (c :: x) rest)
              fun x rest => .ok List.suffix_rfl
          · exact .error

theorem readCodePoint_steady (flags : Flags) (letter : Char) :
    Steady ['$'] (readCodePoint flags letter) :=
  Steady.skip (.of_after? (by decide)
    ((readBraced_steady flags).bind fun _ =>
      .bind_value fun l => (Steady.done _).skip flags)
    ((takeHex_steady flags _).bind fun _ => .bind_value fun l => .done _)) flags

theorem readPropertyLetter_steady (flags : Flags) :
    Steady ['$'] (readPropertyLetter flags) where
  leaves cs := by
    cases cs with
    | nil => exact .error
    | cons c r =>
        rw [readPropertyLetter]
        split
        · exact .error
        · exact .ok ((flags.skip_suffix r).trans (List.suffix_cons c r))
  kept cs := by
    cases cs with
    | nil => exact .of_leaves (.ok (flags.skip_suffix ['$'])) List.suffix_rfl
    | cons c r =>
        rw [List.cons_append, readPropertyLetter, readPropertyLetter]
        split
        · exact .error
        · exact ((Steady.done [c]).skip flags).kept r

theorem readProperty_steady (flags : Flags) (letter : Char) :
    Steady ['$'] (readProperty flags letter) :=
  have hname : Steady ['$'] (readPropertyName flags) :=
    .skip (.of_after? (by decide) (readBraced_steady flags)
      (readPropertyLetter_steady flags)) flags
  hname.bind fun _ => .bind_value fun s => .done s

theorem readEdge_steady (flags : Flags) : Steady ['$'] (readEdge flags) :=
  ((readWhile_steady flags _).skip flags).bind fun _ =>
    (readChar_steady (by decide) _).bind fun _ =>
      .bind_value fun edge => .done edge

theorem readBoundary_leaves (flags : Flags) (cs : Chars) :
    Leaves cs (readBoundary flags cs) := by
  rw [readBoundary]
  split
  · next r h =>
      split
      · exact .error
      · split
        · rw [after?_eq_some_iff.1 h]
          exact ((readEdge_steady flags).leaves r).mono (List.suffix_cons _ r)
        · exact .ok List.suffix_rfl
  · exact .ok List.suffix_rfl

/-- A brace behind a word boundary begins a name or a count, and in front of
the closing characters neither. -/
def IsBareBrace (flags : Flags) (cs : Chars) : Prop :=
  ∃ r, after? '\x7b' cs = some r ∧ flags.skip r = []

theorem readBoundary_kept (flags : Flags) {cs : Chars}
    (h : ¬ IsBareBrace flags cs) :
    Kept ['$'] (readBoundary flags cs) (readBoundary flags (cs ++ closing)) := by
  rw [readBoundary, readBoundary, after?_append cs (by decide)]
  cases hr : after? '\x7b' cs with
  | none => exact .ok _ cs
  | some r =>
      simp only [Option.map_some]
      rcases flags.skip_append r with hskip | ⟨hnil, -⟩
      · rw [hskip]
        cases hq : flags.skip r with
        | nil => exact absurd ⟨r, hr, hq⟩ h
        | cons c q =>
            simp only [List.cons_append]
            split
            · exact (readEdge_steady flags).kept r
            · exact .ok _ cs
      · exact absurd ⟨r, hr, hnil⟩ h

theorem readEscape_leaves (flags : Flags) (cs : Chars) :
    Leaves cs (readEscape flags cs) := by
  cases cs with
  | nil => exact .error
  | cons c r =>
      refine .mono ?_ (List.suffix_cons c r)
      rw [readEscape]
      split
      · exact ((readCodePoint_steady flags c).leaves r).bind fun _ _ =>
          .ok List.suffix_rfl
      · split
        · exact ((readProperty_steady flags c).leaves r).bind fun _ _ =>
            .ok List.suffix_rfl
        · split
          · exact (readBoundary_leaves flags r).bind fun _ _ =>
              .ok List.suffix_rfl
          · exact .bind_value fun _ => .ok List.suffix_rfl

theorem readEscape_closing (flags : Flags) :
    readEscape flags closing = .ok (.literal ⟨')', false⟩, ['$']) := rfl

/-- Escapes are kept, but for a word boundary in front of a bare brace. -/
theorem readEscape_kept (flags : Flags) {cs : Chars}
    (h : ∀ r, cs = 'b' :: r → ¬ IsBareBrace flags r) :
    Kept ['$'] (readEscape flags cs) (readEscape flags (cs ++ closing)) := by
  cases cs with
  | nil =>
      rw [List.nil_append, readEscape_closing]
      exact .of_leaves (.ok List.suffix_rfl) List.suffix_rfl
  | cons c r =>
      rw [List.cons_append, readEscape, readEscape]
      split
      · exact ((readCodePoint_steady flags c).kept r).bind
          (fun _ rest => .ok _ rest) fun _ _ => .ok List.suffix_rfl
      · split
        · exact ((readProperty_steady flags c).kept r).bind
            (fun _ rest => .ok _ rest) fun _ _ => .ok List.suffix_rfl
        · split
          · next hb =>
              exact (readBoundary_kept flags (h r (by rw [hb]))).bind
                (fun _ rest => .ok _ rest) fun _ _ => .ok List.suffix_rfl
          · exact .bind_value fun p => .ok p r

/-! ## Counts -/

theorem Steady.dropBlanks {lost : Chars}
    {f : Chars → Except Fault (α × Chars)} (h : Steady lost f) :
    Steady lost fun cs => f (cs.dropWhile isBlank) where
  leaves _ := (h.leaves _).mono (List.dropWhile_suffix isBlank)
  kept cs := by
    rw [dropWhile_isBlank_append]
    exact h.kept _

theorem readCount_steady (flags : Flags) : Steady ['$'] (readCount flags) :=
  (readWhile_steady flags _).dropBlanks.bind fun _ =>
    .bind_value fun n => ((Steady.done n).skip flags).dropBlanks

theorem readUpperCount_steady (flags : Flags) :
    Steady ['$'] (readUpperCount flags) := by
  have hread : Steady ['$'] fun cs =>
      readCount flags cs >>= fun x => .ok (some x.1, x.2) :=
    (readCount_steady flags).bind fun max => .done (some max)
  constructor
  · intro cs
    rw [readUpperCount]
    split
    · exact .ok List.suffix_rfl
    · exact hread.leaves cs
  · intro cs
    rw [readUpperCount, readUpperCount]
    simp only [head?_append cs (show '\x7d' ≠ ')' by decide)]
    split
    · exact .ok none cs
    · exact hread.kept cs

theorem readMaxCount_steady (flags : Flags) (min : Nat) :
    Steady ['$'] (readMaxCount flags min) :=
  .of_after? (by decide) ((readUpperCount_steady flags).skip flags)
    (.done (some min))

theorem readCounts_steady (flags : Flags) : Steady ['$'] (readCounts flags) :=
  ((readCount_steady flags).skip flags).bind fun min =>
    (readMaxCount_steady flags min).bind fun _ =>
      (readChar_steady (by decide) _).bind fun _ =>
        .bind_value fun counts => .done counts

end Advisory.Pattern
