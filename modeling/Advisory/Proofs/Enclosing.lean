import Advisory.Proofs.Brackets

/-!
# A pattern inside a group

A pattern for names stands between `^(?:` and `)$`. When the reader comes to the
first of its characters, it is in the initial state but for one level more at
the bottom of the stack, the one that holds the anchor; `State.within` puts this
level there. Reading on, the level stays where it is, and the states with and
without it go through the same directives, one step like the other. That is
`State.follow_within` for what is carried out and `readDirective_kept` for what
is read.

The two part when the group is closed. Either this happens at its end, and then
the pattern alone has been read; or the pattern closes it early, and alone it is
refused for that.
-/

namespace Advisory.Pattern

open Advisory.Text (isBlank)

/-! ## Groups -/

theorem readUntil_steady (stop : Char → Bool) (e : Fault) :
    Steady ['$'] (readUntil stop e) where
  leaves cs := by
    have hdrop := List.dropWhile_suffix (l := cs) (! stop ·)
    rw [readUntil]
    split
    · exact .error
    · next c rest h =>
        rw [h] at hdrop
        exact .ok ((List.suffix_cons c rest).trans hdrop)
  kept cs := by
    rw [readUntil, readUntil]
    rcases takeWhile_append (! stop ·) cs with ⟨hne, htake, hdrop⟩ | ⟨-, hdrop⟩
    · rw [htake, hdrop]
      cases h : cs.dropWhile (! stop ·) with
      | nil => exact absurd h hne
      | cons c rest => exact .ok _ rest
    · have hlost := List.dropWhile_suffix (l := closing) (! stop ·)
      rw [hdrop]
      cases h : closing.dropWhile (! stop ·) with
      | nil => exact .error
      | cons c rest =>
          rw [h] at hlost
          exact .of_leaves (.ok List.suffix_rfl) (suffix_tail hlost)

theorem readNamedGroup_steady (flags : Flags) (names : List Chars) :
    Steady ['$'] (readNamedGroup flags names) :=
  (readUntil_steady _ _).bind fun _ => .bind_value fun _ => .done _

theorem readFlagChange_steady (flags : Flags) :
    Steady ['$'] (readFlagChange flags) :=
  (readUntil_steady _ _).bind fun _ => .bind_value fun _ => .done _

theorem looksAround_append (cs : Chars) :
    looksAround (cs ++ closing) = looksAround cs := by
  rw [looksAround, looksAround, dropChar_append cs (by decide)]
  cases dropChar '<' cs with
  | nil => rfl
  | cons c r => rfl

theorem readSpecialGroup_steady (flags : Flags) (names : List Chars) :
    Steady ['$'] (readSpecialGroup flags names) where
  leaves cs := by
    rw [readSpecialGroup]
    split
    · exact .error
    · split
      · next r h =>
          have hsuffix := dropChar_suffix 'P' cs
          rw [after?_eq_some_iff.1 h] at hsuffix
          exact ((readNamedGroup_steady flags names).leaves r).mono
            ((List.suffix_cons _ r).trans hsuffix)
      · exact (readFlagChange_steady flags).leaves cs
  kept cs := by
    rw [readSpecialGroup, readSpecialGroup, looksAround_append,
      dropChar_append cs (by decide), after?_append _ (by decide)]
    split
    · exact .error
    · cases after? '<' (dropChar 'P' cs) with
      | some r => exact (readNamedGroup_steady flags names).kept r
      | none => exact (readFlagChange_steady flags).kept cs

theorem readGroup_steady (flags : Flags) (names : List Chars) :
    Steady ['$'] (readGroup flags names) :=
  Steady.skip (.of_after? (by decide) (readSpecialGroup_steady flags names)
    (.done _)) flags

/-! ## Directives -/

theorem readCounted_steady (min : Nat) (max : Option Nat) :
    Steady ['$'] (readCounted min max) where
  leaves cs := .ok (dropChar_suffix '?' cs)
  kept cs := by
    rw [readCounted, readCounted, dropChar_append cs (by decide)]
    exact .ok _ _

theorem readClassPiece_steady (flags : Flags) :
    Steady ['$'] (readClassPiece flags) :=
  (readClass_steady flags).bind fun _ => .done _

theorem readRepetition_steady (flags : Flags) :
    Steady ['$'] (readRepetition flags) :=
  (readCounts_steady flags).bind fun (min, max) =>
    (readCounted_steady min max).skip flags

theorem readDirective_leaves (flags : Flags) (names : List Chars) (c : Char)
    (cs : Chars) : Leaves cs (readDirective flags names c cs) := by
  rw [readDirective.eq_def]
  split
  · exact (readGroup_steady flags names).leaves cs
  · exact .ok List.suffix_rfl
  · exact .ok List.suffix_rfl
  · exact (readClassPiece_steady flags).leaves cs
  · exact (readCounted_steady _ _).leaves cs
  · exact (readCounted_steady _ _).leaves cs
  · exact (readCounted_steady _ _).leaves cs
  · exact (readRepetition_steady flags).leaves cs
  · exact (readEscape_leaves flags cs).bind fun _ _ =>
      .bind_value fun _ => .ok List.suffix_rfl
  · exact .bind_value fun _ => .ok List.suffix_rfl

/-- A word boundary in front of a bare brace is read with the closing characters
behind it, but not alone. -/
def IsBareBoundary (flags : Flags) (cs : Chars) : Prop :=
  ∃ r, cs = 'b' :: r ∧ IsBareBrace flags r

theorem readDirective_kept {flags : Flags} {c : Char} {cs : Chars}
    (names : List Chars) (h : ¬ (c = '\\' ∧ IsBareBoundary flags cs)) :
    Kept ['$'] (readDirective flags names c cs)
      (readDirective flags names c (cs ++ closing)) := by
  rw [readDirective.eq_def, readDirective.eq_def flags names c (cs ++ closing)]
  split
  · exact (readGroup_steady flags names).kept cs
  · exact .ok _ cs
  · exact .ok _ cs
  · exact (readClassPiece_steady flags).kept cs
  · exact (readCounted_steady _ _).kept cs
  · exact (readCounted_steady _ _).kept cs
  · exact (readCounted_steady _ _).kept cs
  · exact (readRepetition_steady flags).kept cs
  · exact (readEscape_kept flags fun r hr hb => h ⟨rfl, r, hr, hb⟩).bind
      (fun _ _ => .bind_value fun _ => .ok _ _)
      fun _ _ => .bind_value fun _ => .ok List.suffix_rfl
  · exact .bind_value fun _ => .ok _ cs

theorem Flags.skip_cons (flags : Flags) {c : Char} {cs : Chars}
    (hblank : isBlank c = false) (hsign : c ≠ '#') :
    flags.skip (c :: cs) = c :: cs := by
  rw [skip]
  split
  · rw [skipComments, if_neg Bool.false_ne_true, hblank, if_neg hsign]
    rfl
  · rfl

/-- What one step can read of `cs`, and what it can leave. A group is closed by a
parenthesis alone, a piece that is read is an atom, and counts are in order. -/
inductive Yields (cs : Chars) : Directive → Chars → Prop where
  | closed : Yields cs .closed cs
  | bar : Yields cs .bar cs
  | opened {flags name rest} : Yields cs (.opened flags name) rest
  | flagged {flags rest} : Yields cs (.flagged flags) rest
  | atom {a depth rest} : Yields cs (.piece ⟨.atom a, depth, true⟩) rest
  | counted {min max rest} (h : ∀ m, max = some m → min ≤ m) :
    Yields cs (.counted min max) rest

theorem flagChange_yields {flags : Flags} {letters : Chars} {mark : Char}
    {d : Directive} (h : flagChange flags letters mark = .ok d)
    (cs rest : Chars) : Yields cs d rest := by
  rw [flagChange] at h
  split at h
  · obtain ⟨flags', -, h⟩ := bind_eq_ok.1 h
    cases h
    exact .opened
  · split at h
    · cases h
    · obtain ⟨flags', -, h⟩ := bind_eq_ok.1 h
      cases h
      exact .flagged

theorem readGroup_yields {flags : Flags} {names : List Chars} {cs rest : Chars}
    {d : Directive} (h : readGroup flags names cs = .ok (d, rest)) :
    Yields cs d rest := by
  rw [readGroup] at h
  split at h
  · rw [readSpecialGroup] at h
    split at h
    · cases h
    · split at h
      · obtain ⟨⟨⟨name, mark⟩, mid⟩, -, h⟩ := bind_eq_ok.1 h
        obtain ⟨name', -, h⟩ := bind_eq_ok.1 h
        cases h
        exact .opened
      · obtain ⟨⟨⟨letters, mark⟩, mid⟩, -, h⟩ := bind_eq_ok.1 h
        obtain ⟨d, hchange, h⟩ := bind_eq_ok.1 h
        cases h
        exact flagChange_yields hchange cs _
  · cases h
    exact .opened

theorem countRange_eq_ok {min : Nat} {max : Option Nat} {counts : Nat × Option Nat}
    (h : countRange min max = .ok counts) :
    ∀ m, counts.2 = some m → counts.1 ≤ m := by
  rw [countRange] at h
  split at h
  · next hall =>
      cases h
      rintro m rfl
      simpa using hall
  · cases h

theorem readRepetition_yields {flags : Flags} {cs rest : Chars} {d : Directive}
    (h : readRepetition flags cs = .ok (d, rest)) : Yields cs d rest := by
  obtain ⟨⟨counts, mid⟩, hcounts, h⟩ := bind_eq_ok.1 h
  cases h
  obtain ⟨⟨min, mid⟩, -, hcounts⟩ := bind_eq_ok.1 hcounts
  obtain ⟨⟨max, mid⟩, -, hcounts⟩ := bind_eq_ok.1 hcounts
  obtain ⟨⟨brace, mid⟩, -, hcounts⟩ := bind_eq_ok.1 hcounts
  obtain ⟨counts', hrange, hcounts⟩ := bind_eq_ok.1 hcounts
  cases hcounts
  exact .counted (countRange_eq_ok hrange)

theorem readDirective_yields {flags : Flags} {names : List Chars} {c : Char}
    {cs rest : Chars} {d : Directive}
    (h : readDirective flags names c cs = .ok (d, rest)) : Yields cs d rest := by
  rw [readDirective.eq_def] at h
  split at h
  · exact readGroup_yields h
  · cases h
    exact .closed
  · cases h
    exact .bar
  · obtain ⟨set, -, h⟩ := bind_eq_ok.1 h
    cases h
    exact .atom
  · cases h
    exact .counted fun m hm => Nat.zero_le m
  · cases h
    exact .counted fun m hm => (by cases hm)
  · cases h
    exact .counted fun m hm => (by cases hm)
  · exact readRepetition_yields h
  · obtain ⟨⟨p, mid⟩, -, h⟩ := bind_eq_ok.1 h
    obtain ⟨a, -, h⟩ := bind_eq_ok.1 h
    cases h
    exact .atom
  · obtain ⟨a, -, h⟩ := bind_eq_ok.1 h
    cases h
    exact .atom

/-! ## One level more -/

namespace State

/-- The level around a pattern for names: the anchor in front of it. -/
def bottom : Level := Level.start.push (.ofAtom (.look .textStart))

/-- A state with one level more at the bottom. -/
def within (s : State) : State :=
  { s with around := s.around ++ [(bottom, .initial)] }

theorem within_around_ne_nil (s : State) : s.within.around ≠ [] :=
  List.append_ne_nil_of_right_ne_nil _ (List.cons_ne_nil _ _)

/-- The state behind the group that a pattern is put into, given the state at
its own end. -/
def enclosed (s : State) : State :=
  ⟨.initial, bottom.push s.level.finish.grouped, [], s.names⟩

/-- The same at the end of what the pattern becomes. -/
def anchored (s : State) : State :=
  { s.enclosed with
    level := s.enclosed.level.push (.ofAtom (.look .textEnd)) }

/-- What is carried out does not reach down to the bottom, unless a group is
closed that was not opened. -/
theorem follow_within {s u : State} {d : Directive}
    (h : s.within.follow d = .ok u) :
    (∃ s', s.follow d = .ok s' ∧ u = s'.within) ∨
      d = .closed ∧ s.around = [] ∧ u = s.enclosed := by
  cases d with
  | piece p => exact .inl ⟨_, rfl, (Except.ok.inj h).symm⟩
  | opened flags name => exact .inl ⟨_, rfl, (Except.ok.inj h).symm⟩
  | bar => exact .inl ⟨_, rfl, (Except.ok.inj h).symm⟩
  | flagged flags => exact .inl ⟨_, rfl, (Except.ok.inj h).symm⟩
  | counted min max =>
      obtain ⟨level, hlevel, h⟩ := bind_eq_ok.1 h
      exact .inl ⟨_, bind_eq_ok.2 ⟨level, hlevel, rfl⟩, (Except.ok.inj h).symm⟩
  | closed =>
      obtain ⟨flags, level, around, names⟩ := s
      cases around with
      | nil => exact .inr ⟨rfl, rfl, (Except.ok.inj h).symm⟩
      | cons outer around => exact .inl ⟨_, rfl, (Except.ok.inj h).symm⟩

/-! ## Runs that come to nothing -/

theorem run_nil (n : Nat) (s : State) : s.run n [] = .ok s := by
  cases n with
  | zero => rfl
  | succ n => rw [run, List.suffix_nil.1 (s.flags.skip_suffix [])]; rfl

theorem run_cons (n : Nat) (s : State) {c : Char} {cs r : Chars}
    (h : s.flags.skip cs = c :: r) :
    s.run (n + 1) cs = (do
      let (d, rest) ← readDirective s.flags s.names c r
      (← s.follow d).run n rest) := by
  rw [run, h]

theorem run_cons_eq_ok {n : Nat} {s t : State} {c : Char} {cs r : Chars}
    (h : s.flags.skip cs = c :: r) :
    s.run (n + 1) cs = .ok t ↔
      ∃ d rest u, readDirective s.flags s.names c r = .ok (d, rest) ∧
        s.follow d = .ok u ∧ u.run n rest = .ok t := by
  rw [run_cons n s h, bind_eq_ok]
  constructor
  · rintro ⟨⟨d, rest⟩, hread, hrun⟩
    obtain ⟨u, hfollow, hrun⟩ := bind_eq_ok.1 hrun
    exact ⟨d, rest, u, hread, hfollow, hrun⟩
  · rintro ⟨d, rest, u, hread, hfollow, hrun⟩
    exact ⟨(d, rest), hread, bind_eq_ok.2 ⟨u, hfollow, hrun⟩⟩

/-- With only the anchor left, a group that is open stays open. -/
theorem run_lost {s t : State} {n : Nat} {cs : Chars} (hs : s.around ≠ [])
    (hcs : cs <:+ ['$']) (h : s.run n cs = .ok t) : t.around ≠ [] := by
  rcases List.suffix_cons_iff.1 hcs with rfl | hnil
  · cases n with
    | zero =>
        cases h
        exact hs
    | succ n =>
        rw [run_cons n s (s.flags.skip_cons (by decide) (by decide))] at h
        change State.run n { s with level := _ } [] = .ok t at h
        rw [run_nil] at h
        cases h
        exact hs
  · rw [List.suffix_nil.1 hnil, run_nil] at h
    cases h
    exact hs

/-- With a bare brace and the closing characters left, there is no way on. -/
theorem run_brace {s t : State} {n : Nat} {cs : Chars}
    (h : s.run n ('\x7b' :: (cs ++ closing)) = .ok t) (hs : s.around ≠ [])
    (hcs : s.flags.skip cs = []) : t.around ≠ [] := by
  have hcount : readCount s.flags (s.flags.skip (cs ++ closing)) =
      .error .badCount := by
    rcases s.flags.skip_append cs with hskip | ⟨-, hskip⟩
    · rw [hskip, hcs]
      rfl
    · rw [hskip]
      rfl
  cases n with
  | zero =>
      cases h
      exact hs
  | succ n =>
      rw [run_cons_eq_ok (s.flags.skip_cons (by decide) (by decide))] at h
      obtain ⟨d, rest, u, hread, -, -⟩ := h
      obtain ⟨counts, hcounts, -⟩ := bind_eq_ok.1 hread
      obtain ⟨min, hmin, -⟩ := bind_eq_ok.1 hcounts
      rw [hcount] at hmin
      cases hmin

theorem readBoundary_brace {flags : Flags} {cs rest : Chars} {edge : WordEdge}
    (hcs : flags.skip cs = [])
    (h : readBoundary flags ('\x7b' :: (cs ++ closing)) = .ok (edge, rest)) :
    rest = '\x7b' :: (cs ++ closing) := by
  rw [readBoundary, after?_eq_some_iff.2 rfl] at h
  dsimp only at h
  rcases flags.skip_append cs with hskip | ⟨-, hskip⟩
  · rw [hskip, hcs] at h
    cases h
    rfl
  · rw [hskip] at h
    cases h

/-- So a word boundary in front of a bare brace leads nowhere. -/
theorem run_bareBoundary {s t u : State} {n : Nat} {cs rest : Chars}
    {d : Directive} (hbare : IsBareBoundary s.flags cs)
    (hread : readDirective s.flags s.names '\\' (cs ++ closing) = .ok (d, rest))
    (hfollow : s.within.follow d = .ok u) (h : u.run n rest = .ok t) :
    t.around ≠ [] := by
  obtain ⟨r, rfl, q, hbrace, hskip⟩ := hbare
  obtain rfl := after?_eq_some_iff.1 hbrace
  obtain ⟨⟨p, mid⟩, hescape, hread⟩ := bind_eq_ok.1 hread
  obtain ⟨⟨edge, mid'⟩, hboundary, hescape⟩ := bind_eq_ok.1 hescape
  obtain rfl := readBoundary_brace hskip hboundary
  cases hescape
  cases hread
  cases hfollow
  exact run_brace h (within_around_ne_nil s) hskip

/-! ## Runs in lockstep -/

theorem run_enclosed (n : Nat) (s : State) :
    s.enclosed.run (n + 1) ['$'] = .ok s.anchored := by
  rw [run_cons n _ (Flags.skip_cons _ (by decide) (by decide))]
  exact run_nil n s.anchored

/-- Where the pattern is at its end, what is left closes the group. -/
theorem run_closing {s t : State} {n : Nat} {cs : Chars}
    (hskip : s.flags.skip cs = closing) (h : s.within.run (n + 2) cs = .ok t)
    (ht : t.around = []) : s.around = [] ∧ t = s.anchored := by
  obtain ⟨d, rest, u, hread, hfollow, h⟩ :=
    (run_cons_eq_ok (s := s.within) hskip).1 h
  cases hread
  rcases follow_within hfollow with ⟨s', -, rfl⟩ | ⟨-, hs, rfl⟩
  · exact absurd ht (run_lost (within_around_ne_nil s') List.suffix_rfl h)
  · change s.enclosed.run (n + 1) ['$'] = .ok t at h
    rw [run_enclosed] at h
    exact ⟨hs, (Except.ok.inj h).symm⟩

/-- Until the group is closed at its end, a run inside it follows the run without
it. -/
theorem run_within {s t : State} {n m : Nat} {cs : Chars}
    (hn : cs.length < n) (hm : (cs ++ closing).length < m)
    (h : s.within.run m (cs ++ closing) = .ok t) (ht : t.around = []) :
    s.run n cs = .error .unopenedGroup ∨
      ∃ s', s.run n cs = .ok s' ∧ s'.around = [] ∧ t = s'.anchored := by
  induction m generalizing n s cs with
  | zero => exact absurd hm (Nat.not_lt_zero _)
  | succ m ih =>
      obtain ⟨n, rfl⟩ := Nat.exists_eq_add_one.2 (Nat.zero_lt_of_lt hn)
      rw [List.length_append, show closing.length = 2 from rfl] at hm
      rcases s.flags.skip_append cs with hskip | ⟨-, hskip⟩
      · cases hcs : s.flags.skip cs with
        | nil =>
            rw [hcs] at hskip
            obtain ⟨m, rfl⟩ : ∃ k, m = k + 1 :=
              Nat.exists_eq_add_one.2 (by omega)
            obtain ⟨hs, rfl⟩ := run_closing hskip h ht
            exact .inr ⟨s, by rw [run, hcs]; rfl, hs, rfl⟩
        | cons c r =>
            have hlength := (s.flags.skip_suffix cs).length_le
            rw [hcs, List.length_cons] at hlength
            rw [hcs, List.cons_append] at hskip
            obtain ⟨d, rest, u, hread, hfollow, h⟩ :=
              (run_cons_eq_ok (s := s.within) hskip).1 h
            rw [run_cons n s hcs]
            by_cases hbare : c = '\\' ∧ IsBareBoundary s.flags r
            · obtain ⟨rfl, hbare⟩ := hbare
              exact absurd ht (run_bareBoundary hbare hread hfollow h)
            · rcases readDirective_kept s.names hbare d rest hread with
                hlost | ⟨rest', rfl, halone⟩
              · rcases follow_within hfollow with ⟨s', -, rfl⟩ | ⟨rfl, -, -⟩
                · exact absurd ht (run_lost (within_around_ne_nil s') hlost h)
                · cases readDirective_yields hread
                  have hlength := hlost.length_le
                  simp [closing] at hlength
              · rw [halone]
                rcases follow_within hfollow with
                  ⟨s', hs', rfl⟩ | ⟨rfl, hs, -⟩
                · have hrest := (readDirective_leaves s.flags s.names c r
                    d rest' halone).length_le
                  simp only [bind, Except.bind, hs']
                  exact ih (by omega)
                    (by rw [List.length_append, show closing.length = 2 from rfl]
                        omega) h
                · refine .inl ?_
                  simp only [bind, Except.bind, follow, hs]
                  rfl
      · rw [run, show s.within.flags.skip (cs ++ closing) = [] from hskip] at h
        cases h
        exact absurd ht (within_around_ne_nil s)

end State

/-! ## Patterns for names -/

theorem run_anchor (n : Nat) (pattern : String) :
    State.initial.run (n + 2) (anchor pattern) =
      State.initial.within.run n (pattern.toList ++ closing) := rfl

theorem finish_anchored_regex (s : State) :
    s.anchored.level.finish.regex =
      .seq (.atom (.look .textStart))
        (.seq s.level.finish.regex (.atom (.look .textEnd))) := rfl

theorem depth_le_finish_anchored (s : State) :
    s.level.finish.depth ≤ s.anchored.level.finish.depth := by
  change _ ≤ 1 + max (max (max 0 0) (s.level.finish.depth + 1)) 0
  omega

theorem readPattern_eq_ok {cs : Chars} {r : Regex Atom} :
    readPattern cs = .ok r ↔
      ∃ s, State.initial.run (cs.length + 1) cs = .ok s ∧ s.around = [] ∧
        s.level.finish.depth ≤ maxNesting ∧ s.level.finish.regex = r := by
  rw [readPattern, bind_eq_ok]
  refine exists_congr fun s => and_congr_right fun _ => ?_
  by_cases hs : s.around = []
  · by_cases hdepth : s.level.finish.depth > maxNesting
    · simp only [hs, ne_eq, not_true_eq_false, if_false, hdepth, if_true]
      exact ⟨fun h => (by cases h), fun h => absurd hdepth (Nat.not_lt.2 h.2.1)⟩
    · simp only [hs, ne_eq, not_true_eq_false, if_false, hdepth]
      exact ⟨fun h => ⟨trivial, Nat.not_lt.1 hdepth, Except.ok.inj h⟩,
        fun h => congrArg _ h.2.2⟩
  · simp only [hs, ne_eq, not_false_eq_true, if_true]
    exact ⟨fun h => (by cases h), fun h => absurd h.1 id⟩

/-- A pattern for names that is accepted is accepted by itself, unless it closes
the group that it is put into. It stands then between the two anchors. -/
theorem readPattern_anchor {pattern : String} {r : Regex Atom}
    (h : readPattern (anchor pattern) = .ok r) :
    readPattern pattern.toList = .error .unopenedGroup ∨
      ∃ inner, readPattern pattern.toList = .ok inner ∧
        r = .seq (.atom (.look .textStart))
          (.seq inner (.atom (.look .textEnd))) := by
  obtain ⟨t, hrun, ht, hdepth, rfl⟩ := readPattern_eq_ok.1 h
  have hlength : (anchor pattern).length + 1 =
      (pattern.toList ++ closing).length + 3 + 2 := by
    simp [anchor, closing]
  rw [hlength, run_anchor] at hrun
  rcases State.run_within (Nat.lt_succ_self _) (by omega) hrun ht with
    herror | ⟨s, halone, hs, rfl⟩
  · left
    rw [readPattern, herror]
    rfl
  · exact .inr ⟨s.level.finish.regex, readPattern_eq_ok.2 ⟨s, halone, hs,
      Nat.le_trans (depth_le_finish_anchored s) hdepth, rfl⟩,
      finish_anchored_regex s⟩

end Advisory.Pattern
