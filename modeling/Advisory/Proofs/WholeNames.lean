import Advisory.Proofs.Enclosing
import Advisory.Proofs.Matching
import Advisory.Query.Named

/-!
# Patterns and whole names

A name is meant by a pattern if the pattern between its anchors occurs in it. An
expression that has been read can be searched for, because its repetitions ask
for no more rounds than they allow. Between the anchors it occurs exactly if it
matches from the beginning to the end, so a pattern means the names that it
matches as a whole, unless it closes the group that it is put into.
-/

namespace Advisory.Pattern

/-! ## Repetitions that are read -/

namespace Regex

variable {r : Regex Atom}

theorem Proper.star (h : r.Proper) : r.star.Proper := by
  have hnone : ∀ m, (none : Option Nat) = some m → 0 ≤ m := fun _ h => (by cases h)
  rw [Regex.star.eq_def]
  split
  · exact ⟨h.1, hnone⟩
  · exact ⟨h.1, hnone⟩
  · exact ⟨h.1, hnone⟩
  · exact ⟨h, hnone⟩

theorem Proper.repeatedly (h : r.Proper) {min : Nat} {max : Option Nat}
    (hmax : ∀ m, max = some m → min ≤ m) : (r.repeatedly min max).Proper := by
  rw [Regex.repeatedly.eq_def]
  split
  · exact h.star
  · exact h
  · exact h
  · exact ⟨h, hmax⟩

end Regex

/-- Proper pieces are proper together, if the way they are joined keeps it. -/
theorem Piece.joined_proper {join : Regex Atom → Regex Atom → Regex Atom}
    (hjoin : ∀ q r : Regex Atom, q.Proper → r.Proper → (join q r).Proper)
    {p : Piece} {ps : List Piece} (h : ∀ q ∈ p :: ps, q.regex.Proper) :
    (ps.foldl (fun r q => join q.regex r) p.regex).Proper :=
  List.foldlRecOn ps _ (h p List.mem_cons_self)
    fun r hr q hq => hjoin q.regex r (h q (List.mem_cons_of_mem p hq)) hr

theorem Piece.sequence_proper {ps : List Piece}
    (h : ∀ p ∈ ps, p.regex.Proper) : (sequence ps).regex.Proper := by
  match ps with
  | [] => trivial
  | [p] => exact h p List.mem_cons_self
  | _ :: _ :: _ => exact joined_proper (fun _ _ => And.intro) h

theorem Piece.choice_proper {ps : List Piece}
    (h : ∀ p ∈ ps, p.regex.Proper) : (choice ps).regex.Proper := by
  match ps with
  | [] => trivial
  | [p] => exact h p List.mem_cons_self
  | _ :: _ :: _ => exact joined_proper (fun _ _ => And.intro) h

/-- All that has been read on a level is proper. -/
structure Level.Proper (l : Level) : Prop where
  branches : ∀ p ∈ l.branches, p.regex.Proper
  pieces : ∀ p ∈ l.pieces, p.regex.Proper

namespace Level.Proper

variable {l : Level}

theorem push (h : l.Proper) {p : Piece} (hp : p.regex.Proper) :
    (l.push p).Proper :=
  ⟨h.branches, List.forall_mem_cons.2 ⟨hp, h.pieces⟩⟩

theorem bar (h : l.Proper) : l.bar.Proper :=
  ⟨List.forall_mem_cons.2 ⟨Piece.sequence_proper h.pieces, h.branches⟩,
    fun _ hp => (by cases hp)⟩

theorem finish (h : l.Proper) : l.finish.regex.Proper :=
  Piece.choice_proper
    (List.forall_mem_cons.2 ⟨Piece.sequence_proper h.pieces, h.branches⟩)

theorem repeatLast (h : l.Proper) {l' : Level} {min : Nat} {max : Option Nat}
    (hmax : ∀ m, max = some m → min ≤ m) (hl : l.repeatLast min max = .ok l') :
    l'.Proper := by
  rw [Level.repeatLast] at hl
  split at hl
  · cases hl
  · next p ps hps =>
      have hpieces := h.pieces
      rw [hps, List.forall_mem_cons] at hpieces
      split at hl
      · cases hl
        exact ⟨h.branches,
          List.forall_mem_cons.2 ⟨hpieces.1.repeatedly hmax, hpieces.2⟩⟩
      · cases hl

end Level.Proper

/-- All levels of a state are proper. -/
structure State.Proper (s : State) : Prop where
  level : s.level.Proper
  around : ∀ x ∈ s.around, x.1.Proper

theorem Level.start_proper : Level.start.Proper :=
  ⟨fun _ h => (by cases h), fun _ h => (by cases h)⟩

namespace State.Proper

variable {s t : State}

theorem follow (hs : s.Proper) {d : Directive} {cs rest : Chars}
    (hd : Yields cs d rest) (h : s.follow d = .ok t) : t.Proper := by
  cases hd with
  | bar =>
      cases h
      exact ⟨hs.level.bar, hs.around⟩
  | opened =>
      cases h
      exact ⟨Level.start_proper, List.forall_mem_cons.2 ⟨hs.level, hs.around⟩⟩
  | flagged =>
      cases h
      exact ⟨hs.level.push trivial, hs.around⟩
  | atom =>
      cases h
      exact ⟨hs.level.push trivial, hs.around⟩
  | counted hmax =>
      obtain ⟨level, hlevel, h⟩ := bind_eq_ok.1 h
      cases h
      exact ⟨hs.level.repeatLast hmax hlevel, hs.around⟩
  | closed =>
      rw [State.follow] at h
      split at h
      · cases h
      · next level flags around hs' =>
          cases h
          have haround := hs.around
          rw [hs', List.forall_mem_cons] at haround
          exact ⟨haround.1.push hs.level.finish, haround.2⟩

theorem run (hs : s.Proper) {n : Nat} {cs : Chars} (h : s.run n cs = .ok t) :
    t.Proper := by
  induction n generalizing s cs with
  | zero =>
      cases h
      exact hs
  | succ n ih =>
      cases hcs : s.flags.skip cs with
      | nil =>
          rw [State.run, hcs] at h
          cases h
          exact hs
      | cons c r =>
          obtain ⟨d, rest, u, hread, hfollow, h⟩ := (run_cons_eq_ok hcs).1 h
          exact ih (hs.follow (readDirective_yields hread) hfollow) h

end State.Proper

theorem readPattern_proper {cs : Chars} {r : Regex Atom}
    (h : readPattern cs = .ok r) : r.Proper := by
  obtain ⟨s, hrun, -, -, rfl⟩ := readPattern_eq_ok.1 h
  have hinitial : State.initial.Proper :=
    ⟨Level.start_proper, fun _ h => (by cases h)⟩
  exact (hinitial.run hrun).level.finish

theorem readPattern_of_compile {pattern : String} {r : Regex Atom}
    (h : compile pattern = .ok r) : readPattern (anchor pattern) = .ok r := by
  obtain ⟨r', hread, h⟩ := bind_eq_ok.1 h
  split at h
  · cases h
  · cases h
    exact hread

/-! ## Whole names -/

theorem leads_textStart_iff {text : Array Char} {i j : Nat} :
    (Atom.look .textStart).leads text i j = true ↔ i = 0 ∧ j = 0 := by
  simp only [Atom.leads, Look.holds, Bool.and_eq_true, decide_eq_true_eq]
  omega

theorem leads_textEnd_iff {text : Array Char} {i j : Nat} :
    (Atom.look .textEnd).leads text i j = true ↔
      i = text.size ∧ j = text.size := by
  simp only [Atom.leads, Look.holds, Bool.and_eq_true, decide_eq_true_eq]
  omega

/-- Between the anchors there is only the whole text. -/
theorem Regex.matches_anchored_iff {r : Regex Atom} {text : Array Char}
    {i j : Nat} :
    (Regex.seq (.atom (.look .textStart))
        (.seq r (.atom (.look .textEnd)))).Matches text i j ↔
      i = 0 ∧ j = text.size ∧ r.Matches text 0 text.size := by
  simp only [matches_seq_iff, matches_atom_iff, leads_textStart_iff,
    leads_textEnd_iff]
  constructor
  · rintro ⟨k, ⟨rfl, rfl⟩, l, hr, rfl, rfl⟩
    exact ⟨rfl, rfl, hr⟩
  · rintro ⟨rfl, rfl, hr⟩
    exact ⟨0, ⟨rfl, rfl⟩, text.size, hr, rfl, rfl⟩

/-- An expression matches a text from its beginning to its end. -/
def Regex.MatchesWhole (r : Regex Atom) (s : String) : Prop :=
  r.Matches s.toList.toArray 0 s.toList.toArray.size

/-- A pattern for names that does not close the group it is put into is a pattern
by itself, and the names that it means are those that this matches as a whole.
Where the expression for names occurs in a text, it matches the whole text. -/
theorem compile_matches_whole {pattern : String} {r : Regex Atom}
    (h : compile pattern = .ok r)
    (hgroup : readPattern pattern.toList ≠ .error .unopenedGroup) :
    (∀ text, r.occursIn text = true → r.MatchesWhole text) ∧
      ∃ inner, readPattern pattern.toList = .ok inner ∧
        (∀ text, r.occursIn text = true ↔ inner.MatchesWhole text) ∧
        ∀ known, ∃ names, denoted [pattern] known = .ok names ∧
          ∀ name, name ∈ names ↔ name ∈ known ∧ inner.MatchesWhole name := by
  have hread := readPattern_of_compile h
  have hproper := readPattern_proper hread
  obtain ⟨inner, halone, rfl⟩ := (readPattern_anchor hread).resolve_left hgroup
  have hoccurs : ∀ text, (Regex.seq (.atom (.look .textStart))
      (.seq inner (.atom (.look .textEnd)))).occursIn text = true ↔
        inner.MatchesWhole text := by
    intro text
    rw [Regex.occursIn_iff hproper]
    constructor
    · rintro ⟨i, j, hij⟩
      exact (Regex.matches_anchored_iff.1 hij).2.2
    · exact fun hinner => ⟨0, _, Regex.matches_anchored_iff.2 ⟨rfl, rfl, hinner⟩⟩
  refine ⟨fun text htext => ?_, inner, halone, hoccurs, fun known => ?_⟩
  · exact Regex.matches_anchored_iff.2 ⟨rfl, rfl, (hoccurs text).1 htext⟩
  · refine ⟨known.filter _, by rw [denoted, h], fun name => ?_⟩
    rw [List.mem_filter, hoccurs name]

/-- The expression of the pattern `a|b+`. -/
def alternatives : Regex Atom :=
  .alt (.atom (.char (.single 'a')))
    (.repeated (.atom (.char (.single 'b'))) 1 none)

/-- The expression of the pattern `a|b+` between its anchors. -/
def anchoredAlternatives : Regex Atom :=
  .seq (.atom (.look .textStart)) (.seq alternatives (.atom (.look .textEnd)))

theorem compile_matches_whole_alternatives :
    ∃ r inner, compile "a|b+" = .ok r ∧ readPattern "a|b+".toList = .ok inner ∧
      (∀ text, r.occursIn text = true ↔ inner.MatchesWhole text) ∧
      r.occursIn "bb" = true ∧ r.occursIn "ax" = false ∧
      r.occursIn "cb" = false := by
  have hcompile : compile "a|b+" = .ok anchoredAlternatives := rfl
  have hread : readPattern "a|b+".toList = .ok alternatives := rfl
  have hgroup : readPattern "a|b+".toList ≠ .error .unopenedGroup := by
    rw [hread]
    exact fun h => by cases h
  obtain ⟨inner', hread', hoccurs, -⟩ :=
    (compile_matches_whole hcompile hgroup).2
  exact ⟨anchoredAlternatives, inner', hcompile, hread', hoccurs,
    by decide +kernel, by decide +kernel, by decide +kernel⟩

/-- A pattern that closes the group and opens another one stands with only half
of itself behind each anchor, and can mean a name of which only a part matches. -/
theorem exists_compile_matches_part :
    ∃ r, compile "a)|(?:b" = .ok r ∧ r.occursIn "ax" = true ∧
      ¬ r.MatchesWhole "ax" ∧ denoted ["a)|(?:b"] ["ax"] = .ok ["ax"] := by
  refine ⟨.alt (.seq (.atom (.look .textStart)) (.atom (.char (.single 'a'))))
    (.seq (.atom (.char (.single 'b'))) (.atom (.look .textEnd))), rfl,
    by decide +kernel, fun h => ?_, rfl⟩
  rcases Regex.matches_alt_iff.1 h with h | h
  · obtain ⟨j, hstart, ha⟩ := Regex.matches_seq_iff.1 h
    obtain ⟨-, rfl⟩ := leads_textStart_iff.1 (Regex.matches_atom_iff.1 hstart)
    exact absurd (Regex.matches_atom_iff.1 ha) (by decide +kernel)
  · obtain ⟨j, hb, hend⟩ := Regex.matches_seq_iff.1 h
    obtain ⟨rfl, -⟩ := leads_textEnd_iff.1 (Regex.matches_atom_iff.1 hend)
    exact absurd (Regex.matches_atom_iff.1 hb) (by decide +kernel)

end Advisory.Pattern
