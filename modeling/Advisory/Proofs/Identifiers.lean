import Advisory.Proofs.Grammar

/-!
# Written identifiers can be read

Writing an identifier is one way to spell it, with the epoch on the version
and without an ending, and so it can be read back if this spelling keeps to
the grammar. Apart from what the grammar asks of the fields there is one more
condition. An ending `.rpm` is dropped before anything else is looked at, so
an architecture of this name is lost when it is written, and the rest is
either no identifier or another one.

The reader knows this architecture nevertheless, from texts that end with
`.rpm` twice, so what it reads is not always what it reads again.
-/

namespace Advisory

namespace Nevra

open Spelling (epochValue)

/-- An identifier that can be told from its written form. -/
structure WellFormed (n : Nevra) : Prop where
  name : n.name ≠ "" ∧ ':' ∉ n.name.toList
  epoch : 0 ≤ n.epoch
  /-- Epochs are signed 64-bit integers. -/
  word : n.epoch ≤ maxEpoch
  version : n.version ≠ "" ∧ ':' ∉ n.version.toList ∧ '-' ∉ n.version.toList
  release : n.release ≠ "" ∧ ':' ∉ n.release.toList ∧ '-' ∉ n.release.toList
  arch : n.arch ≠ "" ∧ ∀ c ∈ n.arch.toList,
    ('a' ≤ c ∧ c ≤ 'z') ∨ c.isDigit = true ∨ c = '_'
  notRpm : n.arch ≠ "rpm"

/-! ## The spelling that is written -/

def spelling (n : Nevra) : Spelling where
  nameEpoch := none
  name := n.name
  versionEpoch := if n.epoch > 0 then some (toString n.epoch) else none
  version := n.version
  release := n.release
  arch := n.arch
  asFile := false

theorem body_spelling (n : Nevra) : n.spelling.body = n.render := by
  simp only [Spelling.body, spelling, render]
  split
  · simp [Spelling.epochText]
  · simp [Spelling.epochText]

theorem text_spelling (n : Nevra) : n.spelling.text = n.render := by
  rw [← body_spelling]
  exact String.append_empty

theorem toList_toString (n : Nat) :
    (toString (n : Int)).toList = Nat.toDigits 10 n :=
  Nat.toList_repr

theorem epochValue_toString (n : Nat) : epochValue (toString (n : Int)) = n := by
  rw [epochValue, toList_toString]
  exact Nat.ofDigitChars_toDigits (by decide) (by decide)

theorem nevra_spelling {n : Nevra} (h : 0 ≤ n.epoch) :
    n.spelling.nevra = n := by
  obtain ⟨name, epoch, version, release, arch⟩ := n
  obtain ⟨e, rfl⟩ := Int.eq_ofNat_of_zero_le h
  simp only [Spelling.nevra, spelling]
  split
  · exact congrArg (fun e : Nat => Nevra.mk name e version release arch)
      (epochValue_toString e)
  · next hzero =>
      have he : e = 0 := by omega
      subst he
      rfl

theorem isEpoch_toString {n : Nat} (h : n ≤ maxEpoch) :
    Spelling.IsEpoch (toString (n : Int)) where
  nonempty hempty := by
    have hdigits := toList_toString n
    rw [hempty] at hdigits
    exact Nat.toDigits_ne_nil hdigits.symm
  decimal c hc := by
    rw [toList_toString] at hc
    exact Nat.isDigit_of_mem_toDigits (by decide) (by decide) hc
  word := by rwa [epochValue_toString]

theorem point_not_mem_rpm : '.' ∉ "rpm".toList := by decide

/-- Behind its last point a text ends with `rpm` exactly if that is its
architecture. -/
theorem ending_suffix_body_iff {w : Spelling} (h : '.' ∉ w.arch.toList) :
    ".rpm".toList <:+ w.body.toList ↔ w.arch = "rpm" := by
  rw [Spelling.toList_body]
  constructor
  · rintro ⟨front, hfront⟩
    exact String.toList_inj.1
      ((append_sep_inj point_not_mem_rpm h).1 hfront).2.symm
  · intro harch
    rw [harch]
    exact List.suffix_append _ _

theorem WellFormed.grammatical {n : Nevra} (h : n.WellFormed) :
    n.spelling.Grammatical where
  nameEpoch := by simp [spelling]
  name := h.name
  versionEpoch digits hdigits := by
    obtain ⟨e, he⟩ := Int.eq_ofNat_of_zero_le h.epoch
    have hword := h.word
    simp only [spelling, Option.mem_def, Option.ite_none_right_eq_some,
      Option.some.injEq] at hdigits
    rw [← hdigits.2, he]
    rw [he] at hword
    exact isEpoch_toString (Int.ofNat_le.1 hword)
  version := h.version
  release := h.release
  arch := h.arch
  plain _ := by
    rw [ending_suffix_body_iff (point_not_mem h.arch.2)]
    exact h.notRpm

/-- A well-formed identifier is read from its written form. -/
theorem parse_render {n : Nevra} (h : n.WellFormed) :
    parse n.render = .ok n :=
  parse_eq_ok_iff.2
    ⟨n.spelling, h.grammatical, n.text_spelling, nevra_spelling h.epoch⟩

/-! ## What is read back -/

theorem epoch_bounds {w : Spelling} (h : w.Grammatical) :
    0 ≤ w.nevra.epoch ∧ w.nevra.epoch ≤ maxEpoch := by
  have hword : ∀ epoch : Option String,
      (∀ digits ∈ epoch, Spelling.IsEpoch digits) →
        (epoch.map epochValue).getD 0 ≤ maxEpoch := by
    intro epoch hepoch
    cases epoch with
    | none => exact Nat.zero_le _
    | some digits => exact (hepoch digits rfl).word
  refine ⟨Int.natCast_nonneg _, Int.ofNat_le.2 ?_⟩
  cases hversion : w.versionEpoch with
  | none => exact hword w.nameEpoch h.nameEpoch
  | some digits => exact hword (some digits) (hversion ▸ h.versionEpoch)

/-- Of what is read only the architecture can stand in the way of reading it
again. -/
theorem wellFormed_iff_of_parse {text : String} {n : Nevra}
    (h : parse text = .ok n) : n.WellFormed ↔ n.arch ≠ "rpm" := by
  obtain ⟨w, hw, -, rfl⟩ := parse_eq_ok_iff.1 h
  obtain ⟨hepoch, hword⟩ := epoch_bounds hw
  exact ⟨fun hform => hform.notRpm, fun harch =>
    ⟨hw.name, hepoch, hword, hw.version, hw.release, hw.arch, harch⟩⟩

theorem exists_front (w : Spelling) : ∃ front, w.body.toList =
    (front ++ '-' :: w.release.toList) ++ '.' :: w.arch.toList :=
  ⟨_, w.toList_body⟩

/-- The name of a file is not how its identifier is written. -/
theorem asFile_of_written {w : Spelling} (h : w.Grammatical)
    (htext : w.text = w.nevra.render) : w.asFile = false := by
  rw [← Bool.not_eq_true]
  intro hfile
  obtain ⟨front, hfront⟩ := exists_front w
  obtain ⟨front', hfront'⟩ := exists_front w.nevra.spelling
  rw [body_spelling, ← htext, Spelling.text, hfile, String.toList_append,
    hfront] at hfront'
  -- The last point stands in front of the ending, and in front of the
  -- architecture as well, which then would be part of the release.
  obtain ⟨hhead, harch⟩ :=
    (append_sep_inj point_not_mem_rpm (point_not_mem h.arch.2)).1 hfront'
  have hdash : '-' ∉ w.release.toList ++ '.' :: w.arch.toList := by
    rw [show w.arch.toList = "rpm".toList from harch.symm, List.mem_append,
      not_or]
    exact ⟨h.release.2.2, by decide⟩
  rw [List.append_assoc, List.cons_append] at hhead
  have hrelease := ((append_sep_inj hdash h.release.2.2).1 hhead).2
  simp at hrelease

/-- An identifier is read back from its written form exactly if it is
well-formed. -/
theorem parse_render_iff {n : Nevra} :
    parse n.render = .ok n ↔ n.WellFormed := by
  refine ⟨fun h => (wellFormed_iff_of_parse h).2 ?_, parse_render⟩
  obtain ⟨w, hw, htext, rfl⟩ := parse_eq_ok_iff.1 h
  have hplain := hw.plain (asFile_of_written hw htext)
  rwa [ending_suffix_body_iff (point_not_mem hw.arch.2)] at hplain

/-- What was read is read again after it has been written, unless its
architecture has the name of the ending of files. -/
theorem parse_render_of_parse {text : String} {n : Nevra}
    (h : parse text = .ok n) : parse n.render = .ok n ↔ n.arch ≠ "rpm" := by
  rw [parse_render_iff, wellFormed_iff_of_parse h]

theorem parse_render_of_parse_epoch :
    parse "2:vim-7.4-5.el7.x86_64.rpm" =
      .ok ⟨"vim", 2, "7.4", "5.el7", "x86_64"⟩ ∧
    parse (render ⟨"vim", 2, "7.4", "5.el7", "x86_64"⟩) =
      .ok ⟨"vim", 2, "7.4", "5.el7", "x86_64"⟩ := by
  have h : parse "2:vim-7.4-5.el7.x86_64.rpm" =
      .ok ⟨"vim", 2, "7.4", "5.el7", "x86_64"⟩ := by
    decide +kernel
  exact ⟨h, (parse_render_of_parse h).2 (by decide)⟩

/-- A text that ends with `.rpm` twice is read, but what is written for it is
not. -/
theorem parse_render_doubled_ending :
    parse "a-1-1.rpm.rpm" = .ok ⟨"a", 0, "1", "1", "rpm"⟩ ∧
    render ⟨"a", 0, "1", "1", "rpm"⟩ = "a-1-1.rpm" ∧
    parse (render ⟨"a", 0, "1", "1", "rpm"⟩) = .error ⟨"a-1-1.rpm"⟩ := by
  decide +kernel

/-- It may also be read as something else. -/
example : parse "bash-4.2-31.el7.x86_64.rpm.rpm" =
      .ok ⟨"bash", 0, "4.2", "31.el7.x86_64", "rpm"⟩ ∧
    parse (render ⟨"bash", 0, "4.2", "31.el7.x86_64", "rpm"⟩) =
      .ok ⟨"bash", 0, "4.2", "31.el7", "x86_64"⟩ := by
  decide +kernel

/-! ## Whole tuples -/

/-- A written tuple is read back exactly if its fields can be told apart and
its epoch shows, and so no two such tuples are written alike. -/
theorem render_survives_iff :
    (∀ (name version release arch : String) (epoch : Int64),
      parse (ofParts name ⟨epoch.toInt, version, release⟩ arch).render =
        .ok (ofParts name ⟨epoch.toInt, version, release⟩ arch) ↔
      (name ≠ "" ∧ ':' ∉ name.toList) ∧
      (version ≠ "" ∧ ':' ∉ version.toList ∧ '-' ∉ version.toList) ∧
      (release ≠ "" ∧ ':' ∉ release.toList ∧ '-' ∉ release.toList) ∧
      0 ≤ epoch ∧
      (arch ≠ "" ∧ ∀ c ∈ arch.toList,
        ('a' ≤ c ∧ c ≤ 'z') ∨ c.isDigit = true ∨ c = '_') ∧
      arch ≠ "rpm") ∧
    ∀ n n' : Nevra, n.WellFormed → n'.WellFormed →
      n.render = n'.render → n = n' := by
  constructor
  · intro name version release arch epoch
    rw [parse_render_iff, Int64.le_iff_toInt_le, Int64.toInt_zero]
    constructor
    · intro h
      exact ⟨h.name, h.version, h.release, h.epoch, h.arch, h.notRpm⟩
    · rintro ⟨hname, hversion, hrelease, hepoch, harch, hrpm⟩
      exact ⟨hname, hepoch, Int.le_sub_one_of_lt epoch.toInt_lt, hversion,
        hrelease, harch, hrpm⟩
  · intro n n' h h' heq
    have hread := parse_render h
    rw [heq, parse_render h'] at hread
    cases hread
    rfl

theorem render_survives_epoch :
    parse (ofParts "vim" ⟨Int64.toInt 2, "7.4", "5.el7"⟩ "x86_64").render =
      .ok (ofParts "vim" ⟨Int64.toInt 2, "7.4", "5.el7"⟩ "x86_64") ∧
    ∀ n : Nevra, n.WellFormed →
      n.render = render ⟨"vim", 2, "7.4", "5.el7", "x86_64"⟩ →
        n = ⟨"vim", 2, "7.4", "5.el7", "x86_64"⟩ := by
  have hread := (render_survives_iff.1 "vim" "7.4" "5.el7" "x86_64" 2).2
    (by simp)
  exact ⟨hread, fun n h heq =>
    render_survives_iff.2 n _ h (parse_render_iff.1 hread) heq⟩

end Nevra

end Advisory
