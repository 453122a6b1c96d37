import Mathlib.Data.List.TakeWhile
import Mathlib.Data.Option.Basic
import Advisory.Package.Written

/-!
# Which texts are identifiers

The reader cuts a text from the right and gives up where a cut fails, so what
it accepts is scattered over its steps. `Spelling` says it from the other
side: a text is an identifier if it can be put together from a name, a
version, a release and an architecture, with an epoch in front of the name or
of the version and an ending `.rpm`, all three of them optional. What is read
is what was put together; of two epochs the one on the version is meant.

A cut can be undone in one way only, because what stands behind a separator
does not hold it: `splitLast_eq_some_iff` says so of the cuts at points and
dashes, and a field gives up its epoch at its last colon in the same manner.
This is why a text has at most one spelling, many as its dashes and points
may be. Digits that are too large for an epoch are not cut off, and the colon
behind them then spoils the field.
-/

namespace Advisory

/-! ## Spellings -/

/-- A way to spell an identifier: its fields, two of them with the digits of
an epoch in front, and whether it ends like the name of a file. -/
structure Spelling where
  nameEpoch : Option String
  name : String
  versionEpoch : Option String
  version : String
  release : String
  arch : String
  asFile : Bool
deriving DecidableEq, Repr

namespace Spelling

/-- The number that digits stand for. -/
def epochValue (digits : String) : Nat :=
  Nat.ofDigitChars 10 digits.toList 0

/-- Some digits, and not too many of them for a signed 64-bit integer. -/
structure IsEpoch (digits : String) : Prop where
  nonempty : digits ≠ ""
  decimal : ∀ c ∈ digits.toList, c.isDigit = true
  word : epochValue digits ≤ Nevra.maxEpoch

/-- An epoch as it stands in front of a field. -/
def epochText : Option String → String
  | none => ""
  | some digits => digits ++ ":"

/-- All but the ending. -/
def body (w : Spelling) : String :=
  epochText w.nameEpoch ++ w.name ++ "-" ++
    epochText w.versionEpoch ++ w.version ++ "-" ++ w.release ++ "." ++ w.arch

/-- What the names of files end with. -/
def ending (asFile : Bool) : String := if asFile then ".rpm" else ""

def text (w : Spelling) : String := w.body ++ ending w.asFile

/-- The identifier that is spelled. -/
def nevra (w : Spelling) : Nevra where
  name := w.name
  epoch := ((w.versionEpoch <|> w.nameEpoch).map epochValue).getD 0
  version := w.version
  release := w.release
  arch := w.arch

structure Grammatical (w : Spelling) : Prop where
  nameEpoch : ∀ digits ∈ w.nameEpoch, IsEpoch digits
  name : w.name ≠ "" ∧ ':' ∉ w.name.toList
  versionEpoch : ∀ digits ∈ w.versionEpoch, IsEpoch digits
  version : w.version ≠ "" ∧ ':' ∉ w.version.toList ∧ '-' ∉ w.version.toList
  release : w.release ≠ "" ∧ ':' ∉ w.release.toList ∧ '-' ∉ w.release.toList
  arch : w.arch ≠ "" ∧ ∀ c ∈ w.arch.toList,
    ('a' ≤ c ∧ c ≤ 'z') ∨ c.isDigit = true ∨ c = '_'
  /-- An ending `.rpm` is always that of a file. -/
  plain : w.asFile = false → ¬ ".rpm".toList <:+ w.body.toList

end Spelling

namespace Nevra

/-! ## Cuts -/

theorem splitLast_eq_none_iff {sep : Char} {cs : List Char} :
    splitLast sep cs = none ↔ sep ∉ cs := by
  induction cs with
  | nil => simp [splitLast]
  | cons c cs ih =>
      rw [splitLast, List.mem_cons, not_or, ← ih]
      cases splitLast sep cs with
      | none => simp [eq_comm]
      | some parts => simp

theorem splitLast_append {sep : Char} {after : List Char} (h : sep ∉ after)
    (before : List Char) :
    splitLast sep (before ++ sep :: after) = some (before, after) := by
  induction before with
  | nil =>
      rw [List.nil_append, splitLast, splitLast_eq_none_iff.2 h]
      exact if_pos rfl
  | cons c before ih => rw [List.cons_append, splitLast, ih]

/-- What is put together at a separator is cut there, unless the separator
comes again. -/
theorem splitLast_eq_some_iff {sep : Char} {cs before after : List Char} :
    splitLast sep cs = some (before, after) ↔
      cs = before ++ sep :: after ∧ sep ∉ after := by
  constructor
  · intro h
    induction cs generalizing before with
    | nil => cases h
    | cons c cs ih =>
        rw [splitLast] at h
        -- A separator at the front counts only if none follows.
        split at h
        · next before' after' hsplit =>
            cases h
            obtain ⟨rfl, hafter⟩ := ih hsplit
            exact ⟨rfl, hafter⟩
        · next hnone =>
            split at h
            · next heq =>
                cases h
                exact ⟨by rw [heq]; rfl, splitLast_eq_none_iff.1 hnone⟩
            · cases h
  · rintro ⟨rfl, hafter⟩
    exact splitLast_append hafter before

/-- The parts of a text that is put together at a separator are determined by
the text. -/
theorem append_sep_inj {sep : Char} {before before' after after' : List Char}
    (h : sep ∉ after) (h' : sep ∉ after') :
    before ++ sep :: after = before' ++ sep :: after' ↔
      before = before' ∧ after = after' := by
  refine ⟨fun heq => ?_, by rintro ⟨rfl, rfl⟩; rfl⟩
  have hsplit := splitLast_append h before
  rw [heq, splitLast_append h' before'] at hsplit
  cases hsplit
  exact ⟨rfl, rfl⟩

theorem dropRpm_eq_iff {cs body : List Char} : dropRpm cs = body ↔
    ∃ asFile, cs = body ++ (Spelling.ending asFile).toList ∧
      (asFile = false → ¬ ".rpm".toList <:+ body) := by
  show (if ".rpm".toList.isSuffixOf cs then _ else _) = body ↔ _
  split
  · next hsuffix =>
      obtain ⟨front, rfl⟩ := List.isSuffixOf_iff_suffix.1 hsuffix
      have htake : (front ++ ".rpm".toList).take
          ((front ++ ".rpm".toList).length - 4) = front := by
        simp
      rw [htake]
      constructor
      · rintro rfl
        exact ⟨true, rfl, fun h => by cases h⟩
      · rintro ⟨asFile, hcs, hplain⟩
        cases asFile with
        | false =>
            have hbody : front ++ ".rpm".toList = body := by
              simpa [Spelling.ending] using hcs
            exact absurd (hbody ▸ List.suffix_append _ _) (hplain rfl)
        | true => exact List.append_cancel_right hcs
  · next hsuffix =>
      rw [List.isSuffixOf_iff_suffix] at hsuffix
      constructor
      · rintro rfl
        exact ⟨false, by simp [Spelling.ending], fun _ => hsuffix⟩
      · rintro ⟨asFile, hcs, -⟩
        cases asFile with
        | false => simpa [Spelling.ending] using hcs
        | true => exact absurd (hcs ▸ List.suffix_append _ _) hsuffix

/-! ## Fields -/

section Fields

open Spelling (epochText epochValue IsEpoch)

theorem isPlain_toList {s : String} :
    isPlain s.toList = true ↔ s ≠ "" ∧ ':' ∉ s.toList := by
  simp [isPlain]

theorem isArch_toList {s : String} : isArch s.toList = true ↔ s ≠ "" ∧
    ∀ c ∈ s.toList, ('a' ≤ c ∧ c ≤ 'z') ∨ c.isDigit = true ∨ c = '_' := by
  simp [isArch, or_assoc]

theorem point_not_mem {arch : String} (h : ∀ c ∈ arch.toList,
    ('a' ≤ c ∧ c ≤ 'z') ∨ c.isDigit = true ∨ c = '_') :
    '.' ∉ arch.toList := by
  intro hpoint
  rcases h '.' hpoint with hletter | hdigit | hline
  · exact absurd hletter (by decide)
  · exact absurd hdigit (by decide)
  · exact absurd hline (by decide)

theorem splitEpoch_of_not_mem {field : List Char} (h : ':' ∉ field) :
    splitEpoch field = (none, field) := by
  simp only [splitEpoch]
  split
  · next rest hrest =>
      have hmem : ':' ∈ field.dropWhile Char.isDigit := by
        rw [hrest]
        exact List.mem_cons_self
      exact absurd ((List.dropWhile_sublist _).mem hmem) h
  · rfl

theorem splitEpoch_digits {digits : List Char} (hne : digits ≠ [])
    (hdigits : ∀ c ∈ digits, c.isDigit = true)
    (hword : decimalValue digits ≤ maxEpoch) (rest : List Char) :
    splitEpoch (digits ++ ':' :: rest) =
      (some (decimalValue digits), rest) := by
  have htake : (digits ++ ':' :: rest).takeWhile Char.isDigit = digits := by
    rw [List.takeWhile_append_of_pos hdigits, List.takeWhile_cons_of_neg
      (by decide), List.append_nil]
  have hdrop : (digits ++ ':' :: rest).dropWhile Char.isDigit =
      ':' :: rest := by
    rw [List.dropWhile_append_of_pos hdigits, List.dropWhile_cons_of_neg
      (by decide)]
  simp only [splitEpoch, htake, hdrop]
  exact if_pos ⟨hne, hword⟩

theorem toList_epochText (digits : String) (rest : List Char) :
    (epochText (some digits)).toList ++ rest =
      digits.toList ++ ':' :: rest := by
  simp [epochText]

theorem splitEpoch_epochText {epoch : Option String}
    (h : ∀ digits ∈ epoch, IsEpoch digits) {rest : List Char}
    (hrest : ':' ∉ rest) : splitEpoch ((epochText epoch).toList ++ rest) =
      (epoch.map epochValue, rest) := by
  cases epoch with
  | none => exact splitEpoch_of_not_mem hrest
  | some digits =>
      have hepoch := h digits rfl
      rw [toList_epochText]
      exact splitEpoch_digits (mt String.toList_eq_nil_iff.1 hepoch.nonempty)
        hepoch.decimal hepoch.word rest

/-- Whatever is cut off a field is an epoch. -/
theorem exists_epochText (field : List Char) : ∃ epoch : Option String,
    (∀ digits ∈ epoch, IsEpoch digits) ∧
    (epochText epoch).toList ++ (splitEpoch field).2 = field := by
  simp only [splitEpoch]
  split
  · next rest hdrop =>
      split
      · next hepoch =>
          obtain ⟨hne, hword⟩ := hepoch
          refine ⟨some (String.ofList (field.takeWhile Char.isDigit)),
            fun digits hdigits => ?_, ?_⟩
          · rw [← Option.mem_some_iff.1 hdigits]
            constructor
            · exact mt String.ofList_eq_empty_iff.1 hne
            · rw [String.toList_ofList]
              exact fun c => List.mem_takeWhile_imp
            · rwa [epochValue, String.toList_ofList]
          · rw [toList_epochText, String.toList_ofList, ← hdrop,
              List.takeWhile_append_dropWhile]
      · exact ⟨none, by simp, rfl⟩
  · exact ⟨none, by simp, rfl⟩

/-- A field that is plain behind its epoch is put together from both. -/
theorem exists_field {field : List Char}
    (h : isPlain (splitEpoch field).2 = true) :
    ∃ (epoch : Option String) (word : String),
      (∀ digits ∈ epoch, IsEpoch digits) ∧
      (word ≠ "" ∧ ':' ∉ word.toList) ∧
      (epochText epoch).toList ++ word.toList = field := by
  obtain ⟨epoch, hepoch, hfield⟩ := exists_epochText field
  refine ⟨epoch, String.ofList (splitEpoch field).2, hepoch, ?_, ?_⟩
  · rwa [← isPlain_toList, String.toList_ofList]
  · rwa [String.toList_ofList]

/-- An epoch and what stands behind it are determined by the field. -/
theorem epochText_append_inj {epoch epoch' : Option String}
    {rest rest' : List Char} (h : ':' ∉ rest) (h' : ':' ∉ rest')
    (heq : (epochText epoch).toList ++ rest =
      (epochText epoch').toList ++ rest') : epoch = epoch' ∧ rest = rest' := by
  -- An epoch on one side only would put its colon into the other rest.
  cases epoch with
  | none =>
      cases epoch' with
      | none => exact ⟨rfl, heq⟩
      | some digits' =>
          rw [toList_epochText] at heq
          change rest = _ at heq
          exact absurd (by rw [heq]; simp) h
  | some digits =>
      cases epoch' with
      | none =>
          rw [toList_epochText] at heq
          change _ = rest' at heq
          exact absurd (by rw [← heq]; simp) h'
      | some digits' =>
          rw [toList_epochText, toList_epochText, append_sep_inj h h'] at heq
          exact ⟨congrArg some (String.toList_inj.1 heq.1), heq.2⟩

end Fields

/-- The steps of the reader, one after the other. -/
theorem parseChars_eq_some_iff {cs : List Char} {n : Nevra} :
    parseChars cs = some n ↔ ∃ head arch,
      splitLast '.' (dropRpm cs) = some (head, arch) ∧ isArch arch = true ∧
      ∃ front release,
      splitLast '-' head = some (front, release) ∧ isPlain release = true ∧
      ∃ nameField versionField,
      splitLast '-' front = some (nameField, versionField) ∧
      isPlain (splitEpoch versionField).2 = true ∧
      isPlain (splitEpoch nameField).2 = true ∧
      { name := String.ofList (splitEpoch nameField).2
        epoch := ((splitEpoch versionField).1 <|>
          (splitEpoch nameField).1).getD 0
        version := String.ofList (splitEpoch versionField).2
        release := String.ofList release
        arch := String.ofList arch } = n := by
  simp [parseChars, Option.bind_eq_some_iff, Option.guard_eq_some']

end Nevra

namespace Spelling

open Nevra

variable {w w' : Spelling}

/-! ## Spelled texts -/

theorem toList_body (w : Spelling) : w.body.toList =
    ((((epochText w.nameEpoch).toList ++ w.name.toList) ++
      '-' :: ((epochText w.versionEpoch).toList ++ w.version.toList)) ++
      '-' :: w.release.toList) ++ '.' :: w.arch.toList := by
  simp [body]

theorem Grammatical.dropRpm_text (h : w.Grammatical) :
    dropRpm w.text.toList = w.body.toList := by
  rw [dropRpm_eq_iff, text, String.toList_append]
  exact ⟨w.asFile, rfl, h.plain⟩

theorem Grammatical.dash_not_mem (h : w.Grammatical) :
    '-' ∉ (epochText w.versionEpoch).toList ++ w.version.toList := by
  rw [List.mem_append, not_or]
  refine ⟨?_, h.version.2.2⟩
  cases hepoch : w.versionEpoch with
  | none => exact List.not_mem_nil
  | some digits =>
      rw [epochText, String.toList_append, List.mem_append, not_or]
      refine ⟨fun hdash => ?_, by decide⟩
      exact absurd ((h.versionEpoch digits hepoch).decimal '-' hdash)
        (by decide)

/-- What is spelled is read. -/
theorem Grammatical.parseChars_text (h : w.Grammatical) :
    parseChars w.text.toList = some w.nevra := by
  have hname := splitEpoch_epochText h.nameEpoch h.name.2
  have hversion := splitEpoch_epochText h.versionEpoch h.version.2.1
  have hepoch : (w.versionEpoch.map epochValue <|>
      w.nameEpoch.map epochValue) =
        (w.versionEpoch <|> w.nameEpoch).map epochValue := by
    cases w.versionEpoch <;> rfl
  rw [parseChars_eq_some_iff, h.dropRpm_text, toList_body]
  refine ⟨_, _, splitLast_append (point_not_mem h.arch.2) _,
    isArch_toList.2 h.arch, _, _, splitLast_append h.release.2.2 _,
    isPlain_toList.2 ⟨h.release.1, h.release.2.1⟩, _, _,
    splitLast_append h.dash_not_mem _, ?_, ?_, ?_⟩
  · rw [hversion]
    exact isPlain_toList.2 ⟨h.version.1, h.version.2.1⟩
  · rw [hname]
    exact isPlain_toList.2 h.name
  · rw [hname, hversion]
    simp only [String.ofList_toList, hepoch, nevra]

/-- What is read has been spelled. -/
theorem exists_of_parseChars {cs : List Char} {n : Nevra}
    (h : parseChars cs = some n) :
    ∃ w : Spelling, w.Grammatical ∧ w.text.toList = cs ∧ w.nevra = n := by
  obtain ⟨head, arch, hhead, harch, front, release, hfront, hrelease,
    nameField, versionField, hfields, hversionField, hnameField, -⟩ :=
    parseChars_eq_some_iff.1 h
  obtain ⟨hbody, -⟩ := splitLast_eq_some_iff.1 hhead
  obtain ⟨rfl, hreleaseDash⟩ := splitLast_eq_some_iff.1 hfront
  obtain ⟨rfl, hversionDash⟩ := splitLast_eq_some_iff.1 hfields
  obtain ⟨asFile, hcs, hplain⟩ := dropRpm_eq_iff.1 hbody
  obtain ⟨nameEpoch, name, hnameEpoch, hname, rfl⟩ :=
    exists_field hnameField
  obtain ⟨versionEpoch, version, hversionEpoch, hversion, rfl⟩ :=
    exists_field hversionField
  obtain ⟨release, rfl⟩ : ∃ s : String, s.toList = release :=
    ⟨_, String.toList_ofList⟩
  obtain ⟨arch, rfl⟩ : ∃ s : String, s.toList = arch :=
    ⟨_, String.toList_ofList⟩
  rw [isPlain_toList] at hrelease
  rw [isArch_toList] at harch
  rw [List.mem_append, not_or] at hversionDash
  obtain ⟨w, hw, htext⟩ :
      ∃ w : Spelling, w.Grammatical ∧ w.text.toList = cs := by
    refine ⟨⟨nameEpoch, name, versionEpoch, version, release, arch, asFile⟩,
      ⟨hnameEpoch, hname, hversionEpoch,
        ⟨hversion.1, hversion.2, hversionDash.2⟩,
        ⟨hrelease.1, hrelease.2, hreleaseDash⟩, harch, ?_⟩, ?_⟩
    · rwa [toList_body]
    · rw [text, String.toList_append, toList_body, hcs]
  refine ⟨w, hw, htext, ?_⟩
  -- What `w` spells is read from the same text.
  rw [← htext, hw.parseChars_text] at h
  exact Option.some.inj h

/-- A spelling ends like a file exactly if its text does. -/
theorem Grammatical.asFile_iff (h : w.Grammatical) :
    w.asFile = true ↔ ".rpm".toList <:+ w.text.toList := by
  rw [text, String.toList_append]
  cases hfile : w.asFile with
  | false => simpa [ending] using h.plain hfile
  | true => exact ⟨fun _ => List.suffix_append _ _, fun _ => rfl⟩

/-- No text has two spellings. -/
theorem Grammatical.eq_of_text (h : w.Grammatical) (h' : w'.Grammatical)
    (heq : w.text = w'.text) : w = w' := by
  have hfile : w.asFile = w'.asFile := by
    rw [Bool.eq_iff_iff, h.asFile_iff, h'.asFile_iff, heq]
  have hbody : w.body.toList = w'.body.toList := by
    rw [← h.dropRpm_text, heq, h'.dropRpm_text]
  rw [toList_body, toList_body, append_sep_inj (point_not_mem h.arch.2)
    (point_not_mem h'.arch.2), append_sep_inj h.release.2.2 h'.release.2.2,
    append_sep_inj h.dash_not_mem h'.dash_not_mem] at hbody
  -- The cuts leave two fields that may still hold an epoch.
  obtain ⟨⟨⟨hname, hversion⟩, hrelease⟩, harch⟩ := hbody
  obtain ⟨hnameEpoch, hname⟩ :=
    epochText_append_inj h.name.2 h'.name.2 hname
  obtain ⟨hversionEpoch, hversion⟩ :=
    epochText_append_inj h.version.2.1 h'.version.2.1 hversion
  rw [String.toList_inj] at hname hversion hrelease harch
  cases w
  cases w'
  simp only at hnameEpoch hname hversionEpoch hversion hrelease harch hfile
  rw [hnameEpoch, hname, hversionEpoch, hversion, hrelease, harch, hfile]

end Spelling

namespace Nevra

/-! ## What the reader accepts -/

theorem parse_eq_ok_iff {text : String} {n : Nevra} : parse text = .ok n ↔
    ∃ w : Spelling, w.Grammatical ∧ w.text = text ∧ w.nevra = n := by
  have hparse : parse text = .ok n ↔ parseChars text.toList = some n := by
    rw [parse]
    cases parseChars text.toList <;> simp
  rw [hparse]
  constructor
  · intro h
    obtain ⟨w, hw, htext, hn⟩ := Spelling.exists_of_parseChars h
    exact ⟨w, hw, String.toList_inj.1 htext, hn⟩
  · rintro ⟨w, hw, rfl, rfl⟩
    exact hw.parseChars_text

theorem parse_eq_error_iff {text : String} {e : MalformedIdentifier} :
    parse text = .error e ↔ e = ⟨text⟩ ∧ ∀ n, parse text ≠ .ok n := by
  rw [parse]
  cases parseChars text.toList with
  | none => simp [eq_comm]
  | some n => simp

/-- A text is read as an identifier exactly if it is one of its spellings, it
has no other spelling, and every text without a spelling is malformed. -/
theorem parse_accepts_spellings (text : String) :
    (∀ n, parse text = .ok n ↔
      ∃ w : Spelling, w.Grammatical ∧ w.text = text ∧ w.nevra = n) ∧
    (∀ w w' : Spelling, w.Grammatical → w'.Grammatical → w.text = text →
      w'.text = text → w = w') ∧
    ∀ e, parse text = .error e ↔
      e = ⟨text⟩ ∧ ¬ ∃ w : Spelling, w.Grammatical ∧ w.text = text := by
  refine ⟨fun n => parse_eq_ok_iff, fun w w' hw hw' htext htext' => ?_,
    fun e => ?_⟩
  · exact hw.eq_of_text hw' (htext.trans htext'.symm)
  · rw [parse_eq_error_iff]
    refine and_congr_right fun _ => ?_
    constructor
    · rintro h ⟨w, hw, htext⟩
      exact h w.nevra (parse_eq_ok_iff.2 ⟨w, hw, htext, rfl⟩)
    · intro h n hn
      obtain ⟨w, hw, htext, -⟩ := parse_eq_ok_iff.1 hn
      exact h ⟨w, hw, htext⟩

/-- A spelling with everything that is optional. -/
def librarySpelling : Spelling :=
  ⟨some "1", "lib-x", some "02", "2020", "80.el7_6", "noarch", true⟩

theorem librarySpelling_grammatical : librarySpelling.Grammatical where
  nameEpoch digits h := by
    rw [← Option.mem_some_iff.1 h]
    exact ⟨by decide, by simp, by decide⟩
  name := by simp [librarySpelling]
  versionEpoch digits h := by
    rw [← Option.mem_some_iff.1 h]
    exact ⟨by decide, by simp, by decide⟩
  version := by simp [librarySpelling]
  release := by simp [librarySpelling]
  arch := by simp [librarySpelling]
  plain h := by cases h

theorem parse_accepts_librarySpelling :
    librarySpelling.Grammatical ∧
    librarySpelling.text = "1:lib-x-02:2020-80.el7_6.noarch.rpm" ∧
    parse "1:lib-x-02:2020-80.el7_6.noarch.rpm" =
      .ok ⟨"lib-x", 2, "2020", "80.el7_6", "noarch"⟩ := by
  have htext : librarySpelling.text =
      "1:lib-x-02:2020-80.el7_6.noarch.rpm" := by
    decide
  exact ⟨librarySpelling_grammatical, htext,
    ((parse_accepts_spellings _).1 _).2
      ⟨librarySpelling, librarySpelling_grammatical, htext, by decide⟩⟩

/-- One more than the greatest epoch is none. -/
example : parse "lib-9223372036854775808:1-1.noarch" =
    .error ⟨"lib-9223372036854775808:1-1.noarch"⟩ := by
  decide +kernel

end Nevra

end Advisory
