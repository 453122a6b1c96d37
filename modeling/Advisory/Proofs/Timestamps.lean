import Mathlib.Data.String.Basic
import Mathlib.Tactic.Ring
import Advisory.Proofs.Days
import Advisory.Time.SnapshotDate

/-!
# Timestamps as texts

A timestamp is a date that a snapshot spells in full: each number has all its
digits, and between day and hour stands one letter or one blank. Fraction and
offset may be left out. Reading takes it apart again, so what it names is said
by its parts (`snapshotDate?_text`).

Of two timestamps the one that names the earlier instant is the smaller text
(`text_lt_of_isBefore`), if three things hold. Both clocks have the same offset.
On one day both have the same separator, since a blank is smaller than the
letter, whatever the clocks show. And both fractions have the same length, or
what follows them is smaller than a digit and a point: a sign and a blank are,
but the letter that stands for UTC is not, and a second with that letter is a
greater text than the same second with a fraction.
-/

namespace Advisory.Time

open Advisory.Text (trimStart isBlank)

/-! ## Digits -/

section Digits

variable {c d : Char} {x y u v : List Char}

theorem toNat_of_isDigit (h : c.isDigit = true) :
    48 ≤ c.toNat ∧ c.toNat ≤ 57 :=
  Char.isDigit_iff_toNat.1 h

theorem char_lt_iff : c < d ↔ c.toNat < d.toNat :=
  Char.lt_def.trans UInt32.lt_iff_toNat_lt

theorem isBlank_of_isDigit (h : c.isDigit = true) : isBlank c = false := by
  obtain ⟨hlow, hhigh⟩ := toNat_of_isDigit h
  have hall : ∀ n < 58, 48 ≤ n → isBlank (Char.ofNat n) = false := by decide
  have hc := hall c.toNat (by omega) hlow
  rwa [Char.ofNat_toNat] at hc

theorem foldl_digits (x : List Char) (n : Nat) :
    x.foldl (fun n c => 10 * n + (c.toNat - '0'.toNat)) n =
      n * 10 ^ x.length + digitsValue x := by
  induction x generalizing n with
  | nil => simp [digitsValue]
  | cons c x ih =>
      rw [digitsValue, List.foldl_cons, List.foldl_cons, ih, ih (10 * 0 + _),
        List.length_cons, Nat.pow_succ]
      ring

theorem digitsValue_cons (c : Char) (x : List Char) :
    digitsValue (c :: x) =
      (c.toNat - 48) * 10 ^ x.length + digitsValue x := by
  rw [digitsValue, List.foldl_cons, foldl_digits]
  simp

/-- The value of the first `places` digits, with zeros behind them if there
are not so many. -/
def scaled (places : Nat) (x : List Char) : Nat :=
  digitsValue (x.take places) * 10 ^ (places - (x.take places).length)

theorem scaled_nil (places : Nat) : scaled places [] = 0 := by
  simp [scaled, digitsValue]

theorem scaled_cons (places : Nat) (c : Char) (x : List Char) :
    scaled (places + 1) (c :: x) =
      (c.toNat - 48) * 10 ^ places + scaled places x := by
  have hle : (x.take places).length ≤ places := List.length_take_le places x
  have hpow : 10 ^ (x.take places).length *
      10 ^ (places - (x.take places).length) = 10 ^ places := by
    rw [← Nat.pow_add, Nat.add_sub_cancel' hle]
  rw [scaled, List.take_succ_cons, digitsValue_cons, List.length_cons,
    Nat.add_sub_add_right, Nat.add_mul, Nat.mul_assoc, hpow]
  rfl

theorem scaled_length (x : List Char) :
    scaled x.length x = digitsValue x := by
  simp [scaled]

/-- A greater digit outweighs whatever stands behind it. -/
theorem mul_add_lt {m n p r : Nat} (hr : r < p) (h : m < n) (r' : Nat) :
    m * p + r < n * p + r' := by
  have hmul : (m + 1) * p ≤ n * p := Nat.mul_le_mul_right p h
  rw [Nat.add_mul] at hmul
  omega

theorem scaled_lt (places : Nat) {x : List Char}
    (h : ∀ c ∈ x, c.isDigit = true) : scaled places x < 10 ^ places := by
  induction places generalizing x with
  | zero => simp [scaled, digitsValue]
  | succ places ih =>
      cases x with
      | nil => simp [scaled_nil]
      | cons c x =>
          obtain ⟨hc, hx⟩ := List.forall_mem_cons.1 h
          have hdigit := toNat_of_isDigit hc
          have hrest := ih hx
          have hmul : (c.toNat - 48) * 10 ^ places ≤ 9 * 10 ^ places :=
            Nat.mul_le_mul_right _ (by omega)
          rw [scaled_cons, Nat.pow_succ]
          omega

/-- What follows some digits is smaller than another digit would be. -/
def EndsLow (u : List Char) : Prop := ∀ c ∈ u.head?, c < '.'

instance : DecidablePred EndsLow
  | [] => .isTrue (by simp [EndsLow])
  | c :: _ => decidable_of_iff (c < '.') (by simp [EndsLow])

/-- The smaller of two numbers is the smaller text, whatever follows, if they
have as many digits or what follows is smaller than a digit. -/
theorem append_lt_of_scaled_lt (places : Nat)
    (hx : ∀ c ∈ x, c.isDigit = true) (hy : ∀ c ∈ y, c.isDigit = true)
    (hend : x.length = y.length ∨ EndsLow u)
    (h : scaled places x < scaled places y) : x ++ u < y ++ v := by
  induction places generalizing x y with
  | zero => simp [scaled, digitsValue] at h
  | succ places ih =>
      cases y with
      | nil => simp [scaled_nil] at h
      | cons d y =>
          obtain ⟨hd, hy⟩ := List.forall_mem_cons.1 hy
          have hdigit := toNat_of_isDigit hd
          cases x with
          | nil =>
              cases u with
              | nil => exact List.nil_lt_cons d _
              | cons c u =>
                  have hlow : c < '.' := by
                    rcases hend with hlen | hlow
                    · cases hlen
                    · exact hlow c rfl
                  have hdot : '.'.toNat = 46 := rfl
                  rw [char_lt_iff] at hlow
                  exact List.cons_lt_cons_iff.2
                    (.inl (char_lt_iff.2 (by omega)))
          | cons c x =>
              obtain ⟨hc, hx⟩ := List.forall_mem_cons.1 hx
              have hdigit' := toNat_of_isDigit hc
              rw [scaled_cons, scaled_cons] at h
              refine List.cons_lt_cons_iff.2 ?_
              rcases Nat.lt_trichotomy c.toNat d.toNat with hcd | hcd | hcd
              · exact .inl (char_lt_iff.2 hcd)
              · refine .inr ⟨Char.toNat_inj.1 hcd, ih hx hy ?_ ?_⟩
                · exact hend.imp_left (by simp)
                · rw [hcd] at h
                  omega
              · have hlt := mul_add_lt (scaled_lt places hy)
                  (show d.toNat - 48 < c.toNat - 48 by omega)
                  (scaled places x)
                omega

theorem digitsValue_lt (h : ∀ c ∈ x, c.isDigit = true) :
    digitsValue x < 10 ^ x.length := by
  rw [← scaled_length]
  exact scaled_lt x.length h

theorem eq_of_digitsValue_eq (hx : ∀ c ∈ x, c.isDigit = true)
    (hy : ∀ c ∈ y, c.isDigit = true) (hlen : x.length = y.length)
    (h : digitsValue x = digitsValue y) : x = y := by
  induction x generalizing y with
  | nil => exact (List.length_eq_zero_iff.1 hlen.symm).symm
  | cons c x ih =>
      cases y with
      | nil => cases hlen
      | cons d y =>
          obtain ⟨hc, hx'⟩ := List.forall_mem_cons.1 hx
          obtain ⟨hd, hy'⟩ := List.forall_mem_cons.1 hy
          have hdigit := toNat_of_isDigit hc
          have hdigit' := toNat_of_isDigit hd
          have hxy : x.length = y.length := Nat.succ.inj hlen
          have hbound := digitsValue_lt hx'
          have hbound' := digitsValue_lt hy'
          rw [digitsValue_cons, digitsValue_cons, hxy] at h
          rw [hxy] at hbound
          rcases Nat.lt_trichotomy c.toNat d.toNat with hcd | hcd | hcd
          · have hlt := mul_add_lt hbound
              (show c.toNat - 48 < d.toNat - 48 by omega) (digitsValue y)
            omega
          · obtain rfl := Char.toNat_inj.1 hcd
            rw [ih hx' hy' hxy (by omega)]
          · have hlt := mul_add_lt hbound'
              (show d.toNat - 48 < c.toNat - 48 by omega) (digitsValue x)
            omega

end Digits

/-! ## Timestamps -/

/-- A number that is written with a fixed number of digits. -/
structure Numeral (width : Nat) where
  digits : List Char
  length_eq : digits.length = width
  decimal : ∀ c ∈ digits, c.isDigit = true

namespace Numeral

variable {width : Nat} {m n : Numeral width} {u v : List Char}

def value (n : Numeral width) : Nat := digitsValue n.digits

/-- Of two texts that begin with numbers the numbers decide, and if they are
equal what follows. -/
theorem append_lt {p : Prop} (h : m.value < n.value ∨ m.value = n.value ∧ p)
    (hrest : m.value = n.value → p → u < v) :
    m.digits ++ u < n.digits ++ v := by
  have hlen : m.digits.length = n.digits.length := by
    rw [m.length_eq, n.length_eq]
  rcases h with h | ⟨h, hp⟩
  · refine append_lt_of_scaled_lt m.digits.length m.decimal n.decimal
      (.inl hlen) ?_
    rw [scaled_length, hlen, scaled_length]
    exact h
  · rw [eq_of_digitsValue_eq m.decimal n.decimal hlen h]
    exact List.append_left_lt (hrest h hp)

end Numeral

/-- A date that is spelled in full. -/
structure Timestamp where
  year : Numeral 4
  month : Numeral 2
  day : Numeral 2
  separator : Char
  hour : Numeral 2
  minute : Numeral 2
  second : Numeral 2
  /-- The digits of the fraction. Without digits there is no point either. -/
  fraction : List Char
  offset : List Char
  separator_eq : separator = 'T' ∨ separator = ' '
  decimal : ∀ c ∈ fraction, c.isDigit = true
  /-- The offset does not go on with the fraction. -/
  apart : ∀ c ∈ offset.head?, c ≠ '.' ∧ c.isDigit = false

namespace Timestamp

def fractionText (a : Timestamp) : List Char :=
  if a.fraction = [] then [] else '.' :: a.fraction

def toList (a : Timestamp) : List Char :=
  a.year.digits ++ '-' :: (a.month.digits ++ '-' :: (a.day.digits ++
    a.separator :: (a.hour.digits ++ ':' :: (a.minute.digits ++
      ':' :: (a.second.digits ++ (a.fractionText ++ a.offset))))))

def text (a : Timestamp) : String := String.ofList a.toList

/-- What a clock shows at a timestamp. -/
def clock (a : Timestamp) : WallClock where
  date := ⟨a.year.value, a.month.value, a.day.value⟩
  hour := a.hour.value
  minute := a.minute.value
  second := a.second.value
  nanos := scaled 9 a.fraction

/-- The seconds by which that clock is ahead of UTC: none if there is no offset,
and nothing if the offset cannot be read. -/
def ahead? (a : Timestamp) : Option Int :=
  if a.offset = [] then some 0
  else do
    let (seconds, rest) ← readOffset .optional (trimStart a.offset)
    guard (rest = [])
    return seconds

/-! ### Reading -/

section Reading

variable {width : Nat} {u : List Char}

theorem readDigits_digits (n : Numeral (width + 1)) (u : List Char) :
    readDigits (width + 1) (n.digits ++ u) = some (n.value, u) := by
  have htake : ((n.digits ++ u).take (width + 1)).takeWhile Char.isDigit =
      n.digits := by
    rw [List.take_left' n.length_eq, ← List.append_nil n.digits,
      List.takeWhile_append_of_pos n.decimal]
    rfl
  have hne : n.digits ≠ [] := List.ne_nil_of_length_eq_add_one n.length_eq
  simp only [readDigits]
  rw [htake, if_neg hne, List.drop_left]
  rfl

theorem exists_digit (n : Numeral (width + 1)) :
    ∃ c x, n.digits = c :: x ∧ c.isDigit = true := by
  obtain ⟨c, x, hx⟩ := List.exists_cons_of_length_eq_add_one n.length_eq
  exact ⟨c, x, hx, n.decimal c (by simp [hx])⟩

theorem trimStart_digits (n : Numeral (width + 1)) (u : List Char) :
    trimStart (n.digits ++ u) = n.digits ++ u := by
  obtain ⟨c, x, hx, hc⟩ := exists_digit n
  rw [hx, List.cons_append, trimStart,
    List.dropWhile_cons_of_neg (by simp [isBlank_of_isDigit hc])]

theorem readPart_digits (n : Numeral 2) (u : List Char) :
    readPart (n.digits ++ u) = some (n.value, u) := by
  rw [readPart, trimStart_digits, readDigits_digits]

theorem readYear_digits (n : Numeral 4) (u : List Char) :
    readYear (n.digits ++ u) = some ((n.value : Int), u) := by
  obtain ⟨c, x, hx, hc⟩ := exists_digit n
  have hread := readDigits_digits n u
  rw [readYear, trimStart_digits]
  rw [hx, List.cons_append] at hread ⊢
  split
  · next h => cases h; cases hc
  · next h => cases h; cases hc
  · rw [hread]; rfl

theorem afterMark_cons (c : Char) (u : List Char) :
    afterMark c (c :: u) = some u := by
  simp [afterMark]

theorem hasTAt_append {x : List Char} (h : ∀ c ∈ x, c.utf8Size = 1)
    (bytes : Nat) (u : List Char) :
    hasTAt (x.length + bytes) (x ++ u) = hasTAt bytes u := by
  induction x with
  | nil => simp
  | cons c x ih =>
      obtain ⟨hc, hx⟩ := List.forall_mem_cons.1 h
      rw [List.length_cons, List.cons_append, hasTAt, if_neg (by omega),
        if_pos (by omega), hc,
        show x.length + 1 + bytes - 1 = x.length + bytes by omega, ih hx]

theorem utf8Size_of_isDigit {c : Char} (h : c.isDigit = true) :
    c.utf8Size = 1 := by
  have hc := toNat_of_isDigit h
  rw [Char.utf8Size_eq_one_iff, UInt32.le_iff_toNat_le]
  change c.toNat ≤ 127
  omega

/-- The eleventh byte is the separator. -/
theorem hasTAt_toList (a : Timestamp) :
    hasTAt 10 a.toList = decide (a.separator = 'T') := by
  have hascii : ∀ c ∈ a.year.digits ++ '-' :: (a.month.digits ++
      '-' :: a.day.digits), c.utf8Size = 1 := by
    simp only [List.mem_append, List.mem_cons]
    rintro c (hc | rfl | hc | rfl | hc)
    · exact utf8Size_of_isDigit (a.year.decimal c hc)
    · rfl
    · exact utf8Size_of_isDigit (a.month.decimal c hc)
    · rfl
    · exact utf8Size_of_isDigit (a.day.decimal c hc)
  have happend := hasTAt_append hascii 0 (a.separator :: (a.hour.digits ++
    ':' :: (a.minute.digits ++ ':' :: (a.second.digits ++
      (a.fractionText ++ a.offset)))))
  simpa [toList, a.year.length_eq, a.month.length_eq, a.day.length_eq,
    hasTAt] using happend

theorem readFraction_fractionText (a : Timestamp) :
    readFraction (a.fractionText ++ a.offset) =
      some (scaled 9 a.fraction, a.offset) := by
  rw [fractionText]
  split
  · next hnil =>
      rw [hnil, scaled_nil, List.nil_append]
      unfold readFraction
      split
      · next h => exact absurd rfl (a.apart '.' (by simp [h])).1
      · rfl
  · next hne =>
      have htake : (a.fraction ++ a.offset).takeWhile Char.isDigit =
          a.fraction := by
        rw [List.takeWhile_append_of_pos a.decimal]
        cases hoffset : a.offset with
        | nil => simp
        | cons c u =>
            have hc := (a.apart c (by simp [hoffset])).2
            simp [hc]
      simp only [List.cons_append, readFraction, htake, if_neg hne,
        List.drop_left]
      rfl

theorem trimStart_blank (u : List Char) :
    trimStart (' ' :: u) = trimStart u := rfl

theorem readSnapshotClock_text (a : Timestamp) :
    readSnapshotClock a.text = some (a.clock, a.offset) := by
  simp only [readSnapshotClock, text, String.toList_ofList, hasTAt_toList]
  rcases a.separator_eq with h | h
  · simp only [toList, h, readYear_digits, readPart_digits, afterMark_cons,
      readFraction_fractionText, Option.bind_eq_bind, Option.bind_some,
      decide_true, if_true]
    rfl
  · have hT : decide (' ' = 'T') = false := rfl
    simp only [toList, h, hT, readYear_digits, readPart_digits,
      afterMark_cons, trimStart_blank, trimStart_digits,
      readFraction_fractionText, Option.bind_eq_bind, Option.bind_some,
      Bool.false_eq_true, if_false]
    rfl

/-- A timestamp names the instant at which a clock with its offset shows its
parts. -/
theorem snapshotDate?_text (a : Timestamp) :
    snapshotDate? a.text = a.ahead?.bind a.clock.instant? := by
  simp only [snapshotDate?, readSnapshotClock_text, Option.bind_eq_bind,
    Option.bind_some, ahead?]
  split
  · rfl
  · simp only [Option.bind_assoc]
    rfl

end Reading

/-! ### Order -/

/-- Of two timestamps the smaller text names no later instant, if the clocks
have one offset, if on one day they have one separator, and if the fractions
have one length or the first one is followed by something small. -/
structure Comparable (a b : Timestamp) : Prop where
  ahead : a.ahead? = b.ahead?
  separator : a.clock.date = b.clock.date → a.separator = b.separator
  fraction : a.fraction.length = b.fraction.length ∨ EndsLow a.offset

theorem fractionText_append_lt {a b : Timestamp}
    (h : a.fraction.length = b.fraction.length ∨ EndsLow a.offset)
    (hnanos : a.clock.nanos < b.clock.nanos) :
    a.fractionText ++ a.offset < b.fractionText ++ b.offset := by
  change scaled 9 a.fraction < scaled 9 b.fraction at hnanos
  have hb : b.fraction ≠ [] := by
    intro hnil
    rw [hnil, scaled_nil] at hnanos
    omega
  rw [fractionText, fractionText, if_neg hb]
  split
  · next hnil =>
      -- A second without a fraction ends where the other one has its point.
      cases hoffset : a.offset with
      | nil => exact List.nil_lt_cons '.' _
      | cons c u =>
          refine List.cons_lt_cons_iff.2 (.inl ?_)
          rcases h with hlen | hlow
          · rw [hnil] at hlen
            exact absurd (List.length_eq_zero_iff.1 hlen.symm) hb
          · exact hlow c (by simp [hoffset])
  · exact List.cons_lt_cons_iff.2 (.inr ⟨rfl, append_lt_of_scaled_lt 9
      a.decimal b.decimal h hnanos⟩)

theorem toList_lt_of_before {a b : Timestamp} (h : a.Comparable b)
    (hbefore : a.clock.Before b.clock) : a.toList < b.toList := by
  -- The parts stand in the text in the order in which clocks are compared.
  have hlex : a.year.value < b.year.value ∨ a.year.value = b.year.value ∧
      (a.month.value < b.month.value ∨ a.month.value = b.month.value ∧
      (a.day.value < b.day.value ∨ a.day.value = b.day.value ∧
      (a.hour.value < b.hour.value ∨ a.hour.value = b.hour.value ∧
      (a.minute.value < b.minute.value ∨ a.minute.value = b.minute.value ∧
      (a.second.value < b.second.value ∨ a.second.value = b.second.value ∧
        a.clock.nanos < b.clock.nanos))))) := by
    simp only [WallClock.Before, Date.Before, clock, Date.mk.injEq] at hbefore ⊢
    omega
  rw [toList, toList]
  refine Numeral.append_lt hlex fun hyear hlex => List.cons_lt_cons_self.2 ?_
  refine Numeral.append_lt hlex fun hmonth hlex => List.cons_lt_cons_self.2 ?_
  refine Numeral.append_lt hlex fun hday hlex => ?_
  have hseparator := h.separator (by simp [clock, hyear, hmonth, hday])
  rw [hseparator]
  refine List.cons_lt_cons_self.2 (Numeral.append_lt hlex fun _ hlex => ?_)
  refine List.cons_lt_cons_self.2 (Numeral.append_lt hlex fun _ hlex => ?_)
  refine List.cons_lt_cons_self.2 (Numeral.append_lt hlex fun _ hnanos => ?_)
  exact fractionText_append_lt h.fraction hnanos

/-- What names an earlier instant is the smaller text. -/
theorem text_lt_of_isBefore {a b : Timestamp} (h : a.Comparable b)
    {t t' : Instant} (ht : snapshotDate? a.text = some t)
    (ht' : snapshotDate? b.text = some t') (hbefore : t.isBefore t' = true) :
    a.text < b.text := by
  rw [snapshotDate?_text, Option.bind_eq_some_iff] at ht ht'
  obtain ⟨ahead, hahead, hclock⟩ := ht
  obtain ⟨ahead', hahead', hclock'⟩ := ht'
  obtain rfl : ahead = ahead' :=
    Option.some.inj (hahead.symm.trans (h.ahead.trans hahead'))
  rw [text, text, String.lt_iff_toList_lt, String.toList_ofList,
    String.toList_ofList]
  exact toList_lt_of_before h
    (WallClock.before_of_isBefore hclock hclock' (scaled_lt 9 b.decimal)
      hbefore)

end Timestamp

end Advisory.Time
