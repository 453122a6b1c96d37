import Mathlib.Tactic.IntervalCases
import Advisory.Time.Reading

/-!
# Later clocks show later instants

Days are counted through years that begin in March, which puts the leap day at
the end of a year. Two facts then make later dates have greater numbers: within
such a year the months follow each other without overlapping, and no day lies
beyond the end of its year, whose length says whether there is a leap day. A
clock adds less than a day to its date, and a leap second is counted as
nanoseconds of the second before it, so that it is still in front of the next
minute.
-/

namespace Advisory.Time

/-! ## Days of the calendar -/

namespace Date

/-- One date stands before another one in the calendar. -/
def Before (d d' : Date) : Prop :=
  d.year < d'.year ∨ d.year = d'.year ∧
    (d.month < d'.month ∨ d.month = d'.month ∧ d.day < d'.day)

/-- The year of a date, if years begin in March. -/
def marchYear (d : Date) : Int := if d.month ≤ 2 then d.year - 1 else d.year

/-- The months between March and the month of a date. -/
def marchMonth (d : Date) : Int :=
  if d.month > 2 then d.month - 3 else d.month + 9

/-- The days between the first of March of year zero and that of a year. -/
def marchFirst (year : Int) : Int :=
  365 * year + year / 4 - year / 100 + year / 400

/-- The days between the first of March and a date. -/
def dayOfYear (d : Date) : Int := (153 * d.marchMonth + 2) / 5 + d.day - 1

theorem toDays_eq (d : Date) :
    d.toDays = marchFirst d.marchYear + d.dayOfYear - epochOffset := by
  simp only [toDays, marchFirst, marchYear, dayOfYear, marchMonth, daysPerEra]
  omega

theorem marchFirst_le {year year' : Int} (h : year < year') :
    marchFirst (year + 1) ≤ marchFirst year' := by
  simp only [marchFirst]
  omega

theorem isValid_iff {d : Date} : d.isValid = true ↔ 1 ≤ d.month ∧
    d.month ≤ 12 ∧ 1 ≤ d.day ∧ d.day ≤ daysInMonth d.year d.month := by
  simp [isValid, and_assoc]

/-- Outside of February the days of a month fill the time to the next one. -/
theorem day_le {d : Date} (h : d.isValid = true) (hmonth : d.month ≠ 2) :
    (d.day : Int) ≤
      (153 * (d.marchMonth + 1) + 2) / 5 - (153 * d.marchMonth + 2) / 5 := by
  obtain ⟨hfirst, hlast, -, hday⟩ := isValid_iff.1 h
  obtain ⟨year, month, day⟩ := d
  simp only [marchMonth] at *
  interval_cases month
  case «2» => exact absurd rfl hmonth
  all_goals
    simp only [daysInMonth] at hday
    norm_num at hday ⊢
    omega

theorem isLeapYear_iff {year : Int} : isLeapYear year = true ↔
    year % 4 = 0 ∧ (year % 100 ≠ 0 ∨ year % 400 = 0) := by
  simp [isLeapYear]

/-- A date does not lie beyond the end of its year. -/
theorem dayOfYear_lt {d : Date} (h : d.isValid = true) :
    marchFirst d.marchYear + d.dayOfYear < marchFirst (d.marchYear + 1) := by
  obtain ⟨hfirst, hlast, -, hday⟩ := isValid_iff.1 h
  simp only [marchFirst, dayOfYear]
  by_cases hmonth : d.month = 2
  · simp only [daysInMonth, hmonth, if_true] at hday
    simp only [marchYear, marchMonth, hmonth]
    split at hday
    · next hleap =>
        have := isLeapYear_iff.1 hleap
        omega
    · omega
  · have hle := day_le h hmonth
    have hmarch : d.marchMonth ≤ 10 := by
      simp only [marchMonth]
      omega
    omega

/-- Of two dates of one year the one in the earlier month has fewer days in
front of it. -/
theorem dayOfYear_lt_of_month {d d' : Date} (h : d.isValid = true)
    (h' : d'.isValid = true) (hmonth : d.marchMonth < d'.marchMonth) :
    d.dayOfYear < d'.dayOfYear := by
  obtain ⟨hfirst, hlast, -, -⟩ := isValid_iff.1 h
  obtain ⟨hfirst', hlast', hday', -⟩ := isValid_iff.1 h'
  have hnot : d.month ≠ 2 := by
    simp only [marchMonth] at hmonth
    omega
  have hle := day_le h hnot
  simp only [dayOfYear]
  omega

theorem dayOfYear_nonneg {d : Date} (h : d.isValid = true) :
    0 ≤ d.dayOfYear := by
  obtain ⟨hfirst, -, hday, -⟩ := isValid_iff.1 h
  simp only [dayOfYear, marchMonth]
  omega

theorem toDays_lt_of_before {d d' : Date} (h : d.isValid = true)
    (h' : d'.isValid = true) (hbefore : d.Before d') :
    d.toDays < d'.toDays := by
  obtain ⟨hfirst, hlast, -, -⟩ := isValid_iff.1 h
  obtain ⟨hfirst', hlast', -, -⟩ := isValid_iff.1 h'
  rw [toDays_eq, toDays_eq]
  rcases Int.lt_trichotomy d.marchYear d'.marchYear with hyear | hyear | hyear
  · have hend := dayOfYear_lt h
    have hle := marchFirst_le hyear
    have hnonneg := dayOfYear_nonneg h'
    omega
  · -- In one year the months decide, and in one month the days.
    rw [hyear]
    rcases Int.lt_trichotomy d.marchMonth d'.marchMonth with hm | hm | hm
    · have hlt := dayOfYear_lt_of_month h h' hm
      omega
    · have hday : d.day < d'.day := by
        simp only [marchYear, marchMonth, Before] at *
        omega
      rw [dayOfYear, dayOfYear, hm]
      omega
    · simp only [marchYear, marchMonth, Before] at *
      omega
  · simp only [marchYear, Before] at *
    omega

end Date

/-! ## Clocks -/

namespace WallClock

/-- A clock shows an earlier time than another one. -/
def Before (w w' : WallClock) : Prop :=
  w.date.Before w'.date ∨ w.date = w'.date ∧
    (w.hour < w'.hour ∨ w.hour = w'.hour ∧
      (w.minute < w'.minute ∨ w.minute = w'.minute ∧
        (w.second < w'.second ∨ w.second = w'.second ∧
          w.nanos < w'.nanos)))

theorem isValid_iff {w : WallClock} : w.isValid = true ↔
    isYear w.date.year = true ∧ w.date.isValid = true ∧ w.hour ≤ 23 ∧
      w.minute ≤ 59 ∧ w.second ≤ 60 := by
  simp [isValid, and_assoc]

theorem instant?_eq_some {w : WallClock} {offset : Int} {t : Instant}
    (h : w.instant? offset = some t) : w.isValid = true ∧
      t.seconds = w.date.toDays * 86400 + (w.hour * 3600 + w.minute * 60 +
        (w.second - w.second / 60) : Nat) - offset ∧
      t.nanos = w.nanos + w.second / 60 * 1000000000 := by
  simp only [instant?, Option.ite_none_right_eq_some, Option.some.injEq] at h
  obtain ⟨⟨hvalid, -⟩, rfl⟩ := h
  exact ⟨hvalid, rfl, rfl⟩

end WallClock

theorem Date.before_or (d d' : Date) :
    d.Before d' ∨ d = d' ∨ d'.Before d := by
  obtain ⟨year, month, day⟩ := d
  obtain ⟨year', month', day'⟩ := d'
  simp only [Before, Date.mk.injEq]
  omega

/-- Of two clocks that are ahead of UTC by the same time the one that shows an
earlier instant shows an earlier time. -/
theorem WallClock.before_of_isBefore {w w' : WallClock} {offset : Int}
    {t t' : Instant} (h : w.instant? offset = some t)
    (h' : w'.instant? offset = some t') (hnanos : w'.nanos < 1000000000)
    (hbefore : t.isBefore t' = true) : w.Before w' := by
  obtain ⟨hvalid, hseconds, hfraction⟩ := instant?_eq_some h
  obtain ⟨hvalid', hseconds', hfraction'⟩ := instant?_eq_some h'
  obtain ⟨-, hdate, hhour, hminute, hsecond⟩ := isValid_iff.1 hvalid
  obtain ⟨-, hdate', hhour', hminute', hsecond'⟩ := isValid_iff.1 hvalid'
  simp only [Instant.isBefore, Bool.or_eq_true, Bool.and_eq_true,
    decide_eq_true_eq] at hbefore
  rcases Date.before_or w.date w'.date with hd | hd | hd
  · exact .inl hd
  · refine .inr ⟨hd, ?_⟩
    rw [hd] at hseconds
    omega
  · have hlt := Date.toDays_lt_of_before hdate' hdate hd
    omega

end Advisory.Time
