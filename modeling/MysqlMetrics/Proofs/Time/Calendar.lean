import Mathlib.Logic.Function.Iterate
import Mathlib.Tactic.IntervalCases
import MysqlMetrics.Proofs.Decimal.Arithmetic
import MysqlMetrics.Time.Calendar

/-!
# Counting days and seconds

The calendar is walked through one day at a time: `Date.next` is the day after a date. The number of
a day is the count of the steps to it from 1970-01-01, or back to 1970-01-01 from it.

* `Date.isAfter_iff`: the numbers of two dates differ by the days between them.
* `number?_toUnix`: the double of a point in time is the sum of two doubles, and what each stands for.
-/

namespace MysqlMetrics

open MysqlMetrics.Decimal

namespace Calendar

/-- A date that the calendar has. -/
structure Date where
  year : Int
  month : Nat
  day : Nat
  month_pos : 1 ≤ month
  month_le : month ≤ 12
  day_pos : 1 ≤ day
  day_le : day ≤ daysInMonth year month

theorem daysInMonth_pos {year : Int} {month : Nat} (h : 1 ≤ month) (h' : month ≤ 12) :
    1 ≤ daysInMonth year month := by
  interval_cases month <;> simp only [daysInMonth] <;> (try split) <;> decide

theorem daysInMonth_le (year : Int) (month : Nat) : daysInMonth year month ≤ 31 := by
  unfold daysInMonth
  repeat' split
  all_goals decide

theorem daysBeforeMonth_le_of_le {year : Int} {month month' : Nat} (h : month ≤ month') :
    daysBeforeMonth year month ≤ daysBeforeMonth year month' := by
  induction h with
  | refl => exact Nat.le_refl _
  | step _ ih => exact Nat.le_trans ih (Nat.le_add_right _ _)

/-- The days of a year are those before the month after its last. -/
theorem daysBeforeYear_succ (year : Int) :
    daysBeforeYear (year + 1) = daysBeforeYear year + daysBeforeMonth year 13 := by
  have h := dayNumber_next_year year
  simp only [dayNumber, daysBeforeMonth, daysInMonth] at h ⊢
  omega

theorem daysBeforeYear_le_of_le {year year' : Int} (h : year ≤ year') :
    daysBeforeYear year ≤ daysBeforeYear year' := by
  unfold daysBeforeYear
  omega

namespace Date

/-- 1 January 1970. -/
def epoch : Date := ⟨1970, 1, 1, by decide, by decide, by decide, by decide⟩

/-- The number of a date. -/
def number (d : Date) : Int := dayNumber d.year d.month d.day

/-- The day after a date: in the same month, on the first of the next, or on 1 January. -/
def next (d : Date) : Date :=
  if hday : d.day < daysInMonth d.year d.month then
    { d with day := d.day + 1, day_pos := Nat.le_add_left _ _, day_le := hday }
  else if hmonth : d.month < 12 then
    { year := d.year, month := d.month + 1, day := 1, month_pos := Nat.le_add_left _ _
      month_le := hmonth, day_pos := Nat.le_refl _
      day_le := daysInMonth_pos (Nat.le_add_left _ _) hmonth }
  else
    { year := d.year + 1, month := 1, day := 1, month_pos := Nat.le_refl _, month_le := by decide
      day_pos := Nat.le_refl _, day_le := daysInMonth_pos (Nat.le_refl _) (by decide) }

/-- The date `e` is `days` days after `d`, or `-days` days before it. -/
def IsAfter (d e : Date) : Int → Prop
  | .ofNat n => next^[n] d = e
  | .negSucc n => next^[n + 1] e = d

theorem number_epoch : epoch.number = 0 := dayNumber_epoch

/-- The day after a date has the next number. -/
theorem number_next (d : Date) : d.next.number = d.number + 1 := by
  unfold next number
  split
  · exact dayNumber_next_day d.year d.month d.day
  · rename_i hday
    have hlast : d.day = daysInMonth d.year d.month := Nat.le_antisymm d.day_le (by omega)
    split
    · rw [hlast]
      exact dayNumber_next_month d.year d.month
    · have hdecember : d.month = 12 := by have := d.month_le; omega
      rw [hlast, hdecember]
      exact dayNumber_next_year d.year

theorem number_iterate_next (d : Date) (n : Nat) : (next^[n] d).number = d.number + n := by
  induction n with
  | zero => simp
  | succ n ih =>
    rw [Function.iterate_succ_apply', number_next, ih]
    push_cast
    omega

/-! ## Different dates have different numbers -/

/-- The last day of a month comes before the first of every later one. -/
theorem lt_of_month_lt {d e : Date} (hyear : d.year = e.year) (h : d.month < e.month) :
    d.number < e.number := by
  have hle : daysBeforeMonth d.year (d.month + 1) ≤ daysBeforeMonth e.year e.month := by
    rw [hyear]
    exact daysBeforeMonth_le_of_le h
  have hd := d.day_le
  have he := e.day_pos
  rw [daysBeforeMonth] at hle
  simp only [number, dayNumber]
  rw [hyear] at hle hd ⊢
  omega

theorem lt_of_year_lt {d e : Date} (h : d.year < e.year) : d.number < e.number := by
  have hyears : daysBeforeYear d.year + daysBeforeMonth d.year 13 ≤ daysBeforeYear e.year := by
    rw [← daysBeforeYear_succ]
    exact daysBeforeYear_le_of_le h
  have hmonth : daysBeforeMonth d.year (d.month + 1) ≤ daysBeforeMonth d.year 13 :=
    daysBeforeMonth_le_of_le (Nat.succ_le_succ d.month_le)
  have hd := d.day_le
  have he := e.day_pos
  rw [daysBeforeMonth] at hmonth
  simp only [number, dayNumber]
  omega

theorem eq_of_number_eq {d e : Date} (h : d.number = e.number) : d = e := by
  have hyear : d.year = e.year := by
    rcases lt_trichotomy d.year e.year with hlt | heq | hlt
    · exact absurd h (lt_of_year_lt hlt).ne
    · exact heq
    · exact absurd h (lt_of_year_lt hlt).ne'
  have hmonth : d.month = e.month := by
    rcases lt_trichotomy d.month e.month with hlt | heq | hlt
    · exact absurd h (lt_of_month_lt hyear hlt).ne
    · exact heq
    · exact absurd h (lt_of_month_lt hyear.symm hlt).ne'
  have hday : d.day = e.day := by
    simp only [number, dayNumber, hyear, hmonth] at h
    omega
  cases d
  cases e
  simp only at hyear hmonth hday
  subst hyear hmonth hday
  rfl

theorem iterate_next_eq_iff {d e : Date} {n : Nat} :
    next^[n] d = e ↔ e.number = d.number + n := by
  constructor
  · rintro rfl
    exact number_iterate_next d n
  · intro h
    exact eq_of_number_eq ((number_iterate_next d n).trans h.symm)

/-- The numbers of two dates differ by the days from one to the other. -/
theorem isAfter_iff {d e : Date} {days : Int} : d.IsAfter e days ↔ e.number = d.number + days := by
  cases days with
  | ofNat n => exact iterate_next_eq_iff
  | negSucc n =>
    rw [IsAfter, iterate_next_eq_iff, Int.negSucc_eq]
    push_cast
    omega

end Date

end Calendar

/-! ## Seconds as a double -/

namespace DateTime

open Calendar

/-- Four-digit years lie within `2 ^ 52` seconds of 1970. -/
theorem abs_unixSeconds_le {t : DateTime} (h : t.Exists) (hlow : 0 ≤ t.year)
    (hhigh : t.year < 10000) : |t.unixSeconds| ≤ 2 ^ 52 := by
  obtain ⟨-, -, -, hmonth, -, hday, hhour, hminute, -⟩ := h
  have hlong := daysInMonth_le t.year t.month
  have hmonths : daysBeforeMonth t.year t.month ≤ 31 * t.month := by
    clear hday hlong hmonth
    induction t.month with
    | zero => simp [daysBeforeMonth]
    | succ m ih =>
      have := daysInMonth_le t.year m
      rw [daysBeforeMonth]
      omega
  have hyears : 0 ≤ daysBeforeYear t.year + 366 ∧ daysBeforeYear t.year ≤ 3660000 := by
    unfold daysBeforeYear
    omega
  have hepoch : daysBeforeYear 1970 = 719162 := by decide
  rw [abs_le]
  simp only [unixSeconds, dayNumber, hepoch]
  omega

theorem microseconds_le {t : DateTime} (h : t.nanosecond < 10 ^ 9) :
    t.microseconds < 2 * 10 ^ 6 := by
  unfold microseconds
  split <;> omega

private theorem number?_million : number? 1000000 = some (10 ^ 6) := by
  have hmillion : (1000000 : Float) = ofNatural64 1000000 := rfl
  rw [hmillion]
  rw [number?_ofNatural64_of_le (by decide)]
  norm_num

/-- The double of a point in time: its seconds and its microseconds are exact, and their quotient
and their sum are rounded. -/
theorem number?_toUnix {t : DateTime} (hseconds : |t.unixSeconds| ≤ 2 ^ 52)
    (hmicro : t.microseconds < 2 * 10 ^ 6) :
    ∃ q x, Rounds (t.microseconds / 10 ^ 6) q ∧ Rounds (t.unixSeconds + q) x ∧
      number? t.toUnix = some x := by
  have hfinite {v : ℚ} (hv : |v| ≤ 2 ^ 53) : |v| < 2 ^ 1023 :=
    hv.trans_lt (pow_lt_pow_right₀ one_lt_two (by decide))
  have hnonneg : (0 : ℚ) ≤ t.microseconds / 10 ^ 6 := by positivity
  have htwo : (t.microseconds : ℚ) / 10 ^ 6 ≤ 2 := by
    rw [div_le_iff₀ (by positivity)]
    exact_mod_cast hmicro.le
  obtain ⟨q, hq, hquotient⟩ := number?_div
    (number?_ofNatural64_of_le (n := t.microseconds) (hmicro.le.trans (by decide)))
    number?_million (by positivity) (hfinite (by rw [abs_of_nonneg hnonneg]; linarith))
  have hq0 : 0 ≤ q := by
    exact_mod_cast hquotient.intCast_le (n := 0) (by decide) (by exact_mod_cast hnonneg)
  have hq2 : q ≤ 2 := by
    exact_mod_cast hquotient.le_intCast (n := 2) (by decide) (by exact_mod_cast htwo)
  have hseconds' : |(t.unixSeconds : ℚ)| ≤ 2 ^ 52 := by exact_mod_cast hseconds
  have hsum : |(t.unixSeconds : ℚ) + q| ≤ 2 ^ 53 := by
    rw [abs_le] at hseconds' ⊢
    constructor <;> linarith [hseconds'.1, hseconds'.2]
  obtain ⟨x, hx, hrounds⟩ :=
    number?_add (number?_ofInteger64_of_le (hseconds.trans (by decide))) hq (hfinite hsum)
  exact ⟨q, x, hquotient, hrounds, hx⟩

end DateTime

end MysqlMetrics
