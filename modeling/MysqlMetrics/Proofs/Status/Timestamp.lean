import MysqlMetrics.Proofs.Status.Number
import MysqlMetrics.Proofs.Time.Calendar

/-!
# Times among the values of status variables

A written stamp whose date and time exist has its seconds since 1970 as its value, in both notations.
One that does not exist has no value, unless it has a fraction: behind the point of a fraction stand
digits only, as in the name of a log file, and the time before it is no number.

* `notations_agree`: the value of an existing time, in both notations.
* `fraction_kept_iff`: what a fraction does to the value of a time, existing or not.
-/

namespace MysqlMetrics.Status

open MysqlMetrics.Calendar MysqlMetrics.DateTime MysqlMetrics.Decimal MysqlMetrics.Text

variable {t : Stamp} {f : List Char}

/-! ## The readings of a stamp -/

theorem keyword?_dashed (t : Stamp) (f : List Char) : keyword? (t.dashed f) = none := by
  obtain ⟨c, rest, hyear, hc⟩ := t.year.eq_cons
  exact keyword?_of_isDigit (c := c) (by simp [Stamp.dashed, Stamp.date, hyear]) hc

theorem keyword?_zoned (t : Stamp) (name f zone : List Char) :
    keyword? (t.zoned name f zone) = none := by
  obtain ⟨c, rest, hyear, hc⟩ := t.year.eq_cons
  exact keyword?_of_isDigit (c := c) (by simp [Stamp.zoned, Stamp.named, hyear]) hc

theorem value?_dashed (hf : ∀ c ∈ f, c.isDigit = true) (h : t.Exists) :
    value? (t.dashed f) = some (t.dateTime f).toUnix := by
  have hread : readDashed? (t.dashed f) = some (t.dateTime f) := by
    rw [t.readDashed?_dashed hf, checked?, if_pos ⟨rfl, (t.exists_dateTime f).mpr h⟩]
  simp only [value?, keyword?_dashed, t.readZoned?_dashed hf, hread]

theorem value?_zoned (hf : ∀ c ∈ f, c.isDigit = true) (h : t.Exists) {name zone : List Char} {i : ℕ}
    (hname : monthNames[i]? = some (name.map Char.toLower)) (hmonth : t.month.value = i + 1)
    (hne : zone ≠ []) (hzone : ∀ c ∈ zone, c.isAlpha = true) :
    value? (t.zoned name f zone) = some (t.dateTime f).toUnix := by
  have hread : readZoned? (t.zoned name f zone) = some (t.dateTime f) := by
    rw [t.readZoned?_zoned hf hname hmonth hne hzone, checked?,
      if_pos ⟨rfl, (t.exists_dateTime f).mpr h⟩]
  simp only [value?, keyword?_zoned, hread]

/-- A stamp is no number: it has a space. -/
theorem read?_dashed (t : Stamp) (f : List Char) : Decimal.read? (t.dashed f) = none := by
  cases hread : Decimal.read? (t.dashed f) with
  | none => rfl
  | some x =>
    have hspace : ' ' ∉ t.dashed f := not_mem_of_read? hread (by decide) (by decide)
    simp [Stamp.dashed] at hspace

theorem suffix?_dashed_nil (t : Stamp) : LogFile.suffix? (t.dashed []) = none := by
  have hpoint : '.' ∉ t.dashed [] := by
    simp [Stamp.dashed, Stamp.date, Stamp.clock, point_nil, Numeral.not_mem]
  rw [LogFile.suffix?, cutLast?_eq_none.mpr hpoint]

/-- A stamp with a fraction looks like the name of a log file. -/
theorem suffix?_dashed (t : Stamp) (hne : f ≠ []) (hf : ∀ c ∈ f, c.isDigit = true) :
    LogFile.suffix? (t.dashed f) = some f := by
  have hlayout : t.dashed f = t.dashed [] ++ '.' :: f := by
    simp [Stamp.dashed, Stamp.clock, point_nil, point_of_ne_nil hne]
  have hspace : ' ' ∈ t.dashed [] := by simp [Stamp.dashed]
  refine LogFile.suffix?_eq_some.mpr ⟨t.dashed [], cutLast?_eq_some.mpr
    ⟨hlayout, not_mem_of_isDigit hf (by decide)⟩, List.ne_nil_of_mem hspace, ?_, hne, ?_, ?_⟩
  · simp [Stamp.dashed, Stamp.date, Stamp.clock, point_nil, Numeral.not_mem]
  · exact List.all_eq_true.mpr fun c hc => isDecimalDigit_of_isDigit (hf c hc)
  · intro hnumeric
    rw [LogFile.isNumeric, read?_dashed, Option.isSome_none, Bool.false_or] at hnumeric
    have := List.all_eq_true.mp hnumeric ' ' hspace
    simp at this

/-- The value of a stamp that does not exist is left to the rule for log files. -/
theorem value?_dashed_of_not_exists (hf : ∀ c ∈ f, c.isDigit = true) (h : ¬t.Exists) :
    value? (t.dashed f) = (LogFile.suffix? (t.dashed f)).bind LogFile.sequence? := by
  have hread : readDashed? (t.dashed f) = none := by
    rw [t.readDashed?_dashed hf, checked?, if_neg fun hc => h ((t.exists_dateTime f).mp hc.2)]
  rw [value?_of_readings (keyword?_dashed t f) (t.readZoned?_dashed hf) hread, read?_dashed]
  cases LogFile.suffix? (t.dashed f) <;> rfl

/-! ## The number of a stamp -/

/-- The seconds from 1970-01-01 00:00:00 to the time of the stamp on a day so many days later. -/
def secondsAfter (days : ℤ) (t : Stamp) : ℤ :=
  days * 86400 + t.hour.value * 3600 + t.minute.value * 60 + t.second.value

/-- One in the leap second that a minute may end with. -/
def leapSecond (t : Stamp) : ℕ := if t.second.value = 60 then 1 else 0

theorem abs_unixSeconds_le (h : t.Exists) (f : List Char) :
    |(t.dateTime f).unixSeconds| ≤ 2 ^ 52 := by
  have hyear : t.year.value < 10 ^ 4 := t.year.value_lt
  refine DateTime.abs_unixSeconds_le ((t.exists_dateTime f).mpr h) ?_ ?_
  · exact Int.natCast_nonneg _
  · show (t.year.value : ℤ) < 10000
    omega

theorem microseconds_dateTime (t : Stamp) (hf : ∀ c ∈ f, c.isDigit = true) :
    (t.dateTime f).microseconds =
      digitsValue f * 10 ^ 6 / 10 ^ f.length + leapSecond t * 10 ^ 6 := by
  have hmicro : nanosecondsOf f / 1000 = digitsValue f * 10 ^ 6 / 10 ^ f.length := by
    rw [nanosecondsOf_eq hf, Nat.div_div_eq_div_mul, Nat.mul_comm (10 ^ f.length) 1000,
      show digitsValue f * 10 ^ 9 = 1000 * (digitsValue f * 10 ^ 6) by ring,
      Nat.mul_div_mul_left _ _ (by decide)]
  rw [← hmicro]
  change (nanosecondsOf f + if t.second.value = 60 then 1000000000 else 0) / 1000 =
    nanosecondsOf f / 1000 + (if t.second.value = 60 then 1 else 0) * 10 ^ 6
  split <;> omega

/-- Less than a million microseconds are behind a point. -/
theorem microseconds_lt (hf : ∀ c ∈ f, c.isDigit = true) :
    digitsValue f * 10 ^ 6 / 10 ^ f.length < 10 ^ 6 := by
  rw [Nat.div_lt_iff_lt_mul (Nat.pow_pos (by decide)), Nat.mul_comm]
  exact Nat.mul_lt_mul_of_pos_left (digitsValue_lt hf) (by decide)

theorem unixSeconds_dateTime (t : Stamp) (f : List Char) :
    (t.dateTime f).unixSeconds = (t.dateTime []).unixSeconds := by
  simp only [unixSeconds, Stamp.dateTime]

/-- Microseconds below a million are rounded to at most one second. -/
theorem quotient_bounds {micro leap : ℕ} (hmicro : micro < 10 ^ 6) (hleap : leap ≤ 1) {q : ℚ}
    (h : Rounds ((micro + leap * 10 ^ 6 : ℕ) / 10 ^ 6) q) :
    leap ≤ q ∧ q ≤ leap + 1 ∧ (micro = 0 → q = leap) := by
  have hmillion : ((micro + leap * 10 ^ 6 : ℕ) : ℚ) / 10 ^ 6 = micro / 10 ^ 6 + (leap : ℤ) := by
    rw [Nat.cast_add, Nat.cast_mul, Nat.cast_pow, Nat.cast_ofNat, Int.cast_natCast, add_div,
      mul_div_cancel_right₀ _ (by positivity)]
  have hnonneg : (0 : ℚ) ≤ micro / 10 ^ 6 := by positivity
  have hone : (micro : ℚ) / 10 ^ 6 ≤ 1 :=
    (div_le_one (by positivity)).mpr (by exact_mod_cast hmicro.le)
  have hgrid : |(leap : ℤ)| ≤ 2 ^ 53 ∧ |(leap + 1 : ℤ)| ≤ 2 ^ 53 := by
    constructor <;> rw [abs_le] <;> omega
  rw [hmillion] at h
  refine ⟨mod_cast h.intCast_le hgrid.1 (by linarith),
    mod_cast h.le_intCast hgrid.2 (by push_cast; linarith), ?_⟩
  rintro rfl
  rw [Nat.cast_zero, zero_div, zero_add] at h
  exact mod_cast h.eq (onGrid_intCast hgrid.1)

/-- The number of a stamp with a fraction is not below its whole seconds and not above the next. -/
theorem number?_dateTime (h : t.Exists) (hf : ∀ c ∈ f, c.isDigit = true) :
    ∃ x : ℚ, number? (t.dateTime f).toUnix = some x ∧
      (((t.dateTime []).unixSeconds + leapSecond t : ℤ) : ℚ) ≤ x ∧
      x ≤ (((t.dateTime []).unixSeconds + leapSecond t + 1 : ℤ) : ℚ) ∧
      (f = [] → x = (((t.dateTime []).unixSeconds + leapSecond t : ℤ) : ℚ)) := by
  obtain ⟨q, x, hquotient, hsum, hx⟩ := number?_toUnix (abs_unixSeconds_le h f)
    (microseconds_le (nanosecondsOf_lt hf))
  rw [microseconds_dateTime t hf] at hquotient
  rw [unixSeconds_dateTime] at hsum
  have hleap : leapSecond t ≤ 1 := by unfold leapSecond; split <;> decide
  obtain ⟨hlow, hhigh, hzero⟩ := quotient_bounds (microseconds_lt hf) hleap hquotient
  have hseconds := abs_le.mp (abs_unixSeconds_le h [])
  have hgrid : |(t.dateTime []).unixSeconds + (leapSecond t : ℤ)| ≤ 2 ^ 53 ∧
      |(t.dateTime []).unixSeconds + (leapSecond t : ℤ) + 1| ≤ 2 ^ 53 := by
    constructor <;> rw [abs_le] <;> omega
  refine ⟨x, hx, hsum.intCast_le hgrid.1 (by push_cast; linarith),
    hsum.le_intCast hgrid.2 (by push_cast; linarith), ?_⟩
  rintro rfl
  rw [hzero rfl] at hsum
  exact mod_cast hsum.eq (by simpa using onGrid_intCast hgrid.1)

/-! ## Both notations -/

theorem exists_of_date {date : Date} (hyear : t.year.value = date.year)
    (hmonth : t.month.value = date.month) (hday : t.day.value = date.day)
    (hhour : t.hour.value < 24) (hminute : t.minute.value < 60) (hsecond : t.second.value < 60) :
    t.Exists := by
  have hwidth : t.year.value < 10 ^ 4 := t.year.value_lt
  have hmonth₁ := date.month_pos
  have hmonth₂ := date.month_le
  have hday₁ := date.day_pos
  have hday₂ := date.day_le
  rw [← hmonth] at hmonth₁ hmonth₂
  rw [← hday, ← hmonth, ← hyear] at hday₂
  rw [← hday] at hday₁
  refine ⟨?_, ?_, hmonth₁, hmonth₂, hday₁, hday₂, ?_, ?_, ?_⟩
  all_goals simp only [Stamp.dateTime, firstYear, lastYear]
  all_goals omega

/-- **Both notations agree and are exact.** A date of a year in four digits and a time of its day
have the same value in both notations, whatever the fraction, the case of the month's name and the
zone. Without a fraction it is the number of seconds from 1970-01-01 00:00:00 UTC; with one it is the
sum, in doubles, of these seconds and of the whole microseconds of the fraction divided by a
million. -/
theorem notations_agree (date : Date) (hyear : t.year.value = date.year)
    (hmonth : t.month.value = date.month) (hday : t.day.value = date.day)
    (hhour : t.hour.value < 24) (hminute : t.minute.value < 60) (hsecond : t.second.value < 60)
    (hf : ∀ c ∈ f, c.isDigit = true) {name zone : List Char}
    (hname : monthNames[date.month - 1]? = some (name.map Char.toLower)) (hne : zone ≠ [])
    (hzone : ∀ c ∈ zone, c.isAlpha = true) :
    ∃ days x, Date.epoch.IsAfter date days ∧
      value? (t.dashed f) = some x ∧ value? (t.zoned name f zone) = some x ∧
      (f = [] → number? x = some (secondsAfter days t : ℚ)) ∧
      x = ofInteger64 (secondsAfter days t) +
        ofNatural64 (digitsValue f * 10 ^ 6 / 10 ^ f.length) / 1000000 ∧
      number? (ofInteger64 (secondsAfter days t)) = some (secondsAfter days t : ℚ) := by
  have hexists := exists_of_date hyear hmonth hday hhour hminute hsecond
  have hnoleap : leapSecond t = 0 := if_neg hsecond.ne
  have hseconds : (t.dateTime f).unixSeconds = secondsAfter date.number t := by
    simp only [unixSeconds, Stamp.dateTime, secondsAfter, Date.number, hyear, hmonth, hday]
    omega
  have hpos := date.month_pos
  refine ⟨date.number, (t.dateTime f).toUnix, Date.isAfter_iff.mpr (by simp [Date.number_epoch]),
    value?_dashed hf hexists, value?_zoned hf hexists hname (by omega) hne hzone, ?_, ?_, ?_⟩
  · intro hnil
    obtain ⟨x, hx, -, -, hwhole⟩ := number?_dateTime hexists hf
    rw [hx, hwhole hnil, hnoleap, ← unixSeconds_dateTime t f, hseconds]
    simp
  · rw [toUnix, hseconds, microseconds_dateTime t hf, hnoleap]
    simp
  · rw [← hseconds]
    exact number?_ofInteger64_of_le ((abs_unixSeconds_le hexists f).trans (by decide))

/-- `2023-01-02 03:04:05`. -/
def january : Stamp where
  year := ⟨['2', '0', '2', '3'], rfl, by simp⟩
  month := ⟨['0', '1'], rfl, by simp⟩
  day := ⟨['0', '2'], rfl, by simp⟩
  hour := ⟨['0', '3'], rfl, by simp⟩
  minute := ⟨['0', '4'], rfl, by simp⟩
  second := ⟨['0', '5'], rfl, by simp⟩

theorem notations_agree_january :
    ∃ x, value? "2023-01-02 03:04:05".toList = some x ∧
      value? "Jan 02 03:04:05 2023 GMT".toList = some x ∧ number? x = some 1672628645 := by
  have hname : monthNames[1 - 1]? = some ("Jan".toList.map Char.toLower) := rfl
  have hzone : ∀ c ∈ "GMT".toList, c.isAlpha = true := by simp
  obtain ⟨days, x, hdays, hdashed, hzoned, hwhole, -, -⟩ :=
    notations_agree (t := january) (f := [])
      ⟨2023, 1, 2, by decide, by decide, by decide, by decide⟩ rfl rfl rfl (by decide) (by decide)
      (by decide) (by simp) hname (by simp) hzone
  have hnumber : days = 19359 := by
    have hepoch := Date.isAfter_iff.mp hdays
    rw [Date.number_epoch, zero_add] at hepoch
    exact hepoch.symm.trans (by decide)
  refine ⟨x, hdashed, hzoned, ?_⟩
  rw [hwhole rfl, hnumber]
  rfl

/-! ## Fractions -/

/-- What a fraction may do to the value of a time: none gets a value and none loses it, the value
grows by at most one second, and what does not exist has none. -/
structure KeepsFraction (t : Stamp) (f : List Char) : Prop where
  isSome_iff : (value? (t.dashed f)).isSome ↔ (value? (t.dashed [])).isSome
  within : ∀ x y, value? (t.dashed []) = some x → value? (t.dashed f) = some y →
    ∃ a b, number? x = some a ∧ number? y = some b ∧ a ≤ b ∧ b ≤ a + 1
  missing : ¬t.Exists → value? (t.dashed []) = none ∧ value? (t.dashed f) = none

theorem value?_dashed_nil_of_not_exists (h : ¬t.Exists) : value? (t.dashed []) = none := by
  rw [value?_dashed_of_not_exists (by simp) h, suffix?_dashed_nil]
  rfl

/-- A fraction is kept where the time exists: the value without it is the whole seconds. -/
theorem keepsFraction_of_exists (h : t.Exists) (hf : ∀ c ∈ f, c.isDigit = true) :
    KeepsFraction t f where
  isSome_iff := by simp [value?_dashed hf h, value?_dashed (f := []) (by simp) h]
  within x y hx hy := by
    rw [value?_dashed (by simp) h] at hx
    rw [value?_dashed hf h] at hy
    cases hx
    cases hy
    obtain ⟨a, ha, -, -, hwhole⟩ := number?_dateTime h (f := []) (by simp)
    obtain ⟨b, hb, hlow, hhigh, -⟩ := number?_dateTime h hf
    refine ⟨a, b, ha, hb, ?_, ?_⟩
    · rwa [hwhole rfl]
    · rw [hwhole rfl]
      exact_mod_cast hhigh
  missing hnot := absurd h hnot

theorem value?_fraction_of_not_exists (h : ¬t.Exists) (hne : f ≠ [])
    (hf : ∀ c ∈ f, c.isDigit = true) : value? (t.dashed f) = LogFile.sequence? f := by
  rw [value?_dashed_of_not_exists hf h, suffix?_dashed t hne hf]
  rfl

/-- **A fraction is kept by what exists.** The digits behind the point of a time that does not exist
are read as the number of a log file, so that the text has a value, unless they write a number of
more than 64 bits; without them the text has none. -/
theorem fraction_kept_iff (hne : f ≠ []) (hf : ∀ c ∈ f, c.isDigit = true) :
    (KeepsFraction t f ↔ t.Exists ∨ maxNatural64 < digitsValue f) ∧
      ((value? (t.dashed [])).isSome ↔ t.Exists) ∧
      (¬t.Exists → value? (t.dashed f) = LogFile.sequence? f) := by
  have hsequence : LogFile.sequence? f = none ↔ maxNatural64 < digitsValue f := by
    rw [Option.eq_none_iff_forall_ne_some]
    simp [LogFile.sequence?_eq_some hne hf]
  refine ⟨?_, ?_, fun h => value?_fraction_of_not_exists h hne hf⟩
  · by_cases h : t.Exists
    · simp [h, keepsFraction_of_exists h hf]
    · have hvalue := value?_fraction_of_not_exists h hne hf
      simp only [h, false_or, ← hsequence, ← hvalue]
      have hnone := value?_dashed_nil_of_not_exists h
      constructor
      · exact fun hkept => (hkept.missing h).2
      · intro hlarge
        exact ⟨by simp [hlarge, hnone], by simp [hnone], fun _ => ⟨hnone, hlarge⟩⟩
  · by_cases h : t.Exists
    · simp [h, value?_dashed (f := []) (by simp) h]
    · simp [h, value?_dashed_nil_of_not_exists h]

theorem fraction_kept_iff_january : KeepsFraction january ['2', '5'] :=
  (fraction_kept_iff (by simp) (by simp)).1.mpr (.inl (by decide))

/-- `0000-00-00 00:00:00`, a time that is not set. -/
def unset : Stamp where
  year := ⟨['0', '0', '0', '0'], rfl, by simp⟩
  month := ⟨['0', '0'], rfl, by simp⟩
  day := ⟨['0', '0'], rfl, by simp⟩
  hour := ⟨['0', '0'], rfl, by simp⟩
  minute := ⟨['0', '0'], rfl, by simp⟩
  second := ⟨['0', '0'], rfl, by simp⟩

/-- Not every fraction is kept: half a second after a time that is not set is the number 5. -/
theorem fraction_not_kept_unset :
    value? "0000-00-00 00:00:00.5".toList = some (ofNatural64 5) ∧
      ¬∀ t f, f ≠ [] → (∀ c ∈ f, c.isDigit = true) → KeepsFraction t f := by
  have hunset : ¬unset.Exists := by decide
  have hvalue : value? (unset.dashed ['5']) = some (ofNatural64 5) := by
    rw [value?_fraction_of_not_exists hunset (by simp) (by simp)]
    exact (LogFile.sequence?_eq_some (by simp) (by simp)).mpr ⟨by decide, rfl⟩
  refine ⟨hvalue, fun hkept => ?_⟩
  have hnone := ((hkept unset ['5'] (by simp) (by simp)).missing hunset).2
  rw [hvalue] at hnone
  cases hnone

end MysqlMetrics.Status
