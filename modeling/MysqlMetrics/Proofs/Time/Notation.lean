import MysqlMetrics.Proofs.Text.Cutting
import MysqlMetrics.Proofs.Text.Digits
import MysqlMetrics.Time.Notation

/-!
# Times as they are written

A `Stamp` is the digits of a date and a time in full width; both notations are layouts of the same
stamp with a fraction. Each reader reads a stamp of its notation as the point in time that the
digits write, if that exists.

* `readDashed?_dashed`, `readZoned?_zoned`: the two readers on written stamps.
* `nanosecondsOf_eq`: the nanoseconds of a fraction, rounded down.
-/

namespace MysqlMetrics.DateTime

open MysqlMetrics.Text

/-! ## Single readers -/

theorem trimStart_numeral {width : Nat} (n : Numeral (width + 1)) (rest : List Char) :
    trimStart (n.digits ++ rest) = n.digits ++ rest := by
  obtain ⟨c, others, hcons, hc⟩ := n.eq_cons
  rw [hcons, List.cons_append, trimStart_eq_self (isBlank_of_isDigit hc)]

theorem trimStart_space_numeral {width : Nat} (n : Numeral (width + 1)) (rest : List Char) :
    trimStart (' ' :: (n.digits ++ rest)) = n.digits ++ rest := by
  rw [trimStart, List.dropWhile_cons_of_pos (by decide)]
  exact trimStart_numeral n rest

/-- A number in full width is read to its last digit, whatever follows. -/
theorem field?_numeral {width : Nat} (n : Numeral (width + 1)) (rest : List Char) :
    field? (width + 1) (n.digits ++ rest) = some (n.value, rest) := by
  have hne : n.digits ≠ [] := by
    obtain ⟨c, others, hcons, -⟩ := n.eq_cons
    rw [hcons]
    exact List.cons_ne_nil _ _
  have hdigits : ((n.digits ++ rest).take (width + 1)).takeWhile Char.isDigit = n.digits :=
    takeWhile_take_run n.isDigit n.length_digits.le (.inl n.length_digits)
  simp only [field?, trimStart_numeral, hdigits, if_neg hne, List.drop_left, Numeral.value]

theorem year?_numeral (n : Numeral 4) (rest : List Char) :
    year? (n.digits ++ rest) = some ((n.value : Int), rest) := by
  obtain ⟨c, others, hcons, hc⟩ := n.eq_cons
  have hminus : c ≠ '-' := by rintro rfl; simp at hc
  have hplus : c ≠ '+' := by rintro rfl; simp at hc
  unfold year?
  rw [trimStart_numeral]
  split
  · rename_i heq
    rw [hcons] at heq
    exact absurd (List.cons.inj heq).1 hminus
  · rename_i heq
    rw [hcons] at heq
    exact absurd (List.cons.inj heq).1 hplus
  · rw [field?_numeral]
    rfl

theorem mark?_cons (c : Char) (rest : List Char) : mark? c (c :: rest) = some rest := if_pos rfl

theorem mark?_eq_some {c : Char} {text rest : List Char} :
    mark? c text = some rest ↔ text = c :: rest := by
  cases text with
  | nil => simp [mark?]
  | cons d others => simp [mark?]

/-- A month's name is its three letters in any case. -/
theorem monthName?_name {name rest : List Char} {i : Nat}
    (h : monthNames[i]? = some (name.map Char.toLower)) :
    monthName? (name ++ rest) = some (i + 1, rest) := by
  have hlt : i < 12 := (List.getElem?_eq_some_iff.mp h).1
  have hlength : ∀ word ∈ monthNames, word.length = 3 := by decide
  have hthree : name.length = 3 := by
    rw [← hlength _ (List.mem_of_getElem? h), List.length_map]
  have hidx : monthNames.idxOf? (name.map Char.toLower) = some i := by
    have hall : ∀ i < 12, monthNames[i]?.bind monthNames.idxOf? = some i := by decide
    simpa [h] using hall i hlt
  obtain ⟨a, b, c, rfl⟩ := List.length_eq_three.mp hthree
  simp only [List.map_cons, List.map_nil] at hidx
  simp [monthName?, hidx]

/-! ## Fractions of a second -/

/-- A point and the digits behind it, or nothing if there are none. -/
def point (f : List Char) : List Char := if f = [] then [] else '.' :: f

theorem point_nil : point [] = [] := rfl

theorem point_of_ne_nil {f : List Char} (h : f ≠ []) : point f = '.' :: f := if_neg h

/-- A fraction of a second is read to its last digit. -/
theorem fraction?_point {f rest : List Char} (hf : ∀ c ∈ f, c.isDigit = true)
    (hrest : ∀ c ∈ rest.head?, c.isDigit = false ∧ c ≠ '.') :
    fraction? (point f ++ rest) = some (nanosecondsOf f, rest) := by
  by_cases h : f = []
  · subst h
    unfold fraction?
    split
    · rename_i heq
      exact absurd rfl (hrest '.' (by rw [point_nil, List.nil_append] at heq; rw [heq]; rfl)).2
    · rfl
  · rw [point_of_ne_nil h, List.cons_append, fraction?,
      digits_run hf fun c hc => (hrest c hc).1]
    simp [h]

/-- The nanoseconds of a fraction are its value in nanoseconds, rounded down. -/
theorem nanosecondsOf_eq {f : List Char} (h : ∀ c ∈ f, c.isDigit = true) :
    nanosecondsOf f = digitsValue f * 10 ^ 9 / 10 ^ f.length := by
  by_cases hshort : f.length ≤ 9
  · -- All digits count, and zeros take the place of those that are missing.
    have hsplit : 10 ^ 9 = 10 ^ (9 - f.length) * 10 ^ f.length := by
      rw [← Nat.pow_add, Nat.sub_add_cancel hshort]
    rw [nanosecondsOf, List.take_of_length_le hshort, hsplit, ← Nat.mul_assoc,
      Nat.mul_div_cancel _ (Nat.pow_pos (by decide))]
    rfl
  · have hlength : (f.take 9).length = 9 := by simp; omega
    have hdrop : (f.drop 9).length = f.length - 9 := by simp
    have hsplit : 10 ^ f.length = 10 ^ (f.length - 9) * 10 ^ 9 := by
      rw [← Nat.pow_add, Nat.sub_add_cancel (by omega)]
    have hlow : digitsValue (f.drop 9) < 10 ^ (f.length - 9) := by
      rw [← hdrop]
      exact digitsValue_lt fun c hc => h c (List.mem_of_mem_drop hc)
    have hvalue : digitsValue f =
        10 ^ (f.length - 9) * digitsValue (f.take 9) + digitsValue (f.drop 9) := by
      rw [← hdrop, Nat.mul_comm, ← digitsValue_append, List.take_append_drop]
    rw [nanosecondsOf, hlength, hsplit, Nat.mul_div_mul_right _ _ (by decide), hvalue,
      Nat.mul_add_div (Nat.pow_pos (by decide)), Nat.div_eq_of_lt hlow]
    simp

theorem nanosecondsOf_lt {f : List Char} (h : ∀ c ∈ f, c.isDigit = true) :
    nanosecondsOf f < 10 ^ 9 := by
  rw [nanosecondsOf_eq h, Nat.div_lt_iff_lt_mul (Nat.pow_pos (by decide)), Nat.mul_comm]
  exact Nat.mul_lt_mul_of_pos_left (digitsValue_lt h) (by decide)

/-! ## Written stamps -/

/-- The digits of a date and a time of day. -/
structure Stamp where
  year : Numeral 4
  month : Numeral 2
  day : Numeral 2
  hour : Numeral 2
  minute : Numeral 2
  second : Numeral 2

namespace Stamp

/-- The point in time that the digits write, with a fraction of a second. -/
def dateTime (t : Stamp) (f : List Char) : DateTime where
  year := t.year.value
  month := t.month.value
  day := t.day.value
  hour := t.hour.value
  minute := t.minute.value
  second := t.second.value
  nanosecond := nanosecondsOf f

/-- The calendar has the date, and the day has the time. -/
def Exists (t : Stamp) : Prop := (t.dateTime []).Exists

instance (t : Stamp) : Decidable t.Exists := inferInstanceAs (Decidable (t.dateTime []).Exists)

/-- A fraction does not count for the existence of a time. -/
theorem exists_dateTime (t : Stamp) (f : List Char) : (t.dateTime f).Exists ↔ t.Exists := by
  simp only [Exists, DateTime.Exists, dateTime]

/-- The time of day: `10:35:29.5`. -/
def clock (t : Stamp) (f : List Char) : List Char :=
  t.hour.digits ++ ':' :: (t.minute.digits ++ ':' :: (t.second.digits ++ point f))

/-- The date: `2031-04-14`. -/
def date (t : Stamp) : List Char :=
  t.year.digits ++ '-' :: (t.month.digits ++ '-' :: t.day.digits)

/-- The first notation: `2031-04-14 10:35:29.5`. -/
def dashed (t : Stamp) (f : List Char) : List Char := t.date ++ ' ' :: t.clock f

/-- The second notation without its zone: `Apr 14 10:35:29.5 2031`. -/
def named (t : Stamp) (name f : List Char) : List Char :=
  name ++ ' ' :: (t.day.digits ++ ' ' :: (t.clock f ++ ' ' :: t.year.digits))

/-- The second notation: `Apr 14 10:35:29.5 2031 GMT`. -/
def zoned (t : Stamp) (name f zone : List Char) : List Char := t.named name f ++ ' ' :: zone

variable {f : List Char}

theorem clock?_clock (t : Stamp) (hf : ∀ c ∈ f, c.isDigit = true) (rest : List Char)
    (hrest : ∀ c ∈ rest.head?, c.isDigit = false ∧ c ≠ '.') :
    clock? (t.clock f ++ rest) =
      some ((t.hour.value, t.minute.value, t.second.value, nanosecondsOf f), rest) := by
  simp only [clock, clock?, List.append_assoc, List.cons_append, field?_numeral, mark?_cons,
    fraction?_point hf hrest, Option.bind_eq_bind, Option.bind_some]
  rfl

/-- A stamp in the first notation is read as what its digits write, if that exists. -/
theorem readDashed?_dashed (t : Stamp) (hf : ∀ c ∈ f, c.isDigit = true) :
    readDashed? (t.dashed f) = checked? (t.dateTime f) [] := by
  have hclock := t.clock?_clock hf [] (by simp)
  rw [List.append_nil] at hclock
  have htrim : trimStart (' ' :: t.clock f) = t.clock f := trimStart_space_numeral t.hour _
  simp only [dashed, date, readDashed?, List.append_assoc, List.cons_append, year?_numeral,
    field?_numeral, mark?_cons, htrim, hclock, Option.bind_eq_bind, Option.bind_some]
  rfl

theorem readNamed?_named (t : Stamp) (hf : ∀ c ∈ f, c.isDigit = true) {name : List Char} {i : Nat}
    (hname : monthNames[i]? = some (name.map Char.toLower)) (hmonth : t.month.value = i + 1) :
    readNamed? (t.named name f) = checked? (t.dateTime f) [] := by
  have hclock := t.clock?_clock hf (' ' :: t.year.digits) (by simp)
  have htrim : trimStart (' ' :: (t.clock f ++ ' ' :: t.year.digits)) =
      t.clock f ++ ' ' :: t.year.digits := by
    rw [clock, List.append_assoc]
    exact trimStart_space_numeral t.hour _
  have hyear := year?_numeral t.year []
  have htrim' := trimStart_space_numeral t.year []
  rw [List.append_nil] at hyear htrim'
  simp only [named, readNamed?, monthName?_name hname, trimStart_space_numeral, field?_numeral,
    htrim, htrim', hclock, hyear, Option.bind_eq_bind, Option.bind_some, ← hmonth]
  rfl

/-- A stamp in the second notation is read as what its digits write, if that exists; the zone does
not count. -/
theorem readZoned?_zoned (t : Stamp) (hf : ∀ c ∈ f, c.isDigit = true) {name zone : List Char}
    {i : Nat} (hname : monthNames[i]? = some (name.map Char.toLower))
    (hmonth : t.month.value = i + 1) (hne : zone ≠ [])
    (hzone : ∀ c ∈ zone, c.isAlpha = true) :
    readZoned? (t.zoned name f zone) = checked? (t.dateTime f) [] := by
  have hspace : ' ' ∉ zone := fun hmem => by simpa using hzone ' ' hmem
  have hcut : cutLast? ' ' (t.zoned name f zone) = some (t.named name f, zone) :=
    cutLast?_eq_some.mpr ⟨rfl, hspace⟩
  simp only [readZoned?, hcut, Option.bind_eq_bind, Option.bind_some]
  rw [if_pos ⟨hne, List.all_eq_true.mpr hzone⟩, t.readNamed?_named hf hname hmonth]

/-- A stamp in the first notation is none in the second: what stands behind its space is no zone. -/
theorem readZoned?_dashed (t : Stamp) (hf : ∀ c ∈ f, c.isDigit = true) :
    readZoned? (t.dashed f) = none := by
  have hspace : ' ' ∉ t.clock f := by
    have hnf := not_mem_of_isDigit hf (c := ' ') (by decide)
    have hpoint : ' ' ∉ point f := by
      unfold point
      split <;> simp [hnf]
    simp [clock, Numeral.not_mem, hpoint]
  have hcut : cutLast? ' ' (t.dashed f) = some (t.date, t.clock f) :=
    cutLast?_eq_some.mpr ⟨rfl, hspace⟩
  have hcolon : ¬(t.clock f).all Char.isAlpha := by
    intro hall
    have := List.all_eq_true.mp hall ':' (by simp [clock])
    simp at this
  simp only [readZoned?, hcut, Option.bind_eq_bind, Option.bind_some]
  exact if_neg fun h => hcolon h.2

end Stamp

end MysqlMetrics.DateTime
