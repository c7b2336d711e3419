import MysqlMetrics.Proofs.Decimal.Notation
import MysqlMetrics.Proofs.Time.Notation

/-!
# What a written time may look like

Both notations of a time are read leniently: blanks may stand in front of every number, and where
the notation has a space there may be none, a number may have fewer digits than usual, and a year
may have a sign and then any number of digits. The layouts below say which texts these are; the
readers accept exactly the layouts of times that exist.

* `Field`, `Year`, `Clock`: the parts of a time as they are written.
* `Dashed`, `Zoned`: the two notations.
* `readDashed?_eq_some`, `readZoned?_eq_some`: the texts that the readers accept.
* `Dashed.text_ne_zoned`: no text is in both notations. `readDashed?_of_not_mem`,
  `readZoned?_of_not_mem`: a text without a colon is in neither.
-/

namespace MysqlMetrics.DateTime

open MysqlMetrics.Text

/-! ## Blanks in front -/

/-- A text is blanks and then a text that does not begin with a blank. -/
theorem exists_trimStart (text : List Char) :
    ∃ blanks, text = blanks ++ trimStart text ∧ ∀ c ∈ blanks, isBlank c = true :=
  ⟨text.takeWhile isBlank, List.takeWhile_append_dropWhile.symm,
    fun _ hc => List.mem_takeWhile_imp hc⟩

theorem trimStart_trimStart (text : List Char) : trimStart (trimStart text) = trimStart text :=
  List.dropWhile_idempotent isBlank text

/-- A text of digits does not begin with a blank. -/
theorem isBlank_of_mem_head? {ds rest : List Char} (hne : ds ≠ [])
    (hds : ∀ c ∈ ds, c.isDigit = true) {c : Char} (hc : c ∈ (ds ++ rest).head?) :
    isBlank c = false := by
  rw [List.head?_append_of_ne_nil _ hne] at hc
  exact isBlank_of_isDigit (hds c (List.mem_of_mem_head? hc))

/-! ## Numbers of some digits -/

/-- A number of at most `width` digits, with blanks at will in front. -/
structure Field (width : Nat) where
  blanks : List Char
  digits : List Char
  isBlank : ∀ c ∈ blanks, isBlank c = true
  isDigit : ∀ c ∈ digits, c.isDigit = true
  nonempty : digits ≠ []
  short : digits.length ≤ width

namespace Field

variable {width : Nat}

/-- The number as it is written. -/
def text (f : Field width) : List Char := f.blanks ++ f.digits

/-- The number. -/
def value (f : Field width) : Nat := digitsValue f.digits

/-- The number ends where `rest` begins: it has no place for another digit, or none follows. -/
def Ends (f : Field width) (rest : List Char) : Prop :=
  f.digits.length = width ∨ ∀ c ∈ rest.head?, c.isDigit = false

theorem ends_cons (f : Field width) {c : Char} (hc : c.isDigit = false) (rest : List Char) :
    f.Ends (c :: rest) :=
  .inr fun d hd => by obtain rfl := Option.some.inj hd; exact hc

end Field

/-- The reader of a number accepts blanks and as many digits as there are and it has place for. -/
theorem field?_eq_some {width n : Nat} {text rest : List Char} :
    field? width text = some (n, rest) ↔
      ∃ f : Field width, text = f.text ++ rest ∧ f.value = n ∧ f.Ends rest := by
  constructor
  · intro h
    obtain ⟨blanks, htext, hblanks⟩ := exists_trimStart text
    obtain ⟨others, hsplit, hends⟩ := exists_takeWhile_take Char.isDigit width (trimStart text)
    have hdigits : ∀ c ∈ ((trimStart text).take width).takeWhile Char.isDigit, c.isDigit = true :=
      fun c hc => List.mem_takeWhile_imp hc
    have hshort : (((trimStart text).take width).takeWhile Char.isDigit).length ≤ width :=
      (List.takeWhile_prefix _).length_le.trans (List.length_take_le _ _)
    simp only [field?] at h
    generalize ((trimStart text).take width).takeWhile Char.isDigit = ds at *
    split at h
    · cases h
    · rename_i hne
      rw [hsplit, List.drop_left] at h
      cases h
      refine ⟨⟨blanks, ds, hblanks, hdigits, hne, hshort⟩, ?_, rfl, hends⟩
      rw [Field.text, List.append_assoc, ← hsplit, ← htext]
  · rintro ⟨f, rfl, rfl, hends⟩
    have htrim : trimStart (f.text ++ rest) = f.digits ++ rest := by
      rw [Field.text, List.append_assoc]
      exact dropWhile_run f.isBlank fun c hc => isBlank_of_mem_head? f.nonempty f.isDigit hc
    simp only [field?, htrim, takeWhile_take_run f.isDigit f.short hends, if_neg f.nonempty,
      List.drop_left, Field.value]

/-- The reader of a number without a limit accepts all the digits there are. -/
theorem anyDigits?_eq_some {n : Nat} {text rest : List Char} :
    anyDigits? text = some (n, rest) ↔
      ∃ ds, text = ds ++ rest ∧ ds ≠ [] ∧ (∀ c ∈ ds, c.isDigit = true) ∧ digitsValue ds = n ∧
        ∀ c ∈ rest.head?, c.isDigit = false := by
  constructor
  · intro h
    simp only [anyDigits?] at h
    split at h
    · cases h
    · rename_i hne
      cases h
      exact ⟨_, (digits_append text).symm, hne, fun c => isDigit_of_mem_digits, rfl,
        fun c hc => not_of_mem_head?_dropWhile hc⟩
  · rintro ⟨ds, rfl, hne, hds, rfl, hrest⟩
    simp [anyDigits?, digits_run hds hrest, hne]

/-! ## Years -/

/-- A year of at most four digits, or of any number of digits behind a sign, with blanks at will in
front. -/
structure Year where
  blanks : List Char
  sign : List Char
  digits : List Char
  isBlank : ∀ c ∈ blanks, isBlank c = true
  isSign : Decimal.IsSign sign
  isDigit : ∀ c ∈ digits, c.isDigit = true
  nonempty : digits ≠ []
  short : sign = [] → digits.length ≤ 4

namespace Year

/-- The year as it is written. -/
def text (y : Year) : List Char := y.blanks ++ (y.sign ++ y.digits)

/-- The year. -/
def value (y : Year) : Int :=
  if y.sign = ['-'] then -(digitsValue y.digits : Int) else digitsValue y.digits

/-- The year ends where `rest` begins: it has no place for another digit, or none follows. -/
def Ends (y : Year) (rest : List Char) : Prop :=
  (y.sign = [] ∧ y.digits.length = 4) ∨ ∀ c ∈ rest.head?, c.isDigit = false

theorem ends_nil (y : Year) : y.Ends [] := .inr (by simp)

theorem ends_dash (y : Year) (rest : List Char) : y.Ends ('-' :: rest) :=
  .inr fun c hc => by obtain rfl := Option.some.inj hc; rfl

end Year

/-- A year that is read stands there as it is written. -/
theorem exists_of_year? {n : Int} {text rest : List Char} (h : year? text = some (n, rest)) :
    ∃ y : Year, text = y.text ++ rest ∧ y.value = n ∧ y.Ends rest := by
  obtain ⟨blanks, htext, hblanks⟩ := exists_trimStart text
  unfold year? at h
  split at h
  all_goals
    obtain ⟨⟨m, others⟩, hread, heq⟩ := Option.map_eq_some_iff.mp h
    cases heq
  · rename_i hcons
    obtain ⟨ds, rfl, hne, hds, rfl, hends⟩ := anyDigits?_eq_some.mp hread
    refine ⟨⟨blanks, ['-'], ds, hblanks, .inr (.inl rfl), hds, hne, by simp⟩, ?_, ?_, .inr hends⟩
    · rw [htext, hcons]
      simp [Year.text]
    · simp [Year.value]
  · rename_i hcons
    obtain ⟨ds, rfl, hne, hds, rfl, hends⟩ := anyDigits?_eq_some.mp hread
    refine ⟨⟨blanks, ['+'], ds, hblanks, .inr (.inr rfl), hds, hne, by simp⟩, ?_, ?_, .inr hends⟩
    · rw [htext, hcons]
      simp [Year.text]
    · simp [Year.value]
  · -- The reader of a short year skips blanks once more; there are none left.
    obtain ⟨f, hf, rfl, hends⟩ := field?_eq_some.mp hread
    refine ⟨⟨blanks ++ f.blanks, [], f.digits, ?_, .inl rfl, f.isDigit, f.nonempty,
      fun _ => f.short⟩, ?_, ?_, hends.imp_left (⟨rfl, ·⟩)⟩
    · simpa [or_imp, forall_and] using And.intro hblanks f.isBlank
    · rw [htext, hf]
      simp [Year.text, Field.text]
    · simp [Year.value, Field.value]

namespace Year

theorem trimStart_text (y : Year) (rest : List Char) :
    trimStart (y.text ++ rest) = y.sign ++ (y.digits ++ rest) := by
  have hhead : ∀ c ∈ (y.sign ++ (y.digits ++ rest)).head?, Text.isBlank c = false := by
    intro c hc
    rcases y.isSign with hsign | hsign | hsign
    · rw [hsign] at hc
      exact isBlank_of_mem_head? y.nonempty y.isDigit hc
    · rw [hsign] at hc
      obtain rfl := Option.some.inj hc
      decide
    · rw [hsign] at hc
      obtain rfl := Option.some.inj hc
      decide
  rw [text, List.append_assoc, List.append_assoc]
  exact dropWhile_run y.isBlank hhead

/-- A year that ends is read to its last digit. -/
theorem year?_text (y : Year) {rest : List Char} (hends : y.Ends rest) :
    year? (y.text ++ rest) = some (y.value, rest) := by
  unfold year?
  rw [trimStart_text]
  obtain ⟨blanks, sign, ds, hblanks, hsign, hds, hne, hshort⟩ := y
  rcases hsign with rfl | hsigned
  · obtain ⟨c, others, rfl⟩ := List.exists_cons_of_ne_nil hne
    have hc := hds c List.mem_cons_self
    have hminus : c ≠ '-' := by rintro rfl; simp at hc
    have hplus : c ≠ '+' := by rintro rfl; simp at hc
    have hread : field? 4 (c :: others ++ rest) = some (digitsValue (c :: others), rest) :=
      field?_eq_some.mpr ⟨⟨[], c :: others, by simp, hds, hne, hshort rfl⟩, rfl, rfl,
        hends.imp_left And.right⟩
    split
    · rename_i heq
      exact absurd (List.cons.inj heq).1 hminus
    · rename_i heq
      exact absurd (List.cons.inj heq).1 hplus
    · rw [List.nil_append, hread]
      rfl
  · have hsome : sign ≠ [] := by rintro rfl; simp at hsigned
    have hread := anyDigits?_eq_some.mpr
      ⟨ds, rfl, hne, hds, rfl, hends.resolve_left fun h => hsome h.1⟩
    rcases hsigned with rfl | rfl <;> simp [hread, value]

end Year

/-- The reader of a year accepts a sign and all digits, or as many digits as there is place for. -/
theorem year?_eq_some {n : Int} {text rest : List Char} :
    year? text = some (n, rest) ↔
      ∃ y : Year, text = y.text ++ rest ∧ y.value = n ∧ y.Ends rest := by
  constructor
  · exact exists_of_year?
  · rintro ⟨y, rfl, rfl, hends⟩
    exact y.year?_text hends

/-! ## Names of months -/

/-- A month is known by its three letters in any case; months are counted from one. -/
theorem monthName?_eq_some {n : Nat} {text rest : List Char} :
    monthName? text = some (n, rest) ↔ ∃ name i, text = name ++ rest ∧
      monthNames[i]? = some (name.map Char.toLower) ∧ n = i + 1 := by
  constructor
  · intro h
    unfold monthName? at h
    split at h
    · rename_i a b c others
      obtain ⟨i, hi, heq⟩ := Option.map_eq_some_iff.mp h
      cases heq
      obtain ⟨hlt, hget, -⟩ := List.idxOf?_eq_some_iff.mp hi
      exact ⟨[a, b, c], i, rfl, List.getElem?_eq_some_iff.mpr ⟨hlt, hget⟩, rfl⟩
    · cases h
  · rintro ⟨name, i, rfl, hname, rfl⟩
    exact monthName?_name hname

/-! ## Times of day -/

/-- A fraction ends where `rest` begins: no digit follows it, and no point if there is none. -/
def FractionEnds (f rest : List Char) : Prop :=
  ∀ c ∈ rest.head?, if f = [] then c ≠ '.' else c.isDigit = false

theorem fraction?_eq_some {n : Nat} {text rest : List Char} :
    fraction? text = some (n, rest) ↔
      ∃ f, text = point f ++ rest ∧ (∀ c ∈ f, c.isDigit = true) ∧ nanosecondsOf f = n ∧
        FractionEnds f rest := by
  constructor
  · intro h
    unfold fraction? at h
    split at h
    · rename_i after
      simp only at h
      split at h
      · cases h
      · rename_i hne
        cases h
        refine ⟨(digits after).1, ?_, fun c => isDigit_of_mem_digits, rfl, fun c hc => ?_⟩
        · rw [point_of_ne_nil hne, List.cons_append, digits_append]
        · rw [if_neg hne]
          exact not_of_mem_head?_dropWhile hc
    · rename_i hpoint
      cases h
      refine ⟨[], rfl, by simp, rfl, fun c hc => ?_⟩
      rw [if_pos rfl]
      rintro rfl
      obtain ⟨others, rfl⟩ := List.head?_eq_some_iff.mp hc
      exact hpoint others rfl
  · rintro ⟨f, rfl, hf, rfl, hends⟩
    by_cases hne : f = []
    · subst hne
      unfold fraction?
      split
      · rename_i after heq
        rw [point_nil, List.nil_append] at heq
        exact absurd rfl (hends '.' (by rw [heq]; rfl))
      · rfl
    · have hrest : ∀ c ∈ rest.head?, c.isDigit = false := fun c hc => by
        simpa [hne] using hends c hc
      simp [fraction?, point_of_ne_nil hne, digits_run hf hrest, hne]

/-- A time of day as it is written. -/
structure Clock where
  hour : Field 2
  minute : Field 2
  second : Field 2
  fraction : List Char
  isDigit : ∀ c ∈ fraction, c.isDigit = true

namespace Clock

/-- The time of day: `10:35:29.5`. -/
def text (t : Clock) : List Char :=
  t.hour.text ++ ':' :: (t.minute.text ++ ':' :: (t.second.text ++ point t.fraction))

/-- The time of day on a date. -/
def on (t : Clock) (year : Int) (month day : Nat) : DateTime where
  year := year
  month := month
  day := day
  hour := t.hour.value
  minute := t.minute.value
  second := t.second.value
  nanosecond := nanosecondsOf t.fraction

/-- The time of day ends where `rest` begins. -/
def Ends (t : Clock) (rest : List Char) : Prop :=
  t.second.Ends (point t.fraction ++ rest) ∧ FractionEnds t.fraction rest

theorem ends_nil (t : Clock) : t.Ends [] := by
  refine ⟨.inr fun c hc => ?_, by simp [FractionEnds]⟩
  rw [List.append_nil, point] at hc
  split at hc
  · cases hc
  · obtain rfl := Option.some.inj hc
    decide

end Clock

theorem clock?_eq_some {hour minute second nanosecond : Nat} {text rest : List Char} :
    clock? text = some ((hour, minute, second, nanosecond), rest) ↔
      ∃ t : Clock, text = t.text ++ rest ∧ t.Ends rest ∧ t.hour.value = hour ∧
        t.minute.value = minute ∧ t.second.value = second ∧
        nanosecondsOf t.fraction = nanosecond := by
  simp only [clock?, Option.bind_eq_bind, Option.bind_eq_some_iff, Prod.exists, field?_eq_some,
    mark?_eq_some, fraction?_eq_some]
  constructor
  · rintro ⟨_, _, ⟨h, rfl, rfl, hh⟩, _, rfl, _, _, ⟨m, rfl, rfl, hm⟩, _, rfl, _, _,
      ⟨s, rfl, rfl, hs⟩, _, _, ⟨f, rfl, hf, rfl, hends⟩, heq⟩
    cases heq
    exact ⟨⟨h, m, s, f, hf⟩, by simp [Clock.text], ⟨hs, hends⟩, rfl, rfl, rfl, rfl⟩
  · rintro ⟨t, rfl, ⟨hs, hends⟩, rfl, rfl, rfl, rfl⟩
    refine ⟨_, _, ⟨t.hour, ?_, rfl, t.hour.ends_cons (by decide) _⟩, _, rfl, _, _,
      ⟨t.minute, rfl, rfl, t.minute.ends_cons (by decide) _⟩, _, rfl, _, _,
      ⟨t.second, rfl, rfl, hs⟩, _, _, ⟨t.fraction, rfl, t.isDigit, rfl, hends⟩, rfl⟩
    simp [Clock.text]

/-! ## The layouts -/

theorem field?_trimStart (width : Nat) (text : List Char) :
    field? width (trimStart text) = field? width text := by
  simp only [field?, trimStart_trimStart]

theorem year?_trimStart (text : List Char) : year? (trimStart text) = year? text := by
  simp only [year?, trimStart_trimStart]

theorem clock?_trimStart (text : List Char) : clock? (trimStart text) = clock? text := by
  simp only [clock?, field?_trimStart]

theorem checked?_eq_some {t u : DateTime} {rest : List Char} :
    checked? t rest = some u ↔ rest = [] ∧ t = u ∧ u.Exists := by
  simp only [checked?, Option.ite_none_right_eq_some, Option.some.injEq]
  constructor
  · rintro ⟨⟨rfl, h⟩, rfl⟩
    exact ⟨rfl, rfl, h⟩
  · rintro ⟨rfl, rfl, h⟩
    exact ⟨⟨rfl, h⟩, rfl⟩

/-- The first notation: `2031-04-14 10:35:29.5`. -/
structure Dashed where
  year : Year
  month : Field 2
  day : Field 2
  clock : Clock
  day_ends : day.Ends clock.text

namespace Dashed

/-- The time as it is written. -/
def text (d : Dashed) : List Char :=
  d.year.text ++ '-' :: (d.month.text ++ '-' :: (d.day.text ++ d.clock.text))

/-- The time, which need not exist. -/
def time (d : Dashed) : DateTime := d.clock.on d.year.value d.month.value d.day.value

end Dashed

/-- The reader of the first notation accepts exactly the times in it that exist. -/
theorem readDashed?_eq_some {text : List Char} {t : DateTime} :
    readDashed? text = some t ↔ ∃ d : Dashed, text = d.text ∧ d.time = t ∧ t.Exists := by
  simp only [readDashed?, clock?_trimStart, Option.bind_eq_bind, Option.bind_eq_some_iff,
    Prod.exists, year?_eq_some, field?_eq_some, mark?_eq_some, clock?_eq_some, checked?_eq_some]
  constructor
  · rintro ⟨_, _, ⟨y, rfl, rfl, -⟩, _, rfl, _, _, ⟨m, rfl, rfl, -⟩, _, rfl, _, _,
      ⟨d, rfl, rfl, hd⟩, _, _, _, _, _, ⟨c, rfl, -, rfl, rfl, rfl, rfl⟩, rfl, rfl, ht⟩
    rw [List.append_nil] at hd ⊢
    exact ⟨⟨y, m, d, c, hd⟩, rfl, rfl, ht⟩
  · rintro ⟨d, rfl, rfl, ht⟩
    refine ⟨_, _, ⟨d.year, rfl, rfl, d.year.ends_dash _⟩, _, rfl, _, _,
      ⟨d.month, rfl, rfl, d.month.ends_cons (by decide) _⟩, _, rfl, _, _,
      ⟨d.day, rfl, rfl, d.day_ends⟩, _, _, _, _, [],
      ⟨d.clock, (List.append_nil _).symm, d.clock.ends_nil, rfl, rfl, rfl, rfl⟩, rfl, rfl, ht⟩

/-- The second notation: `Apr 14 10:35:29.5 2031 GMT`. -/
structure Zoned where
  name : List Char
  index : Nat
  day : Field 2
  clock : Clock
  year : Year
  zone : List Char
  isName : monthNames[index]? = some (name.map Char.toLower)
  day_ends : day.Ends (clock.text ++ year.text)
  clock_ends : clock.Ends year.text
  nonempty : zone ≠ []
  isAlpha : ∀ c ∈ zone, c.isAlpha = true

namespace Zoned

/-- The time as it is written. -/
def text (z : Zoned) : List Char :=
  z.name ++ (z.day.text ++ (z.clock.text ++ z.year.text)) ++ ' ' :: z.zone

/-- The time, which need not exist. The zone does not count. -/
def time (z : Zoned) : DateTime := z.clock.on z.year.value (z.index + 1) z.day.value

end Zoned

/-- The reader of the second notation accepts exactly the times in it that exist. -/
theorem readZoned?_eq_some {text : List Char} {t : DateTime} :
    readZoned? text = some t ↔ ∃ z : Zoned, text = z.text ∧ z.time = t ∧ t.Exists := by
  simp only [readZoned?, readNamed?, field?_trimStart, clock?_trimStart, year?_trimStart,
    Option.bind_eq_bind, Option.bind_eq_some_iff, Option.ite_none_right_eq_some, Prod.exists,
    cutLast?_eq_some, monthName?_eq_some, field?_eq_some, clock?_eq_some, year?_eq_some,
    checked?_eq_some, List.all_eq_true]
  constructor
  · rintro ⟨_, zone, ⟨rfl, -⟩, ⟨hne, hzone⟩, _, _, ⟨name, i, rfl, hname, rfl⟩, _, _,
      ⟨d, rfl, rfl, hd⟩, _, _, _, _, _, ⟨c, rfl, hc, rfl, rfl, rfl, rfl⟩, _, _,
      ⟨y, rfl, rfl, -⟩, rfl, rfl, ht⟩
    rw [List.append_nil] at hd hc ⊢
    exact ⟨⟨name, i, d, c, y, zone, hname, hd, hc, hne, hzone⟩, rfl, rfl, ht⟩
  · rintro ⟨z, rfl, rfl, ht⟩
    have hspace : ' ' ∉ z.zone := fun hmem => by simpa using z.isAlpha ' ' hmem
    exact ⟨_, z.zone, ⟨rfl, hspace⟩, ⟨z.nonempty, z.isAlpha⟩, _, _,
      ⟨z.name, z.index, rfl, z.isName, rfl⟩, _, _, ⟨z.day, rfl, rfl, z.day_ends⟩, _, _, _, _, _,
      ⟨z.clock, rfl, z.clock_ends, rfl, rfl, rfl, rfl⟩, _, _,
      ⟨z.year, (List.append_nil _).symm, rfl, z.year.ends_nil⟩, rfl, rfl, ht⟩

/-- Next to nothing has to be written: a day in two digits, and an hour behind it. -/
example : (readZoned? "jan1203:4:5+2023 Z".toList).isSome = true := by decide

/-! ## The characters of a layout -/

namespace Clock

variable (t : Clock)

theorem mem_colon : ':' ∈ t.text := by simp [text]

/-- A time of day ends in a digit, of its seconds or of its fraction. -/
theorem exists_getLast? (before : List Char) :
    ∃ c, (before ++ t.text).getLast? = some c ∧ c.isDigit = true := by
  by_cases hne : t.fraction = []
  · have h := exists_getLast?_append
      (before ++ t.hour.text ++ ':' :: (t.minute.text ++ ':' :: t.second.blanks))
      t.second.nonempty t.second.isDigit
    simpa [text, Field.text, hne, point_nil] using h
  · have h := exists_getLast?_append
      (before ++ t.hour.text ++ ':' :: (t.minute.text ++ ':' :: (t.second.text ++ ['.'])))
      hne t.isDigit
    simpa [text, point_of_ne_nil hne] using h

end Clock

namespace Dashed

variable (d : Dashed)

theorem mem_colon : ':' ∈ d.text := by simp [text, Clock.mem_colon]

/-- The first notation ends in a digit. -/
theorem exists_getLast? : ∃ c, d.text.getLast? = some c ∧ c.isDigit = true := by
  have h := d.clock.exists_getLast?
    (d.year.text ++ '-' :: (d.month.text ++ '-' :: d.day.text))
  simpa [text] using h

end Dashed

namespace Zoned

variable (z : Zoned)

theorem mem_colon : ':' ∈ z.text := by simp [text, Clock.mem_colon]

/-- The second notation ends in a letter of its zone, which is no digit. -/
theorem isDecimalDigit_getLast? {c : Char} (hlast : z.text.getLast? = some c) :
    isDecimalDigit c = false := by
  obtain ⟨d, hd, halpha⟩ := exists_getLast?_append
    (z.name ++ (z.day.text ++ (z.clock.text ++ z.year.text)) ++ [' ']) z.nonempty z.isAlpha
  rw [List.append_assoc, List.singleton_append, ← text, hlast] at hd
  cases hd
  exact isDecimalDigit_of_isAlpha halpha

end Zoned

/-- No text is a time in both notations. -/
theorem Dashed.text_ne_zoned (d : Dashed) (z : Zoned) : d.text ≠ z.text := by
  intro heq
  obtain ⟨c, hlast, hdigit⟩ := d.exists_getLast?
  rw [heq] at hlast
  have hletter := z.isDecimalDigit_getLast? hlast
  rw [isDecimalDigit_of_isDigit hdigit] at hletter
  cases hletter

/-- A text without a colon is no time. -/
theorem readDashed?_of_not_mem {text : List Char} (h : ':' ∉ text) : readDashed? text = none := by
  cases hread : readDashed? text with
  | none => rfl
  | some t =>
    obtain ⟨d, rfl, -⟩ := readDashed?_eq_some.mp hread
    exact absurd d.mem_colon h

theorem readZoned?_of_not_mem {text : List Char} (h : ':' ∉ text) : readZoned? text = none := by
  cases hread : readZoned? text with
  | none => rfl
  | some t =>
    obtain ⟨z, rfl, -⟩ := readZoned?_eq_some.mp hread
    exact absurd z.mem_colon h

end MysqlMetrics.DateTime
