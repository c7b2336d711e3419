import MysqlMetrics.Proofs.Decimal.Arithmetic
import MysqlMetrics.Proofs.Decimal.Notation
import MysqlMetrics.Proofs.Status.LogFile
import MysqlMetrics.Proofs.Time.Grammar
import MysqlMetrics.Status.Value

/-!
# Numbers among the values of status variables

A text that writes a number is no word for a switch and no time. It is taken for the name of a log
file in one case: a sign, a point and digits, where the sign is all that stands before the point and
is no number.

* `keyword?_of_read?`, `readZoned?_of_read?`, `readDashed?_of_read?`, `suffix?_of_read?`: what the
  other readings make of a number.
* `number_kept_iff`: the numbers that are read as themselves.
-/

namespace MysqlMetrics.Status

open MysqlMetrics.Text

/-! ## Words -/

/-- The words for a switch. -/
def keywords : List (List Char) := (onWords ++ offWords).map String.toList

theorem keyword?_eq_none {text : List Char} (h : text.map Char.toLower ∉ keywords) :
    keyword? text = none := by
  have hword (words : List String) (hsub : words ⊆ onWords ++ offWords) :
      String.ofList (text.map Char.toLower) ∉ words := by
    intro hmem
    refine h (List.mem_map.mpr ⟨_, hsub hmem, ?_⟩)
    rw [String.toList_ofList]
  simp only [keyword?]
  rw [if_neg (hword _ (List.subset_append_left _ _)),
    if_neg (hword _ (List.subset_append_right _ _))]

/-- A text with a character that no word has is no word for a switch. -/
theorem keyword?_of_mem {text : List Char} {c : Char} (hc : c ∈ text)
    (h : ∀ word ∈ keywords, c.toLower ∉ word) : keyword? text = none :=
  keyword?_eq_none fun hmem => h _ hmem (List.mem_map_of_mem hc)

/-- A text with a digit is no word for a switch. -/
theorem keyword?_of_isDigit {text : List Char} {c : Char} (hc : c ∈ text)
    (hdigit : c.isDigit = true) : keyword? text = none := by
  refine keyword?_of_mem hc fun word hword hmem => ?_
  have hletters : ∀ word ∈ keywords, ∀ c ∈ word, c.isDigit = false := by
    simp [keywords, onWords, offWords]
  rw [toLower_of_isDigit hdigit] at hmem
  rw [hletters _ hword c hmem] at hdigit
  cases hdigit

section

variable {text : List Char} {x : Float} (h : Decimal.read? text = some x)
include h

theorem keyword?_of_read? : keyword? text = none := by
  obtain ⟨sign, body, l, hsign, rfl, hl, -⟩ := Decimal.read?_eq_some h
  rcases Decimal.Literal.read?_eq_some hl with hword | hread
  · refine keyword?_eq_none ?_
    have hall : ∀ sign ∈ [[], ['-'], ['+']], ∀ word ∈ Decimal.Literal.words,
        sign.map Char.toLower ++ word ∉ keywords := by decide
    rw [List.map_append]
    exact hall sign (by simpa [Decimal.IsSign] using hsign) _ hword
  · obtain ⟨whole, part, tail, e, hdecimal, -⟩ := Decimal.Literal.readDecimal?_eq_some.mp hread
    obtain ⟨c, hc, hdigit⟩ := hdecimal.exists_isDigit
    exact keyword?_of_isDigit (List.mem_append_right _ hc) hdigit

theorem readZoned?_of_read? : DateTime.readZoned? text = none :=
  DateTime.readZoned?_of_not_mem (Decimal.not_mem_of_read? h (by decide) (by decide))

theorem readDashed?_of_read? : DateTime.readDashed? text = none :=
  DateTime.readDashed?_of_not_mem (Decimal.not_mem_of_read? h (by decide) (by decide))

end

/-! ## A point behind a bare sign -/

/-- `text` is a sign, a point and the digits `ds`, with no digit before the point. -/
structure IsSignedFraction (text : List Char) (sign : Char) (ds : List Char) : Prop where
  layout : text = sign :: '.' :: ds
  sign : sign = '-' ∨ sign = '+'
  nonempty : ds ≠ []
  isDigit : ∀ c ∈ ds, c.isDigit = true

namespace IsSignedFraction

variable {text ds : List Char} {sign : Char}

theorem read? (h : IsSignedFraction text sign ds) :
    Decimal.read? text =
      some (Decimal.withSign [sign] (Float.ofScientific (digitsValue ds) true ds.length)) := by
  have hdecimal : Decimal.IsDecimal ('.' :: ds) [] ds [] :=
    ⟨.inr (by simp), by simp, h.isDigit, .inr h.nonempty⟩
  have hsign : Decimal.IsSign [sign] := by
    rcases h.sign with rfl | rfl
    · exact .inr (.inl rfl)
    · exact .inr (.inr rfl)
  have hread := Decimal.read?_of_isDecimal hsign hdecimal rfl
  rwa [List.nil_append, Decimal.Literal.value_fraction (mt List.length_eq_zero_iff.mp h.nonempty),
    List.singleton_append, ← h.layout] at hread

theorem suffix? (h : IsSignedFraction text sign ds) : LogFile.suffix? text = some ds := by
  have hpoint : '.' ∉ ds := not_mem_of_isDigit h.isDigit (by decide)
  refine LogFile.suffix?_eq_some.mpr ⟨[sign], cutLast?_eq_some.mpr ⟨h.layout, hpoint⟩, ?_⟩
  refine ⟨List.cons_ne_nil _ _, ?_, h.nonempty, ?_, ?_⟩
  · rcases h.sign with rfl | rfl <;> decide
  · exact List.all_eq_true.mpr fun c hc => isDecimalDigit_of_isDigit (h.isDigit c hc)
  · rcases h.sign with rfl | rfl <;> decide

end IsSignedFraction

/-- A number is taken for the name of a log file exactly if it has no digit before its point, but a
sign. -/
theorem suffix?_of_read? {text ds : List Char} {x : Float} (h : Decimal.read? text = some x) :
    LogFile.suffix? text = some ds ↔ ∃ sign, IsSignedFraction text sign ds := by
  constructor
  · intro hsuffix
    obtain ⟨name, hcut, hname, -, hne, hdecimal, hnumeric⟩ := LogFile.suffix?_eq_some.mp hsuffix
    obtain ⟨sign, whole, part, tail, hsign, rfl, rfl, hwhole, hpart, htail⟩ :=
      Decimal.cutLast?_of_read? h hcut
    have hnil : tail = [] := by
      rcases htail with rfl | ⟨e, _, _, rfl, he, -⟩
      · rfl
      · have hletter := List.all_eq_true.mp hdecimal e (by simp)
        rcases he with rfl | rfl <;> exact absurd hletter (by decide)
    subst hnil
    rw [List.append_nil] at hcut hne ⊢
    have hbare : whole = [] := by
      by_contra hwhole'
      have hread := Decimal.read?_of_isDecimal hsign
        ⟨.inl ⟨rfl, (List.append_nil whole).symm⟩, hwhole, by simp, .inl hwhole'⟩ rfl
      exact hnumeric (by rw [LogFile.isNumeric, hread]; rfl)
    subst hbare
    rw [List.append_nil] at hcut hname
    have hlayout := (cutLast?_eq_some.mp hcut).1
    rcases hsign with rfl | rfl | rfl
    · exact absurd rfl hname
    · exact ⟨'-', hlayout, .inl rfl, hne, hpart⟩
    · exact ⟨'+', hlayout, .inr rfl, hne, hpart⟩
  · rintro ⟨sign, hfraction⟩
    exact hfraction.suffix?

/-! ## The value of a number -/

/-- A text that is no word and no time is the name of a log file or a number. -/
theorem value?_of_readings {text : List Char} (hkeyword : keyword? text = none)
    (hzoned : DateTime.readZoned? text = none) (hdashed : DateTime.readDashed? text = none) :
    value? text = (LogFile.suffix? text).elim (Decimal.read? text) LogFile.sequence? := by
  simp only [value?, hkeyword, hzoned, hdashed]
  cases LogFile.suffix? text <;> rfl

theorem value?_of_read? {text : List Char} {x : Float} (h : Decimal.read? text = some x) :
    value? text = match LogFile.suffix? text with
      | some suffix => LogFile.sequence? suffix
      | none => some x := by
  rw [value?_of_readings (keyword?_of_read? h) (readZoned?_of_read? h) (readDashed?_of_read? h), h]
  cases LogFile.suffix? text <;> rfl

/-- The number behind a bare sign and a point is the one that the digits write with the sign and the
point left away, but for a positive zero. -/
theorem IsSignedFraction.sequence?_eq_iff {text ds : List Char} {sign : Char} {x : Float}
    (hfraction : IsSignedFraction text sign ds) (h : Decimal.read? text = some x) :
    LogFile.sequence? ds = some x ↔ sign = '+' ∧ digitsValue ds = 0 := by
  have hx : x = Decimal.withSign [sign] (Float.ofScientific (digitsValue ds) true ds.length) :=
    Option.some.inj (h.symm.trans hfraction.read?)
  rw [LogFile.sequence?_eq_some hfraction.nonempty hfraction.isDigit]
  by_cases hzero : digitsValue ds = 0
  · rw [hx, hzero, Decimal.ofScientific_zero]
    have hsigned : -Decimal.ofNatural64 0 ≠ Decimal.ofNatural64 0 := by decide +kernel
    rcases hfraction.sign with rfl | rfl <;> simp [Decimal.withSign, hsigned]
  · simp only [hzero, and_false, iff_false, not_and]
    intro hlimit heq
    obtain ⟨z, y, hz, hy, hnonneg, hlt⟩ := Decimal.number?_ofScientific_lt
      (mt List.length_eq_zero_iff.mp hfraction.nonempty) (digitsValue_lt hfraction.isDigit) hzero
      (Nat.lt_succ_of_le hlimit)
    rw [← heq, hx] at hy
    rcases hfraction.sign with rfl | rfl
    · rw [Decimal.withSign, if_pos rfl, Decimal.number?_neg, hz] at hy
      have : -z = y := Option.some.inj hy
      linarith
    · rw [Decimal.withSign, if_neg (by decide), hz] at hy
      exact hlt.ne (Option.some.inj hy)

/-- **Numbers are kept but for those with a point behind a bare sign.** The value of a text that
writes a number is that number, unless the text is a sign, a point and digits. Then the value is the
number that the digits write as a whole number of 64 bits, which is the number of the text in one
case only: a positive zero. -/
theorem number_kept_iff {text : List Char} {x : Float} (h : Decimal.read? text = some x) :
    (value? text = some x ↔
      ∀ sign ds, IsSignedFraction text sign ds → sign = '+' ∧ digitsValue ds = 0) ∧
    ∀ sign ds, IsSignedFraction text sign ds → value? text = LogFile.sequence? ds := by
  have hvalue (sign : Char) (ds : List Char) (hfraction : IsSignedFraction text sign ds) :
      value? text = LogFile.sequence? ds := by
    rw [value?_of_read? h, hfraction.suffix?]
  refine ⟨?_, hvalue⟩
  cases hsuffix : LogFile.suffix? text with
  | none =>
    have hkept : value? text = some x := by rw [value?_of_read? h, hsuffix]
    have hnone (sign : Char) (ds : List Char) : ¬IsSignedFraction text sign ds := fun hfraction => by
      rw [hfraction.suffix?] at hsuffix
      cases hsuffix
    simp [hkept, hnone]
  | some ds =>
    obtain ⟨sign, hfraction⟩ := (suffix?_of_read? h).mp hsuffix
    rw [hvalue sign ds hfraction, hfraction.sequence?_eq_iff h]
    constructor
    · rintro hzero sign' ds' hfraction'
      have hlayout := hfraction.layout.symm.trans hfraction'.layout
      cases hlayout
      exact hzero
    · exact fun hall => hall sign ds hfraction

/-- A number with a digit before its point is kept. -/
theorem number_kept_iff_digitFirst :
    value? "-12.5".toList = some (-Float.ofScientific 125 true 1) := by
  have hread : Decimal.read? "-12.5".toList = some (-Float.ofScientific 125 true 1) := rfl
  refine (number_kept_iff hread).1.mpr fun sign ds h => ?_
  have hlayout : '1' = '.' := (List.cons.inj (List.cons.inj h.layout).2).1
  exact absurd hlayout (by decide)

theorem isSignedFraction_half : IsSignedFraction "-.5".toList '-' ['5'] :=
  ⟨rfl, .inl rfl, by decide, by simp⟩

/-- Not every number is kept: one half below zero is taken for the fifth log file. -/
theorem number_not_kept_pointFirst :
    ¬∀ text x, Decimal.read? text = some x → value? text = some x := by
  intro hkept
  have hread := isSignedFraction_half.read?
  have hvalue := hkept _ _ hread
  rw [value?_of_read? hread, isSignedFraction_half.suffix?] at hvalue
  have hzero := ((isSignedFraction_half.sequence?_eq_iff hread).mp hvalue).1
  exact absurd hzero (by decide)

end MysqlMetrics.Status
