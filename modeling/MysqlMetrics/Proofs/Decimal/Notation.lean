import MysqlMetrics.Decimal.Reader
import MysqlMetrics.Proofs.Text.Cutting
import MysqlMetrics.Proofs.Text.Digits

/-!
# The notation of numbers

What a text looks like that writes a number: a sign at will, and then a word, or digits with a point
at will among, before or behind them and an exponent at will.

* `readDecimal?_eq_some`, `read?_eq_some`: the layout of the texts that the readers accept.
* `not_mem_of_read?`: the characters that are in no number.
* `cutLast?_of_read?`: what stands before and behind the point of a number.
-/

namespace MysqlMetrics.Decimal

open MysqlMetrics.Text

/-! ## The grammar -/

/-- A sign, or nothing. -/
def IsSign (sign : List Char) : Prop := sign = [] ∨ sign = ['-'] ∨ sign = ['+']

/-- Nothing, or an exponent: `e`, a sign at will and digits. -/
def IsTail (tail : List Char) : Prop :=
  tail = [] ∨ ∃ e sign ds, tail = e :: (sign ++ ds) ∧ (e = 'e' ∨ e = 'E') ∧ IsSign sign ∧
    ds ≠ [] ∧ ∀ c ∈ ds, c.isDigit = true

/-- `text` is the digits `whole`, then a point and the digits `part` or, if there is no point, no
further digits, and then `tail`. -/
structure IsDecimal (text whole part tail : List Char) : Prop where
  layout : (part = [] ∧ text = whole ++ tail) ∨ text = whole ++ '.' :: (part ++ tail)
  whole_isDigit : ∀ c ∈ whole, c.isDigit = true
  part_isDigit : ∀ c ∈ part, c.isDigit = true
  some_digit : whole ≠ [] ∨ part ≠ []

/-! ## Exponents -/

theorem natural?_eq_some {ds : List Char} {n : Nat} :
    natural? ds = some n ↔ ds ≠ [] ∧ (∀ c ∈ ds, c.isDigit = true) ∧ digitsValue ds = n := by
  simp [natural?, and_assoc]

theorem isTail_of_exponent? {tail : List Char} {e : Int} (h : exponent? tail = some e) :
    IsTail tail := by
  have hdigits {ds : List Char} (hne : natural? ds ≠ none) :
      ds ≠ [] ∧ ∀ c ∈ ds, c.isDigit = true := by
    obtain ⟨n, hn⟩ := Option.ne_none_iff_exists'.mp hne
    obtain ⟨hne, hds, -⟩ := natural?_eq_some.mp hn
    exact ⟨hne, hds⟩
  unfold exponent? at h
  split at h
  · exact .inl rfl
  · rename_i c rest
    split at h
    · rename_i hc
      refine .inr ⟨c, ?_⟩
      split at h
      · rename_i ds
        exact ⟨['-'], ds, rfl, hc, .inr (.inl rfl), hdigits (by rintro hn; simp [hn] at h)⟩
      · rename_i ds
        exact ⟨['+'], ds, rfl, hc, .inr (.inr rfl), hdigits (by rintro hn; simp [hn] at h)⟩
      · exact ⟨[], rest, rfl, hc, .inl rfl, hdigits (by rintro hn; simp [hn] at h)⟩
    · cases h

theorem IsTail.head? {tail : List Char} (h : IsTail tail) :
    ∀ c ∈ tail.head?, c = 'e' ∨ c = 'E' := by
  rcases h with rfl | ⟨e, sign, ds, rfl, he, -⟩
  · simp
  · simpa using he

theorem IsTail.not_mem {tail : List Char} (h : IsTail tail) {c : Char} (hdigit : c.isDigit = false)
    (hc : c ∉ ['e', 'E', '-', '+']) : c ∉ tail := by
  simp only [List.mem_cons, List.not_mem_nil, or_false, not_or] at hc
  rcases h with rfl | ⟨e, sign, ds, rfl, he, hsign, -, hds⟩
  · exact List.not_mem_nil
  · have hnds := not_mem_of_isDigit hds hdigit
    rcases he with rfl | rfl <;> rcases hsign with rfl | rfl | rfl <;> simp [hc, hnds]

/-! ## Digits with a point and an exponent -/

theorem IsDecimal.exists_isDigit {text whole part tail : List Char}
    (h : IsDecimal text whole part tail) : ∃ c ∈ text, c.isDigit = true := by
  rcases h.some_digit with hne | hne
  · obtain ⟨c, hc⟩ := List.exists_mem_of_ne_nil _ hne
    refine ⟨c, ?_, h.whole_isDigit c hc⟩
    rcases h.layout with ⟨-, rfl⟩ | rfl <;> simp [hc]
  · obtain ⟨c, hc⟩ := List.exists_mem_of_ne_nil _ hne
    refine ⟨c, ?_, h.part_isDigit c hc⟩
    rcases h.layout with ⟨rfl, -⟩ | rfl
    · cases hc
    · simp [hc]

/-- What the digits of a number do not hold: no character but digits, a point and what an exponent
has. -/
theorem IsDecimal.not_mem {text whole part tail : List Char} (h : IsDecimal text whole part tail)
    (htail : IsTail tail) {c : Char} (hdigit : c.isDigit = false)
    (hc : c ∉ ['.', 'e', 'E', '-', '+']) : c ∉ text := by
  have hpoint : c ≠ '.' := by rintro rfl; simp at hc
  have hntail := htail.not_mem hdigit (fun hmem => hc (List.mem_cons_of_mem _ hmem))
  have hnwhole := not_mem_of_isDigit h.whole_isDigit hdigit
  have hnpart := not_mem_of_isDigit h.part_isDigit hdigit
  rcases h.layout with ⟨-, rfl⟩ | rfl <;> simp [hpoint, hntail, hnwhole, hnpart]

/-- A number in digits begins with a digit or its point. -/
theorem IsDecimal.head? {text whole part tail : List Char} (h : IsDecimal text whole part tail) :
    ∃ c rest, text = c :: rest ∧ (c.isDigit = true ∨ c = '.') := by
  cases whole with
  | cons c whole =>
    have hc := h.whole_isDigit c List.mem_cons_self
    rcases h.layout with ⟨-, rfl⟩ | rfl <;> exact ⟨c, _, rfl, .inl hc⟩
  | nil =>
    rcases h.layout with ⟨rfl, -⟩ | rfl
    · simpa using h.some_digit
    · exact ⟨'.', _, rfl, .inr rfl⟩

theorem fraction_of_isDecimal {part tail : List Char} (hpart : ∀ c ∈ part, c.isDigit = true)
    (htail : IsTail tail) : fraction ('.' :: (part ++ tail)) = (part, tail) := by
  refine digits_run hpart fun c hc => ?_
  rcases htail.head? c hc with rfl | rfl <;> decide

theorem fraction_of_isTail {tail : List Char} (htail : IsTail tail) :
    fraction tail = ([], tail) := by
  unfold fraction
  split
  · have := htail.head? '.' rfl
    simp at this
  · rfl

theorem fraction_layout (text : List Char) :
    ((fraction text).1 = [] ∧ text = (fraction text).2) ∨
      text = '.' :: ((fraction text).1 ++ (fraction text).2) := by
  unfold fraction
  split
  · exact .inr (by rw [digits_append])
  · exact .inl ⟨rfl, rfl⟩

theorem isDigit_of_mem_fraction {text : List Char} :
    ∀ c ∈ (fraction text).1, c.isDigit = true := by
  intro c hc
  unfold fraction at hc
  split at hc
  · exact isDigit_of_mem_digits hc
  · exact absurd hc List.not_mem_nil

namespace Literal

/-- The reader of digits accepts exactly the texts of the grammar. -/
theorem readDecimal?_eq_some {text : List Char} {l : Literal} :
    readDecimal? text = some l ↔ ∃ whole part tail e, IsDecimal text whole part tail ∧
      exponent? tail = some e ∧ l = .decimal (digitsValue (whole ++ part)) (e - part.length) := by
  constructor
  · intro h
    unfold readDecimal? at h
    simp only at h
    split at h
    · cases h
    · rename_i hsome
      obtain ⟨e, he, rfl⟩ := Option.map_eq_some_iff.mp h
      refine ⟨(digits text).1, _, _, e, ⟨?_, fun c => isDigit_of_mem_digits,
        isDigit_of_mem_fraction, by tauto⟩, he, rfl⟩
      rcases fraction_layout (digits text).2 with ⟨hnone, hrest⟩ | hrest
      · exact .inl ⟨hnone, by rw [← hrest, digits_append]⟩
      · exact .inr (by rw [← hrest, digits_append])
  · rintro ⟨whole, part, tail, e, h, he, rfl⟩
    have htail := isTail_of_exponent? he
    have hrest : ∃ rest, text = whole ++ rest ∧ (∀ c ∈ rest.head?, c.isDigit = false) ∧
        fraction rest = (part, tail) := by
      rcases h.layout with ⟨rfl, rfl⟩ | rfl
      · refine ⟨tail, rfl, fun c hc => ?_, fraction_of_isTail htail⟩
        rcases htail.head? c hc with rfl | rfl <;> decide
      · exact ⟨_, rfl, by simp, fraction_of_isDecimal h.part_isDigit htail⟩
    obtain ⟨rest, rfl, hhead, hfraction⟩ := hrest
    have hsome : ¬(whole = [] ∧ part = []) := by have := h.some_digit; tauto
    simp [readDecimal?, digits_run h.whole_isDigit hhead, hfraction, hsome, he]

/-- The words among the numbers. -/
def words : List (List Char) :=
  [['n', 'a', 'n'], ['i', 'n', 'f'], ['i', 'n', 'f', 'i', 'n', 'i', 't', 'y']]

theorem read?_eq_some {text : List Char} {l : Literal} (h : read? text = some l) :
    text.map Char.toLower ∈ words ∨ readDecimal? text = some l := by
  unfold read? at h
  simp only at h
  split at h
  · rename_i hword
    exact .inl (by simp [words, hword])
  · split at h
    · rename_i hword
      exact .inl (by rcases hword with hword | hword <;> simp [words, hword])
    · exact .inr h

/-- A text of digits is no word. -/
theorem read?_eq_readDecimal? {text whole part tail : List Char}
    (h : IsDecimal text whole part tail) : read? text = readDecimal? text := by
  obtain ⟨c, hc, hdigit⟩ := h.exists_isDigit
  have hmem : c ∈ text.map Char.toLower := List.mem_map.mpr ⟨c, hc, toLower_of_isDigit hdigit⟩
  have hword : text.map Char.toLower ∉ words := by
    intro hw
    have hletters : ∀ word ∈ words, ∀ c ∈ word, c.isDigit = false := by simp [words]
    rw [hletters _ hw c hmem] at hdigit
    cases hdigit
  simp only [words, List.mem_cons, List.not_mem_nil, or_false, not_or] at hword
  simp [read?, hword]

/-- A number with all its digits behind the point. -/
theorem value_fraction {n k : Nat} (hk : k ≠ 0) :
    (Literal.decimal n (0 - k)).value = Float.ofScientific n true k := by
  obtain ⟨k, rfl⟩ := Nat.exists_eq_succ_of_ne_zero hk
  rw [Int.zero_sub]
  rfl

end Literal

/-! ## Numbers with a sign -/

/-- A number behind a sign. -/
def withSign (sign : List Char) (x : Float) : Float := if sign = ['-'] then -x else x

theorem read?_eq_some {text : List Char} {x : Float} (h : read? text = some x) :
    ∃ sign body l, IsSign sign ∧ text = sign ++ body ∧ Literal.read? body = some l ∧
      x = withSign sign l.value := by
  unfold read? at h
  split at h
  all_goals obtain ⟨l, hl, rfl⟩ := Option.map_eq_some_iff.mp h
  · exact ⟨['-'], _, l, .inr (.inl rfl), rfl, hl, rfl⟩
  · exact ⟨['+'], _, l, .inr (.inr rfl), rfl, hl, rfl⟩
  · exact ⟨[], _, l, .inl rfl, rfl, hl, rfl⟩

/-- Digits behind a sign are read as what the digits are read as. -/
theorem read?_of_isDecimal {sign body whole part tail : List Char} {e : Int} (hsign : IsSign sign)
    (h : IsDecimal body whole part tail) (he : exponent? tail = some e) :
    read? (sign ++ body) = some (withSign sign
      (Literal.decimal (digitsValue (whole ++ part)) (e - part.length)).value) := by
  have hread : Literal.read? body =
      some (.decimal (digitsValue (whole ++ part)) (e - part.length)) := by
    rw [Literal.read?_eq_readDecimal? h]
    exact Literal.readDecimal?_eq_some.mpr ⟨whole, part, tail, e, h, he, rfl⟩
  rcases hsign with rfl | rfl | rfl
  · obtain ⟨c, rest, rfl, hc⟩ := h.head?
    have hminus : c ≠ '-' := by rintro rfl; simp at hc
    have hplus : c ≠ '+' := by rintro rfl; simp at hc
    rw [List.nil_append, read?]
    · simp [hread, withSign]
    · exact fun _ heq => hminus (List.cons.inj heq).1
    · exact fun _ heq => hplus (List.cons.inj heq).1
  · simp [read?, hread, withSign]
  · simp [read?, hread, withSign]

/-- A number holds nothing but digits, signs, points, and the letters of an exponent and of the
words. -/
theorem not_mem_of_read? {text : List Char} {x : Float} (h : read? text = some x) {c : Char}
    (hdigit : c.isDigit = false)
    (hc : c.toLower ∉ ['.', '-', '+', 'a', 'e', 'f', 'i', 'n', 't', 'y']) : c ∉ text := by
  obtain ⟨sign, body, l, hsign, rfl, hl, -⟩ := read?_eq_some h
  have hself : c ∉ ['.', 'e', 'E', '-', '+'] := by
    intro hmem
    have hlower : ['.', 'e', 'E', '-', '+'].all fun c =>
        decide (c.toLower ∈ ['.', '-', '+', 'a', 'e', 'f', 'i', 'n', 't', 'y']) := by decide
    exact hc (of_decide_eq_true (List.all_eq_true.mp hlower c hmem))
  have hnsign : c ∉ sign := by
    simp only [List.mem_cons, List.not_mem_nil, or_false, not_or] at hself
    rcases hsign with rfl | rfl | rfl <;> simp [hself]
  have hnbody : c ∉ body := by
    rcases Literal.read?_eq_some hl with hword | hread
    · intro hmem
      have hletters : ∀ word ∈ Literal.words, ∀ c ∈ word,
          c ∈ ['.', '-', '+', 'a', 'e', 'f', 'i', 'n', 't', 'y'] := by simp [Literal.words]
      exact hc (hletters _ hword _ (List.mem_map_of_mem hmem))
    · obtain ⟨whole, part, tail, e, hdecimal, he, -⟩ := Literal.readDecimal?_eq_some.mp hread
      exact hdecimal.not_mem (isTail_of_exponent? he) hdigit hself
  simp [hnsign, hnbody]

/-- A number is cut at its point into a sign with digits and digits with an exponent. -/
theorem cutLast?_of_read? {text name suffix : List Char} {x : Float} (h : read? text = some x)
    (hcut : cutLast? '.' text = some (name, suffix)) :
    ∃ sign whole part tail, IsSign sign ∧ name = sign ++ whole ∧ suffix = part ++ tail ∧
      (∀ c ∈ whole, c.isDigit = true) ∧ (∀ c ∈ part, c.isDigit = true) ∧ IsTail tail := by
  obtain ⟨sign, body, l, hsign, rfl, hl, -⟩ := read?_eq_some h
  have hnsign : '.' ∉ sign := by rcases hsign with rfl | rfl | rfl <;> decide
  have hpoint : '.' ∈ sign ++ body := by
    rw [(cutLast?_eq_some.mp hcut).1]
    simp
  have hbody : '.' ∈ body := by simpa [hnsign] using hpoint
  rcases Literal.read?_eq_some hl with hword | hread
  · have hletters : ∀ word ∈ Literal.words, '.' ∉ word := by decide
    exact absurd (List.mem_map_of_mem (f := Char.toLower) hbody) (hletters _ hword)
  · obtain ⟨whole, part, tail, e, hdecimal, he, -⟩ := Literal.readDecimal?_eq_some.mp hread
    have htail := isTail_of_exponent? he
    have hntail := htail.not_mem (c := '.') (by decide) (by decide)
    have hnwhole := not_mem_of_isDigit hdecimal.whole_isDigit (c := '.') (by decide)
    have hnpart := not_mem_of_isDigit hdecimal.part_isDigit (c := '.') (by decide)
    rcases hdecimal.layout with ⟨-, rfl⟩ | rfl
    · simp [hnwhole, hntail] at hbody
    · have hat : cutLast? '.' (sign ++ (whole ++ '.' :: (part ++ tail))) =
          some (sign ++ whole, part ++ tail) :=
        cutLast?_eq_some.mpr ⟨by simp, by simp [hnpart, hntail]⟩
      rw [hat] at hcut
      cases hcut
      exact ⟨sign, whole, part, tail, hsign, rfl, rfl, hdecimal.whole_isDigit,
        hdecimal.part_isDigit, htail⟩

end MysqlMetrics.Decimal
