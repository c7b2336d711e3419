import Mathlib.Data.Nat.Digits.Defs
import Mathlib.Tactic.IntervalCases
import MysqlMetrics.Text.Blank
import MysqlMetrics.Text.Numeral

/-!
# Runs of digits

What the digits of a text are to its readers: which characters they are not, where a run of them
ends, and the number they write.

* `Numeral`: a number in a fixed count of digits.
* `digits_run`: a run of digits ends where a text goes on with something else.
* `digitsValue_append`, `digitsValue_lt`: the number that a run of digits writes.
* `Natural.read_eq_ok`: the texts of whole numbers without a sign. `isNatural_toString`: one of them
  is a number as it is rendered.
-/

namespace MysqlMetrics.Text

/-! ## Digits among the characters -/

/-- The ASCII digits. -/
def allDigits : List Char := ['0', '1', '2', '3', '4', '5', '6', '7', '8', '9']

theorem mem_of_isDigit {c : Char} (h : c.isDigit = true) : c ∈ allDigits := by
  simp only [Char.isDigit, Bool.and_eq_true, decide_eq_true_eq, ge_iff_le] at h
  have hlow : 48 ≤ c.toNat := h.1
  have hhigh : c.toNat ≤ 57 := h.2
  rw [← Char.ofNat_toNat c]
  interval_cases c.toNat <;> decide

/-- What holds of the ten digits holds of every character that is one. -/
theorem forall_isDigit {p : Char → Prop} [DecidablePred p]
    (h : allDigits.all (fun c => decide (p c)) = true) {c : Char} (hc : c.isDigit = true) : p c :=
  of_decide_eq_true (List.all_eq_true.mp h c (mem_of_isDigit hc))

theorem isBlank_of_isDigit {c : Char} (h : c.isDigit = true) : isBlank c = false :=
  forall_isDigit (p := fun c => isBlank c = false) (by decide) h

theorem toLower_of_isDigit {c : Char} (h : c.isDigit = true) : c.toLower = c :=
  forall_isDigit (p := fun c => c.toLower = c) (by decide) h

theorem digitValue_lt {c : Char} (h : c.isDigit = true) : digitValue c < 10 :=
  forall_isDigit (p := fun c => digitValue c < 10) (by decide) h

theorem not_mem_of_isDigit {ds : List Char} (h : ∀ c ∈ ds, c.isDigit = true) {c : Char}
    (hc : c.isDigit = false) : c ∉ ds := by
  intro hmem
  rw [h c hmem] at hc
  cases hc

/-- No letter is a digit of any script. -/
theorem isDecimalDigit_of_isAlpha {c : Char} (h : c.isAlpha = true) :
    isDecimalDigit c = false := by
  have hletter : 65 ≤ c.toNat ∧ c.toNat ≤ 122 := by
    rcases Bool.or_eq_true_iff.mp h with hupper | hlower
    · obtain ⟨hlow, hhigh⟩ : 'A'.val ≤ c.val ∧ c.val ≤ 'Z'.val := of_decide_eq_true hupper
      exact ⟨hlow, Nat.le_trans hhigh (by decide)⟩
    · obtain ⟨hlow, hhigh⟩ := Bool.and_eq_true_iff.mp hlower
      have hlow' : 'a'.val ≤ c.val := of_decide_eq_true hlow
      have hhigh' : c.val ≤ 'z'.val := of_decide_eq_true hhigh
      exact ⟨Nat.le_trans (by decide) hlow', hhigh'⟩
  have hapart : ∀ r ∈ decimalDigitRanges, r.2 < 65 ∨ 122 < r.1 := by decide
  rw [Bool.eq_false_iff]
  intro hdigit
  obtain ⟨r, hr, hlow, hhigh⟩ := mem_inRanges.mp hdigit
  rcases hapart r hr with hlt | hlt <;> omega

/-! ## Where a run of digits ends -/

theorem takeWhile_run {p : Char → Bool} {ds rest : List Char} (hds : ∀ c ∈ ds, p c = true)
    (hrest : ∀ c ∈ rest.head?, p c = false) : (ds ++ rest).takeWhile p = ds := by
  rw [List.takeWhile_append_of_pos hds]
  cases rest with
  | nil => simp
  | cons c rest => simp [hrest c rfl]

theorem dropWhile_run {p : Char → Bool} {ds rest : List Char} (hds : ∀ c ∈ ds, p c = true)
    (hrest : ∀ c ∈ rest.head?, p c = false) : (ds ++ rest).dropWhile p = rest := by
  rw [List.dropWhile_append_of_pos hds]
  cases rest with
  | nil => simp
  | cons c rest => simp [hrest c rfl]

/-- What is left of a text behind a run does not go on with it. -/
theorem not_of_mem_head?_dropWhile {p : Char → Bool} {text : List Char} {c : Char}
    (hc : c ∈ (text.dropWhile p).head?) : p c = false := by
  have hhead := List.head?_dropWhile_not p text
  rw [hc] at hhead
  exact hhead

/-- A run of at most `width` characters ends at its width or where a text goes on with something
else. -/
theorem takeWhile_take_run {p : Char → Bool} {width : Nat} {ds rest : List Char}
    (hds : ∀ c ∈ ds, p c = true) (hwidth : ds.length ≤ width)
    (hends : ds.length = width ∨ ∀ c ∈ rest.head?, p c = false) :
    ((ds ++ rest).take width).takeWhile p = ds := by
  rw [← List.take_takeWhile]
  rcases hends with rfl | hrest
  · rw [List.takeWhile_append_of_pos hds, List.take_left]
  · rw [takeWhile_run hds hrest, List.take_of_length_le hwidth]

theorem exists_takeWhile_take (p : Char → Bool) (width : Nat) (text : List Char) :
    ∃ rest, text = (text.take width).takeWhile p ++ rest ∧
      (((text.take width).takeWhile p).length = width ∨ ∀ c ∈ rest.head?, p c = false) := by
  obtain ⟨rest, hrest⟩ : (text.take width).takeWhile p <+: text :=
    (List.takeWhile_prefix p).trans (List.take_prefix width text)
  refine ⟨rest, hrest.symm, ?_⟩
  rw [← List.take_takeWhile] at hrest ⊢
  by_cases hlong : width ≤ (text.takeWhile p).length
  · exact .inl (by rw [List.length_take, Nat.min_eq_left hlong])
  · rw [List.take_of_length_le (by omega)] at hrest
    have hsplit := List.takeWhile_append_dropWhile (p := p) (l := text)
    obtain rfl : rest = text.dropWhile p := List.append_cancel_left (hrest.trans hsplit.symm)
    exact .inr fun c hc => not_of_mem_head?_dropWhile hc

theorem digits_run {ds rest : List Char} (hds : ∀ c ∈ ds, c.isDigit = true)
    (hrest : ∀ c ∈ rest.head?, c.isDigit = false) : digits (ds ++ rest) = (ds, rest) := by
  rw [digits, takeWhile_run hds hrest, dropWhile_run hds hrest]

/-- A text that ends in characters of a kind has one of them as its last. -/
theorem exists_getLast?_append {p : Char → Bool} (before : List Char) {ds : List Char}
    (hne : ds ≠ []) (hds : ∀ c ∈ ds, p c = true) :
    ∃ c, (before ++ ds).getLast? = some c ∧ p c = true := by
  refine ⟨ds.getLast hne, ?_, hds _ (List.getLast_mem hne)⟩
  rw [List.getLast?_append, List.getLast?_eq_some_getLast hne, Option.some_or]

/-! ## The number that digits write -/

theorem digitsValue_eq_ofDigits (text : List Char) :
    digitsValue text = Nat.ofDigits 10 (text.reverse.map digitValue) := by
  rw [Nat.ofDigits_eq_foldr, List.foldr_map, List.foldr_reverse, digitsValue]
  simp only [Nat.cast_id, Nat.add_comm]

theorem digitsValue_append (ds es : List Char) :
    digitsValue (ds ++ es) = digitsValue ds * 10 ^ es.length + digitsValue es := by
  simp only [digitsValue_eq_ofDigits, List.reverse_append, List.map_append, Nat.ofDigits_append,
    List.length_map, List.length_reverse]
  rw [Nat.add_comm, Nat.mul_comm]

theorem digitsValue_lt {ds : List Char} (h : ∀ c ∈ ds, c.isDigit = true) :
    digitsValue ds < 10 ^ ds.length := by
  have hdigit : ∀ n ∈ ds.reverse.map digitValue, n < 10 := by
    intro n hn
    obtain ⟨c, hc, rfl⟩ := List.mem_map.mp hn
    exact digitValue_lt (h c (List.mem_reverse.mp hc))
  have := Nat.ofDigits_lt_base_pow_length (by decide) hdigit
  rwa [← digitsValue_eq_ofDigits, List.length_map, List.length_reverse] at this

/-! ## Numbers in a fixed count of digits -/

/-- A number as it stands in a column of `width` ASCII digits. -/
structure Numeral (width : Nat) where
  digits : List Char
  length_digits : digits.length = width
  isDigit : ∀ c ∈ digits, c.isDigit = true

namespace Numeral

variable {width : Nat}

/-- The number. -/
def value (n : Numeral width) : Nat := digitsValue n.digits

theorem value_lt (n : Numeral width) : n.value < 10 ^ width := by
  have := digitsValue_lt n.isDigit
  rwa [n.length_digits] at this

theorem not_mem (n : Numeral width) {c : Char} (hc : c.isDigit = false) : c ∉ n.digits :=
  not_mem_of_isDigit n.isDigit hc

/-- The first digit, and the others. -/
theorem eq_cons (n : Numeral (width + 1)) :
    ∃ c rest, n.digits = c :: rest ∧ c.isDigit = true := by
  obtain ⟨c, rest, hcons⟩ := List.exists_cons_of_length_eq_add_one n.length_digits
  exact ⟨c, rest, hcons, n.isDigit c (by rw [hcons]; exact List.mem_cons_self)⟩

end Numeral

/-! ## Whole numbers -/

/-- `text` is the number `n` in ASCII digits, at least one, with a `+` at will in front. -/
def IsNatural (text : List Char) (n : Nat) : Prop :=
  ∃ ds, (text = ds ∨ text = '+' :: ds) ∧ ds ≠ [] ∧ (∀ c ∈ ds, c.isDigit = true) ∧
    digitsValue ds = n

theorem isNatural_digits {ds : List Char} (hne : ds ≠ []) (h : ∀ c ∈ ds, c.isDigit = true) :
    IsNatural ds (digitsValue ds) :=
  ⟨ds, .inl rfl, hne, h, rfl⟩

/-- The reader of whole numbers accepts exactly those up to its limit. -/
theorem Natural.read_eq_ok {limit n : Nat} {text : List Char} :
    Natural.read limit text = .ok n ↔ IsNatural text n ∧ n ≤ limit := by
  constructor
  · intro h
    unfold Natural.read at h
    split at h
    · cases h
    · cases h
    · rename_i rest hne
      obtain ⟨hdigits, rfl, hlimit⟩ := readDigits_eq_ok.mp h
      exact ⟨⟨rest, .inr rfl, hne, hdigits, rfl⟩, hlimit.resolve_left hne⟩
    · rename_i hne _ _
      obtain ⟨hdigits, rfl, hlimit⟩ := readDigits_eq_ok.mp h
      exact ⟨⟨text, .inl rfl, hne, hdigits, rfl⟩, hlimit.resolve_left hne⟩
  · rintro ⟨⟨ds, htext, hne, hdigits, rfl⟩, hlimit⟩
    have hread : readDigits limit .tooLarge 0 ds = .ok (digitsValue ds) :=
      readDigits_eq_ok.mpr ⟨hdigits, rfl, .inr hlimit⟩
    obtain ⟨c, rest, rfl⟩ := List.exists_cons_of_ne_nil hne
    have hplus : c ≠ '+' := by
      rintro rfl
      simpa using hdigits '+' List.mem_cons_self
    rcases htext with rfl | rfl
    · rw [Natural.read]
      · exact hread
      · simp
      · simp [hplus]
      · simp [hplus]
    · rw [Natural.read]
      · exact hread
      · simp

theorem isDigit_toString (n : Nat) :
    (toString n).toList ≠ [] ∧ ∀ c ∈ (toString n).toList, c.isDigit = true := by
  rw [Nat.toString_eq_ofList_toDigits, String.toList_ofList]
  exact ⟨Nat.toDigits_ne_nil, fun c hc => Nat.isDigit_of_mem_toDigits (by decide) (by decide) hc⟩

/-- A number is written in its digits. -/
theorem isNatural_toString (n : Nat) : IsNatural (toString n).toList n := by
  obtain ⟨hne, hdigits⟩ := isDigit_toString n
  refine ⟨_, .inl rfl, hne, hdigits, ?_⟩
  rw [Nat.toString_eq_ofList_toDigits, String.toList_ofList]
  exact Nat.ofDigitChars_ten_toDigits

theorem IsNatural.unique {text : List Char} {n m : Nat} (hn : IsNatural text n)
    (hm : IsNatural text m) : n = m := by
  have hread := Natural.read_eq_ok.mpr ⟨hn, Nat.le_max_left n m⟩
  rw [Natural.read_eq_ok.mpr ⟨hm, Nat.le_max_right n m⟩] at hread
  exact (Except.ok.inj hread).symm

end MysqlMetrics.Text
