import MysqlMetrics.Text.Digit

/-!
# Whole numbers in decimal notation

Readers for whole numbers up to a limit. Digits are read from the left and the first fault decides:
a character that is no digit, or a digit that takes the number over the limit.

* `Natural.read`: an optional `+` and digits.
* `Integer.read`: an optional `+` or `-` and digits.
* `Natural.readDigits_eq_ok`: a run of digits is read as the number it writes, if that fits.
-/

namespace MysqlMetrics.Text

/-- Why a text is not a whole number of the wanted range. -/
inductive NumeralError where
  | empty
  | invalidDigit
  | tooLarge
  | tooSmall
  deriving DecidableEq, Repr

/-- The wording of a numeral's fault. -/
def NumeralError.message : NumeralError → String
  | .empty => "cannot parse integer from empty string"
  | .invalidDigit => "invalid digit found in string"
  | .tooLarge => "number too large to fit in target type"
  | .tooSmall => "number too small to fit in target type"

namespace Natural

/-- Reads digits onto the number `n` read so far, failing with `overflow` above the limit. -/
def readDigits (limit : Nat) (overflow : NumeralError) : Nat → List Char → Except NumeralError Nat
  | n, [] => .ok n
  | n, c :: rest =>
    if c.isDigit then
      if limit < 10 * n + digitValue c then .error overflow
      else readDigits limit overflow (10 * n + digitValue c) rest
    else .error .invalidDigit

/-- A number from zero to `limit`, with an optional `+` in front of its digits. -/
def read (limit : Nat) : List Char → Except NumeralError Nat
  | [] => .error .empty
  | ['+'] => .error .invalidDigit
  | '+' :: rest => readDigits limit .tooLarge 0 rest
  | text => readDigits limit .tooLarge 0 text

theorem le_foldl_digits (n : Nat) (ds : List Char) :
    n ≤ ds.foldl (fun n c => 10 * n + digitValue c) n := by
  induction ds generalizing n with
  | nil => simp
  | cons c rest ih => exact Nat.le_trans (by omega) (ih (10 * n + digitValue c))

theorem readDigits_eq_ok {limit n v : Nat} {o : NumeralError} {text : List Char} :
    readDigits limit o n text = .ok v ↔
      (∀ c ∈ text, c.isDigit = true) ∧
      v = text.foldl (fun n c => 10 * n + digitValue c) n ∧ (text = [] ∨ v ≤ limit) := by
  induction text generalizing n with
  | nil =>
    constructor
    · intro h
      cases h
      simp
    · rintro ⟨_, rfl, _⟩
      rfl
  | cons c rest ih =>
    by_cases hc : c.isDigit = true
    · have hle := le_foldl_digits (10 * n + digitValue c) rest
      by_cases hl : limit < 10 * n + digitValue c
      · simp only [readDigits, hc, hl, if_true, reduceCtorEq, false_iff, List.foldl_cons,
          List.cons_ne_nil, false_or, not_and]
        rintro _ rfl
        omega
      · simp only [readDigits, hc, hl, if_true, if_false, ih, List.foldl_cons, List.cons_ne_nil,
          false_or, List.mem_cons, forall_eq_or_imp, true_and]
        constructor
        · rintro ⟨hd, rfl, h⟩
          refine ⟨hd, rfl, ?_⟩
          rcases h with rfl | h
          · simpa using Nat.le_of_not_lt hl
          · exact h
        · rintro ⟨hd, rfl, h⟩
          exact ⟨hd, rfl, .inr h⟩
    · simp only [readDigits, hc, if_false, reduceCtorEq, false_iff]
      rintro ⟨hd, _⟩
      exact hc (hd c (by simp))

end Natural

namespace Integer

/-- A number from `-limit - 1` to `limit`, with an optional sign in front of its digits. -/
def read (limit : Nat) : List Char → Except NumeralError Int
  | ['-'] => .error .invalidDigit
  | '-' :: rest => (Natural.readDigits (limit + 1) .tooSmall 0 rest).map fun n => -(n : Int)
  | text => (Natural.read limit text).map Int.ofNat

end Integer

/-- The largest whole number of 64 bits without a sign. -/
def maxNatural64 : Nat := 18446744073709551615

/-- The largest whole number of 64 bits with a sign. -/
def maxInteger64 : Nat := 9223372036854775807

end MysqlMetrics.Text
