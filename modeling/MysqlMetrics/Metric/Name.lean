/-!
# Metric names

A metric's name is made of a namespace, a subsystem and a name of its own, joined by underscores.
Column and variable names, which may hold anything, become part of a name by `namePart`.

* `namePart_form`: a part holds lower-case letters, digits and underscores only.
* `isValidName` and `isValidLabel` are the forms that an exposition allows.
-/

namespace MysqlMetrics.Metric

/-- A lower-case ASCII letter, a digit or an underscore. -/
def isNameChar (c : Char) : Bool := c.isLower || c.isDigit || c = '_'

/-- Lower-case letters and digits of a text; every other character becomes an underscore. -/
def namePart (text : List Char) : List Char :=
  text.map fun c => if c.isAlphanum then c.toLower else '_'

private theorem isAlpha_eq (c : Char) : c.isAlpha = (c.isUpper || c.isLower) := rfl

private theorem isUpper_eq (c : Char) :
    c.isUpper = decide (c.val ≥ 'A'.val ∧ c.val ≤ 'Z'.val) := rfl

private theorem isLower_eq (c : Char) :
    c.isLower = (decide (c.val ≥ 'a'.val) && decide (c.val ≤ 'z'.val)) := rfl

theorem isNameChar_toLower {c : Char} (h : c.isAlphanum = true) : isNameChar c.toLower = true := by
  simp only [Char.isAlphanum, isAlpha_eq, isUpper_eq, isLower_eq, Char.isDigit,
    Bool.or_eq_true, Bool.and_eq_true, decide_eq_true_eq, ge_iff_le, UInt32.le_iff_toNat_le] at h
  by_cases hu : c.val ≥ 'A'.val ∧ c.val ≤ 'Z'.val
  · have hv : c.toLower.val = c.val + ('a'.val - 'A'.val) := congrArg Char.val (dif_pos hu)
    simp only [ge_iff_le, UInt32.le_iff_toNat_le] at hu
    simp only [isNameChar, isLower_eq, hv, Bool.or_eq_true, Bool.and_eq_true, decide_eq_true_eq,
      ge_iff_le, UInt32.le_iff_toNat_le, UInt32.toNat_add, UInt32.toNat_sub]
    simp only [UInt32.reduceToNat, Char.reduceVal] at *
    omega
  · have hv : c.toLower = c := dif_neg hu
    simp only [ge_iff_le, UInt32.le_iff_toNat_le] at hu
    simp only [isNameChar, hv, isLower_eq, Char.isDigit, Bool.or_eq_true, Bool.and_eq_true,
      decide_eq_true_eq, ge_iff_le, UInt32.le_iff_toNat_le]
    simp only [UInt32.reduceToNat, Char.reduceVal] at *
    omega

theorem namePart_form {text : List Char} {c : Char} (h : c ∈ namePart text) :
    isNameChar c = true := by
  obtain ⟨d, -, rfl⟩ := List.mem_map.mp h
  by_cases hd : d.isAlphanum = true
  · rw [if_pos hd]
    exact isNameChar_toLower hd
  · rw [if_neg hd]
    decide

/-- The parts of a name that are not empty, joined by underscores. -/
def qualifiedName (parts : List String) : String := "_".intercalate (parts.filter (· ≠ ""))

/-- A letter of a metric's name: letters, digits, underscores and colons, no digit in front. -/
def isValidName (name : String) : Bool :=
  match name.toList with
  | [] => false
  | c :: rest =>
    (c.isAlpha || c = '_' || c = ':') && rest.all fun c => c.isAlphanum || c = '_' || c = ':'

/-- A label's name: letters, digits and underscores, no digit in front. -/
def isValidLabel (name : String) : Bool :=
  match name.toList with
  | [] => false
  | c :: rest => (c.isAlpha || c = '_') && rest.all fun c => c.isAlphanum || c = '_'

end MysqlMetrics.Metric
