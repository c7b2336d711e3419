import MysqlMetrics.Proofs.Text.Digits
import MysqlMetrics.Status.LogFile

/-!
# What names a log file

The two readings of a log file's number, said without the readers: the number is what the text
behind the last point writes, and a text that may be anything is read if that is digits only and the
name before it is none of a number.

* `number_eq_ok`: the reading of a text that is known to name a log file.
* `suffix?_eq_some`, `sequence?_eq_some`: the reading of a text that may be anything.
-/

namespace MysqlMetrics.LogFile

open MysqlMetrics.Text

/-- `file` has a last point, and the number `n` behind it. -/
def IsNumbered (file : List Char) (n : Nat) : Prop :=
  ∃ name suffix, file = name ++ '.' :: suffix ∧ '.' ∉ suffix ∧ IsNatural suffix n ∧
    n ≤ maxNatural64

theorem number_eq_ok {file : List Char} {n : Nat} : number file = .ok n ↔ IsNumbered file n := by
  constructor
  · intro h
    unfold number at h
    split at h
    · cases h
    · rename_i name suffix hcut
      obtain ⟨hfile, hpoint⟩ := cutLast?_eq_some.mp hcut
      split at h
      · rename_i m hread
        cases h
        obtain ⟨hn, hlimit⟩ := Natural.read_eq_ok.mp hread
        exact ⟨name, suffix, hfile, hpoint, hn, hlimit⟩
      · cases h
  · rintro ⟨name, suffix, hfile, hpoint, hn, hlimit⟩
    rw [number, cutLast?_eq_some.mpr ⟨hfile, hpoint⟩]
    simp only [Natural.read_eq_ok.mpr ⟨hn, hlimit⟩]

theorem suffix?_eq_some {text suffix : List Char} :
    suffix? text = some suffix ↔ ∃ name, cutLast? '.' text = some (name, suffix) ∧ name ≠ [] ∧
      '\n' ∉ name ∧ suffix ≠ [] ∧ suffix.all isDecimalDigit ∧ ¬isNumeric name := by
  constructor
  · intro h
    unfold suffix? at h
    split at h
    · rename_i name after hcut
      split at h
      · rename_i hname
        cases h
        exact ⟨name, hcut, hname⟩
      · cases h
    · cases h
  · rintro ⟨name, hcut, hname⟩
    rw [suffix?, hcut]
    exact if_pos hname

/-- Digits behind the last point are read as the number they write, up to 64 bits. -/
theorem sequence?_eq_some {ds : List Char} {x : Float} (hne : ds ≠ [])
    (h : ∀ c ∈ ds, c.isDigit = true) :
    sequence? ds = some x ↔
      digitsValue ds ≤ maxNatural64 ∧ x = Decimal.ofNatural64 (digitsValue ds) := by
  have hds := isNatural_digits hne h
  unfold sequence?
  by_cases hlimit : digitsValue ds ≤ maxNatural64
  · rw [Natural.read_eq_ok.mpr ⟨hds, hlimit⟩]
    simp [Except.toOption, hlimit, eq_comm]
  · cases hread : Natural.read maxNatural64 ds with
    | error cause => simp [Except.toOption, hlimit]
    | ok n =>
      obtain ⟨hn, hle⟩ := Natural.read_eq_ok.mp hread
      exact absurd (hds.unique hn ▸ hle) hlimit

end MysqlMetrics.LogFile
