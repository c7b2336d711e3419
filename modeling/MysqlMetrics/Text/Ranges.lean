/-!
# Sets of characters given by ranges

A property of characters is a list of closed ranges of code points. `inRanges` is membership;
`mem_inRanges` says that a character belongs exactly if one of the ranges holds it.
-/

namespace MysqlMetrics.Text

/-- The character lies in one of the closed ranges of code points. -/
def inRanges (ranges : List (Nat × Nat)) (c : Char) : Bool :=
  ranges.any fun r => r.1 ≤ c.toNat && c.toNat ≤ r.2

theorem mem_inRanges {ranges : List (Nat × Nat)} {c : Char} :
    inRanges ranges c = true ↔ ∃ r ∈ ranges, r.1 ≤ c.toNat ∧ c.toNat ≤ r.2 := by
  simp [inRanges]

end MysqlMetrics.Text
