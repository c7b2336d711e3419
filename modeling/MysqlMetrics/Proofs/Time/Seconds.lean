import MysqlMetrics.Time.Duration
import MysqlMetrics.Proofs.Decimal.Arithmetic

/-!
# A number of seconds as a span of time

A double stands for an exact number, and the span is that number of seconds, rounded to whole
nanoseconds. Spans end before `2 ^ 64` seconds.

* `IsNearest`: rounding to whole numbers, a tie to the even one. It has one result
  (`IsNearest.unique`) and passes no whole number (`IsNearest.le_of_le`, `IsNearest.le_of_ge`).
* `isNearest_roundHalfEven`: the quotient is rounded so.
* `Duration.ofSeconds?_eq_some_iff`: which numbers are a span, and which span.
-/

namespace MysqlMetrics

/-! ## Rounding to whole numbers -/

/-- `n` is the whole number nearest to `v`; of two that are equally near it is the even one. -/
structure IsNearest (v : ℚ) (n : ℤ) : Prop where
  nearest : ∀ k : ℤ, |v - n| ≤ |v - k|
  even : ∀ k : ℤ, k ≠ n → |v - k| = |v - n| → Even n

section IsNearest

variable {v : ℚ} {n : ℤ}

theorem abs_intCast_sub_le (v : ℚ) (n k : ℤ) : |(n : ℚ) - k| ≤ |v - n| + |v - k| := by
  rw [abs_sub_comm v n]
  exact abs_sub_le _ _ _

/-- Half a unit is enough: whole numbers are at least one apart. -/
theorem isNearest_of_half (h : |v - n| ≤ 1 / 2) (heven : |v - n| = 1 / 2 → Even n) :
    IsNearest v n := by
  have hother (k : ℤ) (hk : k ≠ n) : 1 / 2 ≤ |v - k| := by
    have hgap : (1 : ℚ) ≤ |(n : ℚ) - k| := by
      exact_mod_cast Int.one_le_abs (sub_ne_zero.mpr hk.symm)
    linarith [abs_intCast_sub_le v n k]
  refine ⟨fun k => ?_, fun k hk heq => heven (h.antisymm (heq ▸ hother k hk))⟩
  by_cases hk : k = n
  · rw [hk]
  · exact h.trans (hother k hk)

namespace IsNearest

theorem half (h : IsNearest v n) : |v - n| ≤ 1 / 2 :=
  (h.nearest (round v)).trans (abs_sub_round v)

theorem unique {n' : ℤ} (h : IsNearest v n) (h' : IsNearest v n') : n = n' := by
  by_contra hne
  have hsame : |v - n| = |v - n'| := (h.nearest n').antisymm (h'.nearest n)
  -- Two results are the two neighbours of a tie, and one of these is odd.
  have heven := (h.even n' (Ne.symm hne) hsame.symm).sub (h'.even n hne hsame)
  have hgap : |(n : ℚ) - n'| ≤ 1 := by linarith [abs_intCast_sub_le v n n', h.half, h'.half]
  have hgap' : |n - n'| ≤ 1 := by exact_mod_cast hgap
  obtain ⟨k, hk⟩ := heven
  rw [abs_le] at hgap'
  omega

theorem le_of_le (h : IsNearest v n) {k : ℤ} (hk : v ≤ k) : n ≤ k := by
  by_contra hlt
  have hn : (k : ℚ) + 1 ≤ n := by exact_mod_cast not_le.mp hlt
  have hnear := h.nearest k
  rw [abs_of_nonpos (by linarith), abs_of_nonpos (by linarith)] at hnear
  linarith

theorem le_of_ge (h : IsNearest v n) {k : ℤ} (hk : k ≤ v) : k ≤ n := by
  by_contra hlt
  have hn : (n : ℚ) + 1 ≤ k := by exact_mod_cast not_le.mp hlt
  have hnear := h.nearest k
  rw [abs_of_nonneg (by linarith), abs_of_nonneg (by linarith)] at hnear
  linarith

end IsNearest

end IsNearest

namespace Duration

open Decimal

/-- A quotient half-way between two whole numbers is rounded to the even one. -/
theorem even_roundHalfEven {n d : ℕ} (hd : 0 < d)
    (h : 2 * n = 2 * (roundHalfEven n d * d) + d ∨ 2 * (roundHalfEven n d * d) = 2 * n + d) :
    Even (roundHalfEven n d) := by
  have hn := Nat.div_add_mod n d
  have hr := Nat.mod_lt n hd
  rw [Nat.even_iff]
  unfold roundHalfEven at h ⊢
  simp only at h ⊢
  generalize n / d = q at *
  generalize n % d = r at *
  have hq : d * q = q * d := Nat.mul_comm d q
  have hsucc : (q + 1) * d = q * d + d := Nat.succ_mul q d
  split_ifs at h ⊢ with hbelow habove
  · omega
  · omega
  · omega

theorem isNearest_roundHalfEven (n : ℕ) {d : ℕ} (hd : 0 < d) :
    IsNearest ((n : ℚ) / d) (roundHalfEven n d) := by
  have hd' : (0 : ℚ) < d := by exact_mod_cast hd
  obtain ⟨hlow, hhigh⟩ := roundHalfEven_within (n := n) hd
  have htie := even_roundHalfEven (n := n) hd
  generalize roundHalfEven n d = m at *
  have hdiff : (n : ℚ) / d - (m : ℤ) = (n - m * d) / d := by
    rw [sub_div, mul_div_cancel_right₀ _ hd'.ne', Int.cast_natCast]
  have hlow' : 2 * (n : ℚ) ≤ 2 * (m * d) + d := by exact_mod_cast hlow
  have hhigh' : 2 * ((m : ℚ) * d) ≤ 2 * n + d := by exact_mod_cast hhigh
  refine isNearest_of_half ?_ fun heq => ?_
  · rw [hdiff, abs_div, abs_of_pos hd', div_le_div_iff₀ hd' two_pos, one_mul]
    rcases abs_cases ((n : ℚ) - m * d) with ⟨habs, -⟩ | ⟨habs, -⟩ <;> linarith
  · rw [hdiff, abs_div, abs_of_pos hd', div_eq_div_iff hd'.ne' two_ne_zero, one_mul] at heq
    refine (Int.even_coe_nat m).mpr (htie ?_)
    rcases abs_cases ((n : ℚ) - m * d) with ⟨habs, -⟩ | ⟨habs, -⟩
    · left
      exact_mod_cast (by linarith : 2 * (n : ℚ) = 2 * (m * d) + d)
    · right
      exact_mod_cast (by linarith : 2 * ((m : ℚ) * d) = 2 * n + d)

/-! ## Seconds -/

/-- Spans end here, in nanoseconds. -/
def limit : ℕ := 2 ^ 64 * perSecond

theorem fitsSeconds_iff {m : ℕ} {q : ℤ} : fitsSeconds m q = true ↔ (m : ℚ) * 2 ^ q < 2 ^ 64 := by
  have hpow : (0 : ℚ) < 2 ^ (-q).toNat := by positivity
  rw [fitsSeconds, decide_eq_true_iff, ← mul_lt_mul_iff_left₀ hpow, mul_assoc, two_zpow_mul_toNat]
  exact_mod_cast Iff.rfl

theorem isNearest_ofBinarySeconds (m : ℕ) (q : ℤ) :
    IsNearest ((m : ℚ) * 2 ^ q * perSecond) (ofBinarySeconds m q).nanoseconds := by
  have hpow : (0 : ℚ) < 2 ^ (-q).toNat := by positivity
  have hvalue : (m : ℚ) * 2 ^ q * perSecond =
      (m * Nat.pow 2 q.toNat * perSecond : ℕ) / (Nat.pow 2 (-q).toNat : ℕ) := by
    simp only [Nat.pow_eq]
    push_cast
    rw [eq_div_iff hpow.ne', ← two_zpow_mul_toNat q]
    ring
  rw [hvalue]
  exact isNearest_roundHalfEven _ (Nat.pow_pos two_pos)

/-- A number below `2 ^ 64` is well below it, for its significand has at most 53 bits. -/
theorem le_of_lt_two_pow {m : ℕ} (hm : m < 2 ^ 53) {q : ℤ} (h : (m : ℚ) * 2 ^ q < 2 ^ 64) :
    (m : ℚ) * 2 ^ q ≤ 2 ^ 64 - 1 := by
  rcases le_or_gt 0 q with hq | hq
  · obtain ⟨k, rfl⟩ := Int.eq_ofNat_of_zero_le hq
    have hnat : m * 2 ^ k + 1 ≤ 2 ^ 64 := by exact_mod_cast h
    have hrat : (m : ℚ) * 2 ^ k + 1 ≤ 2 ^ 64 := by exact_mod_cast hnat
    rw [zpow_natCast]
    linarith
  · have hpow : (2 : ℚ) ^ q ≤ 1 := zpow_le_one_of_nonpos₀ one_le_two hq.le
    have hm' : (m : ℚ) ≤ 2 ^ 53 := by exact_mod_cast hm.le
    calc (m : ℚ) * 2 ^ q ≤ m := mul_le_of_le_one_right m.cast_nonneg hpow
      _ ≤ 2 ^ 53 := hm'
      _ ≤ 2 ^ 64 - 1 := by norm_num

/-- No number below `2 ^ 64` is rounded up to it. -/
theorem lt_limit_iff {m : ℕ} (hm : m < 2 ^ 53) {q : ℤ} {t : ℕ}
    (h : IsNearest ((m : ℚ) * 2 ^ q * perSecond) t) : t < limit ↔ (m : ℚ) * 2 ^ q < 2 ^ 64 := by
  constructor
  · intro hlt
    by_contra hge
    have hlimit : ((limit : ℤ) : ℚ) ≤ m * 2 ^ q * perSecond := by
      rw [limit]
      push_cast
      exact mul_le_mul_of_nonneg_right (not_lt.mp hge) (Nat.cast_nonneg _)
    have := h.le_of_ge hlimit
    omega
  · intro hlt
    have hle : (m : ℚ) * 2 ^ q * perSecond ≤ ((limit - perSecond : ℤ) : ℚ) := by
      rw [limit]
      push_cast
      rw [← sub_one_mul]
      exact mul_le_mul_of_nonneg_right (le_of_lt_two_pow hm hlt) (Nat.cast_nonneg _)
    have := h.le_of_le hle
    have hpos : 0 < perSecond := by decide
    omega

/-- A double is a span if its number is not negative and is rounded to one. -/
theorem ofSeconds?_eq_some_iff {x : Float} {d : Duration} :
    ofSeconds? x = some d ↔ ∃ v, number? x = some v ∧ 0 ≤ v ∧
      IsNearest (v * perSecond) d.nanoseconds ∧ d.nanoseconds < limit := by
  rw [ofSeconds?_eq_some]
  constructor
  · rintro ⟨negative, m, q, hx, hneg, hfit, rfl⟩
    obtain ⟨hv, hpos⟩ := number?_nonneg.mpr ⟨negative, m, q, hx, hneg, rfl⟩
    have hnear := isNearest_ofBinarySeconds m q
    exact ⟨m * 2 ^ q, hv, hpos, hnear,
      (lt_limit_iff (significand_lt hx) hnear).mpr (fitsSeconds_iff.mp hfit)⟩
  · rintro ⟨v, hv, hpos, hnear, hlimit⟩
    obtain ⟨negative, m, q, hx, hneg, rfl⟩ := number?_nonneg.mp ⟨hv, hpos⟩
    have hfit := fitsSeconds_iff.mpr ((lt_limit_iff (significand_lt hx) hnear).mp hlimit)
    have hsame := hnear.unique (isNearest_ofBinarySeconds m q)
    exact ⟨negative, m, q, hx, hneg, hfit, congrArg Duration.mk (Int.natCast_inj.mp hsame)⟩

end Duration

end MysqlMetrics
