import Mathlib

/-!
# Rounding to the precision of doubles

A double has 53 binary digits, so an exact result is rounded to a neighbour with that many. What the
proofs need of rounding is that it passes no number that is a double itself: the rounded number stays
on the same side of each. A number that is a double is then rounded to itself.

* `OnGrid`: the numbers with at most 53 binary digits and no digit below `2 ^ -1074`.
* `Rounds`: a number is rounded to another without passing one on the grid.
* `rounds_roundWithAccuracy`: the rounding step of the arithmetic is one, and its result fits a
  double (`Fits`) unless it overflows.
-/

namespace MysqlMetrics.Decimal

open Float.Model Float.Model.UnpackedFloat

/-! ## Rounded numbers -/

/-- A number of at most 53 binary digits, the last of them not below the place `-1074`. -/
def OnGrid (b : ℚ) : Prop := ∃ n j : ℤ, |n| ≤ 2 ^ 53 ∧ -1074 ≤ j ∧ b = n * 2 ^ j

/-- `y` is on the same side as `v` of every number on the grid, or on it. -/
def Rounds (v y : ℚ) : Prop := ∀ b, OnGrid b → (v ≤ b → y ≤ b) ∧ (b ≤ v → b ≤ y)

theorem OnGrid.neg {b : ℚ} (h : OnGrid b) : OnGrid (-b) := by
  obtain ⟨n, j, hn, hj, rfl⟩ := h
  exact ⟨-n, j, by rwa [abs_neg], hj, by push_cast; ring⟩

theorem onGrid_intCast {n : ℤ} (h : |n| ≤ 2 ^ 53) : OnGrid n := ⟨n, 0, h, by decide, by simp⟩

theorem onGrid_half : OnGrid (1 / 2) := ⟨1, -1, by decide, by decide, by norm_num⟩

theorem rounds_refl (v : ℚ) : Rounds v v := fun _ _ => ⟨id, id⟩

theorem Rounds.neg {v y : ℚ} (h : Rounds v y) : Rounds (-v) (-y) := by
  intro b hb
  obtain ⟨hle, hge⟩ := h (-b) hb.neg
  exact ⟨fun hv => neg_le.mp (hge (neg_le.mp hv)), fun hv => le_neg.mp (hle (le_neg.mp hv))⟩

theorem Rounds.eq {v y : ℚ} (h : Rounds v y) (hv : OnGrid v) : y = v :=
  le_antisymm ((h v hv).1 le_rfl) ((h v hv).2 le_rfl)

theorem Rounds.le_intCast {v y : ℚ} (h : Rounds v y) {n : ℤ} (hn : |n| ≤ 2 ^ 53) (hv : v ≤ n) :
    y ≤ n :=
  (h n (onGrid_intCast hn)).1 hv

theorem Rounds.intCast_le {v y : ℚ} (h : Rounds v y) {n : ℤ} (hn : |n| ≤ 2 ^ 53) (hv : n ≤ v) :
    n ≤ y :=
  (h n (onGrid_intCast hn)).2 hv

/-! ## Rounding a mantissa -/

/-- The mantissa is the whole part of `v`, the next bit and the bits behind it are told by the two
further bits. -/
def Locates (v : ℚ) : ExtendedMantissa → Prop
  | ⟨m, false, false⟩ => v = m
  | ⟨m, false, true⟩ => m < v ∧ v < m + 1 / 2
  | ⟨m, true, false⟩ => v = m + 1 / 2
  | ⟨m, true, true⟩ => m + 1 / 2 < v ∧ v < m + 1

namespace Locates

variable {v : ℚ} {em : ExtendedMantissa}

theorem bounds (h : Locates v em) : (em.mantissa : ℚ) ≤ v ∧ v < em.mantissa + 1 := by
  obtain ⟨m, r, s⟩ := em
  cases r <;> cases s <;> simp only [Locates] at h ⊢ <;> constructor <;> linarith

theorem shiftRightOne (h : Locates v em) : Locates (v / 2) em.shiftRightOne := by
  obtain ⟨m, r, s⟩ := em
  have hm : (m : ℚ) = 2 * (m / 2 : ℕ) + (m % 2 : ℕ) := by exact_mod_cast (Nat.div_add_mod m 2).symm
  generalize hq : m / 2 = q at hm
  rcases Nat.mod_two_eq_zero_or_one m with hbit | hbit <;> rw [hbit] at hm <;> cases r <;> cases s <;>
    simp [Locates, ExtendedMantissa.shiftRightOne, hbit, hm, hq] at h ⊢ <;>
    first | linarith | (constructor <;> linarith)

theorem shiftRight (h : Locates v em) (n : ℕ) : Locates (v / 2 ^ n) (em >>> n) := by
  show Locates (v / 2 ^ n) (n.repeat ExtendedMantissa.shiftRightOne em)
  induction n with
  | zero => simpa [Nat.repeat] using h
  | succ n ih =>
    rw [Nat.repeat, pow_succ, ← div_div]
    exact ih.shiftRightOne

/-- Rounding passes no whole number. -/
theorem rounded_le (h : Locates v em) {k : ℕ} (hk : v ≤ k) : em.roundedMantissa ≤ k := by
  obtain ⟨m, r, s⟩ := em
  have hlow : m ≤ k := by exact_mod_cast h.bounds.1.trans hk
  cases r <;> cases s <;> simp only [Locates] at h
  · exact hlow
  · exact hlow
  · have hlt : m < k := by
      have : (m : ℚ) < k := by linarith
      exact_mod_cast this
    show m + m % 2 ≤ k
    omega
  · have hlt : m < k := by
      have : (m : ℚ) < k := by linarith
      exact_mod_cast this
    exact hlt

theorem le_rounded (h : Locates v em) {k : ℕ} (hk : (k : ℚ) ≤ v) : k ≤ em.roundedMantissa := by
  have hlow : k ≤ em.mantissa := by
    have : (k : ℚ) < em.mantissa + 1 := hk.trans_lt h.bounds.2
    exact Nat.lt_succ_iff.mp (by exact_mod_cast this)
  obtain ⟨m, r, s⟩ := em
  refine hlow.trans ?_
  cases r <;> cases s
  · exact le_rfl
  · exact le_rfl
  · exact Nat.le_add_right m (m % 2)
  · exact Nat.le_succ m

end Locates

/-! ## Unpacked doubles -/

/-- A number with a sign. -/
def signed : Sign → ℚ → ℚ
  | .negative, v => -v
  | .positive, v => v

/-- The number that an unpacked double stands for, if it is one. -/
def unpackedNumber? : UnpackedFloat → Option ℚ
  | .zero _ => some 0
  | .finite s m e _ => some (signed s (m * 2 ^ e))
  | _ => none

/-- The 64 bits of a double can hold it as it is: the mantissa fills 53 bits unless the exponent is
the least one. -/
def Fits : UnpackedFloat → Prop
  | .finite _ m e _ => m < 2 ^ 53 ∧ -1074 ≤ e ∧ e ≤ 971 ∧ (2 ^ 52 ≤ m ∨ e = -1074)
  | _ => True

theorem Rounds.signed {v y : ℚ} (h : Rounds v y) (s : Sign) :
    Rounds (signed s v) (Decimal.signed s y) := by
  cases s
  · exact h.neg
  · exact h

/-- The exponent at which a number has 53 bits, or the least one. -/
theorem targetExponent_eq (total : ℤ) :
    Format.binary64.targetExponent total = max (total - 53) (-1074) := rfl

/-- The exponent that a mantissa is brought to before it is rounded. -/
theorem targetExponent_totalExponent (m : ℕ) (e : ℤ) :
    Format.binary64.targetExponent (totalExponent m e) = max (m.log2 + e - 52) (-1074) := by
  rw [targetExponent_eq, totalExponent]
  omega

theorem mantissa_ofMantissaAndAccuracy (m : ℕ) (a : Accuracy) :
    (ExtendedMantissa.ofMantissaAndAccuracy m a).mantissa = m := by
  obtain _ | ⟨_ | _ | _⟩ := a <;> rfl

section RoundWithAccuracy

variable {v : ℚ} {m : ℕ} {e t : ℤ} {a : Accuracy}

/-- A number below the first exponent's 53 bits, and at least its 52 bits unless it is the least. -/
theorem Locates.target_bounds
    (h : Locates (v / 2 ^ e) (.ofMantissaAndAccuracy m a))
    (ht : t = max (m.log2 + e - 52) (-1074)) (he : e ≤ t) :
    v < 2 ^ (t + 53) ∧ (t = -1074 ∨ 2 ^ (t + 52) ≤ v) := by
  have hpos : (0 : ℚ) < 2 ^ e := by positivity
  obtain ⟨hlow, hhigh⟩ := h.bounds
  rw [mantissa_ofMantissaAndAccuracy] at hlow hhigh
  rw [le_div_iff₀ hpos] at hlow
  rw [div_lt_iff₀ hpos] at hhigh
  constructor
  · have hm : (m : ℚ) + 1 ≤ 2 ^ (m.log2 + 1) := by exact_mod_cast Nat.lt_log2_self (n := m)
    calc v < (m + 1) * 2 ^ e := hhigh
      _ ≤ 2 ^ (m.log2 + 1) * 2 ^ e := by gcongr
      _ = 2 ^ ((m.log2 + 1 : ℕ) + e : ℤ) := by rw [zpow_add₀ two_ne_zero, zpow_natCast]
      _ ≤ 2 ^ (t + 53) := zpow_le_zpow_right₀ one_le_two (by omega)
  · refine or_iff_not_imp_left.mpr fun hne => ?_
    have hzero : m ≠ 0 := by
      rintro rfl
      simp at ht
      omega
    have hm : (2 : ℚ) ^ m.log2 ≤ m := by exact_mod_cast Nat.log2_self_le hzero
    calc (2 : ℚ) ^ (t + 52) = 2 ^ ((m.log2 : ℕ) + e : ℤ) := by congr 1; omega
      _ = 2 ^ m.log2 * 2 ^ e := by rw [zpow_add₀ two_ne_zero, zpow_natCast]
      _ ≤ m * 2 ^ e := by gcongr
      _ ≤ v := hlow

/-- A mantissa of 53 bits stays as it is. -/
private theorem shift_of_lt (hm : m < 2 ^ 53) (he : -1074 ≤ e) :
    shiftToTargetExponent Format.binary64 m e .exact = (⟨m, false, false⟩, e) := by
  have hlog : m.log2 ≤ 52 := by
    rcases Nat.eq_zero_or_pos m with rfl | hpos
    · decide
    · exact Nat.lt_succ_iff.mp ((Nat.log2_lt hpos.ne').mpr hm)
  have hnone : (max ((m.log2 : ℤ) + e - 52) (-1074) - e).toNat = 0 := by omega
  simp only [shiftToTargetExponent, shiftToExponent, targetExponent_totalExponent, hnone, Nat.cast_zero,
    add_zero]
  rfl

/-- Rounding up to `2 ^ 53` takes one bit more. -/
private theorem shift_pow (he : -1074 ≤ e) :
    shiftToTargetExponent Format.binary64 (2 ^ 53) e .exact = (⟨2 ^ 52, false, false⟩, e + 1) := by
  have hone : (max (((2 ^ 53 : ℕ).log2 : ℤ) + e - 52) (-1074) - e).toNat = 1 := by
    rw [Nat.log2_two_pow]
    omega
  simp only [shiftToTargetExponent, shiftToExponent, targetExponent_totalExponent, hone]
  rfl

/-- The unpacked double of a mantissa, which may be zero. -/
private def store (s : Sign) (m : ℕ) (e : ℤ) : UnpackedFloat :=
  if h : m = 0 then .zero s else .finite s m e (Nat.pos_of_ne_zero h)

private theorem store_spec (s : Sign) (hm : m < 2 ^ 53) (he : -1074 ≤ e) (he' : e ≤ 971)
    (hfull : e = -1074 ∨ 2 ^ 52 ≤ m) :
    Fits (store s m e) ∧ unpackedNumber? (store s m e) = some (signed s (m * 2 ^ e)) := by
  by_cases hzero : m = 0
  · subst hzero
    cases s <;> simp [store, Fits, unpackedNumber?, signed]
  · rw [store, dif_neg hzero]
    exact ⟨⟨hm, he, he', hfull.symm⟩, rfl⟩

/-- A rounded mantissa becomes the mantissa of the result. -/
private theorem shifted_spec (s : Sign) (hm : m ≤ 2 ^ 53) (he : -1074 ≤ e) (he' : e ≤ 970)
    (hfull : e = -1074 ∨ 2 ^ 52 ≤ m) {p : ExtendedMantissa × ℤ}
    (hp : shiftToTargetExponent Format.binary64 m e .exact = p) :
    Fits (store s p.1.mantissa p.2) ∧
      unpackedNumber? (store s p.1.mantissa p.2) = some (signed s (m * 2 ^ e)) := by
  rcases hm.lt_or_eq with hlt | rfl
  · rw [shift_of_lt hlt he] at hp
    subst hp
    exact store_spec s hlt he (by omega) hfull
  · rw [shift_pow he] at hp
    subst hp
    obtain ⟨hfits, hnumber⟩ := store_spec (m := 2 ^ 52) (e := e + 1) s (by decide) (by omega)
      (by omega) (.inr le_rfl)
    refine ⟨hfits, hnumber.trans (congrArg (some <| signed s ·) ?_)⟩
    rw [zpow_add_one₀ two_ne_zero]
    push_cast
    ring

/-- The rounded mantissa passes no whole number of units. -/
theorem Locates.units {em : ExtendedMantissa} (h : Locates (v / 2 ^ t) em) (k : ℕ) :
    (v ≤ k * 2 ^ t → (em.roundedMantissa : ℚ) * 2 ^ t ≤ k * 2 ^ t) ∧
      ((k : ℚ) * 2 ^ t ≤ v → (k : ℚ) * 2 ^ t ≤ em.roundedMantissa * 2 ^ t) := by
  have hpos : (0 : ℚ) < 2 ^ t := by positivity
  constructor
  · intro hle
    have := h.rounded_le ((div_le_iff₀ hpos).mpr hle)
    gcongr
  · intro hge
    have := h.le_rounded ((le_div_iff₀ hpos).mpr hge)
    gcongr

/-- A number of 53 bits at a lower exponent has at most `2 ^ 52` units. -/
theorem le_units {n j : ℤ} (hn : |n| ≤ 2 ^ 53) (hj : j < t) :
    (n : ℚ) * 2 ^ j ≤ (2 ^ 52 : ℕ) * 2 ^ t := by
  have hn' : (n : ℚ) ≤ 2 ^ 53 := by exact_mod_cast (le_abs_self n).trans hn
  have hj' : (2 : ℚ) ^ j ≤ 2 ^ (t - 1) := zpow_le_zpow_right₀ one_le_two (by omega)
  calc (n : ℚ) * 2 ^ j ≤ 2 ^ 53 * 2 ^ (t - 1) := by gcongr
    _ = (2 ^ 52 : ℕ) * 2 ^ t := by
      rw [zpow_sub₀ two_ne_zero]
      push_cast
      ring

/-- Rounding to a mantissa of 53 bits passes no number on the grid: one on the grid is negative, a
whole number of units, or not above the least number with this exponent. -/
theorem rounds_mantissa {em : ExtendedMantissa} (h : Locates (v / 2 ^ t) em)
    (hfull : t = -1074 ∨ 2 ^ (t + 52) ≤ v) : Rounds v (em.roundedMantissa * 2 ^ t) := by
  rintro b ⟨n, j, hn, hj, rfl⟩
  rcases le_or_gt t j with htj | hjt
  · rcases lt_or_ge n 0 with hneg | hnonneg
    · have hv : 0 ≤ v := by
        have := (Nat.cast_nonneg em.mantissa).trans h.bounds.1
        rwa [le_div_iff₀ (by positivity), zero_mul] at this
      have hb : (n : ℚ) * 2 ^ j < 0 := mul_neg_of_neg_of_pos (by exact_mod_cast hneg) (by positivity)
      exact ⟨fun hle => absurd (hv.trans hle) hb.not_ge, fun _ => hb.le.trans (by positivity)⟩
    · obtain ⟨k, rfl⟩ := Int.eq_ofNat_of_zero_le hnonneg
      obtain ⟨i, rfl⟩ := Int.le.dest htj
      have hb : ((k : ℤ) : ℚ) * 2 ^ (t + i) = (k * 2 ^ i : ℕ) * 2 ^ t := by
        rw [zpow_add₀ two_ne_zero, zpow_natCast]
        push_cast
        ring
      rw [hb]
      exact h.units (k * 2 ^ i)
  · have hleast : ((2 ^ 52 : ℕ) : ℚ) * 2 ^ t ≤ v := by
      refine (hfull.resolve_left (by omega)).trans_eq' ?_
      rw [zpow_add₀ two_ne_zero]
      push_cast
      ring
    have hb := le_units hn hjt
    obtain ⟨hup, hdown⟩ := h.units (2 ^ 52)
    exact ⟨fun hle => (hup (hle.trans hb)).trans (hleast.trans hle),
      fun _ => hb.trans (hdown hleast)⟩

/-- **Rounding.** A number that a mantissa locates at an exponent with enough bits is rounded to a
double, unless it is too large for one. -/
theorem rounds_roundWithAccuracy (s : Sign) (h : Locates (v / 2 ^ e) (.ofMantissaAndAccuracy m a))
    (he : e ≤ max (m.log2 + e - 52) (-1074)) (hv : v < 2 ^ 1023) :
    Fits (roundWithAccuracy Format.binary64 s m e a) ∧
      ∃ y, unpackedNumber? (UnpackedFloat.roundWithAccuracy Format.binary64 s m e a) = some y ∧
        Rounds (signed s v) y := by
  obtain ⟨t, ht⟩ : ∃ t, t = max ((m.log2 : ℤ) + e - 52) (-1074) := ⟨_, rfl⟩
  rw [← ht] at he
  obtain ⟨k, rfl⟩ := Int.le.dest he
  obtain ⟨hhigh, hfull⟩ := h.target_bounds ht he
  set em := ExtendedMantissa.ofMantissaAndAccuracy m a >>> k
  have hlocates : Locates (v / 2 ^ (e + k)) em := by
    rw [zpow_add₀ two_ne_zero, ← div_div, zpow_natCast]
    exact h.shiftRight k
  have hfirst : shiftToTargetExponent Format.binary64 m e a = (em, e + k) := by
    have hk : (max ((m.log2 : ℤ) + e - 52) (-1074) - e).toNat = k := by omega
    simp only [shiftToTargetExponent, shiftToExponent, targetExponent_totalExponent, hk, em]
  have ht' : -1074 ≤ e + k := by omega
  have hlt : e + (k : ℤ) ≤ 970 := by
    rcases hfull with hleast | hfull
    · omega
    · have := (zpow_lt_zpow_iff_right₀ one_lt_two).mp (hfull.trans_lt (hv.trans_eq (zpow_natCast 2 1023).symm))
      omega
  have hpos : (0 : ℚ) < 2 ^ (e + k : ℤ) := by positivity
  have hM : em.roundedMantissa ≤ 2 ^ 53 := by
    refine hlocates.rounded_le ((div_le_iff₀ hpos).mpr (hhigh.le.trans_eq ?_))
    rw [add_comm, zpow_add₀ two_ne_zero]
    norm_num
  have hfull' : e + k = -1074 ∨ 2 ^ 52 ≤ em.roundedMantissa := by
    refine hfull.imp_right fun hfull => hlocates.le_rounded ((le_div_iff₀ hpos).mpr (hfull.trans_eq' ?_))
    rw [add_comm (e + k : ℤ), zpow_add₀ two_ne_zero]
    norm_num
  obtain ⟨hfits, hnumber⟩ := shifted_spec s hM ht' hlt hfull' rfl
  have hstore : roundWithAccuracy Format.binary64 s m e a =
      store s (shiftToTargetExponent Format.binary64 em.roundedMantissa (e + k) .exact).1.mantissa
        (shiftToTargetExponent Format.binary64 em.roundedMantissa (e + k) .exact).2 := by
    rw [roundWithAccuracy, hfirst]
    rfl
  rw [hstore]
  exact ⟨hfits, _, hnumber, (rounds_mantissa hlocates hfull).signed s⟩

end RoundWithAccuracy

/-! ## Results of the arithmetic -/

/-- A whole number of units is rounded. -/
theorem rounds_round (s : Sign) {m : ℕ} {e : ℤ} (hm : 0 < m) (hv : (m : ℚ) * 2 ^ e < 2 ^ 1023) :
    Fits (UnpackedFloat.round Format.binary64 s m e) ∧
      ∃ y, unpackedNumber? (UnpackedFloat.round Format.binary64 s m e) = some y ∧
        Rounds (signed s (m * 2 ^ e)) y := by
  obtain ⟨k, hk⟩ : ∃ k, k = (e - max ((m.log2 : ℤ) + e - 52) (-1074)).toNat := ⟨_, rfl⟩
  have hlog : (m <<< k).log2 = m.log2 + k := by
    rw [Nat.shiftLeft_eq, Nat.log2_eq_iff (by positivity), pow_add, Nat.add_right_comm, pow_add]
    exact ⟨Nat.mul_le_mul_right _ (Nat.log2_self_le hm.ne'),
      Nat.mul_lt_mul_of_pos_right Nat.lt_log2_self (by positivity)⟩
  have hvalue : (m : ℚ) * 2 ^ e = (m <<< k : ℕ) * 2 ^ (e - k) := by
    rw [Nat.shiftLeft_eq, zpow_sub₀ two_ne_zero, zpow_natCast]
    push_cast
    field_simp
  have hround : UnpackedFloat.round Format.binary64 s m e =
      roundWithAccuracy Format.binary64 s (m <<< k) (e - k) .exact := by
    rw [UnpackedFloat.round, targetExponent_totalExponent, hk]
    rfl
  rw [hround, hvalue]
  refine rounds_roundWithAccuracy s ?_ (by rw [hlog]; omega) (hvalue ▸ hv)
  show ((m <<< k : ℕ) : ℚ) * 2 ^ (e - k) / 2 ^ (e - k) = (m <<< k : ℕ)
  exact mul_div_cancel_right₀ _ (by positivity)

theorem rounds_normalize {m e : ℤ} (zero : Sign) (hv : |(m : ℚ) * 2 ^ e| < 2 ^ 1023) :
    Fits (UnpackedFloat.normalize Format.binary64 m e zero) ∧
      ∃ y, unpackedNumber? (UnpackedFloat.normalize Format.binary64 m e zero) = some y ∧
        Rounds (m * 2 ^ e) y := by
  rcases lt_trichotomy m 0 with hneg | rfl | hpos
  · obtain ⟨n, rfl⟩ : ∃ n : ℕ, m = -n := ⟨(-m).toNat, by omega⟩
    have hround := rounds_round (e := e) .negative (m := n) (by omega)
      (by simpa [abs_mul] using hv)
    rw [UnpackedFloat.normalize, Int.compare_eq_lt.mpr hneg, neg_neg, Int.toNat_natCast]
    simpa [signed] using hround
  · exact ⟨trivial, 0, rfl, by simpa using rounds_refl 0⟩
  · obtain ⟨n, rfl⟩ := Int.eq_ofNat_of_zero_le hpos.le
    have hround := rounds_round (e := e) .positive (m := n) (by omega)
      (by simpa [abs_mul] using hv)
    rw [UnpackedFloat.normalize, Int.compare_eq_gt.mpr hpos, Int.toNat_natCast]
    simpa [signed] using hround

/-- The remainder of a division tells where the quotient lies above its whole part. -/
theorem locates_accuracyOfFraction (q : ℕ) {r d : ℕ} (h : r < d) :
    Locates (q + (r : ℚ) / d) (.ofMantissaAndAccuracy q (accuracyOfFraction r d)) := by
  have hd : (0 : ℚ) < d := by exact_mod_cast (Nat.zero_le r).trans_lt h
  by_cases hr : r = 0
  · simp [accuracyOfFraction, hr, ExtendedMantissa.ofMantissaAndAccuracy, Locates]
  have hpos : (0 : ℚ) < r / d := div_pos (by exact_mod_cast Nat.pos_of_ne_zero hr) hd
  have hlt : (r : ℚ) / d < 1 := (div_lt_one hd).mpr (by exact_mod_cast h)
  rw [accuracyOfFraction, if_neg hr]
  rcases lt_trichotomy (2 * r) d with hc | hc | hc
  · have hhalf : (r : ℚ) / d < 1 / 2 := by
      rw [div_lt_div_iff₀ hd two_pos, one_mul, mul_comm]
      exact_mod_cast hc
    rw [Nat.compare_eq_lt.mpr hc]
    exact ⟨by linarith, by linarith⟩
  · have hhalf : (r : ℚ) / d = 1 / 2 := by
      rw [div_eq_div_iff hd.ne' two_ne_zero, one_mul, mul_comm]
      exact_mod_cast hc
    rw [Nat.compare_eq_eq.mpr hc]
    exact congrArg _ hhalf
  · have hhalf : 1 / 2 < (r : ℚ) / d := by
      rw [div_lt_div_iff₀ two_pos hd, one_mul, mul_comm]
      exact_mod_cast hc
    rw [Nat.compare_eq_gt.mpr hc]
    exact ⟨by linarith, by linarith⟩

/-- A shifted numerator is divided into a whole part and a remainder. -/
theorem quotient_value {m₁ m₂ k : ℕ} {e₁ e₂ t : ℤ} (h₂ : 0 < m₂) (hk : t + k = e₁ - e₂) :
    (m₁ : ℚ) * 2 ^ e₁ / (m₂ * 2 ^ e₂) / 2 ^ t =
      ((m₁ <<< k) / m₂ : ℕ) + ((m₁ <<< k) % m₂ : ℕ) / (m₂ : ℚ) := by
  have hdiv : (m₂ : ℚ) * ((m₁ <<< k) / m₂ : ℕ) + ((m₁ <<< k) % m₂ : ℕ) = m₁ * 2 ^ k := by
    have := Nat.div_add_mod (m₁ <<< k) m₂
    rw [Nat.shiftLeft_eq] at this ⊢
    exact_mod_cast this
  have he : (2 : ℚ) ^ e₁ = 2 ^ k * 2 ^ e₂ * 2 ^ t := by
    rw [← zpow_natCast, ← zpow_add₀ two_ne_zero, ← zpow_add₀ two_ne_zero]
    congr 1
    omega
  rw [he]
  field_simp
  linarith

/-- The quotient has 53 bits if the numerator has 53 more than the denominator. -/
theorem le_log2_quotient {m₁ m₂ k : ℕ} (h₁ : 0 < m₁) (h₂ : 0 < m₂)
    (h : 53 + m₂.log2 ≤ m₁.log2 + k) : 52 ≤ ((m₁ <<< k) / m₂).log2 := by
  have hq : 2 ^ 52 ≤ (m₁ <<< k) / m₂ := by
    rw [Nat.le_div_iff_mul_le h₂, Nat.shiftLeft_eq]
    calc 2 ^ 52 * m₂ ≤ 2 ^ 52 * 2 ^ (m₂.log2 + 1) := Nat.mul_le_mul_left _ Nat.lt_log2_self.le
      _ = 2 ^ (53 + m₂.log2) := by rw [← pow_add]; congr 1; omega
      _ ≤ 2 ^ (m₁.log2 + k) := Nat.pow_le_pow_right two_pos h
      _ = 2 ^ m₁.log2 * 2 ^ k := pow_add _ _ _
      _ ≤ m₁ * 2 ^ k := Nat.mul_le_mul_right _ (Nat.log2_self_le h₁.ne')
  exact (Nat.le_log2 (by omega)).mpr hq

/-- A quotient is rounded. The numerator is shifted until the whole part of the quotient has 53 bits,
or until the exponent is the least one. -/
theorem rounds_divCore (s : Sign) {m₁ m₂ : ℕ} {e₁ e₂ : ℤ} (h₁ : 0 < m₁) (h₂ : 0 < m₂)
    (hv : (m₁ : ℚ) * 2 ^ e₁ / (m₂ * 2 ^ e₂) < 2 ^ 1023) {c : ℕ × ℤ × Accuracy}
    (hc : divCore Format.binary64 m₁ e₁ m₂ e₂ = c) :
    Fits (roundWithAccuracy Format.binary64 s c.1 c.2.1 c.2.2) ∧
      ∃ y, unpackedNumber? (UnpackedFloat.roundWithAccuracy Format.binary64 s c.1 c.2.1 c.2.2) = some y ∧
        Rounds (signed s (m₁ * 2 ^ e₁ / (m₂ * 2 ^ e₂))) y := by
  obtain ⟨t, ht⟩ : ∃ t, t = min (e₁ - e₂) (Format.binary64.targetExponent
    (totalExponent m₁ e₁ - totalExponent m₂ e₂)) := ⟨_, rfl⟩
  obtain ⟨k, hk⟩ := Int.le.dest (a := t) (b := e₁ - e₂) (by omega)
  have hcore : c = ((m₁ <<< k) / m₂, t, accuracyOfFraction ((m₁ <<< k) % m₂) m₂) := by
    have hshift : (e₁ - e₂ - t).toNat = k := by omega
    rw [← hc, divCore]
    simp only [← ht, hshift]
  subst hcore
  refine rounds_roundWithAccuracy s ?_ ?_ hv
  · rw [quotient_value h₂ hk]
    exact locates_accuracyOfFraction _ (Nat.mod_lt _ h₂)
  · by_cases hleast : t ≤ -1074
    · exact hleast.trans (le_max_right _ _)
    have hlog : 52 ≤ ((m₁ <<< k) / m₂).log2 := by
      refine le_log2_quotient h₁ h₂ ?_
      rw [targetExponent_eq, totalExponent, totalExponent] at ht
      omega
    show t ≤ max ((((m₁ <<< k) / m₂).log2 : ℤ) + t - 52) (-1074)
    omega

theorem signed_natCast (s : Sign) (m : ℕ) : signed s m = (s.apply m : ℤ) := by
  cases s <;> simp [signed, Sign.apply]

theorem signed_mul (s : Sign) (v w : ℚ) : signed s v * w = signed s (v * w) := by
  cases s <;> simp [signed]

theorem signed_div (s s' : Sign) (v w : ℚ) : signed s v / signed s' w = signed (s / s') (v / w) := by
  cases s <;> cases s'
  · exact neg_div_neg_eq v w
  · exact neg_div w v
  · exact div_neg v
  · rfl

theorem abs_signed (s : Sign) (v : ℚ) : |signed s v| = |v| := by
  cases s
  · exact abs_neg v
  · rfl

/-- A lower exponent with the mantissa shifted to it gives the same number. -/
theorem signed_decreaseExponent (s : Sign) (m : ℕ) {e e' : ℤ} (h : e' ≤ e) :
    ((s.apply (decreaseExponent m e e').1 : ℤ) : ℚ) * 2 ^ e' = signed s (m * 2 ^ e) := by
  obtain ⟨k, rfl⟩ := Int.le.dest h
  have hk : (e' + k - e').toNat = k := by omega
  have hm : (decreaseExponent m (e' + k) e').1 = m * 2 ^ k := by
    rw [decreaseExponent, hk, Nat.shiftLeft_eq]
  rw [← signed_natCast, signed_mul, hm, zpow_add₀ two_ne_zero, zpow_natCast]
  push_cast
  congr 1
  ring

section Operations

variable {u w : UnpackedFloat} {a b : ℚ}

/-- A sum is rounded. -/
theorem rounds_add (hfu : Fits u) (hfw : Fits w) (hu : unpackedNumber? u = some a)
    (hw : unpackedNumber? w = some b) (hv : |a + b| < 2 ^ 1023) :
    Fits (add Format.binary64 u w) ∧
      ∃ c, unpackedNumber? (add Format.binary64 u w) = some c ∧ Rounds (a + b) c := by
  cases u with
  | notANumber => cases hu
  | infinity s => cases hu
  | zero s =>
    cases hu
    cases w with
    | notANumber => cases hw
    | infinity s => cases hw
    | zero s' =>
      cases hw
      rw [add_zero]
      refine ⟨?_, 0, ?_, rounds_refl 0⟩ <;> cases s <;> cases s' <;> trivial
    | finite s' m e h =>
      rw [zero_add]
      exact ⟨hfw, b, hw, rounds_refl b⟩
  | finite s m e h =>
    cases w with
    | notANumber => cases hw
    | infinity s => cases hw
    | zero s' =>
      cases hw
      rw [add_zero]
      exact ⟨hfu, a, hu, rounds_refl a⟩
    | finite s' m' e' h' =>
      cases hu
      cases hw
      have hsum : signed s (m * 2 ^ e) + signed s' (m' * 2 ^ e') =
          ((s.apply (decreaseExponent m e (min e e')).1 +
            s'.apply (decreaseExponent m' e' (min e e')).1 : ℤ) : ℚ) * 2 ^ min e e' := by
        rw [Int.cast_add, add_mul, signed_decreaseExponent s m (min_le_left e e'),
          signed_decreaseExponent s' m' (min_le_right e e')]
      rw [hsum] at hv ⊢
      exact rounds_normalize .positive hv

/-- A quotient is rounded. -/
theorem rounds_div (hu : unpackedNumber? u = some a) (hw : unpackedNumber? w = some b) (hb : b ≠ 0)
    (hv : |a / b| < 2 ^ 1023) :
    Fits (div Format.binary64 u w) ∧
      ∃ c, unpackedNumber? (div Format.binary64 u w) = some c ∧ Rounds (a / b) c := by
  cases w with
  | notANumber => cases hw
  | infinity s => cases hw
  | zero s =>
    cases hw
    exact absurd rfl hb
  | finite s' m' e' h' =>
    cases u with
    | notANumber => cases hu
    | infinity s => cases hu
    | zero s =>
      cases hu
      rw [zero_div]
      exact ⟨trivial, 0, rfl, rounds_refl 0⟩
    | finite s m e h =>
      cases hu
      cases hw
      rw [signed_div] at hv ⊢
      rw [abs_signed, abs_of_nonneg (by positivity)] at hv
      obtain ⟨c, hc⟩ : ∃ c, divCore Format.binary64 m e m' e' = c := ⟨_, rfl⟩
      have hdiv : div Format.binary64 (.finite s m e h) (.finite s' m' e' h') =
          roundWithAccuracy Format.binary64 (s / s') c.1 c.2.1 c.2.2 := by
        rw [UnpackedFloat.div, hc]
      rw [hdiv]
      exact rounds_divCore (s / s') h h' hv hc

end Operations

end MysqlMetrics.Decimal
