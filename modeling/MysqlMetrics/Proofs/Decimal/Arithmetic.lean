import Mathlib
import MysqlMetrics.Decimal.Binary
import MysqlMetrics.Proofs.Decimal.Rounding

/-!
# Arithmetic of doubles

A finite double stands for a rational number, and a sum, a quotient or a whole number that is made a
double is the exact result, rounded.

* `number?`: the number a double stands for.
* `number?_add`, `number?_div`, `number?_neg`: sums, quotients and negations.
* `zero_add_eq`, `not_nonneg_iff`: sums and comparisons with zero.
* `number?_ofNatural64`, `number?_ofInteger64`: whole numbers; up to `2 ^ 53` they are exact.
* `number?_ofScientific`: decimal fractions.
-/

namespace MysqlMetrics.Decimal

open Float.Model Float.Model.UnpackedFloat

/-- The number that a finite double stands for. -/
def Exact.number? : Exact → Option ℚ
  | .finite negative m q => some ((if negative then -(m : ℚ) else m) * 2 ^ q)
  | _ => none

/-- The number that a double stands for, if it is finite. -/
def number? (x : Float) : Option ℚ := (exact x).number?

theorem number?_eq (x : Float) : number? x = unpackedNumber? x.toModel.unpack := by
  rw [number?, exact]
  cases x.toModel.unpack with
  | notANumber => rfl
  | infinity s => rfl
  | zero s => simp [Exact.number?, unpackedNumber?]
  | finite s m e h => cases s <;> simp [Exact.number?, unpackedNumber?, signed]

theorem number?_eq_some {x : Float} {v : ℚ} :
    number? x = some v ↔ ∃ negative m q, exact x = .finite negative m q ∧
      v = (if negative then -(m : ℚ) else m) * 2 ^ q := by
  rw [number?]
  cases exact x with
  | nan => simp [Exact.number?]
  | infinite negative => simp [Exact.number?]
  | finite negative m q =>
    constructor
    · intro h
      exact ⟨negative, m, q, rfl, (Option.some.inj h).symm⟩
    · rintro ⟨_, _, _, heq, rfl⟩
      cases heq
      rfl

/-- The numbers that are not negative; zero may have a sign. -/
theorem number?_nonneg {x : Float} {v : ℚ} :
    number? x = some v ∧ 0 ≤ v ↔ ∃ negative m q, exact x = .finite negative m q ∧
      (negative = true → m = 0) ∧ v = m * 2 ^ q := by
  constructor
  · rintro ⟨hv, hpos⟩
    obtain ⟨negative, m, q, hx, rfl⟩ := number?_eq_some.mp hv
    cases negative with
    | false => exact ⟨false, m, q, hx, nofun, rfl⟩
    | true =>
      have hm : (0 : ℚ) ≤ -m := nonneg_of_mul_nonneg_left hpos (by positivity)
      have hzero : m = 0 := by exact_mod_cast le_antisymm (neg_nonneg.mp hm) m.cast_nonneg
      subst hzero
      exact ⟨true, 0, q, hx, fun _ => rfl, by simp⟩
  · rintro ⟨negative, m, q, hx, hneg, rfl⟩
    refine ⟨number?_eq_some.mpr ⟨negative, m, q, hx, ?_⟩, by positivity⟩
    cases negative with
    | false => rfl
    | true => simp [hneg rfl]

/-- A power of two as a quotient of whole ones. -/
theorem two_zpow_mul_toNat (q : ℤ) : (2 : ℚ) ^ q * 2 ^ (-q).toNat = 2 ^ q.toNat := by
  rw [← zpow_natCast, ← zpow_natCast, ← zpow_add₀ two_ne_zero]
  congr 1
  omega

/-! ## Packing -/

private theorem toNat_implicit (v : BitVec 52) : (1#1 ++ v).toNat = 2 ^ 52 + v.toNat := by
  rw [BitVec.toNat_append, ← Nat.shiftLeft_add_eq_or_of_lt v.isLt]
  rfl

/-- The exponent field of a number with 53 bits. -/
private theorem exponent_field {e : ℤ} (he : -1074 ≤ e) (he' : e ≤ 971) {b : ℕ}
    (hb : (b : ℤ) = e + 1075) :
    (BitVec.ofNat 11 b).toNat = b ∧ BitVec.ofNat 11 b ≠ -1#11 ∧ BitVec.ofNat 11 b ≠ 0#11 := by
  have hnat : (BitVec.ofNat 11 b).toNat = b := by rw [BitVec.toNat_ofNat]; omega
  refine ⟨hnat, fun h => ?_, fun h => ?_⟩
  · have := congrArg BitVec.toNat h
    rw [hnat] at this
    simp at this
    omega
  · have := congrArg BitVec.toNat h
    rw [hnat] at this
    simp at this
    omega

private theorem unpack_normal (s : Sign) {e : ℤ} {m : ℕ} (hpos : 0 < m) (hm : m < 2 ^ 53)
    (he : -1074 ≤ e) (he' : e ≤ 971) (hfull : 2 ^ 52 ≤ m) :
    (pack (.finite s m e hpos)).unpack = .finite s m e hpos := by
  obtain ⟨b, hb⟩ := Int.eq_ofNat_of_zero_le (a := e + 1075) (by omega)
  obtain ⟨hnat, hinf, hzero⟩ := exponent_field he he' hb.symm
  have hm' : (1#1 ++ BitVec.ofNat 52 m).toNat = m := by
    rw [toNat_implicit, BitVec.toNat_ofNat]
    omega
  have hlog : m.log2 = 52 := (Nat.log2_eq_iff hpos.ne').mpr ⟨hfull, hm⟩
  have hpack : UnpackedFloat.pack Format.binary64 (.finite s m e hpos) =
      packComponents Format.binary64 s (BitVec.ofNat 11 b) (BitVec.ofNat 52 m) := by
    have hbias : (e + (1023 : ℕ) + (52 : ℕ)).toNat = b := by omega
    show (if 2 ^ 11 ≤ (e + (1023 : ℕ) + (52 : ℕ)).toNat + 1 then _ else
      if m.log2 + 1 = 53 then packComponents Format.binary64 s
        (BitVec.ofNat 11 (e + (1023 : ℕ) + (52 : ℕ)).toNat) (BitVec.ofNat 52 m) else _) = _
    rw [hbias, if_neg (by omega), if_pos (by omega)]
  show UnpackedFloat.unpack Format.binary64 (UnpackedFloat.pack Format.binary64 _) = _
  rw [hpack, UnpackedFloat.unpack]
  simp only [unpackMantissa_packComponents, unpackExponent_packComponents,
    unpackSign_packComponents, Sign.ofBitVec_toBitVec, hinf, hzero, if_false,
    hm', hnat]
  congr 1
  show (b : ℤ) - ((1023 : ℕ) + (52 : ℕ)) = e
  omega

private theorem unpack_subnormal (s : Sign) {m : ℕ} (hpos : 0 < m) (hm : m < 2 ^ 52) :
    (pack (.finite s m (-1074) hpos)).unpack = .finite s m (-1074) hpos := by
  have hlog : m.log2 < 52 := (Nat.log2_lt hpos.ne').mpr hm
  have hnat : (BitVec.ofNat 52 m).toNat = m := by rw [BitVec.toNat_ofNat]; omega
  have hzero : BitVec.ofNat 52 m ≠ 0#52 := fun h => by
    have := congrArg BitVec.toNat h
    rw [hnat, BitVec.toNat_ofNat] at this
    omega
  have hpack : UnpackedFloat.pack Format.binary64 (.finite s m (-1074) hpos) =
      packComponents Format.binary64 s (0#11) (BitVec.ofNat 52 m) := by
    show (if m.log2 + 1 = 53 then _ else
      packComponents Format.binary64 s (0#11) (BitVec.ofNat 52 m)) = _
    rw [if_neg (by omega)]
  show UnpackedFloat.unpack Format.binary64 (UnpackedFloat.pack Format.binary64 _) = _
  rw [hpack, UnpackedFloat.unpack]
  simp only [unpackMantissa_packComponents, unpackExponent_packComponents,
    unpackSign_packComponents, Sign.ofBitVec_toBitVec, hzero, hnat]
  rfl

/-- An unpacked double that fits is packed without a loss. -/
theorem unpack_pack {u : UnpackedFloat} (h : Fits u) : (pack u).unpack = u := by
  cases u with
  | notANumber => exact unpack_packedNaN
  | infinity s => cases s <;> rfl
  | zero s => exact unpack_packedZero
  | finite s m e hpos =>
    obtain ⟨hm, he, he', hfull⟩ := h
    rcases le_or_gt (2 ^ 52) m with hfull' | hlt
    · exact unpack_normal s hpos hm he he' hfull'
    · obtain rfl := hfull.resolve_left (by omega)
      exact unpack_subnormal s hpos hlt

/-- What is unpacked fits. -/
theorem fits_unpack (x : Float.Model) : Fits x.unpack := by
  rw [Float.Model.unpack]
  generalize x.toBits.toBitVec = bits
  fun_cases UnpackedFloat.unpack with
  | case1 => trivial
  | case2 => trivial
  | case3 => trivial
  | case4 mantissa exponent e _ _ _ hzero =>
    have hm : mantissa.toNat < 2 ^ 52 := mantissa.isLt
    have he : e + 1 = -1074 := by
      show ((exponent.toNat : ℤ) - ((1023 : ℕ) + (52 : ℕ))) + 1 = -1074
      rw [hzero]
      rfl
    exact ⟨by omega, by omega, by omega, .inr he⟩
  | case5 mantissa exponent e _ _ hinf hzero =>
    have hm : mantissa.toNat < 2 ^ 52 := mantissa.isLt
    have he : exponent.toNat < 2 ^ 11 := exponent.isLt
    have hne : exponent.toNat ≠ 0 := fun h => hzero (BitVec.eq_of_toNat_eq h)
    have hne' : exponent.toNat ≠ 2047 := fun h => hinf (BitVec.eq_of_toNat_eq h)
    have hexp : e = (exponent.toNat : ℤ) - 1075 := rfl
    have hmantissa : (1#1 ++ mantissa).toNat = 2 ^ 52 + mantissa.toNat := toNat_implicit mantissa
    refine ⟨?_, by omega, by omega, .inl ?_⟩ <;> omega

/-- A significand has at most 53 bits. -/
theorem significand_lt {x : Float} {negative : Bool} {m : ℕ} {q : ℤ}
    (h : exact x = .finite negative m q) : m < 2 ^ 53 := by
  have hfits := fits_unpack x.toModel
  rw [exact] at h
  split at h
  · cases h
  · cases h
  · cases h
    decide
  · rename_i hunpack
    cases h
    rw [hunpack] at hfits
    exact hfits.1

theorem number?_pack {u : UnpackedFloat} (h : Fits u) :
    number? (.ofModel (pack u)) = unpackedNumber? u := by
  rw [number?_eq]
  exact congrArg unpackedNumber? (unpack_pack h)

/-! ## Operations -/

theorem number?_neg (x : Float) : number? (-x) = (number? x).map (-·) := by
  have hfits : Fits x.toModel.unpack.neg := by
    have := fits_unpack x.toModel
    revert this
    cases x.toModel.unpack <;> exact id
  rw [number?_eq x]
  refine (number?_pack hfits).trans ?_
  cases x.toModel.unpack with
  | notANumber => rfl
  | infinity s => rfl
  | zero s => rfl
  | finite s m e h => cases s <;> simp [UnpackedFloat.neg, unpackedNumber?, signed]

/-- The sum of two numbers is rounded. -/
theorem number?_add {x y : Float} {a b : ℚ} (hx : number? x = some a) (hy : number? y = some b)
    (hv : |a + b| < 2 ^ 1023) : ∃ c, number? (x + y) = some c ∧ Rounds (a + b) c := by
  rw [number?_eq] at hx hy
  obtain ⟨hfits, c, hc, hrounds⟩ := rounds_add (fits_unpack _) (fits_unpack _) hx hy hv
  exact ⟨c, (number?_pack hfits).trans hc, hrounds⟩

/-- The quotient of two numbers is rounded. -/
theorem number?_div {x y : Float} {a b : ℚ} (hx : number? x = some a) (hy : number? y = some b)
    (hb : b ≠ 0) (hv : |a / b| < 2 ^ 1023) : ∃ c, number? (x / y) = some c ∧ Rounds (a / b) c := by
  rw [number?_eq] at hx hy
  obtain ⟨hfits, c, hc, hrounds⟩ := rounds_div hx hy hb hv
  exact ⟨c, (number?_pack hfits).trans hc, hrounds⟩

/-! ## Zero -/

/-- A double is its parts, packed. -/
theorem pack_unpack (x : Float) : Float.ofModel (pack x.toModel.unpack) = x := by
  refine congrArg Float.ofModel ?_
  rw [Float.Model.pack, Float.Model.unpack]
  congr 1
  simp only [pack_unpack_of_valid x.toModel.valid]

theorem unpack_inj {x y : Float} : x.toModel.unpack = y.toModel.unpack ↔ x = y := by
  constructor
  · intro h
    rw [← pack_unpack x, h, pack_unpack]
  · rintro rfl
    rfl

/-- Nothing but the sign of a negative zero is lost in a sum with zero. -/
theorem zero_add_eq {x : Float} (h : x ≠ -0) : 0 + x = x := by
  have hsum : UnpackedFloat.add Format.binary64 (.zero .positive) x.toModel.unpack =
      x.toModel.unpack := by
    cases hx : x.toModel.unpack with
    | notANumber => rfl
    | infinity s => rfl
    | zero s =>
      cases s with
      | positive => rfl
      | negative => exact absurd (unpack_inj.mp hx) h
    | finite s m e hpos => rfl
  have hadd : 0 + x =
      .ofModel (pack (UnpackedFloat.add Format.binary64 (.zero .positive) x.toModel.unpack)) := rfl
  rw [hadd, hsum, pack_unpack]

theorem zero_add_neg_zero : (0 : Float) + -0 = 0 := by decide +kernel

theorem not_nonneg_iff {x : Float} : ¬0 ≤ x ↔ x < 0 ∨ x.isNaN = true := by
  have hle : 0 ≤ x ↔ UnpackedFloat.le (.zero .positive) x.toModel.unpack = true :=
    decide_eq_true_iff
  have hlt : x < 0 ↔ UnpackedFloat.lt x.toModel.unpack (.zero .positive) = true :=
    decide_eq_true_iff
  have hnan : x.isNaN = x.toModel.unpack.isNaN := rfl
  rw [hle, hlt, hnan]
  cases x.toModel.unpack with
  | notANumber => decide
  | infinity s => cases s <;> decide
  | zero s => cases s <;> decide
  | finite s m e hpos =>
    cases s with
    | positive =>
      refine ⟨fun h => absurd rfl h, ?_⟩
      rintro (h | h)
      · exact absurd h Bool.false_ne_true
      · exact absurd h Bool.false_ne_true
    | negative => exact ⟨fun _ => .inl rfl, fun _ => Bool.false_ne_true⟩

/-! ## Whole numbers -/

/-- A whole number is rounded. -/
theorem number?_ofNatural64 {n : ℕ} (h : n < 2 ^ 64) :
    ∃ y, number? (ofNatural64 n) = some y ∧ Rounds n y := by
  have hto : n.toUInt64.toNat = n := Nat.mod_eq_of_lt h
  have hv : |((n : ℤ) : ℚ) * 2 ^ (0 : ℤ)| < 2 ^ 1023 := by
    have hn : (n : ℚ) < 2 ^ 64 := by exact_mod_cast h
    rw [zpow_zero, mul_one, Int.cast_natCast, abs_of_nonneg n.cast_nonneg]
    exact hn.trans (pow_lt_pow_right₀ one_lt_two (by decide))
  obtain ⟨hfits, y, hy, hrounds⟩ := rounds_normalize .positive hv
  refine ⟨y, ?_, by simpa using hrounds⟩
  show number? (.ofModel (pack (UnpackedFloat.ofNat Format.binary64 n.toUInt64.toNat))) = _
  rw [hto]
  exact (number?_pack hfits).trans hy

/-- A whole number of at most 53 bits is kept. -/
theorem number?_ofNatural64_of_le {n : ℕ} (h : n ≤ 2 ^ 53) : number? (ofNatural64 n) = some (n : ℚ) := by
  obtain ⟨y, hy, hrounds⟩ := number?_ofNatural64 (n := n) (h.trans_lt (by decide))
  have hn : OnGrid n := onGrid_intCast (n := n) (by simpa using mod_cast h)
  rw [hy, hrounds.eq hn]

theorem number?_ofInteger64_of_le {n : ℤ} (h : |n| ≤ 2 ^ 53) :
    number? (ofInteger64 n) = some (n : ℚ) := by
  have habs : n.natAbs ≤ 2 ^ 53 := by
    rw [Int.abs_eq_natAbs] at h
    exact_mod_cast h
  rw [ofInteger64]
  split
  · rename_i hneg
    have hn : (n : ℚ) = -(n.natAbs : ℚ) := by
      exact_mod_cast (by omega : n = -(n.natAbs : ℤ))
    rw [number?_neg, number?_ofNatural64_of_le habs, hn]
    rfl
  · rename_i hpos
    have hn : (n : ℚ) = (n.natAbs : ℚ) := by
      have : n = ((n.natAbs : ℕ) : ℤ) := by omega
      rw [← Int.cast_natCast, ← this]
    rw [number?_ofNatural64_of_le habs, hn]

/-! ## Decimal fractions -/

/-- The double is the whole number. -/
private def isWhole (x : Float) (n : ℕ) : Bool :=
  match exact x with
  | .finite false m q => m * Nat.pow 2 q.toNat = n * Nat.pow 2 (-q).toNat
  | _ => false

private theorem number?_of_isWhole {x : Float} {n : ℕ} (h : isWhole x n = true) :
    number? x = some (n : ℚ) := by
  rw [isWhole] at h
  split at h
  · rename_i m q hx
    have hn : (m : ℚ) * 2 ^ q.toNat = n * 2 ^ (-q).toNat := by
      exact_mod_cast of_decide_eq_true h
    have hvalue : (m : ℚ) * 2 ^ q = n := by
      rw [← two_zpow_mul_toNat, ← mul_assoc] at hn
      exact mul_right_cancel₀ (by positivity) hn
    simp [number?, hx, Exact.number?, hvalue]
  · cases h

private theorem isWhole_powerOfTen : ∀ i : Fin Float.exactlyRepresentablePowersOfTen.size,
    isWhole Float.exactlyRepresentablePowersOfTen[i] (10 ^ i.val) = true := by
  decide +kernel

/-- The powers of ten up to `10 ^ 22` are doubles. -/
private theorem number?_powerOfTen (k : ℕ) (h : k < Float.exactlyRepresentablePowersOfTen.size) :
    number? Float.exactlyRepresentablePowersOfTen[k] = some (10 ^ k) := by
  exact_mod_cast number?_of_isWhole (isWhole_powerOfTen ⟨k, h⟩)

/-- Nothing but zero is on the grid below its least positive number. -/
theorem rounds_zero {v : ℚ} (h : 0 ≤ v) (h' : v < 2 ^ (-1074 : ℤ)) : Rounds v 0 := by
  rintro b ⟨n, j, -, hj, rfl⟩
  refine ⟨h.trans, fun hle => ?_⟩
  by_contra hpos
  have hn : 1 ≤ n := by
    by_contra hn
    exact hpos (mul_nonpos_of_nonpos_of_nonneg (by exact_mod_cast (by omega : n ≤ 0)) (by positivity))
  have : (2 : ℚ) ^ (-1074 : ℤ) ≤ n * 2 ^ j :=
    calc (2 : ℚ) ^ (-1074 : ℤ) ≤ 2 ^ j := zpow_le_zpow_right₀ one_le_two hj
      _ = 1 * 2 ^ j := (one_mul _).symm
      _ ≤ n * 2 ^ j := by gcongr; exact_mod_cast hn
  exact absurd (this.trans hle) h'.not_ge

/-- A power of ten outgrows the digits above it. -/
private theorem lt_least {n k : ℕ} (h : 2048 + n.log2 < k) :
    (n : ℚ) / 10 ^ k < 2 ^ (-1074 : ℤ) := by
  have hn : (n : ℚ) < 2 ^ (n.log2 + 1) := by exact_mod_cast Nat.lt_log2_self (n := n)
  have hten : (2 : ℚ) ^ k ≤ 10 ^ k := pow_le_pow_left₀ two_pos.le (by norm_num) k
  rw [div_lt_iff₀ (by positivity)]
  calc (n : ℚ) < 2 ^ (n.log2 + 1) := hn
    _ ≤ 2 ^ (-1074 + k : ℤ) := by
      rw [← zpow_natCast]
      exact zpow_le_zpow_right₀ one_le_two (by push_cast; omega)
    _ = 2 ^ (-1074 : ℤ) * 2 ^ k := by rw [zpow_add₀ two_ne_zero, zpow_natCast]
    _ ≤ 2 ^ (-1074 : ℤ) * 10 ^ k := by gcongr

/-- The same for a quotient that is computed from the digits at once. -/
private theorem rounds_ofScientific {n k : ℕ} (hk : k ≠ 0) (hv : |(n : ℚ) / 10 ^ k| < 2 ^ 1023) :
    Fits (UnpackedFloat.ofScientific Format.binary64 n (-k)) ∧
      ∃ y, unpackedNumber? (UnpackedFloat.ofScientific Format.binary64 n (-k)) = some y ∧
        Rounds (n / 10 ^ k) y := by
  unfold UnpackedFloat.ofScientific
  split
  · rename_i hn
    subst hn
    refine ⟨trivial, 0, rfl, ?_⟩
    simpa using rounds_refl 0
  rename_i hn
  have hpos : 0 < n := Nat.pos_of_ne_zero hn
  rw [if_neg (show ¬ (-(k : ℤ) > 2 ^ 11) by omega)]
  split
  · rename_i htiny
    have hk' : 2048 + n.log2 < k := by
      have : -(k : ℤ) < -((2 ^ 11 : ℤ) + n.log2) := htiny
      omega
    exact ⟨trivial, 0, rfl, rounds_zero (by positivity) (lt_least hk')⟩
  rw [if_neg (show ¬ (0 : ℤ) ≤ -(k : ℤ) by omega)]
  exact rounds_div (a := n) (b := 10 ^ k) (by simp [unpackedNumber?, signed])
    (by simp [unpackedNumber?, signed]) (by positivity) hv

/-- A number with all its digits behind the point is rounded. -/
theorem number?_ofScientific {n k : ℕ} (hk : k ≠ 0) (h : n < 10 ^ k) :
    ∃ y, number? (Float.ofScientific n true k) = some y ∧ Rounds (n / 10 ^ k) y := by
  have hten : (0 : ℚ) < 10 ^ k := by positivity
  have hv : |(n : ℚ) / 10 ^ k| < 2 ^ 1023 := by
    rw [abs_of_nonneg (by positivity), div_lt_iff₀ hten]
    calc (n : ℚ) < 10 ^ k := by exact_mod_cast h
      _ ≤ 2 ^ 1023 * 10 ^ k := le_mul_of_one_le_left hten.le (one_le_pow₀ one_le_two)
  unfold Float.ofScientific
  split
  · rename_i hsmall
    exact number?_div (number?_ofNatural64_of_le hsmall.1.le) (number?_powerOfTen k _) hten.ne' hv
  · obtain ⟨hfits, y, hy, hrounds⟩ := rounds_ofScientific hk hv
    rw [if_pos rfl, Int.negOfNat_eq]
    exact ⟨y, (number?_pack hfits).trans hy, hrounds⟩

private theorem zero_div_powerOfTen : ∀ i : Fin Float.exactlyRepresentablePowersOfTen.size,
    ofNatural64 0 / Float.exactlyRepresentablePowersOfTen[i] = ofNatural64 0 := by
  decide +kernel

theorem ofScientific_zero (k : ℕ) : Float.ofScientific 0 true k = ofNatural64 0 := by
  unfold Float.ofScientific
  split
  · rename_i hsmall
    exact zero_div_powerOfTen ⟨k, Nat.lt_succ_of_le hsmall.2⟩
  · rfl

/-- Digits behind the point write less than the same digits before it. -/
theorem number?_ofScientific_lt {n k : ℕ} (hk : k ≠ 0) (h : n < 10 ^ k) (hn : n ≠ 0)
    (hlimit : n < 2 ^ 64) :
    ∃ z y, number? (Float.ofScientific n true k) = some z ∧ number? (ofNatural64 n) = some y ∧
      0 ≤ z ∧ z < y := by
  obtain ⟨z, hz, hfraction⟩ := number?_ofScientific hk h
  obtain ⟨y, hy, hwhole⟩ := number?_ofNatural64 hlimit
  refine ⟨z, y, hz, hy, ?_, ?_⟩
  · exact_mod_cast hfraction.intCast_le (n := 0) (by decide) (by simp; positivity)
  · have hten : (0 : ℚ) < 10 ^ k := by positivity
    rcases (Nat.one_le_iff_ne_zero.mpr hn).eq_or_lt with rfl | htwo
    · -- One tenth and less is rounded to at most one half.
      have hten' : (10 : ℚ) ≤ 10 ^ k := le_self_pow₀ (by norm_num) hk
      have hhalf : z ≤ 1 / 2 := by
        refine (hfraction (1 / 2) onGrid_half).1 ?_
        rw [div_le_div_iff₀ hten two_pos]
        push_cast
        linarith
      have hone : 1 ≤ y := by
        exact_mod_cast hwhole.intCast_le (n := 1) (by decide) (by simp)
      linarith
    · have hone : z ≤ 1 := by
        refine mod_cast hfraction.le_intCast (n := 1) (by decide) ?_
        rw [Int.cast_one, div_le_one hten]
        exact_mod_cast h.le
      have htwo' : 2 ≤ y := by
        exact_mod_cast hwhole.intCast_le (n := 2) (by decide) (by exact_mod_cast htwo)
      linarith

end MysqlMetrics.Decimal
