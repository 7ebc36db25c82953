import Mathlib.Algebra.Order.Field.Power
import Mathlib.Algebra.Order.Field.Rat
import Mathlib.Tactic.Linarith
import Mathlib.Tactic.Positivity
import Mathlib.Tactic.Ring
import ShaderBindings.Number.Binary

/-!
# Numbers — Range

Where the finite numbers of a format end. A quotient has a finite number nearest
to it exactly if it is below the middle between the greatest finite number and
the power of two that would come next. The middle itself goes to the even
mantissa, which is that of the power of two.
-/

namespace ShaderBindings.Number

variable {n d k : Nat} {e : Int}

/-! ## Rounding -/

/-- Rounding reaches an even number from the middle below it on. -/
theorem le_roundQuotient_iff (hk : Even k) (hd : 0 < d) :
    k ≤ roundQuotient n d ↔ 2 * (k * d) ≤ 2 * n + d := by
  have hn : n / d * d + n % d = n := Nat.div_add_mod' n d
  have hr : n % d < d := Nat.mod_lt n hd
  unfold roundQuotient
  simp only [Bool.or_eq_true, Bool.and_eq_true, decide_eq_true_eq, beq_iff_eq]
  generalize n / d = q at hn
  generalize n % d = r at hn hr
  rcases Nat.lt_trichotomy k (q + 1) with hlow | rfl | hhigh
  · have hmul : k * d ≤ q * d := Nat.mul_le_mul_right d (by omega)
    exact iff_of_true (by split <;> omega) (by omega)
  · have hodd : ¬ q % 2 = 0 := by
      have := Nat.even_iff.mp hk
      omega
    rw [Nat.add_one_mul q d]
    by_cases hhalf : 2 * r < d
    · rw [if_pos (.inl hhalf)]
      exact iff_of_false (by omega) (by omega)
    · rw [if_neg (by omega)]
      exact iff_of_true le_rfl (by omega)
  · have hmul : (q + 2) * d ≤ k * d := Nat.mul_le_mul_right d (by omega)
    rw [Nat.add_mul] at hmul
    exact iff_of_false (by split <;> omega) (by omega)

/-- So does rounding at a scale. -/
theorem le_roundScaled_iff (hk : Even k) (hd : 0 < d) :
    k ≤ roundScaled n d e ↔ ((k : ℚ) - 1 / 2) * 2 ^ e ≤ n / d := by
  have hd' : (0 : ℚ) < d := by exact_mod_cast hd
  rw [le_div_iff₀ hd']
  unfold roundScaled
  by_cases he : 0 ≤ e
  · lift e to ℕ using he
    have hscaled : 0 < d * 2 ^ e := by positivity
    rw [if_pos (Int.natCast_nonneg e), Int.toNat_natCast, Nat.pow_eq,
      le_roundQuotient_iff hk hscaled, zpow_natCast, ← Nat.cast_le (α := ℚ)]
    push_cast
    constructor <;> intro h <;> linarith
  · obtain ⟨m, hm⟩ := Int.eq_ofNat_of_zero_le (show 0 ≤ -e by omega)
    obtain rfl : e = -(m : Int) := by omega
    have hpow : (0 : ℚ) < 2 ^ m := by positivity
    rw [if_neg he, neg_neg, Int.toNat_natCast, Nat.pow_eq,
      le_roundQuotient_iff hk hd, zpow_neg, zpow_natCast,
      ← Nat.cast_le (α := ℚ), mul_right_comm, ← div_eq_mul_inv,
      div_le_iff₀ hpow]
    push_cast
    constructor <;> intro h <;> linarith

/-! ## The order of a quotient -/

theorem two_zpow_le_div_iff (hd : 0 < d) : (2 : ℚ) ^ e ≤ n / d ↔
    if 0 ≤ e then d * Nat.pow 2 e.toNat ≤ n else d ≤ n * Nat.pow 2 (-e).toNat := by
  have hd' : (0 : ℚ) < d := by exact_mod_cast hd
  rw [le_div_iff₀ hd']
  by_cases he : 0 ≤ e
  · lift e to ℕ using he
    rw [if_pos (Int.natCast_nonneg e), Int.toNat_natCast, Nat.pow_eq,
      zpow_natCast, mul_comm]
    exact_mod_cast Iff.rfl
  · obtain ⟨m, hm⟩ := Int.eq_ofNat_of_zero_le (show 0 ≤ -e by omega)
    obtain rfl : e = -(m : Int) := by omega
    have hpow : (0 : ℚ) < 2 ^ m := by positivity
    rw [if_neg he, neg_neg, Int.toNat_natCast, Nat.pow_eq, zpow_neg,
      zpow_natCast, mul_comm, ← div_eq_mul_inv, div_le_iff₀ hpow]
    exact_mod_cast Iff.rfl

/-- The order is that of the greatest power of two that the quotient reaches. -/
theorem binaryOrder_spec (hn : 0 < n) (hd : 0 < d) :
    (2 : ℚ) ^ binaryOrder n d ≤ n / d ∧
      (n / d : ℚ) < 2 ^ (binaryOrder n d + 1) := by
  have hd' : (0 : ℚ) < d := by exact_mod_cast hd
  have hnlow : (2 : ℚ) ^ n.log2 ≤ n := by
    exact_mod_cast Nat.log2_self_le (Nat.ne_of_gt hn)
  have hnhigh : (n : ℚ) < 2 ^ (n.log2 + 1) := by
    exact_mod_cast Nat.lt_log2_self
  have hdlow : (2 : ℚ) ^ d.log2 ≤ d := by
    exact_mod_cast Nat.log2_self_le (Nat.ne_of_gt hd)
  have hdhigh : (d : ℚ) < 2 ^ (d.log2 + 1) := by
    exact_mod_cast Nat.lt_log2_self
  let e : Int := n.log2 - d.log2
  have horder : binaryOrder n d = if (2 : ℚ) ^ e ≤ n / d then e else e - 1 := by
    simp only [two_zpow_le_div_iff hd, binaryOrder]
    rfl
  have hlow : (2 : ℚ) ^ (e - 1) ≤ n / d := by
    have hexp : e - 1 = (n.log2 : Int) - (d.log2 + 1 : Nat) := by omega
    rw [hexp, zpow_sub₀ two_ne_zero, zpow_natCast, zpow_natCast]
    gcongr
  have hhigh : (n / d : ℚ) < 2 ^ (e + 1) := by
    have hexp : e + 1 = (n.log2 + 1 : Nat) - (d.log2 : Int) := by omega
    rw [hexp, zpow_sub₀ two_ne_zero, zpow_natCast, zpow_natCast]
    gcongr
  rw [horder]
  by_cases hreached : (2 : ℚ) ^ e ≤ n / d
  · rw [if_pos hreached]
    exact ⟨hreached, hhigh⟩
  · rw [if_neg hreached, Int.sub_add_cancel]
    exact ⟨hlow, not_le.mp hreached⟩

/-! ## Mantissas -/

section Mantissas

variable {p : Nat}

theorem le_roundScaled_of_le (hp : 0 < p) (hd : 0 < d)
    (h : (2 : ℚ) ^ (e + p) ≤ n / d) : 2 ^ p ≤ roundScaled n d e := by
  have heven : Even (2 ^ p) := (Nat.even_pow' hp.ne').mpr even_two
  rw [le_roundScaled_iff heven hd]
  have hpow : (0 : ℚ) < 2 ^ e := by positivity
  rw [zpow_add₀ two_ne_zero, zpow_natCast] at h
  push_cast
  linarith

theorem roundScaled_lt_of_lt (hd : 0 < d) (h : (n / d : ℚ) < 2 ^ (e + p + 1)) :
    roundScaled n d e < 2 ^ (p + 1) + 2 := by
  have heven : Even (2 ^ (p + 1) + 2) :=
    ((Nat.even_pow' (Nat.succ_ne_zero p)).mpr even_two).add even_two
  rw [← not_le, le_roundScaled_iff heven hd, not_le]
  have hpow : (0 : ℚ) < 2 ^ e := by positivity
  rw [add_assoc, zpow_add₀ two_ne_zero] at h
  have hcast : (2 : ℚ) ^ ((p : Int) + 1) = 2 ^ (p + 1) := by
    exact_mod_cast zpow_natCast (2 : ℚ) (p + 1)
  rw [hcast] at h
  push_cast
  linarith

end Mantissas

/-! ## Codes of quotients -/

section Codes

-- mantissas of `p + 1` bits, and `2 ^ M` beyond the greatest finite number
variable {p M : Nat} (hM : p + 2 ≤ M)

include hM

theorem code_lt_of_lt (hp : 0 < p) (hd : 0 < d)
    (h : (n / d : ℚ) < 2 ^ (e + p + 1)) (he : e ≤ M - p - 2) :
    (e - (2 - M - p)).toNat * 2 ^ p + roundScaled n d e <
      (2 * M - 1) * 2 ^ p := by
  have hround := roundScaled_lt_of_lt hd h
  have hsteps := Nat.mul_le_mul_right (2 ^ p)
    (show (e - (2 - M - p)).toNat + 3 ≤ 2 * M - 1 by omega)
  have hbits : 2 ^ 1 ≤ 2 ^ p := Nat.pow_le_pow_right (by omega) hp
  rw [Nat.add_mul] at hsteps
  rw [Nat.pow_succ] at hround
  omega

theorem le_code_of_le (hp : 0 < p) (hd : 0 < d)
    (h : (2 : ℚ) ^ (e + p) ≤ n / d) (he : M - p ≤ e) :
    (2 * M - 1) * 2 ^ p ≤
      (e - (2 - M - p)).toNat * 2 ^ p + roundScaled n d e := by
  have hround := le_roundScaled_of_le hp hd h
  have hsteps := Nat.mul_le_mul_right (2 ^ p)
    (show 2 * M - 1 ≤ (e - (2 - M - p)).toNat + 1 by omega)
  rw [Nat.add_mul] at hsteps
  omega

/-- Just below `2 ^ M`, it is rounding that decides. -/
theorem code_lt_iff_of_last (hd : 0 < d) (he : e = M - p - 1) :
    (e - (2 - M - p)).toNat * 2 ^ p + roundScaled n d e <
        (2 * M - 1) * 2 ^ p ↔
      (n / d : ℚ) < (2 ^ (p + 1) - 1 / 2) * 2 ^ e := by
  have heven : Even (2 ^ (p + 1)) :=
    (Nat.even_pow' (Nat.succ_ne_zero p)).mpr even_two
  have hround := le_roundScaled_iff (n := n) (e := e) heven hd
  rw [Nat.cast_pow, Nat.cast_ofNat] at hround
  have hsteps : 2 * M - 1 = (e - (2 - M - p)).toNat + 2 := by omega
  rw [hsteps, Nat.add_mul, Nat.add_lt_add_iff_left, ← Nat.pow_succ',
    ← not_le, hround, not_le]

/-- The code of a quotient is below that of infinity exactly if the quotient is
below the middle between the greatest finite number and `2 ^ M`. -/
theorem code_lt_iff (hp : 0 < p) (hn : 0 < n) (hd : 0 < d)
    (he : e = max (binaryOrder n d - p) (2 - M - p)) :
    (e - (2 - M - p)).toNat * 2 ^ p + roundScaled n d e <
        (2 * M - 1) * 2 ^ p ↔
      (n / d : ℚ) < 2 ^ M - 2 ^ (M - p - 2) := by
  obtain ⟨hlow, hhigh⟩ := binaryOrder_spec hn hd
  generalize binaryOrder n d = L at *
  have hmiddle : (2 : ℚ) ^ M - 2 ^ (M - p - 2) =
      (2 ^ (p + 1) - 1 / 2) * 2 ^ (M - p - 1) := by
    obtain ⟨t, rfl⟩ := Nat.exists_eq_add_of_le hM
    rw [show p + 2 + t - p - 1 = t + 1 by omega,
      show p + 2 + t - p - 2 = t by omega]
    ring
  rcases lt_trichotomy L (M - 1) with hbelow | hlast | habove
  · -- one power of two further down no mantissa can carry so far
    refine iff_of_true ?_ ?_
    · refine code_lt_of_lt hM hp hd ?_ (by omega)
      exact hhigh.trans_le (zpow_le_zpow_right₀ one_le_two (by omega))
    · have hone : (1 : ℚ) ≤ 2 ^ p := one_le_pow₀ one_le_two
      calc (n / d : ℚ)
          < 2 ^ (L + 1) := hhigh
        _ ≤ 2 ^ ((p + (M - p - 1) : Nat) : Int) :=
          zpow_le_zpow_right₀ one_le_two (by omega)
        _ = 2 ^ p * 2 ^ (M - p - 1) := by rw [zpow_natCast, pow_add]
        _ ≤ (2 ^ (p + 1) - 1 / 2) * 2 ^ (M - p - 1) := by
          rw [pow_succ (2 : ℚ) p]
          gcongr
          linarith
        _ = 2 ^ M - 2 ^ (M - p - 2) := hmiddle.symm
  · obtain rfl : e = (M - p - 1 : Nat) := by omega
    rw [code_lt_iff_of_last hM hd (by omega), zpow_natCast, hmiddle]
  · refine iff_of_false (not_lt.mpr ?_) (not_lt.mpr ?_)
    · refine le_code_of_le hM hp hd ?_ (by omega)
      exact hlow.trans' (zpow_le_zpow_right₀ one_le_two (by omega))
    · calc (2 : ℚ) ^ M - 2 ^ (M - p - 2)
          ≤ 2 ^ M := sub_le_self _ (by positivity)
        _ = 2 ^ (M : Int) := (zpow_natCast 2 M).symm
        _ ≤ 2 ^ L := zpow_le_zpow_right₀ one_le_two (by omega)
        _ ≤ n / d := hlow

end Codes

namespace BinaryFormat

variable {f : BinaryFormat}

/-- The exponent of the least power of two beyond the finite numbers. -/
def top (f : BinaryFormat) : Nat :=
  2 ^ (f.exponentBits - 1)

/-- The middle between the greatest finite number and the power of two beyond
it. -/
def limit (f : BinaryFormat) : Nat :=
  2 ^ f.top - 2 ^ (f.top - f.fractionBits - 2)

/-- There is a fraction, and the middles between the greatest finite numbers are
integers. -/
structure IsWide (f : BinaryFormat) : Prop where
  fraction : 0 < f.fractionBits
  exponent : f.fractionBits + 2 ≤ f.top

theorem isWide_double : IsWide double where
  fraction := by decide
  exponent := by decide

theorem limit_double : double.limit = 2 ^ 1024 - 2 ^ 970 := by
  have htop : double.top = 1024 := rfl
  have hlast : 1024 - double.fractionBits - 2 = 970 := rfl
  rw [limit, htop, hlast]

theorem lowest_eq (f : BinaryFormat) :
    f.lowest = 2 - f.top - f.fractionBits := by
  simp [lowest, top]

theorem infinityCode_eq (hf : f.IsWide) :
    f.infinityCode = (2 * f.top - 1) * 2 ^ f.fractionBits := by
  have hbits : f.exponentBits ≠ 0 := by
    intro hzero
    have := hf.exponent
    simp [top, hzero] at this
  obtain ⟨b, hb⟩ := Nat.exists_eq_succ_of_ne_zero hbits
  simp [infinityCode, top, hb, Nat.pow_succ, Nat.mul_comm]

theorem infinityCode_pos (hf : f.IsWide) : 0 < f.infinityCode := by
  rw [infinityCode_eq hf]
  have := hf.exponent
  exact Nat.mul_pos (by omega) (by positivity)

theorem infinityCode_lt (f : BinaryFormat) :
    f.infinityCode < 2 ^ (f.width - 1) := by
  have hpow : 0 < 2 ^ f.exponentBits := by positivity
  rw [width, Nat.add_sub_cancel, Nat.pow_add, infinityCode, Nat.pow_eq,
    Nat.pow_eq]
  exact Nat.mul_lt_mul_of_pos_right (by omega) (by positivity)

theorem limit_pos (hf : f.IsWide) : 0 < f.limit := by
  have := hf.exponent
  exact Nat.sub_pos_of_lt (Nat.pow_lt_pow_right (by omega) (by omega))

theorem limit_cast (f : BinaryFormat) :
    (f.limit : ℚ) = 2 ^ f.top - 2 ^ (f.top - f.fractionBits - 2) := by
  have hle : 2 ^ (f.top - f.fractionBits - 2) ≤ 2 ^ f.top :=
    Nat.pow_le_pow_right (by omega) (by omega)
  rw [limit, Nat.cast_sub hle]
  push_cast
  rfl

end BinaryFormat

/-! ## Finite numbers -/

namespace Binary

variable {f : BinaryFormat} {negative : Bool} {code : Nat}

theorem magnitude_ofCode (negative : Bool) (h : code < 2 ^ (f.width - 1)) :
    (ofCode negative code : Binary f).bits.toNat % 2 ^ (f.width - 1) =
      code := by
  have hwidth : 2 ^ (f.width - 1) ∣ 2 ^ f.width :=
    Nat.pow_dvd_pow 2 (Nat.sub_le _ _)
  rw [ofCode, BitVec.toNat_ofNat, Nat.mod_mod_of_dvd _ hwidth]
  cases negative with
  | false => exact Nat.mod_eq_of_lt h
  | true => simpa [Nat.pow_eq] using Nat.mod_eq_of_lt h

/-- The codes below that of infinity are those of finite numbers. -/
theorem isFinite_ofCode_iff (h : code < 2 ^ (f.width - 1)) :
    (ofCode negative code : Binary f).isFinite = true ↔
      code < f.infinityCode := by
  have hmagnitude := magnitude_ofCode negative h
  simp only [isFinite, datum, Nat.pow_eq, hmagnitude]
  rcases Nat.lt_trichotomy code f.infinityCode with hlt | heq | hgt
  · rw [if_neg (by omega), if_neg (by simp; omega)]
    split_ifs <;> simp [hlt]
  · simp [heq]
  · rw [if_pos hgt]
    simp
    omega

/-- A finite number is nearest to exactly the quotients below the limit. -/
theorem isFinite_ofRatio_iff (hf : f.IsWide) (hd : 0 < d) :
    (ofRatio negative n d : Binary f).isFinite = true ↔ n < f.limit * d := by
  by_cases hn : n = 0
  · simp only [ofRatio, hn, beq_self_eq_true, Bool.true_or, if_true]
    rw [isFinite_ofCode_iff (by positivity)]
    exact iff_of_true (BinaryFormat.infinityCode_pos hf)
      (Nat.mul_pos (BinaryFormat.limit_pos hf) hd)
  · have hd' : (0 : ℚ) < d := by exact_mod_cast hd
    have hcode := code_lt_iff (n := n) hf.exponent hf.fraction (by omega) hd rfl
    rw [← f.limit_cast, div_lt_iff₀ hd'] at hcode
    simp only [ofRatio, beq_iff_eq, hn, hd.ne', or_false, if_false,
      Bool.or_eq_true, Nat.pow_eq]
    rw [isFinite_ofCode_iff (by have := f.infinityCode_lt; omega),
      min_lt_iff, or_iff_left (lt_irrefl _), f.lowest_eq,
      BinaryFormat.infinityCode_eq hf, hcode]
    exact_mod_cast Iff.rfl

end Binary

end ShaderBindings.Number
