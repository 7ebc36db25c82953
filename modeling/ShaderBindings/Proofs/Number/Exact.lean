import ShaderBindings.Number.Array
import ShaderBindings.Proofs.Number.Range

/-!
# Numbers — Exactness

Rounding leaves a number alone that the format has already. So a number that is
read from its bits and written again is the same, unless it is a not-a-number:
of these only the one without sign and payload is written. An integer that a
word holds is left alone when it is wrapped into a word. Casting therefore
changes nothing that is a result of casting.
-/

namespace ShaderBindings.Number

variable {n d m : Nat} {e : Int}

/-! ## Rounding -/

theorem roundQuotient_mul (m : Nat) {k : Nat} (hk : 0 < k) :
    roundQuotient (m * k) k = m := by
  unfold roundQuotient
  simp [Nat.mul_div_cancel m hk, hk]

/-- A whole multiple of the scale is not rounded. -/
theorem roundScaled_of_eq (hd : 0 < d) (h : (n / d : ℚ) = m * 2 ^ e) :
    roundScaled n d e = m := by
  have hd' : (d : ℚ) ≠ 0 := by exact_mod_cast hd.ne'
  rw [div_eq_iff hd'] at h
  unfold roundScaled
  by_cases he : 0 ≤ e
  · lift e to ℕ using he
    have hn : n = m * (d * 2 ^ e) := by
      rw [zpow_natCast] at h
      have hcast : (n : ℚ) = m * (d * 2 ^ e) := by
        rw [h]
        ring
      exact_mod_cast hcast
    rw [if_pos (Int.natCast_nonneg e), Int.toNat_natCast, Nat.pow_eq, hn]
    exact roundQuotient_mul m (by positivity)
  · obtain ⟨k, hk⟩ := Int.eq_ofNat_of_zero_le (show 0 ≤ -e by omega)
    obtain rfl : e = -(k : Int) := by omega
    have hn : n * 2 ^ k = m * d := by
      rw [zpow_neg, zpow_natCast] at h
      have hpow : (2 : ℚ) ^ k ≠ 0 := by positivity
      have hcast : (n : ℚ) * 2 ^ k = m * d := by
        rw [h, mul_right_comm, inv_mul_cancel_right₀ hpow]
      exact_mod_cast hcast
    rw [if_neg he, neg_neg, Int.toNat_natCast, Nat.pow_eq, hn]
    exact roundQuotient_mul m hd

section Order

variable {p : Nat}

/-- A mantissa of `p + 1` bits tells the order. -/
theorem binaryOrder_of_eq (hd : 0 < d) (h : (n / d : ℚ) = m * 2 ^ e)
    (hlow : 2 ^ p ≤ m) (hhigh : m < 2 ^ (p + 1)) :
    binaryOrder n d = e + p := by
  have hpow : (0 : ℚ) < 2 ^ e := by positivity
  have hm : 0 < m := Nat.lt_of_lt_of_le (by positivity) hlow
  have hn : 0 < n := by
    have hm' : (0 : ℚ) < m := by exact_mod_cast hm
    refine Nat.pos_of_ne_zero ?_
    rintro rfl
    have hne := (mul_pos hm' hpow).ne'
    rw [← h] at hne
    simp at hne
  obtain ⟨hreached, hbelow⟩ := binaryOrder_spec hn hd
  rw [h] at hreached hbelow
  have hlow' : (2 : ℚ) ^ (e + p) ≤ m * 2 ^ e := by
    rw [zpow_add₀ two_ne_zero, zpow_natCast, mul_comm]
    gcongr
    exact_mod_cast hlow
  have hhigh' : (m * 2 ^ e : ℚ) < 2 ^ (e + p + 1) := by
    have hcast : (m : ℚ) < 2 ^ (p + 1) := by exact_mod_cast hhigh
    calc (m * 2 ^ e : ℚ)
        < 2 ^ (p + 1) * 2 ^ e := by gcongr
      _ = 2 ^ (e + p + 1) := by
        rw [mul_comm, ← zpow_natCast, ← zpow_add₀ two_ne_zero]
        congr 1
        push_cast
        ring
  have hle : binaryOrder n d < e + p + 1 :=
    (zpow_lt_zpow_iff_right₀ one_lt_two).mp (hreached.trans_lt hhigh')
  have hge : e + p < binaryOrder n d + 1 :=
    (zpow_lt_zpow_iff_right₀ one_lt_two).mp (hlow'.trans_lt hbelow)
  omega

/-- A smaller mantissa has a smaller order. -/
theorem binaryOrder_lt (hd : 0 < d) (hn : 0 < n)
    (h : (n / d : ℚ) = m * 2 ^ e) (hm : m < 2 ^ p) :
    binaryOrder n d < e + p := by
  obtain ⟨hreached, -⟩ := binaryOrder_spec hn hd
  rw [h] at hreached
  have hpow : (0 : ℚ) < 2 ^ e := by positivity
  have hcast : (m : ℚ) < 2 ^ p := by exact_mod_cast hm
  have hbelow : (m * 2 ^ e : ℚ) < 2 ^ (e + p) := by
    rw [zpow_add₀ two_ne_zero, zpow_natCast, mul_comm]
    gcongr
  exact (zpow_lt_zpow_iff_right₀ one_lt_two).mp (hreached.trans_lt hbelow)

end Order

/-! ## Numbers that the format has -/

/-- A mantissa and an exponent as the format has them: the mantissa has all its
bits, or the exponent is the lowest. -/
inductive BinaryFormat.Has (f : BinaryFormat) (m : Nat) (e : Int) : Prop
  | normal (hlow : 2 ^ f.fractionBits ≤ m)
      (hhigh : m < 2 ^ (f.fractionBits + 1)) (he : f.lowest ≤ e)
  | subnormal (hm : m < 2 ^ f.fractionBits) (he : e = f.lowest)

namespace Binary

variable {f : BinaryFormat} {negative : Bool} {x : Binary f}

/-- The quotient that the format has is written with its own code. -/
theorem ofRatio_of_has (hd : 0 < d) (h : (n / d : ℚ) = m * 2 ^ e)
    (hhas : f.Has m e) :
    (ofRatio negative n d : Binary f) = ofCode negative
      (min ((e - f.lowest).toNat * 2 ^ f.fractionBits + m) f.infinityCode) := by
  rcases Nat.eq_zero_or_pos n with rfl | hn
  · have hm : m = 0 := by
      have hpow : (2 : ℚ) ^ e ≠ 0 := by positivity
      simpa [hpow, eq_comm] using h
    subst hm
    cases hhas with
    | normal hlow => exact absurd hlow (by simp)
    | subnormal _ he => simp [ofRatio, he]
  · have hscale : max (binaryOrder n d - f.fractionBits) f.lowest = e := by
      cases hhas with
      | normal hlow hhigh he =>
        have := binaryOrder_of_eq hd h hlow hhigh
        omega
      | subnormal hm he =>
        have := binaryOrder_lt hd hn h hm
        omega
    have hn' : (n == 0 || d == 0) = false := by simp [hn.ne', hd.ne']
    simp only [ofRatio, hn', Bool.false_eq_true, if_false, hscale, Nat.pow_eq,
      roundScaled_of_eq hd h]

/-- A number is that with its own sign and code. -/
theorem eq_ofCode (x : Binary f) :
    x = ofCode (x.bits.toNat / 2 ^ (f.width - 1) == 1)
      (x.bits.toNat % 2 ^ (f.width - 1)) := by
  obtain ⟨bits⟩ := x
  have hlt : bits.toNat < 2 ^ (f.width - 1) * 2 := by
    rw [← Nat.pow_succ]
    exact bits.isLt
  have hsplit := Nat.div_add_mod bits.toNat (2 ^ (f.width - 1))
  have hsign : bits.toNat / 2 ^ (f.width - 1) < 2 :=
    Nat.div_lt_of_lt_mul hlt
  have hcode : (if bits.toNat / 2 ^ (f.width - 1) == 1 then
      Nat.pow 2 (f.width - 1) + bits.toNat % 2 ^ (f.width - 1)
      else bits.toNat % 2 ^ (f.width - 1)) = bits.toNat := by
    rcases Nat.lt_or_ge (bits.toNat / 2 ^ (f.width - 1)) 1 with hzero | hone
    · rw [Nat.lt_one_iff.mp hzero] at hsplit ⊢
      simpa using hsplit
    · rw [Nat.le_antisymm (Nat.le_of_lt_succ hsign) hone] at hsplit ⊢
      simpa using hsplit
  rw [ofCode, hcode, BitVec.ofNat_toNat, BitVec.setWidth_eq]

/-- So is what the format has when it is written from a mantissa and an
exponent. -/
theorem ofDatum_of_has (hhas : f.Has m e) :
    (ofDatum (.finite negative m e) : Binary f) = ofCode negative
      (min ((e - f.lowest).toNat * 2 ^ f.fractionBits + m) f.infinityCode) := by
  unfold ofDatum
  by_cases he : 0 ≤ e
  · simp only [if_pos he, Nat.pow_eq]
    refine ofRatio_of_has Nat.one_pos ?_ hhas
    lift e to ℕ using he
    simp
  · simp only [if_neg he, Nat.pow_eq]
    refine ofRatio_of_has (by positivity) ?_ hhas
    obtain ⟨k, hk⟩ := Int.eq_ofNat_of_zero_le (show 0 ≤ -e by omega)
    obtain rfl : e = -(k : Int) := by omega
    simp [div_eq_mul_inv]

/-- A number that is read and written again is the same, unless it is a
not-a-number. -/
theorem ofDatum_datum (h : x.datum ≠ .nan) : ofDatum x.datum = x := by
  conv_rhs => rw [eq_ofCode x]
  simp only [datum, Nat.pow_eq] at h ⊢
  generalize (x.bits.toNat / 2 ^ (f.width - 1) == 1) = negative at h ⊢
  generalize x.bits.toNat % 2 ^ (f.width - 1) = code at h ⊢
  have hsplit := Nat.div_add_mod code (2 ^ f.fractionBits)
  have hfraction : code % 2 ^ f.fractionBits < 2 ^ f.fractionBits :=
    Nat.mod_lt _ (by positivity)
  generalize code / 2 ^ f.fractionBits = field at h hsplit ⊢
  generalize code % 2 ^ f.fractionBits = fraction at h hsplit hfraction ⊢
  rcases Nat.lt_trichotomy code f.infinityCode with hlt | heq | hgt
  · rw [if_neg (by omega), if_neg (by simpa using hlt.ne)]
    by_cases hfield : field = 0
    · subst hfield
      rw [if_pos (by rfl), ofDatum_of_has (.subnormal hfraction rfl)]
      congr 1
      rw [sub_self, Int.toNat_zero]
      omega
    · rw [if_neg (by simpa using hfield), ofDatum_of_has]
      · congr 1
        have hsteps : (f.lowest + field - 1 - f.lowest).toNat = field - 1 := by
          omega
        obtain ⟨steps, rfl⟩ := Nat.exists_eq_succ_of_ne_zero hfield
        rw [hsteps, Nat.succ_sub_one]
        rw [Nat.mul_succ] at hsplit
        rw [Nat.mul_comm]
        omega
      · refine .normal (Nat.le_add_right _ _) ?_ (by omega)
        rw [Nat.pow_succ]
        omega
  · rw [if_neg (by omega), if_pos (by simpa using heq), heq]
    rfl
  · rw [if_pos hgt] at h
    exact absurd rfl h

theorem datum_ofCode_ne_nan {code : Nat} (h : code ≤ f.infinityCode) :
    (ofCode negative code : Binary f).datum ≠ .nan := by
  have hcode : code < 2 ^ (f.width - 1) := by
    have := f.infinityCode_lt
    omega
  simp only [datum, Nat.pow_eq, magnitude_ofCode negative hcode]
  rw [if_neg (by omega)]
  split_ifs <;> simp

theorem datum_ofRatio_ne_nan :
    (ofRatio negative n d : Binary f).datum ≠ .nan := by
  unfold ofRatio
  split
  · exact datum_ofCode_ne_nan (Nat.zero_le _)
  · exact datum_ofCode_ne_nan (Nat.min_le_right _ _)

/-- If what is written is a not-a-number, it is the one that is written. -/
theorem eq_nan_of_datum_ofDatum {q : Datum}
    (h : (ofDatum q : Binary f).datum = .nan) :
    (ofDatum q : Binary f) = nan := by
  cases q with
  | nan => rfl
  | infinite negative => exact absurd h (datum_ofCode_ne_nan le_rfl)
  | finite negative m e =>
    by_cases he : 0 ≤ e
    · simp only [ofDatum, if_pos he] at h
      exact absurd h datum_ofRatio_ne_nan
    · simp only [ofDatum, if_neg he] at h
      exact absurd h datum_ofRatio_ne_nan

end Binary

/-! ## Words -/

section Words

variable {signed : Bool} {width : Nat} {i : Int}

theorem two_pow_width (hwidth : 0 < width) :
    (2 : Int) ^ width = 2 * 2 ^ (width - 1) := by
  rw [← pow_succ', Nat.sub_add_cancel hwidth]

/-- A word is left alone. -/
theorem wrap_of_fits (hwidth : 0 < width) (h : fits signed width i = true) :
    wrap signed width i = i := by
  have hpow := two_pow_width hwidth
  have hpos : (0 : Int) < 2 ^ (width - 1) := by positivity
  unfold fits at h
  unfold wrap
  simp only [Nat.pow_eq, Nat.cast_pow, Nat.cast_ofNat] at h ⊢
  cases signed with
  | false =>
    simp only [Bool.false_eq_true, if_false, Bool.and_eq_true,
      decide_eq_true_eq] at h
    simpa using Int.emod_eq_of_lt h.1 h.2
  | true =>
    simp only [if_true, Bool.and_eq_true, decide_eq_true_eq] at h
    rcases Int.lt_or_le i 0 with hneg | hnonneg
    · have hmod : i % 2 ^ width = i + 2 ^ width := by
        rw [← Int.add_emod_right, Int.emod_eq_of_lt (by omega) (by omega)]
      rw [hmod, if_pos (by simp; omega)]
      omega
    · have hmod : i % 2 ^ width = i :=
        Int.emod_eq_of_lt hnonneg (by omega)
      rw [hmod, if_neg (by simp; omega)]

/-- Wrapping gives a word. -/
theorem fits_wrap (hwidth : 0 < width) (i : Int) :
    fits signed width (wrap signed width i) = true := by
  have hpow := two_pow_width hwidth
  have hpos : (0 : Int) < 2 ^ (width - 1) := by positivity
  have hlow : 0 ≤ i % 2 ^ width := Int.emod_nonneg _ (by omega)
  have hhigh : i % 2 ^ width < 2 ^ width := Int.emod_lt_of_pos _ (by omega)
  unfold fits wrap
  simp only [Nat.pow_eq, Nat.cast_pow, Nat.cast_ofNat]
  generalize i % 2 ^ width = r at hlow hhigh ⊢
  cases signed with
  | false => simp [hlow, hhigh]
  | true =>
    by_cases hupper : (2 : Int) ^ (width - 1) ≤ r
    · simp only [hupper, decide_true, Bool.and_self, if_true,
        Bool.and_eq_true, decide_eq_true_eq]
      omega
    · simp only [hupper, decide_false, Bool.and_false, Bool.false_eq_true,
        if_false, if_true, Bool.and_eq_true, decide_eq_true_eq]
      omega

end Words

/-! ## Casts -/

namespace ElementType

/-- Words of the type have bits. -/
def Sized : ElementType → Prop
  | int _ width => 0 < width
  | bool | float _ => True

/-- The number is one that the type has: an integer that a word holds, or a
floating-point number, but of the not-a-numbers only one. -/
def Holds : (t : ElementType) → t.Carrier → Prop
  | bool, _ => True
  | int signed width, i => fits signed width i = true
  | float f, x =>
    Binary.datum (f := f) x = .nan → x = (Binary.nan : Binary f)

variable {s t : ElementType}

theorem holds_zero (ht : t.Sized) : t.Holds t.zero := by
  cases t with
  | bool => trivial
  | int signed width => cases signed <;> simp [Holds, fits, zero]
  | float f =>
    intro h
    exact absurd h (Binary.datum_ofCode_ne_nan (Nat.zero_le _))

theorem holds_cast (ht : t.Sized) (x : s.Carrier) : t.Holds (cast s x t) := by
  cases t with
  | bool => trivial
  | int signed width => exact fits_wrap ht _
  | float f =>
    cases s with
    | bool | int signed width =>
      intro h
      exact absurd h Binary.datum_ofRatio_ne_nan
    | float g => exact Binary.eq_nan_of_datum_ofDatum

/-- A number that the type has is left alone by a cast to the type. -/
theorem cast_self (ht : t.Sized) {x : t.Carrier} (h : t.Holds x) :
    cast t x t = x := by
  cases t with
  | bool => rfl
  | int signed width => exact wrap_of_fits ht h
  | float f =>
    show Binary.ofDatum (Binary.datum (f := f) x) = x
    by_cases hnan : Binary.datum (f := f) x = .nan
    · rw [hnan, h hnan]
      rfl
    · exact Binary.ofDatum_datum hnan

end ElementType

namespace Array

/-- The array has as many numbers as its lengths say. -/
def Full (a : Array) : Prop :=
  a.data.length = a.shape.foldr (· * ·) 1

/-- An array is as its type and its lengths say. -/
structure Regular (a : Array) : Prop where
  full : a.Full
  holds : ∀ x ∈ a.data, a.element.Holds x

theorem zeros_regular {t : ElementType} (ht : t.Sized) (shape : List Nat) :
    (zeros t shape).Regular where
  full := List.length_replicate
  holds := by
    intro x hx
    rw [List.eq_of_mem_replicate hx]
    exact t.holds_zero ht

/-- A cast to the type that the numbers of an array have changes none of
them. -/
theorem cast_data_self {a : Array} (ht : a.element.Sized)
    (h : ∀ x ∈ a.data, a.element.Holds x) :
    a.data.map (fun x => Number.cast a.element x a.element) = a.data := by
  have hmap := List.map_congr_left fun x hx =>
    ElementType.cast_self ht (h x hx)
  rw [hmap, List.map_id']

end Array

end ShaderBindings.Number
