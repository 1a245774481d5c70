import LiveBoard.Proofs.Decimal.Finite

/-!
# Doubles that are not below zero

A double that is zero, or finite and greater than zero, is added, multiplied and divided without
ever becoming negative. With a bound on the exponents the result is finite as well, and the bound of
the result tells how far below the greatest double it is: a number whose exponent is at most `k` is
below `2 ^ (53 + k)`.

## Main definitions

* `IsUnsigned`: a zero, or a positive finite number.
* `IsUnsignedLE`: a double of this kind whose exponent is bounded.

## Main results

* `isUnsigned_unpack_pack`: packing does not change the sign.
* `IsUnsignedLE.add`, `IsUnsignedLE.mul`, `IsUnsignedLE.div`, `isUnsignedLE_ofNat`: arithmetic.
* `lt_iff`, `IsUnsignedLE.not_lt_zero`: comparison.
* `exponentBits_le`: the bound as one on the bits of the exponent.
-/

namespace LiveBoard.Decimal

open Float.Model Float.Model.UnpackedFloat

/-- The number is a zero, or finite and positive. -/
def IsUnsigned : UnpackedFloat → Prop
  | .zero _ => True
  | .finite s _ _ _ => s = .positive
  | .infinity _ => False
  | .notANumber => False

theorem eq_zero_or_eq_positive {f : UnpackedFloat} (h : IsUnsigned f) :
    (∃ s, f = .zero s) ∨ ∃ m e hm, f = .finite .positive m e hm := by
  cases f with
  | infinity s => exact h.elim
  | notANumber => exact h.elim
  | zero s => exact .inl ⟨s, rfl⟩
  | finite s m e hm =>
    obtain rfl : s = .positive := h
    exact .inr ⟨m, e, hm, rfl⟩

/-! ### Rounding and packing -/

theorem isUnsigned_roundWithAccuracy (m : Nat) (e : Int) (a : Accuracy) :
    IsUnsigned (roundWithAccuracy Format.binary64 .positive m e a) := by
  obtain ⟨n, r, -, -, -, ⟨-, h⟩ | ⟨hpos, h⟩⟩ := roundWithAccuracy_cases .positive m e a
  · rw [h]
    trivial
  · rw [h]
    rfl

theorem isUnsigned_unpack {b : BitVec 64}
    (hs : Sign.ofBitVec (@unpackSign Format.binary64 b) = .positive)
    (hfinite : UnpackedFloat.isFinite (unpack Format.binary64 b) = true) :
    IsUnsigned (unpack Format.binary64 b) := by
  rcases unpack_cases b hs rfl rfl with ⟨-, h⟩ | ⟨-, h | ⟨hpos, h⟩⟩ | ⟨-, hpos, h⟩
  · rw [h] at hfinite
    cases hfinite
  · rw [h]
    trivial
  · rw [h]
    rfl
  · rw [h]
    rfl

/-- **Packing does not change the sign**, as long as the number can be held. -/
theorem isUnsigned_unpack_pack {f : UnpackedFloat} (hf : IsUnsigned f)
    (hfinite : UnpackedFloat.isFinite (unpack Format.binary64 (pack Format.binary64 f)) = true) :
    IsUnsigned (unpack Format.binary64 (pack Format.binary64 f)) := by
  obtain ⟨s, rfl⟩ | ⟨m, e, hm, rfl⟩ := eq_zero_or_eq_positive hf
  · cases s <;> trivial
  · have hsign : ∃ e' m', pack Format.binary64 (.finite .positive m e hm) =
        packComponents Format.binary64 .positive e' m' := by
      rw [pack_finite]
      split
      · exact ⟨_, _, rfl⟩
      · split <;> exact ⟨_, _, rfl⟩
    obtain ⟨e', m', hpack⟩ := hsign
    rw [hpack] at hfinite ⊢
    exact isUnsigned_unpack (sign_packComponents _ _ _) hfinite

/-! ### Arithmetic -/

/-- The double is zero, or finite and positive, and its exponent is at most `k`. -/
structure IsUnsignedLE (k : Int) (x : Float) : Prop where
  exponent : HasExponentLE k x
  unsigned : IsUnsigned x.toModel.unpack

variable {j k l : Int} {x y : Float}

/-- The double as a zero, or a number within the bound. -/
theorem IsUnsignedLE.cases (h : IsUnsignedLE k x) :
    (∃ s, x.toModel.unpack = .zero s) ∨
      ∃ m e hm, m < 2 ^ 53 ∧ e ≤ k ∧ x.toModel.unpack = .finite .positive m e hm := by
  obtain ⟨s, hx⟩ | ⟨m, e, hm, hx⟩ := eq_zero_or_eq_positive h.unsigned
  · exact .inl ⟨s, hx⟩
  · have hbound := h.exponent
    rw [HasExponentLE, hx, exponentLE_finite] at hbound
    exact .inr ⟨m, e, hm, (unpack_eq_finite hx).1, hbound, hx⟩

theorem isUnsignedLE_pack {f : UnpackedFloat} (hf : IsUnsigned f)
    (h : HasExponentLE k (.ofModel (.pack f))) : IsUnsignedLE k (.ofModel (.pack f)) :=
  ⟨h, isUnsigned_unpack_pack hf h.isFinite⟩

theorem IsUnsigned.mul {f g : UnpackedFloat} (hf : IsUnsigned f) (hg : IsUnsigned g) :
    IsUnsigned (UnpackedFloat.mul Format.binary64 f g) := by
  obtain ⟨s, rfl⟩ | ⟨m, e, hm, rfl⟩ := eq_zero_or_eq_positive hf <;>
    obtain ⟨s', rfl⟩ | ⟨m', e', hm', rfl⟩ := eq_zero_or_eq_positive hg
  · trivial
  · trivial
  · trivial
  · exact isUnsigned_roundWithAccuracy _ _ _

theorem IsUnsignedLE.mul (hx : IsUnsignedLE k x) (hy : IsUnsignedLE l y) (h : k + l + 54 ≤ j)
    (hj : -1074 ≤ j) (hmax : j ≤ 971) : IsUnsignedLE j (x * y) :=
  isUnsignedLE_pack (hx.unsigned.mul hy.unsigned) (hx.exponent.mul hy.exponent h hj hmax)

theorem IsUnsignedLE.div (hx : IsUnsignedLE k x) (hy : IsUnsigned y.toModel.unpack)
    (hlarge : IsLarge y.toModel.unpack = true) (hk : -1074 ≤ k) (hmax : k ≤ 971) :
    IsUnsignedLE k (x / y) := by
  have hdiv : IsUnsigned (UnpackedFloat.div Format.binary64 x.toModel.unpack
      y.toModel.unpack) := by
    obtain ⟨s', m', e', hm', hy', -⟩ := eq_finite_of_isLarge hlarge
    rw [hy'] at hy ⊢
    obtain rfl : s' = .positive := hy
    obtain ⟨s, hx⟩ | ⟨m, e, hm, -, -, hx⟩ := hx.cases <;> rw [hx]
    · trivial
    · exact isUnsigned_roundWithAccuracy _ _ _
  exact isUnsignedLE_pack hdiv (hx.exponent.div hlarge hk hmax)

theorem isUnsigned_round (m : Nat) (e : Int) :
    IsUnsigned (UnpackedFloat.round Format.binary64 .positive m e) :=
  isUnsigned_roundWithAccuracy _ _ _

theorem shiftLeft_lt_two_pow {m n i : Nat} (hm : m < 2 ^ 53) (hn : n ≤ i) :
    m <<< n < 2 ^ (53 + i) := by
  rw [Nat.shiftLeft_eq, Nat.pow_add]
  exact Nat.lt_of_lt_of_le (Nat.mul_lt_mul_of_pos_right hm (Nat.two_pow_pos n))
    (Nat.mul_le_mul_left _ (Nat.pow_le_pow_right (by decide) hn))

/-- The digits of a sum. -/
theorem log2_add_le {a b n : Nat} (ha : a < 2 ^ n) (hb : b < 2 ^ n) : (a + b).log2 ≤ n :=
  log2_le_of_lt_two_pow (by
    rw [Nat.pow_succ, Nat.mul_two]
    exact Nat.add_lt_add ha hb)

/-- A positive significand is rounded to a positive number. -/
theorem normalize_natCast {m : Nat} (hm : 0 < m) (e : Int) (s : Sign) :
    UnpackedFloat.normalize Format.binary64 m e s =
      UnpackedFloat.round Format.binary64 .positive m e := by
  rw [UnpackedFloat.normalize, Int.compare_eq_gt.mpr (by omega)]
  rfl

theorem IsUnsignedLE.add (hx : IsUnsignedLE k x) (hy : IsUnsignedLE k y) (hk : -1074 ≤ k)
    (hmax : k + 2 ≤ 971) : IsUnsignedLE (k + 2) (x + y) := by
  have hadd : IsUnsigned (UnpackedFloat.add Format.binary64 x.toModel.unpack
        y.toModel.unpack) ∧
      ExponentLE (k + 2) (UnpackedFloat.add Format.binary64 x.toModel.unpack
        y.toModel.unpack) := by
    obtain ⟨s, hx⟩ | ⟨m, e, hm, hlt, he, hx⟩ := hx.cases <;>
      obtain ⟨s', hy⟩ | ⟨m', e', hm', hlt', he', hy⟩ := hy.cases <;> rw [hx, hy]
    · cases s <;> cases s' <;> exact ⟨trivial, trivial⟩
    · exact ⟨rfl, show e' ≤ k + 2 by omega⟩
    · exact ⟨rfl, show e ≤ k + 2 by omega⟩
    · -- both significands are brought to the smaller exponent
      obtain ⟨n, hn⟩ : ∃ n, n = (e - min e e').toNat := ⟨_, rfl⟩
      obtain ⟨n', hn'⟩ : ∃ n', n' = (e' - min e e').toNat := ⟨_, rfl⟩
      have hsum : UnpackedFloat.add Format.binary64 (.finite .positive m e hm)
          (.finite .positive m' e' hm') =
          UnpackedFloat.normalize Format.binary64 (m <<< n + m' <<< n' : Nat) (min e e')
            .positive := by
        subst hn hn'
        rfl
      have hlog : (m <<< n + m' <<< n').log2 ≤ 53 + max n n' :=
        log2_add_le (shiftLeft_lt_two_pow hlt (Nat.le_max_left n n'))
          (shiftLeft_lt_two_pow hlt' (Nat.le_max_right n n'))
      have hpos : 0 < m <<< n + m' <<< n' := by
        rw [Nat.shiftLeft_eq]
        exact Nat.add_pos_left (Nat.mul_pos hm (Nat.two_pow_pos n)) _
      rw [hsum, normalize_natCast hpos]
      refine ⟨isUnsigned_round _ _, exponentLE_round (by omega) _ ?_⟩
      simp only [totalExponent]
      omega
  exact isUnsignedLE_pack hadd.1 (hasExponentLE_pack (by omega) hmax hadd.2)

theorem isUnsigned_ofNat (n : Nat) : IsUnsigned (UnpackedFloat.ofNat Format.binary64 n) := by
  rcases Nat.eq_zero_or_pos n with rfl | hpos
  · trivial
  · rw [UnpackedFloat.ofNat, UnpackedFloat.ofInt, normalize_natCast hpos]
    exact isUnsigned_round _ _

/-- A natural number is a double that is packed from a number not below zero. -/
theorem exists_pack_ofNat (n : Nat) :
    ∃ f, IsUnsigned f ∧ Float.ofNat n = .ofModel (.pack f) := by
  have hofNat : Float.ofNat n = Float.ofScientific n false 0 := rfl
  rw [hofNat, Float.ofScientific]
  split
  · next hsmall =>
    have hfloat : HasExponentLE 12 n.toUInt64.toFloat :=
      hasExponentLE_pack (by decide) (by decide) (exponentLE_ofNat (k := 12) n.toUInt64.toNat_lt)
    have hone : HasExponentLE (-52) (Float.ofBits 0x3FF0000000000000) := by decide +kernel
    have hword : IsUnsigned n.toUInt64.toFloat.toModel.unpack :=
      (isUnsignedLE_pack (isUnsigned_ofNat _) hfloat).unsigned
    have hbits : IsUnsigned (Float.ofBits 0x3FF0000000000000).toModel.unpack := rfl
    exact ⟨UnpackedFloat.mul Format.binary64 _ _, hword.mul hbits, rfl⟩
  · next hlarge =>
    have hpos : n ≠ 0 := by omega
    refine ⟨UnpackedFloat.ofScientific Format.binary64 n (0 : Nat), ?_, rfl⟩
    rw [ofScientific_natCast hpos (Nat.zero_le _)]
    generalize n <<< 53 * 10 ^ 0 = m
    exact isUnsigned_roundWithAccuracy _ _ _

theorem isUnsignedLE_ofNat {n k : Nat} (hk : 3 ≤ k) (hmax : k ≤ 971) (hn : n < 2 ^ (52 + k)) :
    IsUnsignedLE k (Float.ofNat n) := by
  have hbound := hasExponentLE_ofNat hk hmax hn
  obtain ⟨f, hf, heq⟩ := exists_pack_ofNat n
  rw [heq] at hbound ⊢
  exact isUnsignedLE_pack hf hbound

/-! ### Comparison -/

theorem lt_iff :
    x < y ↔ UnpackedFloat.compare x.toModel.unpack y.toModel.unpack = some .lt := by
  have hmodel : x < y ↔ decide (x.toModel < y.toModel) = true := Iff.rfl
  rw [hmodel, decide_eq_true_iff]
  exact beq_iff_eq

theorem unpack_zero : (0.0 : Float).toModel.unpack = .zero .positive := rfl

theorem unpack_one : (1.0 : Float).toModel.unpack = .finite .positive (2 ^ 52) (-52) (by decide) :=
  rfl

/-- Positive numbers are compared by their exponents first. -/
theorem compare_positive {m m' : Nat} {e e' : Int} (hm : 0 < m) (hm' : 0 < m') :
    UnpackedFloat.compare (.finite .positive m e hm) (.finite .positive m' e' hm') =
      some ((compare e e').then (compare m m')) := rfl

theorem IsUnsignedLE.not_lt_zero (h : IsUnsignedLE k x) : ¬x < 0.0 := by
  rw [lt_iff, unpack_zero]
  obtain ⟨s, hx⟩ | ⟨m, e, hm, -, -, hx⟩ := h.cases <;> rw [hx] <;> exact fun hlt => nomatch hlt

/-- **A double between zero and one.** -/
theorem isUnsignedLE_of_not_lt (hx : x.isFinite = true) (hzero : ¬x < 0.0) (hone : ¬1.0 < x) :
    IsUnsignedLE (-52) x := by
  rw [lt_iff, unpack_zero] at hzero
  rw [lt_iff, unpack_one] at hone
  obtain ⟨s, hx⟩ | ⟨s, m, e, hm, hx⟩ := eq_zero_or_eq_finite hx
  · refine ⟨?_, ?_⟩
    · rw [HasExponentLE, hx]
      trivial
    · rw [hx]
      trivial
  · rw [hx] at hzero hone
    cases s with
    | negative => exact absurd rfl hzero
    | positive =>
      have he : e ≤ -52 := by
        by_contra hgreater
        refine hone ?_
        rw [compare_positive, Int.compare_eq_lt.mpr (by omega)]
        rfl
      refine ⟨?_, ?_⟩
      · rw [HasExponentLE, hx]
        exact he
      · rw [hx]
        rfl

/-! ### Bits -/

/-- The bits of the exponent. -/
theorem toNat_unpackExponent (b : BitVec 64) :
    (@unpackExponent Format.binary64 b).toNat = b.toNat % Nat.pow 2 63 / Nat.pow 2 52 := by
  have hbits : (@unpackExponent Format.binary64 b).toNat = b.toNat >>> 52 % 2 ^ 11 := rfl
  rw [hbits, Nat.shiftRight_eq_div_pow, ← Nat.mod_mul_right_div_self]
  rfl

/-- **The bound as one on the bits** of the exponent. -/
theorem exponentBits_le (hk : -1074 ≤ k) (hx : HasExponentLE k x) :
    ((x.toBits.toNat % Nat.pow 2 63 / Nat.pow 2 52 : Nat) : Int) ≤ k + 1075 := by
  have hbits := toNat_unpackExponent x.toBits.toBitVec
  rw [UInt64.toNat_toBitVec] at hbits
  rw [← hbits]
  have hunpack : x.toModel.unpack = unpack Format.binary64 x.toBits.toBitVec := rfl
  rw [HasExponentLE, hunpack] at hx
  rcases unpack_cases x.toBits.toBitVec rfl rfl rfl
    with ⟨-, h⟩ | ⟨hzero, -⟩ | ⟨-, hpos, h⟩
  · rw [hx.isFinite] at h
    cases h
  · rw [hzero, BitVec.toNat_zero]
    omega
  · rw [h, exponentLE_finite] at hx
    omega

end LiveBoard.Decimal
