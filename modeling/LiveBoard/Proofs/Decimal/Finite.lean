import LiveBoard.Decimal.Double
import Mathlib.Algebra.Ring.Int.Defs
import Mathlib.Algebra.Ring.Nat

/-!
# Decimals stand for finite doubles

A decimal is read by scaling an integer of at most 64 bits with powers of ten, and every step
rounds. Upwards the result is checked, downwards it is not. Either way the double that comes of it
is finite: a product of finite doubles is no NaN, and a quotient by a power of ten stays below its
dividend.

Doubles are computed on significands and exponents, and rounding moves the leading digit up by one
place at most. So it is enough to follow the exponents, and the double is finite as long as its
exponent is at most 971.

## Main definitions

* `ExponentLE`, `HasExponentLE`: a finite number, and a finite double, whose exponent is bounded.

## Main results

* `roundWithAccuracy_cases`, `pack_finite`, `unpack_cases`: what is rounded, packed and unpacked.
* `exponentLE_roundWithAccuracy`: the exponent of a rounded number.
* `HasExponentLE.mul`, `HasExponentLE.div`, `hasExponentLE_ofNat`: the exponents of results.
* `isFinite_div`: a double divided by a power of ten stays finite.
* `isFinite_scaled`: a decimal stands for a finite double.
-/

namespace LiveBoard.Decimal

open Float.Model Float.Model.UnpackedFloat

/-- The number is finite and its exponent is at most `k`. -/
def ExponentLE (k : Int) : UnpackedFloat → Prop
  | .zero _ => True
  | .finite _ _ e _ => e ≤ k
  | .infinity _ => False
  | .notANumber => False

instance (k : Int) : ∀ f : UnpackedFloat, Decidable (ExponentLE k f)
  | .zero _ => .isTrue trivial
  | .finite _ _ e _ => inferInstanceAs (Decidable (e ≤ k))
  | .infinity _ => .isFalse id
  | .notANumber => .isFalse id

theorem exponentLE_finite {k : Int} {s : Sign} {m : Nat} {e : Int} {h : 0 < m} :
    ExponentLE k (.finite s m e h) ↔ e ≤ k :=
  Iff.rfl

/-- A finite number is a zero, or has a significand and an exponent. -/
theorem eq_zero_or_eq_finite {f : UnpackedFloat} (h : UnpackedFloat.isFinite f = true) :
    (∃ s, f = .zero s) ∨ ∃ s m e hm, f = .finite s m e hm := by
  cases f with
  | infinity s => cases h
  | notANumber => cases h
  | zero s => exact .inl ⟨s, rfl⟩
  | finite s m e hm => exact .inr ⟨s, m, e, hm, rfl⟩

theorem targetExponent_eq (e : Int) : Format.binary64.targetExponent e = max (e - 53) (-1074) := rfl

theorem ExponentLE.isFinite {k : Int} {f : UnpackedFloat} (h : ExponentLE k f) :
    UnpackedFloat.isFinite f = true := by
  cases f with
  | infinity s => exact h.elim
  | notANumber => exact h.elim
  | zero s => rfl
  | finite s m e hm => rfl

/-! ### Rounding -/

theorem mantissa_shiftRight (em : ExtendedMantissa) (n : Nat) :
    (em >>> n).mantissa = em.mantissa / 2 ^ n := by
  induction n with
  | zero => exact (Nat.div_one _).symm
  | succ n ih =>
    have hstep : (em >>> (n + 1)).mantissa = (em >>> n).mantissa / 2 := rfl
    rw [hstep, ih, Nat.div_div_eq_div_mul, Nat.pow_succ]

theorem mantissa_ofMantissaAndAccuracy_shiftRight (m : Nat) (a : Accuracy) (n : Nat) :
    (ExtendedMantissa.ofMantissaAndAccuracy m a >>> n).mantissa = m / 2 ^ n := by
  have hmantissa : (ExtendedMantissa.ofMantissaAndAccuracy m a).mantissa = m := by
    rcases a with _ | (_ | _ | _) <;> rfl
  rw [mantissa_shiftRight, hmantissa]

theorem le_roundedMantissa (em : ExtendedMantissa) : em.mantissa ≤ em.roundedMantissa := by
  rcases em with ⟨m, _ | _, _ | _⟩ <;> simp [ExtendedMantissa.roundedMantissa,
    ExtendedMantissa.accuracy, Accuracy.roundToNearestEven]

theorem roundedMantissa_le (em : ExtendedMantissa) : em.roundedMantissa ≤ em.mantissa + 1 := by
  rcases em with ⟨m, _ | _, _ | _⟩ <;> simp [ExtendedMantissa.roundedMantissa,
    ExtendedMantissa.accuracy, Accuracy.roundToNearestEven]
  omega

theorem log2_le_of_lt_two_pow {m k : Nat} (h : m < 2 ^ (k + 1)) : m.log2 ≤ k := by
  rcases Nat.eq_zero_or_pos m with rfl | hm
  · exact Nat.zero_le _
  · exact Nat.le_of_lt_succ ((Nat.log2_lt (Nat.ne_of_gt hm)).mpr h)

/-- The digits of a shifted and rounded significand. -/
theorem log2_le_of_le_div_add_one {m r k : Nat} (h : r ≤ m / 2 ^ k + 1) :
    r.log2 ≤ m.log2 + 1 - k := by
  have hm : m < 2 ^ (m.log2 + 1) := Nat.lt_log2_self
  rcases Nat.lt_or_ge (m.log2 + 1) k with hk | hk
  · have hzero : m / 2 ^ k = 0 :=
      Nat.div_eq_of_lt (Nat.lt_of_lt_of_le hm (Nat.pow_le_pow_right (by decide) (by omega)))
    rw [hzero] at h
    exact log2_le_of_lt_two_pow (Nat.lt_of_le_of_lt h (by simp))
  · have hdiv : m / 2 ^ k < 2 ^ (m.log2 + 1 - k) := by
      refine Nat.div_lt_of_lt_mul ?_
      rwa [← Nat.pow_add, Nat.add_sub_cancel' hk]
    refine log2_le_of_lt_two_pow (Nat.lt_of_le_of_lt (Nat.le_trans h hdiv) ?_)
    exact Nat.pow_lt_pow_right (by decide) (Nat.lt_succ_self _)

/-- The significand after the shift to the target exponent, with its residual bits. -/
theorem shiftToTargetExponent_eq (m : Nat) (e : Int) (a : Accuracy) :
    shiftToTargetExponent Format.binary64 m e a =
      (ExtendedMantissa.ofMantissaAndAccuracy m a >>>
        (max (totalExponent m e - 53) (-1074) - e).toNat,
        e + (max (totalExponent m e - 53) (-1074) - e).toNat) := rfl

/-- What is rounded, with the places of the shift and the significand that rounding leaves. It is
shifted again, as the rounding may have carried, and it is a zero if nothing is left of it. -/
theorem roundWithAccuracy_cases (s : Sign) (m : Nat) (e : Int) (a : Accuracy) :
    ∃ n r : Nat, n = (max (totalExponent m e - 53) (-1074) - e).toNat ∧
      m / 2 ^ n ≤ r ∧ r ≤ m / 2 ^ n + 1 ∧
      ((shiftToTargetExponent Format.binary64 r (e + n) .exact).1.mantissa = 0 ∧
          roundWithAccuracy Format.binary64 s m e a = .zero s ∨
        ∃ h, roundWithAccuracy Format.binary64 s m e a =
          .finite s (shiftToTargetExponent Format.binary64 r (e + n) .exact).1.mantissa
            (shiftToTargetExponent Format.binary64 r (e + n) .exact).2 h) := by
  obtain ⟨n, hn⟩ : ∃ n, n = (max (totalExponent m e - 53) (-1074) - e).toNat := ⟨_, rfl⟩
  obtain ⟨r, hr⟩ : ∃ r, r = (ExtendedMantissa.ofMantissaAndAccuracy m a >>> n).roundedMantissa :=
    ⟨_, rfl⟩
  have hmantissa := mantissa_ofMantissaAndAccuracy_shiftRight m a n
  refine ⟨n, r, hn, ?_, ?_, ?_⟩
  · rw [← hmantissa, hr]
    exact le_roundedMantissa _
  · rw [← hmantissa, hr]
    exact roundedMantissa_le _
  · subst hr hn
    exact (Nat.eq_zero_or_pos _).imp (fun hzero => ⟨hzero, dif_pos hzero⟩)
      fun hpos => ⟨hpos, dif_neg (Nat.ne_of_gt hpos)⟩

/-- What is rounded stays finite. -/
theorem isFinite_roundWithAccuracy (s : Sign) (m : Nat) (e : Int) (a : Accuracy) :
    UnpackedFloat.isFinite (roundWithAccuracy Format.binary64 s m e a) = true := by
  obtain ⟨n, r, -, -, -, ⟨-, h⟩ | ⟨hpos, h⟩⟩ := roundWithAccuracy_cases s m e a <;>
    rw [h] <;> rfl

/-- Rounding moves the leading digit up by one place at most. -/
theorem exponentLE_roundWithAccuracy {k : Int} (hk : -1074 ≤ k) (s : Sign) {m : Nat} {e : Int}
    (a : Accuracy) (he : e ≤ k) (hm : totalExponent m e ≤ k + 52) :
    ExponentLE k (roundWithAccuracy Format.binary64 s m e a) := by
  obtain ⟨n, r, hn, -, hle, ⟨-, h⟩ | ⟨hpos, h⟩⟩ := roundWithAccuracy_cases s m e a
  · rw [h]
    trivial
  · have hlog := log2_le_of_le_div_add_one hle
    rw [h, exponentLE_finite, shiftToTargetExponent_eq]
    simp only [totalExponent] at hm hn ⊢
    omega

theorem lt_two_pow_shiftLeft (m n : Nat) : m <<< n < 2 ^ (m.log2 + 1 + n) := by
  rw [Nat.shiftLeft_eq, Nat.pow_add]
  exact Nat.mul_lt_mul_of_pos_right Nat.lt_log2_self (Nat.two_pow_pos n)

theorem log2_shiftLeft_le (m n : Nat) : (m <<< n).log2 ≤ m.log2 + n :=
  log2_le_of_lt_two_pow (by
    have hlt := lt_two_pow_shiftLeft m n
    rwa [Nat.add_right_comm] at hlt)

/-- A number that may be shifted both ways is rounded no further than the place of its leading
digit. -/
theorem exponentLE_round {k : Int} (hk : -1074 ≤ k) (s : Sign) {m : Nat} {e : Int}
    (hm : totalExponent m e ≤ k + 52) :
    ExponentLE k (UnpackedFloat.round Format.binary64 s m e) := by
  rw [UnpackedFloat.round, targetExponent_eq, decreaseExponent]
  dsimp only
  obtain ⟨n, hn⟩ : ∃ n, n = (e - max (totalExponent m e - 53) (-1074)).toNat := ⟨_, rfl⟩
  rw [← hn]
  have hlog := log2_shiftLeft_le m n
  refine exponentLE_roundWithAccuracy hk s .exact (by omega) ?_
  simp only [totalExponent] at hm hn ⊢
  omega

/-- A significand that has 53 digits, but for a carry, is left with exactly 53. -/
theorem log2_shiftToTargetExponent {m : Nat} {e : Int} (hm : m.log2 = 52 ∨ m = 2 ^ 53)
    (he : -1074 ≤ e) :
    (shiftToTargetExponent Format.binary64 m e .exact).1.mantissa.log2 = 52 ∧
      e ≤ (shiftToTargetExponent Format.binary64 m e .exact).2 := by
  rw [shiftToTargetExponent_eq]
  refine ⟨?_, by dsimp only; omega⟩
  rw [mantissa_ofMantissaAndAccuracy_shiftRight]
  rcases hm with hm | rfl
  · have hshift : (max (totalExponent m e - 53) (-1074) - e).toNat = 0 := by
      simp only [totalExponent, hm]
      omega
    rw [hshift, Nat.pow_zero, Nat.div_one, hm]
  · have hshift : (max (totalExponent (2 ^ 53) e - 53) (-1074) - e).toNat = 1 := by
      simp only [totalExponent, Nat.log2_two_pow]
      omega
    rw [hshift]
    rfl

/-- A significand of at least 53 digits is rounded to one of exactly 53, and its leading digit
stays in its place or moves up. -/
theorem roundWithAccuracy_of_le_log2 (s : Sign) {m : Nat} {e : Int} (a : Accuracy)
    (hm : 52 ≤ m.log2) (he : -1022 ≤ m.log2 + e) :
    ∃ m' e' h, roundWithAccuracy Format.binary64 s m e a = .finite s m' e' h ∧ m'.log2 = 52 ∧
      m.log2 + e ≤ 52 + e' := by
  have hpos : m ≠ 0 := by
    rintro rfl
    simp at hm
  obtain ⟨n, r, hn, hge, hle, hround⟩ := roundWithAccuracy_cases s m e a
  obtain rfl : n = m.log2 - 52 := by
    simp only [totalExponent] at hn
    omega
  -- the first shift leaves 53 digits, and rounding may carry into one more
  have hlow : 2 ^ 52 ≤ m / 2 ^ (m.log2 - 52) := by
    rw [Nat.le_div_iff_mul_le (Nat.two_pow_pos _), ← Nat.pow_add, Nat.add_sub_cancel' hm]
    exact Nat.log2_self_le hpos
  have hhigh : m / 2 ^ (m.log2 - 52) < 2 ^ 53 := by
    refine Nat.div_lt_of_lt_mul ?_
    rw [← Nat.pow_add, show m.log2 - 52 + 53 = m.log2 + 1 by omega]
    exact Nat.lt_log2_self
  have hr : r.log2 = 52 ∨ r = 2 ^ 53 := by
    rcases Nat.lt_or_ge r (2 ^ 53) with hlt | hge
    · exact .inl ((Nat.log2_eq_iff (by omega)).mpr ⟨by omega, hlt⟩)
    · exact .inr (by omega)
  obtain ⟨hlog, hexponent⟩ :=
    log2_shiftToTargetExponent (e := e + (m.log2 - 52 : Nat)) hr (by omega)
  rcases hround with ⟨hzero, -⟩ | ⟨hpos, hround⟩
  · rw [hzero] at hlog
    exact absurd hlog (by decide)
  · exact ⟨_, _, hpos, hround, hlog, by omega⟩

/-! ### Packing -/

/-- What is too great is packed as an infinity, what has less than 53 digits without an exponent. -/
theorem pack_finite (s : Sign) {m : Nat} (e : Int) (h : 0 < m) :
    UnpackedFloat.pack Format.binary64 (.finite s m e h) =
      if 2 ^ 11 ≤ (e + 1023 + 52).toNat + 1 then packedInfinity Format.binary64 s
      else if m.log2 + 1 = 53 then
        packComponents Format.binary64 s (BitVec.ofNat 11 (e + 1023 + 52).toNat) (BitVec.ofNat 52 m)
      else packComponents Format.binary64 s 0#11 (BitVec.ofNat 52 m) := rfl

theorem toNat_pos_of_ne_zero {w : Nat} {m : BitVec w} (h : m ≠ 0#w) : 0 < m.toNat :=
  Nat.pos_of_ne_zero fun hzero => h (BitVec.eq_of_toNat_eq hzero)

/-- The digit in front of the mantissa. -/
theorem two_pow_le_toNat_append (m : BitVec 52) : 2 ^ 52 ≤ (1#1 ++ m).toNat := by
  rw [BitVec.toNat_append]
  exact Nat.left_le_or

/-- What is unpacked, by its exponent: no finite number, a zero or a number without a digit in front
of its mantissa, or one with that digit. -/
theorem unpack_cases (b : BitVec 64) {s : Sign} {e : BitVec 11} {m : BitVec 52}
    (hs : Sign.ofBitVec (@unpackSign Format.binary64 b) = s)
    (he : @unpackExponent Format.binary64 b = e) (hm : @unpackMantissa Format.binary64 b = m) :
    e = -1#11 ∧ UnpackedFloat.isFinite (unpack Format.binary64 b) = false ∨
      e = 0#11 ∧ (unpack Format.binary64 b = .zero s ∨
        ∃ h, unpack Format.binary64 b = .finite s m.toNat (-1074) h) ∨
      e ≠ -1#11 ∧ ∃ h, unpack Format.binary64 b =
        .finite s (1#1 ++ m).toNat (e.toNat - 1075) h := by
  have hone : 0 < (1#1 ++ m).toNat := Nat.lt_of_lt_of_le (by decide) (two_pow_le_toNat_append m)
  have hunpack : unpack Format.binary64 b =
      if e = -1#11 then if m = 0#52 then .infinity s else .notANumber
      else if e = 0#11 then
        if hzero : m = 0#52 then .zero s
        else .finite s m.toNat (e.toNat - 1075 + 1) (toNat_pos_of_ne_zero hzero)
      else .finite s (1#1 ++ m).toNat (e.toNat - 1075) hone := by
    subst he hm hs
    rfl
  rw [hunpack]
  by_cases hnan : e = -1#11
  · rw [if_pos hnan]
    refine .inl ⟨hnan, ?_⟩
    split <;> rfl
  · rw [if_neg hnan]
    by_cases hexponent : e = 0#11
    · rw [if_pos hexponent]
      refine .inr (.inl ⟨hexponent, ?_⟩)
      by_cases hzero : m = 0#52
      · exact .inl (dif_pos hzero)
      · rw [hexponent]
        exact .inr ⟨toNat_pos_of_ne_zero hzero, dif_neg hzero⟩
    · exact .inr (.inr ⟨hnan, hone, if_neg hexponent⟩)

/-- What is packed keeps its sign. -/
theorem sign_packComponents (s : Sign) (e : BitVec 11) (m : BitVec 52) :
    Sign.ofBitVec (@unpackSign Format.binary64 (packComponents Format.binary64 s e m)) = s := by
  have hlow : 52 ≤ 52 + 11 := by decide
  have hbit : @unpackSign Format.binary64 (packComponents Format.binary64 s e m) =
      (s.toBitVec ++ e ++ m).extractLsb' 63 1 := rfl
  rw [hbit, BitVec.extractLsb'_append_eq_of_le hlow,
    BitVec.extractLsb'_append_eq_of_le (Nat.le_refl 11)]
  cases s <;> rfl

theorem exponentLE_unpack_packComponents {k : Int} (hk : -1074 ≤ k) (s : Sign) {e : BitVec 11}
    (m : BitVec 52) (he : e.toNat < 2047) (hek : e.toNat - 1075 ≤ k) :
    ExponentLE k (unpack Format.binary64 (packComponents Format.binary64 s e m)) := by
  have hne : e ≠ -1#11 := by
    rintro rfl
    exact absurd he (by decide)
  rcases unpack_cases (packComponents Format.binary64 s e m) (sign_packComponents s e m)
      unpackExponent_packComponents unpackMantissa_packComponents
    with ⟨heq, -⟩ | ⟨-, h | ⟨hpos, h⟩⟩ | ⟨-, hpos, h⟩
  · exact absurd heq hne
  · rw [h]
    trivial
  · rw [h]
    exact hk
  · rw [h]
    exact hek

/-- A packed number keeps its bound, unless that is beyond what a double can hold. -/
theorem exponentLE_unpack_pack {k : Int} (hk : -1074 ≤ k) (hmax : k ≤ 971)
    {f : UnpackedFloat} (hf : ExponentLE k f) :
    ExponentLE k (unpack Format.binary64 (pack Format.binary64 f)) := by
  have hzero : ((0 : BitVec 11).toNat : Int) - 1075 ≤ k := Int.le_trans (by decide) hk
  cases f with
  | infinity s => exact hf.elim
  | notANumber => exact hf.elim
  | zero s => exact exponentLE_unpack_packComponents hk s 0 (by decide) hzero
  | finite s m e hm =>
    rw [exponentLE_finite] at hf
    rw [pack_finite, if_neg (by omega)]
    split
    · have hb : (BitVec.ofNat 11 (e + 1023 + 52).toNat).toNat = (e + 1023 + 52).toNat := by
        rw [BitVec.toNat_ofNat]
        omega
      exact exponentLE_unpack_packComponents hk s _ (by omega) (by omega)
    · exact exponentLE_unpack_packComponents hk s _ (by decide) hzero

/-- The bounds of what can be unpacked. -/
theorem unpack_eq_finite {b : BitVec 64} {s : Sign} {m : Nat} {e : Int} {h : 0 < m}
    (hb : UnpackedFloat.unpack Format.binary64 b = .finite s m e h) : m < 2 ^ 53 ∧ e ≤ 971 := by
  rcases unpack_cases b rfl rfl rfl
    with ⟨-, heq⟩ | ⟨-, heq | ⟨hpos, heq⟩⟩ | ⟨hne, hpos, heq⟩
  · rw [hb] at heq
    cases heq
  · rw [hb] at heq
    cases heq
  · rw [hb] at heq
    cases heq
    exact ⟨Nat.lt_trans (BitVec.isLt _) (by decide), by decide⟩
  · rw [hb] at heq
    cases heq
    have hlt : (@unpackExponent Format.binary64 b).toNat < 2048 := BitVec.isLt _
    have hne' : (@unpackExponent Format.binary64 b).toNat ≠ 2047 :=
      fun heq => hne (BitVec.eq_of_toNat_eq heq)
    exact ⟨BitVec.isLt _, by omega⟩

/-! ### Doubles -/

/-- The double is finite and its exponent is at most `k`. -/
def HasExponentLE (k : Int) (x : Float) : Prop := ExponentLE k x.toModel.unpack

instance (k : Int) (x : Float) : Decidable (HasExponentLE k x) :=
  inferInstanceAs (Decidable (ExponentLE k x.toModel.unpack))

section Float

variable {k : Int} {x y : Float}

theorem hasExponentLE_pack (hk : -1074 ≤ k) (hmax : k ≤ 971) {f : UnpackedFloat}
    (hf : ExponentLE k f) : HasExponentLE k (.ofModel (.pack f)) :=
  exponentLE_unpack_pack hk hmax hf

theorem HasExponentLE.isFinite (h : HasExponentLE k x) : x.isFinite = true := ExponentLE.isFinite h

/-- The greatest exponent of a finite double. -/
theorem hasExponentLE_of_isFinite (hx : x.isFinite = true) : HasExponentLE 971 x := by
  rw [HasExponentLE]
  obtain ⟨s, hx⟩ | ⟨s, m, e, hm, hx⟩ := eq_zero_or_eq_finite hx
  · rw [hx]
    trivial
  · rw [hx]
    exact (unpack_eq_finite hx).2

/-- What is packed within the exponents of a double is a finite double. -/
theorem isFinite_pack {f : UnpackedFloat} (hf : ExponentLE 971 f) :
    (Float.ofModel (.pack f)).isFinite = true :=
  (hasExponentLE_pack (by decide) (by decide) hf).isFinite

theorem isFinite_neg (hx : x.isFinite = true) : (-x).isFinite = true := by
  have hbound := hasExponentLE_of_isFinite hx
  rw [HasExponentLE] at hbound
  have hneg : ExponentLE 971 (UnpackedFloat.neg x.toModel.unpack) := by
    obtain ⟨s, hx⟩ | ⟨s, m, e, hm, hx⟩ := eq_zero_or_eq_finite hx <;> rw [hx] at hbound ⊢ <;>
      exact hbound
  exact isFinite_pack hneg

/-! ### Products -/

/-- A finite number that is packed is a finite double or an infinite one. -/
theorem isFinite_or_isInf_pack {f : UnpackedFloat} (hf : UnpackedFloat.isFinite f = true) :
    (Float.ofModel (.pack f)).isFinite = true ∨ (Float.ofModel (.pack f)).isInf = true := by
  have hfits : ∀ k, -1074 ≤ k → k ≤ 971 → ExponentLE k f →
      (Float.ofModel (.pack f)).isFinite = true :=
    fun k hk hmax h => (hasExponentLE_pack hk hmax h).isFinite
  obtain ⟨s, rfl⟩ | ⟨s, m, e, hm, rfl⟩ := eq_zero_or_eq_finite hf
  · exact .inl (hfits 0 (by decide) (by decide) trivial)
  · rcases Int.lt_or_le 971 e with he | he
    · right
      have hpack : UnpackedFloat.pack Format.binary64 (.finite s m e hm) =
          packedInfinity Format.binary64 s := by
        rw [pack_finite, if_pos (by omega)]
      have hunpack : UnpackedFloat.isInf (UnpackedFloat.unpack Format.binary64
          (UnpackedFloat.pack Format.binary64 (.finite s m e hm))) = true := by
        rw [hpack]
        cases s <;> rfl
      exact hunpack
    · exact .inl (hfits (max e (-1074)) (by omega) (by omega) (show e ≤ max e (-1074) by omega))

/-- A product of finite doubles is no NaN. -/
theorem isFinite_or_isInf_mul (hx : x.isFinite = true) (hy : y.isFinite = true) :
    (x * y).isFinite = true ∨ (x * y).isInf = true := by
  have hmul : UnpackedFloat.isFinite
      (UnpackedFloat.mul Format.binary64 x.toModel.unpack y.toModel.unpack) = true := by
    obtain ⟨s, hx⟩ | ⟨s, m, e, hm, hx⟩ := eq_zero_or_eq_finite hx <;>
      obtain ⟨s', hy⟩ | ⟨s', m', e', hm', hy⟩ := eq_zero_or_eq_finite hy <;> rw [hx, hy]
    · rfl
    · rfl
    · rfl
    · exact isFinite_roundWithAccuracy _ _ _ _
  exact isFinite_or_isInf_pack hmul

/-- The exponent of a product of doubles. -/
theorem HasExponentLE.mul {l j : Int} (hx : HasExponentLE k x) (hy : HasExponentLE l y)
    (h : k + l + 54 ≤ j) (hj : -1074 ≤ j) (hmax : j ≤ 971) : HasExponentLE j (x * y) := by
  have hmul : ExponentLE j (UnpackedFloat.mul Format.binary64 x.toModel.unpack
      y.toModel.unpack) := by
    obtain ⟨s, hx'⟩ | ⟨s, m, e, hm, hx'⟩ := eq_zero_or_eq_finite hx.isFinite <;>
      obtain ⟨s', hy'⟩ | ⟨s', m', e', hm', hy'⟩ := eq_zero_or_eq_finite hy.isFinite <;>
      rw [hx', hy']
    · trivial
    · trivial
    · trivial
    · have he : e ≤ k := by rwa [HasExponentLE, hx'] at hx
      have he' : e' ≤ l := by rwa [HasExponentLE, hy'] at hy
      have hlog : (m * m').log2 ≤ 105 := log2_le_of_lt_two_pow (by
        rw [show 105 + 1 = 53 + 53 from rfl, Nat.pow_add]
        exact Nat.mul_lt_mul'' (unpack_eq_finite hx').1 (unpack_eq_finite hy').1)
      refine exponentLE_roundWithAccuracy hj _ _ (by omega) ?_
      simp only [totalExponent]
      omega
  exact hasExponentLE_pack hj hmax hmul

/-! ### Quotients -/

/-- The digits of a quotient. -/
theorem log2_div_le {m n d : Nat} (hd : 0 < d) : (m <<< n / d).log2 ≤ m.log2 + n - d.log2 := by
  rcases Nat.lt_or_ge (m.log2 + n) d.log2 with hlt | hge
  · have hzero : m <<< n / d = 0 := by
      refine Nat.div_eq_of_lt (Nat.lt_of_lt_of_le (lt_two_pow_shiftLeft m n) ?_)
      exact Nat.le_trans (Nat.pow_le_pow_right (by decide) (by omega))
        (Nat.log2_self_le (Nat.ne_of_gt hd))
    rw [hzero]
    exact Nat.zero_le _
  · refine log2_le_of_lt_two_pow (Nat.div_lt_of_lt_mul (Nat.lt_of_lt_of_le
      (lt_two_pow_shiftLeft m n) ?_))
    calc 2 ^ (m.log2 + 1 + n) = 2 ^ d.log2 * 2 ^ (m.log2 + n - d.log2 + 1) := by
          rw [← Nat.pow_add]
          congr 1
          omega
      _ ≤ d * 2 ^ (m.log2 + n - d.log2 + 1) :=
          Nat.mul_le_mul_right _ (Nat.log2_self_le (Nat.ne_of_gt hd))

/-- The number is finite, and it is not below eight. -/
def IsLarge : UnpackedFloat → Bool
  | .finite _ m e _ => 3 ≤ m.log2 + e
  | _ => false

theorem eq_finite_of_isLarge {f : UnpackedFloat} (h : IsLarge f = true) :
    ∃ s m e hm, f = .finite s m e hm ∧ 3 ≤ m.log2 + e := by
  cases f with
  | infinity s => cases h
  | notANumber => cases h
  | zero s => cases h
  | finite s m e hm => exact ⟨s, m, e, hm, rfl, of_decide_eq_true h⟩

/-- The significands are divided after a shift, and the quotient is rounded. -/
theorem div_finite (s s' : Sign) {m m' : Nat} (e e' : Int) (h : 0 < m) (h' : 0 < m') :
    ∃ (n : Nat) (t : Int) (a : Accuracy),
      t = min (e - e') (max (totalExponent m e - totalExponent m' e' - 53) (-1074)) ∧
      n = (e - e' - t).toNat ∧
      UnpackedFloat.div Format.binary64 (.finite s m e h) (.finite s' m' e' h') =
        roundWithAccuracy Format.binary64 (s / s') (m <<< n / m') t a :=
  ⟨_, _, _, rfl, rfl, rfl⟩

/-- **A quotient by a number that is not below eight** has no greater exponent. -/
theorem HasExponentLE.div (hx : HasExponentLE k x) (hy : IsLarge y.toModel.unpack = true)
    (hk : -1074 ≤ k) (hmax : k ≤ 971) : HasExponentLE k (x / y) := by
  obtain ⟨s, m, e, hm, hy, hlarge⟩ := eq_finite_of_isLarge hy
  have hdiv : ExponentLE k (UnpackedFloat.div Format.binary64 x.toModel.unpack
      y.toModel.unpack) := by
    obtain ⟨s', hx'⟩ | ⟨s', m', e', hm', hx'⟩ := eq_zero_or_eq_finite hx.isFinite
    · rw [hx', hy]
      trivial
    · have he' : e' ≤ k := by rwa [HasExponentLE, hx'] at hx
      have hlog : m'.log2 ≤ 52 := log2_le_of_lt_two_pow (unpack_eq_finite hx').1
      obtain ⟨n, t, a, ht, hn, hdiv⟩ := div_finite s' s e' e hm' hm
      have hquot := log2_div_le (m := m') (n := n) hm
      rw [hx', hy, hdiv]
      simp only [totalExponent] at ht
      refine exponentLE_roundWithAccuracy hk _ _ (by omega) ?_
      simp only [totalExponent]
      omega
  exact hasExponentLE_pack hk hmax hdiv

theorem isFinite_div (hx : x.isFinite = true) (hy : IsLarge y.toModel.unpack = true) :
    (x / y).isFinite = true :=
  ((hasExponentLE_of_isFinite hx).div hy (by decide) (by decide)).isFinite

end Float

/-! ### Powers of ten -/

/-- A number of 53 digits is packed and unpacked without loss of digits. -/
theorem unpack_pack_of_log2 (s : Sign) {m : Nat} {e : Int} (h : 0 < m) (hm : m.log2 = 52)
    (he : -1074 ≤ e) (hmax : e ≤ 971) :
    ∃ m' h', UnpackedFloat.unpack Format.binary64 (UnpackedFloat.pack Format.binary64
      (.finite s m e h)) = .finite s m' e h' ∧ 52 ≤ m'.log2 := by
  obtain ⟨b, hb⟩ : ∃ b, (e + 1023 + 52).toNat = b := ⟨_, rfl⟩
  have hbits : (BitVec.ofNat 11 b).toNat = b := by
    rw [BitVec.toNat_ofNat]
    omega
  have hnan : BitVec.ofNat 11 b ≠ -1#11 := by
    intro heq
    rw [heq, show (-1#11).toNat = 2047 from rfl] at hbits
    omega
  have hsubnormal : BitVec.ofNat 11 b ≠ 0#11 := by
    intro heq
    rw [heq, BitVec.toNat_zero] at hbits
    omega
  have hpack : UnpackedFloat.pack Format.binary64 (.finite s m e h) =
      packComponents Format.binary64 s (BitVec.ofNat 11 b) (BitVec.ofNat 52 m) := by
    rw [pack_finite, hb, if_neg (by omega), if_pos (by omega)]
  have hone := two_pow_le_toNat_append (BitVec.ofNat 52 m)
  rw [hpack]
  rcases unpack_cases (packComponents Format.binary64 s (BitVec.ofNat 11 b) (BitVec.ofNat 52 m))
      (sign_packComponents _ _ _) unpackExponent_packComponents unpackMantissa_packComponents
    with ⟨heq, -⟩ | ⟨heq, -⟩ | ⟨-, hpos, heq⟩
  · exact absurd heq hnan
  · exact absurd heq hsubnormal
  · have hexponent : ((BitVec.ofNat 11 b).toNat : Int) - 1075 = e := by omega
    rw [hexponent] at heq
    exact ⟨_, hpos, heq, (Nat.le_log2 (by omega)).mpr hone⟩

/-- Powers of ten below powers of two, since `10 ^ 59 < 2 ^ 196` and `10 ^ 12 < 2 ^ 40`. -/
theorem ten_pow_lt {n q : Nat} (hq : q ≠ 0) (hn : n ≤ 59 * q + 12) :
    10 ^ n < 2 ^ (196 * q + 40) :=
  calc 10 ^ n ≤ 10 ^ (59 * q + 12) := Nat.pow_le_pow_right (by decide) hn
    _ = (10 ^ 59) ^ q * 10 ^ 12 := by rw [Nat.pow_add, Nat.pow_mul]
    _ < (2 ^ 196) ^ q * 2 ^ 40 :=
        Nat.mul_lt_mul'' (Nat.pow_lt_pow_left (by decide) hq) (by decide)
    _ = 2 ^ (196 * q + 40) := by rw [Nat.pow_add, Nat.pow_mul]

/-- A decimal without a fraction is rounded once. -/
theorem ofScientific_natCast {m n : Nat} (hm : m ≠ 0) (hn : n ≤ 308) :
    UnpackedFloat.ofScientific Format.binary64 m n =
      roundWithAccuracy Format.binary64 .positive (m <<< 53 * 10 ^ n) (-53 + 0) .exact := by
  have hbits : (2 : Int) ^ Format.binary64.exponentBits = 2048 := rfl
  rw [UnpackedFloat.ofScientific, dif_neg hm, hbits, if_neg (by omega), if_neg (by omega),
    if_pos (by omega)]
  rfl

/-- The greater powers of ten are rounded, those before them are tabled. -/
theorem isLarge_powerOfTen_of_rounded {n : Nat} (hlow : 22 < n) (hhigh : n ≤ 307) :
    IsLarge (powerOfTen n).toModel.unpack = true := by
  have hn : powerOfTen n = .ofModel (.ofScientific 1 n) := by
    rw [powerOfTen, Float.ofScientific, dif_neg (by omega)]
    rfl
  have hscientific := ofScientific_natCast Nat.one_ne_zero (Nat.le_succ_of_le hhigh)
  have hdigits : 2 ^ 56 ≤ 1 <<< 53 * 10 ^ n := by
    have hten : 10 ^ 1 ≤ 10 ^ n := Nat.pow_le_pow_right (by decide) (by omega)
    omega
  obtain ⟨k, hk, hpow⟩ : ∃ k ≤ 1020, 10 ^ n < 2 ^ k :=
    ⟨196 * 5 + 40, by decide, ten_pow_lt (by decide) hhigh⟩
  have hlog : (1 <<< 53 * 10 ^ n).log2 ≤ 52 + k := by
    refine log2_le_of_lt_two_pow ?_
    rw [show 52 + k + 1 = 53 + k by omega, Nat.pow_add]
    exact Nat.mul_lt_mul_of_pos_left hpow (by decide)
  generalize 1 <<< 53 * 10 ^ n = m at hscientific hdigits hlog
  have hlog' : 56 ≤ m.log2 := (Nat.le_log2 (by omega)).mpr hdigits
  obtain ⟨m', e, hm', hround, hm52, he⟩ :=
    roundWithAccuracy_of_le_log2 .positive (e := -53 + 0) .exact (m := m) (by omega) (by omega)
  have hexponent : e ≤ 971 := by
    have hbound := exponentLE_roundWithAccuracy (k := 971) (by decide) .positive
      (e := -53 + 0) .exact (m := m) (by decide) (by simp only [totalExponent]; omega)
    rwa [hround] at hbound
  obtain ⟨m'', hm'', hunpack, hlog''⟩ :=
    unpack_pack_of_log2 .positive hm' hm52 (by omega) hexponent
  have hpower : (powerOfTen n).toModel.unpack = .finite .positive m'' e hm'' := by
    rw [hn]
    exact (congrArg (fun f => UnpackedFloat.unpack _ (UnpackedFloat.pack _ f))
      (hscientific.trans hround)).trans hunpack
  rw [hpower]
  exact decide_eq_true (by omega)

/-- All powers of ten but the first are not below eight. -/
theorem isLarge_powerOfTen {n : Nat} (hpos : 0 < n) (hn : n ≤ 308) :
    IsLarge (powerOfTen n).toModel.unpack = true := by
  have hsmall : ∀ n < 23, 0 < n → IsLarge (powerOfTen n).toModel.unpack = true := by
    decide +kernel
  rcases Nat.lt_or_ge 22 n with hlow | hlow
  · rcases Nat.eq_or_lt_of_le hn with rfl | hlt
    · decide +kernel
    · exact isLarge_powerOfTen_of_rounded hlow (by omega)
  · exact hsmall n (by omega) hpos

theorem isFinite_powerOfTen {n : Nat} (hn : n ≤ 308) : (powerOfTen n).isFinite = true := by
  rcases Nat.eq_zero_or_pos n with rfl | hpos
  · decide +kernel
  · obtain ⟨s, m, e, hm, hpower, -⟩ := eq_finite_of_isLarge (isLarge_powerOfTen hpos hn)
    have hfinite : UnpackedFloat.isFinite (powerOfTen n).toModel.unpack = true := by
      rw [hpower]
      rfl
    exact hfinite

/-! ### Integers -/

/-- The exponent of a rounded integer. -/
theorem exponentLE_ofNat {n k : Nat} (hn : n < 2 ^ (52 + k)) :
    ExponentLE k (UnpackedFloat.ofNat Format.binary64 n) := by
  rcases Nat.eq_zero_or_pos n with rfl | hpos
  · trivial
  · have hlog : n.log2 < 52 + k := (Nat.log2_lt (Nat.ne_of_gt hpos)).mpr hn
    rw [UnpackedFloat.ofNat, UnpackedFloat.ofInt, UnpackedFloat.normalize,
      Int.compare_eq_gt.mpr (by omega)]
    dsimp only
    rw [Int.toNat_natCast]
    refine exponentLE_round (by omega) _ ?_
    simp only [totalExponent]
    omega

/-- The exponent of an integer as a double. -/
theorem hasExponentLE_ofNat {n k : Nat} (hk : 3 ≤ k) (hmax : k ≤ 971) (hn : n < 2 ^ (52 + k)) :
    HasExponentLE k (Float.ofNat n) := by
  have hofNat : Float.ofNat n = Float.ofScientific n false 0 := rfl
  rw [hofNat, Float.ofScientific]
  split
  · next hsmall =>
    have hword : n.toUInt64.toNat = n :=
      UInt64.toNat_ofNat_of_lt' (Nat.lt_trans hsmall.1 (by decide))
    have hfloat : HasExponentLE 1 n.toUInt64.toFloat :=
      hasExponentLE_pack (by decide) (by decide) (exponentLE_ofNat (k := 1) (by
        rw [hword]
        exact hsmall.1))
    have hone : HasExponentLE (-52) (Float.ofBits 0x3FF0000000000000) := by decide +kernel
    exact hfloat.mul hone (by omega) (by omega) (by omega)
  · next hlarge =>
    have hpos : n ≠ 0 := by omega
    have hlog : n.log2 < 52 + k := (Nat.log2_lt hpos).mpr hn
    have hshift : (n <<< 53 * 10 ^ 0).log2 ≤ n.log2 + 53 := by
      rw [Nat.pow_zero, Nat.mul_one]
      exact log2_shiftLeft_le n 53
    have hbound : ExponentLE k (UnpackedFloat.ofScientific Format.binary64 n (0 : Nat)) := by
      rw [ofScientific_natCast hpos (Nat.zero_le _)]
      generalize n <<< 53 * 10 ^ 0 = m at hshift ⊢
      refine exponentLE_roundWithAccuracy (by omega) _ _ (by omega) ?_
      simp only [totalExponent]
      omega
    exact hasExponentLE_pack (by omega) (by omega) hbound

/-- An integer of 64 bits is a finite double. -/
theorem isFinite_ofNat {n : Nat} (hn : n < UInt64.size) : (Float.ofNat n).isFinite = true :=
  (hasExponentLE_ofNat (k := 12) (by decide) (by decide) hn).isFinite

theorem isFinite_ofInt {n : Int} (hn : n.natAbs < UInt64.size) :
    (Float.ofInt n).isFinite = true := by
  cases n with
  | ofNat n => exact isFinite_ofNat hn
  | negSucc n => exact isFinite_neg (isFinite_ofNat hn)

/-! ### Decimals -/

theorem isFinite_scaleDown {x : Float} {e : Nat} (hx : x.isFinite = true) (he : 0 < e) :
    (scaleDown x e).isFinite = true := by
  fun_induction scaleDown x e with
  | case1 x e hle => exact isFinite_div hx (isLarge_powerOfTen he hle)
  | case2 x e hgt hzero => exact hx
  | case3 x e hgt hzero ih =>
    exact ih (isFinite_div hx (isLarge_powerOfTen (by decide) (Nat.le_refl 308))) (by omega)

theorem isFinite_scaleUp {x y : Float} {e : Nat} (hx : x.isFinite = true)
    (h : scaleUp x e = some y) : y.isFinite = true := by
  rw [scaleUp] at h
  split at h
  · next hle =>
    dsimp only at h
    split at h
    · cases h
    · next hinf =>
      cases h
      exact (isFinite_or_isInf_mul hx (isFinite_powerOfTen hle)).resolve_right hinf
  · split at h
    · cases h
      exact hx
    · cases h

/-- **A decimal stands for a finite double**, if for any. -/
theorem isFinite_scaled {negative : Bool} {significand : Nat} {exponent : Int} {x : Float}
    (hs : significand < UInt64.size) (h : scaled negative significand exponent = some x) :
    x.isFinite = true := by
  obtain ⟨y, hy, rfl⟩ := Option.map_eq_some_iff.mp h
  have hfinite : y.isFinite = true := by
    split at hy
    · exact isFinite_scaleUp (isFinite_ofNat hs) hy
    · cases hy
      exact isFinite_scaleDown (isFinite_ofNat hs) (by omega)
  split
  · exact isFinite_neg hfinite
  · exact hfinite

end LiveBoard.Decimal
