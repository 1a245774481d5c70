import LiveBoard.Proofs.Json.Numeral
import LiveBoard.Toml.Numeral

/-!
# Integers that are read back

An integer that is not negative is written in its decimal digits. They are read digit by digit, no
underscore and no superfluous zero gets in the way, and the number has to fit 64 bits with a sign.

## Main results

* `Toml.integer?_toDigits`: an integer is read as it was written.
* `Toml.lt_of_integer?`: no other integer is ever read.
-/

namespace LiveBoard.Toml

variable {c : Char} {cs : List Char}

/-! ### Digits -/

theorem digitValue_of_isDigit (h : c.isDigit = true) : digitValue c = c.toNat - '0'.toNat :=
  if_pos h

theorem digitValue_lt_of_isDigit (h : c.isDigit = true) : digitValue c < 10 := by
  have hc : c.toNat ≤ 57 := (Char.isDigit_iff_toNat.mp h).2
  rw [digitValue_of_isDigit h]
  exact Nat.sub_lt_left_of_lt_add (Char.isDigit_iff_toNat.mp h).1 (Nat.lt_succ_of_le hc)

theorem eq_zero_of_digitValue_eq_zero (h : c.isDigit = true) (hzero : digitValue c = 0) :
    c = '0' := by
  rw [digitValue_of_isDigit h] at hzero
  exact Char.toNat_inj.mp (Nat.le_antisymm (Nat.sub_eq_zero_iff_le.mp hzero)
    (Char.isDigit_iff_toNat.mp h).1)

/-- Digits without underscores are taken one by one. -/
theorem digits?_eq (hne : cs ≠ []) (h : ∀ c ∈ cs, c.isDigit = true) :
    digits? 10 cs = some (cs.map digitValue) := by
  induction cs with
  | nil => exact absurd rfl hne
  | cons c cs ih =>
    obtain ⟨hc, hcs⟩ := List.forall_mem_cons.mp h
    have hlt := digitValue_lt_of_isDigit hc
    match cs, hcs, ih with
    | [], _, _ => rw [digits?, if_pos hlt]; rfl
    | d :: ds, hcs, ih =>
      have hd : d ≠ '_' := by
        rintro rfl
        exact absurd (hcs '_' List.mem_cons_self) (by decide)
      rw [digits?, if_pos hlt, ih (List.cons_ne_nil _ _) hcs]
      · rfl
      all_goals simp_all

theorem number_map_digitValue (h : ∀ c ∈ cs, c.isDigit = true) :
    number 10 (cs.map digitValue) = Nat.ofDigitChars 10 cs 0 := by
  rw [number, List.foldl_map, Nat.ofDigitChars]
  exact List.foldl_ext _ _ _ fun n c hc => by rw [digitValue_of_isDigit (h c hc)]

theorem wholeDigits?_toDigits (n : Nat) :
    wholeDigits? (Nat.toDigits 10 n) = some ((Nat.toDigits 10 n).map digitValue) := by
  have hdigit : ∀ c ∈ Nat.toDigits 10 n, c.isDigit = true := fun _ => Json.isDigit_of_mem_toDigits
  rw [wholeDigits?, digits?_eq Nat.toDigits_ne_nil hdigit]
  split
  · next d ds hdigits =>
    obtain ⟨c, cs, hcs, hzero, htail⟩ := List.map_eq_cons_iff.mp (Option.some.inj hdigits)
    obtain rfl := eq_zero_of_digitValue_eq_zero (hdigit c (hcs ▸ List.mem_cons_self)) hzero
    rw [Json.toDigits_eq_cons_zero hcs] at htail
    cases htail
  · rfl

theorem within64_natCast {n : Nat} (h : n < Nat.pow 2 63) : within64 n = some (n : Int) := by
  have hleast : -Int.ofNat (Nat.pow 2 63) ≤ (n : Int) :=
    Int.le_trans (Int.neg_nonpos_of_nonneg (Int.natCast_nonneg _)) (Int.natCast_nonneg n)
  have hmost : (n : Int) < Int.ofNat (Nat.pow 2 63) := Int.ofNat_lt.mpr h
  rw [within64, if_pos ⟨hleast, hmost⟩]

/-- Digits without a sign and without a base are decimal. -/
theorem integer?_eq (hsign : splitSign cs = (false, cs)) (hbase : ∀ c ds, cs ≠ '0' :: c :: ds) :
    integer? cs = (wholeDigits? cs).bind fun ds => within64 (number 10 ds) := by
  rw [integer?, hsign]
  · simp only [Bool.false_eq_true, if_false]
  · exact hbase 'x'
  · exact hbase 'o'
  · exact hbase 'b'

/-- **An integer is read as it was written**, if it fits. -/
theorem integer?_toDigits {n : Nat} (h : n < Nat.pow 2 63) :
    integer? (Nat.toDigits 10 n) = some (n : Int) := by
  have hdigit : ∀ c ∈ Nat.toDigits 10 n, c.isDigit = true := fun _ => Json.isDigit_of_mem_toDigits
  have hsign : splitSign (Nat.toDigits 10 n) = (false, Nat.toDigits 10 n) := by
    rw [splitSign]
    · exact fun cs hcs => absurd (hdigit '-' (hcs ▸ List.mem_cons_self)) (by decide)
    · exact fun cs hcs => absurd (hdigit '+' (hcs ▸ List.mem_cons_self)) (by decide)
  have hbase (c : Char) (ds : List Char) : Nat.toDigits 10 n ≠ '0' :: c :: ds :=
    fun hcs => List.cons_ne_nil c ds (Json.toDigits_eq_cons_zero hcs)
  rw [integer?_eq hsign hbase, wholeDigits?_toDigits, Option.bind_some,
    number_map_digitValue hdigit, Nat.ofDigitChars_ten_toDigits, within64_natCast h]

/-! ### What an integer can be -/

theorem lt_of_within64 {m n : Int} (h : within64 m = some n) : n < Int.ofNat (Nat.pow 2 63) := by
  rw [within64] at h
  split at h
  · next hwithin =>
    cases h
    exact hwithin.2
  · cases h

/-- **An integer has at most 64 bits** with its sign. -/
theorem lt_of_integer? {n : Int} (h : integer? cs = some n) : n < Int.ofNat (Nat.pow 2 63) := by
  rw [integer?.eq_def] at h
  split at h <;> obtain ⟨ds, -, hds⟩ := Option.bind_eq_some_iff.mp h <;> exact lt_of_within64 hds

end LiveBoard.Toml
