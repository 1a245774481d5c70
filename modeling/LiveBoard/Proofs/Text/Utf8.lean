import LiveBoard.Text.Utf8

/-!
# Text read back from its bytes

The bytes of a text are UTF-8, and the text of them is the one that they were made of. Every
character is read on its own: its first byte tells how many follow, and bounds the second one. The
bounds exclude what no character has, bytes that are longer than needed and surrogates.

## Main results

* `Utf8.step_encodeChar`: a character is read from its bytes.
* `Utf8.decode?_encode`: a text is read back from its bytes.
-/

namespace LiveBoard.Utf8

theorem toNat_toUInt8 {n : Nat} (h : n < 256) : n.toUInt8.toNat = n := by
  rw [Nat.toUInt8, UInt8.toNat_ofNat', Nat.mod_eq_of_lt h]

/-- The numbers of characters. -/
theorem toNat_valid (c : Char) : c.toNat < 0xD800 ∨ 0xDFFF < c.toNat ∧ c.toNat < 0x110000 := c.valid

/-! ### First bytes -/

section Lead

variable {b : UInt8}

theorem lead?_one (h : b.toNat < 0x80) : lead? b = some (0, 0x80, 0xBF) := by
  simp [lead?, h]

theorem lead?_two (hlow : 0xC2 ≤ b.toNat) (hhigh : b.toNat < 0xE0) :
    lead? b = some (1, 0x80, 0xBF) := by
  simp only [lead?]
  grind

theorem lead?_three (hlow : 0xE0 ≤ b.toNat) (hhigh : b.toNat < 0xF0) :
    lead? b = some (2, if b.toNat = 0xE0 then 0xA0 else 0x80,
      if b.toNat = 0xED then 0x9F else 0xBF) := by
  simp only [lead?]
  grind

theorem lead?_four (hlow : 0xF0 ≤ b.toNat) (hhigh : b.toNat < 0xF5) :
    lead? b = some (3, if b.toNat = 0xF0 then 0x90 else 0x80,
      if b.toNat = 0xF4 then 0x8F else 0xBF) := by
  simp only [lead?]
  grind

end Lead

/-! ### Characters -/

section Step

variable {b b₁ b₂ b₃ : UInt8} {low high : Nat}

theorem step_one (hb : lead? b = some (0, low, high)) (rest : List UInt8) :
    step b rest = (some (Char.ofNat b.toNat), 1) := by
  simp [step, hb]

theorem step_two (hb : lead? b = some (1, low, high)) (hlow : low ≤ b₁.toNat)
    (hhigh : b₁.toNat ≤ high) (rest : List UInt8) :
    step b (b₁ :: rest) =
      (some (Char.ofNat ((b.toNat - 0xC0) * 0x40 + payload b₁)), 2) := by
  simp [step, hb, Nat.not_lt.mpr hlow, Nat.not_lt.mpr hhigh]

theorem step_three (hb : lead? b = some (2, low, high)) (hlow : low ≤ b₁.toNat)
    (hhigh : b₁.toNat ≤ high) (h₂ : isContinuation b₂ = true) (rest : List UInt8) :
    step b (b₁ :: b₂ :: rest) =
      (some (Char.ofNat ((b.toNat - 0xE0) * 0x1000 + payload b₁ * 0x40 + payload b₂)), 3) := by
  simp [step, hb, Nat.not_lt.mpr hlow, Nat.not_lt.mpr hhigh, h₂]

theorem step_four (hb : lead? b = some (3, low, high)) (hlow : low ≤ b₁.toNat)
    (hhigh : b₁.toNat ≤ high) (h₂ : isContinuation b₂ = true) (h₃ : isContinuation b₃ = true)
    (rest : List UInt8) :
    step b (b₁ :: b₂ :: b₃ :: rest) =
      (some (Char.ofNat ((b.toNat - 0xF0) * 0x40000 + payload b₁ * 0x1000 + payload b₂ * 0x40
        + payload b₃)), 4) := by
  simp [step, hb, Nat.not_lt.mpr hlow, Nat.not_lt.mpr hhigh, h₂, h₃]

end Step

theorem toNat_continuing (n : Nat) : (0x80 + n % 0x40).toUInt8.toNat = 0x80 + n % 0x40 :=
  toNat_toUInt8 (by omega)

theorem isContinuation_continuing (n : Nat) : isContinuation (0x80 + n % 0x40).toUInt8 = true := by
  rw [isContinuation, toNat_continuing, Bool.and_eq_true, decide_eq_true_iff, decide_eq_true_iff]
  omega

theorem payload_continuing (n : Nat) : payload (0x80 + n % 0x40).toUInt8 = n % 0x40 := by
  show (0x80 + n % 0x40).toUInt8.toNat - 0x80 = n % 0x40
  rw [toNat_continuing, Nat.add_sub_cancel_left]

/-- **A character is read from its bytes**, whatever follows them. -/
theorem step_encodeChar (c : Char) (rest : List UInt8) :
    ∃ b bs, encodeChar c = b :: bs ∧ step b (bs ++ rest) = (some c, bs.length + 1) := by
  have hvalid := toNat_valid c
  have hchar : ∀ {n : Nat}, n = c.toNat → Char.ofNat n = c := by
    rintro n rfl
    exact Char.ofNat_toNat c
  rw [encodeChar]
  split
  · next h =>
    have hb := toNat_toUInt8 (show c.toNat < 256 by omega)
    refine ⟨_, [], rfl, ?_⟩
    rw [step_one (lead?_one (by omega)), hchar hb]
    rfl
  split
  · next h₁ h₂ =>
    have hb := toNat_toUInt8 (show 0xC0 + c.toNat / 0x40 < 256 by omega)
    have hcontinuing := toNat_continuing c.toNat
    refine ⟨_, [_], rfl, ?_⟩
    rw [List.singleton_append, step_two (lead?_two (by omega) (by omega)) (by omega) (by omega),
      hchar (by rw [payload_continuing]; omega)]
    rfl
  split
  · next h₁ h₂ h₃ =>
    have hb := toNat_toUInt8 (show 0xE0 + c.toNat / 0x1000 < 256 by omega)
    have hcontinuing := toNat_continuing (c.toNat / 0x40)
    refine ⟨_, [_, _], rfl, ?_⟩
    rw [List.cons_append, List.singleton_append,
      step_three (lead?_three (by omega) (by omega)) (by split <;> omega) (by split <;> omega)
        (isContinuation_continuing _),
      hchar (by rw [payload_continuing, payload_continuing]; omega)]
    rfl
  · next h₁ h₂ h₃ =>
    have hb := toNat_toUInt8 (show 0xF0 + c.toNat / 0x40000 < 256 by omega)
    have hcontinuing := toNat_continuing (c.toNat / 0x1000)
    refine ⟨_, [_, _, _], rfl, ?_⟩
    rw [List.cons_append, List.cons_append, List.singleton_append,
      step_four (lead?_four (by omega) (by omega)) (by split <;> omega) (by split <;> omega)
        (isContinuation_continuing _) (isContinuation_continuing _),
      hchar (by rw [payload_continuing, payload_continuing, payload_continuing]; omega)]
    rfl

/-! ### Texts -/

theorem decodeSteps_encodeChar (c : Char) (rest : List UInt8) :
    decodeSteps (encodeChar c ++ rest) = some c :: decodeSteps rest := by
  obtain ⟨b, bs, hbytes, hstep⟩ := step_encodeChar c rest
  rw [hbytes, List.cons_append, decodeSteps, hstep, Nat.add_sub_cancel, List.drop_left]

theorem decodeSteps_encode (cs : List Char) : decodeSteps (encode cs) = cs.map some := by
  induction cs with
  | nil => simp [encode, decodeSteps]
  | cons c cs ih =>
    rw [encode, List.flatMap_cons, decodeSteps_encodeChar, ← encode, ih, List.map_cons]

/-- **A text is read back from its bytes.** -/
@[simp] theorem decode?_encode (cs : List Char) : decode? (encode cs) = some cs := by
  rw [decode?, decodeSteps_encode]
  induction cs with
  | nil => rfl
  | cons c cs ih => simp [ih]

@[simp] theorem decodeLossy_encode (cs : List Char) : decodeLossy (encode cs) = cs := by
  rw [decodeLossy, decodeSteps_encode, List.map_map]
  exact List.map_id'' (fun _ => rfl) cs

theorem encode_injective {cs ds : List Char} (h : encode cs = encode ds) : cs = ds :=
  Option.some.inj (by rw [← decode?_encode, h, decode?_encode])

end LiveBoard.Utf8
