import LiveBoard.Proofs.Text.Utf8
import LiveBoard.Url.Percent

/-!
# Percent encoding read back

A text in a part of an address that encodes percent signs is read back from its written form: its
percent signs all come from the encoding, so every byte is read from what it was written as. In its
written form there is none of the characters that the part encodes, so it can be cut out again where
such characters separate parts.

## Main results

* `Url.percentDecode_percentEncode`: a text is read back from its written form.
* `Url.notMem_percentEncode`: what the written form of a text does not hold.
* `Url.splitOn_append`, `Url.splitOn_flatMap`: parts behind separators are cut out again.
-/

namespace LiveBoard

theorem Utf8.encode_cons (c : Char) (cs : List Char) :
    encode (c :: cs) = encodeChar c ++ encode cs := rfl

theorem Utf8.encode_append (cs ds : List Char) : encode (cs ++ ds) = encode cs ++ encode ds :=
  List.flatMap_append

namespace Url

/-! ### Bytes -/

theorem percentDecode_of_ne {b : UInt8} (hb : b ≠ 0x25) (rest : List UInt8) :
    percentDecode (b :: rest) = b :: percentDecode rest := by
  match rest with
  | [] | [_] => rfl
  | c :: d :: rest => rw [percentDecode, if_neg hb]

/-- A digit is one byte, and has its value. -/
theorem encodeChar_upperHexDigit (n : Nat) :
    ∃ b, Utf8.encodeChar (upperHexDigit n) = [b] ∧ hexValue? b = some (n % 16) := by
  have hdigits : ∀ k < 16, ∃ b, Utf8.encodeChar (Nat.digitChar k).toUpper = [b] ∧
      hexValue? b = some k := by
    intro k hk
    refine ⟨((Nat.digitChar k).toUpper).toNat.toUInt8, ?_⟩
    revert k
    decide
  exact hdigits (n % 16) (Nat.mod_lt n (by decide))

/-- The text of an ASCII byte is this byte. -/
theorem encode_byteChar {b : UInt8} (h : b.toNat < 0x80) : Utf8.encode [byteChar b] = [b] := by
  have hvalid : b.toNat.isValidChar := .inl (by omega)
  have hchar : (byteChar b).toNat = b.toNat := by
    rw [byteChar, Char.ofNat, dif_pos hvalid]
    rfl
  rw [Utf8.encode_cons, Utf8.encodeChar, hchar, if_pos h, Nat.toUInt8, UInt8.ofNat_toNat]
  rfl

/-- A byte after a percent sign is two digits, and is read back. -/
theorem encode_percentByte (b : UInt8) :
    ∃ c d, Utf8.encode (percentByte b) = [0x25, c, d] ∧ (hexValue? c).isSome = true ∧
      (hexValue? d).isSome = true ∧
      ∀ rest, percentDecode (0x25 :: c :: d :: rest) = b :: percentDecode rest := by
  obtain ⟨c, hc, hhigh⟩ := encodeChar_upperHexDigit (b.toNat / 16)
  obtain ⟨d, hd, hlow⟩ := encodeChar_upperHexDigit b.toNat
  have hlt : b.toNat < 256 := b.toNat_lt
  have hvalue : b.toNat / 16 % 16 * 16 + b.toNat % 16 = b.toNat := by omega
  refine ⟨c, d, ?_, by rw [hhigh]; rfl, by rw [hlow]; rfl, fun rest => ?_⟩
  · rw [percentByte, Utf8.encode_cons, Utf8.encode_cons, Utf8.encode_cons, hc, hd]
    rfl
  · simp only [percentDecode, if_true, hhigh, hlow, hvalue]
    rw [Nat.toUInt8, UInt8.ofNat_toNat]

/-- **A byte is read back** from its written form where percent signs are encoded. -/
theorem percentDecode_encodeByte {encoded : Char → Bool} (h : encoded '%' = true) (b : UInt8)
    (rest : List UInt8) :
    percentDecode (Utf8.encode (encodeByte encoded b) ++ rest) = b :: percentDecode rest := by
  rw [encodeByte]
  split
  · next hplain =>
    obtain ⟨hsmall, hb⟩ : b.toNat < 0x80 ∧ encoded (byteChar b) = false := by simpa using hplain
    have hne : b ≠ 0x25 := by
      rintro rfl
      have hpercent : encoded (byteChar 0x25) = true := h
      rw [hpercent] at hb
      cases hb
    rw [encode_byteChar hsmall, List.singleton_append, percentDecode_of_ne hne]
  · obtain ⟨c, d, hbytes, -, -, hread⟩ := encode_percentByte b
    rw [hbytes]
    exact hread rest

/-- **A text is read back from its written form** where percent signs are encoded. -/
theorem percentDecode_percentEncode {encoded : Char → Bool} (h : encoded '%' = true)
    (cs : List Char) : percentDecode (Utf8.encode (percentEncode encoded cs)) = Utf8.encode cs := by
  rw [percentEncode]
  induction Utf8.encode cs with
  | nil => rfl
  | cons b bs ih => rw [List.flatMap_cons, Utf8.encode_append, percentDecode_encodeByte h, ih]

theorem percentEncode_injective {encoded : Char → Bool} (h : encoded '%' = true)
    {cs ds : List Char} (heq : percentEncode encoded cs = percentEncode encoded ds) : cs = ds :=
  Utf8.encode_injective <| by
    rw [← percentDecode_percentEncode h, heq, percentDecode_percentEncode h]

theorem percentEncode_ne_nil (encoded : Char → Bool) {cs : List Char} (h : cs ≠ []) :
    percentEncode encoded cs ≠ [] := by
  have hbytes : Utf8.encode cs ≠ [] := fun heq => h (Utf8.encode_injective heq)
  obtain ⟨b, bs, hcons⟩ := List.exists_cons_of_ne_nil hbytes
  rw [percentEncode, hcons, List.flatMap_cons, encodeByte]
  split <;> exact List.cons_ne_nil _ _

/-! ### Characters -/

theorem upperHexDigit_ne {c : Char} (h : c.isAlphanum = false) (n : Nat) : upperHexDigit n ≠ c := by
  have hdigits : ∀ k < 16, (Nat.digitChar k).toUpper.isAlphanum = true := by decide
  rintro rfl
  rw [upperHexDigit, hdigits (n % 16) (Nat.mod_lt n (by decide))] at h
  cases h

/-- A character that is encoded does not stand in the written form of a text. -/
theorem notMem_percentEncode {encoded : Char → Bool} {c : Char} (hc : encoded c = true)
    (hpercent : c ≠ '%') (hdigit : c.isAlphanum = false) (cs : List Char) :
    c ∉ percentEncode encoded cs := by
  intro hmem
  obtain ⟨b, -, hb⟩ := List.mem_flatMap.mp hmem
  rw [encodeByte] at hb
  split at hb
  · next hplain =>
    obtain rfl := List.mem_singleton.mp hb
    simp [hc] at hplain
  · simp only [percentByte, List.mem_cons, List.not_mem_nil, or_false] at hb
    rcases hb with rfl | rfl | rfl
    · exact hpercent rfl
    · exact upperHexDigit_ne hdigit _ rfl
    · exact upperHexDigit_ne hdigit _ rfl

/-! ### Parts between separators -/

section Split

variable {α : Type} [DecidableEq α] {sep : α}

theorem splitOn_ne_nil (as : List α) : splitOn sep as ≠ [] := by
  induction as with
  | nil => exact List.cons_ne_nil _ _
  | cons a as ih =>
    rw [splitOn]
    split
    · exact List.cons_ne_nil _ _
    · split <;> exact List.cons_ne_nil _ _

/-- The parts of a list behind a separator come after those of the list before it. -/
theorem splitOn_append (as bs : List α) :
    splitOn sep (as ++ sep :: bs) = splitOn sep as ++ splitOn sep bs := by
  induction as with
  | nil => simp [splitOn]
  | cons a as ih =>
    rw [List.cons_append, splitOn, splitOn, ih]
    split
    · rfl
    · cases hparts : splitOn sep as with
      | nil => exact absurd hparts (splitOn_ne_nil as)
      | cons part parts => rfl

theorem splitOn_of_notMem {as : List α} (h : sep ∉ as) : splitOn sep as = [as] := by
  induction as with
  | nil => rfl
  | cons a as ih =>
    obtain ⟨hne, has⟩ := not_or.mp (mt List.mem_cons.mpr h)
    rw [splitOn, if_neg (Ne.symm hne), ih has]

/-- **Parts that were put behind separators are cut out again.** -/
theorem splitOn_flatMap (as : List α) {parts : List (List α)} (h : ∀ part ∈ parts, sep ∉ part) :
    splitOn sep (as ++ parts.flatMap (sep :: ·)) = splitOn sep as ++ parts := by
  induction parts generalizing as with
  | nil => simp
  | cons part parts ih =>
    obtain ⟨hpart, hparts⟩ := List.forall_mem_cons.mp h
    have hassoc : as ++ (part :: parts).flatMap (sep :: ·) =
        (as ++ sep :: part) ++ parts.flatMap (sep :: ·) := by simp
    rw [hassoc, ih _ hparts, splitOn_append, splitOn_of_notMem hpart, List.append_assoc]
    rfl

end Split

end Url

end LiveBoard
