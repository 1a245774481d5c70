import LiveBoard.Proofs.Url.Percent

/-!
# Forms read back

The query of a form holds names and values in a written form of their own: spaces are plus signs,
and next to nothing but letters and digits stands for itself. A reader turns the plus signs back
before it looks at the percent signs, so a plus sign that was meant as one has to be written after a
percent sign, and so it is. Neither of the signs between names and values occurs in the written form
of a text, so a form with one field is read as just this field.

## Main definitions

* `Url.spaced`: bytes with spaces where plus signs stand.

## Main results

* `Url.formDecode_formEncode`: a text is read back from its written form.
* `Url.notMem_encode_formEncode`: the bytes that the written form of a text does not hold.
* `Url.formPairs_field`: a form with one field is read back.
-/

namespace LiveBoard

namespace Url

/-! ### Bytes -/

/-- The bytes of a form with spaces where plus signs stand. -/
def spaced (bs : List UInt8) : List UInt8 := bs.map fun b => if b = 0x2B then 0x20 else b

theorem spaced_append (bs cs : List UInt8) : spaced (bs ++ cs) = spaced bs ++ spaced cs :=
  List.map_append

theorem spaced_of_notMem {bs : List UInt8} (h : 0x2B ∉ bs) : spaced bs = bs := by
  induction bs with
  | nil => rfl
  | cons b bs ih =>
    obtain ⟨hb, hbs⟩ := not_or.mp (mt List.mem_cons.mpr h)
    rw [spaced, List.map_cons, if_neg (Ne.symm hb), ← spaced, ih hbs]

/-- What the written form of a byte is: the byte itself, a plus sign, or two digits after a percent
sign. -/
theorem encode_formByte (b : UInt8) :
    (isFormPlain b = true ∧ Utf8.encode (formByte b) = [b]) ∨
      (b = 0x20 ∧ Utf8.encode (formByte b) = [0x2B]) ∨
      ∃ c d, Utf8.encode (formByte b) = [0x25, c, d] ∧ (hexValue? c).isSome = true ∧
        (hexValue? d).isSome = true ∧
        ∀ rest, percentDecode (0x25 :: c :: d :: rest) = b :: percentDecode rest := by
  rw [formByte]
  split
  · next hplain =>
    obtain ⟨hsmall, hplain⟩ := Bool.and_eq_true_iff.mp hplain
    exact .inl ⟨hplain, encode_byteChar (of_decide_eq_true hsmall)⟩
  · split
    · next hspace => exact .inr (.inl ⟨hspace, rfl⟩)
    · exact .inr (.inr (encode_percentByte b))

/-- **A byte is read back** from its written form in a form. -/
theorem percentDecode_formByte (b : UInt8) (rest : List UInt8) :
    percentDecode (spaced (Utf8.encode (formByte b)) ++ rest) = b :: percentDecode rest := by
  obtain ⟨hplain, hbytes⟩ | ⟨rfl, hbytes⟩ | ⟨c, d, hbytes, hc, hd, hread⟩ := encode_formByte b
  · have hplus : 0x2B ∉ [b] := by
      rw [List.mem_singleton]
      rintro rfl
      exact absurd hplain (by decide)
    have hpercent : b ≠ 0x25 := by
      rintro rfl
      exact absurd hplain (by decide)
    rw [hbytes, spaced_of_notMem hplus]
    exact percentDecode_of_ne hpercent rest
  · rw [hbytes]
    exact percentDecode_of_ne (by decide) rest
  · have hdigit : ∀ {e : UInt8}, (hexValue? e).isSome = true → 0x2B ≠ e := by
      rintro e he rfl
      exact absurd he (by decide)
    have hplus : 0x2B ∉ [0x25, c, d] := by simp [hdigit hc, hdigit hd]
    rw [hbytes, spaced_of_notMem hplus]
    exact hread rest

/-- The bytes that the written form of a text does not hold. They neither stand for themselves nor
take part in writing others. -/
theorem notMem_encode_formEncode {c : UInt8} (hplain : isFormPlain c = false) (hplus : c ≠ 0x2B)
    (hpercent : c ≠ 0x25) (hdigit : hexValue? c = none) (s : String) :
    c ∉ Utf8.encode (formEncode s) := by
  rw [formEncode, Utf8.encode, List.flatMap_assoc]
  intro hmem
  obtain ⟨b, -, hc⟩ := List.mem_flatMap.mp hmem
  rw [← Utf8.encode] at hc
  obtain ⟨hb, hbytes⟩ | ⟨-, hbytes⟩ | ⟨e, f, hbytes, he, hf, -⟩ := encode_formByte b <;>
    rw [hbytes] at hc
  · obtain rfl := List.mem_singleton.mp hc
    rw [hplain] at hb
    cases hb
  · exact hplus (List.mem_singleton.mp hc)
  · simp only [List.mem_cons, List.not_mem_nil, or_false] at hc
    rcases hc with rfl | rfl | rfl
    · exact hpercent rfl
    · simp [hdigit] at he
    · simp [hdigit] at hf

/-! ### Texts -/

/-- **A text is read back from its written form** in a form. -/
theorem formDecode_formEncode (s : String) : formDecode (Utf8.encode (formEncode s)) = s := by
  have hbytes : ∀ bs : List UInt8,
      percentDecode (spaced (Utf8.encode (bs.flatMap formByte))) = bs := by
    intro bs
    induction bs with
    | nil => rfl
    | cons b bs ih =>
      rw [List.flatMap_cons, Utf8.encode_append, spaced_append, percentDecode_formByte, ih]
  have hread : formDecode (Utf8.encode (formEncode s)) =
      String.ofList (Utf8.decodeLossy (percentDecode (spaced (Utf8.encode (formEncode s))))) := rfl
  rw [hread, formEncode, hbytes, Utf8.decodeLossy_encode, String.ofList_toList]

/-- An ASCII character is looked for among the bytes. -/
theorem mem_encode_of_mem {c : Char} (hc : c.toNat < 0x80) {cs : List Char} (h : c ∈ cs) :
    c.toNat.toUInt8 ∈ Utf8.encode cs := by
  refine List.mem_flatMap_of_mem h ?_
  rw [Utf8.encodeChar, if_pos hc]
  exact List.mem_singleton_self _

/-! ### Fields -/

theorem splitFirst_append {α : Type} [DecidableEq α] {sep : α} {as : List α} (h : sep ∉ as)
    (bs : List α) : splitFirst sep (as ++ sep :: bs) = (as, bs) := by
  induction as with
  | nil => simp [splitFirst]
  | cons a as ih =>
    obtain ⟨hne, has⟩ := not_or.mp (mt List.mem_cons.mpr h)
    rw [List.cons_append, splitFirst, if_neg (Ne.symm hne), ih has]

/-- **A form with one field is read back.** -/
theorem formPairs_field (name value : String) :
    formPairs (formEncode name ++ '=' :: formEncode value) = [(name, value)] := by
  have hbytes : Utf8.encode (formEncode name ++ '=' :: formEncode value) =
      Utf8.encode (formEncode name) ++ 0x3D :: Utf8.encode (formEncode value) :=
    Utf8.encode_append _ _
  have hamp : ∀ s, 0x26 ∉ Utf8.encode (formEncode s) :=
    notMem_encode_formEncode (by decide) (by decide) (by decide) (by decide)
  have hequals : 0x3D ∉ Utf8.encode (formEncode name) :=
    notMem_encode_formEncode (by decide) (by decide) (by decide) (by decide) name
  have hparts : splitOn 0x26 (Utf8.encode (formEncode name ++ '=' :: formEncode value)) =
      [Utf8.encode (formEncode name) ++ 0x3D :: Utf8.encode (formEncode value)] := by
    rw [hbytes]
    exact splitOn_of_notMem (by simp [hamp])
  simp [formPairs, hparts, splitFirst_append hequals, formDecode_formEncode]

/-- No fragment begins in a form with one field. -/
theorem hash_notMem_field (name value : String) :
    '#' ∉ formEncode name ++ '=' :: formEncode value := by
  have hhash : ∀ s, '#' ∉ formEncode s := fun s hmem =>
    notMem_encode_formEncode (by decide) (by decide) (by decide) (by decide) s
      (mem_encode_of_mem (by decide) hmem)
  simp [hhash]

end Url

end LiveBoard
