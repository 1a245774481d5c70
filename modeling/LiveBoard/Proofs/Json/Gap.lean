import LiveBoard.Proofs.Json.Numeral

/-!
# White space between tokens

A text whose tokens are all complete has the same tokens when a space and something else follow it.
So white space may be put wherever one token ends and the next one begins.

## Main results

* `tokens_append_space`: what follows a space does not touch the tokens in front of it.
* `tokens_spaced`: white space between tokens.
-/

namespace LiveBoard.Json

variable {cs r rest : List Char} {c : Char} {t : Token}

/-! ### Strings -/

/-- A character that no other case of a string is about. -/
theorem plain_of_ne {tail : List Char} (hcons : ∀ d ds, c = '\\' → ¬tail = d :: ds)
    (hnil : c = '\\' → ¬tail = []) : c ≠ '\\' := by
  intro hc
  cases tail with
  | nil => exact hnil hc rfl
  | cons d ds => exact hcons d ds hc rfl

/-- A string ends where it did before. -/
theorem skipString_append (h : skipString cs = .ok r) (rest : List Char) :
    skipString (cs ++ rest) = .ok (r ++ rest) := by
  fun_induction skipString cs
  case case10 c tail hquote _ _ hcons hnil hc ih =>
    rw [List.cons_append, skipString_plain hquote (plain_of_ne hcons hnil) (Nat.not_lt.mp hc), ih h]
  all_goals simp_all [skipString]

/-- A string that can be read is the same whatever follows it. -/
theorem readString_append {s : List Char} (h : readString cs = .ok s) (rest : List Char) :
    readString (cs ++ rest) = .ok s := by
  have hmap : ∀ {tail : List Char} {f : List Char → List Char} {s : List Char},
      (∀ {s}, readString tail = .ok s → readString (tail ++ rest) = .ok s) →
      (readString tail).map f = .ok s → (readString (tail ++ rest)).map f = .ok s := by
    intro tail f s ih h
    obtain ⟨s', hs', rfl⟩ := map_eq_ok h
    rw [ih hs']
    rfl
  fun_induction readString cs generalizing s
  case case15 c tail hquote _ _ hcons hnil hc ih =>
    rw [List.cons_append, readString_plain hquote (plain_of_ne hcons hnil) (Nat.not_lt.mp hc)]
    exact hmap ih h
  all_goals simp_all [readString]

theorem scanString_append (h : scanString cs = (t, r)) (ht : t.IsWhole) (rest : List Char) :
    scanString (cs ++ rest) = (t, r ++ rest) := by
  rw [scanString] at h
  split at h
  · next r' hskip =>
    cases hread : readString cs with
    | error f =>
      rw [hread] at h
      cases h
      exact ht.elim
    | ok s =>
      rw [hread] at h
      cases h
      rw [scanString, skipString_append hskip, readString_append hread]
  · cases h
    exact ht.elim
  · cases h
    exact ht.elim

/-! ### Tokens -/

theorem exists_number_of_scanExponent {n : Numeral} (h : scanExponent n cs = (t, r))
    (ht : t.IsWhole) : ∃ m, t = .number m := by
  cases cs with
  | nil =>
    cases h
    exact ⟨n, rfl⟩
  | cons c cs =>
    rw [scanExponent] at h
    split at h
    · dsimp only at h
      split at h
      · cases h
        exact ht.elim
      · cases h
        exact ⟨_, rfl⟩
    · cases h
      exact ⟨n, rfl⟩

theorem exists_number_of_scanFraction {n : Numeral} (h : scanFraction n cs = (t, r))
    (ht : t.IsWhole) : ∃ m, t = .number m := by
  cases cs with
  | nil =>
    cases h
    exact ⟨n, rfl⟩
  | cons c cs =>
    rw [scanFraction] at h
    split at h
    · split at h
      · cases h
        exact ht.elim
      · exact exists_number_of_scanExponent h ht
    · exact exists_number_of_scanExponent h ht

/-- What begins like a number and is complete is a number. -/
theorem exists_number_of_scanNumber {negative : Bool} (h : scanNumber negative c cs = (t, r))
    (ht : t.IsWhole) : ∃ m, t = .number m := by
  rw [scanNumber] at h
  split at h
  · split at h
    · exact exists_number_of_scanFraction h ht
    · cases h
      exact ht.elim
  · split at h
    · exact exists_number_of_scanFraction h ht
    · cases h
      exact ht.elim

theorem exists_number_of_scanNegative (h : scanNegative cs = (t, r)) (ht : t.IsWhole) :
    ∃ m, t = .number m := by
  cases cs with
  | nil =>
    cases h
    exact ht.elim
  | cons c cs => exact exists_number_of_scanNumber h ht

theorem scanWord_append {word : Token} {ws : List Char} (h : scanWord word ws cs = (t, r))
    (ht : t.IsWhole) (rest : List Char) : scanWord word ws (cs ++ rest) = (t, r ++ rest) := by
  fun_induction scanWord word ws cs with
  | case1 cs =>
    cases h
    rw [scanWord]
  | case2 w ws =>
    cases h
    exact ht.elim
  | case3 ws c cs ih =>
    rw [List.cons_append, scanWord, if_pos rfl]
    exact ih h
  | case4 w ws c cs hne =>
    cases h
    exact ht.elim

theorem endsNumber_of_isSpace (hc : isSpace c = true) : EndsNumber (c :: rest) := by
  intro d hd
  obtain rfl : c = d := Option.some.inj hd
  simp only [isSpace, Bool.or_eq_true, beq_iff_eq] at hc
  obtain ((rfl | rfl) | rfl) | rfl := hc <;> decide

/-- **A complete token** is the same where a space follows the text behind it. -/
theorem scanToken_append_space {d : Char} (hd : isSpace d = true) (h : scanToken c cs = (t, r))
    (ht : t.IsWhole) (rest : List Char) :
    scanToken c (cs ++ d :: rest) = (t, r ++ d :: rest) := by
  have hend : EndsNumber (d :: rest) := endsNumber_of_isSpace hd
  by_cases hnumber : ∃ m, t = .number m
  · obtain ⟨m, rfl⟩ := hnumber
    exact scanToken_append hend h
  · rw [scanToken.eq_def] at h
    split at h
    case h_7 => exact scanString_append h ht _
    case h_8 | h_9 | h_10 => exact scanWord_append h ht _
    case h_11 => exact absurd (exists_number_of_scanNegative h ht) hnumber
    case h_12 => exact absurd (exists_number_of_scanNumber h ht) hnumber
    all_goals
      cases h
      rfl

theorem tokens_space (h : isSpace c = true) (cs : List Char) : tokens (c :: cs) = tokens cs :=
  tokens_append_of_isSpace (List.forall_mem_singleton.mpr h) cs

/-- **What follows a space** does not touch the tokens in front of it, if they are complete. -/
theorem tokens_append_space {d : Char} (hd : isSpace d = true) (rest : List Char) :
    ∀ cs : List Char, (∀ t ∈ tokens cs, t.IsWhole) →
      tokens (cs ++ d :: rest) = tokens cs ++ tokens rest
  | [], _ => by
    rw [List.nil_append, tokens_space hd, tokens, List.nil_append]
  | c :: cs, h => by
    rw [List.cons_append]
    by_cases hspace : isSpace c = true
    · rw [tokens_space hspace] at h ⊢
      rw [tokens_space hspace]
      exact tokens_append_space hd rest cs h
    · rw [Bool.not_eq_true] at hspace
      rcases hscan : scanToken c cs with ⟨t, r⟩
      have hlength : r.length ≤ cs.length := by simpa [hscan] using scanToken_length_le c cs
      rw [tokens_cons hspace hscan] at h ⊢
      obtain ⟨ht, hr⟩ := List.forall_mem_cons.mp h
      rw [tokens_cons hspace (scanToken_append_space hd hscan ht rest),
        tokens_append_space hd rest r hr, List.cons_append]
  termination_by cs => cs.length

/-- **White space between tokens** does not change them. -/
theorem tokens_spaced {a w b : List Char} (hwhole : ∀ t ∈ tokens (a ++ b), t.IsWhole)
    (hgap : tokens (a ++ b) = tokens a ++ tokens b) (hw : ∀ c ∈ w, isSpace c = true) :
    tokens (a ++ w ++ b) = tokens (a ++ b) := by
  cases w with
  | nil => rw [List.append_nil]
  | cons d w =>
    obtain ⟨hd, hw⟩ := List.forall_mem_cons.mp hw
    rw [List.append_assoc, List.cons_append, tokens_append_space hd, hgap,
      tokens_append_of_isSpace hw]
    exact fun t ht => hwhole t (hgap ▸ List.mem_append_left _ ht)

end LiveBoard.Json
