import LiveBoard.Toml.Quoted

/-!
# Strings that are read back

A string is written in one of five ways: between single or double quotes, or between three of them,
and then on one line or on several. Between double quotes every character is written on its own, as
itself or as an escape, and the readers for one line and for several lines take these apart alike.
Between single quotes the characters stand for themselves, and what matters is where the closing
quotes are: fewer than three quotes in a row do not end a string between three of them.

## Main definitions

* `Toml.Spells`: how a character is written between double quotes.
* `Toml.Unescapes`: a reader that takes such a text apart.

## Main results

* `Toml.Unescapes.read_flatMap_writtenChar`: between double quotes.
* `Toml.multiLiteral_append`, `Toml.literal_append`: between single quotes.
* `Toml.quoted?_written`: a string is read as it was written.
-/

namespace LiveBoard.Toml

variable {c x : Char} {cs rest : List Char}

/-! ### Escapes -/

theorem toNat_lt_of_not_isPlain (h : isPlain c = false) : c.toNat < 0x80 := by
  simp only [isPlain, Bool.or_eq_false_iff, Bool.and_eq_false_iff, decide_eq_false_iff_not] at h
  omega

/-- A character of seven bits is read from its digits. -/
theorem hexChar?_fourHex :
    ∀ n < 0x80, (fourHex n).length = 4 ∧ hexChar? (fourHex n) = some (Char.ofNat n) := by
  decide +kernel

theorem exists_fourHex (h : c.toNat < 0x80) :
    ∃ a b d e, fourHex c.toNat = [a, b, d, e] ∧ hexChar? [a, b, d, e] = some c := by
  obtain ⟨hlength, hchar⟩ := hexChar?_fourHex c.toNat h
  match hfour : fourHex c.toNat, hlength with
  | [a, b, d, e], _ =>
    rw [hfour, Char.ofNat_toNat] at hchar
    exact ⟨a, b, d, e, rfl, hchar⟩

/-- How a character is written between double quotes, on one line or on several. -/
inductive Spells (several : Bool) (c : Char) : List Char → Prop
  | plain (hplain : isPlain c = true) (hquote : c ≠ '"') (hslash : c ≠ '\\') : Spells several c [c]
  | lineBreak (hseveral : several = true) (hc : c = '\n') : Spells several c ['\n']
  | escape {e : Char} (he : escape? e = some c) : Spells several c ['\\', e]
  | hex {a b d e : Char} (hhex : hexChar? [a, b, d, e] = some c) :
    Spells several c ['\\', 'u', a, b, d, e]

theorem spells_writtenChar (several : Bool) (c : Char) :
    Spells several c (writtenChar several c) := by
  fun_cases writtenChar several c
  case case3 hc hseveral => exact .lineBreak hseveral hc
  case case9 hslash hquote hplain => exact .plain hplain hslash hquote
  case case10 hplain =>
    obtain ⟨a, b, d, e, hfour, hhex⟩ :=
      exists_fourHex (toNat_lt_of_not_isPlain (Bool.eq_false_iff.mpr hplain))
    exact hfour ▸ .hex hhex
  all_goals
    subst_vars
    exact .escape rfl

/-- A reader that takes a text apart as it is written between double quotes, on one line or on
several. -/
structure Unescapes (several : Bool) (read : List Char → Option (List Char × List Char)) :
    Prop where
  plain : ∀ {c} (cs), isPlain c = true → c ≠ '"' → c ≠ '\\' → read (c :: cs) = push c (read cs)
  lineBreak : several = true → ∀ cs, read ('\n' :: cs) = push '\n' (read cs)
  escape : ∀ {c x} (cs), escape? c = some x → read ('\\' :: c :: cs) = push x (read cs)
  hex : ∀ {a b d e x} (cs), hexChar? [a, b, d, e] = some x →
    read ('\\' :: 'u' :: a :: b :: d :: e :: cs) = push x (read cs)

namespace Unescapes

variable {several : Bool} {read : List Char → Option (List Char × List Char)}

theorem read_append (h : Unescapes several read) {w : List Char} (hw : Spells several c w)
    (cs : List Char) : read (w ++ cs) = push c (read cs) := by
  cases hw with
  | plain hplain hquote hslash => exact h.plain cs hplain hquote hslash
  | lineBreak hseveral hc => exact hc ▸ h.lineBreak hseveral cs
  | escape he => exact h.escape cs he
  | hex hhex => exact h.hex cs hhex

/-- **What is written between double quotes** is read as it was. -/
theorem read_flatMap_writtenChar (h : Unescapes several read) (cs : List Char)
    {stop : List Char} (hstop : read stop = some ([], rest)) :
    read (cs.flatMap (writtenChar several) ++ stop) = some (cs, rest) := by
  induction cs with
  | nil => exact hstop
  | cons c cs ih =>
    rw [List.flatMap_cons, List.append_assoc, h.read_append (spells_writtenChar several c), ih]
    rfl

end Unescapes

/-- No letter that stands for a character introduces digits or ends a line. -/
theorem escape?_cases {c x : Char} (h : escape? c = some x) : c ≠ 'u' ∧ c ≠ 'U' ∧
    c ≠ ' ' ∧ c ≠ '\t' ∧ c ≠ '\n' ∧ c ≠ '\r' := by
  refine ⟨?_, ?_, ?_, ?_, ?_, ?_⟩ <;> rintro rfl <;> cases h

theorem unescapes_basic : Unescapes false basic where
  plain cs hplain hquote hslash := by
    rw [basic, if_pos (by simp [hplain, hslash])]
    all_goals simp_all
  lineBreak := nofun
  escape cs h := by
    obtain ⟨hu, hU, -⟩ := escape?_cases h
    rw [basic, h]
    · rfl
    · exact fun _ _ _ _ _ hc => absurd hc hu
    · exact fun _ _ _ _ _ _ _ _ _ hc => absurd hc hU
  hex cs h := by
    rw [basic, h]
    rfl

theorem ne_of_isPlain (h : isPlain c = true) : c ≠ '\n' ∧ c ≠ '\r' := by
  constructor <;> rintro rfl <;> cases h

/-- No line ends behind a character that is none of a line. -/
theorem endsLine_cons_eq_false (hspace : c ≠ ' ') (htab : c ≠ '\t') (hbreak : c ≠ '\n')
    (hreturn : c ≠ '\r') (cs : List Char) : endsLine (c :: cs) = false := by
  rw [endsLine, List.dropWhile_cons_of_neg (by simp [hspace, htab])]
  split
  · next heq => exact absurd (List.cons.inj heq).1 hbreak
  · next heq => exact absurd (List.cons.inj heq).1 hreturn
  · rfl

theorem unescapes_multiBasic : Unescapes true (multiBasic false) where
  plain cs hplain hquote hslash := by
    obtain ⟨hbreak, hreturn⟩ := ne_of_isPlain hplain
    rw [multiBasic, if_neg (by simp), if_pos (by simp [hplain, hslash])]
    all_goals simp_all
  lineBreak _ cs := by rw [multiBasic, if_neg (by simp)]
  escape cs h := by
    obtain ⟨hu, hU, hspace, htab, hbreak, hreturn⟩ := escape?_cases h
    rw [multiBasic, endsLine_cons_eq_false hspace htab hbreak hreturn, h]
    · rfl
    · exact fun _ _ _ _ _ hc => absurd hc hu
    · exact fun _ _ _ _ _ _ _ _ _ hc => absurd hc hU
  hex cs h := by
    rw [multiBasic, h]
    rfl

/-! ### Single quotes -/

theorem le_longestRun (run : Nat) (cs : List Char) : run ≤ longestRun run cs := by
  induction cs generalizing run with
  | nil => exact Nat.le_refl _
  | cons c cs ih =>
    rw [longestRun]
    split
    · exact Nat.le_trans (Nat.le_succ _) (ih _)
    · exact Nat.le_max_left _ _

theorem longestRun_mono {m n : Nat} (h : m ≤ n) (cs : List Char) :
    longestRun m cs ≤ longestRun n cs := by
  induction cs generalizing m n with
  | nil => exact h
  | cons c cs ih =>
    rw [longestRun, longestRun]
    split
    · exact ih (Nat.succ_le_succ h)
    · omega

theorem longestRun_le_cons (c : Char) (cs : List Char) :
    longestRun 0 cs ≤ longestRun 0 (c :: cs) := by
  rw [longestRun]
  split
  · exact longestRun_mono (Nat.zero_le _) cs
  · exact Nat.le_max_right _ _

/-- Three single quotes do not stand at the front of a text in which they do not stand anywhere. -/
theorem three_le_longestRun (cs : List Char) :
    3 ≤ longestRun 0 ('\'' :: '\'' :: '\'' :: cs) := le_longestRun 3 cs

theorem multiLiteral_plain (hplain : isPlain c = true) (hc : c ≠ '\'') (cs : List Char) :
    multiLiteral (c :: cs) = push c (multiLiteral cs) := by
  obtain ⟨hbreak, hreturn⟩ := ne_of_isPlain hplain
  rw [multiLiteral, if_pos hplain]
  all_goals simp_all

/-- Fewer than three single quotes do not end the text. -/
theorem multiLiteral_quote (hrun : longestRun 0 ('\'' :: cs) < 3)
    (hlast : ('\'' :: cs).getLast? ≠ some '\'') (rest : List Char) :
    multiLiteral ('\'' :: (cs ++ rest)) = push '\'' (multiLiteral (cs ++ rest)) := by
  have hplain : isPlain '\'' = true := by decide
  match cs, hrun, hlast with
  | [], _, hlast => exact absurd rfl hlast
  | c :: cs, hrun, hlast =>
    by_cases hc : c = '\''
    · subst hc
      match cs, hrun, hlast with
      | [], _, hlast => exact absurd rfl hlast
      | d :: cs, hrun, _ =>
        have hd : d ≠ '\'' := by
          rintro rfl
          exact Nat.not_lt.mpr (three_le_longestRun cs) hrun
        rw [List.cons_append, List.cons_append, multiLiteral, if_pos hplain]
        all_goals simp_all
    · rw [List.cons_append, multiLiteral, if_pos hplain]
      all_goals simp_all

theorem multiLiteral_stop (hrest : ∀ c ∈ rest.head?, c ≠ '\'') :
    multiLiteral ('\'' :: '\'' :: '\'' :: rest) = some ([], rest) := by
  cases rest with
  | nil => rfl
  | cons c rest =>
    have hc : c ≠ '\'' := hrest c rfl
    rw [multiLiteral]
    all_goals simp_all

/-- **What is written between three single quotes** is read as it was. -/
theorem multiLiteral_append (hplain : ∀ c ∈ cs, c = '\n' ∨ isPlain c = true)
    (hrun : longestRun 0 cs < 3) (hlast : cs.getLast? ≠ some '\'')
    (hrest : ∀ c ∈ rest.head?, c ≠ '\'') :
    multiLiteral (cs ++ '\'' :: '\'' :: '\'' :: rest) = some (cs, rest) := by
  induction cs with
  | nil => exact multiLiteral_stop hrest
  | cons c cs ih =>
    obtain ⟨hc, hcs⟩ := List.forall_mem_cons.mp hplain
    have htail : cs.getLast? ≠ some '\'' := by
      intro h
      rw [List.getLast?_cons, h] at hlast
      exact hlast rfl
    have hstep := ih hcs (Nat.lt_of_le_of_lt (longestRun_le_cons c cs) hrun) htail
    -- Only for a quote it matters what comes next.
    have hpush : multiLiteral (c :: (cs ++ '\'' :: '\'' :: '\'' :: rest)) =
        push c (multiLiteral (cs ++ '\'' :: '\'' :: '\'' :: rest)) := by
      by_cases hquote : c = '\''
      · subst hquote
        exact multiLiteral_quote hrun hlast _
      · rcases hc with rfl | hc
        · rw [multiLiteral]
        · exact multiLiteral_plain hc hquote _
    rw [List.cons_append, hpush, hstep]
    rfl

/-- **What is written between single quotes** is read as it was. -/
theorem literal_append (hplain : ∀ c ∈ cs, isPlain c = true) (hquote : '\'' ∉ cs) :
    literal (cs ++ '\'' :: rest) = some (cs, rest) := by
  induction cs with
  | nil => rfl
  | cons c cs ih =>
    obtain ⟨hc, hcs⟩ := List.forall_mem_cons.mp hplain
    obtain ⟨hne, hnot⟩ := not_or.mp (mt List.mem_cons.mpr hquote)
    rw [List.cons_append, literal, if_pos hc, ih hcs hnot]
    · rfl
    · exact fun h => hne h.symm

/-! ### Strings -/

theorem dropLineBreak_of_isPlain (h : isPlain c = true) (cs : List Char) :
    dropLineBreak (c :: cs) = c :: cs := by
  obtain ⟨hbreak, hreturn⟩ := ne_of_isPlain h
  rw [dropLineBreak]
  all_goals simp_all

theorem quoted?_single (hc : c ≠ '\'') (cs : List Char) :
    quoted? ('\'' :: c :: cs) = literal (c :: cs) := by
  rw [quoted?, quotedLine?]
  all_goals simp_all

theorem quoted?_double (h : ∀ r, cs ≠ '"' :: '"' :: r) : quoted? ('"' :: cs) = basic cs := by
  rw [quoted?, quotedLine?]
  all_goals simp_all

theorem quoted?_eq_none (h : ∀ c ∈ cs.head?, c ≠ '"' ∧ c ≠ '\'') : quoted? cs = none := by
  cases cs with
  | nil => rfl
  | cons c cs =>
    obtain ⟨hdouble, hsingle⟩ := h c rfl
    rw [quoted?, quotedLine?]
    all_goals simp_all

theorem Spells.exists_eq_cons {several : Bool} {w : List Char} (h : Spells several c w) :
    ∃ d ds, w = d :: ds ∧ d ≠ '"' := by
  cases h with
  | plain hplain hquote hslash => exact ⟨_, _, rfl, hquote⟩
  | lineBreak hseveral hc => exact ⟨_, _, rfl, by decide⟩
  | escape he => exact ⟨_, _, rfl, by decide⟩
  | hex hhex => exact ⟨_, _, rfl, by decide⟩

theorem multiBasic_stop (hrest : ∀ c ∈ rest.head?, c ≠ '"') :
    multiBasic false ('"' :: '"' :: '"' :: rest) = some ([], rest) := by
  cases rest with
  | nil => rfl
  | cons c rest =>
    have hc : c ≠ '"' := hrest c rfl
    rw [multiBasic]
    all_goals simp_all

/-- What stands between single quotes is on one line or between three of them. -/
theorem quoted?_of_prefersLiteral (h : prefersLiteral cs = true)
    (hrest : ∀ c ∈ rest.head?, c ≠ '\'') :
    (quoted? ("'''\n".toList ++ cs ++ "'''".toList ++ rest) = some (cs, rest)) ∧
    ('\n' ∉ cs → quoted? ("'''".toList ++ cs ++ "'''".toList ++ rest) = some (cs, rest)) ∧
    ('\n' ∉ cs → '\'' ∉ cs → quoted? ('\'' :: cs ++ ['\''] ++ rest) = some (cs, rest)) := by
  simp only [prefersLiteral, Bool.and_eq_true, decide_eq_true_eq, List.all_eq_true,
    Bool.or_eq_true, beq_iff_eq] at h
  obtain ⟨⟨⟨hsome, hplain⟩, hrun⟩, hlast⟩ := h
  have hmulti := multiLiteral_append hplain hrun hlast hrest
  have hline (hbreak : '\n' ∉ cs) : ∀ c ∈ cs, isPlain c = true := fun c hc =>
    (hplain c hc).resolve_left fun heq => hbreak (heq ▸ hc)
  obtain ⟨c, ds, rfl⟩ : ∃ c ds, cs = c :: ds := by
    cases cs with
    | nil => cases hsome
    | cons c ds => exact ⟨c, ds, rfl⟩
  refine ⟨?_, fun hbreak => ?_, fun hbreak hquote => ?_⟩
  · simpa [quoted?, dropLineBreak] using hmulti
  · have hc : isPlain c = true := hline hbreak c List.mem_cons_self
    simpa [quoted?, dropLineBreak_of_isPlain hc] using hmulti
  · have hc : c ≠ '\'' := fun heq => hquote (heq ▸ List.mem_cons_self)
    have hliteral : literal (c :: ds ++ '\'' :: rest) = some (c :: ds, rest) :=
      literal_append (hline hbreak) hquote
    simpa [quoted?_single hc] using hliteral

/-- **A string is read as it was written.** -/
theorem quoted?_written (s : String) (hrest : ∀ c ∈ rest.head?, c ≠ '"' ∧ c ≠ '\'') :
    quoted? (written s ++ rest) = some (s.toList, rest) := by
  have hdouble : ∀ c ∈ rest.head?, c ≠ '"' := fun c hc => (hrest c hc).1
  have hsingle : ∀ c ∈ rest.head?, c ≠ '\'' := fun c hc => (hrest c hc).2
  rw [written]
  generalize s.toList = cs
  split
  · next hliteral =>
    obtain ⟨hmulti, hthree, hone⟩ := quoted?_of_prefersLiteral hliteral hsingle
    split
    · exact hmulti
    · next hbreak =>
      have hbreak : '\n' ∉ cs := by simpa using hbreak
      split
      · exact hthree hbreak
      · next hquote => exact hone hbreak (by simpa using hquote)
  · split
    · have hmulti := unescapes_multiBasic.read_flatMap_writtenChar cs (multiBasic_stop hdouble)
      simpa [quoted?, dropLineBreak] using hmulti
    · have hbasic : basic (cs.flatMap (writtenChar false) ++ '"' :: rest) = some (cs, rest) :=
        unescapes_basic.read_flatMap_writtenChar cs rfl
      rw [List.cons_append, List.cons_append, List.append_assoc, List.singleton_append,
        quoted?_double, hbasic]
      -- No three quotes stand at the front: nothing is written with a quote there.
      intro r hr
      cases cs with
      | nil => exact hdouble '"' (by simp_all) rfl
      | cons c cs =>
        obtain ⟨d, ds, hd, hne⟩ := (spells_writtenChar false c).exists_eq_cons
        rw [List.flatMap_cons, hd] at hr
        exact hne (List.cons.inj hr).1

end LiveBoard.Toml
