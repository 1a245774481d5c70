import LiveBoard.Proofs.Toml.Numeral
import LiveBoard.Proofs.Toml.Quoted
import LiveBoard.Toml.Document

/-!
# Documents that are read back

A document is written line by line, and each line is read for itself: a key with a value, the header
of a table, or nothing. What a line says does not depend on what comes after it, so a text of lines
is read as the document of all that its lines say.

## Main definitions

* `Toml.Reads`: what is written for a value is read as it.
* `Toml.isBare`: a key that needs no quotes.
* `Toml.Says`: what a line says.
* `Toml.textOf`: the characters of lines.

## Main results

* `Toml.reads_written`, `Toml.reads_toDigits`, `Toml.reads_boolean`: values.
* `Toml.says_line`, `Toml.says_header`, `Toml.says_blank`: lines.
* `Toml.read?_of_says`: texts.
-/

namespace LiveBoard.Toml

variable {c : Char} {cs rest w : List Char} {item : Item}

/-! ### Kinds of characters -/

variable {p : Char → Bool}

/-- A character of one kind is none that is not of this kind. -/
theorem ne_of_kind {d : Char} (hc : p c = true) (hd : p d = false) : c ≠ d :=
  fun heq => absurd (heq ▸ hc) (Bool.eq_false_iff.mp hd)

theorem isSpace_eq_false (hc : p c = true) (hspace : p ' ' = false) (htab : p '\t' = false) :
    isSpace c = false := by
  rw [isSpace, Bool.or_eq_false_iff, beq_eq_false_iff_ne, beq_eq_false_iff_ne]
  exact ⟨ne_of_kind hc hspace, ne_of_kind hc htab⟩

/-! ### Values at the end of a line -/

/-- What is written is read as an item where the line ends behind it. -/
structure Reads (w : List Char) (item : Item) : Prop where
  starts : ∀ c ∈ w.head?, isSpace c = false ∧ c ≠ '[' ∧ c ≠ '\x7b'
  reads : ∀ rest, scalar? (w ++ '\n' :: rest) = some (item, '\n' :: rest)

theorem Reads.value? (h : Reads w item) (rest : List Char) :
    value? (w ++ '\n' :: rest) = some (item, '\n' :: rest) := by
  obtain ⟨c, cs, hcs, hc⟩ : ∃ c cs, w ++ '\n' :: rest = c :: cs ∧ c ≠ '[' ∧ c ≠ '\x7b' := by
    cases hw : w with
    | nil => exact ⟨'\n', rest, rfl, by decide⟩
    | cons c cs => exact ⟨c, cs ++ '\n' :: rest, rfl, (h.starts c (by rw [hw]; rfl)).2⟩
  have hscalar := h.reads rest
  rw [hcs] at hscalar ⊢
  rw [Toml.value?, depthLimit, valueIn, hscalar]
  · exact fun _ h => hc.1 (List.cons.inj h).1
  · exact fun _ h => hc.2 (List.cons.inj h).1

theorem head?_written (s : String) :
    (written s).head? = some '"' ∨ (written s).head? = some '\'' := by
  fun_cases written s <;> simp

/-- A string as a value. -/
theorem reads_written (s : String) : Reads (written s) (.string s) where
  starts c hc := by
    rcases head?_written s with h | h <;> cases h.symm.trans hc <;> decide
  reads rest := by
    rw [scalar?, quoted?_written s (by simp)]
    simp

/-- A word as a value. -/
theorem reads_word (hword : w.all isWordChar = true) (h : word? w = some item) :
    Reads w item where
  starts c hc := by
    have hchar := List.all_eq_true.mp hword c (List.mem_of_mem_head? hc)
    exact ⟨isSpace_eq_false hchar rfl rfl, ne_of_kind hchar rfl, ne_of_kind hchar rfl⟩
  reads rest := by
    have hfirst : (w ++ '\n' :: rest).takeWhile isWordChar = w := by
      rw [List.takeWhile_append_of_pos (List.all_eq_true.mp hword),
        List.takeWhile_cons_of_neg (by decide), List.append_nil]
    have hquoted : quoted? (w ++ '\n' :: rest) = none := by
      refine quoted?_eq_none fun c hc => ?_
      cases w with
      | nil => cases hc; decide
      | cons d ds =>
        cases hc
        have hchar := List.all_eq_true.mp hword c List.mem_cons_self
        exact ⟨ne_of_kind hchar rfl, ne_of_kind hchar rfl⟩
    rw [scalar?, hquoted]
    simp [hfirst, h]

/-- An integer as a value. -/
theorem reads_toDigits {n : Nat} (h : n < Nat.pow 2 63) :
    Reads (Nat.toDigits 10 n) (.integer n) := by
  have hdigit : ∀ c ∈ Nat.toDigits 10 n, c.isDigit = true := fun _ => Json.isDigit_of_mem_toDigits
  refine reads_word (List.all_eq_true.mpr fun c hc => ?_) ?_
  · have halnum : c.isAlphanum = true := by simp [Char.isAlphanum, hdigit c hc]
    simp [isWordChar, halnum]
  · have htrue : Nat.toDigits 10 n ≠ "true".toList := fun heq =>
      absurd (hdigit 't' (heq ▸ List.mem_cons_self)) (by decide)
    have hfalse : Nat.toDigits 10 n ≠ "false".toList := fun heq =>
      absurd (hdigit 'f' (heq ▸ List.mem_cons_self)) (by decide)
    rw [word?, if_neg htrue, if_neg hfalse, integer?_toDigits h]

/-- A truth value as a value. -/
theorem reads_boolean (b : Bool) :
    Reads (if b then "true".toList else "false".toList) (.boolean b) := by
  cases b <;> exact reads_word (by decide) rfl

/-! ### Lines -/

/-- A key that needs no quotes. -/
def isBare (key : String) : Bool := key.toList.all isKeyChar && !key.toList.isEmpty

/-- A line that says something, whatever comes after it. -/
def Says (l : String) (s : Statement) : Prop :=
  ∀ rest, statement? (l.toList ++ '\n' :: rest) = some (s, rest)

theorem skipSpaces_eq_self (h : ∀ c ∈ cs.head?, isSpace c = false) : skipSpaces cs = cs :=
  Text.dropWhile_eq_self_of_head h

theorem ne_of_isKeyChar (h : isKeyChar c = true) :
    isSpace c = false ∧ c ≠ '#' ∧ c ≠ '\n' ∧ c ≠ '\r' ∧ c ≠ '[' :=
  ⟨isSpace_eq_false h rfl rfl, ne_of_kind h rfl, ne_of_kind h rfl, ne_of_kind h rfl,
    ne_of_kind h rfl⟩

theorem endLine?_eq_none (hspace : isSpace c = false) (hcomment : c ≠ '#') (hbreak : c ≠ '\n')
    (hreturn : c ≠ '\r') (cs : List Char) : endLine? (c :: cs) = none := by
  rw [endLine?, skipSpaces_eq_self (by simpa using hspace)]
  simp [hcomment, hbreak, hreturn]

section Key

variable {key : String}

theorem exists_of_isBare (h : isBare key = true) :
    ∃ c cs, key.toList = c :: cs ∧ ∀ d ∈ c :: cs, isKeyChar d = true := by
  rw [isBare, Bool.and_eq_true, List.all_eq_true] at h
  cases hkey : key.toList with
  | nil =>
    rw [hkey] at h
    cases h.2
  | cons c cs => exact ⟨c, cs, rfl, hkey ▸ h.1⟩

/-- **A key is read as it was written.** -/
theorem key?_append (h : isBare key = true) (hrest : ∀ c ∈ rest.head?, isKeyChar c = false) :
    key? (key.toList ++ rest) = some (key, rest) := by
  obtain ⟨c, cs, hkey, hcs⟩ := exists_of_isBare h
  have htake : (key.toList ++ rest).takeWhile isKeyChar = c :: cs := by
    rw [(Text.takeWhile_append_of_head hrest _).1, hkey]
    simpa using hcs
  rw [key?, htake]
  dsimp only
  rw [← hkey, List.drop_left, String.ofList_toList]

theorem keyPath?_append (h : isBare key = true) (hrest : ∀ c ∈ rest.head?, isKeyChar c = false)
    (hdot : ∀ c ∈ (skipSpaces rest).head?, c ≠ '.') (room : Nat) :
    keyPath? (room + 1) (key.toList ++ rest) = some ([], key, skipSpaces rest) := by
  obtain ⟨c, cs, hkey, hcs⟩ := exists_of_isBare h
  have hspace : isSpace c = false := (ne_of_isKeyChar (hcs c List.mem_cons_self)).1
  rw [keyPath?, skipSpaces_eq_self (by simpa [hkey] using hspace), key?_append h hrest]
  dsimp only [bind, Option.bind]
  split
  · next heq => exact absurd rfl (hdot '.' (by rw [heq]; rfl))
  · rfl

/-- A line that starts with a key holds a value. -/
theorem statement?_cons (hc : isKeyChar c = true) (cs : List Char) :
    statement? (c :: cs) = (do
      let (path, key, rest) ← keyPath? depthLimit (c :: cs)
      match rest with
      | '=' :: rest => do
        let (item, rest) ← value? (skipSpaces rest)
        (endLine? rest).map fun rest => (.line ⟨path, key, item⟩, rest)
      | _ => none) := by
  obtain ⟨hspace, hcomment, hbreak, hreturn, hbracket⟩ := ne_of_isKeyChar hc
  rw [statement?, endLine?_eq_none hspace hcomment hbreak hreturn,
    skipSpaces_eq_self (by simpa using hspace)]
  dsimp only
  split
  · next heq => exact absurd (List.cons.inj heq).1 hbracket
  · next heq => exact absurd (List.cons.inj heq).1 hbracket
  · rfl

/-- **A line with a value** says what the value is read as. -/
theorem says_line (h : isBare key = true) (hw : Reads w item) :
    Says (key ++ " = " ++ String.ofList w) (.line ⟨[], key, item⟩) := by
  intro rest
  obtain ⟨c, cs, hkey, hcs⟩ := exists_of_isBare h
  have hblank : skipSpaces (w ++ '\n' :: rest) = w ++ '\n' :: rest := by
    refine skipSpaces_eq_self fun d hd => ?_
    have hstarts := hw.starts
    cases w with
    | nil =>
      cases hd
      rfl
    | cons e es =>
      cases hd
      exact (hstarts _ rfl).1
  have hpath : keyPath? depthLimit (key.toList ++ ' ' :: '=' :: ' ' :: (w ++ '\n' :: rest)) =
      some ([], key, '=' :: ' ' :: (w ++ '\n' :: rest)) :=
    keyPath?_append h (fun _ hd => by cases hd; rfl) (fun _ hd => by cases hd; decide) 78
  have hline : (key ++ " = " ++ String.ofList w).toList ++ '\n' :: rest =
      key.toList ++ ' ' :: '=' :: ' ' :: (w ++ '\n' :: rest) := by
    simp [String.toList_append]
  rw [hkey, List.cons_append] at hpath hline
  rw [hline, statement?_cons (hcs c List.mem_cons_self), hpath]
  show (do
    let (item, rest) ← value? (skipSpaces (w ++ '\n' :: rest))
    (endLine? rest).map fun rest => (Statement.line ⟨[], key, item⟩, rest)) = _
  rw [hblank, hw.value?]
  rfl

/-- **A header** of a table. -/
theorem says_header (h : isBare key = true) : Says ("[" ++ key ++ "]") (.header false [] key) := by
  intro rest
  obtain ⟨c, cs, hkey, hcs⟩ := exists_of_isBare h
  obtain ⟨-, -, -, -, hbracket⟩ := ne_of_isKeyChar (hcs c List.mem_cons_self)
  have hpath : keyPath? depthLimit (key.toList ++ ']' :: '\n' :: rest) =
      some ([], key, ']' :: '\n' :: rest) :=
    keyPath?_append h (fun _ hd => by cases hd; rfl) (fun _ hd => by cases hd; decide) 78
  have hline : ("[" ++ key ++ "]").toList ++ '\n' :: rest =
      '[' :: (key.toList ++ ']' :: '\n' :: rest) := by
    simp [String.toList_append]
  rw [hkey, List.cons_append] at hpath hline
  rw [hline, statement?, endLine?_eq_none rfl (by decide) (by decide) (by decide),
    skipSpaces_eq_self fun _ hd => by cases hd; rfl]
  dsimp only
  split
  · next heq => exact absurd (List.cons.inj (List.cons.inj heq).2).1 hbracket
  · next heq =>
    rw [← (List.cons.inj heq).2, hpath]
    rfl
  · next hnot => exact absurd rfl (hnot _)

theorem says_blank : Says "" .blank := fun _ => rfl

end Key

/-! ### Texts -/

/-- The characters of lines. -/
def textOf (ls : List String) : List Char := ls.flatMap fun l => l.toList ++ ['\n']

theorem textOf_cons (l : String) (ls : List String) :
    textOf (l :: ls) = l.toList ++ '\n' :: textOf ls := by
  simp [textOf]

theorem toList_join_lines (ls : List String) :
    (String.join (ls.map (· ++ "\n"))).toList = textOf ls := by
  rw [String.toList_join, List.flatMap_map]
  simp [textOf, String.toList_append]

theorem statementsIn_textOf {ls : List (String × Statement)} (h : ∀ l ∈ ls, Says l.1 l.2)
    {fuel : Nat} (hfuel : (textOf (ls.map Prod.fst)).length ≤ fuel) :
    statementsIn fuel (textOf (ls.map Prod.fst)) = some (ls.map Prod.snd) := by
  induction ls generalizing fuel with
  | nil =>
    rw [List.map_nil, textOf, List.flatMap_nil, statementsIn]
    rfl
  | cons l ls ih =>
    obtain ⟨hl, hls⟩ := List.forall_mem_cons.mp h
    rw [List.map_cons, textOf_cons] at hfuel ⊢
    rw [List.length_append, List.length_cons] at hfuel
    obtain ⟨fuel, rfl⟩ : ∃ n, fuel = n + 1 := Nat.exists_eq_add_one.mpr (by omega)
    rw [statementsIn, hl]
    · dsimp only [bind, Option.bind]
      rw [ih hls (by omega)]
      rfl
    · exact List.append_ne_nil_of_right_ne_nil _ (List.cons_ne_nil _ _)

/-- **A text of lines** is read as the document that its lines say. -/
theorem read?_of_says {ls : List (String × Statement)} (h : ∀ l ∈ ls, Says l.1 l.2)
    (hmark : ∀ c ∈ (textOf (ls.map Prod.fst)).head?, c ≠ '\uFEFF') :
    read? (String.join ((ls.map Prod.fst).map (· ++ "\n"))) =
      ofSections (sections none [] (ls.map Prod.snd)) := by
  have hwithout : withoutMark (String.join ((ls.map Prod.fst).map (· ++ "\n"))) =
      textOf (ls.map Prod.fst) := by
    rw [withoutMark, toList_join_lines]
    split
    · next heq => exact absurd rfl (hmark _ (by rw [heq]; rfl))
    · rfl
  rw [read?, hwithout, statementsIn_textOf h (Nat.le_succ _)]
  rfl

end LiveBoard.Toml
