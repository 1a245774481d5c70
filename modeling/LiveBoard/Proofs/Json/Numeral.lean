import LiveBoard.Proofs.Decimal.Finite
import LiveBoard.Proofs.Json.Tree
import LiveBoard.Proofs.Text.Boundary

/-!
# Numbers of texts

Where a number ends is decided by the character behind it. So a text that is one number is the same
number where a space, a comma or a closing mark follows. Of the numbers that come from texts,
integers are at hand in all their digits and read back from them. For a double this is a matter of
its decimal, and all that is said here is that a double that comes from a text is finite, so that it
is written with a decimal at all.

## Main definitions

* `EndsNumber`: what may follow a number.
* `Number.IsSound`: a number that a text can stand for.
* `ReadsBack`: a double whose decimal stands for it.

## Main results

* `Numeral.isSound_of_value`: what a spelled number can stand for.
* `Number.isReadable_of_tokens`: a number whose text is its spelling reads back anywhere.
* `Number.isReadable_integer`, `Number.isReadable_double`: numbers that read back.
-/

namespace LiveBoard.Json

/-! ### Where a number ends -/

section Scan

variable {m n : Numeral} {cs r rest : List Char} {c : Char}

/-- What may follow a number: nothing, or a character that no number goes on with. -/
def EndsNumber (rest : List Char) : Prop :=
  ∀ c ∈ rest.head?, c.isDigit = false ∧ c ≠ '.' ∧ c ≠ 'e' ∧ c ≠ 'E'

theorem EndsValue.endsNumber (h : EndsValue rest) : EndsNumber rest := by
  intro c hc
  rcases h c hc with rfl | rfl | rfl <;> decide

/-- Digits stop where they did before. -/
theorem takeWhile_isDigit_append (h : EndsNumber rest) (cs : List Char) :
    (cs ++ rest).takeWhile Char.isDigit = cs.takeWhile Char.isDigit ∧
      (cs ++ rest).dropWhile Char.isDigit = cs.dropWhile Char.isDigit ++ rest :=
  Text.takeWhile_append_of_head (fun c hc => (h c hc).1) cs

theorem scanExponent_endsNumber (h : EndsNumber rest) :
    scanExponent n rest = (.number n, rest) := by
  cases rest with
  | nil => rfl
  | cons c cs =>
    obtain ⟨-, -, he, hE⟩ := h c rfl
    simp [scanExponent, he, hE]

theorem scanFraction_endsNumber (h : EndsNumber rest) :
    scanFraction n rest = (.number n, rest) := by
  cases rest with
  | nil => rfl
  | cons c cs =>
    obtain ⟨-, hpoint, -⟩ := h c rfl
    rw [scanFraction, if_neg hpoint, scanExponent_endsNumber h]

theorem exponentSign_append (hcs : cs ≠ []) :
    exponentSign (cs ++ rest) = ((exponentSign cs).1, (exponentSign cs).2 ++ rest) := by
  cases cs with
  | nil => exact absurd rfl hcs
  | cons c cs =>
    rw [List.cons_append, exponentSign.eq_def, exponentSign.eq_def]
    split <;> split <;> simp_all

theorem scanExponent_append (hrest : EndsNumber rest) (h : scanExponent n cs = (.number m, r)) :
    scanExponent n (cs ++ rest) = (.number m, r ++ rest) := by
  cases cs with
  | nil =>
    cases h
    exact scanExponent_endsNumber hrest
  | cons c cs =>
    rw [scanExponent] at h
    rw [List.cons_append, scanExponent]
    split at h
    · next he =>
      rw [if_pos he]
      dsimp only at h ⊢
      split at h
      · cases h
      · next hdigits =>
        have hne : cs ≠ [] := by
          rintro rfl
          exact hdigits rfl
        obtain ⟨htake, hdrop⟩ := takeWhile_isDigit_append hrest (exponentSign cs).2
        rw [exponentSign_append hne, htake, hdrop, if_neg hdigits]
        cases h
        rfl
    · next he =>
      rw [if_neg he]
      cases h
      rfl

theorem scanFraction_append (hrest : EndsNumber rest)
    (h : scanFraction n cs = (.number m, r)) :
    scanFraction n (cs ++ rest) = (.number m, r ++ rest) := by
  cases cs with
  | nil =>
    cases h
    exact scanFraction_endsNumber hrest
  | cons c cs =>
    rw [scanFraction] at h
    rw [List.cons_append, scanFraction]
    split at h
    · next hpoint =>
      rw [if_pos hpoint]
      split at h
      · cases h
      · next hdigits =>
        obtain ⟨htake, hdrop⟩ := takeWhile_isDigit_append hrest cs
        rw [htake, hdrop, if_neg hdigits]
        exact scanExponent_append hrest h
    · next hpoint =>
      rw [if_neg hpoint]
      exact scanExponent_append hrest h

theorem scanNumber_append {negative : Bool} (hrest : EndsNumber rest)
    (h : scanNumber negative c cs = (.number m, r)) :
    scanNumber negative c (cs ++ rest) = (.number m, r ++ rest) := by
  obtain ⟨htake, hdrop⟩ := takeWhile_isDigit_append hrest cs
  rw [scanNumber] at h ⊢
  rw [htake, hdrop]
  split at h
  · next hzero =>
    rw [if_pos hzero]
    split at h
    · next hdigits =>
      rw [if_pos hdigits]
      exact scanFraction_append hrest h
    · cases h
  · next hzero =>
    rw [if_neg hzero]
    split at h
    · next hdigit =>
      rw [if_pos hdigit]
      exact scanFraction_append hrest h
    · cases h

theorem scanNegative_append (hrest : EndsNumber rest) (h : scanNegative cs = (.number m, r)) :
    scanNegative (cs ++ rest) = (.number m, r ++ rest) := by
  cases cs with
  | nil => cases h
  | cons c cs => exact scanNumber_append hrest h

theorem ne_number_of_scanWord {t : Token} (ht : ∀ n, t ≠ .number n) {ws : List Char} :
    scanWord t ws cs ≠ (.number m, r) := by
  fun_induction scanWord t ws cs with
  | case1 cs => exact fun h => ht m (congrArg Prod.fst h)
  | case2 w ws =>
    intro h
    cases h
  | case3 ws c cs ih => exact ih
  | case4 w ws c cs hne =>
    intro h
    cases h

/-- A number ends where it did before. -/
theorem scanToken_append (hrest : EndsNumber rest) (h : scanToken c cs = (.number m, r)) :
    scanToken c (cs ++ rest) = (.number m, r ++ rest) := by
  rw [scanToken.eq_def] at h
  split at h
  case h_7 =>
    rw [scanString] at h
    split at h <;> cases h
  case h_8 | h_9 | h_10 => exact absurd h (ne_number_of_scanWord (by simp))
  case h_11 => exact scanNegative_append hrest h
  case h_12 =>
    rw [scanToken]
    · exact scanNumber_append hrest h
    all_goals assumption
  all_goals cases h

theorem forall_isSpace_of_tokens_eq_nil (h : tokens cs = []) : ∀ c ∈ cs, isSpace c = true := by
  induction cs with
  | nil => simp
  | cons c cs ih =>
    rw [tokens] at h
    split at h
    · next hspace => exact List.forall_mem_cons.mpr ⟨hspace, ih h⟩
    · cases h

theorem tokens_append_of_isSpace (h : ∀ c ∈ cs, isSpace c = true) (rest : List Char) :
    tokens (cs ++ rest) = tokens rest := by
  induction cs with
  | nil => rfl
  | cons c cs ih =>
    obtain ⟨hc, hcs⟩ := List.forall_mem_cons.mp h
    rw [List.cons_append, tokens, if_pos hc, ih hcs]

/-- **A text that is one number** is the same number where something else follows. -/
theorem tokens_append_of_number (h : tokens cs = [.number m]) (hrest : EndsNumber rest) :
    tokens (cs ++ rest) = .number m :: tokens rest := by
  induction cs with
  | nil => simp [tokens] at h
  | cons c cs ih =>
    rw [tokens] at h
    split at h
    · next hspace => rw [List.cons_append, tokens, if_pos hspace, ih h]
    · next hspace =>
      obtain ⟨htoken, hnil⟩ := List.cons.inj h
      have hscan : scanToken c cs = (.number m, (scanToken c cs).2) := Prod.ext htoken rfl
      rw [List.cons_append, tokens_cons (by simpa using hspace) (scanToken_append hrest hscan),
        tokens_append_of_isSpace (forall_isSpace_of_tokens_eq_nil hnil)]

end Scan

namespace Number

/-- A number whose text is its spelling reads back wherever it stands. -/
theorem isReadable_of_tokens {n : Number} {m : Numeral} (h : tokens n.print = [.number m])
    (hm : m.value = .ok n) : n.IsReadable := by
  have hnumeral : n.numeral = m := by rw [numeral, h]
  constructor
  · intro rest hrest
    rw [hnumeral, tokens_append_of_number h hrest.endsNumber]
  · rw [hnumeral, hm]

end Number

/-! ### Integers -/

namespace Numeral

theorem natOfDigits_toDigits (n : Nat) : natOfDigits (Nat.toDigits 10 n) = n :=
  Nat.ofDigitChars_ten_toDigits

theorem le_foldl_digits (ds : List Char) (n : Nat) :
    n ≤ ds.foldl (fun n d => 10 * n + digit d) n := by
  induction ds generalizing n with
  | nil => exact Nat.le_refl n
  | cons d ds ih => exact Nat.le_trans (by omega) (ih (10 * n + digit d))

/-- Digits whose number fits 64 bits are all taken. -/
theorem absorb_eq {ds : List Char} {n : Nat}
    (h : ds.foldl (fun n d => 10 * n + digit d) n < UInt64.size) :
    absorb n ds = (ds.foldl (fun n d => 10 * n + digit d) n, ds.length) := by
  induction ds generalizing n with
  | nil => rfl
  | cons d ds ih =>
    have hnext : 10 * n + digit d < UInt64.size :=
      Nat.lt_of_le_of_lt (le_foldl_digits ds (10 * n + digit d)) h
    rw [absorb, if_pos hnext, ih h]
    rfl

theorem absorb_toDigits {n : Nat} (h : n < UInt64.size) :
    absorb 0 (Nat.toDigits 10 n) = (n, (Nat.toDigits 10 n).length) := by
  have hn : (Nat.toDigits 10 n).foldl (fun n d => 10 * n + digit d) 0 = n :=
    natOfDigits_toDigits n
  rw [absorb_eq (by rwa [hn]), hn]

/-- What is taken fits 64 bits. -/
theorem absorb_lt {n : Nat} (h : n < UInt64.size) (ds : List Char) :
    (absorb n ds).1 < UInt64.size := by
  induction ds generalizing n with
  | nil => exact h
  | cons d ds ih =>
    rw [absorb]
    dsimp only
    split
    · next hnext => exact ih hnext
    · exact h

end Numeral

theorem isDigit_of_mem_toDigits {n : Nat} {c : Char} (h : c ∈ Nat.toDigits 10 n) :
    c.isDigit = true :=
  Nat.isDigit_of_mem_toDigits (by decide) (by decide) h

theorem isSpace_of_isDigit {c : Char} (h : c.isDigit = true) : isSpace c = false := by
  cases hspace : isSpace c with
  | false => rfl
  | true =>
    simp only [isSpace, Bool.or_eq_true, beq_iff_eq] at hspace
    obtain ((rfl | rfl) | rfl) | rfl := hspace <;> exact absurd h (by decide)

/-- No digits but those of zero begin with a zero. -/
theorem toDigits_eq_cons_zero {n : Nat} {ds : List Char} (h : Nat.toDigits 10 n = '0' :: ds) :
    ds = [] := by
  induction n using Nat.base_induction 10 (by decide) generalizing ds with
  | single n hn =>
    rw [Nat.toDigits_of_lt_base hn] at h
    exact (List.cons.inj h).2.symm
  | digit n d hd hn ih =>
    rw [← Nat.toDigits_append_toDigits (by decide) hn hd] at h
    obtain ⟨c, cs, hcs⟩ := List.exists_cons_of_ne_nil (Nat.toDigits_ne_nil (n := n) (b := 10))
    rw [hcs, List.cons_append] at h
    obtain ⟨rfl, -⟩ := List.cons.inj h
    have hzero := Numeral.natOfDigits_toDigits n
    rw [hcs, ih hcs] at hzero
    exact absurd hzero (Nat.ne_of_lt hn)

theorem scanNumber_toDigits (negative : Bool) {n : Nat} {c : Char} {cs : List Char}
    (h : Nat.toDigits 10 n = c :: cs) :
    scanNumber negative c cs = (.number ⟨negative, c :: cs, [], none⟩, []) := by
  have hdigit : ∀ d ∈ c :: cs, d.isDigit = true := fun d hd => isDigit_of_mem_toDigits (h ▸ hd)
  obtain ⟨hc, hcs⟩ := List.forall_mem_cons.mp hdigit
  have htake : cs.takeWhile Char.isDigit = cs := by
    rw [← List.append_nil cs, List.takeWhile_append_of_pos hcs]
    rfl
  have hdrop : cs.dropWhile Char.isDigit = [] := by
    rw [← List.append_nil cs, List.dropWhile_append_of_pos hcs]
    rfl
  rw [scanNumber, htake, hdrop]
  split
  · next hzero =>
    subst hzero
    rw [toDigits_eq_cons_zero h]
    rfl
  · rfl

theorem scanToken_toDigits {n : Nat} {c : Char} {cs : List Char}
    (h : Nat.toDigits 10 n = c :: cs) :
    scanToken c cs = (.number ⟨false, c :: cs, [], none⟩, []) := by
  have hdigit : c.isDigit = true := isDigit_of_mem_toDigits (h ▸ List.mem_cons_self)
  rw [← scanNumber_toDigits false h, scanToken]
  all_goals
    rintro rfl
    exact absurd hdigit (by decide)

/-- The text of an integer is its digits, with a sign in front of negative ones. -/
theorem tokens_print_integer (n : Int) : tokens (Number.integer n).print =
    [.number ⟨decide (n < 0), Nat.toDigits 10 n.natAbs, [], none⟩] := by
  obtain ⟨c, cs, hcs⟩ := List.exists_cons_of_ne_nil (Nat.toDigits_ne_nil (n := n.natAbs) (b := 10))
  have hnil : tokens [] = [] := by rw [tokens]
  have hdigit : c.isDigit = true := isDigit_of_mem_toDigits (hcs ▸ List.mem_cons_self)
  rw [Number.print, hcs]
  split
  · next hn =>
    have hscan : scanToken '-' (c :: cs) = (.number ⟨true, c :: cs, [], none⟩, []) :=
      scanNumber_toDigits true hcs
    rw [tokens_cons rfl hscan, hnil, decide_eq_true hn]
  · next hn =>
    rw [tokens_cons (isSpace_of_isDigit hdigit) (scanToken_toDigits hcs), hnil, decide_eq_false hn]

/-! ### Numbers of texts -/

/-- A number that a text can stand for: an integer of 64 bits, or a finite double. -/
def Number.IsSound : Number → Prop
  | .integer n => -2 ^ 63 ≤ n ∧ n < 2 ^ 64
  | .double x => x.isFinite = true

/-- An integer of 64 bits reads back wherever it stands. -/
theorem Number.isReadable_integer {n : Int} (h : (Number.integer n).IsSound) :
    (Number.integer n).IsReadable := by
  refine isReadable_of_tokens (tokens_print_integer n) ?_
  obtain ⟨hlow, hhigh⟩ := h
  have hsize : n.natAbs < UInt64.size := by
    simp only [UInt64.size]
    omega
  have hbound : Nat.pow 2 63 = 2 ^ 63 := rfl
  simp only [Numeral.value, Numeral.absorb_toDigits hsize, Nat.sub_self, hbound, List.isEmpty_nil,
    Option.isNone_none, decide_true, Bool.and_self, if_true]
  rcases Int.lt_or_le n 0 with hn | hn
  · have hsmall : (decide (n.natAbs = 0) || decide (2 ^ 63 < n.natAbs)) = false := by
      rw [decide_eq_false (by omega), decide_eq_false (by omega), Bool.or_self]
    have hvalue : -(n.natAbs : Int) = n := by omega
    simp only [decide_eq_true hn, hsmall, hvalue, Bool.not_true, Bool.false_eq_true, if_false]
  · have hvalue : (n.natAbs : Int) = n := by omega
    simp only [decide_eq_false (Int.not_lt.mpr hn), hvalue, Bool.not_false, if_true]

namespace Numeral

theorem isFinite_of_withExponent {negative : Bool} {significand : Nat} {shift : Int}
    {exponent : Option (Bool × List Char)} {x : Float} (hs : significand < UInt64.size)
    (h : withExponent negative significand shift exponent = .ok x) : x.isFinite = true := by
  have hfits : ∀ e, withExponent.fits (Decimal.scaled negative significand e) = .ok x →
      x.isFinite = true := by
    intro e he
    cases hscaled : Decimal.scaled negative significand e with
    | none => rw [hscaled] at he; cases he
    | some y =>
      rw [hscaled] at he
      cases he
      exact Decimal.isFinite_scaled hs hscaled
  rw [withExponent.eq_def] at h
  split at h
  · exact hfits _ h
  · dsimp only at h
    split at h
    · exact hfits _ h
    · split at h
      · cases h
      · cases h
        split <;> decide +kernel

/-- What a spelled number can stand for. -/
theorem isSound_of_value {n : Numeral} {number : Number} (h : n.value = .ok number) :
    number.IsSound := by
  have hs : (absorb 0 n.whole).1 < UInt64.size := absorb_lt (by decide) n.whole
  rw [value] at h
  generalize absorb 0 n.whole = taken at h hs
  obtain ⟨s, count⟩ := taken
  dsimp only at h hs
  have hbound : Nat.pow 2 63 = 2 ^ 63 := rfl
  split at h
  · split at h
    · cases h
      simp only [UInt64.size] at hs
      simp only [Number.IsSound]
      omega
    · split at h
      · cases h
        exact Decimal.isFinite_neg (Decimal.isFinite_ofNat hs)
      · next hsmall =>
        cases h
        rw [hbound] at hsmall
        simp only [Number.IsSound]
        simp at hsmall
        omega
  · have hs' : (absorb s n.fraction).1 < UInt64.size := absorb_lt hs n.fraction
    generalize absorb s n.fraction = taken at h hs'
    obtain ⟨s', decimals⟩ := taken
    dsimp only at h hs'
    obtain ⟨x, hx, rfl⟩ := map_eq_ok h
    exact isFinite_of_withExponent hs' hx

end Numeral

/-! ### Texts that stand for a number -/

/-- The tree of an array or object. -/
def Node.IsContainer : Node → Prop
  | .array _ _ | .object _ _ => True
  | _ => False

/-- The tree so far is inside an array or object, or is one. -/
def Progress.IsContainer : Progress → Prop
  | .going frames _ => frames ≠ []
  | .done root => root.IsContainer

theorem isContainer_finish (f : Frame) (ending : Ending) : (f.finish ending).IsContainer := by
  cases f <;> trivial

theorem isContainer_enclose {n : Node} (h : n.IsContainer) (fs : List Frame) :
    (enclose n fs).IsContainer := by
  induction fs generalizing n with
  | nil => exact h
  | cons f fs ih => exact ih (isContainer_finish _ _)

section IsContainer

variable {fs : List Frame}

theorem isContainer_enclose_of_ne_nil (h : fs ≠ []) (n : Node) : (enclose n fs).IsContainer := by
  cases fs with
  | nil => exact absurd rfl h
  | cons f fs => exact isContainer_enclose (isContainer_finish _ _) fs

theorem isContainer_breakOff (h : fs ≠ []) (ending : Ending) :
    (breakOff ending fs).IsContainer := by
  cases fs with
  | nil => exact absurd rfl h
  | cons f fs => exact isContainer_enclose (isContainer_finish _ _) fs

theorem isContainer_deliver (h : fs ≠ []) (n : Node) : (deliver n fs).IsContainer := by
  cases fs with
  | nil => exact absurd rfl h
  | cons f fs => exact List.cons_ne_nil _ _

theorem isContainer_close (h : fs ≠ []) : (close fs).IsContainer := by
  rcases fs with _ | ⟨f, _ | ⟨f', fs⟩⟩
  · exact absurd rfl h
  · exact isContainer_finish f .closed
  · exact List.cons_ne_nil _ _

theorem isContainer_beginMember (h : fs ≠ []) (k : Key) : (beginMember k fs).IsContainer := by
  rcases fs with _ | ⟨_ | _, fs⟩
  · exact absurd rfl h
  · exact List.cons_ne_nil _ _
  · exact List.cons_ne_nil _ _

theorem isContainer_beginValue (h : fs ≠ []) (t : Token) : (beginValue fs t).IsContainer := by
  cases t with
  | openBrace | openBracket => exact List.cons_ne_nil _ _
  | null | bool | number | string => exact isContainer_deliver h _
  | closeBrace | closeBracket | colon | comma | broken => exact isContainer_enclose_of_ne_nil h _

theorem isContainer_advance (h : fs ≠ []) (expect : Expect) (t : Token) :
    (advance fs expect t).IsContainer := by
  fun_cases advance fs expect t
  all_goals first
    | exact isContainer_beginValue h _
    | exact isContainer_close h
    | exact isContainer_beginMember h _
    | exact isContainer_breakOff h _
    | exact isContainer_enclose_of_ne_nil h _
    | exact h

/-- What begins as an array or object is one, however it goes on. -/
theorem isContainer_build (h : fs ≠ []) (expect : Expect) (ts : List Token) :
    (build fs expect ts).root.IsContainer := by
  induction ts generalizing fs expect with
  | nil =>
    cases expect with
    | value | colon => exact isContainer_enclose_of_ne_nil h _
    | firstItem | firstKey | separator | key => exact isContainer_breakOff h _
  | cons t ts ih =>
    have hstep := isContainer_advance h expect t
    rw [build_cons]
    cases hnext : advance fs expect t with
    | going fs' expect' => rw [hnext] at hstep; exact ih hstep expect'
    | done root => rw [hnext] at hstep; exact hstep

end IsContainer

/-- Of an array or object an array or object is kept. -/
theorem eq_array_or_eq_object_of_keep {n : Node} {room : Nat} {v : Value}
    (h : n.keep room = .ok v) (hn : n.IsContainer) :
    (∃ vs, v = .array vs) ∨ ∃ ms, v = .object ms := by
  cases n with
  | array items ending =>
    cases room with
    | zero => cases h
    | succ room =>
      obtain ⟨vs, -, h⟩ := bind_eq_ok h
      obtain ⟨-, -, h⟩ := bind_eq_ok h
      cases h
      exact .inl ⟨vs, rfl⟩
  | object members ending =>
    cases room with
    | zero => cases h
    | succ room =>
      obtain ⟨ms, -, h⟩ := bind_eq_ok h
      obtain ⟨-, -, h⟩ := bind_eq_ok h
      cases h
      exact .inr ⟨_, rfl⟩
  | _ => exact hn.elim

theorem not_isContainer_of_keep_number {n : Node} {room : Nat} {number : Number}
    (h : n.keep room = .ok (.number number)) : ¬n.IsContainer := by
  intro hn
  rcases eq_array_or_eq_object_of_keep h hn with ⟨vs, hv⟩ | ⟨ms, hv⟩ <;> cases hv

/-- **A text that stands for a number** is its spelling. -/
theorem tokens_of_ofText_number {room : Nat} {cs : List Char} {number : Number}
    (h : Value.ofText room (String.ofList cs) = .ok (.number number)) :
    ∃ m : Numeral, tokens cs = [.number m] ∧ m.value = .ok number := by
  rw [Value.ofText, Document.ofText, Document.ofChars, String.toList_ofList] at h
  obtain ⟨v, hkeep, h⟩ := bind_eq_ok h
  split at h
  · cases h
  next htrailing =>
  cases h
  cases hts : tokens cs with
  | nil =>
    rw [hts] at hkeep
    cases hkeep
  | cons t ts =>
    rw [hts, build_cons] at hkeep htrailing
    cases t with
    | number m =>
      obtain ⟨n, hn, hv⟩ := map_eq_ok hkeep
      cases hv
      cases ts with
      | nil => exact ⟨m, rfl, hn⟩
      | cons t ts => exact absurd rfl htrailing
    | openBrace | openBracket =>
      exact absurd (isContainer_build (List.cons_ne_nil _ _) _ ts)
        (not_isContainer_of_keep_number hkeep)
    | string s =>
      obtain ⟨a, -, hv⟩ := map_eq_ok hkeep
      cases hv
    | _ => cases hkeep

/-- The decimal of the double stands for the double. -/
def ReadsBack (x : Float) : Prop :=
  Value.ofText maxDepth (String.ofList (Decimal.ofDouble x)) = .ok (.number (.double x))

instance (x : Float) : Decidable (ReadsBack x) := inferInstanceAs (Decidable (_ = _))

/-- A finite double reads back wherever it stands, if its decimal stands for it. -/
theorem Number.isReadable_double {x : Float} (hx : x.isFinite = true) (h : ReadsBack x) :
    (Number.double x).IsReadable := by
  obtain ⟨m, htokens, hm⟩ := tokens_of_ofText_number h
  refine isReadable_of_tokens ?_ hm
  rwa [print, if_pos hx]

end LiveBoard.Json
