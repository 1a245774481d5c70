import LiveBoard.Json.Numeral

/-!
# Tokens of JSON text

A JSON text is cut into tokens from left to right. A text may be read for one of two purposes: to
*keep* what it says, or to *skip* over it. Skipping is laxer with the contents of strings and
numbers, so a token that is lexically complete carries the fault that keeping it would raise, and
a token that cannot be completed carries a fault for either purpose. Nothing follows a token that
cannot be completed.

## Main definitions

* `Json.Token`: the tokens.
* `Json.skipString`, `Json.readString`: the extent and the contents of a string.
* `Json.tokens`: the tokens of a text.
-/

namespace LiveBoard.Json

/-- A token of JSON text. -/
inductive Token
  | openBrace
  | closeBrace
  | openBracket
  | closeBracket
  | colon
  | comma
  | null
  | bool (b : Bool)
  | number (n : Numeral)
  | string (s : Except Fault String)
  /-- A token that cannot be completed, with the fault for keeping and for skipping. It may have
  begun as a string. -/
  | broken (kept skipped : Fault) (quoted : Bool)
  deriving Repr

/-- The white space of JSON. -/
def isSpace (c : Char) : Bool :=
  c == ' ' || c == '\n' || c == '\t' || c == '\r'

/-! ### Strings -/

/-- The value of a hexadecimal digit. -/
def hexDigit? (c : Char) : Option Nat :=
  if '0' ≤ c && c ≤ '9' then some (c.toNat - '0'.toNat)
  else if 'a' ≤ c && c ≤ 'f' then some (c.toNat - 'a'.toNat + 10)
  else if 'A' ≤ c && c ≤ 'F' then some (c.toNat - 'A'.toNat + 10)
  else none

/-- The value of four hexadecimal digits. -/
def hexValue? (a b c d : Char) : Option Nat := do
  return (((← hexDigit? a) * 16 + (← hexDigit? b)) * 16 + (← hexDigit? c)) * 16 + (← hexDigit? d)

/-- Why no four hexadecimal digits stand at the front of a text: it holds fewer than four bytes,
or something else comes first. -/
def hexFault (cs : List Char) : Fault :=
  if (cs.take 4).foldl (fun n c => n + c.utf8Size) 0 < 4 then .endOfText else .malformed

/-- The character that a single letter after a backslash stands for. -/
def escaped? : Char → Option Char
  | '"' => some '"'
  | '\\' => some '\\'
  | '/' => some '/'
  | 'b' => some '\x08'
  | 'f' => some '\x0c'
  | 'n' => some '\n'
  | 'r' => some '\r'
  | 't' => some '\t'
  | _ => none

/-- The text after the string whose opening quote has just been read. Escapes have to be spelled
correctly but may stand for anything. -/
def skipString : List Char → Except Fault (List Char)
  | [] => .error .endOfText
  | '"' :: rest => .ok rest
  | '\\' :: 'u' :: a :: b :: c :: d :: rest =>
    if (hexValue? a b c d).isSome then skipString rest
    else .error (hexFault (a :: b :: c :: d :: rest))
  | '\\' :: 'u' :: rest => .error (hexFault rest)
  | '\\' :: c :: rest => if (escaped? c).isSome then skipString rest else .error .malformed
  | ['\\'] => .error .endOfText
  | c :: rest => if c.toNat < 0x20 then .error .malformed else skipString rest

/-- Whether a code unit is the first half of a surrogate pair. -/
def isHighSurrogate (n : Nat) : Bool := 0xD800 ≤ n && n ≤ 0xDBFF

/-- Whether a code unit is the second half of a surrogate pair. -/
def isLowSurrogate (n : Nat) : Bool := 0xDC00 ≤ n && n ≤ 0xDFFF

/-- The code point of a surrogate pair. -/
def combineSurrogates (high low : Nat) : Nat :=
  0x10000 + (high - 0xD800) * 0x400 + (low - 0xDC00)

/-- Why the second half of a surrogate pair does not stand at the front of a text. -/
def pairFault : List Char → Fault
  | [] => .endOfText
  | '\\' :: [] => .endOfText
  | '\\' :: 'u' :: rest =>
    match rest with
    | a :: b :: c :: d :: _ =>
      if (hexValue? a b c d).isSome then .malformed else hexFault rest
    | _ => hexFault rest
  | _ => .malformed

/-- The contents of the string whose opening quote has just been read. Halves of surrogate pairs
have to come together. -/
def readString : List Char → Except Fault (List Char)
  | [] => .error .endOfText
  | '"' :: _ => .ok []
  | '\\' :: 'u' :: a :: b :: c :: d :: rest =>
    match hexValue? a b c d with
    | none => .error (hexFault (a :: b :: c :: d :: rest))
    | some n =>
      if isLowSurrogate n then .error .malformed
      else if isHighSurrogate n then
        match rest with
        | '\\' :: 'u' :: e :: f :: g :: h :: rest' =>
          match hexValue? e f g h with
          | some m =>
            if isLowSurrogate m then
              (readString rest').map (Char.ofNat (combineSurrogates n m) :: ·)
            else .error .malformed
          | none => .error (pairFault rest)
        | _ => .error (pairFault rest)
      else (readString rest).map (Char.ofNat n :: ·)
  | '\\' :: 'u' :: rest => .error (hexFault rest)
  | '\\' :: c :: rest =>
    match escaped? c with
    | some e => (readString rest).map (e :: ·)
    | none => .error .malformed
  | ['\\'] => .error .endOfText
  | c :: rest =>
    if c.toNat < 0x20 then .error .malformed else (readString rest).map (c :: ·)

/-- The token of a string whose opening quote has just been read, and the text after it. -/
def scanString (cs : List Char) : Token × List Char :=
  match skipString cs, readString cs with
  | .ok rest, contents => (.string (contents.map String.ofList), rest)
  | .error f, .ok _ => (.broken f f true, [])
  | .error f, .error g => (.broken g f true, [])

/-! ### Numbers and words -/

/-- The fault of a missing digit: skipping calls it malformed even where the text ends. -/
def missingDigit (cs : List Char) : Token × List Char :=
  (.broken (if cs.isEmpty then .endOfText else .malformed) .malformed false, [])

/-- The sign in front of an exponent, `true` for a minus, and the text after it. -/
def exponentSign : List Char → Bool × List Char
  | '+' :: cs => (false, cs)
  | '-' :: cs => (true, cs)
  | cs => (false, cs)

/-- The exponent of a number, if there is one. -/
def scanExponent (n : Numeral) : List Char → Token × List Char
  | [] => (.number n, [])
  | c :: cs =>
    if c = 'e' || c = 'E' then
      let (down, ds) := exponentSign cs
      if (ds.takeWhile Char.isDigit).isEmpty then missingDigit ds
      else
        (.number { n with exponent := some (down, ds.takeWhile Char.isDigit) },
          ds.dropWhile Char.isDigit)
    else (.number n, c :: cs)

/-- The fraction and the exponent of a number, where there are any. -/
def scanFraction (n : Numeral) : List Char → Token × List Char
  | [] => (.number n, [])
  | c :: cs =>
    if c = '.' then
      if (cs.takeWhile Char.isDigit).isEmpty then missingDigit cs
      else scanExponent { n with fraction := cs.takeWhile Char.isDigit } (cs.dropWhile Char.isDigit)
    else scanExponent n (c :: cs)

/-- The number that begins with `c`, its sign read before. No digit follows a leading zero. -/
def scanNumber (negative : Bool) (c : Char) (cs : List Char) : Token × List Char :=
  if c = '0' then
    if (cs.takeWhile Char.isDigit).isEmpty then scanFraction ⟨negative, ['0'], [], none⟩ cs
    else (.broken .malformed .malformed false, [])
  else if c.isDigit then
    scanFraction ⟨negative, c :: cs.takeWhile Char.isDigit, [], none⟩ (cs.dropWhile Char.isDigit)
  else (.broken .malformed .malformed false, [])

/-- The number after a minus sign. -/
def scanNegative : List Char → Token × List Char
  | [] => missingDigit []
  | c :: cs => scanNumber true c cs

/-- A word whose remaining letters are `letters`. -/
def scanWord (t : Token) : List Char → List Char → Token × List Char
  | [], cs => (t, cs)
  | _ :: _, [] => (.broken .endOfText .endOfText false, [])
  | w :: ws, c :: cs =>
    if w = c then scanWord t ws cs else (.broken .malformed .malformed false, [])

/-! ### Texts -/

/-- The token that begins with `c`, and the text after it. -/
def scanToken (c : Char) (cs : List Char) : Token × List Char :=
  match c with
  | '\x7b' => (.openBrace, cs)
  | '\x7d' => (.closeBrace, cs)
  | '[' => (.openBracket, cs)
  | ']' => (.closeBracket, cs)
  | ':' => (.colon, cs)
  | ',' => (.comma, cs)
  | '"' => scanString cs
  | 'n' => scanWord .null ['u', 'l', 'l'] cs
  | 't' => scanWord (.bool true) ['r', 'u', 'e'] cs
  | 'f' => scanWord (.bool false) ['a', 'l', 's', 'e'] cs
  | '-' => scanNegative cs
  | c => scanNumber false c cs

theorem skipString_length_le {cs rest : List Char} (h : skipString cs = .ok rest) :
    rest.length ≤ cs.length := by
  fun_induction skipString cs <;> simp_all <;> omega

theorem scanString_length_le (cs : List Char) : (scanString cs).2.length ≤ cs.length := by
  unfold scanString
  split
  · next h => exact skipString_length_le h
  · simp
  · simp

theorem length_dropWhile_le {α : Type} (p : α → Bool) (l : List α) :
    (l.dropWhile p).length ≤ l.length :=
  (List.dropWhile_sublist p).length_le

theorem exponentSign_length_le (cs : List Char) : (exponentSign cs).2.length ≤ cs.length := by
  unfold exponentSign
  split <;> simp

theorem scanExponent_length_le (n : Numeral) (cs : List Char) :
    (scanExponent n cs).2.length ≤ cs.length := by
  cases cs with
  | nil => simp [scanExponent]
  | cons c cs =>
    rw [scanExponent]
    split
    · have hsign := exponentSign_length_le cs
      generalize exponentSign cs = signed at hsign ⊢
      dsimp only
      split
      · simp [missingDigit]
      · exact Nat.le_trans (length_dropWhile_le _ _) (Nat.le_succ_of_le hsign)
    · simp

theorem scanFraction_length_le (n : Numeral) (cs : List Char) :
    (scanFraction n cs).2.length ≤ cs.length := by
  cases cs with
  | nil => simp [scanFraction]
  | cons c cs =>
    rw [scanFraction]
    split
    · split
      · simp [missingDigit]
      · exact Nat.le_trans (scanExponent_length_le _ _)
          (Nat.le_trans (length_dropWhile_le _ _) (Nat.le_succ _))
    · exact scanExponent_length_le _ _

theorem scanNumber_length_le (negative : Bool) (c : Char) (cs : List Char) :
    (scanNumber negative c cs).2.length ≤ cs.length := by
  unfold scanNumber
  split
  · split
    · exact scanFraction_length_le _ _
    · simp
  · split
    · exact Nat.le_trans (scanFraction_length_le _ _) (length_dropWhile_le _ _)
    · simp

theorem scanNegative_length_le (cs : List Char) : (scanNegative cs).2.length ≤ cs.length := by
  cases cs with
  | nil => simp [scanNegative, missingDigit]
  | cons c cs => exact Nat.le_succ_of_le (scanNumber_length_le _ _ _)

theorem scanWord_length_le (t : Token) (ws cs : List Char) :
    (scanWord t ws cs).2.length ≤ cs.length := by
  fun_induction scanWord t ws cs <;> grind

/-- What is left after a token is no longer than the text behind its first character. -/
theorem scanToken_length_le (c : Char) (cs : List Char) :
    (scanToken c cs).2.length ≤ cs.length := by
  unfold scanToken
  split
  any_goals exact Nat.le_refl _
  · exact scanString_length_le cs
  · exact scanWord_length_le _ _ cs
  · exact scanWord_length_le _ _ cs
  · exact scanWord_length_le _ _ cs
  · exact scanNegative_length_le cs
  · exact scanNumber_length_le _ _ cs

/-- The tokens of a text, up to and including the first that cannot be completed. -/
def tokens : List Char → List Token
  | [] => []
  | c :: cs =>
    if isSpace c then tokens cs
    else
      have := scanToken_length_le c cs
      (scanToken c cs).1 :: tokens (scanToken c cs).2
  termination_by cs => cs.length

end LiveBoard.Json
