import LiveBoard.Json.Decoder
import Mathlib.Tactic.SplitIfs

/-!
# The tokens of printed text

Printing a value and cutting the text into tokens gives the tokens that the value stands for, and
leaves alone whatever follows. A string comes back as it was, whatever characters it holds. A
number comes back where its text reads as a number; integers and finite doubles are printed so,
and which of them do is a matter of their decimals, so it is a condition on the value here.

## Main definitions

* `Number.IsReadable`, `Value.IsReadable`: the numbers of a value read back from their texts.
* `Value.tokens`: the tokens of a value.

## Main results

* `tokens_quote`: a printed string is one token.
* `tokens_chars`: the tokens of a printed value, whatever follows it.
-/

namespace LiveBoard.Json

/-! ### Strings -/

theorem hexValue?_hexDigit :
    ∀ n < 0x20, hexValue? '0' '0' (hexDigit (n / 16)) (hexDigit n) = some n := by
  decide

/-- A character that is spelled by itself is passed over. -/
theorem skipString_plain {c : Char} (hquote : c ≠ '"') (hback : c ≠ '\\') (hc : 0x20 ≤ c.toNat)
    (cs : List Char) : skipString (c :: cs) = skipString cs := by
  rw [skipString.eq_def]
  split
  case h_7 heq =>
    obtain ⟨rfl, rfl⟩ := List.cons.inj heq
    exact if_neg (Nat.not_lt.mpr hc)
  all_goals simp_all

theorem readString_plain {c : Char} (hquote : c ≠ '"') (hback : c ≠ '\\') (hc : 0x20 ≤ c.toNat)
    (cs : List Char) : readString (c :: cs) = (readString cs).map (c :: ·) := by
  rw [readString.eq_def]
  split
  case h_7 heq =>
    obtain ⟨rfl, rfl⟩ := List.cons.inj heq
    exact if_neg (Nat.not_lt.mpr hc)
  all_goals simp_all

theorem skipString_escape (c : Char) (cs : List Char) :
    skipString (escape c ++ cs) = skipString cs := by
  unfold escape
  split_ifs with h₁ h₂ h₃ h₄ h₅ h₆ h₇ h₈
  · rfl
  · rfl
  · exact skipString_plain h₁ h₂ h₃ cs
  · rfl
  · rfl
  · rfl
  · rfl
  · rfl
  · simp [skipString, hexValue?_hexDigit c.toNat (by omega)]

theorem readString_escape (c : Char) (cs : List Char) :
    readString (escape c ++ cs) = (readString cs).map (c :: ·) := by
  unfold escape
  split_ifs with h₁ h₂ h₃ h₄ h₅ h₆ h₇ h₈
  · rw [h₁]; rfl
  · rw [h₂]; rfl
  · exact readString_plain h₁ h₂ h₃ cs
  · rw [h₄]; rfl
  · rw [h₅]; rfl
  · rw [h₆]; rfl
  · rw [h₇]; rfl
  · rw [h₈]; rfl
  · have hlow : isLowSurrogate c.toNat = false := by simp [isLowSurrogate]; omega
    have hhigh : isHighSurrogate c.toNat = false := by simp [isHighSurrogate]; omega
    simp [readString, hexValue?_hexDigit c.toNat (by omega), hlow, hhigh]

theorem skipString_flatMap_escape (cs rest : List Char) :
    skipString (cs.flatMap escape ++ '"' :: rest) = .ok rest := by
  induction cs with
  | nil => rfl
  | cons c cs ih => rw [List.flatMap_cons, List.append_assoc, skipString_escape, ih]

theorem readString_flatMap_escape (cs rest : List Char) :
    readString (cs.flatMap escape ++ '"' :: rest) = .ok cs := by
  induction cs with
  | nil => rfl
  | cons c cs ih => rw [List.flatMap_cons, List.append_assoc, readString_escape, ih]; rfl

/-- A printed string is one token, whatever follows it. -/
theorem scanString_flatMap_escape (s : String) (rest : List Char) :
    scanString (s.toList.flatMap escape ++ '"' :: rest) = (.string (.ok s), rest) := by
  simp [scanString, skipString_flatMap_escape, readString_flatMap_escape, Except.map]

/-! ### Numbers -/

/-- What may follow a value inside a printed text: nothing, a comma, or a closing mark. -/
def EndsValue (rest : List Char) : Prop := ∀ c ∈ rest.head?, c = ',' ∨ c = ']' ∨ c = '\x7d'

theorem endsValue_nil : EndsValue [] := by simp [EndsValue]

namespace Number

/-- How a number is spelled. -/
def numeral (n : Number) : Numeral :=
  match tokens n.print with
  | [.number m] => m
  | _ => ⟨false, [], [], none⟩

/-- The text of a number is the spelling of it, wherever it stands. -/
structure IsReadable (n : Number) : Prop where
  tokens_print : ∀ rest, EndsValue rest →
    tokens (n.print ++ rest) = .number n.numeral :: tokens rest
  value_numeral : n.numeral.value = .ok n

end Number

/-! ### Values -/

namespace Value

mutual

/-- The numbers of a value. -/
def numbers : Value → List Number
  | .null => []
  | .bool _ => []
  | .number n => [n]
  | .string _ => []
  | .array vs => itemNumbers vs
  | .object ms => memberNumbers ms

/-- The numbers of the items of an array. -/
def itemNumbers : List Value → List Number
  | [] => []
  | v :: vs => numbers v ++ itemNumbers vs

/-- The numbers of the members of an object. -/
def memberNumbers : List (String × Value) → List Number
  | [] => []
  | (_, v) :: ms => numbers v ++ memberNumbers ms

end

/-- Every number of the value reads back from its text. -/
def IsReadable (v : Value) : Prop := ∀ n ∈ v.numbers, n.IsReadable

mutual

/-- The tokens of a value. -/
def tokens : Value → List Token
  | .null => [.null]
  | .bool b => [.bool b]
  | .number n => [.number n.numeral]
  | .string s => [.string (.ok s)]
  | .array [] => [.openBracket, .closeBracket]
  | .array (v :: vs) => .openBracket :: (tokens v ++ itemTokens vs)
  | .object [] => [.openBrace, .closeBrace]
  | .object ((k, v) :: ms) =>
    .openBrace :: .string (.ok k) :: .colon :: (tokens v ++ memberTokens ms)

/-- The tokens of the items after the first, with the closing bracket. -/
def itemTokens : List Value → List Token
  | [] => [.closeBracket]
  | v :: vs => .comma :: (tokens v ++ itemTokens vs)

/-- The tokens of the members after the first, with the closing brace. -/
def memberTokens : List (String × Value) → List Token
  | [] => [.closeBrace]
  | (k, v) :: ms => .comma :: .string (.ok k) :: .colon :: (tokens v ++ memberTokens ms)

end

end Value

theorem tokens_cons {c : Char} {cs rest : List Char} {t : Token} (hspace : isSpace c = false)
    (h : scanToken c cs = (t, rest)) : tokens (c :: cs) = t :: tokens rest := by
  rw [tokens, if_neg (by simp [hspace]), h]

theorem tokens_quote (s : String) (rest : List Char) :
    tokens (quote s ++ rest) = .string (.ok s) :: tokens rest := by
  rw [quote, List.cons_append, List.append_assoc]
  exact tokens_cons rfl (scanString_flatMap_escape s rest)

theorem endsValue_itemChars (vs : List Value) (rest : List Char) :
    EndsValue (Value.itemChars vs ++ rest) := by
  cases vs <;> simp [EndsValue, Value.itemChars]

theorem endsValue_memberChars (ms : List (String × Value)) (rest : List Char) :
    EndsValue (Value.memberChars ms ++ rest) := by
  cases ms <;> simp [EndsValue, Value.memberChars]

/-- A mark of one character is a token. -/
theorem tokens_mark {c : Char} {t : Token} (hspace : isSpace c = false)
    (h : ∀ cs, scanToken c cs = (t, cs)) (cs : List Char) : tokens (c :: cs) = t :: tokens cs :=
  tokens_cons hspace (h cs)

theorem tokens_openBracket : ∀ cs, tokens ('[' :: cs) = .openBracket :: tokens cs :=
  tokens_mark rfl fun _ => rfl

theorem tokens_closeBracket : ∀ cs, tokens (']' :: cs) = .closeBracket :: tokens cs :=
  tokens_mark rfl fun _ => rfl

theorem tokens_openBrace : ∀ cs, tokens ('\x7b' :: cs) = .openBrace :: tokens cs :=
  tokens_mark rfl fun _ => rfl

theorem tokens_closeBrace : ∀ cs, tokens ('\x7d' :: cs) = .closeBrace :: tokens cs :=
  tokens_mark rfl fun _ => rfl

theorem tokens_comma : ∀ cs, tokens (',' :: cs) = .comma :: tokens cs :=
  tokens_mark rfl fun _ => rfl

theorem tokens_colon : ∀ cs, tokens (':' :: cs) = .colon :: tokens cs :=
  tokens_mark rfl fun _ => rfl

mutual

/-- **The tokens of a printed value**, whatever follows it. -/
theorem tokens_chars : ∀ (v : Value), v.IsReadable → ∀ rest, EndsValue rest →
    tokens (v.chars ++ rest) = v.tokens ++ tokens rest
  | .null, _, rest, _ => tokens_cons rfl rfl
  | .bool true, _, rest, _ => tokens_cons rfl rfl
  | .bool false, _, rest, _ => tokens_cons rfl rfl
  | .number n, h, rest, hrest =>
    (h n (List.mem_singleton_self n)).tokens_print rest hrest
  | .string s, _, rest, _ => tokens_quote s rest
  | .array [], _, rest, _ => by
    rw [Value.chars, Value.tokens, List.cons_append, List.cons_append, List.nil_append,
      tokens_openBracket, tokens_closeBracket]
    rfl
  | .array (v :: vs), h, rest, _ => by
    have hv : v.IsReadable := fun n hn => h n (List.mem_append_left _ hn)
    have hvs : ∀ n ∈ Value.itemNumbers vs, n.IsReadable :=
      fun n hn => h n (List.mem_append_right _ hn)
    rw [Value.chars, Value.tokens, List.cons_append, List.append_assoc, tokens_openBracket,
      tokens_chars v hv _ (endsValue_itemChars vs rest), tokens_itemChars vs hvs rest]
    simp
  | .object [], _, rest, _ => by
    rw [Value.chars, Value.tokens, List.cons_append, List.cons_append, List.nil_append,
      tokens_openBrace, tokens_closeBrace]
    rfl
  | .object ((k, v) :: ms), h, rest, _ => by
    have hv : v.IsReadable := fun n hn => h n (List.mem_append_left _ hn)
    have hms : ∀ n ∈ Value.memberNumbers ms, n.IsReadable :=
      fun n hn => h n (List.mem_append_right _ hn)
    rw [Value.chars, Value.tokens, List.cons_append, List.append_assoc, List.cons_append,
      List.append_assoc, tokens_openBrace, tokens_quote, tokens_colon,
      tokens_chars v hv _ (endsValue_memberChars ms rest), tokens_memberChars ms hms rest]
    simp

theorem tokens_itemChars : ∀ (vs : List Value), (∀ n ∈ Value.itemNumbers vs, n.IsReadable) →
    ∀ rest, tokens (Value.itemChars vs ++ rest) = Value.itemTokens vs ++ tokens rest
  | [], _, rest => tokens_closeBracket rest
  | v :: vs, h, rest => by
    have hv : v.IsReadable := fun n hn => h n (List.mem_append_left _ hn)
    have hvs : ∀ n ∈ Value.itemNumbers vs, n.IsReadable :=
      fun n hn => h n (List.mem_append_right _ hn)
    rw [Value.itemChars, Value.itemTokens, List.cons_append, List.append_assoc, tokens_comma,
      tokens_chars v hv _ (endsValue_itemChars vs rest), tokens_itemChars vs hvs rest]
    simp

theorem tokens_memberChars : ∀ (ms : List (String × Value)),
    (∀ n ∈ Value.memberNumbers ms, n.IsReadable) →
    ∀ rest, tokens (Value.memberChars ms ++ rest) = Value.memberTokens ms ++ tokens rest
  | [], _, rest => tokens_closeBrace rest
  | (k, v) :: ms, h, rest => by
    have hv : v.IsReadable := fun n hn => h n (List.mem_append_left _ hn)
    have hms : ∀ n ∈ Value.memberNumbers ms, n.IsReadable :=
      fun n hn => h n (List.mem_append_right _ hn)
    rw [Value.memberChars, Value.memberTokens, List.cons_append, List.append_assoc,
      List.cons_append, List.append_assoc, tokens_comma, tokens_quote, tokens_colon,
      tokens_chars v hv _ (endsValue_memberChars ms rest), tokens_memberChars ms hms rest]
    simp

end

end LiveBoard.Json
