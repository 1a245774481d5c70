/-!
# Punycode

Labels of domains beyond ASCII are written in ASCII: their ASCII characters first, then where the
other characters go, as numbers in base 36 with digits of varying weight.

## Main definitions

* `Url.Punycode.encode`: the ASCII form of a label.
* `Url.Punycode.decode?`: the label of an ASCII form.
-/

namespace LiveBoard.Url.Punycode

/-- The digit of a number below 36. -/
def digit (n : Nat) : Char :=
  if n < 26 then Char.ofNat ('a'.toNat + n) else Char.ofNat ('0'.toNat + (n - 26))

/-- The value of a digit. -/
def digitValue? (c : Char) : Option Nat :=
  if 'a' ≤ c && c ≤ 'z' then some (c.toNat - 'a'.toNat)
  else if 'A' ≤ c && c ≤ 'Z' then some (c.toNat - 'A'.toNat)
  else if c.isDigit then some (c.toNat - '0'.toNat + 26)
  else none

/-- The least value of a digit that does not end a number, at position `k` under a bias. -/
def threshold (k bias : Nat) : Nat := max 1 (min 26 (k - bias))

theorem threshold_le (k bias : Nat) : threshold k bias ≤ 26 := by
  unfold threshold
  omega

theorem threshold_pos (k bias : Nat) : 1 ≤ threshold k bias := by
  unfold threshold
  omega

/-- A difference divided by 35 until it is small, and the number of positions that takes. -/
def shrink (delta k : Nat) : Nat × Nat :=
  if 455 < delta then shrink (delta / 35) (k + 36) else (delta, k)
  termination_by delta

/-- The bias after a difference. -/
def adapt (delta count : Nat) (first : Bool) : Nat :=
  let delta := if first then delta / 700 else delta / 2
  let (delta, k) := shrink (delta + delta / count) 0
  k + 36 * delta / (delta + 38)

/-- The digits of a number from position `k` on. -/
def digits (bias k n : Nat) : List Char :=
  let t := threshold k bias
  if n < t then [digit n]
  else digit (t + (n - t) % (36 - t)) :: digits bias (k + 36) ((n - t) / (36 - t))
  termination_by n
  decreasing_by
    have h₁ := threshold_pos k bias
    have h₂ := threshold_le k bias
    exact Nat.lt_of_le_of_lt (Nat.div_le_self _ _) (by omega)

/-- The writer of the differences: what is written, the difference so far, the bias, and how many
characters are placed. -/
structure Writer where
  out : List Char
  delta : Nat
  bias : Nat
  placed : Nat

/-- Goes over one character of the label while the characters `n` are placed. -/
def Writer.visit (basic n : Nat) (w : Writer) (c : Char) : Writer :=
  if c.toNat < n then { w with delta := w.delta + 1 }
  else if c.toNat = n then
    { out := w.out ++ digits w.bias 36 w.delta
      delta := 0
      bias := adapt w.delta (w.placed + 1) (w.placed = basic)
      placed := w.placed + 1 }
  else w

/-- Places the characters beyond ASCII, the least first. -/
def place (label : List Char) (basic : Nat) : List Nat → Nat → Writer → Writer
  | [], _, w => w
  | n :: ns, start, w =>
    let w := { w with delta := w.delta + (n - start) * (w.placed + 1) }
    let w := label.foldl (Writer.visit basic n) w
    place label basic ns (n + 1) { w with delta := w.delta + 1 }

/-- A number in a sorted list, once. -/
def insertNat (n : Nat) : List Nat → List Nat
  | [] => [n]
  | m :: ms => if n < m then n :: m :: ms else if n = m then m :: ms else m :: insertNat n ms

/-- The ASCII form of a label. -/
def encode (label : List Char) : List Char :=
  let basic := label.filter fun c => c.toNat < 0x80
  let others := (label.filter fun c => 0x80 ≤ c.toNat).foldl (fun ns c => insertNat c.toNat ns) []
  let front := if basic.isEmpty then [] else basic ++ ['-']
  (place label basic.length others 0x80 ⟨front, 0, 72, basic.length⟩).out

/-- A number at the front of a text, and what follows it. -/
def readNumber (bias k weight n : Nat) : List Char → Option (Nat × List Char)
  | [] => none
  | c :: cs => do
    let d ← digitValue? c
    let n := n + d * weight
    let t := threshold k bias
    if UInt32.size ≤ n then none
    else if d < t then return (n, cs)
    else readNumber bias (k + 36) (weight * (36 - t)) n cs

theorem readNumber_length_lt {bias k weight n m : Nat} {cs rest : List Char}
    (h : readNumber bias k weight n cs = some (m, rest)) : rest.length < cs.length := by
  induction cs generalizing k weight n with
  | nil => simp [readNumber] at h
  | cons c cs ih =>
    simp only [readNumber, Option.bind_eq_bind, Option.bind_eq_some_iff] at h
    obtain ⟨d, -, h⟩ := h
    split at h
    · simp at h
    · split at h
      · simp only [Option.pure_def, Option.some.injEq, Prod.mk.injEq] at h
        simp [← h.2]
      · exact Nat.lt_succ_of_lt (ih h)

/-- Places the characters that the numbers of an ASCII form tell of. -/
def readAll (out : List Char) (n i bias : Nat) (cs : List Char) : Option (List Char) :=
  if cs.isEmpty then some out
  else
    match h : readNumber bias 36 1 i cs with
    | none => none
    | some (m, rest) =>
      let count := out.length + 1
      let n := n + m / count
      let position := m % count
      if n < 0x110000 && !(0xD800 ≤ n && n < 0xE000) then
        have := readNumber_length_lt h
        readAll (out.take position ++ Char.ofNat n :: out.drop position) n (position + 1)
          (adapt (m - i) count (i = 0)) rest
      else none
  termination_by cs.length

/-- The label of an ASCII form. -/
def decode? (cs : List Char) : Option (List Char) :=
  let tail := (cs.reverse.takeWhile (· != '-')).reverse
  let basic := if tail.length < cs.length then cs.take (cs.length - tail.length - 1) else []
  if basic.all fun c => c.toNat < 0x80 then readAll basic 0x80 0 72 tail else none

end LiveBoard.Url.Punycode
