import LiveBoard.Url.Idna
import LiveBoard.Url.Percent

/-!
# Hosts

The host of an address is an IPv6 address in brackets, an IPv4 address in one of its many
spellings, or a domain in its ASCII form. A domain whose last label is a number has to be an IPv4
address.

## Main definitions

* `Url.Host`: hosts, with `Host.parse` and `Host.chars`.
* `Url.ParseError`: why an address cannot be read.
-/

namespace LiveBoard.Url

/-- Why an address cannot be read. -/
inductive ParseError
  | emptyHost
  | invalidPort
  | invalidIpv6
  | invalidIpv4
  | invalidDomain
  | invalidDomainCharacter
  | noScheme
  deriving Repr, DecidableEq

/-- The text of an error. -/
def ParseError.message : ParseError → String
  | .emptyHost => "empty host"
  | .invalidPort => "invalid port number"
  | .invalidIpv6 => "invalid IPv6 address"
  | .invalidIpv4 => "invalid IPv4 address"
  | .invalidDomain => "invalid international domain name"
  | .invalidDomainCharacter => "invalid domain character"
  | .noScheme => "relative URL without a base"

/-! ### IPv4 -/

/-- The digit that a character is in a base of at most 16. -/
def digitIn? (base : Nat) (c : Char) : Option Nat := do
  let d ← hexValue? c.toNat.toUInt8
  if c.toNat < 0x80 && d < base then return d else none

/-- The number that digits spell in a base. -/
def numberIn? (base : Nat) (cs : List Char) : Option Nat :=
  cs.foldlM (fun n c => (digitIn? base c).map (n * base + ·)) 0

/-- A part of an IPv4 address: decimal, octal after a zero, hexadecimal after `0x`. -/
def ipv4Number? : List Char → Option Nat
  | [] => none
  | '0' :: 'x' :: ds => numberIn? 16 ds
  | '0' :: 'X' :: ds => numberIn? 16 ds
  | '0' :: d :: ds => numberIn? 8 (d :: ds)
  | ds => numberIn? 10 ds

/-- The parts of a domain, without the empty one behind a final point. -/
def domainParts (domain : List Char) : List (List Char) :=
  let parts := splitOn '.' domain
  if 1 < parts.length && parts.getLast? = some [] then parts.dropLast else parts

/-- The last label of a domain is a number. -/
def endsInNumber (domain : List Char) : Bool :=
  match (domainParts domain).getLast? with
  | none => false
  | some last => (!last.isEmpty && last.all Char.isDigit) || (ipv4Number? last).isSome

/-- An IPv4 address of up to four parts. The last part fills the bytes that are left. -/
def parseIpv4 (domain : List Char) : Except ParseError Nat :=
  let parts := domainParts domain
  if 4 < parts.length then .error .invalidIpv4
  else
    match parts.mapM ipv4Number? with
    | none => .error .invalidIpv4
    | some numbers =>
      let last := numbers.getLast?.getD 0
      let front := numbers.dropLast
      if Nat.pow 256 (4 - front.length) ≤ last || front.any (255 < ·) then .error .invalidIpv4
      else
        .ok (front.zipIdx.foldl (fun sum (n, i) => sum + n * Nat.pow 256 (3 - i)) last)

/-- The text of an IPv4 address. -/
def ipv4Chars (n : Nat) : List Char :=
  let part := fun i => Nat.toDigits 10 (n / Nat.pow 256 i % 256)
  part 3 ++ '.' :: (part 2 ++ '.' :: (part 1 ++ '.' :: part 0))

/-! ### IPv6 -/

/-- A group of an IPv6 address: up to four hexadecimal digits. -/
def ipv6Group? (cs : List Char) : Option Nat :=
  if cs.isEmpty || 4 < cs.length then none else numberIn? 16 cs

/-- A byte of an IPv4 address inside an IPv6 address: decimal, without leading zeros. -/
def strictByte? (cs : List Char) : Option Nat := do
  if cs.isEmpty || (1 < cs.length && cs.head? = some '0') then none
  else
    let n ← numberIn? 10 cs
    if n ≤ 255 then return n else none

/-- The two groups of an IPv4 address at the end of an IPv6 address. -/
def embeddedIpv4? (cs : List Char) : Option (List Nat) :=
  match (splitOn '.' cs).mapM strictByte? with
  | some [a, b, c, d] => some [a * 256 + b, c * 256 + d]
  | _ => none

/-- The groups of a stretch of an IPv6 address. The last one may be an IPv4 address. -/
def ipv6Groups? : List (List Char) → Option (List Nat)
  | [] => some []
  | [last] =>
    if last.contains '.' then embeddedIpv4? last else (ipv6Group? last).map fun n => [n]
  | part :: parts => do
    let n ← ipv6Group? part
    let ns ← ipv6Groups? parts
    return n :: ns

/-- A list before and after the first pair of colons. -/
def splitDoubleColon : List Char → Option (List Char × List Char)
  | ':' :: ':' :: rest => some ([], rest)
  | c :: rest => (splitDoubleColon rest).map fun (before, after) => (c :: before, after)
  | [] => none

/-- The groups between colons, none for an empty text. -/
def colonGroups? (cs : List Char) : Option (List Nat) :=
  if cs.isEmpty then some [] else ipv6Groups? (splitOn ':' cs)

/-- The eight groups of an IPv6 address. Two colons stand for at least one group of zeros. -/
def parseIpv6? (cs : List Char) : Option (List Nat) :=
  match splitDoubleColon cs with
  | none => do
    let groups ← ipv6Groups? (splitOn ':' cs)
    if groups.length = 8 then return groups else none
  | some (before, after) => do
    if before.contains '.' then none
    else
      let front ← colonGroups? before
      let back ← colonGroups? after
      let known := front.length + back.length
      if known ≤ 7 then return front ++ List.replicate (8 - known) 0 ++ back else none

/-- The length of the zeros at the front of a list. -/
def zeroRun (groups : List Nat) : Nat := (groups.takeWhile (· == 0)).length

/-- The start and length of the longest run of at least two zeros, the first of equals. -/
def longestZeros (groups : List Nat) : Nat × Nat :=
  (List.range groups.length).foldl
    (fun best i =>
      let run := zeroRun (groups.drop i)
      if best.2 < run && 1 < run then (i, run) else best)
    (0, 0)

/-- Groups with colons between them. -/
def colonJoined : List Nat → List Char
  | [] => []
  | [n] => Nat.toDigits 16 n
  | n :: ns => Nat.toDigits 16 n ++ ':' :: colonJoined ns

/-- The text of an IPv6 address, its longest run of zeros left out. -/
def ipv6Chars (groups : List Nat) : List Char :=
  let (start, run) := longestZeros groups
  if run = 0 then colonJoined groups
  else colonJoined (groups.take start) ++ ':' :: ':' :: colonJoined (groups.drop (start + run))

/-! ### Hosts -/

/-- The host of an address. -/
inductive Host
  | ipv4 (address : Nat)
  | ipv6 (groups : List Nat)
  | domain (name : List Char)
  deriving Repr, DecidableEq

namespace Host

/-- The text of a host. -/
def chars : Host → List Char
  | .ipv4 n => ipv4Chars n
  | .ipv6 groups => '[' :: (ipv6Chars groups ++ [']'])
  | .domain name => name

/-- What stands between brackets, an IPv6 address. -/
def parseBracketed (cs : List Char) : Except ParseError Host :=
  if cs.getLast? = some ']' then
    match parseIpv6? cs.tail.dropLast with
    | some groups => .ok (.ipv6 groups)
    | none => .error .invalidIpv6
  else .error .invalidIpv6

/-- The host of an address of a kind that has domains. -/
def parse (cs : List Char) : Except ParseError Host :=
  if cs.head? = some '[' then parseBracketed cs
  else
    match (Utf8.decode? (percentDecode (Utf8.encode cs))).bind Idna.toAscii? with
    | none => .error .invalidDomain
    | some [] => .error .emptyHost
    | some name =>
      if endsInNumber name then (parseIpv4 name).map .ipv4 else .ok (.domain name)

/-- Characters that no host can hold. -/
def isForbidden (c : Char) : Bool :=
  c.toNat = 0 || "\t\n\r #/:<>?@[\\]^|".toList.contains c

/-- The host of an address of another kind, which is kept as it is spelled. -/
def parseOpaque (cs : List Char) : Except ParseError Host :=
  if cs.head? = some '[' then parseBracketed cs
  else if cs.any isForbidden then .error .invalidDomainCharacter
  else .ok (.domain (percentEncode isControl cs))

end Host

end LiveBoard.Url
