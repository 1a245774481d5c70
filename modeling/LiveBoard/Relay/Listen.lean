import LiveBoard.Url.Host

/-!
# Where a relay listens

A relay listens at a socket address: an IPv4 address or, in brackets, an IPv6 address, with a port.
No names and no shorthands are understood.

## Main definitions

* `ListenHost`: the address of a machine, with `ListenHost.read?` and `ListenHost.chars`.
* `ListenAddress`: an address with a port.
-/

namespace LiveBoard

open Url

/-- The address of a machine on which a relay listens. -/
inductive ListenHost
  | ipv4 (bytes : List Nat)
  /-- The eight groups of an address, and the link that it is meant on, 0 for any. -/
  | ipv6 (groups : List Nat) (scope : Nat)
  deriving Repr, DecidableEq

namespace ListenHost

/-- The number of a link. -/
def scope? (cs : List Char) : Option Nat :=
  if cs.isEmpty then none else (numberIn? 10 cs).filter (· < UInt32.size)

/-- An IPv6 address, perhaps with a link behind a percent sign. -/
def ipv6? (cs : List Char) : Option ListenHost := do
  let groups ← parseIpv6? (cs.takeWhile (· != '%'))
  match cs.dropWhile (· != '%') with
  | [] => return .ipv6 groups 0
  | _ :: link => return .ipv6 groups (← scope? link)

/-- Reads the address of a machine. -/
def read? (cs : List Char) : Option ListenHost :=
  match cs with
  | '[' :: rest =>
    match rest.reverse with
    | ']' :: inner => ipv6? inner.reverse
    | _ => none
  | cs =>
    match (splitOn '.' cs).mapM strictByte? with
    | some [a, b, c, d] => some (.ipv4 [a, b, c, d])
    | _ => none

/-- Bytes with points between them. -/
def dotted (bytes : List Nat) : List Char :=
  (bytes.map (Nat.toDigits 10)).intersperse ['.'] |>.flatten

/-- The text of an IPv6 address. One that stands for an IPv4 address ends in it. -/
def groupChars : List Nat → List Char
  | [0, 0, 0, 0, 0, 0xFFFF, high, low] =>
    "::ffff:".toList ++ dotted [high / 256, high % 256, low / 256, low % 256]
  | groups => ipv6Chars groups

/-- The text of the address of a machine. -/
def chars : ListenHost → List Char
  | .ipv4 bytes => dotted bytes
  | .ipv6 groups scope =>
    '[' :: (groupChars groups
      ++ (if scope = 0 then [] else '%' :: Nat.toDigits 10 scope) ++ [']'])

end ListenHost

/-- An address with a port. -/
structure ListenAddress where
  host : ListenHost
  port : Nat
  deriving Repr, DecidableEq

/-- The text of an address with a port. -/
def ListenAddress.print (a : ListenAddress) : String :=
  String.ofList (a.host.chars ++ ':' :: Nat.toDigits 10 a.port)

end LiveBoard
