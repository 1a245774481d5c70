import LiveBoard.Url.Host

/-!
# Addresses

The address of a resource on the web, taken apart. Its parts are kept in their written form, so
that an address is printed by putting them together.

## Main definitions

* `Url.Address`: an address.
* `Url.Address.print`: its text.
* `Url.Address.pushSegment`, `withField`: building on an address.
* `Url.Server`, `Url.Address.server?`: where an address leads.
-/

namespace LiveBoard.Url

/-- An address of the web. The path has at least one segment, an empty one for the root. -/
structure Address where
  scheme : String
  /-- User name and password, with the sign between them. -/
  userinfo : Option (List Char)
  host : Host
  port : Option Nat
  path : List (List Char)
  query : Option (List Char)
  fragment : Option (List Char)
  deriving Repr, DecidableEq

/-- Where connections are taken: at a port of a host, with or without encryption. -/
structure Server where
  isEncrypted : Bool
  host : Host
  port : Nat
  deriving Repr, DecidableEq

/-- A segment that stands for the place where it is. -/
def isSingleDot (segment : List Char) : Bool :=
  let s := segment.map Char.toLower
  s == ".".toList || s == "%2e".toList

/-- A segment that stands for the place above. -/
def isDoubleDot (segment : List Char) : Bool :=
  let s := segment.map Char.toLower
  s == "..".toList || s == "%2e.".toList || s == ".%2e".toList || s == "%2e%2e".toList

/-- Characters that are passed over wherever they stand in an address. -/
def isPassedOver (c : Char) : Bool := c == '\t' || c == '\n' || c == '\r'

/-- The port that a scheme has by itself. -/
def defaultPort? (scheme : String) : Option Nat :=
  match scheme with
  | "http" => some 80
  | "ws" => some 80
  | "https" => some 443
  | "wss" => some 443
  | "ftp" => some 21
  | _ => none

/-- Whether connections of a scheme are encrypted. Nothing for a scheme that is not of the web. -/
def isEncrypted? (scheme : String) : Option Bool :=
  match scheme with
  | "http" => some false
  | "ws" => some false
  | "https" => some true
  | "wss" => some true
  | _ => none

namespace Address

/-- The server that an address of the web leads to. Without a port it is at the one of the
scheme. -/
def server? (a : Address) : Option Server := do
  let isEncrypted ← isEncrypted? a.scheme
  let port ← a.port.or (defaultPort? a.scheme)
  return { isEncrypted, host := a.host, port }

/-- The text of the path. -/
def pathChars (a : Address) : List Char := a.path.flatMap ('/' :: ·)

/-- Path and query, as they are asked for. -/
def target (a : Address) : List Char :=
  a.pathChars ++ (match a.query with
    | some q => '?' :: q
    | none => [])

/-- Host and port. -/
def authority (a : Address) : List Char :=
  a.host.chars ++ (match a.port with
    | some p => ':' :: Nat.toDigits 10 p
    | none => [])

/-- The characters of an address. -/
def chars (a : Address) : List Char :=
  a.scheme.toList ++ ':' :: '/' :: '/' ::
    ((match a.userinfo with
      | some u => u ++ ['@']
      | none => [])
      ++ a.authority ++ a.target
      ++ (match a.fragment with
        | some f => '#' :: f
        | none => []))

/-- The text of an address. -/
def print (a : Address) : String := String.ofList a.chars

/-- An address without the empty segment at the end of its path, unless it is the only one. -/
def popIfEmpty (a : Address) : Address :=
  if 1 < a.path.length && a.path.getLast? = some [] then { a with path := a.path.dropLast } else a

/-- The path one segment longer. The root takes the segment as its first. A segment that reads as
a step upwards, once the characters that are passed over are gone, takes one away. -/
def pushPath (path : List (List Char)) (segment : List Char) : List (List Char) :=
  let front := if path = [[]] then [] else path
  if isDoubleDot segment then front.dropLast ++ [[]]
  else if isSingleDot segment then front ++ [[]]
  else front ++ [segment]

/-- An address with one more segment, which may hold any text. The two names of places are left
out. -/
def pushSegment (a : Address) (name : String) : Address :=
  if name = "." || name = ".." then a
  else
    let segment := percentEncode inSegment (name.toList.filter fun c => !isPassedOver c)
    { a with path := pushPath a.path segment }

/-- An address with more segments. -/
def pushSegments (a : Address) (names : List String) : Address := names.foldl pushSegment a

/-- An address whose query is a form with a single field. -/
def withField (a : Address) (name value : String) : Address :=
  { a with query := some (formEncode name ++ '=' :: formEncode value) }

end Address

end LiveBoard.Url
