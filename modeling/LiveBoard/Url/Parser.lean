import LiveBoard.Url.Basic

/-!
# Reading addresses

An address is read from left to right: its scheme, user name and password, host, port, path, query
and fragment. Control characters and spaces at its ends and line breaks and tabs anywhere are
passed over. Addresses of the web are taken apart; of other addresses only the scheme is kept, but
they have to be well formed.

## Main definitions

* `Url.Parsed`: an address of the web, or one of another kind.
* `Url.parse`: reading an address.
-/

namespace LiveBoard.Url

/-- An address of the web, or of another scheme. -/
inductive Parsed
  | web (address : Address)
  | other (scheme : String)
  deriving Repr, DecidableEq

/-- The kinds of schemes: those of the web, files, and all others. -/
inductive SchemeKind
  | web
  | file
  | other
  deriving DecidableEq

/-- The kind of a scheme. -/
def schemeKind (scheme : String) : SchemeKind :=
  if (defaultPort? scheme).isSome then .web
  else if scheme = "file" then .file
  else .other

/-- The text of an address without what is passed over. -/
def significant (s : String) : List Char :=
  let inner := (s.toList.dropWhile fun c => c.toNat ≤ 0x20).reverse.dropWhile
    fun c => c.toNat ≤ 0x20
  inner.reverse.filter fun c => !isPassedOver c

/-- A character of a scheme behind its first. -/
def isSchemeChar (c : Char) : Bool := c.isAlphanum || c == '+' || c == '-' || c == '.'

/-- The scheme of an address, in lower case, and what follows its colon. -/
def splitScheme (cs : List Char) : Option (String × List Char) :=
  match cs with
  | [] => none
  | c :: _ =>
    if c.isAlpha then
      match cs.dropWhile isSchemeChar with
      | ':' :: rest => some (String.ofList ((cs.takeWhile isSchemeChar).map Char.toLower), rest)
      | _ => none
    else none

/-- A character at which the authority of an address ends. -/
def endsAuthority (special : Bool) (c : Char) : Bool :=
  c == '/' || c == '?' || c == '#' || (special && c == '\\')

/-- A text before and after its last sign between user and host. -/
def splitLastAt (cs : List Char) : Option (List Char × List Char) :=
  let after := (cs.reverse.takeWhile (· != '@')).reverse
  if after.length < cs.length then some (cs.take (cs.length - after.length - 1), after) else none

/-- The written form of user name and password, if there is either. -/
def userinfoChars (cs : List Char) : Option (List Char) :=
  let name := cs.takeWhile (· != ':')
  let password := (cs.dropWhile (· != ':')).drop 1
  let encode := percentEncode inUserinfo
  let written := encode name ++ (if password.isEmpty then [] else ':' :: encode password)
  if written.isEmpty then none else some written

/-- The user and the rest of the authority, with what follows the authority. -/
def splitUserinfo (special : Bool) (cs : List Char) :
    Except ParseError (Option (List Char) × List Char) :=
  let authority := cs.takeWhile fun c => !endsAuthority special c
  let rest := cs.drop authority.length
  match splitLastAt authority with
  | none => .ok (none, cs)
  | some ([], after) =>
    if after.isEmpty && !rest.isEmpty then .error .emptyHost else .ok (none, after ++ rest)
  | some (user, after) => .ok (userinfoChars user, after ++ rest)

/-- The length of the host at the front of a text. Colons in brackets belong to it. -/
def hostLength (special : Bool) (bracketed : Bool) : List Char → Nat
  | [] => 0
  | c :: cs =>
    if (c == ':' && !bracketed) || endsAuthority special c then 0
    else
      let bracketed := if c == '[' then true else if c == ']' then false else bracketed
      hostLength special bracketed cs + 1

/-- The port at the front of a text, and what follows it. -/
def parsePort (cs : List Char) : Except ParseError (Option Nat × List Char) :=
  let digits := cs.takeWhile Char.isDigit
  let rest := cs.dropWhile Char.isDigit
  match numberIn? 10 digits with
  | none => .error .invalidPort
  | some n =>
    if 65535 < n then .error .invalidPort
    else
      match rest with
      | c :: _ =>
        if endsAuthority true c then .ok (if digits.isEmpty then none else some n, rest)
        else .error .invalidPort
      | [] => .ok (if digits.isEmpty then none else some n, [])

/-- The path at the front of a text, in written form. A step upwards takes a segment away. -/
def parsePath (done : List (List Char)) (current : List Char) : List Char → List (List Char)
  | [] => finish done current
  | c :: cs =>
    if c == '/' || c == '\\' then
      let segment := percentEncode inPath current.reverse
      if isDoubleDot segment then parsePath done.dropLast [] cs
      else if isSingleDot segment then parsePath done [] cs
      else parsePath (done ++ [segment]) [] cs
    else parsePath done (c :: current) cs
where
  /-- The path with its last segment. -/
  finish (done : List (List Char)) (current : List Char) : List (List Char) :=
    let segment := percentEncode inPath current.reverse
    if isDoubleDot segment then done.dropLast ++ [[]]
    else if isSingleDot segment then done ++ [[]]
    else done ++ [segment]

/-- Path, query and fragment, from the end of the authority on. -/
def parseTail (cs : List Char) :
    List (List Char) × Option (List Char) × Option (List Char) :=
  let path := cs.takeWhile fun c => c != '?' && c != '#'
  let rest := cs.drop path.length
  let path := match path with
    | c :: inner => if c == '/' || c == '\\' then inner else path
    | [] => []
  let (query, rest) := match rest with
    | '?' :: inner =>
      (some (percentEncode inQuery (inner.takeWhile (· != '#'))), inner.dropWhile (· != '#'))
    | rest => (none, rest)
  let fragment := match rest with
    | '#' :: inner => some (percentEncode inFragment inner)
    | _ => none
  (parsePath [] [] path, query, fragment)

/-- An address of the web, from what follows the colon of its scheme. -/
def parseWeb (scheme : String) (cs : List Char) : Except ParseError Address := do
  let (userinfo, cs) ← splitUserinfo true (cs.dropWhile fun c => c == '/' || c == '\\')
  let length := hostLength true false cs
  if length = 0 then .error .emptyHost
  else
    let host ← Host.parse (cs.take length)
    let (port, cs) ← match cs.drop length with
      | ':' :: rest => parsePort rest
      | rest => .ok (none, rest)
    let (path, query, fragment) := parseTail cs
    return {
      scheme, userinfo, host
      port := if port = defaultPort? scheme then none else port
      path, query, fragment }

/-- Checks the authority of an address of another scheme. -/
def checkAuthority (cs : List Char) : Except ParseError Unit := do
  let before := cs
  let (userinfo, cs) ← splitUserinfo false cs
  let length := hostLength false false cs
  let host ← Host.parseOpaque (cs.take length)
  let rest := cs.drop length
  if host = .domain [] then
    if rest.head? = some ':' || (userinfo.isSome && before ≠ cs) then .error .emptyHost
  match rest with
  | ':' :: rest => do
    let _ ← parsePort rest
    return ()
  | _ => return ()

/-- A letter and a colon or a stroke, which is a drive and not a host. -/
def isDriveLetter : List Char → Bool
  | [c, d] => c.isAlpha && (d == ':' || d == '|')
  | _ => false

/-- Checks the host of the address of a file. -/
def checkFile (cs : List Char) : Except ParseError Unit :=
  match cs with
  | a :: b :: rest =>
    if (a == '/' || a == '\\') && (b == '/' || b == '\\') then
      let host := rest.takeWhile fun c => !endsAuthority true c
      if host.isEmpty || isDriveLetter host then .ok ()
      else (Host.parse host).map fun _ => ()
    else .ok ()
  | _ => .ok ()

/-- Reads an address. -/
def parse (s : String) : Except ParseError Parsed :=
  match splitScheme (significant s) with
  | none => .error .noScheme
  | some (scheme, rest) =>
    match schemeKind scheme with
    | .web => (parseWeb scheme rest).map .web
    | .file => (checkFile rest).map fun _ => .other scheme
    | .other =>
      match rest with
      | '/' :: '/' :: rest => (checkAuthority rest).map fun _ => .other scheme
      | _ => .ok (.other scheme)

end LiveBoard.Url
