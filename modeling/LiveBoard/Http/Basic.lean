/-!
# Requests and responses

What is asked over HTTP, and what is answered. Of headers only those are kept that somebody looks
at.

## Main definitions

* `Http.Request`, `Http.Response`: question and answer.
* `Http.isJson`: whether a media type stands for JSON.
-/

namespace LiveBoard.Http

/-- A request. -/
structure Request where
  method : String
  /-- The path, with the query behind it. -/
  target : String
  headers : List (String × String)
  body : String
  deriving Repr, DecidableEq

/-- A response. -/
structure Response where
  status : Nat
  contentType : Option String
  /-- The methods that would be allowed. -/
  allow : Option String
  body : String
  deriving Repr, DecidableEq

namespace Response

/-- A response that only has a status. -/
def bare (status : Nat) : Response := ⟨status, none, none, ""⟩

/-- A response in plain text. -/
def text (status : Nat) (body : String) : Response :=
  ⟨status, some "text/plain; charset=utf-8", none, body⟩

/-- A response in JSON. -/
def json (status : Nat) (body : String) : Response := ⟨status, some "application/json", none, body⟩

/-- A request that was granted. -/
def isSuccess (r : Response) : Bool := 200 ≤ r.status && r.status < 300

end Response

/-- A text in lower case, as far as its letters are ASCII. -/
def lower (s : String) : List Char := s.toList.map Char.toLower

/-- The value of the first header with a name. Case does not matter in names. -/
def Request.header? (r : Request) (name : String) : Option String :=
  (r.headers.find? fun h => lower h.1 == lower name).map (·.2)

/-- A character of a header that is read as text. -/
def isHeaderText (c : Char) : Bool := c == '\t' || (0x20 ≤ c.toNat && c.toNat < 0x7F)

/-- The value of a header that is text. -/
def Request.headerText? (r : Request) (name : String) : Option String :=
  (r.header? name).filter fun v => v.toList.all isHeaderText

/-- The path of a target, without query and fragment. -/
def Request.path (r : Request) : List Char :=
  r.target.toList.takeWhile fun c => c != '?' && c != '#'

/-- The query of a target. -/
def Request.query (r : Request) : List Char :=
  ((r.target.toList.takeWhile (· != '#')).dropWhile (· != '?')).drop 1

/-! ### Media types -/

/-- A character of a name in a media type. -/
def isTokenChar (c : Char) : Bool := c.isAlphanum || "!#$%&'+-.^_\x60|~".toList.contains c

/-- The value of a parameter between quotes, behind the opening one. Gives what follows it. -/
def quotedValue (escaped : Bool) : List Char → Option (List Char)
  | [] => none
  | c :: cs =>
    if escaped then if isHeaderText c && c != '\t' then quotedValue false cs else none
    else if c = '"' then some cs
    else if c = '\\' then quotedValue true cs
    else if isHeaderText c && c != '\t' then quotedValue false cs
    else none

/-- The parameters of a media type are well formed. The number is above the length of the
text. -/
def parametersWellFormed : Nat → List Char → Bool
  | _, [] => true
  | 0, _ => false
  | fuel + 1, ' ' :: cs => parametersWellFormed fuel cs
  | fuel + 1, cs =>
    let name := cs.takeWhile isTokenChar
    if name.isEmpty then false
    else
      match cs.drop name.length with
      | '=' :: '"' :: cs =>
        match quotedValue false cs with
        | none => false
        | some cs =>
          match cs.dropWhile (· == ' ') with
          | [] => true
          | ';' :: cs => parametersWellFormed fuel cs
          | _ => false
      | '=' :: cs =>
        let value := cs.takeWhile isTokenChar
        match cs.drop value.length with
        | [] => true
        | ';' :: cs => !value.isEmpty && parametersWellFormed fuel cs
        | _ => false
      | _ => false

/-- The name of a subtype before its last plus sign, and behind it. -/
def splitSuffix (cs : List Char) : List Char × Option (List Char) :=
  let suffix := (cs.reverse.takeWhile (· != '+')).reverse
  let before := cs.take (cs.length - suffix.length - 1)
  if before.isEmpty || suffix.length = cs.length then (cs, none) else (before, some suffix)

/-- A media type stands for JSON: its name is `application/json`, or one with the suffix
`json`. -/
def isJson (mediaType : String) : Bool :=
  let cs := lower mediaType
  let type := cs.takeWhile isTokenChar
  match cs.drop type.length with
  | '/' :: cs =>
    let subtype := cs.takeWhile isTokenChar
    let sound := match cs.drop subtype.length with
      | [] => true
      | ';' :: cs => !subtype.isEmpty && parametersWellFormed (cs.length + 1) cs
      | _ => false
    let (name, suffix) := splitSuffix subtype
    sound && type == "application".toList
      && (name == "json".toList || suffix == some "json".toList)
  | _ => false

end LiveBoard.Http
