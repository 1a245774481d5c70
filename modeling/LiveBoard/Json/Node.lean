import LiveBoard.Json.Token

/-!
# Documents

The tree of a JSON text, as far as the text makes sense. A text that breaks off or goes wrong
still has a tree: the place where it does is a leaf of its own or the ending of a container.
Whoever walks the tree from left to right therefore meets what is wrong with the text exactly
when a reader of the text would.

The tree is built by a machine with a stack of open containers, one token at a time.

## Main definitions

* `Json.Node`: the tree of a text.
* `Json.Document.ofText`: the tree of a text, and whether anything follows it.
* `Json.Node.skip`, `Json.Node.keep`: walking over a tree, and taking its value.
-/

namespace LiveBoard.Json

/-- How a container ends. -/
inductive Ending
  /-- With its closing mark. -/
  | closed
  /-- Where a comma or the closing mark should stand, or where a name is spelled wrongly. -/
  | broken (kept skipped : Fault)
  /-- Behind a comma, where another member should stand. -/
  | afterComma (kept skipped : Fault)
  /-- At a token that cannot be the first name of an object. -/
  | strayKey (t : Token)
  deriving Repr

/-- The name of a member, or the fault of reading it. -/
abbrev Key := Except Fault String

/-- The tree of a JSON text. -/
inductive Node
  | null
  | bool (b : Bool)
  | number (n : Numeral)
  | string (s : Except Fault String)
  | array (items : List Node) (ending : Ending)
  | object (members : List (Key × Node)) (ending : Ending)
  /-- The text ends where a value should begin. -/
  | missing
  /-- A value cannot be read, for keeping or for skipping. It may have begun as a string. -/
  | broken (kept skipped : Fault) (quoted : Bool)
  deriving Repr

/-! ### Building the tree -/

/-- A container that is still open, with its contents so far, latest first. An object whose next
member has a name already is waiting for the value of it. -/
inductive Frame
  | array (before : List Node)
  | object (before : List (Key × Node)) (pending : Option Key)

/-- What may come next. -/
inductive Expect
  | value
  | firstItem
  | firstKey
  | key
  | colon
  | separator

namespace Frame

/-- The container of a frame, ended in a given way. A member without a value is left out. -/
def finish (ending : Ending) : Frame → Node
  | .array before => .array before.reverse ending
  | .object before _ => .object before.reverse ending

/-- A frame with one more value in it. -/
def push (n : Node) : Frame → Frame
  | .array before => .array (n :: before)
  | .object before (some k) => .object ((k, n) :: before) none
  | .object before none => .object before none

end Frame

/-- The tree whose innermost part is `n`, where the text goes wrong inside every open frame. -/
def enclose (n : Node) : List Frame → Node
  | [] => n
  | f :: fs => enclose ((f.push n).finish (.broken .malformed .malformed)) fs

/-- The tree of a text that goes wrong where its innermost container should go on. -/
def breakOff (ending : Ending) : List Frame → Node
  | [] => .missing
  | f :: fs => enclose (f.finish ending) fs

/-- The machine between two tokens, or the tree it has finished. -/
inductive Progress
  | going (frames : List Frame) (expect : Expect)
  | done (root : Node)

/-- A value is complete: it is the tree, or goes to the innermost frame. -/
def deliver (n : Node) : List Frame → Progress
  | [] => .done n
  | f :: fs => .going (f.push n :: fs) .separator

/-- A token where a value may begin. -/
def beginValue (frames : List Frame) : Token → Progress
  | .null => deliver .null frames
  | .bool b => deliver (.bool b) frames
  | .number n => deliver (.number n) frames
  | .string s => deliver (.string s) frames
  | .openBracket => .going (.array [] :: frames) .firstItem
  | .openBrace => .going (.object [] none :: frames) .firstKey
  | .broken kept skipped quoted => .done (enclose (.broken kept skipped quoted) frames)
  | .closeBrace | .closeBracket | .colon | .comma =>
    .done (enclose (.broken .malformed .malformed false) frames)

/-- The innermost container is complete. -/
def close : List Frame → Progress
  | [] => .done .missing
  | f :: fs => deliver (f.finish .closed) fs

/-- The name of a member is complete. -/
def beginMember (k : Key) : List Frame → Progress
  | .object before _ :: fs => .going (.object before (some k) :: fs) .colon
  | frames => .going frames .colon

/-- One token further. -/
def advance (frames : List Frame) : Expect → Token → Progress
  | .value, t => beginValue frames t
  | .firstItem, .closeBracket => close frames
  | .firstItem, t => beginValue frames t
  | .firstKey, .closeBrace => close frames
  | .firstKey, .string s => beginMember s frames
  | .firstKey, .broken kept skipped true => .done (breakOff (.broken kept skipped) frames)
  | .firstKey, t => .done (breakOff (.strayKey t) frames)
  | .key, .string s => beginMember s frames
  | .key, .broken kept skipped true => .done (breakOff (.afterComma kept skipped) frames)
  | .key, _ => .done (breakOff (.afterComma .malformed .malformed) frames)
  | .colon, .colon => .going frames .value
  | .colon, _ => .done (enclose (.broken .malformed .malformed false) frames)
  | .separator, t =>
    match frames, t with
    | .array _ :: _, .comma => .going frames .value
    | .array _ :: _, .closeBracket => close frames
    | .object _ _ :: _, .comma => .going frames .key
    | .object _ _ :: _, .closeBrace => close frames
    | _, _ => .done (breakOff (.broken .malformed .malformed) frames)

/-- The tree of a text that ends too early. -/
def atEnd (frames : List Frame) : Expect → Node
  | .value | .colon => enclose .missing frames
  | .firstItem | .firstKey | .separator => breakOff (.broken .endOfText .endOfText) frames
  | .key => breakOff (.afterComma .endOfText .endOfText) frames

/-- A JSON text: its tree, and whether anything but white space follows it. -/
structure Document where
  root : Node
  trailing : Bool
  deriving Repr

/-- The rest of a document. -/
def build : List Frame → Expect → List Token → Document
  | frames, expect, [] => ⟨atEnd frames expect, false⟩
  | frames, expect, t :: ts =>
    match advance frames expect t with
    | .going frames' expect' => build frames' expect' ts
    | .done root => ⟨root, !ts.isEmpty⟩

/-- The document of a text. -/
def Document.ofChars (cs : List Char) : Document :=
  build [] .value (tokens cs)

/-- The document of a text. -/
def Document.ofText (s : String) : Document :=
  .ofChars s.toList

/-! ### Walking a tree -/

/-- The fault with which a container ends for a reader who keeps it, if any. -/
def Ending.kept : Ending → Except Fault Unit
  | .closed => .ok ()
  | .broken f _ | .afterComma f _ => .error f
  | .strayKey _ => .error .malformed

/-- The fault with which a container ends for a reader who skips it, if any. -/
def Ending.skipped : Ending → Except Fault Unit
  | .closed => .ok ()
  | .broken _ f | .afterComma _ f => .error f
  | .strayKey _ => .error .malformed

mutual

/-- Walks over a tree, at any depth. -/
def Node.skip : Node → Except Fault Unit
  | .array items ending => do skipItems items; ending.skipped
  | .object members ending => do skipMembers members; ending.skipped
  | .missing => .error .endOfText
  | .broken _ f _ => .error f
  | .null | .bool _ | .number _ | .string _ => .ok ()

/-- Walks over the items of an array. -/
def skipItems : List Node → Except Fault Unit
  | [] => .ok ()
  | n :: ns => do n.skip; skipItems ns

/-- Walks over the members of an object. -/
def skipMembers : List (Key × Node) → Except Fault Unit
  | [] => .ok ()
  | (_, n) :: ms => do n.skip; skipMembers ms

end

/-- How many levels of arrays and objects a value that is kept may have. -/
def maxDepth : Nat := 127

mutual

/-- The value of a tree with at most `room` levels of arrays and objects. -/
def Node.keep (room : Nat) : Node → Except Fault Value
  | .null => .ok .null
  | .bool b => .ok (.bool b)
  | .number n => n.value.map .number
  | .string s => s.map .string
  | .array items ending =>
    match room with
    | 0 => .error .malformed
    | room + 1 => do
      let vs ← keepItems room items
      ending.kept
      return .array vs
  | .object members ending =>
    match room with
    | 0 => .error .malformed
    | room + 1 => do
      let ms ← keepMembers room members
      ending.kept
      return .object (canonicalMembers ms)
  | .missing => .error .endOfText
  | .broken f _ _ => .error f

/-- The values of the items of an array. -/
def keepItems (room : Nat) : List Node → Except Fault (List Value)
  | [] => .ok []
  | n :: ns => do
    let v ← n.keep room
    let vs ← keepItems room ns
    return v :: vs

/-- The values of the members of an object, in the order of the text. -/
def keepMembers (room : Nat) : List (Key × Node) → Except Fault (List (String × Value))
  | [] => .ok []
  | (k, n) :: ms => do
    let key ← k
    let v ← n.keep room
    let vs ← keepMembers room ms
    return (key, v) :: vs

end

/-- The value of a text that holds one JSON value of at most `room` levels. -/
def Value.ofText (room : Nat) (s : String) : Except Fault Value := do
  let doc := Document.ofText s
  let v ← doc.root.keep room
  if doc.trailing then .error .malformed else .ok v

end LiveBoard.Json
