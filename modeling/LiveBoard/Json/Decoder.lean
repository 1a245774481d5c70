import LiveBoard.Json.Mismatch

/-!
# Decoders

A decoder reads a typed value from a document. It walks over the document from left to right, so
that of several things that are wrong with it the first one is reported, and a fault of the text
counts like any other.

A document is read *directly* from its text, or after the whole text was read and found sound.
The two ways differ where a name of a choice is wanted and something else stands there, and where
an array holds more elements than wanted: a direct reader finds the text at fault, as it cannot go
on from there, while the other one can still say what is wrong.

Records are read from objects or from arrays of their fields. Unknown members of an object are
skipped, repeated ones refused. Fields are described by slots of a draft, the record in the
making.

## Main definitions

* `Json.Decoder`: the decoders.
* `Json.Decoder.string`, `double`, `unsigned`, `optional`, `list`, `choice`, `kept`: the simple
  ones.
* `Json.Slot`, `Json.RecordShape.decoder`: decoders of records.
* `Json.decodeText`: decoding a whole text.
-/

namespace LiveBoard.Json

/-- Where a decoder stands. -/
structure Context where
  /-- The whole text was read before, and found sound. -/
  buffered : Bool
  /-- How many levels of arrays and objects may still open. -/
  room : Nat

/-- Reads a typed value from a document. -/
def Decoder (α : Type) := Context → Node → Except ReadError α

/-- A fault of the text as a reason not to read it. -/
def fromFault {α : Type} : Except Fault α → Except ReadError α
  | .ok a => .ok a
  | .error f => .error (.fault f)

/-- What stands in a document. -/
def Node.found : Node → Except Fault Found
  | .null => .ok .null
  | .bool b => .ok (.bool b)
  | .number n => n.value.map .number
  | .string s => s.map .string
  | .array _ _ => .ok .sequence
  | .object _ _ => .ok .map
  | .missing => .error .endOfText
  | .broken f _ _ => .error f

/-- A document that is not what was wanted. -/
def unexpected (wanted : String) (n : Node) : ReadError :=
  match n.found with
  | .ok found => .mismatch (.invalidType found wanted)
  | .error f => .fault f

/-- The context inside an array or object. -/
def Context.inside (ctx : Context) : Except ReadError Context :=
  match ctx.room with
  | 0 => .error (.fault .malformed)
  | room + 1 => .ok { ctx with room }

namespace Decoder

/-- A string. -/
def string : Decoder String := fun _ n =>
  match n with
  | .string s => fromFault s
  | n => .error (unexpected "a string" n)

/-- A value, or `null` for none. -/
def optional {α : Type} (d : Decoder α) : Decoder (Option α) := fun ctx n =>
  match n with
  | .null => .ok none
  | n => (d ctx n).map some

/-- A number as a double. -/
def double : Decoder Float := fun _ n =>
  match n with
  | .number m => do
    match ← fromFault m.value with
    | .integer i => return Float.ofInt i
    | .double x => return x
  | n => .error (unexpected "f64" n)

/-- An integer that is not negative and below `2^bits`. -/
def unsigned (bits : Nat) : Decoder Nat := fun _ n =>
  let wanted := "u" ++ String.ofList (Nat.toDigits 10 bits)
  match n with
  | .number m => do
    match ← fromFault m.value with
    | .integer i =>
      if 0 ≤ i ∧ i < Int.ofNat (Nat.pow 2 bits) then return i.toNat
      else .error (.mismatch (.invalidValue (.number (.integer i)) wanted))
    | .double x => .error (.mismatch (.invalidType (.number (.double x)) wanted))
  | n => .error (unexpected wanted n)

/-- `true` or `false`. -/
def bool : Decoder Bool := fun _ n =>
  match n with
  | .bool b => .ok b
  | n => .error (unexpected "a boolean" n)

/-- Any value, kept as it is. -/
def kept : Decoder Value := fun ctx n => fromFault (n.keep ctx.room)

/-- The items of an array. -/
def items {α : Type} (d : Decoder α) (ctx : Context) : List Node → Except ReadError (List α)
  | [] => .ok []
  | n :: ns => do
    let a ← d ctx n
    let as ← items d ctx ns
    return a :: as

/-- An array of values. -/
def list {α : Type} (d : Decoder α) : Decoder (List α) := fun ctx n =>
  match n with
  | .array ns ending => do
    let as ← items d (← ctx.inside) ns
    fromFault ending.kept
    return as
  | n => .error (unexpected "a sequence" n)

/-! ### Choices -/

/-- The value of a name in a choice. -/
def named {α : Type} (known : List (String × α)) (name : String) : Except ReadError α :=
  match known.find? fun k => k.1 == name with
  | some k => .ok k.2
  | none => .error (.mismatch (.unknownVariant name (known.map (·.1))))

/-- The unit value that may follow a name. Once the text was read, an empty object will do. -/
def unit : Decoder Unit := fun ctx n =>
  match n with
  | .null => .ok ()
  | .object [] .closed =>
    if ctx.buffered then .ok () else .error (unexpected "unit" n)
  | n => .error (unexpected "unit" n)

/-- What stands where the first name of an object should. -/
def strayKey : Token → ReadError
  | .null => unexpected "variant identifier" .null
  | .bool b => unexpected "variant identifier" (.bool b)
  | .number n => unexpected "variant identifier" (.number n)
  | .openBracket => unexpected "variant identifier" (.array [] .closed)
  | .openBrace => unexpected "variant identifier" (.object [] .closed)
  | .broken f _ _ => .fault f
  | _ => .fault .malformed

/-- A name from a choice: a string, or an object whose only member has that name and no value. -/
def choice {α : Type} (known : List (String × α)) : Decoder α := fun ctx n =>
  match n with
  | .string s => do named known (← fromFault s)
  | .object members ending =>
    if ctx.buffered then
      match members with
      | [(k, v)] => do
        let a ← named known (← fromFault k)
        unit ctx v
        return a
      | _ => .error (.mismatch (.invalidValue .map "map with a single key"))
    else
      match members, ending with
      | [], .strayKey t => .error (strayKey t)
      | [], .broken f _ => .error (.fault f)
      | [], _ => .error (.fault .malformed)
      | (k, v) :: more, ending => do
        let ctx ← ctx.inside
        let a ← named known (← fromFault k)
        unit ctx v
        match more, ending with
        | [], .closed => return a
        | [], .broken f _ => .error (.fault f)
        | _, _ => .error (.fault .malformed)
  | n =>
    if ctx.buffered then .error (unexpected "string or map" n)
    else
      match n with
      | .missing => .error (.fault .endOfText)
      | .broken f _ true => .error (.fault f)
      | _ => .error (.fault .malformed)

end Decoder

/-! ### Records -/

/-- A field of a record, as a place in the draft of the record. -/
structure Slot (σ : Type) where
  key : String
  /-- The record is incomplete without it. -/
  required : Bool
  /-- An array of the fields that ends before it is too short. -/
  expected : Bool
  /-- The draft has it. -/
  held : σ → Bool
  /-- Reads it into the draft. -/
  fill : Context → Node → σ → Except ReadError σ

/-- A slot from its place in the draft. -/
def Slot.of {σ α : Type} (key : String) (required : Bool) (get : σ → Option α)
    (set : σ → α → σ) (d : Decoder α) : Slot σ where
  key
  required
  expected := required
  held draft := (get draft).isSome
  fill ctx n draft := (d ctx n).map (set draft)

/-- A kind of record: what it is called, its fields in order, and the record of a draft that
holds every required field. -/
structure RecordShape (σ α : Type) where
  name : String
  slots : List (Slot σ)
  blank : σ
  build : σ → Option α

namespace RecordShape

variable {σ α : Type} (shape : RecordShape σ α)

/-- The name of the shape with the number of its fields. -/
def withLength : String :=
  shape.name ++ " with " ++ elements shape.slots.length

/-- One member of an object. -/
def member (ctx : Context) (draft : σ) (key : Key) (n : Node) : Except ReadError σ := do
  let key ← fromFault key
  match shape.slots.find? fun s => s.key == key with
  | some slot =>
    if slot.held draft then .error (.mismatch (.duplicateField key))
    else slot.fill ctx n draft
  | none => do
    fromFault n.skip
    return draft

/-- The members of an object, from left to right. -/
def members (ctx : Context) : σ → List (Key × Node) → Except ReadError σ
  | draft, [] => .ok draft
  | draft, (k, n) :: ms => do
    let draft ← shape.member ctx draft k n
    members ctx draft ms

/-- The elements of an array, as far as there are fields for them. -/
def fillItems (ctx : Context) : σ → List (Slot σ) → List Node → Except ReadError σ
  | draft, slot :: slots, n :: ns => do
    let draft ← slot.fill ctx n draft
    fillItems ctx draft slots ns
  | draft, _, _ => .ok draft

/-- The record of a draft, or the first required field that it lacks. -/
def complete (draft : σ) : Except ReadError α :=
  match shape.build draft with
  | some a => .ok a
  | none =>
    match shape.slots.find? fun s => s.required && !s.held draft with
    | some slot => .error (.mismatch (.missingField slot.key))
    | none => .error (.fault .malformed)

/-- The position of the first expected field from the position `i` on, where an array of `i`
elements is too short. -/
def firstExpected (slots : List (Slot σ)) (i : Nat) : Option Nat :=
  ((slots.drop i).findIdx? (·.expected)).map (i + ·)

/-- A record from the members of an object. -/
def fromMembers (ctx : Context) (ms : List (Key × Node)) (ending : Ending) :
    Except ReadError α := do
  let draft ← shape.members ctx shape.blank ms
  fromFault ending.kept
  shape.complete draft

/-- A record from the elements of an array. -/
def fromItems (ctx : Context) (ns : List Node) (ending : Ending) : Except ReadError α := do
  let count := shape.slots.length
  let draft ← fillItems ctx shape.blank shape.slots ns
  if count < ns.length then
    if ctx.buffered then
      .error (.mismatch (.invalidLength ns.length (elements count ++ " in sequence")))
    else .error (.fault .malformed)
  else
    fromFault ending.kept
    match firstExpected shape.slots ns.length with
    | some i => .error (.mismatch (.invalidLength i shape.withLength))
    | none => shape.complete draft

/-- The decoder of a record. -/
def decoder : Decoder α := fun ctx n =>
  match n with
  | .object ms ending => do shape.fromMembers (← ctx.inside) ms ending
  | .array ns ending => do shape.fromItems (← ctx.inside) ns ending
  | n => .error (unexpected shape.name n)

end RecordShape

/-! ### Texts -/

/-- The context at the start of a text that is read directly. -/
def Context.direct : Context := { buffered := false, room := maxDepth }

/-- Decodes a whole text directly. -/
def decodeText {α : Type} (d : Decoder α) (s : String) : Except ReadError α := do
  let doc := Document.ofText s
  let a ← d .direct doc.root
  if doc.trailing then .error (.fault .malformed) else return a

end LiveBoard.Json
