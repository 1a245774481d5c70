import LiveBoard.Json.Node
import LiveBoard.Json.Printer
import LiveBoard.Text.Listing
import LiveBoard.Text.Quoted

/-!
# Mismatches

A document may be sound and still not be what its reader wants. The ways in which it can differ
are the constructors of `Mismatch`, and every one has a text.

## Main definitions

* `Json.Found`: what stands in a document.
* `Json.Mismatch`: how a document differs from what was wanted.
* `Json.ReadError`: a mismatch, or a fault of the text itself.
-/

namespace LiveBoard.Json

/-- What stands in a document where something else was wanted. -/
inductive Found
  | null
  | bool (b : Bool)
  | number (n : Number)
  | string (s : String)
  | sequence
  | map
  deriving Repr, DecidableEq

/-- How a document differs from what was wanted. -/
inductive Mismatch
  | missingField (name : String)
  | duplicateField (name : String)
  | unknownVariant (name : String) (known : List String)
  | invalidType (found : Found) (wanted : String)
  | invalidValue (found : Found) (wanted : String)
  | invalidLength (length : Nat) (wanted : String)
  deriving Repr, DecidableEq

/-- Why a document cannot be read: its text is at fault, or it differs from what was wanted. -/
inductive ReadError
  | fault (f : Fault)
  | mismatch (m : Mismatch)
  deriving Repr, DecidableEq

/-- The text of what was found. -/
def Found.text : Found → String
  | .null => "null"
  | .bool b => "boolean \x60" ++ (if b then "true" else "false") ++ "\x60"
  | .number n =>
    (match n with
      | .integer _ => "integer \x60"
      | .double _ => "floating point \x60") ++ String.ofList n.print ++ "\x60"
  | .string s => "string " ++ Text.quoted s
  | .sequence => "sequence"
  | .map => "map"

/-- The text of a mismatch. -/
def Mismatch.message : Mismatch → String
  | .missingField name => "missing field " ++ Text.backquoted name
  | .duplicateField name => "duplicate field " ++ Text.backquoted name
  | .unknownVariant name known =>
    "unknown variant " ++ Text.backquoted name ++ ", expected " ++ Text.oneOf known
  | .invalidType found wanted => "invalid type: " ++ found.text ++ ", expected " ++ wanted
  | .invalidValue found wanted => "invalid value: " ++ found.text ++ ", expected " ++ wanted
  | .invalidLength n wanted =>
    "invalid length " ++ String.ofList (Nat.toDigits 10 n) ++ ", expected " ++ wanted

/-- A count of elements in words. -/
def elements (n : Nat) : String :=
  String.ofList (Nat.toDigits 10 n) ++ (if n = 1 then " element" else " elements")

end LiveBoard.Json
