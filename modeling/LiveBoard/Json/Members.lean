import LiveBoard.Json.Value

/-!
# Members of written records

A record is written as an object whose members come in the order of its fields. A field without a
value is either written as `null` or left out.

## Main definitions

* `Json.Value.optional`: a value or `null`.
* `Json.field`, `Json.fieldIfAny`: the members of a field.
-/

namespace LiveBoard.Json

/-- The value that is there, or `null`. -/
def Value.optional {α : Type} (f : α → Value) : Option α → Value
  | some a => f a
  | none => .null

/-- A text, or `null`. -/
def Value.optionalString : Option String → Value := .optional .string

/-- A natural number. -/
def Value.nat (n : Nat) : Value := .number (.integer n)

/-- The member of a field that is always written. -/
def field (key : String) (v : Value) : List (String × Value) := [(key, v)]

/-- The member of a field that is left out when it has no value. -/
def fieldIfAny {α : Type} (key : String) (f : α → Value) : Option α → List (String × Value)
  | some a => [(key, f a)]
  | none => []

end LiveBoard.Json
