import LiveBoard.Suggestion.Basic

/-!
# The suggestion buffer

A bounded buffer of suggestions, the latest first, with at most one of every id. It is only ever
added to: what is pushed out at the far end is forgotten.

## Main definitions

* `SuggestionBuffer`: the buffer.
* `SuggestionBuffer.push`: one more suggestion, unless its id is held.
-/

namespace LiveBoard

/-- A bounded buffer of suggestions, the latest first. -/
structure SuggestionBuffer where
  items : List Suggestion
  capacity : Nat
  deriving Repr, DecidableEq

namespace SuggestionBuffer

/-- How many suggestions a client retains. -/
def defaultCapacity : Nat := 5

/-- The empty buffer for a number of suggestions. -/
def withCapacity (capacity : Nat) : SuggestionBuffer := ⟨[], capacity⟩

/-- The empty buffer of a client. -/
def empty : SuggestionBuffer := withCapacity defaultCapacity

/-- A suggestion of this id is held. -/
def contains (b : SuggestionBuffer) (id : String) : Bool :=
  b.items.any fun s => s.id == id

/-- Puts a suggestion in front and drops what exceeds the capacity. A suggestion whose id is held
is refused. Says whether the suggestion was taken. -/
def push (b : SuggestionBuffer) (s : Suggestion) : Bool × SuggestionBuffer :=
  if b.contains s.id then (false, b)
  else (true, { b with items := (s :: b.items).take b.capacity })

end SuggestionBuffer

end LiveBoard
