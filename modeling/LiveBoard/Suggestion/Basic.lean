import LiveBoard.Json.Decoder
import LiveBoard.Json.Members

/-!
# Suggestions

What an agent suggests for a board. The payload is any JSON value and is passed on as it is.

## Main definitions

* `Suggestion`: a suggestion, with its `decoder` and `toValue`.
-/

namespace LiveBoard

open Json

/-- A suggestion of an agent. -/
structure Suggestion where
  id : String
  title : String
  description : Option String
  kind : String
  priority : String
  confidence : Float
  status : String
  payload : Option Value
  createdAt : String
  deriving Repr, DecidableEq

namespace Suggestion

/-- A suggestion in the making. -/
structure Draft where
  id : Option String := none
  title : Option String := none
  description : Option (Option String) := none
  kind : Option String := none
  priority : Option String := none
  confidence : Option Float := none
  status : Option String := none
  payload : Option (Option Value) := none
  createdAt : Option String := none

/-- The suggestion of a draft that has all it needs. -/
def Draft.build (d : Draft) : Option Suggestion := do
  return {
    id := ← d.id
    title := ← d.title
    description := d.description.join
    kind := ← d.kind
    priority := ← d.priority
    confidence := ← d.confidence
    status := ← d.status
    payload := d.payload.join
    createdAt := ← d.createdAt }

/-- The written shape of a suggestion. -/
def shape : RecordShape Draft Suggestion where
  name := "struct AgentSuggestion"
  blank := {}
  build := Draft.build
  slots := [
    .of "id" true (·.id) (fun d x => { d with id := some x }) .string,
    .of "title" true (·.title) (fun d x => { d with title := some x }) .string,
    .of "description" false (·.description) (fun d x => { d with description := some x })
      (.optional .string),
    .of "suggestion_type" true (·.kind) (fun d x => { d with kind := some x }) .string,
    .of "priority" true (·.priority) (fun d x => { d with priority := some x }) .string,
    .of "confidence" true (·.confidence) (fun d x => { d with confidence := some x }) .double,
    .of "status" true (·.status) (fun d x => { d with status := some x }) .string,
    .of "payload" false (·.payload) (fun d x => { d with payload := some x }) (.optional .kept),
    .of "created_at" true (·.createdAt) (fun d x => { d with createdAt := some x }) .string]

/-- Reads a suggestion. -/
def decoder : Decoder Suggestion := shape.decoder

/-- The written form of a suggestion. -/
def toValue (s : Suggestion) : Value :=
  .object (
    field "id" (.string s.id)
    ++ field "title" (.string s.title)
    ++ field "description" (.optionalString s.description)
    ++ field "suggestion_type" (.string s.kind)
    ++ field "priority" (.string s.priority)
    ++ field "confidence" (.number (.double s.confidence))
    ++ field "status" (.string s.status)
    ++ fieldIfAny "payload" (fun v => v) s.payload
    ++ field "created_at" (.string s.createdAt))

end Suggestion

end LiveBoard
