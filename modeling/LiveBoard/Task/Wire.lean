import LiveBoard.Json.Decoder
import LiveBoard.Json.Members
import LiveBoard.Task.Basic

/-!
# Tasks and patches on the wire

A task is written with every field, `null` for an empty one. A patch is written with the fields
that it has, so that `null` clears a field and a missing member leaves it alone.

## Main definitions

* `Task.decoder`, `Task.toValue`: reading and writing tasks.
* `Patch.decoder`, `Patch.toValue`: reading and writing patches.
-/

namespace LiveBoard

open Json

namespace Status

/-- Reads a status by its name. -/
def decoder : Decoder Status := Decoder.choice named

/-- The written form of a status. -/
def toValue (s : Status) : Value := .string s.name

end Status

namespace Task

/-- A task in the making. -/
structure Draft where
  id : Option String := none
  boardId : Option String := none
  title : Option String := none
  description : Option (Option String) := none
  status : Option Status := none
  priority : Option String := none
  dueAt : Option (Option String) := none
  assignedAgentId : Option (Option String) := none
  createdByUserId : Option (Option String) := none
  createdAt : Option String := none
  updatedAt : Option String := none

/-- The task of a draft that has all it needs. -/
def Draft.build (d : Draft) : Option Task := do
  return {
    id := ← d.id
    boardId := ← d.boardId
    title := ← d.title
    description := d.description.join
    status := ← d.status
    priority := ← d.priority
    dueAt := d.dueAt.join
    assignedAgentId := d.assignedAgentId.join
    createdByUserId := d.createdByUserId.join
    createdAt := ← d.createdAt
    updatedAt := ← d.updatedAt }

/-- The written shape of a task. -/
def shape : RecordShape Draft Task where
  name := "struct BoardSyncTask"
  blank := {}
  build := Draft.build
  slots := [
    .of "id" true (·.id) (fun d x => { d with id := some x }) .string,
    .of "board_id" true (·.boardId) (fun d x => { d with boardId := some x }) .string,
    .of "title" true (·.title) (fun d x => { d with title := some x }) .string,
    .of "description" false (·.description) (fun d x => { d with description := some x })
      (.optional .string),
    .of "status" true (·.status) (fun d x => { d with status := some x }) Status.decoder,
    .of "priority" true (·.priority) (fun d x => { d with priority := some x }) .string,
    .of "due_at" false (·.dueAt) (fun d x => { d with dueAt := some x }) (.optional .string),
    .of "assigned_agent_id" false (·.assignedAgentId)
      (fun d x => { d with assignedAgentId := some x }) (.optional .string),
    .of "created_by_user_id" false (·.createdByUserId)
      (fun d x => { d with createdByUserId := some x }) (.optional .string),
    .of "created_at" true (·.createdAt) (fun d x => { d with createdAt := some x }) .string,
    .of "updated_at" true (·.updatedAt) (fun d x => { d with updatedAt := some x }) .string]

/-- Reads a task. -/
def decoder : Decoder Task := shape.decoder

/-- The written form of a task. -/
def toValue (t : Task) : Value :=
  .object [
    ("id", .string t.id),
    ("board_id", .string t.boardId),
    ("title", .string t.title),
    ("description", .optionalString t.description),
    ("status", t.status.toValue),
    ("priority", .string t.priority),
    ("due_at", .optionalString t.dueAt),
    ("assigned_agent_id", .optionalString t.assignedAgentId),
    ("created_by_user_id", .optionalString t.createdByUserId),
    ("created_at", .string t.createdAt),
    ("updated_at", .string t.updatedAt)]

end Task

namespace Patch

/-- A patch in the making: every field has been met or not, and if so may have been empty. -/
structure Draft where
  boardId : Option (Option String) := none
  title : Option (Option String) := none
  description : Option (Option String) := none
  status : Option (Option Status) := none
  previousStatus : Option (Option Status) := none
  priority : Option (Option String) := none
  dueAt : Option (Option String) := none
  assignedAgentId : Option (Option String) := none
  createdByUserId : Option (Option String) := none
  createdAt : Option (Option String) := none
  updatedAt : Option (Option String) := none

/-- The patch of a draft. A field that a task must have is not patched by `null`. -/
def Draft.build (d : Draft) : Patch where
  boardId := d.boardId.join
  title := d.title.join
  description := d.description
  status := d.status.join
  previousStatus := d.previousStatus.join
  priority := d.priority.join
  dueAt := d.dueAt
  assignedAgentId := d.assignedAgentId
  createdByUserId := d.createdByUserId
  createdAt := d.createdAt.join
  updatedAt := d.updatedAt.join

/-- The written shape of a patch. -/
def shape : RecordShape Draft Patch where
  name := "struct TaskChanges"
  blank := {}
  build d := some d.build
  slots := [
    .of "board_id" false (·.boardId) (fun d x => { d with boardId := some x })
      (.optional .string),
    .of "title" false (·.title) (fun d x => { d with title := some x }) (.optional .string),
    .of "description" false (·.description) (fun d x => { d with description := some x })
      (.optional .string),
    .of "status" false (·.status) (fun d x => { d with status := some x })
      (.optional Status.decoder),
    .of "previous_status" false (·.previousStatus) (fun d x => { d with previousStatus := some x })
      (.optional Status.decoder),
    .of "priority" false (·.priority) (fun d x => { d with priority := some x })
      (.optional .string),
    .of "due_at" false (·.dueAt) (fun d x => { d with dueAt := some x }) (.optional .string),
    .of "assigned_agent_id" false (·.assignedAgentId)
      (fun d x => { d with assignedAgentId := some x }) (.optional .string),
    .of "created_by_user_id" false (·.createdByUserId)
      (fun d x => { d with createdByUserId := some x }) (.optional .string),
    .of "created_at" false (·.createdAt) (fun d x => { d with createdAt := some x })
      (.optional .string),
    .of "updated_at" false (·.updatedAt) (fun d x => { d with updatedAt := some x })
      (.optional .string)]

/-- Reads a patch. -/
def decoder : Decoder Patch := shape.decoder

/-- The written form of a patch. -/
def toValue (p : Patch) : Value :=
  .object (
    fieldIfAny "board_id" .string p.boardId
    ++ fieldIfAny "title" .string p.title
    ++ fieldIfAny "description" .optionalString p.description
    ++ fieldIfAny "status" Status.toValue p.status
    ++ fieldIfAny "previous_status" Status.toValue p.previousStatus
    ++ fieldIfAny "priority" .string p.priority
    ++ fieldIfAny "due_at" .optionalString p.dueAt
    ++ fieldIfAny "assigned_agent_id" .optionalString p.assignedAgentId
    ++ fieldIfAny "created_by_user_id" .optionalString p.createdByUserId
    ++ fieldIfAny "created_at" .string p.createdAt
    ++ fieldIfAny "updated_at" .string p.updatedAt)

end Patch

end LiveBoard
