import LiveBoard.Task.Status

/-!
# Tasks

A task of a board and the sparse patches that change it. A patch names the fields to overwrite.
A field of a task that may be empty is patched by an optional value of its own, so that a patch can
clear it.

## Main definitions

* `Task`: a task.
* `Patch`: a sparse patch, with `Patch.isEmpty`.
* `Task.apply`: a task after a patch.
-/

namespace LiveBoard

/-- A task of a board. -/
structure Task where
  id : String
  boardId : String
  title : String
  description : Option String
  status : Status
  priority : String
  dueAt : Option String
  assignedAgentId : Option String
  createdByUserId : Option String
  createdAt : String
  updatedAt : String
  deriving Repr, DecidableEq

/-- A sparse patch of a task. The previous status is news about the change, not part of it. -/
structure Patch where
  boardId : Option String := none
  title : Option String := none
  description : Option (Option String) := none
  status : Option Status := none
  previousStatus : Option Status := none
  priority : Option String := none
  dueAt : Option (Option String) := none
  assignedAgentId : Option (Option String) := none
  createdByUserId : Option (Option String) := none
  createdAt : Option String := none
  updatedAt : Option String := none
  deriving Repr, DecidableEq

namespace Patch

/-- The patch that only moves a task. -/
def ofStatus (s : Status) : Patch := { status := some s }

/-- No field of a task is patched. -/
def isEmpty (p : Patch) : Bool :=
  p.boardId.isNone && p.title.isNone && p.description.isNone && p.status.isNone
    && p.priority.isNone && p.dueAt.isNone && p.assignedAgentId.isNone
    && p.createdByUserId.isNone && p.createdAt.isNone && p.updatedAt.isNone

end Patch

/-- A task with every field of the patch overwritten and all others as they were. -/
def Task.apply (t : Task) (p : Patch) : Task where
  id := t.id
  boardId := p.boardId.getD t.boardId
  title := p.title.getD t.title
  description := p.description.getD t.description
  status := p.status.getD t.status
  priority := p.priority.getD t.priority
  dueAt := p.dueAt.getD t.dueAt
  assignedAgentId := p.assignedAgentId.getD t.assignedAgentId
  createdByUserId := p.createdByUserId.getD t.createdByUserId
  createdAt := p.createdAt.getD t.createdAt
  updatedAt := p.updatedAt.getD t.updatedAt

end LiveBoard
