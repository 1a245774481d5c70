import LiveBoard.Board.Listener
import LiveBoard.Proofs.Board.Distinct

/-!
# What a message does to the tasks of a board

Every message of a relay that a client follows changes the client's tasks in a way that depends on
nothing but these tasks. Suggestions, acknowledgements and unknown messages leave them alone.

## Main definitions

* `ServerMessage.amend`: the tasks after a message, and `amendAll` after several.
* `BoardStore.follow`: the board of a client after a message.

## Main results

* `BoardStore.tasks_follow`: the tasks of a board that follows a message are the amended ones.
* `ServerMessage.nodup_ids_amend`: distinct ids stay distinct.
-/

namespace LiveBoard

theorem Task.id_apply (t : Task) (p : Patch) : (t.apply p).id = t.id := rfl

namespace ServerMessage

/-- The tasks of a board after a message. -/
def amend (m : ServerMessage) (ts : List Task) : List Task :=
  match m with
  | .boardState s => dedupById s.tasks
  | .taskUpdated u => updateFirst (fun t => t.id == u.taskId) (fun t => t.apply u.changes) ts
  | .taskCreated c => if c.task.id ∈ ids ts then ts else c.task :: ts
  | .taskDeleted d => ts.filter fun t => t.id != d.taskId
  | .suggestionNew _ => ts
  | .heartbeatAck _ => ts
  | .unknown => ts

theorem amend_taskCreated_of_mem {c : TaskCreated} {ts : List Task} (h : c.task.id ∈ ids ts) :
    (taskCreated c).amend ts = ts := if_pos h

theorem amend_taskCreated_of_notMem {c : TaskCreated} {ts : List Task} (h : c.task.id ∉ ids ts) :
    (taskCreated c).amend ts = c.task :: ts := if_neg h

/-- The tasks of a board after several messages, the first one first. -/
def amendAll (ms : List ServerMessage) (ts : List Task) : List Task :=
  ms.foldl (fun ts m => m.amend ts) ts

@[simp] theorem amendAll_nil (ts : List Task) : amendAll [] ts = ts := rfl

@[simp] theorem amendAll_cons (m : ServerMessage) (ms : List ServerMessage) (ts : List Task) :
    amendAll (m :: ms) ts = amendAll ms (m.amend ts) := rfl

theorem amendAll_append (ms ns : List ServerMessage) (ts : List Task) :
    amendAll (ms ++ ns) ts = amendAll ns (amendAll ms ts) :=
  List.foldl_append

theorem amendAll_concat (ms : List ServerMessage) (m : ServerMessage) (ts : List Task) :
    amendAll (ms ++ [m]) ts = m.amend (amendAll ms ts) :=
  amendAll_append ms [m] ts

/-- Distinct ids stay distinct. -/
theorem nodup_ids_amend (m : ServerMessage) {ts : List Task} (h : (ids ts).Nodup) :
    (ids (m.amend ts)).Nodup := by
  cases m with
  | boardState s => exact nodup_ids_dedupById s.tasks
  | taskUpdated u =>
    rw [amend, ids_updateFirst fun t => t.id_apply u.changes]
    exact h
  | taskCreated c =>
    rw [amend]
    split
    · exact h
    · next hid => exact List.nodup_cons.mpr ⟨hid, h⟩
  | taskDeleted d => exact h.sublist (List.filter_sublist.map _)
  | suggestionNew s => exact h
  | heartbeatAck id => exact h
  | unknown => exact h

theorem nodup_ids_amendAll (ms : List ServerMessage) {ts : List Task} (h : (ids ts).Nodup) :
    (ids (amendAll ms ts)).Nodup := by
  induction ms generalizing ts with
  | nil => exact h
  | cons m ms ih => exact ih (m.nodup_ids_amend h)

end ServerMessage

namespace BoardStore

/-- The board of a client after a message. -/
def follow (m : ServerMessage) (s : BoardStore) : BoardStore :=
  match operation? m with
  | some f => (f s).2
  | none => s

theorem contains_iff {s : BoardStore} {id : String} : s.contains id = true ↔ id ∈ ids s.tasks := by
  simp [contains, task?, mem_ids]

/-- The tasks of a board that follows a message are the amended ones. -/
theorem tasks_follow (m : ServerMessage) (s : BoardStore) :
    (s.follow m).tasks = m.amend s.tasks := by
  cases m with
  | boardState snapshot => rfl
  | taskUpdated u =>
    simp only [follow, operation?, applyUpdate, ServerMessage.amend]
    split
    · rfl
    · next h => exact (updateFirst_of_notMem fun hid => h (contains_iff.mpr hid)).symm
  | taskCreated c =>
    simp only [follow, operation?, applyCreated, ServerMessage.amend, contains_iff]
    split <;> rfl
  | taskDeleted d => rfl
  | suggestionNew s => rfl
  | heartbeatAck id => rfl
  | unknown => rfl

end BoardStore

namespace SharedBoard

/-- A shared board follows the messages that it receives. -/
theorem store_receive (m : ServerMessage) (b : SharedBoard) :
    (b.receive m).store = b.store.follow m := by
  cases m <;> rfl

end SharedBoard

end LiveBoard
