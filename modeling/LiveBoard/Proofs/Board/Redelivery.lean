import LiveBoard.Proofs.Board.Suggestions
import LiveBoard.Proofs.Board.Watch
import LiveBoard.Proofs.Relay.Call
import LiveBoard.Proofs.Task.Patch

/-!
# Messages that are delivered again

A link that has to make sure that a message arrives may deliver it more than once. No message of a
relay does more the second time than it did the first time: a patch names the values that a task
has afterwards, a new task is known by then, the tasks of an id are gone, a suggestion is held, and
the whole board is what it was.

The update with which a relay announces a move is such a second time for the client that made the
move. It names the status that the task already has on the board of this client, along with the
time of the move. So a board ends up the same whether the move was made on it first or not.

## Main definitions

* `Patch.Moves`: a patch names a status.

## Main results

* `BoardStore.follow_follow`: following a message twice is following it once.
* `BoardStore.follow_moveLocally`: an update that names the status covers up a move.
* `BoardStore.redelivery_changes_nothing`: both, for every board and every relay.
-/

namespace LiveBoard

/-! ### Patches -/

/-- The patch puts a task in the column of a status. -/
def Patch.Moves (p : Patch) (status : Status) : Prop := p.status = some status

namespace Task

/-- A patch names the values that a task has afterwards. -/
theorem apply_apply_self (t : Task) (p : Patch) : (t.apply p).apply p = t.apply p := by
  refine eq_of_value rfl fun f => ?_
  rw [value_apply, value_apply]
  cases p.value? f <;> rfl

/-- Where a patch names the status, it makes no difference which one a task had. -/
theorem apply_with_status {p : Patch} {status : Status} (hp : p.Moves status) (t : Task)
    (old : Status) : { t with status := old }.apply p = t.apply p := by
  rw [apply, apply, hp]
  rfl

end Task

/-! ### Suggestions -/

namespace SuggestionBuffer

variable {b : SuggestionBuffer} {s : Suggestion}

/-- With room for any, a suggestion that was pushed is held. -/
theorem mem_ids_push (hcapacity : 0 < b.capacity) : s.id ∈ (b.push s).2.ids := by
  by_cases hid : s.id ∈ b.ids
  · rwa [push_of_mem hid]
  · obtain ⟨n, hn⟩ := Nat.exists_eq_add_one_of_ne_zero (Nat.pos_iff_ne_zero.mp hcapacity)
    rw [push_of_notMem hid, ids, hn, List.take_succ_cons]
    exact List.mem_cons_self

/-- A suggestion that was pushed is refused, whether it was taken or not. -/
theorem push_push (hcapacity : 0 < b.capacity) : (b.push s).2.push s = (false, (b.push s).2) :=
  push_of_mem (mem_ids_push hcapacity)

end SuggestionBuffer

namespace BoardStore

variable {s : BoardStore}

/-! ### One message twice -/

theorem tasks_applyUpdate (u : TaskUpdate) (s : BoardStore) :
    (s.applyUpdate u).2 = { s with
      tasks := updateFirst (fun t => t.id == u.taskId) (fun t => t.apply u.changes) s.tasks } := by
  rw [applyUpdate]
  split
  · rfl
  · next hunknown =>
    rw [updateFirst_of_notMem fun hid => hunknown (contains_iff.mpr hid)]

/-- A patch that was made is made again without effect. -/
theorem applyUpdate_applyUpdate (u : TaskUpdate) (s : BoardStore) :
    ((s.applyUpdate u).2.applyUpdate u).2 = (s.applyUpdate u).2 := by
  have htwice : ∀ t : Task, (t.apply u.changes).apply u.changes = t.apply u.changes :=
    fun t => t.apply_apply_self u.changes
  rw [tasks_applyUpdate, tasks_applyUpdate,
    updateFirst_updateFirst_self fun t => t.id_apply u.changes]
  simp only [htwice]

/-- A task that was created is known. -/
theorem applyCreated_applyCreated (t : Task) (s : BoardStore) :
    (s.applyCreated t).2.applyCreated t = (false, (s.applyCreated t).2) := by
  have hknown : (s.applyCreated t).2.contains t.id = true := by
    rw [applyCreated]
    split
    · next hknown => exact hknown
    · exact contains_iff.mpr List.mem_cons_self
  exact if_pos hknown

/-- The tasks of an id that was deleted are gone. -/
theorem applyDeleted_applyDeleted (id : String) (s : BoardStore) :
    (s.applyDeleted id).2.applyDeleted id = (false, (s.applyDeleted id).2) :=
  applyDeleted_of_notMem fun hid => (mem_ids_filter_ne.mp hid).2 rfl

/-- A suggestion that was made is held. -/
theorem applySuggestion_applySuggestion (hcapacity : 0 < s.suggestions.capacity)
    (x : Suggestion) :
    (s.applySuggestion x).2.applySuggestion x = (false, (s.applySuggestion x).2) := by
  have hpush := SuggestionBuffer.push_push (s := x) hcapacity
  simp only [applySuggestion, hpush]

/-- **Following a message twice** is following it once. -/
theorem follow_follow (hcapacity : 0 < s.suggestions.capacity) (m : ServerMessage) :
    (s.follow m).follow m = s.follow m := by
  cases m with
  | boardState b => rfl
  | taskUpdated u => exact applyUpdate_applyUpdate u s
  | taskCreated c => exact (Prod.ext_iff.mp (applyCreated_applyCreated c.task s)).2
  | taskDeleted d => exact (Prod.ext_iff.mp (applyDeleted_applyDeleted d.taskId s)).2
  | suggestionNew x => exact (Prod.ext_iff.mp (applySuggestion_applySuggestion hcapacity x)).2
  | heartbeatAck id => rfl
  | unknown => rfl

/-! ### A move and its announcement -/

theorem snd_moveLocally (id : String) (status : Status) (s : BoardStore) :
    (s.moveLocally id status).2 = { s with
      tasks := updateFirst (fun t => t.id == id) (fun t => { t with status }) s.tasks } := by
  rw [moveLocally]
  split
  · next t ht =>
    split
    · next hstatus =>
      have hself : ∀ u ∈ s.tasks.find? (fun u => u.id == id), { u with status } = u := by
        rintro u hu
        obtain rfl : t = u := Option.some.inj (ht.symm.trans hu)
        rw [← hstatus]
      rw [updateFirst_eq_self_iff.mpr hself]
    · rfl
  · next ht => rw [updateFirst_of_notMem (task?_eq_none_iff.mp ht)]

/-- **An update that names the status** of its task covers up that the task was moved before. -/
theorem follow_moveLocally {u : TaskUpdate} {status : Status} (hu : u.changes.Moves status)
    (old : Status) (s : BoardStore) :
    (s.moveLocally u.taskId old).2.follow (.taskUpdated u) = s.follow (.taskUpdated u) := by
  have hcovers : ∀ t : Task, { t with status := old }.apply u.changes = t.apply u.changes :=
    fun t => t.apply_with_status hu old
  show ((s.moveLocally u.taskId old).2.applyUpdate u).2 = (s.applyUpdate u).2
  rw [tasks_applyUpdate, tasks_applyUpdate, snd_moveLocally,
    updateFirst_updateFirst_self (f := fun t => { t with status := old }) fun _ => rfl]
  simp only [hcovers]

end BoardStore

namespace Relay

variable {board now id : String} {status : Status} {mover : Option String} {ts ts' : List Task}
  {r r' : Relay}

/-- A move is announced by an update of its task that names its status. -/
theorem Call.Describes.exists_update {m : ServerMessage}
    (h : Describes board now (.operate (.move id status mover)) m ts ts') :
    ∃ u : TaskUpdate, m = .taskUpdated u ∧ u.taskId = id ∧ u.changes.Moves status := by
  cases h
  exact ⟨_, rfl, rfl, rfl⟩

/-- **A relay that moves a task** tells every receiver of its board with an update that names the
status of the task. -/
theorem exists_update_of_moveTask (h : r.moveTask board id status mover now = (true, r')) :
    ∃ (u : TaskUpdate) (ts ts' : List Task),
      Call.Describes board now (.operate (.move id status mover)) (.taskUpdated u) ts ts' ∧
      Publishes board (.taskUpdated u) ts ts' r r' ∧ u.taskId = id ∧ u.changes.Moves status := by
  obtain ⟨m, ts, ts', hdescribes, hpublishes⟩ :=
    publishes_of_call_eq_true (c := .operate (.move id status mover)) h nofun
  obtain ⟨u, rfl, hid, hmoves⟩ := hdescribes.exists_update
  exact ⟨u, ts, ts', hdescribes, hpublishes, hid, hmoves⟩

end Relay

namespace BoardStore

/-- **A message that is delivered again changes nothing.** On every board that can come about, a
message of any kind leaves the same board whether it is followed once or twice, and the second time
a new task, a deletion and a suggestion are answered with no. A relay that moves a task tells every
receiver of its board with an update that leaves any such board the same whether the task was
moved on it before or not. -/
theorem redelivery_changes_nothing {s : BoardStore} (h : s.IsReachable) :
    (∀ m, (s.follow m).follow m = s.follow m) ∧
    (∀ c : TaskCreated, let s' := s.follow (.taskCreated c)
      s'.applyCreated c.task = (false, s')) ∧
    (∀ d : TaskDeleted, let s' := s.follow (.taskDeleted d)
      s'.applyDeleted d.taskId = (false, s')) ∧
    (∀ x : Suggestion, let s' := s.follow (.suggestionNew x)
      s'.applySuggestion x = (false, s')) ∧
    ∀ (r r' : Relay) (board id : String) (status : Status) (mover : Option String) (now : String),
      r.moveTask board id status mover now = (true, r') →
      ∃ (u : TaskUpdate) (ts ts' : List Task),
        Relay.Call.Describes board now (.operate (.move id status mover)) (.taskUpdated u) ts ts' ∧
        Relay.Publishes board (.taskUpdated u) ts ts' r r' ∧
        (s.moveLocally id status).2.follow (.taskUpdated u) = s.follow (.taskUpdated u) := by
  have hcapacity : 0 < s.suggestions.capacity := by rw [h.capacity]; decide
  refine ⟨follow_follow hcapacity, fun c => applyCreated_applyCreated c.task s,
    fun d => applyDeleted_applyDeleted d.taskId s,
    fun x => applySuggestion_applySuggestion hcapacity x, ?_⟩
  intro r r' board id status mover now hmove
  obtain ⟨u, ts, ts', hdescribes, hpublishes, rfl, hmoves⟩ := Relay.exists_update_of_moveTask hmove
  exact ⟨u, ts, ts', hdescribes, hpublishes, follow_moveLocally hmoves status s⟩

/-- A board with as many suggestions as it retains hears of another one twice, and moves a task that
a relay moves as well. -/
theorem redelivery_changes_nothing_of_full :
    let lamp : Task := ⟨"1", "b", "Lamp", none, .inbox, "P2", none, none, none, "d", "d"⟩
    let hint (id : String) : Suggestion := ⟨id, "Sort", none, "sort", "P2", 0, "pending", none, "d"⟩
    let s := (seeded [lamp, { lamp with title := "Desk lamp" }]).run
      (["a", "b", "c", "d", "e"].map fun id => .message (.suggestionNew (hint id)))
    let s' := s.follow (.suggestionNew (hint "f"))
    let r : Relay := ⟨[], [("b", ⟨[lamp], [(0, .empty)]⟩)], 1⟩
    let r' := (r.moveTask "b" "1" .done none "t").2
    s.IsReachable ∧ s.suggestions.ids = ["e", "d", "c", "b", "a"] ∧
      s'.suggestions.ids = ["f", "e", "d", "c", "b"] ∧
      s'.applySuggestion (hint "f") = (false, s') ∧
      r.moveTask "b" "1" .done none "t" = (true, r') ∧ (s.moveLocally "1" .done).2 ≠ s ∧
      ∃ (u : TaskUpdate) (ts ts' : List Task),
        Relay.Publishes "b" (.taskUpdated u) ts ts' r r' ∧
        (s.moveLocally "1" .done).2.follow (.taskUpdated u) = s.follow (.taskUpdated u) := by
  intro lamp hint s s' r r'
  have hs : s.IsReachable := (IsReachable.seeded _).run _
  have hmove : r.moveTask "b" "1" .done none "t" = (true, r') := by decide +kernel
  obtain ⟨-, -, -, hsuggestion, hecho⟩ := redelivery_changes_nothing hs
  obtain ⟨u, ts, ts', -, hpublishes, heq⟩ := hecho r r' "b" "1" .done none "t" hmove
  exact ⟨hs, by decide +kernel, by decide +kernel, hsuggestion (hint "f"), hmove,
    by decide +kernel, u, ts, ts', hpublishes, heq⟩

end BoardStore

end LiveBoard
