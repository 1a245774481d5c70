import LiveBoard.Proofs.Board.Amend
import LiveBoard.Relay.State

/-!
# What operations do to a relay

An operation on a board is described by what it makes of the tasks of the board and by the message
that it posts, if it does anything at all. Boards other than the one it is about stay as they are.

Whatever a relay does to the tasks of a board, its clients do to theirs when they follow the
message: a client that had the first task of every id has the first task of every id afterwards.

## Main definitions

* `Relay.Operation`: what can be done to a board, and `Relay.perform`.
* `Relay.Operation.news`: the message that is posted and the tasks afterwards.
* `Relay.Operation.IsFresh`: a task that is created has an id that is not in use.

## Main results

* `Relay.room?_perform`: the boards after an operation.
* `Relay.Operation.amend_of_news`: the message does to a client what the operation did.
-/

namespace LiveBoard

namespace Relay

variable {board : String} {r : Relay}

/-! ### Rooms -/

/-- The entry of a key after the first entry of some key was changed. -/
theorem find?_updateFirst {κ α : Type} [DecidableEq κ] (key k : κ) (f : α → α)
    (entries : List (κ × α)) :
    ((updateFirst (fun x => x.1 == key) (fun x => (x.1, f x.2)) entries).find?
        fun x => x.1 == k).map (·.2) =
      if k = key then ((entries.find? fun x => x.1 == k).map (·.2)).map f
      else (entries.find? fun x => x.1 == k).map (·.2) := by
  induction entries with
  | nil => simp [updateFirst]
  | cons x entries ih =>
    rw [updateFirst]
    by_cases hx : x.1 = key
    · subst hx
      by_cases hk : k = x.1
      · simp [hk]
      · have hne : ¬x.1 = k := Ne.symm hk
        simp [hk, hne]
    · by_cases hk : x.1 = k
      · have hne : ¬k = key := fun h => hx (hk.trans h)
        simp [hk, hne]
      · simpa [hx, hk] using ih

theorem updateFirst_congr {f g : Room → Room} {room : Room} (hfg : f room = g room)
    {rooms : List (String × Room)}
    (h : (rooms.find? fun x => x.1 == board).map (·.2) = some room) :
    updateFirst (fun x => x.1 == board) (fun x => (x.1, f x.2)) rooms =
      updateFirst (fun x => x.1 == board) (fun x => (x.1, g x.2)) rooms := by
  induction rooms with
  | nil => rfl
  | cons x rooms ih =>
    rw [updateFirst, updateFirst]
    by_cases hx : x.1 = board
    · have hroom : x.2 = room := by simpa [hx] using h
      simp [hx, hroom, hfg]
    · simp [hx, ih (by simpa [hx] using h)]

/-- Changing a board leaves the others alone. -/
theorem room?_changeRoom (board b : String) (f : Room → Room) (r : Relay) :
    (r.changeRoom board f).room? b = if b = board then (r.room? b).map f else r.room? b :=
  find?_updateFirst board b f r.rooms

theorem room?_changeRoom_self (board : String) (f : Room → Room) (r : Relay) :
    (r.changeRoom board f).room? board = (r.room? board).map f := by
  rw [room?_changeRoom, if_pos rfl]

/-- What becomes of a board depends on nothing but the board. -/
theorem changeRoom_congr {f g : Room → Room} {room : Room} (h : r.room? board = some room)
    (hfg : f room = g room) : r.changeRoom board f = r.changeRoom board g := by
  rw [changeRoom, changeRoom, updateFirst_congr hfg h]

theorem changeRoom_eq_self {f : Room → Room} {room : Room} (h : r.room? board = some room)
    (hf : f room = room) : r.changeRoom board f = r := by
  have hid : ∀ rooms : List (String × Room),
      updateFirst (fun x => x.1 == board) (fun x => (x.1, x.2)) rooms = rooms := by
    intro rooms
    induction rooms with
    | nil => rfl
    | cons x rooms ih => rw [updateFirst, ih]; split <;> rfl
  rw [changeRoom_congr (g := fun room => room) h hf, changeRoom, hid]

/-- Where no task is touched, the tasks of all boards stay as they are. -/
theorem tasks?_changeRoom {f : Room → Room} (hf : ∀ room, (f room).tasks = room.tasks)
    (board b : String) (r : Relay) : (r.changeRoom board f).tasks? b = r.tasks? b := by
  rw [tasks?, room?_changeRoom, tasks?]
  split
  · rw [Option.map_map]
    exact congrFun (congrArg Option.map (funext hf)) _
  · rfl

@[simp] theorem nextReceiver_changeRoom (board : String) (f : Room → Room) (r : Relay) :
    (r.changeRoom board f).nextReceiver = r.nextReceiver := rfl

theorem tasks?_eq_map (board : String) (r : Relay) :
    r.tasks? board = (r.room? board).map (·.tasks) := rfl

/-! ### Operations -/

/-- What can be done to a board. -/
inductive Operation
  | put (tasks : List Task)
  | move (id : String) (status : Status) (mover : Option String)
  | create (title : String) (status : Status) (assignee creator : Option String) (id : String)
  | delete (id : String)
  | suggest (suggestion : Suggestion)

/-- Carries out an operation on a board. -/
def perform (op : Operation) (board now : String) (r : Relay) : Relay :=
  match op with
  | .put tasks => r.putBoard board tasks now
  | .move id status mover => (r.moveTask board id status mover now).2
  | .create title status assignee creator id =>
    (r.createTask board title status assignee creator id now).2
  | .delete id => (r.deleteTask board id now).2
  | .suggest suggestion => (r.pushSuggestion board suggestion).2

namespace Operation

/-- What an operation makes of the tasks of a board, with the message about it. Nothing comes of an
operation on a task that the board does not have. -/
def news (op : Operation) (board now : String) (ts : List Task) :
    Option (ServerMessage × List Task) :=
  match op with
  | .put tasks => some (.boardState ⟨tasks, now⟩, tasks)
  | .move id status mover =>
    (ts.find? fun t => t.id == id).map fun t =>
      (.taskUpdated ⟨id, movePatch t status now, mover, now⟩,
        updateFirst (fun t => t.id == id) (fun u => u.apply (movePatch t status now)) ts)
  | .create title status assignee creator id =>
    let t := newTask board title status assignee creator id now
    some (.taskCreated ⟨t, now⟩, t :: ts)
  | .delete id =>
    if ts.any fun t => t.id == id then
      some (.taskDeleted ⟨id, now⟩, ts.filter fun t => t.id != id)
    else none
  | .suggest suggestion => some (.suggestionNew suggestion, ts)

/-- What an operation makes of a board. -/
def onRoom (op : Operation) (board now : String) (room : Room) : Room :=
  match op.news board now room.tasks with
  | some (m, tasks) => { room with tasks }.post m
  | none => room

theorem tasks_onRoom (op : Operation) (board now : String) (room : Room) :
    (op.onRoom board now room).tasks =
      ((op.news board now room.tasks).map (·.2)).getD room.tasks := by
  rw [onRoom]
  split <;> simp_all [Room.post]

theorem mailboxes_onRoom (op : Operation) (board now : String) (room : Room) :
    (op.onRoom board now room).mailboxes =
      match (op.news board now room.tasks).map (·.1) with
      | some m => room.mailboxes.map fun b => (b.1, b.2.post m)
      | none => room.mailboxes := by
  rw [onRoom]
  split <;> simp_all [Room.post]

/-- A task that is created has an id that is not in use. -/
def IsFresh (op : Operation) (used : List String) : Prop :=
  match op with
  | .create _ _ _ _ id => id ∉ used
  | _ => True

instance (op : Operation) (used : List String) : Decidable (op.IsFresh used) :=
  match op with
  | .create _ _ _ _ _ => inferInstanceAs (Decidable (_ ∉ _))
  | .put _ => .isTrue trivial
  | .move _ _ _ => .isTrue trivial
  | .delete _ => .isTrue trivial
  | .suggest _ => .isTrue trivial

/-- What an operation makes of a board that does not exist. -/
def founded : Operation → Option Room
  | .put tasks => some (.ofTasks tasks)
  | _ => none

end Operation

/-- An operation on a board that exists changes it, and nothing else. -/
theorem perform_of_room {room : Room} (h : r.room? board = some room) (op : Operation)
    (now : String) : r.perform op board now = r.changeRoom board (op.onRoom board now) := by
  have htasks : r.tasks? board = some room.tasks := by rw [tasks?_eq_map, h]; rfl
  cases op with
  | put tasks =>
    simp only [perform, putBoard, h]
    rfl
  | move id status mover =>
    simp only [perform, moveTask, htasks, Option.bind_some]
    cases ht : room.tasks.find? fun t => t.id == id with
    | none =>
      exact (changeRoom_eq_self h (by simp [Operation.onRoom, Operation.news, ht])).symm
    | some t =>
      dsimp only
      refine changeRoom_congr h ?_
      simp only [Operation.onRoom, Operation.news, ht, Option.map_some]
  | create title status assignee creator id =>
    simp only [perform, createTask, addTask, h]
    rfl
  | delete id =>
    simp only [perform, deleteTask, htasks]
    split
    · next hid =>
      dsimp only
      refine changeRoom_congr h ?_
      simp only [Operation.onRoom, Operation.news, hid, if_true]
    · next hid =>
      exact (changeRoom_eq_self h (by simp [Operation.onRoom, Operation.news, hid])).symm
  | suggest suggestion =>
    simp only [perform, pushSuggestion, broadcast, h]
    rfl

/-- An operation on a board that does not exist does nothing, unless it makes the board. -/
theorem perform_of_none (h : r.room? board = none) (op : Operation) (now : String) :
    r.perform op board now = { r with rooms := r.rooms ++ (op.founded.map (board, ·)).toList } := by
  have htasks : r.tasks? board = none := by rw [tasks?_eq_map, h]; rfl
  cases op <;>
    simp [perform, putBoard, moveTask, createTask, addTask, deleteTask, pushSuggestion, broadcast,
      Operation.founded, h, htasks]

/-- **The boards after an operation**: the one that it is about, and all others as they were. -/
theorem room?_perform (op : Operation) (board now b : String) (r : Relay) :
    (r.perform op board now).room? b =
      if b = board then
        match r.room? board with
        | some room => some (op.onRoom board now room)
        | none => op.founded
      else r.room? b := by
  cases h : r.room? board with
  | some room =>
    rw [perform_of_room h, room?_changeRoom]
    split
    · next hb => rw [hb, h]; rfl
    · rfl
  | none =>
    have hrooms : (r.rooms.find? fun x => x.1 == board) = none := Option.map_eq_none_iff.mp h
    simp only [perform_of_none h, room?, List.find?_append]
    split
    · next hb => subst hb; cases op <;> simp [Operation.founded, hrooms]
    · next hb => cases op <;> simp [Operation.founded, Ne.symm hb]

theorem tasks?_perform_of_ne {b : String} (h : b ≠ board) (op : Operation) (now : String)
    (r : Relay) : (r.perform op board now).tasks? b = r.tasks? b := by
  rw [tasks?_eq_map, room?_perform, if_neg h, tasks?_eq_map]

theorem tasks?_perform {ts : List Task} (h : r.tasks? board = some ts) (op : Operation)
    (now : String) :
    (r.perform op board now).tasks? board =
      some (((op.news board now ts).map (·.2)).getD ts) := by
  obtain ⟨room, hroom, rfl⟩ := Option.map_eq_some_iff.mp h
  rw [tasks?_eq_map, room?_perform, if_pos rfl, hroom, Option.map_some, op.tasks_onRoom]

@[simp] theorem nextReceiver_perform (op : Operation) (board now : String) (r : Relay) :
    (r.perform op board now).nextReceiver = r.nextReceiver := by
  cases h : r.room? board with
  | some room => rw [perform_of_room h, nextReceiver_changeRoom]
  | none => rw [perform_of_none h]

/-- **The message does to a client what the operation did** to the relay. -/
theorem Operation.amend_of_news {op : Operation} {now : String} {m : ServerMessage}
    {ts ts' : List Task} (hfresh : op.IsFresh (ids ts)) (h : op.news board now ts = some (m, ts')) :
    m.amend (dedupById ts) = dedupById ts' := by
  cases op with
  | put tasks => cases h; rfl
  | move id status mover =>
    obtain ⟨t, -, h⟩ := Option.map_eq_some_iff.mp h
    cases h
    exact (dedupById_updateFirst (fun u => u.id_apply _) ts).symm
  | create title status assignee creator id =>
    cases h
    have hid : (newTask board title status assignee creator id now).id ∉ ids ts := hfresh
    rw [ServerMessage.amend, if_neg (mt mem_ids_dedupById.mp hid)]
    exact (dedupById_cons hid).symm
  | delete id =>
    rw [news] at h
    split at h
    · cases h
      exact (dedupById_filter_ne id ts).symm
    · cases h
  | suggest suggestion => cases h; rfl

end Relay

end LiveBoard
