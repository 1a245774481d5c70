import LiveBoard.Proofs.Relay.Mailbox
import Mathlib.Data.List.Forall2

/-!
# Calls of a relay

What is asked of a relay about one of its boards is done in full or not at all. It is done where
there is such a board and, if it is about a task, such a task. Then every receiver of the board
finds one message more in its mailbox, and the message says what became of the tasks. Otherwise the
relay stays as it was. Other boards never notice.

## Main definitions

* `Relay.Call`, `Relay.call`: what can be asked of a relay, and whether it was done.
* `Mailbox.Gains`, `Room.Sends`: a mailbox, and all mailboxes of a board, with one message more.
* `Relay.Publishes`: the tasks of a board have changed, and its receivers were told.
* `Relay.AgreesElsewhere`: two relays differ in one board at most.
* `Relay.Call.Describes`: a message says what a call does to the tasks of a board.

## Main results

* `Relay.publishes_perform`: an operation that has something to post posts it and does it.
* `Relay.all_or_nothing`: a call is done in full, with its message, or not at all.
-/

namespace LiveBoard

/-! ### One message more -/

/-- A mailbox has one message more, the newest one. Where it was full, the oldest message is lost,
and counted. -/
structure Mailbox.Gains (m : ServerMessage) (b b' : Mailbox) : Prop where
  newest : b'.unread.getLast? = some m
  suffix : b'.unread <:+ b.unread ++ [m]
  count : b'.unread.length + b'.lost = b.unread.length + b.lost + 1

theorem Mailbox.gains_post (m : ServerMessage) (b : Mailbox) : b.Gains m (b.post m) where
  newest := by
    rw [post]
    split <;> exact List.getLast?_concat
  suffix := b.unread_post_suffix m
  count := by
    rw [post]
    split
    · show (b.unread ++ [m]).length + b.lost = b.unread.length + b.lost + 1
      rw [List.length_append, List.length_singleton]
      omega
    · next hfull =>
      have hpos : 0 < capacity := by decide
      show (b.unread.drop 1 ++ [m]).length + (b.lost + 1) = b.unread.length + b.lost + 1
      rw [List.length_append, List.length_drop, List.length_singleton]
      omega

/-- All receivers of a board have one message more, and they are the same receivers. -/
def Room.Sends (m : ServerMessage) (room room' : Room) : Prop :=
  List.Forall₂ (fun b b' => b'.1 = b.1 ∧ b.2.Gains m b'.2) room.mailboxes room'.mailboxes

theorem Room.sends_post (m : ServerMessage) (tasks : List Task) (room : Room) :
    room.Sends m ({ room with tasks }.post m) := by
  rw [Sends, post, List.forall₂_map_right_iff, List.forall₂_same]
  exact fun b _ => ⟨rfl, b.2.gains_post m⟩

namespace Relay

variable {board now : String} {r : Relay} {m : ServerMessage} {ts ts' : List Task}

/-- A board has other tasks than before, and every receiver of it was sent one message. -/
def Publishes (board : String) (m : ServerMessage) (ts ts' : List Task) (r r' : Relay) : Prop :=
  ∃ room room', r.room? board = some room ∧ r'.room? board = some room' ∧
    room.tasks = ts ∧ room'.tasks = ts' ∧ room.Sends m room'

/-- Two relays are the same but for one board. -/
structure AgreesElsewhere (board : String) (r r' : Relay) : Prop where
  rooms : ∀ b, b ≠ board → r'.room? b = r.room? b
  tokens : r'.tokens = r.tokens
  nextReceiver : r'.nextReceiver = r.nextReceiver

theorem agreesElsewhere_refl (board : String) (r : Relay) : r.AgreesElsewhere board r :=
  ⟨fun _ _ => rfl, rfl, rfl⟩

theorem agreesElsewhere_changeRoom (board : String) (f : Room → Room) (r : Relay) :
    r.AgreesElsewhere board (r.changeRoom board f) :=
  ⟨fun b hb => by rw [room?_changeRoom, if_neg hb], rfl, rfl⟩

theorem agreesElsewhere_perform (op : Operation) (board now : String) (r : Relay) :
    r.AgreesElsewhere board (r.perform op board now) where
  rooms b hb := by rw [room?_perform, if_neg hb]
  tokens := by
    cases h : r.room? board with
    | some room => rw [perform_of_room h]; rfl
    | none => rw [perform_of_none h]
  nextReceiver := nextReceiver_perform op board now r

theorem publishes_changeRoom {room : Room} (h : r.room? board = some room) (m : ServerMessage)
    (ts' : List Task) :
    Publishes board m room.tasks ts' r
      (r.changeRoom board fun room => { room with tasks := ts' }.post m) :=
  ⟨room, { room with tasks := ts' }.post m, h, by rw [room?_changeRoom_self, h]; rfl, rfl, rfl,
    room.sends_post m ts'⟩

/-- What is passed on as it is leaves the tasks alone. -/
theorem publishes_post {room : Room} (h : r.room? board = some room) (m : ServerMessage) :
    Publishes board m room.tasks room.tasks r (r.changeRoom board (·.post m)) := by
  have hpost : r.changeRoom board (·.post m) =
      r.changeRoom board fun old => { old with tasks := room.tasks }.post m :=
    changeRoom_congr h rfl
  rw [hpost]
  exact publishes_changeRoom h m room.tasks

/-- **An operation that has something to post** posts it, and does what it says. -/
theorem publishes_perform {op : Operation} {room : Room} (h : r.room? board = some room)
    (hnews : op.news board now room.tasks = some (m, ts')) :
    Publishes board m room.tasks ts' r (r.perform op board now) := by
  have hroom : op.onRoom board now room = { room with tasks := ts' }.post m := by
    rw [Operation.onRoom, hnews]
  rw [perform_of_room h,
    changeRoom_congr (g := fun room => { room with tasks := ts' }.post m) h hroom]
  exact publishes_changeRoom h m ts'

/-- An operation that has nothing to post on a board leaves the relay as it is. -/
theorem perform_of_news_eq_none {op : Operation} {room : Room} (h : r.room? board = some room)
    (hnews : op.news board now room.tasks = none) : r.perform op board now = r := by
  have hroom : op.onRoom board now room = room := by rw [Operation.onRoom, hnews]
  rw [perform_of_room h, changeRoom_eq_self h hroom]

/-! ### Calls -/

/-- What can be asked of a relay about a board: an operation, or to pass any message on to those
who have joined it. -/
inductive Call
  | operate (op : Operation)
  | pass (m : ServerMessage)

/-- Does what is asked about a board. Says whether it was done. -/
def call (c : Call) (board now : String) (r : Relay) : Bool × Relay :=
  match c with
  | .operate (.put tasks) => (true, r.putBoard board tasks now)
  | .operate (.move id status mover) => r.moveTask board id status mover now
  | .operate (.create title status assignee creator id) =>
    let (t, r) := r.createTask board title status assignee creator id now
    (t.isSome, r)
  | .operate (.delete id) => r.deleteTask board id now
  | .operate (.suggest suggestion) => r.pushSuggestion board suggestion
  | .pass m =>
    let (count, r) := r.broadcast board m
    (count.isSome, r)

namespace Call

/-- What is asked can be done: there is the board, and the task that it is about. Only the whole
board can be put where there was none. -/
def IsPossible (c : Call) (board : String) (r : Relay) : Prop :=
  match c with
  | .operate (.put _) => True
  | .operate (.move id _ _) | .operate (.delete id) => ∃ ts, r.tasks? board = some ts ∧ id ∈ ids ts
  | .operate (.create _ _ _ _ _) | .operate (.suggest _) | .pass _ => ∃ ts, r.tasks? board = some ts

/-- A message says what a call makes of the tasks of a board. A move is about the first task of its
id and says where the task was before; a deletion takes all tasks of its id. -/
inductive Describes (board now : String) : Call → ServerMessage → List Task → List Task → Prop
  | put (ts tasks : List Task) :
    Describes board now (.operate (.put tasks)) (.boardState ⟨tasks, now⟩) ts tasks
  | move {t : Task} {before after : List Task} (status : Status) (mover : Option String)
      (hfirst : t.id ∉ ids before) :
    Describes board now (.operate (.move t.id status mover))
      (.taskUpdated ⟨t.id,
        { status := some status, previousStatus := some t.status, updatedAt := some now },
        mover, now⟩)
      (before ++ t :: after) (before ++ { t with status, updatedAt := now } :: after)
  | create (title : String) (status : Status) (assignee creator : Option String) (id : String)
      (ts : List Task) :
    Describes board now (.operate (.create title status assignee creator id))
      (.taskCreated ⟨newTask board title status assignee creator id now, now⟩)
      ts (newTask board title status assignee creator id now :: ts)
  | delete {id : String} {ts : List Task} (hid : id ∈ ids ts) :
    Describes board now (.operate (.delete id)) (.taskDeleted ⟨id, now⟩)
      ts (ts.filter fun t => t.id != id)
  | suggest (suggestion : Suggestion) (ts : List Task) :
    Describes board now (.operate (.suggest suggestion)) (.suggestionNew suggestion) ts ts
  | pass (m : ServerMessage) (ts : List Task) : Describes board now (.pass m) m ts ts

end Call

theorem snd_call_operate (op : Operation) (board now : String) (r : Relay) :
    (r.call (.operate op) board now).2 = r.perform op board now := by
  cases op <;> rfl

/-- An operation on a board that exists is done if it has something to post. -/
theorem fst_call_of_room {room : Room} (h : r.room? board = some room) (op : Operation)
    (now : String) :
    (r.call (.operate op) board now).1 = (op.news board now room.tasks).isSome := by
  have htasks : r.tasks? board = some room.tasks := by rw [tasks?_eq_map, h]; rfl
  cases op with
  | put tasks => rfl
  | move id status mover =>
    simp only [call, moveTask, htasks, Option.bind_some, Operation.news, Option.isSome_map]
    split <;> simp_all
  | create title status assignee creator id => simp [call, createTask, addTask, h, Operation.news]
  | delete id =>
    simp only [call, deleteTask, htasks, Operation.news]
    split <;> rfl
  | suggest suggestion => simp [call, pushSuggestion, broadcast, h, Operation.news]

/-- An operation on a board that does not exist is done if it makes the board. -/
theorem fst_call_of_none (h : r.room? board = none) (op : Operation) (now : String) :
    (r.call (.operate op) board now).1 = op.founded.isSome := by
  have htasks : r.tasks? board = none := by rw [tasks?_eq_map, h]; rfl
  cases op <;>
    simp [call, moveTask, createTask, addTask, deleteTask, pushSuggestion, broadcast,
      Operation.founded, h, htasks]

/-- What an operation posts says what it does. -/
theorem Operation.describes_of_news {op : Operation} (h : op.news board now ts = some (m, ts')) :
    Call.Describes board now (.operate op) m ts ts' := by
  cases op with
  | put => cases h; exact .put ts _
  | move id status mover =>
    obtain ⟨t, ht, h⟩ := Option.map_eq_some_iff.mp h
    obtain ⟨hid, before, after, rfl, hbefore⟩ := List.find?_eq_some_iff_append.mp ht
    obtain rfl : t.id = id := by simpa using hid
    have hfirst : t.id ∉ ids before := by
      rintro hmem
      obtain ⟨u, hu, huid⟩ := mem_ids.mp hmem
      simpa [huid] using hbefore u hu
    rw [updateFirst_append_of_notMem hfirst, updateFirst, if_pos hid] at h
    cases h
    exact .move status mover hfirst
  | create title status assignee creator id =>
    cases h
    exact .create title status assignee creator id ts
  | delete id =>
    rw [news] at h
    split at h
    · next hid =>
      cases h
      exact .delete (any_id_iff.mp hid)
    · cases h
  | suggest suggestion => cases h; exact .suggest suggestion ts

/-- An operation on a board that exists has something to post exactly if it can be done. -/
theorem Operation.isSome_news_iff {room : Room} (h : r.room? board = some room) (op : Operation)
    (now : String) :
    (op.news board now room.tasks).isSome = true ↔ Call.IsPossible (.operate op) board r := by
  have htasks : r.tasks? board = some room.tasks := by rw [tasks?_eq_map, h]; rfl
  cases op with
  | move id status mover => simp [news, Call.IsPossible, htasks, mem_ids]
  | delete id =>
    by_cases hid : id ∈ ids room.tasks
    · simp [news, Call.IsPossible, htasks, hid, any_id_iff.mpr hid]
    · simp [news, Call.IsPossible, htasks, hid, mt any_id_iff.mp hid]
  | _ => simp [news, Call.IsPossible, htasks]

/-- A board that does not exist can only be made. -/
theorem Operation.isSome_founded_iff (h : r.room? board = none) (op : Operation) :
    op.founded.isSome = true ↔ Call.IsPossible (.operate op) board r := by
  have htasks : r.tasks? board = none := by rw [tasks?_eq_map, h]; rfl
  cases op <;> simp [founded, Call.IsPossible, htasks]

/-- Whatever is passed on reaches a board that exists. -/
theorem call_pass_of_room {room : Room} (h : r.room? board = some room) (m : ServerMessage)
    (now : String) :
    r.call (.pass m) board now = (true, r.changeRoom board (·.post m)) := by
  simp [call, broadcast, h]

theorem call_pass_of_none (h : r.room? board = none) (m : ServerMessage) (now : String) :
    r.call (.pass m) board now = (false, r) := by
  simp [call, broadcast, h]

/-- What becomes of a call: it is done and told, or makes a board, or does nothing. -/
theorem call_cases (c : Call) (board now : String) (r : Relay) :
    (c.IsPossible board r ∧ (r.call c board now).1 = true ∧ ∃ m ts ts',
      Call.Describes board now c m ts ts' ∧ Publishes board m ts ts' r (r.call c board now).2) ∨
    (∃ tasks, c = .operate (.put tasks) ∧ r.room? board = none ∧
      (r.call c board now).2.room? board = some (.ofTasks tasks)) ∨
    ¬c.IsPossible board r ∧ r.call c board now = (false, r) := by
  cases c with
  | operate op =>
    cases hroom : r.room? board with
    | some room =>
      cases hnews : op.news board now room.tasks with
      | some news =>
        have hdone : (r.call (.operate op) board now).1 = true := by
          rw [fst_call_of_room hroom, hnews]; rfl
        refine .inl ⟨?_, hdone, news.1, room.tasks, news.2, Operation.describes_of_news hnews, ?_⟩
        · rw [← Operation.isSome_news_iff hroom op now, hnews]; rfl
        · rw [snd_call_operate]
          exact publishes_perform hroom hnews
      | none =>
        refine .inr (.inr ⟨?_, Prod.ext ?_ ?_⟩)
        · rw [← Operation.isSome_news_iff hroom op now, hnews]
          exact Bool.false_ne_true
        · rw [fst_call_of_room hroom, hnews]; rfl
        · rw [snd_call_operate]
          exact perform_of_news_eq_none hroom hnews
    | none =>
      cases hfounded : op.founded with
      | some room =>
        refine .inr (.inl ?_)
        cases op <;> cases hfounded
        next tasks =>
          refine ⟨tasks, rfl, rfl, ?_⟩
          rw [snd_call_operate, room?_perform, if_pos rfl, hroom]
          rfl
      | none =>
        refine .inr (.inr ⟨?_, Prod.ext ?_ ?_⟩)
        · rw [← Operation.isSome_founded_iff hroom, hfounded]
          exact Bool.false_ne_true
        · rw [fst_call_of_none hroom, hfounded]; rfl
        · rw [snd_call_operate, perform_of_none hroom, hfounded, Option.map_none,
            Option.toList_none, List.append_nil]
  | pass m =>
    cases hroom : r.room? board with
    | some room =>
      refine .inl ⟨⟨room.tasks, by rw [tasks?_eq_map, hroom]; rfl⟩, ?_⟩
      rw [call_pass_of_room hroom]
      exact ⟨rfl, m, room.tasks, room.tasks, .pass m room.tasks, publishes_post hroom m⟩
    | none =>
      refine .inr (.inr ⟨?_, call_pass_of_none hroom m now⟩)
      rintro ⟨ts, hts⟩
      rw [tasks?_eq_map, hroom] at hts
      cases hts

/-- What is not done changes nothing. -/
theorem eq_of_call_eq_false {c : Call} {r' : Relay} (h : r.call c board now = (false, r')) :
    r' = r := by
  rcases call_cases c board now r with ⟨-, hdone, -⟩ | ⟨tasks, rfl, -, -⟩ | ⟨-, hcall⟩
  · rw [h] at hdone
    cases hdone
  · cases h
  · exact congrArg Prod.snd (h.symm.trans hcall)

/-- What is done is published, with the message that describes it. Only a board that is put may
have been made. -/
theorem publishes_of_call_eq_true {c : Call} {r' : Relay} (h : r.call c board now = (true, r'))
    (hput : ∀ tasks, c ≠ .operate (.put tasks)) :
    ∃ m ts ts', Call.Describes board now c m ts ts' ∧ Publishes board m ts ts' r r' := by
  rcases call_cases c board now r with ⟨-, -, hpublishes⟩ | ⟨tasks, rfl, -, -⟩ | ⟨-, hcall⟩
  · rwa [h] at hpublishes
  · exact absurd rfl (hput tasks)
  · rw [hcall] at h
    cases h

theorem agreesElsewhere_call (c : Call) (board now : String) (r : Relay) :
    r.AgreesElsewhere board (r.call c board now).2 := by
  cases c with
  | operate op =>
    rw [snd_call_operate]
    exact agreesElsewhere_perform op board now r
  | pass m =>
    cases hroom : r.room? board with
    | some room =>
      rw [call_pass_of_room hroom]
      exact agreesElsewhere_changeRoom board (·.post m) r
    | none =>
      rw [call_pass_of_none hroom]
      exact agreesElsewhere_refl board r

theorem agreesElsewhere_of_call {c : Call} {done : Bool} {r' : Relay}
    (h : r.call c board now = (done, r')) : r.AgreesElsewhere board r' := by
  have helsewhere := agreesElsewhere_call c board now r
  rwa [h] at helsewhere

/-- **All or nothing.** Whatever a relay holds, a call is done exactly if it is possible. If it is
done, the tasks of its board are what was asked for and every receiver of the board has one message
more, which describes the change; a board that is made has no receivers yet. If it is not done,
nothing changes. Either way nothing changes but its board. -/
theorem all_or_nothing (c : Call) (board now : String) (r : Relay) :
    ((r.call c board now).1 = true ↔ c.IsPossible board r) ∧
    ((r.call c board now).1 = true →
      (∃ m ts ts', Call.Describes board now c m ts ts' ∧
        Publishes board m ts ts' r (r.call c board now).2) ∨
      ∃ tasks, c = .operate (.put tasks) ∧ r.room? board = none ∧
        (r.call c board now).2.room? board = some (.ofTasks tasks)) ∧
    ((r.call c board now).1 = false → (r.call c board now).2 = r) ∧
    r.AgreesElsewhere board (r.call c board now).2 := by
  have helsewhere := agreesElsewhere_call c board now r
  rcases call_cases c board now r with
    ⟨hpossible, hdone, hpublishes⟩ | ⟨tasks, rfl, hnone, hroom⟩ | ⟨himpossible, hcall⟩
  · exact ⟨iff_of_true hdone hpossible, fun _ => .inl hpublishes, by simp [hdone], helsewhere⟩
  · have hdone : (r.call (.operate (.put tasks)) board now).1 = true := rfl
    exact ⟨iff_of_true hdone trivial, fun _ => .inr ⟨tasks, rfl, hnone, hroom⟩, by simp [hdone],
      helsewhere⟩
  · have hdone : (r.call c board now).1 ≠ true := by simp [hcall]
    exact ⟨iff_of_false hdone himpossible, fun h => absurd h hdone, fun _ => by rw [hcall],
      helsewhere⟩

/-- A move on a board on which the id is repeated, with a receiver there and one elsewhere. -/
theorem all_or_nothing_of_repeated :
    let task := newTask "b" "Plan" .inbox none none "1" "t0"
    let r : Relay := ⟨[], [("b", ⟨[task, task], [(0, .empty)]⟩), ("c", ⟨[task], [(1, .empty)]⟩)], 2⟩
    let c : Call := .operate (.move "1" .done none)
    c.IsPossible "b" r ∧ r.AgreesElsewhere "b" (r.call c "b" "t1").2 ∧
      ∃ m ts ts', Call.Describes "b" "t1" c m ts ts' ∧
        Publishes "b" m ts ts' r (r.call c "b" "t1").2 := by
  intro task r c
  have hdone : (r.call c "b" "t1").1 = true := by decide +kernel
  obtain ⟨hpossible, hpublishes, -, helsewhere⟩ := all_or_nothing c "b" "t1" r
  rcases hpublishes hdone with hpublishes | ⟨tasks, hput, -⟩
  · exact ⟨hpossible.mp hdone, helsewhere, hpublishes⟩
  · have hmove : Call.operate (.move "1" .done none) = .operate (.put tasks) := hput
    cases hmove

end Relay

end LiveBoard
