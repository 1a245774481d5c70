import LiveBoard.Proofs.Relay.Mailbox

/-!
# Guests of a board

Who joins a board and goes away again leaves no trace but a number that is not given a second time.
What was done to the board in between comes out as it would have without the guest, and so does what
was posted to everybody else.

## Main definitions

* `Room.without`: a board without the mailbox of a number.

## Main results

* `Relay.leave_join`: a guest leaves the relay as it was.
* `Relay.leave_perform`: what is done to a board does not depend on a guest.
* `Relay.leave_perform_of_join`: a guest comes, something is done to the board, the guest goes.
-/

namespace LiveBoard

theorem updateFirst_updateFirst {α : Type} {p : α → Bool} {f g : α → α}
    (hf : ∀ a, p a = true → p (f a) = true) (as : List α) :
    updateFirst p g (updateFirst p f as) = updateFirst p (fun a => g (f a)) as := by
  induction as with
  | nil => rfl
  | cons a as ih =>
    by_cases ha : p a = true
    · simp [updateFirst, ha, hf a ha]
    · simp [updateFirst, ha, ih]

theorem filter_updateFirst {α : Type} {p q : α → Bool} {f : α → α}
    (h : ∀ a, p a = true → q a = false ∧ q (f a) = false) (as : List α) :
    (updateFirst p f as).filter q = as.filter q := by
  induction as with
  | nil => rfl
  | cons a as ih =>
    by_cases ha : p a = true
    · simp [updateFirst, ha, h a ha]
    · simp [updateFirst, ha, ih, List.filter_cons]

/-! ### Boards -/

namespace Room

/-- A board without the mailbox of a number. -/
def without (number : Nat) (room : Room) : Room :=
  { room with mailboxes := room.mailboxes.filter fun b => b.1 != number }

variable {number : Nat} {room : Room}

/-- A mailbox of a new number is taken out without a trace. -/
theorem without_concat (h : number ∉ room.numbers) (box : Mailbox) :
    { room with mailboxes := room.mailboxes ++ [(number, box)] }.without number = room := by
  have hkeep : room.mailboxes.filter (fun b => b.1 != number) = room.mailboxes :=
    List.filter_eq_self.mpr fun b hb =>
      bne_iff_ne.mpr fun heq => h (List.mem_map.mpr ⟨b, hb, heq⟩)
  rw [without, List.filter_append, hkeep, List.filter_cons_of_neg (by simp), List.filter_nil,
    List.append_nil]

theorem without_setMailbox (number : Nat) (box : Mailbox) (room : Room) :
    { room with
      mailboxes := updateFirst (fun x => x.1 == number) (fun x => (x.1, box))
        room.mailboxes }.without number = room.without number := by
  rw [without, filter_updateFirst fun x hx => by simpa using hx, without]

theorem without_post (number : Nat) (m : ServerMessage) (room : Room) :
    (room.post m).without number = (room.without number).post m := by
  rw [without, post, List.filter_map]
  rfl

/-- What an operation makes of a board does not depend on who has joined it. -/
theorem without_onRoom (number : Nat) (op : Relay.Operation) (board now : String) (room : Room) :
    (op.onRoom board now room).without number = op.onRoom board now (room.without number) := by
  have htasks : (room.without number).tasks = room.tasks := rfl
  rw [Relay.Operation.onRoom, Relay.Operation.onRoom, htasks]
  split
  · rw [without_post]
    rfl
  · rfl

end Room

/-! ### Relays -/

namespace Relay

variable {r : Relay}

theorem changeRoom_changeRoom (board : String) (f g : Room → Room) (r : Relay) :
    (r.changeRoom board f).changeRoom board g = r.changeRoom board fun room => g (f room) := by
  simp only [changeRoom, updateFirst_updateFirst (p := fun x : String × Room => x.1 == board)
    (f := fun x => (x.1, f x.2)) fun _ hx => hx]

theorem leave_eq (who : Receiver) (r : Relay) :
    r.leave who = r.changeRoom who.board (Room.without who.number) := rfl

/-- Nobody else knows what a receiver has read. -/
theorem leave_setMailbox (who : Receiver) (box : Mailbox) (r : Relay) :
    (r.setMailbox who box).leave who = r.leave who := by
  rw [leave_eq, setMailbox, changeRoom_changeRoom]
  simp only [Room.without_setMailbox]
  rfl

/-- **What is done to a board** does not depend on a guest. -/
theorem leave_perform {who : Receiver} {room : Room} (h : r.room? who.board = some room)
    (op : Operation) (now : String) :
    (r.perform op who.board now).leave who = (r.leave who).perform op who.board now := by
  have hleft : (r.leave who).room? who.board = some (room.without who.number) := by
    rw [leave_eq, room?_changeRoom_self, h]
    rfl
  rw [perform_of_room h, perform_of_room hleft, leave_eq, leave_eq, changeRoom_changeRoom,
    changeRoom_changeRoom]
  simp only [Room.without_onRoom]

/-- What is done to a board does not depend on the number of the next receiver. -/
theorem perform_withNext {board : String} {room : Room} (h : r.room? board = some room)
    (op : Operation) (now : String) (next : Nat) :
    { r with nextReceiver := next }.perform op board now =
      { r.perform op board now with nextReceiver := next } := by
  have hroom : { r with nextReceiver := next }.room? board = some room := h
  rw [perform_of_room h, perform_of_room hroom]
  rfl

section Join

variable {board now : String} {token : Option String} {snapshot : Snapshot} {who : Receiver}
  {r' : Relay}

/-- **A guest leaves the relay as it was**, but for the number. -/
theorem leave_join (h : r.IsNumbered) (hjoin : r.join board token now = .ok (snapshot, who, r')) :
    r'.leave who = { r with nextReceiver := r.nextReceiver + 1 } := by
  obtain ⟨rfl, htasks, rfl⟩ := join_eq_ok hjoin
  obtain ⟨room, hroom, -⟩ := Option.map_eq_some_iff.mp htasks
  have hnew : r.nextReceiver ∉ room.numbers := fun hmem =>
    Nat.lt_irrefl _ (h board room hroom _ hmem)
  have hself : r.changeRoom board (fun room =>
      { room with mailboxes := room.mailboxes ++ [(r.nextReceiver, Mailbox.empty)] }.without
        r.nextReceiver) = r :=
    changeRoom_eq_self hroom (Room.without_concat hnew Mailbox.empty)
  exact congrArg (fun left : Relay => { left with nextReceiver := r.nextReceiver + 1 })
    ((changeRoom_changeRoom board _ _ r).trans hself)

/-- A guest comes, something is done to the board, and the guest goes, whatever it has read: the
relay is as if there had been no guest. -/
theorem leave_perform_of_join (h : r.IsNumbered)
    (hjoin : r.join board token now = .ok (snapshot, who, r')) (op : Operation) (now' : String)
    (box : Mailbox) :
    ((r'.perform op board now').setMailbox who box).leave who =
      { r.perform op board now' with nextReceiver := r.nextReceiver + 1 } := by
  obtain ⟨hwho, htasks, -⟩ := join_eq_ok hjoin
  have hboard : who.board = board := by rw [hwho]
  obtain ⟨room, hroom, -⟩ := Option.map_eq_some_iff.mp htasks
  have hjoined := room?_join hjoin board
  rw [if_pos rfl, hroom, Option.map_some, ← hboard] at hjoined
  calc ((r'.perform op board now').setMailbox who box).leave who
      = (r'.perform op board now').leave who := leave_setMailbox who box _
    _ = (r'.leave who).perform op board now' := by rw [← hboard, leave_perform hjoined]
    _ = { r.perform op board now' with nextReceiver := r.nextReceiver + 1 } := by
        rw [leave_join h hjoin, perform_withNext hroom]

end Join

end Relay

end LiveBoard
