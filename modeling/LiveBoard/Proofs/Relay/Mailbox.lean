import LiveBoard.Proofs.Relay.Operation

/-!
# The mailboxes of a relay

A mailbox takes what is posted, in order, and loses the oldest messages when it is full. What is
done to a board is posted to the mailboxes of its receivers and to no others. Receivers come and go
without a change to the tasks, or to the mailboxes of others.

## Main definitions

* `Mailbox.postAll`: a mailbox after several messages.
* `Relay.IsNumbered`: no receiver has a number that is still to be given.

## Main results

* `Mailbox.unread_postAll`: nothing is lost from a mailbox that counts nothing lost.
* `Relay.mailbox?_perform`: what an operation posts.
* `Relay.mailbox?_join`: who joins a board has an empty mailbox.
-/

namespace LiveBoard

namespace Mailbox

/-- A mailbox after several messages, the first one first. -/
def postAll (ms : List ServerMessage) (b : Mailbox) : Mailbox :=
  ms.foldl (fun b m => b.post m) b

@[simp] theorem postAll_nil (b : Mailbox) : b.postAll [] = b := rfl

@[simp] theorem postAll_cons (m : ServerMessage) (ms : List ServerMessage) (b : Mailbox) :
    b.postAll (m :: ms) = (b.post m).postAll ms := rfl

theorem lost_le_lost_post (m : ServerMessage) (b : Mailbox) : b.lost ≤ (b.post m).lost := by
  rw [post]
  split
  · exact Nat.le_refl _
  · exact Nat.le_succ _

theorem lost_le_lost_postAll (ms : List ServerMessage) (b : Mailbox) :
    b.lost ≤ (b.postAll ms).lost := by
  induction ms generalizing b with
  | nil => exact Nat.le_refl _
  | cons m ms ih => exact Nat.le_trans (b.lost_le_lost_post m) (ih (b.post m))

/-- A mailbox that counts nothing lost has lost nothing. -/
theorem unread_post {m : ServerMessage} {b : Mailbox} (h : (b.post m).lost = 0) :
    (b.post m).unread = b.unread ++ [m] := by
  rw [post] at h ⊢
  split
  · rfl
  · next hfull => simp [hfull] at h

/-- Only the oldest messages are lost. -/
theorem unread_post_suffix (m : ServerMessage) (b : Mailbox) :
    (b.post m).unread <:+ b.unread ++ [m] := by
  rw [post]
  split
  · exact List.suffix_refl _
  · obtain ⟨lost, hlost⟩ := List.drop_suffix 1 b.unread
    exact ⟨lost, by rw [← List.append_assoc, hlost]⟩

theorem unread_postAll {ms : List ServerMessage} {b : Mailbox} (h : (b.postAll ms).lost = 0) :
    (b.postAll ms).unread = b.unread ++ ms := by
  induction ms generalizing b with
  | nil => exact (List.append_nil _).symm
  | cons m ms ih =>
    have hfirst : (b.post m).lost = 0 :=
      Nat.eq_zero_of_le_zero (h ▸ (b.post m).lost_le_lost_postAll ms)
    rw [postAll_cons, ih h, unread_post hfirst, List.append_assoc]
    rfl

theorem postAll_eq {ms : List ServerMessage} {b : Mailbox} (h : (b.postAll ms).lost = 0) :
    b.postAll ms = ⟨b.unread ++ ms, 0⟩ := by
  rw [← unread_postAll h, ← h]

theorem lagged_mem_drain {b : Mailbox} (h : b.lost ≠ 0) : .lagged b.lost ∈ b.drain := by
  simp [drain, h]

theorem drain_eq_map {b : Mailbox} (h : b.lost = 0) : b.drain = b.unread.map .message := by
  simp [drain, h]

end Mailbox

/-- The mailbox of a number. -/
def Room.mailbox? (number : Nat) (room : Room) : Option Mailbox :=
  (room.mailboxes.find? fun b => b.1 == number).map (·.2)

namespace Room

theorem mailbox?_post (number : Nat) (m : ServerMessage) (room : Room) :
    (room.post m).mailbox? number = (room.mailbox? number).map (·.post m) := by
  simp only [mailbox?, post, List.find?_map, Option.map_map]
  rfl

theorem mailbox?_onRoom (number : Nat) (op : Relay.Operation) (board now : String) (room : Room) :
    (op.onRoom board now room).mailbox? number =
      (room.mailbox? number).map
        (·.postAll ((op.news board now room.tasks).map (·.1)).toList) := by
  rw [Relay.Operation.onRoom]
  split
  · next m tasks hnews =>
    rw [mailbox?_post, hnews]
    rfl
  · next hnews =>
    rw [hnews]
    exact Option.map_id'.symm

end Room

namespace Relay

/-! ### Tasks -/

theorem tasks?_leave (who : Receiver) (b : String) (r : Relay) :
    (r.leave who).tasks? b = r.tasks? b :=
  tasks?_changeRoom (by intro room; rfl) who.board b r

theorem tasks?_setMailbox (who : Receiver) (box : Mailbox) (b : String) (r : Relay) :
    (r.setMailbox who box).tasks? b = r.tasks? b :=
  tasks?_changeRoom (by intro room; rfl) who.board b r

theorem tasks?_drain (who : Receiver) (b : String) (r : Relay) :
    (r.drain who).2.tasks? b = r.tasks? b := by
  rw [drain]
  split
  · rfl
  · exact tasks?_setMailbox who .empty b r

/-- Who joins a board that exists is told its tasks, and gets a mailbox of a new number. -/
theorem join_eq_ok {board now : String} {token : Option String} {r r' : Relay}
    {snapshot : Snapshot} {who : Receiver}
    (h : r.join board token now = .ok (snapshot, who, r')) :
    who = ⟨board, r.nextReceiver⟩ ∧ r.tasks? board = some snapshot.tasks ∧
      r' = { r.changeRoom board (fun room =>
          { room with mailboxes := room.mailboxes ++ [(r.nextReceiver, .empty)] }) with
        nextReceiver := r.nextReceiver + 1 } := by
  rw [join] at h
  split at h
  · split at h
    · cases h
    · next room hroom =>
      cases h
      exact ⟨rfl, by rw [tasks?_eq_map, hroom]; rfl, rfl⟩
  · cases h

theorem room?_join {board now : String} {token : Option String} {r r' : Relay}
    {snapshot : Snapshot} {who : Receiver} (h : r.join board token now = .ok (snapshot, who, r'))
    (b : String) :
    r'.room? b =
      if b = board then (r.room? b).map fun room =>
        { room with mailboxes := room.mailboxes ++ [(r.nextReceiver, .empty)] }
      else r.room? b := by
  obtain ⟨-, -, rfl⟩ := join_eq_ok h
  exact room?_changeRoom board b (fun room =>
    { room with mailboxes := room.mailboxes ++ [(r.nextReceiver, .empty)] }) r

theorem tasks?_join {board now : String} {token : Option String} {r r' : Relay}
    {snapshot : Snapshot} {who : Receiver} (h : r.join board token now = .ok (snapshot, who, r'))
    (b : String) : r'.tasks? b = r.tasks? b := by
  rw [tasks?, room?_join h, tasks?]
  split
  · rw [Option.map_map]; rfl
  · rfl

/-! ### What is posted -/

/-- The message that an operation posts on a board, if it posts any. -/
def Operation.posts (op : Operation) (board now : String) (r : Relay) : List ServerMessage :=
  (((r.tasks? board).bind (op.news board now)).map (·.1)).toList

theorem mailbox?_eq_bind (who : Receiver) (r : Relay) :
    r.mailbox? who = (r.room? who.board).bind (Room.mailbox? who.number) := rfl

/-- Where a mailbox stays in its room, its receiver still has it. -/
theorem mailbox?_changeRoom {who : Receiver} {board : String} {f : Room → Room}
    (hf : who.board = board → ∀ room, (f room).mailbox? who.number = room.mailbox? who.number)
    (r : Relay) : (r.changeRoom board f).mailbox? who = r.mailbox? who := by
  rw [mailbox?_eq_bind, room?_changeRoom, mailbox?_eq_bind]
  split
  · next hboard =>
    cases r.room? who.board with
    | none => rfl
    | some room => exact hf hboard room
  · rfl

/-- Receivers of one board differ in their numbers. -/
theorem number_ne {who w : Receiver} (h : w ≠ who) (hboard : who.board = w.board) :
    who.number ≠ w.number := by
  rintro hnumber
  cases w
  cases who
  simp_all

/-- An operation posts its message to the receivers of its board. -/
theorem mailbox?_perform (who : Receiver) (op : Operation) (now : String) (r : Relay) :
    (r.perform op who.board now).mailbox? who =
      (r.mailbox? who).map (·.postAll (op.posts who.board now r)) := by
  rw [mailbox?_eq_bind, room?_perform, if_pos rfl, mailbox?_eq_bind]
  cases hroom : r.room? who.board with
  | none => cases op <;> rfl
  | some room =>
    rw [Option.bind_some, Option.bind_some, room.mailbox?_onRoom]
    simp [Operation.posts, tasks?_eq_map, hroom]

theorem mailbox?_perform_of_ne {who : Receiver} {board : String} (h : who.board ≠ board)
    (op : Operation) (now : String) (r : Relay) :
    (r.perform op board now).mailbox? who = r.mailbox? who := by
  rw [mailbox?_eq_bind, room?_perform, if_neg h, mailbox?_eq_bind]

theorem mailbox?_leave {who w : Receiver} (h : w ≠ who) (r : Relay) :
    (r.leave w).mailbox? who = r.mailbox? who := by
  refine mailbox?_changeRoom (fun hboard room => ?_) r
  have hne := number_ne h hboard
  have hpred : (fun b : Nat × Mailbox =>
      decide ((b.1 != w.number) = true ∧ (b.1 == who.number) = true)) =
      fun b => b.1 == who.number := by
    funext b
    grind
  rw [Room.mailbox?, List.find?_filter, hpred, Room.mailbox?]

theorem mailbox?_setMailbox_self (who : Receiver) (box : Mailbox) (r : Relay) :
    (r.setMailbox who box).mailbox? who = (r.mailbox? who).map fun _ => box := by
  rw [mailbox?_eq_bind, setMailbox, room?_changeRoom_self, mailbox?_eq_bind]
  cases r.room? who.board with
  | none => rfl
  | some room =>
    have hfind := find?_updateFirst who.number who.number (fun _ => box) room.mailboxes
    rwa [if_pos rfl] at hfind

theorem mailbox?_setMailbox_of_ne {who w : Receiver} (h : w ≠ who) (box : Mailbox) (r : Relay) :
    (r.setMailbox w box).mailbox? who = r.mailbox? who := by
  refine mailbox?_changeRoom (fun hboard room => ?_) r
  have hfind := find?_updateFirst w.number who.number (fun _ => box) room.mailboxes
  rwa [if_neg (number_ne h hboard)] at hfind

theorem mailbox?_drain_of_ne {who w : Receiver} (h : w ≠ who) (r : Relay) :
    (r.drain w).2.mailbox? who = r.mailbox? who := by
  rw [drain]
  split
  · rfl
  · exact mailbox?_setMailbox_of_ne h .empty r

theorem mailbox?_join_of_some {board now : String} {token : Option String} {r r' : Relay}
    {snapshot : Snapshot} {who w : Receiver} {box : Mailbox}
    (hjoin : r.join board token now = .ok (snapshot, w, r')) (h : r.mailbox? who = some box) :
    r'.mailbox? who = some box := by
  obtain ⟨room, hroom, hbox⟩ := Option.bind_eq_some_iff.mp h
  rw [mailbox?_eq_bind, room?_join hjoin, hroom]
  split
  · obtain ⟨b, hb, rfl⟩ := Option.map_eq_some_iff.mp hbox
    simp [Room.mailbox?, hb]
  · exact hbox

end Relay

/-! ### Numbers -/

/-- The numbers of the receivers of a board. -/
def Room.numbers (room : Room) : List Nat := room.mailboxes.map (·.1)

theorem Room.numbers_onRoom (op : Relay.Operation) (board now : String) (room : Room) :
    (op.onRoom board now room).numbers = room.numbers := by
  rw [numbers, op.mailboxes_onRoom]
  split
  · rw [List.map_map]; rfl
  · rfl

theorem Room.mailbox?_of_notMem {number : Nat} {room : Room} (h : number ∉ room.numbers) :
    room.mailbox? number = none := by
  rw [mailbox?, Option.map_eq_none_iff, List.find?_eq_none]
  rintro ⟨n, box⟩ hmem heq
  exact h (List.mem_map.mpr ⟨(n, box), hmem, by simpa using heq⟩)

namespace Relay

/-- No receiver has a number that is still to be given. -/
def IsNumbered (r : Relay) : Prop :=
  ∀ b room, r.room? b = some room → ∀ n ∈ room.numbers, n < r.nextReceiver

/-- Who has a mailbox has a number that is not to be given any more. -/
theorem IsNumbered.number_lt {r : Relay} (h : r.IsNumbered) {who : Receiver} {box : Mailbox}
    (hbox : r.mailbox? who = some box) : who.number < r.nextReceiver := by
  obtain ⟨room, hroom, hfind⟩ := Option.bind_eq_some_iff.mp hbox
  refine h who.board room hroom who.number ?_
  rw [← Classical.not_not (a := who.number ∈ room.numbers)]
  intro hnumber
  rw [← Room.mailbox?, Room.mailbox?_of_notMem hnumber] at hfind
  cases hfind

theorem isNumbered_ofTokens (tokens : List String) : (ofTokens tokens).IsNumbered := by
  intro b room h
  cases h

theorem IsNumbered.changeRoom {board : String} {f : Room → Room} {r : Relay} (h : r.IsNumbered)
    (hf : ∀ room, (f room).numbers ⊆ room.numbers) : (r.changeRoom board f).IsNumbered := by
  intro b room hroom n hn
  rw [room?_changeRoom] at hroom
  split at hroom
  · obtain ⟨room', hroom', rfl⟩ := Option.map_eq_some_iff.mp hroom
    exact h b room' hroom' n (hf room' hn)
  · exact h b room hroom n hn

theorem IsNumbered.perform {r : Relay} (h : r.IsNumbered) (op : Operation) (board now : String) :
    (r.perform op board now).IsNumbered := by
  intro b room hroom n hn
  rw [nextReceiver_perform]
  rw [room?_perform] at hroom
  split at hroom
  · cases hold : r.room? board with
    | some old =>
      rw [hold] at hroom
      cases hroom
      rw [Room.numbers_onRoom] at hn
      exact h board old hold n hn
    | none =>
      rw [hold] at hroom
      cases op <;> cases hroom
      cases hn
  · exact h b room hroom n hn

theorem IsNumbered.leave {r : Relay} (h : r.IsNumbered) (who : Receiver) :
    (r.leave who).IsNumbered :=
  h.changeRoom fun _ => (List.filter_sublist.map _).subset

theorem IsNumbered.setMailbox {r : Relay} (h : r.IsNumbered) (who : Receiver) (box : Mailbox) :
    (r.setMailbox who box).IsNumbered := by
  refine h.changeRoom fun room n hn => ?_
  have hnumbers := map_updateFirst (p := fun x => x.1 == who.number)
    (f := fun x : Nat × Mailbox => (x.1, box)) (g := (·.1)) (fun _ _ => rfl) room.mailboxes
  rwa [Room.numbers, hnumbers] at hn

theorem IsNumbered.join {board now : String} {token : Option String} {r r' : Relay}
    {snapshot : Snapshot} {who : Receiver} (h : r.IsNumbered)
    (hjoin : r.join board token now = .ok (snapshot, who, r')) : r'.IsNumbered := by
  have hnext : r'.nextReceiver = r.nextReceiver + 1 := by
    obtain ⟨-, -, rfl⟩ := join_eq_ok hjoin
    rfl
  intro b room hroom n hn
  rw [hnext]
  rw [room?_join hjoin] at hroom
  split at hroom
  · obtain ⟨old, hold, rfl⟩ := Option.map_eq_some_iff.mp hroom
    rw [Room.numbers, List.map_append, List.mem_append] at hn
    rcases hn with hn | hn
    · exact Nat.lt_succ_of_lt (h b old hold n hn)
    · rw [List.mem_singleton.mp hn]
      exact Nat.lt_succ_self _
  · exact Nat.lt_succ_of_lt (h b room hroom n hn)

/-- Who joins a board has an empty mailbox. -/
theorem mailbox?_join {board now : String} {token : Option String} {r r' : Relay}
    {snapshot : Snapshot} {who : Receiver} (h : r.IsNumbered)
    (hjoin : r.join board token now = .ok (snapshot, who, r')) :
    r'.mailbox? who = some .empty := by
  obtain ⟨rfl, htasks, -⟩ := join_eq_ok hjoin
  obtain ⟨room, hroom, -⟩ := Option.map_eq_some_iff.mp htasks
  have hnew : room.mailbox? r.nextReceiver = none :=
    Room.mailbox?_of_notMem fun hmem => Nat.lt_irrefl _ (h board room hroom _ hmem)
  rw [mailbox?_eq_bind, room?_join hjoin, if_pos rfl, hroom]
  rw [Room.mailbox?, Option.map_eq_none_iff] at hnew
  simp [Room.mailbox?, hnew]

end Relay

end LiveBoard
