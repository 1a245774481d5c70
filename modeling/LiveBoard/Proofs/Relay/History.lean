import LiveBoard.Proofs.Relay.Mailbox

/-!
# Histories of a relay

What happens to a relay over time: operations on its boards, and receivers that join, read and
leave. To a receiver of a board the operations on that board are posted, in order. As long as it
does not fall behind, what it has read and what it has still to read are together all that was
posted since it joined.

## Main definitions

* `Relay.Action`: what can happen to a relay, and `Relay.run`, many actions in order.
* `Relay.posts`: the messages posted to the receivers of a board in a run.
* `Relay.received`: what a receiver is given in a run, with what it has not read yet.
* `Relay.IsFresh`: every task created in a run has an id that its board does not have.

## Main results

* `Relay.amendAll_posts`: clients that follow what is posted keep step with the board.
* `Relay.received_eq_posts`: a receiver that has lost nothing is given what was posted.
-/

namespace LiveBoard

namespace Relay

/-- What can happen to a relay. -/
inductive Action
  | operate (board : String) (op : Operation) (now : String)
  | join (board : String) (token : Option String) (now : String)
  | leave (who : Receiver)
  | drain (who : Receiver)

/-- A relay after an action. -/
def act (a : Action) (r : Relay) : Relay :=
  match a with
  | .operate board op now => r.perform op board now
  | .join board token now =>
    match r.join board token now with
    | .ok (_, _, r) => r
    | .error _ => r
  | .leave who => r.leave who
  | .drain who => (r.drain who).2

/-- A relay after several actions, the first one first. -/
def run (as : List Action) (r : Relay) : Relay :=
  as.foldl (fun r a => r.act a) r

@[simp] theorem run_nil (r : Relay) : r.run [] = r := rfl

@[simp] theorem run_cons (a : Action) (as : List Action) (r : Relay) :
    r.run (a :: as) = (r.act a).run as := rfl

/-- The ids in use on a board. -/
def idsOf (board : String) (r : Relay) : List String := ids ((r.tasks? board).getD [])

/-- A task that is created has an id that its board does not have. -/
def Action.IsFresh (a : Action) (r : Relay) : Prop :=
  match a with
  | .operate board op _ => op.IsFresh (r.idsOf board)
  | _ => True

/-- Every task that is created in a run has an id that its board does not have. -/
def IsFresh : List Action → Relay → Prop
  | [], _ => True
  | a :: as, r => a.IsFresh r ∧ IsFresh as (r.act a)

/-- The message that an action posts to the receivers of a board, if it posts any. -/
def postsOf (board : String) (a : Action) (r : Relay) : List ServerMessage :=
  match a with
  | .operate b op now =>
    if b = board then op.posts b now r else []
  | _ => []

/-- The messages that are posted to the receivers of a board in a run. -/
def posts (board : String) : List Action → Relay → List ServerMessage
  | [], _ => []
  | a :: as, r => r.postsOf board a ++ posts board as (r.act a)

/-- What an action gives to a receiver. -/
def deliveryOf (who : Receiver) (a : Action) (r : Relay) : List Delivery :=
  match a with
  | .drain w => if w = who then (r.drain who).1 else []
  | _ => []

/-- What a receiver reads in a run. -/
def deliveries (who : Receiver) : List Action → Relay → List Delivery
  | [], _ => []
  | a :: as, r => r.deliveryOf who a ++ deliveries who as (r.act a)

/-- What a receiver is given in a run: what it reads, and what it has still to read. -/
def received (who : Receiver) (as : List Action) (r : Relay) : List Delivery :=
  deliveries who as r ++ ((r.run as).drain who).1

theorem isFresh_append {as bs : List Action} {r : Relay} :
    IsFresh (as ++ bs) r ↔ IsFresh as r ∧ IsFresh bs (r.run as) := by
  induction as generalizing r with
  | nil => simp [IsFresh]
  | cons a as ih => rw [List.cons_append, IsFresh, ih, IsFresh, run_cons, and_assoc]

theorem posts_append (board : String) (as bs : List Action) (r : Relay) :
    posts board (as ++ bs) r = posts board as r ++ posts board bs (r.run as) := by
  induction as generalizing r with
  | nil => rfl
  | cons a as ih => rw [List.cons_append, posts, ih, posts, run_cons, List.append_assoc]

theorem received_cons (who : Receiver) (a : Action) (as : List Action) (r : Relay) :
    r.received who (a :: as) = r.deliveryOf who a ++ (r.act a).received who as := by
  rw [received, deliveries, List.append_assoc]
  rfl

theorem received_append (who : Receiver) (as bs : List Action) (r : Relay) :
    r.received who (as ++ bs) = deliveries who as r ++ (r.run as).received who bs := by
  induction as generalizing r with
  | nil => rfl
  | cons a as ih =>
    rw [List.cons_append, received_cons, ih, deliveries, run_cons, List.append_assoc]

/-! ### Tasks -/

/-- The tasks of a board after an action: the ones that its operation makes of them, if it is an
operation on the board. -/
theorem tasks?_act {board : String} {ts : List Task} {r : Relay} (h : r.tasks? board = some ts)
    (a : Action) :
    (r.act a).tasks? board = some ts ∧ r.postsOf board a = [] ∨
      ∃ op now, a = .operate board op now ∧ (r.act a).tasks? board =
          some (((op.news board now ts).map (·.2)).getD ts) ∧
        r.postsOf board a = ((op.news board now ts).map (·.1)).toList := by
  cases a with
  | operate b op now =>
    by_cases hb : b = board
    · subst hb
      exact .inr ⟨op, now, rfl, tasks?_perform h op now, by simp [postsOf, Operation.posts, h]⟩
    · exact .inl ⟨(tasks?_perform_of_ne (Ne.symm hb) op now r).trans h, by simp [postsOf, hb]⟩
  | join b token now =>
    refine .inl ⟨?_, rfl⟩
    rw [act]
    split
    · next hjoin => rw [tasks?_join hjoin, h]
    · exact h
  | leave who => exact .inl ⟨(tasks?_leave who board r).trans h, rfl⟩
  | drain who => exact .inl ⟨(tasks?_drain who board r).trans h, rfl⟩

/-- Clients that follow what an action posts keep step with the board. -/
theorem amendAll_postsOf {board : String} {ts : List Task} {r : Relay}
    (h : r.tasks? board = some ts) {a : Action} (hfresh : a.IsFresh r) :
    ∃ ts', (r.act a).tasks? board = some ts' ∧
      ServerMessage.amendAll (r.postsOf board a) (dedupById ts) = dedupById ts' := by
  rcases tasks?_act h a with ⟨htasks, hposts⟩ | ⟨op, now, rfl, htasks, hposts⟩
  · exact ⟨ts, htasks, by rw [hposts]; rfl⟩
  · have hop : op.IsFresh (ids ts) := by simpa [Action.IsFresh, idsOf, h] using hfresh
    refine ⟨_, htasks, ?_⟩
    rw [hposts]
    cases hnews : op.news board now ts with
    | none => rfl
    | some news => exact op.amend_of_news hop hnews

/-- **Clients that follow what is posted keep step with the board.** -/
theorem amendAll_posts {board : String} {ts : List Task} {r : Relay}
    (h : r.tasks? board = some ts) {as : List Action} (hfresh : IsFresh as r) :
    ∃ ts', (r.run as).tasks? board = some ts' ∧
      ServerMessage.amendAll (posts board as r) (dedupById ts) = dedupById ts' := by
  induction as generalizing r ts with
  | nil => exact ⟨ts, h, rfl⟩
  | cons a as ih =>
    obtain ⟨ts₁, h₁, hamend⟩ := amendAll_postsOf h hfresh.1
    obtain ⟨ts', h', hrest⟩ := ih h₁ hfresh.2
    exact ⟨ts', h', by rw [posts, ServerMessage.amendAll_append, hamend, hrest]⟩

/-! ### Receiving -/

theorem IsNumbered.act {r : Relay} (h : r.IsNumbered) (a : Action) : (r.act a).IsNumbered := by
  cases a with
  | operate board op now => exact h.perform op board now
  | join board token now =>
    rw [Relay.act]
    split
    · next hjoin => exact h.join hjoin
    · exact h
  | leave who => exact h.leave who
  | drain who =>
    rw [Relay.act, drain]
    split
    · exact h
    · exact h.setMailbox who .empty

theorem IsNumbered.run {r : Relay} (h : r.IsNumbered) (as : List Action) :
    (r.run as).IsNumbered := by
  induction as generalizing r with
  | nil => exact h
  | cons a as ih => exact ih (h.act a)

/-- What an action does to the mailbox of a receiver that stays: it is emptied when its receiver
reads, and takes what is posted otherwise. -/
theorem mailbox?_act {who : Receiver} {r : Relay} {box : Mailbox} (h : r.mailbox? who = some box)
    {a : Action} (hstay : a ≠ .leave who) :
    (a = .drain who ∧ (r.act a).mailbox? who = some .empty) ∨
      (r.deliveryOf who a = [] ∧
        (r.act a).mailbox? who = some (box.postAll (r.postsOf who.board a))) := by
  cases a with
  | operate board op now =>
    refine .inr ⟨rfl, ?_⟩
    rw [act, postsOf]
    split
    · next hboard => rw [hboard, mailbox?_perform, h]; rfl
    · next hboard => exact (mailbox?_perform_of_ne (Ne.symm hboard) op now r).trans h
  | join board token now =>
    refine .inr ⟨rfl, ?_⟩
    rw [act]
    split
    · next hjoin => exact mailbox?_join_of_some hjoin h
    · exact h
  | leave w =>
    have hne : w ≠ who := fun heq => hstay (by rw [heq])
    exact .inr ⟨rfl, (mailbox?_leave hne r).trans h⟩
  | drain w =>
    by_cases hw : w = who
    · subst hw
      refine .inl ⟨rfl, ?_⟩
      simp only [act, drain, h]
      rw [mailbox?_setMailbox_self, h]
      rfl
    · exact .inr ⟨by rw [deliveryOf, if_neg hw], (mailbox?_drain_of_ne hw r).trans h⟩

theorem drain_of_mailbox? {who : Receiver} {r : Relay} {box : Mailbox}
    (h : r.mailbox? who = some box) : (r.drain who).1 = box.drain := by
  rw [drain, h]

/-- A receiver that has lost messages is told so before it reads on. -/
theorem mem_received_of_lost {who : Receiver} {r : Relay} {box : Mailbox}
    (h : r.mailbox? who = some box) (hlost : box.lost ≠ 0) {as : List Action}
    (hstay : .leave who ∉ as) : ∃ n, .lagged n ∈ r.received who as := by
  induction as generalizing r box with
  | nil =>
    refine ⟨box.lost, ?_⟩
    rw [received, run_nil, drain_of_mailbox? h]
    exact List.mem_append_right _ (Mailbox.lagged_mem_drain hlost)
  | cons a as ih =>
    obtain ⟨hne, hstay⟩ := not_or.mp (mt List.mem_cons.mpr hstay)
    rw [received_cons]
    rcases mailbox?_act h (Ne.symm hne) with ⟨rfl, -⟩ | ⟨-, hbox⟩
    · refine ⟨box.lost, List.mem_append_left _ ?_⟩
      rw [deliveryOf, if_pos rfl, drain_of_mailbox? h]
      exact Mailbox.lagged_mem_drain hlost
    · have hlost' : (box.postAll (r.postsOf who.board a)).lost ≠ 0 := by
        have hle := box.lost_le_lost_postAll (r.postsOf who.board a)
        omega
      obtain ⟨n, hn⟩ := ih hbox hlost' hstay
      exact ⟨n, List.mem_append_right _ hn⟩

/-- **A receiver that has lost nothing is given what was posted.** -/
theorem received_eq_posts {who : Receiver} {r : Relay} {box : Mailbox}
    (h : r.mailbox? who = some box) {as : List Action} (hstay : .leave who ∉ as)
    (hlag : ∀ n, .lagged n ∉ r.received who as) :
    r.received who as = (box.unread ++ posts who.board as r).map .message := by
  induction as generalizing r box with
  | nil =>
    have hlost : box.lost = 0 := Classical.not_not.mp fun hlost =>
      (mem_received_of_lost h hlost hstay).elim hlag
    rw [received, run_nil, drain_of_mailbox? h, Mailbox.drain_eq_map hlost, posts,
      List.append_nil]
    rfl
  | cons a as ih =>
    obtain ⟨hne, hstay'⟩ := not_or.mp (mt List.mem_cons.mpr hstay)
    rw [received_cons] at hlag ⊢
    have hlag' : ∀ n, .lagged n ∉ (r.act a).received who as :=
      fun n hn => hlag n (List.mem_append_right _ hn)
    rcases mailbox?_act h (Ne.symm hne) with ⟨rfl, hbox⟩ | ⟨hnone, hbox⟩
    · have hlost : box.lost = 0 := Classical.not_not.mp fun hlost =>
        (mem_received_of_lost h hlost hstay).elim fun n hn => hlag n (by rwa [received_cons] at hn)
      rw [deliveryOf, if_pos rfl, drain_of_mailbox? h, Mailbox.drain_eq_map hlost,
        ih hbox hstay' hlag', posts]
      simp [postsOf, Mailbox.empty]
    · have hlost : (box.postAll (r.postsOf who.board a)).lost = 0 :=
        Classical.not_not.mp fun hlost => (mem_received_of_lost hbox hlost hstay').elim hlag'
      rw [hnone, ih hbox hstay' hlag', Mailbox.unread_postAll hlost, posts, List.nil_append,
        List.append_assoc]

/-- A receiver that stays has a mailbox. -/
theorem mailbox?_run {who : Receiver} {r : Relay} {box : Mailbox} (h : r.mailbox? who = some box)
    {as : List Action} (hstay : .leave who ∉ as) : ∃ box', (r.run as).mailbox? who = some box' := by
  induction as generalizing r box with
  | nil => exact ⟨box, h⟩
  | cons a as ih =>
    obtain ⟨hne, hstay⟩ := not_or.mp (mt List.mem_cons.mpr hstay)
    rcases mailbox?_act h (Ne.symm hne) with ⟨-, hbox⟩ | ⟨-, hbox⟩
    · exact ih hbox hstay
    · exact ih hbox hstay

/-- A loss that a receiver is told of early in a run is not forgotten later in the run. -/
theorem lagged_mem_received_append {who : Receiver} {r : Relay} {box : Mailbox}
    (h : r.mailbox? who = some box) {as bs : List Action} (hstay : .leave who ∉ as ++ bs)
    (hlag : ∃ n, .lagged n ∈ r.received who as) : ∃ n, .lagged n ∈ r.received who (as ++ bs) := by
  obtain ⟨hstay, hstay'⟩ := not_or.mp (mt List.mem_append.mpr hstay)
  obtain ⟨box', hbox'⟩ := mailbox?_run h hstay
  obtain ⟨n, hn⟩ := hlag
  rw [received_append]
  rcases List.mem_append.mp hn with hn | hn
  · exact ⟨n, List.mem_append_left _ hn⟩
  · have hlost : box'.lost ≠ 0 := by
      rintro hlost
      rw [drain_of_mailbox? hbox', Mailbox.drain_eq_map hlost] at hn
      simp at hn
    obtain ⟨n, hn⟩ := mem_received_of_lost hbox' hlost hstay'
    exact ⟨n, List.mem_append_right _ hn⟩

end Relay

end LiveBoard
