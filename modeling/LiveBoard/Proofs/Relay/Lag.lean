import LiveBoard.Proofs.Board.Reading
import LiveBoard.Proofs.Board.Replay
import LiveBoard.Proofs.Relay.History
import LiveBoard.Proofs.Relay.Socket

/-!
# Recovering from a loss

A client that reads too slowly loses the oldest messages in its mailbox. It is then sent the board
of the moment, and goes on with the messages that were retained, all of which the board already
knows of. When it has read everything, it has the tasks of the board, however often and whenever
it fell behind.

## Main definitions

* `Feed`: a socket at a relay with what its client was sent so far, and `Feed.turn`, what happens
  next to either of them.
* `Feed.Admits`: every task is created under an id that the board never had.
* `Feed.InStep`: the client will have the tasks of the board when it has read everything.

## Main results

* `Feed.InStep.turn`, `Feed.InStep.run`: whatever happens, the client stays in step.
* `Feed.recovers`: what a client that falls behind is sent, and what it ends up with.
-/

namespace LiveBoard

open Relay ServerMessage

/-! ### Mailboxes that overflow -/

namespace Mailbox

variable {b : Mailbox} {m : ServerMessage}

theorem length_unread_post (h : b.unread.length ≤ capacity) :
    (b.post m).unread.length =
      if b.unread.length < capacity then b.unread.length + 1 else capacity := by
  have hpos : 0 < capacity := by decide
  rw [post]
  split
  · exact List.length_append
  · show (b.unread.drop 1 ++ [m]).length = capacity
    rw [List.length_append, List.length_drop, List.length_singleton]
    omega

/-- A mailbox that has lost something is full. -/
theorem full_post (hle : b.unread.length ≤ capacity)
    (h : b.lost ≠ 0 → b.unread.length = capacity) (hlost : (b.post m).lost ≠ 0) :
    (b.post m).unread.length = capacity := by
  rw [length_unread_post hle]
  split
  · next hlt =>
    rw [post, if_pos hlt] at hlost
    exact absurd (h hlost) (Nat.ne_of_lt hlt)
  · rfl

end Mailbox

/-! ### What is posted -/

namespace Relay.Operation

variable {op : Operation} {board now : String} {m : ServerMessage} {ts ts' : List Task}

theorem isPosted_of_news (h : op.news board now ts = some (m, ts')) : m.IsPosted := by
  cases op with
  | put tasks => cases h; trivial
  | move id status mover =>
    obtain ⟨t, -, h⟩ := Option.map_eq_some_iff.mp h
    cases h
    exact ⟨t, status, now, rfl⟩
  | create title status assignee creator id => cases h; trivial
  | delete id =>
    rw [news] at h
    split at h <;> cases h
    trivial
  | suggest suggestion => cases h; trivial

/-- What is posted is about tasks that the board had before or has afterwards. -/
theorem subjects_of_news (h : op.news board now ts = some (m, ts')) {id : String}
    (hid : id ∈ m.subjects) : id ∈ ids ts ∨ id ∈ ids ts' := by
  cases op with
  | put tasks => cases h; exact .inr hid
  | move i status mover =>
    obtain ⟨t, ht, h⟩ := Option.map_eq_some_iff.mp h
    cases h
    rw [List.mem_singleton.mp hid]
    exact .inl (mem_ids.mpr ⟨t, List.mem_of_find?_eq_some ht, by simpa using List.find?_some ht⟩)
  | create title status assignee creator i =>
    cases h
    rw [List.mem_singleton.mp hid]
    exact .inr List.mem_cons_self
  | delete i =>
    rw [news] at h
    split at h
    · next hmem =>
      cases h
      rw [List.mem_singleton.mp hid]
      exact .inl (any_id_iff.mp hmem)
    · cases h
  | suggest suggestion => cases h; cases hid

theorem isFresh_mono {used used' : List String} (h : ∀ id ∈ used, id ∈ used')
    (hfresh : op.IsFresh used') : op.IsFresh used := by
  cases op with
  | create title status assignee creator id => exact fun hid => hfresh (h id hid)
  | _ => trivial

/-- What is posted as created has an id that is not in use. -/
theorem notMem_of_isCreation {used : List String} (hfresh : op.IsFresh used)
    (h : op.news board now ts = some (m, ts')) (hm : m.IsCreation) :
    ∀ id ∈ m.subjects, id ∉ used := by
  cases op with
  | create title status assignee creator i =>
    cases h
    intro id hid
    rw [List.mem_singleton.mp hid]
    exact hfresh
  | put tasks => cases h; exact hm.elim
  | move i status mover =>
    obtain ⟨t, -, h⟩ := Option.map_eq_some_iff.mp h
    cases h
    exact hm.elim
  | delete i =>
    rw [news] at h
    split at h <;> cases h
    exact hm.elim
  | suggest suggestion => cases h; exact hm.elim

end Relay.Operation

/-! ### Sockets that are read now and then -/

/-- A socket at a relay with what has become of it since it was opened. -/
structure Feed where
  relay : Relay
  socket : SyncSocket
  /-- What the client was sent. -/
  sent : List ServerMessage
  /-- What was posted to the board of the socket. -/
  posted : List ServerMessage
  /-- The ids that tasks of the board have had. -/
  used : List String

/-- What can happen next: something at the relay, or the client is sent a message. -/
inductive Turn
  | act (a : Action)
  | send (now : String)

namespace Feed

/-- The socket has just been opened. -/
def start (socket : SyncSocket) (r : Relay) : Feed :=
  ⟨r, socket, [], [], r.idsOf socket.receiver.board⟩

/-- The board of the socket. -/
def board (f : Feed) : String := f.socket.receiver.board

/-- One turn. -/
def turn (t : Turn) (f : Feed) : Feed :=
  match t with
  | .act a =>
    { f with
      relay := f.relay.act a
      posted := f.posted ++ f.relay.postsOf f.board a
      used := f.used ++ (f.relay.act a).idsOf f.board }
  | .send now =>
    match f.socket.next? now f.relay with
    | some (m, socket, relay) => { f with relay, socket, sent := f.sent ++ [m] }
    | none => f

/-- Several turns, the first one first. -/
def run (turns : List Turn) (f : Feed) : Feed :=
  turns.foldl (fun f t => f.turn t) f

/-- A turn creates tasks under ids that the board never had, and leaves the mailbox to the
socket. -/
def AdmitsOne (f : Feed) : Turn → Prop
  | .act (.operate b op _) => b = f.board → op.IsFresh f.used
  | .act (.join _ _ _) => True
  | .act (.leave who) => who ≠ f.socket.receiver
  | .act (.drain who) => who ≠ f.socket.receiver
  | .send _ => True

/-- All turns of a run are admitted where they happen. -/
def Admits (f : Feed) : List Turn → Prop
  | [] => True
  | t :: turns => f.AdmitsOne t ∧ (f.turn t).Admits turns

/-- The next message that the client is sent, with what is left in its mailbox then. -/
def Delivers (f : Feed) (now : String) (m : ServerMessage) (box : Mailbox) : Prop :=
  ∃ r, f.socket.next? now f.relay = some (m, f.socket, r) ∧
    r.mailbox? f.socket.receiver = some box ∧ r.tasks? f.board = f.relay.tasks? f.board

/-- What has been posted leads to the tasks of the board, and does not change them when it is read
again. The mailbox holds an end of it. Unless something was lost, what was sent and what is still
to be sent leave a client with these tasks. -/
structure InStep (f : Feed) (ts : List Task) (box : Mailbox) : Prop where
  tasks : f.relay.tasks? f.board = some ts
  mailbox : f.relay.mailbox? f.socket.receiver = some box
  settles : Settles f.posted (dedupById ts)
  isPosted : ∀ m ∈ f.posted, m.IsPosted
  ids_used : ∀ id ∈ ids ts, id ∈ f.used
  subjects_used : ∀ m ∈ f.posted, ∀ id ∈ m.subjects, id ∈ f.used
  retained : box.unread <:+ f.posted
  bounded : box.unread.length ≤ Mailbox.capacity
  full : box.lost ≠ 0 → box.unread.length = Mailbox.capacity
  pending : box.lost = 0 → ∀ us,
    amendAll (f.sent ++ f.socket.replies ++ box.unread) us = dedupById ts

variable {f : Feed} {ts : List Task} {box : Mailbox}

theorem inStep_start {tokens : List String} {before : List Action} {board client now : String}
    {token : Option String} {socket : SyncSocket} {r : Relay}
    (h : ((ofTokens tokens).run before).welcome board token client now = .joined socket r) :
    ∃ ts, (start socket r).InStep ts .empty := by
  obtain ⟨snapshot, hjoin, hsocket⟩ := welcome_eq_joined h
  obtain ⟨hwho, htasks, -⟩ := join_eq_ok hjoin
  have hboard : socket.receiver.board = board := by rw [hwho]
  have hts : r.tasks? socket.receiver.board = some snapshot.tasks := by
    rw [hboard, tasks?_join hjoin, htasks]
  refine ⟨snapshot.tasks, hts, mailbox?_join ((isNumbered_ofTokens tokens).run before) hjoin,
    settles_nil _, by simp [start], ?_, by simp [start], List.suffix_refl _, Nat.zero_le _,
    fun hlost => absurd rfl hlost, fun _ us => ?_⟩
  · intro id hid
    rw [start, idsOf, hts]
    exact hid
  · rw [start, hsocket]
    rfl

/-- What is sent to a client keeps it in step. Where messages were lost it starts again with the
board of the moment, and what was retained does no harm. -/
theorem InStep.send (h : f.InStep ts box) (now : String) :
    ∃ box', (f.turn (.send now)).InStep ts box' := by
  have htasks : ∀ box', (f.relay.setMailbox f.socket.receiver box').tasks? f.board = some ts :=
    fun box' => (tasks?_setMailbox _ _ _ _).trans h.tasks
  have hbox : ∀ box', (f.relay.setMailbox f.socket.receiver box').mailbox? f.socket.receiver =
      some box' := fun box' => SyncSocket.mailbox?_setMailbox h.mailbox
  cases hreplies : f.socket.replies with
  | cons m ms =>
    refine ⟨box, ?_⟩
    rw [turn, SyncSocket.next?_of_replies hreplies]
    have hpending := h.pending
    rw [hreplies] at hpending
    exact { h with pending := fun hlost us => by simpa using hpending hlost us }
  | nil =>
    by_cases hlost : box.lost = 0
    · obtain ⟨unread, lost⟩ := box
      obtain rfl : lost = 0 := hlost
      cases unread with
      | nil =>
        refine ⟨⟨[], 0⟩, ?_⟩
        rw [turn, SyncSocket.next?_of_empty hreplies h.mailbox]
        exact h
      | cons m ms =>
        refine ⟨⟨ms, 0⟩, ?_⟩
        rw [turn, SyncSocket.next?_of_unread hreplies h.mailbox]
        have hpending := h.pending
        rw [hreplies] at hpending
        exact { h with
          tasks := htasks _
          mailbox := hbox _
          retained := (List.suffix_cons m ms).trans h.retained
          bounded := Nat.le_of_succ_le h.bounded
          full := fun hlost => absurd rfl hlost
          pending := fun hlost us => by simpa [hreplies] using hpending hlost us }
    · refine ⟨⟨box.unread, 0⟩, ?_⟩
      rw [turn, SyncSocket.next?_of_lost hreplies h.mailbox hlost h.tasks]
      exact { h with
        tasks := htasks _
        mailbox := hbox _
        full := fun hlost => absurd rfl hlost
        pending := fun _ us => by
          simp only [hreplies, List.append_nil, amendAll_append]
          exact h.settles.amendAll_eq h.retained }

/-- An action that posts nothing on the board leaves the client in step. -/
theorem InStep.act_of_quiet (h : f.InStep ts box) {a : Action}
    (htasks : (f.relay.act a).tasks? f.board = some ts) (hposts : f.relay.postsOf f.board a = [])
    (hbox : (f.relay.act a).mailbox? f.socket.receiver = some box) :
    (f.turn (.act a)).InStep ts box := by
  have hposted : (f.turn (.act a)).posted = f.posted := by
    rw [turn, hposts]
    exact List.append_nil _
  exact {
    tasks := htasks
    mailbox := hbox
    settles := hposted ▸ h.settles
    isPosted := hposted ▸ h.isPosted
    ids_used := fun id hid => List.mem_append_left _ (h.ids_used id hid)
    subjects_used := fun m hm id hid =>
      List.mem_append_left _ (h.subjects_used m (hposted ▸ hm) id hid)
    retained := hposted ▸ h.retained
    bounded := h.bounded
    full := h.full
    pending := h.pending }

/-- An operation whose message is posted leaves the client in step with the new tasks. -/
theorem InStep.act_of_news (h : f.InStep ts box) {op : Operation} {now : String}
    (hfresh : op.IsFresh f.used) {m : ServerMessage} {ts' : List Task}
    (hnews : op.news f.board now ts = some (m, ts'))
    (hposts : f.relay.postsOf f.board (.operate f.board op now) = [m])
    (htasks : (f.relay.act (.operate f.board op now)).tasks? f.board = some ts')
    (hbox : (f.relay.act (.operate f.board op now)).mailbox? f.socket.receiver =
      some (box.post m)) :
    (f.turn (.act (.operate f.board op now))).InStep ts' (box.post m) := by
  have hposted : (f.turn (.act (.operate f.board op now))).posted = f.posted ++ [m] := by
    rw [turn, hposts]
  have hused : ∀ id, id ∈ f.used ∨ id ∈ ids ts' →
      id ∈ (f.turn (.act (.operate f.board op now))).used := by
    intro id hid
    rw [turn, idsOf, htasks]
    exact List.mem_append.mpr hid
  have hamend : m.amend (dedupById ts) = dedupById ts' :=
    op.amend_of_news (op.isFresh_mono h.ids_used hfresh) hnews
  have hunheard : m.IsCreation → ∀ id ∈ m.subjects,
      id ∉ ids (dedupById ts) ∧ ∀ n ∈ f.posted, id ∉ n.subjects := by
    intro hm id hid
    have hnew := Operation.notMem_of_isCreation hfresh hnews hm id hid
    exact ⟨fun hmem => hnew (h.ids_used id (mem_ids_dedupById.mp hmem)),
      fun n hn hmem => hnew (h.subjects_used n hn id hmem)⟩
  have hsettles := h.settles.concat h.isPosted (Operation.isPosted_of_news hnews) hunheard
  rw [hamend] at hsettles
  exact {
    tasks := htasks
    mailbox := hbox
    settles := hposted ▸ hsettles
    isPosted := by
      rw [hposted, List.forall_mem_append, List.forall_mem_singleton]
      exact ⟨h.isPosted, Operation.isPosted_of_news hnews⟩
    ids_used := fun id hid => hused id (.inr hid)
    subjects_used := by
      rw [hposted, List.forall_mem_append, List.forall_mem_singleton]
      exact ⟨fun n hn id hid => hused id (.inl (h.subjects_used n hn id hid)), fun id hid =>
        hused id ((Operation.subjects_of_news hnews hid).imp_left (h.ids_used id))⟩
    retained := by
      rw [hposted]
      obtain ⟨before, hbefore⟩ := h.retained
      exact (Mailbox.unread_post_suffix m box).trans
        ⟨before, by rw [← List.append_assoc, hbefore]⟩
    bounded := by
      rw [Mailbox.length_unread_post h.bounded]
      split
      · next hlt => exact hlt
      · exact Nat.le_refl _
    full := Mailbox.full_post h.bounded h.full
    pending := fun hlost us => by
      have hlost' : box.lost = 0 := Nat.eq_zero_of_le_zero (hlost ▸ box.lost_le_lost_post m)
      rw [Mailbox.unread_post hlost, ← List.append_assoc, amendAll_concat]
      exact (congrArg m.amend (h.pending hlost' us)).trans hamend }

/-- What happens at the relay leaves the client in step. -/
theorem InStep.act (h : f.InStep ts box) {a : Action} (ha : f.AdmitsOne (.act a)) :
    ∃ ts' box', (f.turn (.act a)).InStep ts' box' := by
  have hstay : a ≠ .leave f.socket.receiver := by
    rintro rfl
    exact ha rfl
  have hbox : (f.relay.act a).mailbox? f.socket.receiver =
      some (box.postAll (f.relay.postsOf f.board a)) := by
    rcases mailbox?_act h.mailbox hstay with ⟨rfl, -⟩ | ⟨-, hbox⟩
    · exact absurd rfl ha
    · exact hbox
  rcases tasks?_act h.tasks a with ⟨htasks, hposts⟩ | ⟨op, now, rfl, htasks, hposts⟩
  · rw [hposts] at hbox
    exact ⟨ts, box, h.act_of_quiet htasks hposts hbox⟩
  · cases hnews : op.news f.board now ts with
    | none =>
      rw [hnews] at htasks hposts
      rw [hposts] at hbox
      exact ⟨ts, box, h.act_of_quiet htasks hposts hbox⟩
    | some news =>
      rw [hnews] at htasks hposts
      rw [hposts] at hbox
      exact ⟨news.2, box.post news.1, h.act_of_news (ha rfl) hnews hposts htasks hbox⟩

/-- **Whatever happens next, the client stays in step.** -/
theorem InStep.turn (h : f.InStep ts box) {t : Turn} (ht : f.AdmitsOne t) :
    ∃ ts' box', (f.turn t).InStep ts' box' := by
  cases t with
  | act a => exact h.act ht
  | send now => exact ⟨ts, h.send now⟩

theorem InStep.run (h : f.InStep ts box) {turns : List Turn} (hturns : f.Admits turns) :
    ∃ ts' box', (f.run turns).InStep ts' box' := by
  induction turns generalizing f ts box with
  | nil => exact ⟨ts, box, h⟩
  | cons t turns ih =>
    obtain ⟨ts', box', h'⟩ := h.turn hturns.1
    exact ih h' hturns.2

/-- A socket stays with its receiver. -/
theorem receiver_turn (t : Turn) (f : Feed) :
    (f.turn t).socket.receiver = f.socket.receiver := by
  cases t with
  | act a => rfl
  | send now =>
    rw [turn]
    split
    · next hnext => exact SyncSocket.receiver_of_next? hnext
    · rfl

theorem receiver_run (turns : List Turn) (f : Feed) :
    (f.run turns).socket.receiver = f.socket.receiver := by
  induction turns generalizing f with
  | nil => rfl
  | cons t turns ih => exact (ih (f.turn t)).trans (receiver_turn t f)

theorem InStep.delivers (h : f.InStep ts box) (now : String) {m : ServerMessage} {box' : Mailbox}
    (hnext : f.socket.next? now f.relay =
      some (m, f.socket, f.relay.setMailbox f.socket.receiver box')) : f.Delivers now m box' :=
  ⟨_, hnext, SyncSocket.mailbox?_setMailbox h.mailbox, tasks?_setMailbox _ _ _ _⟩

/-- **Recovering from a loss.** A client opens a socket and is sent messages now and then, whatever
happens at the relay meanwhile. At every moment its mailbox holds the latest messages posted to the
board. Where older ones were lost it is full, and the client is sent the board of the moment before
it goes on with exactly the messages that were retained; otherwise it is sent these in order. When
there is nothing more to send, a client that has read everything it was sent, one frame after the
other, has the first task of every id that the board has. -/
theorem recovers {tokens : List String} {before : List Action} {board client now : String}
    {token : Option String} {socket : SyncSocket} {r : Relay}
    (hwelcome : ((ofTokens tokens).run before).welcome board token client now = .joined socket r)
    {turns : List Turn} (hturns : (start socket r).Admits turns)
    (hf : (start socket r).run turns = f) :
    ∃ ts box, f.relay.tasks? board = some ts ∧ f.relay.mailbox? socket.receiver = some box ∧
      box.unread <:+ f.posted ∧
      (box.lost ≠ 0 → box.unread.length = Mailbox.capacity) ∧
      (f.socket.replies = [] → ∀ moment,
        (box.lost ≠ 0 → f.Delivers moment (.boardState ⟨ts, moment⟩) ⟨box.unread, 0⟩) ∧
        (box.lost = 0 → ∀ m ms, box.unread = m :: ms → f.Delivers moment m ⟨ms, 0⟩)) ∧
      ∀ moment, f.socket.next? moment f.relay = none → ∀ s : BoardStore,
        (s.readAll (f.sent.map ServerMessage.encode)).tasks = dedupById ts := by
  obtain ⟨ts₀, hstart⟩ := inStep_start hwelcome
  obtain ⟨ts, box, h⟩ := hstart.run hturns
  have hreceiver : f.socket.receiver = socket.receiver := hf ▸ receiver_run turns (start socket r)
  have hboard : f.board = board := by
    obtain ⟨snapshot, hjoin, -⟩ := welcome_eq_joined hwelcome
    rw [Feed.board, hreceiver, (join_eq_ok hjoin).1]
  subst hboard
  rw [hf] at h
  rw [← hreceiver]
  refine ⟨ts, box, h.tasks, h.mailbox, h.retained, h.full, ?_, ?_⟩
  · intro hreplies moment
    refine ⟨fun hlost => ?_, fun hlost m ms hunread => ?_⟩
    · exact h.delivers moment (SyncSocket.next?_of_lost hreplies h.mailbox hlost h.tasks)
    · have hbox := h.mailbox
      rw [show box = ⟨m :: ms, 0⟩ by cases box; simp_all] at hbox
      exact h.delivers moment (SyncSocket.next?_of_unread hreplies hbox)
  · intro moment hnone s
    obtain ⟨hreplies, rfl⟩ := SyncSocket.eq_nil_of_next?_eq_none h.mailbox h.tasks hnone
    have hpending := h.pending rfl s.tasks
    rw [hreplies, List.append_nil] at hpending
    rw [BoardStore.tasks_readAll_encode, ← hpending]
    exact congrArg (amendAll · s.tasks) (List.append_nil f.sent).symm

theorem admits_of_forall {turns : List Turn} (h : ∀ t ∈ turns, ∀ f : Feed, f.AdmitsOne t)
    (f : Feed) : f.Admits turns := by
  induction turns generalizing f with
  | nil => trivial
  | cons t turns ih =>
    obtain ⟨ht, hturns⟩ := List.forall_mem_cons.mp h
    exact ⟨ht f, ih hturns (f.turn t)⟩

/-- A task is moved more often than the mailbox has room for. The client is sent the board twice
and the messages that were retained. -/
theorem recovers_of_moves :
    let task := newTask "b" "Plan" .inbox none none "1" "t0"
    let r : Relay := ⟨[], [("b", ⟨[task], [(0, .empty)]⟩)], 1⟩
    let socket : SyncSocket := ⟨⟨"b", 0⟩, "c", [.boardState ⟨[task], "t1"⟩]⟩
    let turns := .send "t2" :: (List.replicate 129 (.act (.operate "b" (.move "1" .done none) "t3"))
      ++ List.replicate 129 (.send "t4"))
    let f := (start socket r).run turns
    ((ofTokens []).run [.operate "b" (.put [task]) "t0"]).welcome "b" (some "k") "c" "t1" =
        .joined socket r ∧ (start socket r).Admits turns ∧
      f.sent.length = 130 ∧ f.socket.next? "t5" f.relay = none ∧
      ∃ ts, f.relay.tasks? "b" = some ts ∧
        (BoardStore.empty.readAll (f.sent.map ServerMessage.encode)).tasks = dedupById ts := by
  intro task r socket turns f
  have hwelcome : ((ofTokens []).run [.operate "b" (.put [task]) "t0"]).welcome "b" (some "k")
      "c" "t1" = .joined socket r := rfl
  have hturns : (start socket r).Admits turns := by
    refine admits_of_forall (fun t ht => ?_) _
    simp only [turns, List.mem_cons, List.mem_append, List.mem_replicate] at ht
    rcases ht with rfl | ⟨-, rfl⟩ | ⟨-, rfl⟩ <;>
      exact fun _ => by simp [AdmitsOne, Operation.IsFresh]
  have hlength : f.sent.length = 130 := by decide +kernel
  have hnone : f.socket.next? "t5" f.relay = none := by decide +kernel
  obtain ⟨ts, box, hts, -, -, -, -, htasks⟩ := recovers hwelcome hturns (show _ = f from rfl)
  exact ⟨hwelcome, hturns, hlength, hnone, ts, hts, htasks "t5" hnone .empty⟩

end Feed

end LiveBoard
