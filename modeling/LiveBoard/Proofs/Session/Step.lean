import LiveBoard.Proofs.Board.Reading
import LiveBoard.Proofs.Connection.Coherent
import LiveBoard.Session.Basic

/-!
# What a session does

Whatever happens to a session, but for a text that it is sent, leaves its board alone; a move that
the client makes changes the board at once. As long as there is a socket, the session sends on it
what it says, and its transport stays coherent.

## Main definitions

* `Session.sent`: the texts that acts send.
* `Wake.isOwn`: a wake-up that no relay is needed for.
* `Session.Says`: what a session has said, when it has done something.

## Main results

* `Session.exists_says_wake`, `says_moveTask`, `says_createTask`: what a session says.
* `Session.wake_text`: a session reads a text.
-/

namespace LiveBoard

/-- A wake-up that no relay is needed for: neither a text nor a socket that has opened. -/
def Wake.isOwn : Wake → Bool
  | .frame (.text _) => false
  | .handshake .opened => false
  | _ => true

theorem Wake.ne_text_of_isOwn {w : Wake} (h : w.isOwn = true) (text : String) :
    w ≠ .frame (.text text) := by
  rintro rfl
  cases h

theorem Wake.ne_opened_of_isOwn {w : Wake} (h : w.isOwn = true) : w ≠ .handshake .opened := by
  rintro rfl
  cases h

namespace Session

/-- The texts that acts send. -/
def sent (acts : List Act) : List String :=
  acts.filterMap fun act =>
    match act with
    | .transmit text => some text
    | _ => none

theorem sent_of_isQuiet {acts : List Act} (h : ∀ a ∈ acts, a.IsQuiet) : sent acts = [] := by
  rw [sent, List.filterMap_eq_nil_iff]
  intro a ha
  have hquiet := h a ha
  cases a with
  | transmit text => exact hquiet.elim
  | _ => rfl

/-- A board hears nothing of quiet acts. -/
theorem hearAll_of_isQuiet {acts : List Act} (h : ∀ a ∈ acts, a.IsQuiet) (b : SharedBoard) :
    hearAll acts b = b := by
  induction acts generalizing b with
  | nil => rfl
  | cons a acts ih =>
    obtain ⟨ha, hacts⟩ := List.forall_mem_cons.mp h
    have hhead : hearAll (a :: acts) b = hearAll acts b := by
      cases a with
      | tell n =>
        cases n with
        | connectionState state => rfl
        | _ => exact ha.elim
      | transmit text => exact ha.elim
      | _ => rfl
    rw [hhead, ih hacts]

/-- A session has done something. Its transport is coherent, and as long as there is a socket it
has sent there what it has said. -/
structure Says (s : Session) (said : List ClientMessage) (done : Session × List Act) : Prop where
  boardId : done.1.boardId = s.boardId
  coherent : done.1.transport.IsCoherent
  sent : done.1.transport.socket = true →
    s.transport.socket = true ∧ sent done.2 = said.map ClientMessage.encode

variable {s : Session}

/-- **A session that is woken** by something else than its relay says something or nothing. Its
board stays as it is. -/
theorem exists_says_wake (h : s.transport.IsCoherent) {w : Wake} (hw : w.isOwn = true) :
    ∃ said, s.Says said (s.wake w) ∧ (s.wake w).1.board = s.board := by
  have hsocket : (s.wake w).1.transport.socket = true → s.transport.socket = true :=
    Transport.socket_of_socket_step (Wake.ne_opened_of_isOwn hw)
  rcases Transport.transmits_or_quiet (Wake.ne_text_of_isOwn hw) s.transport with
    ⟨m, hstep⟩ | hquiet
  · have hwake : s.wake w = (s, [.transmit m.encode]) := by
      rw [wake, after, hstep]
      rfl
    refine ⟨[m], ⟨rfl, h.step w, fun hopen => ⟨hsocket hopen, ?_⟩⟩, ?_⟩
    · rw [hwake]
      rfl
    · rw [hwake]
  · exact ⟨[], ⟨rfl, h.step w, fun hopen => ⟨hsocket hopen, sent_of_isQuiet hquiet⟩⟩,
      hearAll_of_isQuiet hquiet s.board⟩

/-- What a session wants sent is said, and its board stays as it is. -/
theorem says_offer (h : s.transport.IsCoherent) (m : ClientMessage) (taken : Bool) :
    s.Says [m] (s.after (s.transport.offer m taken)) ∧
      (s.after (s.transport.offer m taken)).1.board = s.board := by
  have hcoherent := h.offer m taken
  by_cases hsocket : s.transport.socket = true
  · rw [h.offer_of_socket hsocket] at hcoherent ⊢
    cases taken with
    | true => exact ⟨⟨rfl, hcoherent, fun _ => ⟨hsocket, rfl⟩⟩, rfl⟩
    | false =>
      refine ⟨⟨rfl, hcoherent, fun hopen => ?_⟩, ?_⟩
      · exact absurd hopen (by simp [after, Transport.socket_lose])
      · exact hearAll_of_isQuiet (Transport.isQuiet_lose CloseCode.abnormal s.transport) s.board
  · rw [h.offer_of_not_socket hsocket] at hcoherent ⊢
    exact ⟨⟨rfl, hcoherent, fun hopen => absurd hopen hsocket⟩, rfl⟩

/-- **A move** changes the board at once, and is said. -/
theorem says_moveTask (h : s.transport.IsCoherent) (id : String) (status : Status) (taken : Bool) :
    s.Says [.taskMove id status] (s.moveTask id status taken).2 ∧
      (s.moveTask id status taken).2.1.board.store = (s.board.store.moveLocally id status).2 := by
  obtain ⟨hsaid, hboard⟩ := says_offer (s := (s.update (BoardStore.moveLocally id status)).2) h
    (.taskMove id status) taken
  exact ⟨⟨hsaid.boardId, hsaid.coherent, hsaid.sent⟩, congrArg SharedBoard.store hboard⟩

theorem says_createTask (h : s.transport.IsCoherent) (title : String) (status : Status)
    (assignee : Option String) (taken : Bool) :
    s.Says [.taskCreate title status assignee] (s.createTask title status assignee taken) ∧
      (s.createTask title status assignee taken).1.board = s.board :=
  says_offer h _ taken

/-- A socket opens: the board stays as it is, and nothing is said. -/
theorem wake_opened (s : Session) :
    sent (s.wake (.handshake .opened)).2 = [] ∧
      (s.wake (.handshake .opened)).1.board = s.board := by
  have hquiet : ∀ a ∈ (s.wake (.handshake .opened)).2, a.IsQuiet :=
    Transport.isQuiet_step_handshake .opened s.transport
  exact ⟨sent_of_isQuiet hquiet, hearAll_of_isQuiet hquiet s.board⟩

/-- **A session reads a text** that comes out of its socket. -/
theorem wake_text (h : s.transport.IsCoherent) (hsocket : s.transport.socket = true)
    (text : String) :
    ∃ board acts, s.wake (.frame (.text text)) = ({ s with board }, acts) ∧ sent acts = [] ∧
      board.store = s.board.store.read text := by
  have halive : s.transport.machine.alive = true :=
    h.alive_of_ne (by simp [h.socket_iff.mp hsocket])
  have hpossible : s.transport.isPossible (.frame (.text text)) = true := by
    rw [Transport.isPossible, h.running, halive, hsocket]
    rfl
  rw [wake, Transport.step, if_pos hpossible, Transport.onFrame, BoardStore.read]
  cases hm : ServerMessage.decode text with
  | error e => exact ⟨_, _, rfl, rfl, rfl⟩
  | ok m =>
    refine ⟨_, _, rfl, ?_, ?_⟩
    · cases m <;> rfl
    · refine Eq.trans ?_ (SharedBoard.store_receive m s.board)
      cases m <;> rfl

/-- A session that has begun to connect has no socket yet, and no two tasks of one id. -/
theorem isCoherent_start {settings : Settings} {initial : Option (List Task)} {acts : List Act}
    (h : start settings initial = .ok (s, acts)) :
    s.transport.IsCoherent ∧ s.transport.socket = false ∧ (ids s.board.store.tasks).Nodup := by
  unfold start at h
  cases hspawn : Transport.spawn settings with
  | error e =>
    rw [hspawn] at h
    cases h
  | ok t =>
    rw [hspawn] at h
    obtain ⟨hcoherent, hsocket⟩ := Transport.isCoherent_spawn hspawn
    have hwake : ∀ store : BoardStore, (ids store.tasks).Nodup →
        let s := ((Session.mk settings.boardId (.ofStore store) t).wake (.command .connect true)).1
        s.transport.IsCoherent ∧ s.transport.socket = false ∧
          (ids s.board.store.tasks).Nodup := by
      intro store hnodup
      obtain ⟨said, hsaid, hboard⟩ :=
        exists_says_wake (s := ⟨settings.boardId, .ofStore store, t⟩) hcoherent
          (w := .command .connect true) rfl
      refine ⟨hsaid.coherent, ?_, ?_⟩
      · rw [← Bool.not_eq_true]
        intro hopen
        exact Bool.false_ne_true (hsocket.symm.trans (hsaid.sent hopen).1)
      · rw [hboard]
        exact hnodup
    cases h
    cases initial with
    | none => exact hwake .empty List.nodup_nil
    | some tasks => exact hwake (.seeded tasks) (nodup_ids_dedupById tasks)

end Session

end LiveBoard
