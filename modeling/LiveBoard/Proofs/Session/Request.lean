import LiveBoard.Proofs.Relay.Socket
import LiveBoard.Proofs.Session.Step

/-!
# What a session asks of its relay

A connected session that moves a task, or wants one created, sends exactly one text. Whatever the
strings in it, every socket of every relay understands the text as it was meant: what the relay
carries out has the id, the title, the status and the assignee that the session was given.

## Main definitions

* `Session.Deed`, `Session.run`: what can happen to a session, in any order.

## Main results

* `Session.acts_offer`: a connected session sends what it wants sent.
* `Session.requests_reach_relay`: what a session asks for is what the relay carries out.
-/

namespace LiveBoard

namespace Session

/-- What can happen to a session. -/
inductive Deed
  | wake (w : Wake)
  | seed (tasks : List Task)
  | move (id : String) (status : Status) (taken : Bool)
  | create (title : String) (status : Status) (assignee : Option String) (taken : Bool)

/-- A session to which something happens. -/
def undergo (d : Deed) (s : Session) : Session :=
  match d with
  | .wake w => (s.wake w).1
  | .seed tasks => (s.seed tasks).2
  | .move id status taken => (s.moveTask id status taken).2.1
  | .create title status assignee taken => (s.createTask title status assignee taken).1

/-- A session after several things have happened to it, the first one first. -/
def run (ds : List Deed) (s : Session) : Session := ds.foldl (fun s d => s.undergo d) s

variable {s : Session}

theorem isCoherent_undergo (h : s.transport.IsCoherent) (d : Deed) :
    (s.undergo d).transport.IsCoherent := by
  cases d with
  | wake w => exact h.step w
  | seed tasks => exact h
  | move id status taken => exact h.offer _ taken
  | create title status assignee taken => exact h.offer _ taken

theorem isCoherent_run (h : s.transport.IsCoherent) (ds : List Deed) :
    (s.run ds).transport.IsCoherent := by
  induction ds generalizing s with
  | nil => exact h
  | cons d ds ih => exact ih (isCoherent_undergo h d)

/-- A connected session sends what it wants sent. -/
theorem acts_offer (h : s.transport.IsCoherent) (hconnected : s.state = .connected)
    (m : ClientMessage) : (s.after (s.transport.offer m true)).2 = [.transmit m.encode] := by
  rw [after, h.offer_of_socket (h.published_eq_connected_iff.mp hconnected)]
  rfl

theorem acts_moveTask (h : s.transport.IsCoherent) (hconnected : s.state = .connected)
    (id : String) (status : Status) :
    (s.moveTask id status true).2.2 = [.transmit (ClientMessage.taskMove id status).encode] :=
  acts_offer (s := (s.update (BoardStore.moveLocally id status)).2) h hconnected _

/-- **The relay understands what clients send.** Every message of a client is read back from its
frame, and so is every message that was read from any text. When a session that was started is
connected, whatever has happened to it before, a move or a new task that it asks for is one text.
Every socket that hears this text lets its relay move the task with this id to this status, or
create a task with this title, status and assignee, on the board of the socket and in the name of
its client. -/
theorem requests_reach_relay {settings : Settings} {initial : Option (List Task)}
    {started : Session} {acts : List Act} (hstart : start settings initial = .ok (started, acts))
    {ds : List Deed} (hs : started.run ds = s) (hconnected : s.state = .connected) :
    (∀ m : ClientMessage, ClientMessage.decode m.encode = .ok m) ∧
    (∀ text m, ClientMessage.decode text = .ok m → ClientMessage.decode m.encode = .ok m) ∧
    (∀ id status, ∃ text, (s.moveTask id status true).2.2 = [.transmit text] ∧
      ∀ (k : SyncSocket) newId now r, k.hear text newId now r =
        (k, (r.moveTask k.receiver.board id status (some k.client) now).2)) ∧
    (∀ title status assignee, ∃ text,
      (s.createTask title status assignee true).2 = [.transmit text] ∧
      ∀ (k : SyncSocket) newId now r, k.hear text newId now r =
        (k, (r.createTask k.receiver.board title status assignee (some k.client)
          newId now).2)) := by
  have hcoherent : s.transport.IsCoherent := hs ▸ isCoherent_run (isCoherent_start hstart).1 ds
  refine ⟨ClientMessage.decode_encode, fun _ m _ => m.decode_encode, ?_, ?_⟩
  · intro id status
    exact ⟨_, acts_moveTask hcoherent hconnected id status,
      fun k newId now r => SyncSocket.hear_encode _⟩
  · intro title status assignee
    exact ⟨_, acts_offer hcoherent hconnected _,
      fun k newId now r => SyncSocket.hear_encode _⟩

/-- A session whose first connection is lost asks for a task with quotation marks, control
characters and other letters in its strings. -/
theorem requests_reach_relay_of_escaped :
    let settings : Settings :=
      { Settings.standard with apiUrl := "http://[::1]", boardId := "b", token := some "k" }
    let address : Url.Address :=
      { scheme := "ws", userinfo := none, host := .ipv6 [0, 0, 0, 0, 0, 0, 0, 1], port := none
        path := ["ws".toList, "board".toList, "b".toList, "sync".toList]
        query := some "token=k".toList, fragment := none }
    let transport : Transport :=
      { machine := { Connection.Machine.start .standard true with state := .connecting, epoch := 1 }
        endpoint := some address, published := .connecting, heartbeatInterval := 30000
        socket := false, pending := some 1, heartbeat := false, timer := none, running := true }
    let session : Session := ⟨"b", .ofStore .empty, transport⟩
    let title := "\"Ünï\tcode\\ \x00\n🙂\""
    let ds : List Deed :=
      [.wake (.handshake .failed), .wake .reconnectDue, .move title .done true,
        .wake (.handshake .opened)]
    let s := session.run ds
    let acts : List Act := [.tell (.connectionState .connecting), .dial address]
    let k : SyncSocket := ⟨⟨"b", 0⟩, "c", []⟩
    let r := (Relay.ofTokens []).putBoard "b" [] "t0"
    start settings none = .ok (session, acts) ∧ s.state = .connected ∧
      ∃ text, (s.createTask title .review (some title) true).2 = [.transmit text] ∧
        k.hear text "1" "t1" r =
          (k, (r.createTask "b" title .review (some title) (some "c") "1" "t1").2) := by
  intro settings address transport session title ds s acts k r
  have hstart : start settings none = .ok (session, acts) := by decide +kernel
  have hconnected : s.state = .connected := by decide +kernel
  obtain ⟨-, -, -, hcreate⟩ := requests_reach_relay hstart (show _ = s from rfl) hconnected
  obtain ⟨text, hsent, hheard⟩ := hcreate title .review (some title)
  exact ⟨hstart, hconnected, text, hsent, hheard k "1" "t1" r⟩

end Session

end LiveBoard
