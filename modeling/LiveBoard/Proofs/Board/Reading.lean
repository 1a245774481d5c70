import LiveBoard.Proofs.Board.Replay
import LiveBoard.Proofs.Message.RoundTrip

/-!
# Boards that read frames

A board that reads the frame of a message ends up with the tasks that the message itself would
leave. A suggestion may be lost on the way, but it has no say in the tasks.

## Main definitions

* `BoardStore.read`: the board of a client after a frame, and `readAll` after several.

## Main results

* `BoardStore.tasks_read_encode`, `BoardStore.tasks_readAll_encode`: the tasks after frames.
* `BoardStore.authoritative_read_encode`: the frame of the whole board makes a board authoritative.
-/

namespace LiveBoard

namespace BoardStore

/-- The board of a client after a frame. One that is no message is passed over. -/
def read (text : String) (s : BoardStore) : BoardStore :=
  match ServerMessage.decode text with
  | .ok m => s.follow m
  | .error _ => s

/-- The board of a client after several frames, the first one first. -/
def readAll (texts : List String) (s : BoardStore) : BoardStore :=
  texts.foldl (fun s text => s.read text) s

theorem tasks_read_of_isPlain {m : ServerMessage} (h : m.IsPlain) (s : BoardStore) :
    (s.read m.encode).tasks = m.amend s.tasks := by
  rw [read, ServerMessage.decode_encode h, tasks_follow]

theorem tasks_read_suggestionNew (suggestion : Suggestion) (s : BoardStore) :
    (s.read (ServerMessage.suggestionNew suggestion).encode).tasks = s.tasks := by
  rw [read]
  split
  · next m hm =>
    obtain ⟨suggestion', rfl⟩ := ServerMessage.eq_suggestionNew_of_decode hm
    exact tasks_follow (.suggestionNew suggestion') s
  · rfl

/-- **The tasks after the frame of a message** are those that the message leaves. -/
theorem tasks_read_encode (m : ServerMessage) (s : BoardStore) :
    (s.read m.encode).tasks = m.amend s.tasks := by
  cases m with
  | suggestionNew suggestion => exact tasks_read_suggestionNew suggestion s
  | _ => exact tasks_read_of_isPlain (m := _) (by trivial) s

theorem tasks_readAll_encode (ms : List ServerMessage) (s : BoardStore) :
    (s.readAll (ms.map ServerMessage.encode)).tasks = ServerMessage.amendAll ms s.tasks := by
  induction ms generalizing s with
  | nil => rfl
  | cons m ms ih => exact (ih (s.read m.encode)).trans (by rw [tasks_read_encode]; rfl)

/-! ### Authority -/

/-- A board that has been sent as a whole stays so. -/
theorem authoritative_follow (m : ServerMessage) {s : BoardStore} (h : s.authoritative = true) :
    (s.follow m).authoritative = true := by
  cases m with
  | boardState snapshot => rfl
  | taskUpdated u =>
    simp only [follow, operation?, applyUpdate]
    split <;> exact h
  | taskCreated c =>
    simp only [follow, operation?, applyCreated]
    split <;> exact h
  | _ => exact h

theorem authoritative_read (text : String) {s : BoardStore} (h : s.authoritative = true) :
    (s.read text).authoritative = true := by
  rw [read]
  split
  · exact authoritative_follow _ h
  · exact h

theorem authoritative_read_encode {m : ServerMessage} (hm : m.IsWhole) (s : BoardStore) :
    (s.read m.encode).authoritative = true := by
  cases m with
  | boardState snapshot =>
    rw [read, ServerMessage.decode_encode (m := .boardState snapshot) (by trivial)]
    rfl
  | _ => exact hm.elim

end BoardStore

end LiveBoard
