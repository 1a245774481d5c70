import LiveBoard.Proofs.Board.Blur
import LiveBoard.Proofs.Board.Replay
import LiveBoard.Proofs.Relay.Socket

/-!
# Agreement of a client with a board

A client has still to read some messages, and the relay has still to hear some moves. The client
agrees with the board of the relay when it will have, once it has read the messages, the first task
of every id, but for the status of the tasks that it has moved.

What happens on either side keeps the agreement. The relay carries out an operation and posts what
it has done; the client reads a message, or moves a task and says so. When the relay hears of the
move, it sets the status of the task, if there is such a task, and the message about it sets the
same status at the client. So the task need no longer be excepted.

## Main definitions

* `ClientMessage.moved`: the tasks that a message moves.
* `Agrees`: the agreement of a client with a board.

## Main results

* `Agrees.concat`: an operation of the relay keeps the agreement.
* `Agrees.heed`: when the relay hears of a move, the task need no longer be excepted.
* `Agrees.eq`: where nothing is left to read or to hear, the tasks are the same.
-/

namespace LiveBoard

open Relay ServerMessage

/-! ### What a client says -/

namespace ClientMessage

/-- The ids of the tasks that a message moves. -/
def moved : ClientMessage → List String
  | .taskMove id _ => [id]
  | _ => []

/-- The ids of the tasks that several messages move. -/
def movedBy (ms : List ClientMessage) : List String := ms.flatMap moved

theorem movedBy_append (ms ns : List ClientMessage) :
    movedBy (ms ++ ns) = movedBy ms ++ movedBy ns :=
  List.flatMap_append

end ClientMessage

/-! ### Agreement -/

/-- A client with the tasks `own` agrees with a board with the tasks `ts`, when it has read the
pending messages, but for the status of the hidden tasks. -/
def Agrees (hidden : List String) (pending : List ServerMessage) (own ts : List Task) : Prop :=
  blur hidden (amendAll pending own) = blur hidden (dedupById ts)

section Agrees

variable {hidden hidden' : List String} {pending : List ServerMessage} {own own' ts : List Task}

theorem agrees_snapshot (hidden : List String) (own ts : List Task) (now : String) :
    Agrees hidden [.boardState ⟨ts, now⟩] own ts := rfl

/-- Where nothing is left to read or to hear, the tasks are the same. -/
theorem Agrees.eq (h : Agrees [] [] own ts) : own = dedupById ts := by
  rwa [Agrees, blur_nil, blur_nil] at h

theorem Agrees.mono (h : Agrees hidden pending own ts) (hsub : hidden ⊆ hidden') :
    Agrees hidden' pending own ts :=
  blur_congr_of_subset hsub h

/-- A client may change the status of hidden tasks. -/
theorem Agrees.congr (h : Agrees hidden pending own ts) (heq : blur hidden own' = blur hidden own) :
    Agrees hidden pending own' ts :=
  (blur_amendAll_congr heq pending).trans h

/-- It does not matter what a client had before it reads the whole board. -/
theorem Agrees.of_isWhole (h : Agrees hidden pending own ts)
    (hwhole : ∃ m ∈ pending, m.IsWhole) (own' : List Task) : Agrees hidden pending own' ts := by
  rwa [Agrees, amendAll_eq_of_isWhole hwhole own' own]

/-- An acknowledgement is read without a trace. -/
theorem Agrees.insert_heartbeatAck {before after : List ServerMessage} {id : Option String}
    (h : Agrees hidden (before ++ after) own ts) :
    Agrees hidden (before ++ .heartbeatAck id :: after) own ts := by
  rw [Agrees, amendAll_append] at h ⊢
  exact h

/-- **An operation of the relay** and what it posts keep the agreement. -/
theorem Agrees.concat (h : Agrees hidden pending own ts) {op : Operation}
    (hfresh : op.IsFresh (ids ts)) (board now : String) :
    Agrees hidden (pending ++ ((op.news board now ts).map (·.1)).toList) own
      (((op.news board now ts).map (·.2)).getD ts) := by
  cases hnews : op.news board now ts with
  | none =>
    rw [Option.map_none, Option.toList_none, List.append_nil]
    exact h
  | some news =>
    obtain ⟨m, ts'⟩ := news
    have hamend : m.amend (dedupById ts) = dedupById ts' := op.amend_of_news hfresh hnews
    show blur hidden (amendAll (pending ++ [m]) own) = blur hidden (dedupById ts')
    rw [amendAll_concat, blur_amend_congr h m, hamend]

/-- A move that the relay carries out makes the status of its task equal. -/
theorem Agrees.heed_move {id : String} (h : Agrees (id :: hidden) pending own ts)
    (hown : (ids own).Nodup) (status : Status) (mover : Option String) (board now : String) :
    Agrees hidden
      (pending ++ (((Operation.move id status mover).news board now ts).map (·.1)).toList) own
      ((((Operation.move id status mover).news board now ts).map (·.2)).getD ts) := by
  have hids : ids (amendAll pending own) = ids (dedupById ts) := ids_eq_of_blur_eq h
  cases htask : ts.find? fun t => t.id == id with
  | none =>
    have hnews : (Operation.move id status mover).news board now ts = none := by
      rw [Operation.news, htask, Option.map_none]
    have hnotMem : id ∉ ids (dedupById ts) := fun hmem => by
      obtain ⟨t, ht, hid⟩ := mem_ids.mp (mem_ids_dedupById.mp hmem)
      exact List.find?_eq_none.mp htask t ht (beq_iff_eq.mpr hid)
    rw [hnews, Option.map_none, Option.toList_none, List.append_nil, Agrees]
    rwa [Agrees, blur_cons_of_notMem hnotMem, blur_cons_of_notMem (hids ▸ hnotMem)] at h
  | some t =>
    have hnews : (Operation.move id status mover).news board now ts =
        some (.taskUpdated ⟨id, movePatch t status now, mover, now⟩,
          updateFirst (fun t => t.id == id) (fun u => u.apply (movePatch t status now)) ts) := by
      rw [Operation.news, htask, Option.map_some]
    have hamend := (Operation.move id status mover).amend_of_news
      (show (Operation.move id status mover).IsFresh (ids ts) from trivial) hnews
    have hnodup : (ids (amendAll pending own)).Nodup := nodup_ids_amendAll pending hown
    rw [hnews]
    show blur hidden (amendAll (pending ++ [_]) own) = blur hidden (dedupById (updateFirst _ _ ts))
    rw [amendAll_concat, ← hamend]
    exact blur_update_congr rfl hnodup h

/-- **When the relay hears of a move**, the task need no longer be excepted. -/
theorem Agrees.heed {m : ClientMessage} (h : Agrees (m.moved ++ hidden) pending own ts)
    (hown : (ids own).Nodup) {client id : String} {op : Operation}
    (hop : m.operation? client id = some op) (hid : id ∉ ids ts) (board now : String) :
    Agrees hidden (pending ++ ((op.news board now ts).map (·.1)).toList) own
      (((op.news board now ts).map (·.2)).getD ts) := by
  cases m with
  | taskMove task status =>
    cases hop
    exact h.heed_move hown status (some client) board now
  | taskCreate title status assignee =>
    have hfresh : op.IsFresh (ids ts) := ClientMessage.isFresh_of_operation? hop hid
    exact Agrees.concat h hfresh board now
  | heartbeat i => cases hop

end Agrees

end LiveBoard
