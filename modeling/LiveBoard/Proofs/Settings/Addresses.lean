import LiveBoard.Proofs.Json.Tree
import LiveBoard.Proofs.Url.Segment
import LiveBoard.Settings.Addresses

/-!
# The board of an address

Both addresses of a board end in the id of the board between names that do not change. A relay
reads the id from there as it is configured, whatever it holds, slashes and percent signs included,
as long as all of it was carried into the path. That fails for the two names of places and for ids
with tabs or line breaks in them: they lead to another board, or to none.

## Main definitions

* `Url.Address.LeadsTo`: a relay reads the id of a board from the end of a path.

## Main results

* `Url.Address.leadsTo_iff`: an address leads to the id that was pushed if all of it was carried.
* `Url.Address.pathChars_eq_iff`: paths that differ in a name are the same if it carries the same.
* `Settings.leadsTo_of_address`: both for the two addresses of a board.
-/

namespace LiveBoard

open Url

namespace Url.Address

variable {base : Address} {route : String → Route} {p q last board : String}

/-! ### Boards at the end of paths -/

/-- The path of an address ends in some names, a segment that a relay reads as the id of a board,
and a last name. Where nothing stands before that, the address leads to the board at a relay. -/
def LeadsTo (a : Address) (route : String → Route) (parents : List String) (board last : String) :
    Prop :=
  ∃ before segment,
    splitOn '/' a.pathChars = before ++ (parents.map String.toList ++ [segment, last.toList]) ∧
    Route.decodeSegment? (String.ofList segment) = some board ∧
    (before = [[]] → (Route.ofPath? a.pathChars).map Route.decoded = some (route board))

/-- If the segment behind the last two names is read as the name that was placed, then all of the
name was carried. -/
theorem carried_of_placed_eq {front before parents : List (List Char)} {p q segment : List Char}
    (hpq : p ≠ q) (h : front ++ placed (parents ++ [p, q]) board =
      before ++ (parents ++ [p, q] ++ [segment]))
    (hread : Route.decodeSegment? (String.ofList segment) = some board) :
    carried board = some board.toList := by
  have hroot : parents ++ [p, q] ≠ [[]] := ne_root_of_length (by simp)
  -- where the name was left out or took a step upwards, its place is that of the name before it
  have hparent : ∀ x,
      front ++ (parents ++ [p, x]) ≠ before ++ (parents ++ [p, q] ++ [segment]) := by
    intro x hx
    have hends : (front ++ parents) ++ [p, x] = (before ++ parents ++ [p]) ++ [q, segment] := by
      simpa using hx
    obtain ⟨-, hends⟩ := List.append_inj' hends rfl
    exact hpq (List.cons.inj hends).1
  rcases placed_cases hroot board with
    ⟨-, hplaced⟩ | ⟨hcarried, hplaced⟩ | ⟨-, hplaced⟩ | ⟨cs, hcarried, hplaced⟩
  · rw [hplaced] at h
    exact absurd h (hparent q)
  · simp only [hplaced, ← List.append_assoc] at h
    obtain ⟨-, hsegment⟩ := List.append_inj' h rfl
    obtain rfl := (List.cons.inj hsegment).1
    have hempty := Route.decodeSegment?_percentEncode []
    obtain rfl : "" = board := Option.some.inj (hempty.symm.trans hread)
    exact absurd hcarried (by decide)
  · have hdrop : (parents ++ [p, q]).dropLast ++ [[]] = parents ++ [p, []] := by
      rw [List.dropLast_append_of_ne_nil (List.cons_ne_nil _ _), List.append_assoc]
      rfl
    rw [hplaced, hdrop] at h
    exact absurd h (hparent [])
  · simp only [hplaced, ← List.append_assoc] at h
    obtain ⟨-, hsegment⟩ := List.append_inj' h rfl
    obtain rfl := (List.cons.inj hsegment).1
    rw [Route.decodeSegment?_percentEncode] at hread
    rw [hcarried, ← Option.some.inj hread, String.toList_ofList]

/-- **An address leads to the board** whose id was pushed if all of the id was carried, and not
otherwise. -/
theorem leadsTo_iff {a : Address} (first : List String)
    (hparents : ∀ name ∈ first ++ [p, q], IsLiteral name) (hpq : p ≠ q) (hlast : IsLiteral last)
    (hpath : a.pathChars = (base.pushSegments (first ++ [p, q] ++ [board, last])).pathChars)
    (hroute : ∀ segment, (Route.ofSegments? ("" :: (first ++ [p, q] ++ [segment, last]))).map
      Route.decoded = some (route (Route.decoded.text segment))) :
    a.LeadsTo route (first ++ [p, q]) board last ↔ carried board = some board.toList := by
  have hmap : (first ++ [p, q]).map String.toList =
      first.map String.toList ++ [p.toList, q.toList] := by simp
  have hsplit := splitOn_pathChars hparents (by simp) hlast base board
  rw [← hpath, hmap] at hsplit
  generalize splitOn '/' ((trunk base.path).flatMap ('/' :: ·)) = front at hsplit
  constructor
  · rintro ⟨before, segment, heq, hread, -⟩
    rw [hsplit, hmap] at heq
    have hplaced : front ++ placed (first.map String.toList ++ [p.toList, q.toList]) board =
        before ++ (first.map String.toList ++ [p.toList, q.toList] ++ [segment]) :=
      List.append_cancel_right (by simpa using heq)
    exact carried_of_placed_eq (fun heq => hpq (String.toList_injective heq)) hplaced hread
  · intro hcarried
    have hread := Route.decodeSegment?_percentEncode board.toList
    rw [String.ofList_toList] at hread
    rw [placed_of_carried (ne_root_of_length (by simp)) hcarried] at hsplit
    refine ⟨front, percentEncode inSegment board.toList, ?_, hread, ?_⟩
    · rw [hsplit, hmap]
      simp
    · rintro rfl
      have htext : Route.decoded.text (String.ofList (percentEncode inSegment board.toList)) =
          board := by rw [Route.decoded.text, hread, Option.getD_some]
      have hroute := hroute (String.ofList (percentEncode inSegment board.toList))
      rw [htext] at hroute
      rw [Route.ofPath?, hsplit, ← hroute]
      congr 2
      simp [Function.comp_def]

/-! ### Addresses that differ in a board -/

/-- Names that are placed alike carry the same into a path, unless they carry nothing but an empty
text. -/
theorem carried_eq_of_placed_eq {parents : List (List Char)} {q : List Char}
    (hlength : 2 ≤ (parents ++ [q]).length) (hq : q ≠ []) {name name' : String}
    (hname : carried name ≠ some []) (hname' : carried name' ≠ some [])
    (h : placed (parents ++ [q]) name = placed (parents ++ [q]) name') :
    carried name = carried name' := by
  have hroot := ne_root_of_length hlength
  have hdrop : (parents ++ [q]).dropLast = parents := List.dropLast_concat
  have hempty : ∀ {cs}, percentEncode inSegment cs = [] → cs = [] := fun h =>
    percentEncode_injective inSegment_percent (h : _ = percentEncode inSegment [])
  have hlen := congrArg List.length h
  have hlast := congrArg List.getLast? h
  -- the length of the path and its last segment tell apart what becomes of it
  rcases placed_cases hroot name with ⟨hc, hp⟩ | ⟨hc, hp⟩ | ⟨hc, hp⟩ | ⟨cs, hc, hp⟩ <;>
    rcases placed_cases hroot name' with ⟨hc', hp'⟩ | ⟨hc', hp'⟩ | ⟨hc', hp'⟩ | ⟨cs', hc', hp'⟩ <;>
    rw [hc, hc'] <;> rw [hp, hp'] at hlen hlast <;> simp [hdrop] at hlen hlast
  case inl.inr.inr.inl => exact absurd hlast hq
  case inr.inr.inl.inl => exact absurd hlast hq
  case inr.inl.inr.inr.inr => exact absurd (hempty hlast ▸ hc') hname'
  case inr.inr.inr.inr.inl => exact absurd (hempty hlast ▸ hc) hname
  case inr.inr.inr.inr.inr.inr => rw [percentEncode_injective inSegment_percent hlast]

theorem placed_congr {name name' : String} (h : carried name = carried name')
    (path : List (List Char)) : placed path name = placed path name' := by
  rw [placed, placed, h]

/-- **Addresses that differ in a name** are the same if they carry the same. -/
theorem pathChars_eq_iff {name name' : String} (first : List String)
    (hparents : ∀ name ∈ first ++ [p, q], IsLiteral name) (hlast : IsLiteral last)
    (hname : carried name ≠ some []) (hname' : carried name' ≠ some []) :
    (base.pushSegments (first ++ [p, q] ++ [name, last])).pathChars =
        (base.pushSegments (first ++ [p, q] ++ [name', last])).pathChars ↔
      carried name = carried name' := by
  constructor
  · intro h
    have hq : q.toList ≠ [] := fun heq =>
      (hparents q (by simp)).ne_empty (String.toList_injective (heq : q.toList = "".toList))
    have hsplit := splitOn_pathChars hparents (by simp) hlast base name
    rw [h, splitOn_pathChars hparents (by simp) hlast base name'] at hsplit
    have hplaced := List.append_cancel_right (List.append_cancel_left hsplit)
    have hmap : (first ++ [p, q]).map String.toList =
        (first.map String.toList ++ [p.toList]) ++ [q.toList] := by simp
    rw [hmap] at hplaced
    exact (carried_eq_of_placed_eq (by simp) hq hname' hname hplaced).symm
  · intro h
    simp only [pushSegments_eq, pathChars, List.foldl_append, List.foldl_cons, placed_congr h]

theorem exists_pushSegments (a : Address) (names names' : List String) :
    ∃ path, a.pushSegments names' = { a.pushSegments names with path } := by
  rw [pushSegments_eq, pushSegments_eq]
  exact ⟨_, rfl⟩

/-- The text of an address shows its path. -/
theorem print_eq_iff {a a' : Address} (h : ∃ path, a' = { a with path }) :
    a.print = a'.print ↔ a.pathChars = a'.pathChars := by
  obtain ⟨path, rfl⟩ := h
  constructor
  · intro h
    have hchars : a.chars = { a with path }.chars := String.ofList_injective h
    simpa [chars, target, authority, pathChars] using hchars
  · intro h
    simp only [print, chars, target, authority, h]

end Url.Address

/-! ### The addresses of a board -/

namespace Settings

variable {s : Settings} {a : Address}

/-- Something of an id that is not blank is carried. -/
theorem carried_ne_nil {id : String} (h : Text.isBlankText id = false) : carried id ≠ some [] := by
  rw [carried]
  split
  · exact fun heq => by cases heq
  · intro heq
    have hall : ∀ c ∈ id.toList, isPassedOver c = true := by
      simpa [List.filter_eq_nil_iff] using Option.some.inj heq
    have hblank : Text.isBlankText id = true := by
      rw [Text.isBlankText, List.all_eq_true]
      intro c hc
      have hpassed : (c = '\t' ∨ c = '\n') ∨ c = '\r' := by
        simpa [isPassedOver] using hall c hc
      rcases hpassed with (rfl | rfl) | rfl <;> decide
    rw [h] at hblank
    cases hblank

theorem isBlankText_of_requireBoard (h : s.requireBoard = .ok ()) :
    Text.isBlankText s.boardId = false := by
  rw [requireBoard] at h
  split at h
  · cases h
  · next hblank => exact Bool.eq_false_iff.mpr hblank

theorem socketAddress_eq_ok (h : s.socketAddress = .ok a) :
    Text.isBlankText s.boardId = false ∧ ∃ token text base, s.bearerToken = some token ∧
      s.socketBase = .ok text ∧ s.webAddress text = .ok base ∧
      a = (base.popIfEmpty.pushSegments ["ws", "board", s.boardId, "sync"]).withField "token"
        token := by
  rw [socketAddress] at h
  split at h
  · cases h
  · next token htoken =>
    obtain ⟨⟨⟩, hboard, h⟩ := Json.bind_eq_ok h
    obtain ⟨text, htext, h⟩ := Json.bind_eq_ok h
    obtain ⟨base, hbase, h⟩ := Json.bind_eq_ok h
    cases h
    exact ⟨isBlankText_of_requireBoard hboard, token, text, base, htoken, htext, hbase, rfl⟩

theorem tasksAddress_eq_ok (h : s.tasksAddress = .ok a) :
    Text.isBlankText s.boardId = false ∧ ∃ base, s.webAddress (Text.trim s.apiUrl) = .ok base ∧
      a = base.popIfEmpty.pushSegments ["api", "v1", "boards", s.boardId, "tasks"] := by
  obtain ⟨⟨⟩, hboard, h⟩ := Json.bind_eq_ok h
  obtain ⟨base, hbase, h⟩ := Json.bind_eq_ok h
  split at h
  · cases h
    exact ⟨isBlankText_of_requireBoard hboard, base, hbase, rfl⟩
  · cases h

/-- The address of the relay does not depend on the board. -/
theorem webAddress_board (s : Settings) (boardId text : String) :
    { s with boardId }.webAddress text = s.webAddress text := by
  rw [webAddress, webAddress]

theorem isLiteral_socket : ∀ name ∈ ["ws", "board"], IsLiteral name := by decide

theorem isLiteral_tasks : ∀ name ∈ ["api", "v1", "boards"], IsLiteral name := by decide

theorem leadsTo_socketAddress (h : s.socketAddress = .ok a) :
    a.LeadsTo .sync ["ws", "board"] s.boardId "sync" ↔
      carried s.boardId = some s.boardId.toList := by
  obtain ⟨-, token, text, base, -, -, -, rfl⟩ := socketAddress_eq_ok h
  exact Address.leadsTo_iff [] isLiteral_socket (by decide) (by decide) rfl
    fun _ => rfl

theorem leadsTo_tasksAddress (h : s.tasksAddress = .ok a) :
    a.LeadsTo .tasks ["api", "v1", "boards"] s.boardId "tasks" ↔
      carried s.boardId = some s.boardId.toList := by
  obtain ⟨-, base, -, rfl⟩ := tasksAddress_eq_ok h
  exact Address.leadsTo_iff ["api"] isLiteral_tasks (by decide) (by decide) rfl
    fun _ => rfl

/-- The sockets of two boards have the same address if their ids carry the same. -/
theorem print_socketAddress_eq_iff {boardId : String} {a' : Address}
    (h : s.socketAddress = .ok a) (h' : { s with boardId }.socketAddress = .ok a') :
    a.print = a'.print ↔ carried s.boardId = carried boardId := by
  obtain ⟨hboard, token, text, base, htoken, htext, hbase, rfl⟩ := socketAddress_eq_ok h
  obtain ⟨hboard', token', text', base', htoken', htext', hbase', rfl⟩ := socketAddress_eq_ok h'
  obtain rfl : token = token' := Option.some.inj (htoken.symm.trans htoken')
  obtain rfl : text = text' := Except.ok.inj (htext.symm.trans htext')
  rw [webAddress_board, hbase] at hbase'
  obtain rfl := Except.ok.inj hbase'
  obtain ⟨path, hpath⟩ := base.popIfEmpty.exists_pushSegments ["ws", "board", s.boardId, "sync"]
    ["ws", "board", boardId, "sync"]
  refine (Address.print_eq_iff ⟨path, by rw [hpath]; rfl⟩).trans ?_
  exact Address.pathChars_eq_iff [] isLiteral_socket (show IsLiteral "sync" by decide)
    (carried_ne_nil hboard) (carried_ne_nil hboard')

/-- The tasks of two boards have the same address if their ids carry the same. -/
theorem print_tasksAddress_eq_iff {boardId : String} {a' : Address}
    (h : s.tasksAddress = .ok a) (h' : { s with boardId }.tasksAddress = .ok a') :
    a.print = a'.print ↔ carried s.boardId = carried boardId := by
  obtain ⟨hboard, base, hbase, rfl⟩ := tasksAddress_eq_ok h
  obtain ⟨hboard', base', hbase', rfl⟩ := tasksAddress_eq_ok h'
  rw [webAddress_board, hbase] at hbase'
  obtain rfl := Except.ok.inj hbase'
  refine (Address.print_eq_iff (base.popIfEmpty.exists_pushSegments _ _)).trans ?_
  exact Address.pathChars_eq_iff ["api"] isLiteral_tasks (show IsLiteral "tasks" by decide)
    (carried_ne_nil hboard) (carried_ne_nil hboard')

/-- **The board of an address.** Both addresses of a board lead to the board whose id is configured
exactly if the id is none of the two names of places and has no tab or line break in it. Of two
settings that differ only in the id of the board, the addresses are the same exactly if the same is
left of the ids in a path. -/
theorem leadsTo_of_address (s : Settings) :
    (∀ a, s.socketAddress = .ok a →
      (a.LeadsTo .sync ["ws", "board"] s.boardId "sync" ↔
        s.boardId ≠ "." ∧ s.boardId ≠ ".." ∧ ∀ c ∈ s.boardId.toList, isPassedOver c = false)) ∧
    (∀ a, s.tasksAddress = .ok a →
      (a.LeadsTo .tasks ["api", "v1", "boards"] s.boardId "tasks" ↔
        s.boardId ≠ "." ∧ s.boardId ≠ ".." ∧ ∀ c ∈ s.boardId.toList, isPassedOver c = false)) ∧
    ∀ boardId,
      (∀ a a', s.socketAddress = .ok a → { s with boardId }.socketAddress = .ok a' →
        (a.print = a'.print ↔ carried s.boardId = carried boardId)) ∧
      ∀ a a', s.tasksAddress = .ok a → { s with boardId }.tasksAddress = .ok a' →
        (a.print = a'.print ↔ carried s.boardId = carried boardId) := by
  refine ⟨fun a h => ?_, fun a h => ?_, fun boardId => ⟨fun a a' h h' => ?_, fun a a' h h' => ?_⟩⟩
  · exact (leadsTo_socketAddress h).trans carried_eq_some_iff
  · exact (leadsTo_tasksAddress h).trans carried_eq_some_iff
  · exact print_socketAddress_eq_iff h h'
  · exact print_tasksAddress_eq_iff h h'

/-- An id with slashes, percent signs, blanks and letters beyond ASCII, at a relay with a path of
its own. -/
theorem leadsTo_of_address_of_slashes :
    let s : Settings := { standard with
      apiUrl := "https://[::1]/base/", boardId := " ../a%2Fb\u00e9\u2028?#.", token := some "t" }
    (∃ a, s.socketAddress = .ok a ∧ a.LeadsTo .sync ["ws", "board"] s.boardId "sync") ∧
      ∃ a, s.tasksAddress = .ok a ∧ a.LeadsTo .tasks ["api", "v1", "boards"] s.boardId "tasks" := by
  intro s
  have hplain : s.boardId ≠ "." ∧ s.boardId ≠ ".." ∧
      ∀ c ∈ s.boardId.toList, isPassedOver c = false :=
    carried_eq_some_iff.mp (by decide +kernel)
  have hsocket : s.socketAddress.isOk = true := by decide +kernel
  have htasks : s.tasksAddress.isOk = true := by decide +kernel
  obtain ⟨hleads, hleads', -⟩ := leadsTo_of_address s
  constructor
  · cases h : s.socketAddress with
    | error e =>
      rw [h] at hsocket
      cases hsocket
    | ok a => exact ⟨a, rfl, (hleads a h).mpr hplain⟩
  · cases h : s.tasksAddress with
    | error e =>
      rw [h] at htasks
      cases htasks
    | ok a => exact ⟨a, rfl, (hleads' a h).mpr hplain⟩

/-- An id with a tab in it has the addresses of another board. -/
theorem address_eq_of_tab :
    let s : Settings :=
      { standard with apiUrl := "http://[::1]:8000", boardId := "a\tb", token := some "t" }
    let s' : Settings := { s with boardId := "ab" }
    s.socketAddress.map Address.print = .ok "ws://[::1]:8000/ws/board/ab/sync?token=t" ∧
      s'.socketAddress = s.socketAddress ∧
      s.tasksAddress.map Address.print = .ok "http://[::1]:8000/api/v1/boards/ab/tasks" ∧
      s'.tasksAddress = s.tasksAddress ∧
      Route.ofPath? "/ws/board/ab/sync".toList = some (.sync "ab") := by
  decide +kernel

end Settings

end LiveBoard
