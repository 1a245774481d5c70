import LiveBoard.Connection.Transport
import LiveBoard.Proofs.Url.Percent
import LiveBoard.Relay.Socket

/-!
# Strangers

A stranger is somebody without an accepted token. Whatever a stranger asks of the resources that
are for members, the answer is made of the request alone: it is the same at every relay that accepts
the same tokens, whatever boards and tasks are there, and the relay stays as it was. A socket of a
stranger is closed before anything is said on it.

## Main definitions

* `Saying`, `SyncSocket.converse`: what a client says on a socket, and what it is sent meanwhile.
* `Relay.connect`: a connection from the request for a socket to its end.

## Main results

* `Relay.isAuthorized_congr`: who is a stranger depends on nothing but the accepted tokens.
* `Relay.respond_of_respondAt`: a request is answered by the resource that it is led to.
* `Relay.connect_of_stranger`: a socket of a stranger is closed at once.
* `Relay.strangers_learn_nothing`: no answer to a stranger depends on the boards.
-/

namespace LiveBoard

open Http

/-! ### Connections -/

/-- What a client says on its socket, with the id of what it makes and the time. -/
structure Saying where
  frame : Frame
  id : String
  now : String

/-- What a client is sent on a socket on which it says one thing after the other. It is sent
everything that there is before it speaks, and at last. Only texts are heard, and a socket that has
come to its end is left. -/
def SyncSocket.converse (now : String) :
    List Saying → Relay → SyncSocket → List ServerMessage × Relay
  | [], r, s =>
    let (ms, s, r) := s.flush now r
    (ms, r.leave s.receiver)
  | ⟨.text text, id, time⟩ :: sayings, r, s =>
    let (ms, s, r) := s.flush time r
    let (s, r) := s.hear text id time r
    let (more, r) := converse now sayings r s
    (ms ++ more, r)
  | ⟨.other, _, _⟩ :: sayings, r, s => converse now sayings r s
  | ⟨.close _, _, _⟩ :: _, r, s => ([], r.leave s.receiver)
  | ⟨.failed, _, _⟩ :: _, r, s => ([], r.leave s.receiver)
  | ⟨.ended, _, _⟩ :: _, r, s => ([], r.leave s.receiver)

/-- What comes back on a connection. -/
inductive Outcome
  /-- There is no socket: the request is refused with a status. -/
  | refused (status : UInt16)
  /-- The socket is closed at once. -/
  | closed (code : UInt16) (reason : String)
  /-- The frames that the client is sent. -/
  | sent (ms : List ServerMessage)

namespace Relay

variable {r r' : Relay} {q : Request}

/-- The request for a socket. -/
def socketRequest (target : String) : Request := ⟨"GET", target, [], ""⟩

/-- A connection of a client, from the request for a socket to its end. -/
def connect (target client now : String) (sayings : List Saying) (r : Relay) : Outcome × Relay :=
  match r.accept target client now with
  | .refused status => (.refused status, r)
  | .closed code reason => (.closed code reason, r)
  | .joined socket r =>
    let (ms, r) := socket.converse now sayings r
    (.sent ms, r)

/-! ### Who is a stranger -/

/-- Who is a stranger depends on nothing but the accepted tokens. -/
theorem isAuthorized_congr (h : ∀ t, t ∈ r.tokens ↔ t ∈ r'.tokens) (token : Option String) :
    r.isAuthorized token = r'.isAuthorized token := by
  have hempty : r.tokens.isEmpty = r'.tokens.isEmpty := by
    rw [Bool.eq_iff_iff, List.isEmpty_iff, List.isEmpty_iff, List.eq_nil_iff_forall_not_mem,
      List.eq_nil_iff_forall_not_mem]
    exact forall_congr' fun t => not_congr (h t)
  have hcontains : ∀ t, r.tokens.contains t = r'.tokens.contains t := by
    intro t
    rw [Bool.eq_iff_iff, List.contains_iff_mem, List.contains_iff_mem]
    exact h t
  simp only [isAuthorized, hempty, hcontains]

/-! ### Requests -/

/-- A request is answered by the resource that it is led to. Where two relays answer alike there
and stay as they are, they answer the request alike and stay as they are. -/
theorem respond_of_respondAt {id now id' now' : String}
    (h : ∀ route, Route.ofPath? q.path = some route → ∃ response,
      r.respondAt route.decoded q id now = (response, r) ∧
      r'.respondAt route.decoded q id' now' = (response, r')) :
    ∃ response, r.respond q id now = (response, r) ∧ r'.respond q id' now' = (response, r') := by
  simp only [respond]
  split
  · exact ⟨_, rfl, rfl⟩
  · cases hroute : Route.ofPath? q.path with
    | none => exact ⟨_, rfl, rfl⟩
    | some route =>
      dsimp only
      split
      · exact ⟨_, rfl, rfl⟩
      · obtain ⟨response, hr, hr'⟩ := h route hroute
        cases (if isSync route then none else route.badPart?) with
        | some part => exact ⟨_, rfl, rfl⟩
        | none =>
          rw [hr, hr']
          exact ⟨_, rfl, rfl⟩

/-- What a resource answers to a stranger does not depend on what the relay holds. Only where
messages are passed on nobody asks for a token. -/
theorem respondAt_of_stranger (hr : r.isAuthorized (requestToken q) = false)
    (hr' : r'.isAuthorized (requestToken q) = false) {route : Route}
    (hroute : ∀ board, route ≠ .notify board) (id now id' now' : String) :
    ∃ response, r.respondAt route q id now = (response, r) ∧
      r'.respondAt route q id' now' = (response, r') := by
  cases route with
  | tasks board => exact ⟨refusal, by simp [respondAt, listTasks, hr], by
      simp [respondAt, listTasks, hr']⟩
  | task board task => exact ⟨refusal, by simp [respondAt, removeTask, hr], by
      simp [respondAt, removeTask, hr']⟩
  | suggestions board =>
    simp only [respondAt, suggest]
    -- a body that cannot be read is refused before the token is looked at
    cases requestBody SuggestionRequest.shape.decoder q with
    | error response => exact ⟨response, rfl, rfl⟩
    | ok wanted => exact ⟨refusal, by simp [hr], by simp [hr']⟩
  | sync board => exact ⟨refuseSocket q, rfl, rfl⟩
  | notify board => exact absurd rfl (hroute board)

/-- The resources of the public interface are for members: messages are not passed on there. -/
theorem ofPath?_ne_notify {path : List Char} (h : "/api/v1/".toList <+: path) (board : String) :
    Route.ofPath? path ≠ some (.notify board) := by
  obtain ⟨rest, rfl⟩ := h
  have hsplit : Url.splitOn '/' ("/api/v1/".toList ++ rest) =
      [[], "api".toList, "v1".toList] ++ Url.splitOn '/' rest :=
    Url.splitOn_append "/api/v1".toList rest
  rw [Route.ofPath?, hsplit]
  intro hroute
  simp only [List.cons_append, List.map_cons, Route.ofSegments?] at hroute
  split at hroute <;> simp_all

theorem decoded_ne_notify {route : Route} (h : ∀ board, route ≠ .notify board) (board : String) :
    route.decoded ≠ .notify board := by
  cases route with
  | notify b => exact absurd rfl (h b)
  | _ => exact fun heq => by cases heq

/-! ### Sockets -/

/-- **A socket of a stranger** is closed at once, whatever the stranger has to say on it. -/
theorem connect_of_stranger {target segment : String}
    (hroute : Route.ofPath? (socketRequest target).path = some (.sync segment))
    (htoken : ∀ token, queryToken (socketRequest target).query = some token →
      r.isAuthorized token = false) (client now : String) (sayings : List Saying) :
    r.connect target client now sayings =
      (if (Route.decodeSegment? segment).isSome ∧
          (queryToken (socketRequest target).query).isSome then
        .closed CloseCode.unauthorized.code "unauthorized"
      else .refused 400, r) := by
  have hpath : Route.ofPath? (Request.path ⟨"GET", target, [], ""⟩) = some (.sync segment) :=
    hroute
  simp only [connect, accept, hpath]
  cases Route.decodeSegment? segment with
  | none => rfl
  | some board =>
    cases hquery : queryToken (socketRequest target).query with
    | none =>
      have hquery : queryToken (Request.query ⟨"GET", target, [], ""⟩) = none := hquery
      simp [hquery]
    | some token =>
      have hquery' : queryToken (Request.query ⟨"GET", target, [], ""⟩) = some token := hquery
      simp [hquery', welcome, join, htoken token hquery]

/-- **Strangers learn nothing.** Two relays accept the same tokens and hold whatever boards. To a
request for any resource of the public interface without an accepted token both answer the same and
stay as they are. A socket that is asked for without an accepted token is the same at both, closed
with the code for strangers if there is one at all, whatever is said on it, and both stay as they
are. Ids and times do not matter. -/
theorem strangers_learn_nothing (htokens : ∀ t, t ∈ r.tokens ↔ t ∈ r'.tokens) :
    (∀ (q : Request) (id now id' now' : String), "/api/v1/".toList <+: q.path →
      r.isAuthorized (requestToken q) = false →
      ∃ response, r.respond q id now = (response, r) ∧ r'.respond q id' now' = (response, r')) ∧
    ∀ target segment, Route.ofPath? (socketRequest target).path = some (.sync segment) →
      (∀ token, queryToken (socketRequest target).query = some token →
        r.isAuthorized token = false) →
      ∃ outcome, (outcome = .refused 400 ∨ outcome = .closed 4001 "unauthorized") ∧
        ∀ (client now client' now' : String) (sayings sayings' : List Saying),
          r.connect target client now sayings = (outcome, r) ∧
          r'.connect target client' now' sayings' = (outcome, r') := by
  constructor
  · intro q id now id' now' hpath hstranger
    have hstranger' : r'.isAuthorized (requestToken q) = false := by
      rw [← isAuthorized_congr htokens, hstranger]
    refine respond_of_respondAt fun route hroute => ?_
    have hmembers : ∀ board, route ≠ .notify board := by
      rintro board rfl
      exact ofPath?_ne_notify hpath board hroute
    exact respondAt_of_stranger hstranger hstranger' (decoded_ne_notify hmembers) id now id' now'
  · intro target segment hroute hstranger
    have hstranger' : ∀ token, queryToken (socketRequest target).query = some token →
        r'.isAuthorized token = false := by
      intro token htoken
      rw [← isAuthorized_congr htokens, hstranger token htoken]
    refine ⟨_, ?_, fun client now client' now' sayings sayings' =>
      ⟨connect_of_stranger hroute hstranger client now sayings,
        connect_of_stranger hroute hstranger' client' now' sayings'⟩⟩
    split
    · exact .inr rfl
    · exact .inl rfl

/-- A guess at a token, at a relay with a task and at one without boards: a request to delete the
task, and a socket on which a move of it is sent. -/
theorem strangers_learn_nothing_of_guess :
    let task := newTask "b" "Plan" .inbox none none "1" "t0"
    let r : Relay := ⟨["k", "l"], [("b", ⟨[task], [(0, .empty)]⟩)], 1⟩
    let r' : Relay := ⟨["l", "k", "l"], [], 0⟩
    let q : Request := ⟨"DELETE", "/api/v1/boards/b/tasks/1", [("Authorization", "Bearer m")], ""⟩
    let sayings : List Saying := [⟨.text (ClientMessage.taskMove "1" .done).encode, "2", "t1"⟩]
    (∀ t, t ∈ r.tokens ↔ t ∈ r'.tokens) ∧
      (∃ response, r.respond q "2" "t1" = (response, r) ∧ r'.respond q "3" "t2" = (response, r')) ∧
      ∃ outcome, r.connect "/ws/board/b/sync?token=m" "ws" "t0" sayings = (outcome, r) ∧
        r'.connect "/ws/board/b/sync?token=m" "ws" "t0" sayings = (outcome, r') := by
  intro task r r' q sayings
  have htokens : ∀ t, t ∈ r.tokens ↔ t ∈ r'.tokens := by
    intro t
    simp only [r, r', List.mem_cons, List.not_mem_nil, or_false]
    grind
  have hpath : "/api/v1/".toList <+: q.path := by decide +kernel
  have hstranger : r.isAuthorized (requestToken q) = false := by decide +kernel
  have hroute : Route.ofPath? (socketRequest "/ws/board/b/sync?token=m").path =
      some (.sync "b") := by decide +kernel
  have hquery : queryToken (socketRequest "/ws/board/b/sync?token=m").query = some (some "m") := by
    decide +kernel
  have htoken : ∀ token, queryToken (socketRequest "/ws/board/b/sync?token=m").query = some token →
      r.isAuthorized token = false := by
    intro token heq
    rw [hquery] at heq
    cases heq
    decide +kernel
  obtain ⟨hrequests, hsockets⟩ := strangers_learn_nothing htokens
  obtain ⟨outcome, -, hconnect⟩ := hsockets _ _ hroute htoken
  exact ⟨htokens, hrequests q "2" "t1" "3" "t2" hpath hstranger,
    outcome, hconnect "ws" "t0" "ws" "t0" sayings sayings⟩

end Relay

end LiveBoard
