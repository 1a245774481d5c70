import LiveBoard.Proofs.Relay.Published
import LiveBoard.Proofs.Relay.Stranger
import LiveBoard.Proofs.Settings.Addresses
import LiveBoard.Proofs.Url.Authority
import LiveBoard.Proofs.Url.Form
import LiveBoard.Session.Fetch

/-!
# One token on two ways

A client presents its token in the query of its socket, and in a header of its requests. In the
query the token is written as a form writes it, and any text is read back from there. A header is
read as text only if it is made of visible ASCII characters, spaces and tabs; with any other
character in it the request has no token at all, although a client may send such a header.

So the two ways agree about the tokens of such characters, and a client whose socket is accepted
lists the tasks of its board with the same token. Any other token that is accepted for sockets is
refused for requests.

## Main definitions

* `Relay.Presents`: the target of a socket for which a token is presented.

## Main results

* `Relay.requestToken_eq`: the token of a request.
* `Relay.isAuthorized_of_respond`: only a request without an accepted token is refused for it.
* `Settings.queryToken_socketAddress`: a relay reads the token of the settings.
* `Relay.one_verdict`: when the two ways agree.
-/

namespace LiveBoard

open Http Json

namespace Relay

variable {r : Relay} {q : Request} {token target : String}

/-! ### Requests -/

/-- A header is read as text as a whole or not at all. -/
theorem requestToken_eq (h : q.header? "authorization" = some ("Bearer " ++ token)) :
    requestToken q = if token.toList.all isHeaderText then some token else none := by
  have hstart : "Bearer ".toList.all isHeaderText = true := by decide
  have hall : ("Bearer " ++ token).toList.all isHeaderText = token.toList.all isHeaderText := by
    rw [String.toList_append, List.all_append, hstart, Bool.true_and]
  have hprefix : "Bearer ".toList.isPrefixOf ("Bearer " ++ token).toList = true := by
    rw [String.toList_append]
    exact List.isPrefixOf_iff_prefix.mpr (List.prefix_append _ _)
  have hrest : ("Bearer " ++ token).toList.drop 7 = token.toList := by
    rw [String.toList_append]
    exact List.drop_left' (by decide)
  rw [requestToken, Request.headerText?, h, Option.filter_some, hall]
  split
  · rw [Option.bind_some, if_pos hprefix, hrest, String.ofList_toList]
  · rfl

/-- A request passes exactly with an accepted token that its header can be read with. -/
theorem isAuthorized_requestToken_iff
    (h : q.header? "authorization" = some ("Bearer " ++ token)) :
    r.isAuthorized (requestToken q) = true ↔
      r.isAuthorized (some token) = true ∧ token.toList.all isHeaderText = true := by
  have hnone : r.isAuthorized none = false := rfl
  rw [requestToken_eq h]
  cases token.toList.all isHeaderText <;> simp [hnone]

theorem isAuthorized_of_respondAt {route : Route} {id now : String}
    (h : (r.respondAt route q id now).1.status = 401) :
    r.isAuthorized (requestToken q) = false := by
  rw [← Bool.not_eq_true]
  intro hauth
  cases route with
  | tasks board =>
    simp only [respondAt, listTasks, if_pos hauth] at h
    split at h <;> cases h
  | task board task =>
    simp only [respondAt, removeTask, if_pos hauth] at h
    split at h
    · cases h
    · split at h <;> cases h
  | suggestions board =>
    simp only [respondAt, suggest, hauth, Bool.not_true, Bool.false_eq_true, if_false] at h
    split at h
    · next hbody => exact status_requestBody (by decide) hbody h
    · split at h
      · cases h
      · split at h <;> cases h
  | sync board =>
    simp only [respondAt, refuseSocket] at h
    repeat' split at h
    all_goals cases h
  | notify board =>
    simp only [respondAt, notify] at h
    split at h
    · next hbody => exact status_requestBody (by decide) hbody h
    · split at h <;> cases h

/-- **Only a request without an accepted token** is refused for its token. -/
theorem isAuthorized_of_respond {id now : String} (h : (r.respond q id now).1.status = 401) :
    r.isAuthorized (requestToken q) = false := by
  obtain ⟨route, -, -, -, hstatus⟩ := respondAt_of_respond (by decide) h
  exact isAuthorized_of_respondAt hstatus

/-! ### Sockets -/

/-- The target leads to a socket, and the token stands in its query. -/
def Presents (target token : String) : Prop :=
  ∃ segment board, Route.ofPath? (socketRequest target).path = some (.sync segment) ∧
    Route.decodeSegment? segment = some board ∧
    queryToken (socketRequest target).query = some (some token)

theorem welcome_of_not_isAuthorized {board client now : String} {t : Option String}
    (h : r.isAuthorized t = false) :
    r.welcome board t client now = .closed CloseCode.unauthorized.code "unauthorized" := by
  simp [welcome, join, h]

theorem welcome_ne_closed {board client now : String} {t : Option String}
    (h : r.isAuthorized t = true) :
    r.welcome board t client now ≠ .closed CloseCode.unauthorized.code "unauthorized" := by
  rw [welcome, join, if_pos h]
  cases r.room? board with
  | none => simp [CloseCode.code]
  | some room => simp

/-- A socket is asked for the board and with the token that its target names. -/
theorem accept_eq_welcome {segment board : String} {t : Option String}
    (hroute : Route.ofPath? (socketRequest target).path = some (.sync segment))
    (hboard : Route.decodeSegment? segment = some board)
    (hquery : queryToken (socketRequest target).query = some t) (r : Relay) (client now : String) :
    r.accept target client now = r.welcome board t client now := by
  rw [socketRequest] at hroute hquery
  simp only [accept, hroute, hboard, hquery]

/-- A socket that is accepted was asked for by a target that names a board. -/
theorem exists_welcome_of_accept {client now : String} {socket : SyncSocket} {r' : Relay}
    (h : r.accept target client now = .joined socket r') :
    ∃ segment board t, Route.ofPath? (socketRequest target).path = some (.sync segment) ∧
      Route.decodeSegment? segment = some board ∧
      queryToken (socketRequest target).query = some t ∧
      r.welcome board t client now = .joined socket r' := by
  simp only [socketRequest]
  simp only [accept] at h
  split at h
  · next segment hroute =>
    split at h
    · next board t hboard hquery => exact ⟨segment, board, t, hroute, hboard, hquery, h⟩
    · cases h
  · cases h

theorem Presents.exists_accept_eq (h : Presents target token) :
    ∃ board, ∀ client now,
      r.accept target client now = r.welcome board (some token) client now := by
  obtain ⟨segment, board, hroute, hboard, hquery⟩ := h
  exact ⟨board, accept_eq_welcome hroute hboard hquery r⟩

theorem Presents.accept_eq_closed_iff (h : Presents target token) (client now : String) :
    r.accept target client now = .closed CloseCode.unauthorized.code "unauthorized" ↔
      r.isAuthorized (some token) = false := by
  obtain ⟨board, haccept⟩ := h.exists_accept_eq (r := r)
  rw [haccept]
  exact ⟨fun hclosed => Bool.eq_false_iff.mpr fun hauth => welcome_ne_closed hauth hclosed,
    welcome_of_not_isAuthorized⟩

/-- A socket that is accepted was asked for with an accepted token. -/
theorem isAuthorized_of_accept {client now : String} {socket : SyncSocket} {r' : Relay}
    (h : r.accept target client now = .joined socket r')
    (hquery : queryToken (socketRequest target).query = some (some token)) :
    r.isAuthorized (some token) = true := by
  obtain ⟨-, board, t, -, -, hsome, hwelcome⟩ := exists_welcome_of_accept h
  obtain rfl := Option.some.inj (hquery.symm.trans hsome)
  rw [← Bool.not_eq_false]
  intro hauth
  rw [welcome_of_not_isAuthorized hauth] at hwelcome
  cases hwelcome

end Relay

/-- A relay reads the token that stands in a query as its only field. -/
theorem queryToken_field (token : String) :
    queryToken (Url.formEncode "token" ++ '=' :: Url.formEncode token) = some (some token) := by
  rw [queryToken, Url.formPairs_field]
  rfl

/-! ### Settings -/

namespace Settings

open Url

variable {s : Settings} {a : Address} {token : String}

theorem parse_of_webAddress {text : String} (h : s.webAddress text = .ok a) :
    Url.parse text = .ok (.web a) := by
  rw [webAddress] at h
  split at h
  · next hparse => rwa [← Except.ok.inj h]
  · cases h
  · cases h

/-- The query of a socket has the token as its only field. -/
theorem query_socketAddress (h : s.socketAddress = .ok a) (htoken : s.bearerToken = some token) :
    a.query = some (formEncode "token" ++ '=' :: formEncode token) := by
  obtain ⟨-, token', text, base, htoken', -, -, rfl⟩ := socketAddress_eq_ok h
  obtain rfl := Option.some.inj (htoken.symm.trans htoken')
  rfl

/-- Nothing in front of the query cuts the address of a socket. -/
theorem isPlain_socketAddress (h : s.socketAddress = .ok a) : a.IsPlain := by
  obtain ⟨-, token, text, base, -, -, hbase, rfl⟩ := socketAddress_eq_ok h
  exact ((isPlain_of_parse (parse_of_webAddress hbase)).popIfEmpty.pushSegments _).withField _ _

/-- **A relay reads the query of a socket** as it was written. -/
theorem query_socketRequest (h : s.socketAddress = .ok a) (htoken : s.bearerToken = some token) :
    (Relay.socketRequest (String.ofList a.target)).query =
      formEncode "token" ++ '=' :: formEncode token :=
  Address.query_target (isPlain_socketAddress h).path (query_socketAddress h htoken)
    (hash_notMem_field "token" token) _ _ _

/-- **A relay reads the token of the settings**, whatever its characters. -/
theorem queryToken_socketAddress (h : s.socketAddress = .ok a)
    (htoken : s.bearerToken = some token) :
    queryToken (Relay.socketRequest (String.ofList a.target)).query = some (some token) := by
  rw [query_socketRequest h htoken]
  exact queryToken_field token

theorem isHeaderChar_of_isHeaderText {c : Char} (h : isHeaderText c = true) :
    isHeaderChar c = true := by
  simp only [isHeaderText, isHeaderChar, Bool.or_eq_true, Bool.and_eq_true, decide_eq_true_eq]
    at h ⊢
  exact h.imp_right fun hvisible => ⟨hvisible.1, by omega⟩

/-- A token that a header can be read with is sent in one. -/
theorem tasksRequest_eq (htoken : s.bearerToken = some token)
    (htext : token.toList.all isHeaderText = true) (h : s.tasksAddress = .ok a) :
    s.tasksRequest = .ok (a, ⟨"GET", String.ofList a.target,
      [("authorization", "Bearer " ++ token)], ""⟩) := by
  have hchars : token.toList.all isHeaderChar = true :=
    List.all_eq_true.mpr fun c hc => isHeaderChar_of_isHeaderText (List.all_eq_true.mp htext c hc)
  have hheaders : s.tasksHeaders = .ok [("authorization", "Bearer " ++ token)] := by
    simp only [tasksHeaders, htoken, if_pos hchars]
  rw [tasksRequest, h]
  dsimp only
  rw [hheaders]
  rfl

end Settings

/-! ### Both ways -/

namespace Relay

variable {r : Relay} {q : Request}

theorem listTasks_eq_refusal_iff {board : String} :
    r.listTasks board q = refusal ↔ r.isAuthorized (requestToken q) = false := by
  rw [listTasks]
  cases r.isAuthorized (requestToken q) with
  | false => simp
  | true => cases r.tasks? board <;> simp [refusal, noBoard, Response.json, Response.text]

/-- **One token, one verdict**, where a header can be read with the token. A token that is presented
for a socket is refused there exactly if it is not accepted, and a request with the same token
passes exactly if it is not refused for a socket and has no character but visible ones of ASCII,
spaces and tabs. So settings with such a token, with which a socket is accepted, can ask for the
tasks as well, and no relay that accepts the same tokens refuses the request for its token. -/
theorem one_verdict (r : Relay) (token : String) :
    (∀ target client now q, Presents target token →
      q.header? "authorization" = some ("Bearer " ++ token) →
      let passes := r.isAuthorized (requestToken q)
      (passes = true ↔
        r.accept target client now ≠ .closed CloseCode.unauthorized.code "unauthorized" ∧
          token.toList.all isHeaderText = true) ∧
      (∀ board, r.listTasks board q = refusal ↔ passes = false) ∧
      ∀ id now', (r.respond q id now').1.status = 401 → passes = false) ∧
    ∀ (s : Settings) (a b : Url.Address) (client now : String) (socket : SyncSocket)
      (joined : Relay), s.bearerToken = some token → token.toList.all isHeaderText = true →
      s.socketAddress = .ok a → s.tasksAddress = .ok b →
      r.accept (String.ofList a.target) client now = .joined socket joined →
      ∃ q, s.tasksRequest = .ok (b, q) ∧
        ∀ r' id now', r'.tokens = r.tokens → (respond q id now' r').1.status ≠ 401 := by
  constructor
  · intro target client now q hpresents hheader passes
    refine ⟨?_, fun board => listTasks_eq_refusal_iff, fun id now' => isAuthorized_of_respond⟩
    rw [isAuthorized_requestToken_iff hheader, ne_eq, hpresents.accept_eq_closed_iff,
      Bool.not_eq_false]
  · intro s a b client now socket joined htoken htext ha hb haccept
    refine ⟨_, Settings.tasksRequest_eq htoken htext hb, fun r' id now' htokens hstatus => ?_⟩
    have hauth : r.isAuthorized (some token) = true :=
      isAuthorized_of_accept haccept (Settings.queryToken_socketAddress ha htoken)
    have hsame : r'.isAuthorized (some token) = r.isAuthorized (some token) :=
      isAuthorized_congr (by simp [htokens]) _
    have hauth' : r'.isAuthorized (some token) = true := hsame.trans hauth
    have hheader : Request.header?
        ⟨"GET", String.ofList b.target, [("authorization", "Bearer " ++ token)], ""⟩
        "authorization" = some ("Bearer " ++ token) := by
      simp [Request.header?]
    have hpasses := (isAuthorized_requestToken_iff hheader).mpr ⟨hauth', htext⟩
    rw [isAuthorized_of_respond hstatus] at hpasses
    cases hpasses

/-- A token with signs that are escaped in a query, and settings with blanks around it. -/
theorem one_verdict_of_joined :
    let r : Relay := (ofTokens ["l", "k&+ %"]).putBoard "b" [] "t0"
    let target := "/ws/board/b/sync?token=k%26%2B+%25"
    let s : Settings :=
      { Settings.standard with apiUrl := "http://[::1]", boardId := "b", token := some " k&+ %\n" }
    let a : Url.Address :=
      { scheme := "ws", userinfo := none, host := .ipv6 [0, 0, 0, 0, 0, 0, 0, 1], port := none
        path := ["ws".toList, "board".toList, "b".toList, "sync".toList]
        query := some "token=k%26%2B+%25".toList, fragment := none }
    let b : Url.Address :=
      { a with scheme := "http", query := none
               path := ["api".toList, "v1".toList, "boards".toList, "b".toList, "tasks".toList] }
    let q : Request :=
      ⟨"GET", "/api/v1/boards/b/tasks", [("Authorization", "Bearer k&+ %")], ""⟩
    Presents target "k&+ %" ∧ r.isAuthorized (requestToken q) = true ∧
      ∃ q', s.tasksRequest = .ok (b, q') ∧ (r.respond q' "1" "t1").1.status ≠ 401 := by
  intro r target s a b q
  have hpresents : Presents target "k&+ %" := ⟨"b", "b", by decide +kernel⟩
  have hopen : r.accept target "ws" "t0" ≠ .closed CloseCode.unauthorized.code "unauthorized" := by
    decide +kernel
  have htext : "k&+ %".toList.all isHeaderText = true := by decide
  have haccept : r.accept (String.ofList a.target) "ws" "t0" =
      .joined ⟨⟨"b", 0⟩, "ws", [.boardState ⟨[], "t0"⟩]⟩
        ⟨["l", "k&+ %"], [("b", ⟨[], [(0, .empty)]⟩)], 1⟩ := by
    decide +kernel
  obtain ⟨hrequest, hsettings⟩ := one_verdict r "k&+ %"
  obtain ⟨hpasses, -, -⟩ := hrequest target "ws" "t0" q hpresents (by decide +kernel)
  obtain ⟨q', hq', hstatus⟩ := hsettings s a b "ws" "t0" _ _ (by decide +kernel) htext
    (by decide +kernel) (by decide +kernel) haccept
  exact ⟨hpresents, hpasses.mpr ⟨hopen, htext⟩, q', hq', hstatus r "1" "t1" rfl⟩

/-- With a letter beyond ASCII in the only token that is accepted, a client is let in by its socket,
and refused when it asks for the tasks. -/
theorem verdicts_differ_of_accent :
    let r : Relay := (ofTokens ["\u00e9"]).putBoard "b" [] "t0"
    let s : Settings :=
      { Settings.standard with apiUrl := "http://[::1]", boardId := "b", token := some "\u00e9" }
    let target := "/ws/board/b/sync?token=%C3%A9"
    let q : Request := ⟨"GET", "/api/v1/boards/b/tasks", [("authorization", "Bearer \u00e9")], ""⟩
    s.socketAddress.map (fun a => String.ofList a.target) = .ok target ∧
      s.tasksRequest.map (·.2) = .ok q ∧
      queryToken (socketRequest target).query = some (some "\u00e9") ∧
      r.isAuthorized (some "\u00e9") = true ∧
      (∃ socket joined, r.accept target "ws" "t0" = .joined socket joined) ∧
      r.isAuthorized (requestToken q) = false ∧ (r.respond q "1" "t1").1.status = 401 := by
  intro r s target q
  have haccept : r.accept target "ws" "t0" =
      .joined ⟨⟨"b", 0⟩, "ws", [.boardState ⟨[], "t0"⟩]⟩
        ⟨["\u00e9"], [("b", ⟨[], [(0, .empty)]⟩)], 1⟩ := by
    decide +kernel
  have hrefused : r.isAuthorized (requestToken q) = false := by decide +kernel
  exact ⟨by decide +kernel, by decide +kernel, by decide +kernel, by decide +kernel,
    ⟨_, _, haccept⟩, hrefused, by decide +kernel⟩

end Relay

end LiveBoard
