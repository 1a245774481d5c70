import LiveBoard.Proofs.Message.Received
import LiveBoard.Proofs.Relay.Mailbox
import LiveBoard.Relay.Router

/-!
# Suggestions that a relay publishes

A relay that grants a suggestion has read its payload one level deep in the body of a request. The
response has the payload at the same depth, so whoever asked can read back the suggestion that was
made. The frame for the clients has it one level deeper. A payload that uses up all the levels of
the request is granted all the same, and there is no client that can read its frame.

## Main definitions

* `SuggestionRequest.Draft.IsReceived`: what the draft of a request that is read has.
* `Suggestion.payloadDepth`: the levels of a payload.

## Main results

* `SuggestionRequest.isReceived_suggestion`: what a suggestion that was asked for has.
* `ServerMessage.decode_suggestionNew_of_lt_depth`: frames that no client can read.
* `Relay.suggest_of_created`: a suggestion that is granted is posted to the clients of its board.
* `Relay.respond_created`: what becomes of a granted suggestion, at the requester and the clients.
-/

namespace LiveBoard

open Http Json

/-! ### Requests that are read -/

/-- A double that is read where there need not be one is finite. -/
theorem Json.isFinite_of_optional_double {ctx : Context} {n : Node} {x : Float}
    (h : Decoder.optional Decoder.double ctx n = .ok (some x)) : x.isFinite = true := by
  have hne : n ≠ .null := by
    rintro rfl
    cases h
  rw [Decoder.optional_of_ne_null hne] at h
  obtain ⟨y, hy, hx⟩ := map_eq_ok h
  cases hx
  exact isFinite_of_double hy

namespace SuggestionRequest

/-- What the draft of a request that is read has. -/
structure Draft.IsReceived (room : Nat) (d : Draft) : Prop where
  confidence : ∀ x, d.confidence = some (some x) → x.isFinite = true
  payload : ∀ v, d.payload = some (some v) → v ≠ .null ∧ v.IsSound ∧ v.depth ≤ room

theorem Draft.isReceived_fill {inner : Context} {slot : Slot Draft} (hslot : slot ∈ shape.slots)
    {n : Node} {d d' : Draft} (hd : d.IsReceived inner.room)
    (h : slot.fill inner n d = .ok d') : d'.IsReceived inner.room := by
  simp only [shape, List.mem_cons, List.not_mem_nil, or_false] at hslot
  obtain rfl | rfl | rfl | rfl | rfl | rfl := hslot <;> obtain ⟨a, ha, rfl⟩ := map_eq_ok h
  case inr.inr.inr.inr.inl =>
    refine ⟨?_, hd.payload⟩
    rintro x ⟨⟩
    exact isFinite_of_optional_double ha
  case inr.inr.inr.inr.inr =>
    refine ⟨hd.confidence, ?_⟩
    rintro v ⟨⟩
    exact isSound_of_optional_kept ha
  all_goals exact ⟨hd.confidence, hd.payload⟩

/-- **A suggestion that was asked for** has a finite confidence and a sound payload, whose levels
have room in the body of a request. -/
theorem isReceived_suggestion {text : String} {wanted : SuggestionRequest}
    (h : decodeText shape.decoder text = .ok wanted) (id now : String) :
    (wanted.suggestion id now).IsReceived 126 := by
  obtain ⟨n, -, hread⟩ := decodeText_eq_ok.mp h
  have hslot : ∀ inner, Context.direct.inside = .ok inner → ∀ slot ∈ shape.slots, ∀ n d d',
      d.IsReceived 126 → slot.fill inner n d = .ok d' → d'.IsReceived 126 := by
    intro inner hinner slot hslot n d d' hd hfill
    cases hinner
    exact Draft.isReceived_fill hslot hd hfill
  obtain ⟨d, ⟨hconfidence, hpayload⟩, hbuild⟩ :=
    RecordShape.exists_of_decoder (I := Draft.IsReceived 126) ⟨by simp [shape], by simp [shape]⟩
      hslot hread
  simp only [shape, Draft.build, Option.bind_eq_bind, Option.bind_eq_some_iff] at hbuild
  obtain ⟨_, -, hwanted⟩ := hbuild
  cases hwanted
  constructor
  · show (d.confidence.join.getD 0.5).isFinite = true
    cases hx : d.confidence.join with
    | none => decide +kernel
    | some x => exact hconfidence x (Option.join_eq_some_iff.mp hx)
  · exact fun v hv => hpayload v (Option.join_eq_some_iff.mp hv)

end SuggestionRequest

/-! ### Frames that are too deep -/

namespace Suggestion

/-- The levels of the payload, none where there is no payload. -/
def payloadDepth (s : Suggestion) : Nat :=
  match s.payload with
  | some v => v.depth
  | none => 0

theorem IsReceived.of_payloadDepth_le {room n : Nat} {s : Suggestion} (h : s.IsReceived room)
    (hn : s.payloadDepth ≤ n) : s.IsReceived n := by
  refine ⟨h.confidence, fun v hv => ?_⟩
  obtain ⟨hne, hsound, -⟩ := h.payload v hv
  rw [payloadDepth, Option.mem_def.mp hv] at hn
  exact ⟨hne, hsound, hn⟩

theorem IsReceived.payloadDepth_le {room : Nat} {s : Suggestion} (h : s.IsReceived room) :
    s.payloadDepth ≤ room := by
  cases hpayload : s.payload with
  | none =>
    rw [payloadDepth, hpayload]
    exact Nat.zero_le room
  | some v =>
    rw [payloadDepth, hpayload]
    exact (h.payload v hpayload).2.2

theorem lt_depth_toValue {n : Nat} {s : Suggestion} (h : n < s.payloadDepth) :
    n + 1 < s.toValue.depth := by
  refine Nat.lt_of_not_le fun hle => Nat.not_le_of_lt h ?_
  rw [toValue, Value.depth, Nat.add_le_add_iff_right, Value.memberDepth_le_iff] at hle
  cases hpayload : s.payload with
  | none =>
    rw [payloadDepth, hpayload]
    exact Nat.zero_le n
  | some v =>
    rw [payloadDepth, hpayload]
    exact hle ("payload", v) (by simp [hpayload, fieldIfAny])

end Suggestion

/-- A tagged record whose field cannot be kept is not read. -/
theorem Json.Tagged.read_tagged_of_keep_eq_error {τ : Type} (name : String)
    (known : String → Except ReadError τ) {tag key : String} {t : τ} {v : Value} {f : Fault}
    (htag : known tag = .ok t) (hkey : key ≠ Tagged.key) (hkeep : v.node.keep 126 = .error f) :
    Tagged.read name known .direct (Value.tagged tag [(key, v)]).node = .error (.fault f) := by
  have hmembers : Tagged.fromMembers known 126 none
      (Value.memberNodes [(Tagged.key, .string tag), (key, v)]) = .error (.fault f) :=
    calc Tagged.fromMembers known 126 none (Value.memberNodes [(Tagged.key, .string tag), (key, v)])
        = (known tag).bind fun t => Tagged.fromMembers known 126 (some t)
            (Value.memberNodes [(key, v)]) := rfl
      _ = .error (.fault f) := by
          simp only [htag, Except.bind, Value.memberNodes, Tagged.fromMembers, fromFault, bind,
            if_neg hkey, hkeep]
  have hnode : (Value.tagged tag [(key, v)]).node =
      .object (Value.memberNodes [(Tagged.key, .string tag), (key, v)]) .closed := rfl
  have hinside : Context.direct.inside = .ok ⟨false, 126⟩ := rfl
  rw [hnode, Tagged.read, hinside]
  simp only [bind, Except.bind, hmembers]

/-- **A frame that no client can read**: the payload of its suggestion leaves no room for the levels
around it. -/
theorem ServerMessage.decode_suggestionNew_of_lt_depth {s : Suggestion} {room : Nat}
    (hs : s.IsReceived room) (hd : ∀ x ∈ s.doubles, x.isFinite = true → ReadsBack x)
    (h : 125 < s.payloadDepth) :
    decode (encode (.suggestionNew s)) = .error (.fault .malformed) := by
  have hreadable : s.toValue.IsReadable := (Suggestion.fits_toValue hs hd).1
  have hframe : (toValue (.suggestionNew s)).IsReadable := by
    intro n hn
    simp only [toValue, Value.tagged, Value.numbers, Value.memberNumbers, field,
      List.nil_append, List.append_nil] at hn
    exact hreadable n hn
  have htag : (.ok (Kind.ofName "suggestion.new") : Except ReadError Kind) =
      .ok .suggestionNew := rfl
  have hread := Tagged.read_tagged_of_keep_eq_error "ServerMessage"
    (fun name => .ok (Kind.ofName name)) htag (show "suggestion" ≠ Tagged.key by decide)
    (keep_node_of_lt_depth s.toValue 126 hreadable (Suggestion.lt_depth_toValue h))
  rw [decode, decodeText, encode, ofText_print hframe]
  simp only [decoder, toValue, field, hread, bind, Except.bind]

/-! ### Requests that are granted -/

namespace Relay

variable {id now : String} {q : Request} {r : Relay}

theorem decodeText_of_requestBody {α : Type} {d : Decoder α} {a : α}
    (h : requestBody d q = .ok a) : decodeText d q.body = .ok a := by
  rw [requestBody] at h
  split at h
  · split at h <;> cases h
    assumption
  · cases h

/-- A body that is not read is refused. -/
theorem isSuccess_requestBody {α : Type} {d : Decoder α} {response : Response}
    (h : requestBody d q = .error response) : response.isSuccess = false := by
  rw [requestBody] at h
  split at h
  · split at h <;> cases h <;> rfl
  · cases h
    rfl

/-- The statuses of a body that is not read. -/
theorem status_requestBody {α : Type} {d : Decoder α} {response : Response} {n : Nat}
    (hn : n ∉ [400, 415, 422]) (h : requestBody d q = .error response) : response.status ≠ n := by
  rintro rfl
  refine hn ?_
  rw [requestBody] at h
  split at h
  · split at h <;> cases h <;> simp [Response.text]
  · cases h
    simp [Response.text]

/-- **A suggestion that is granted** was read from the body of its request, and is posted to the
clients of its board. -/
theorem suggest_of_created {board : String} (h : (r.suggest board q id now).1.status = 201) :
    ∃ wanted, decodeText SuggestionRequest.shape.decoder q.body = .ok wanted ∧
      r.suggest board q id now = (.json 201 (wanted.suggestion id now).toValue.print,
        r.perform (.suggest (wanted.suggestion id now)) board now) := by
  rw [suggest] at h ⊢
  split at h
  · next hbody => exact absurd h (status_requestBody (by decide) hbody)
  · next wanted hbody =>
    refine ⟨wanted, decodeText_of_requestBody hbody, ?_⟩
    split at h
    · cases h
    · split at h
      · cases h
      · next hauth hconfident =>
        simp only [if_neg hauth, if_neg hconfident]
        dsimp only at h ⊢
        split at h
        · next r' hpush => rw [perform, hpush]
        · cases h

/-- Only where suggestions are made is anything created. -/
theorem respondAt_created {route : Route} (h : (r.respondAt route q id now).1.status = 201) :
    ∃ board, route = .suggestions board := by
  cases route with
  | suggestions board => exact ⟨board, rfl⟩
  | tasks board =>
    simp only [respondAt, listTasks] at h
    split at h
    · split at h <;> cases h
    · cases h
  | task board task =>
    simp only [respondAt, removeTask] at h
    split at h
    · split at h
      · cases h
      · split at h <;> cases h
    · cases h
  | sync board =>
    simp only [respondAt, refuseSocket] at h
    repeat' split at h
    all_goals cases h
  | notify board =>
    simp only [respondAt, notify] at h
    split at h
    · next hbody => exact absurd h (status_requestBody (by decide) hbody)
    · split at h <;> cases h

/-- A request to make a suggestion is led to the board that its path names. -/
theorem respond_eq_suggest {segment board : String} (hmethod : q.method = "POST")
    (hroute : Route.ofPath? q.path = some (.suggestions segment))
    (hboard : Route.decodeSegment? segment = some board) :
    r.respond q id now = r.suggest board q id now := by
  simp [respond, hroute, hmethod, Route.allows, isSync, Route.badPart?, hboard, Route.decoded,
    Route.decoded.text, respondAt]

/-- A status that only resources answer with is the answer of the resource that the request was led
to. -/
theorem respondAt_of_respond {n : Nat} (hn : n ∉ [200, 400, 404, 405])
    (h : (r.respond q id now).1.status = n) :
    ∃ route, Route.ofPath? q.path = some route ∧ route.allows q.method = true ∧
      (if isSync route then none else route.badPart?) = none ∧
      (r.respondAt route.decoded q id now).1.status = n := by
  rw [respond] at h
  split at h
  · simp [← h, Response.bare] at hn
  · split at h
    · simp [← h, Response.bare] at hn
    · next route hroute =>
      split at h
      · simp [← h, Response.bare] at hn
      · next hallows =>
        refine ⟨route, hroute, by simpa using hallows, ?_⟩
        cases hbad : if isSync route then none else route.badPart? with
        | some part =>
          rw [hbad] at h
          dsimp only at h
          split at h <;> simp [← h, Response.text] at hn
        | none =>
          rw [hbad] at h
          dsimp only at h
          split at h <;> exact ⟨rfl, h⟩

/-- Where something is created, a suggestion was made on the board that the path names. -/
theorem suggest_of_respond_created (h : (r.respond q id now).1.status = 201) :
    ∃ segment board, Route.ofPath? q.path = some (.suggestions segment) ∧
      Route.decodeSegment? segment = some board ∧
      r.respond q id now = r.suggest board q id now := by
  obtain ⟨route, hroute, hallows, hbad, hcreated⟩ :=
    respondAt_of_respond (by decide) h
  obtain ⟨board, hdecoded⟩ := respondAt_created hcreated
  cases route <;> cases hdecoded
  next segment =>
    have hmethod : q.method = "POST" := of_decide_eq_true hallows
    have hsome : (Route.decodeSegment? segment).isSome = true := by
      simpa [isSync, Route.badPart?, Option.isSome_iff_ne_none] using hbad
    obtain ⟨board, hboard⟩ := Option.isSome_iff_exists.mp hsome
    exact ⟨segment, board, hroute, hboard, respond_eq_suggest hmethod hroute hboard⟩

/-- A suggestion is posted to the receivers of its board. -/
theorem mailbox?_suggest (who : Receiver) (s : Suggestion) (now : String) (r : Relay) :
    (r.perform (.suggest s) who.board now).mailbox? who =
      (r.mailbox? who).map (·.post (.suggestionNew s)) := by
  rw [mailbox?_perform]
  cases hroom : r.room? who.board with
  | none => simp [mailbox?_eq_bind, hroom]
  | some room => simp [Operation.posts, Operation.news, tasks?_eq_map, hroom]

/-- A request that says that its body is JSON, whose body is a confident request for a suggestion,
and whose token is accepted, is granted where there is a board. -/
theorem suggest_eq {board : String} {room : Room} {wanted : SuggestionRequest}
    (hjson : ((q.headerText? "content-type").map isJson).getD false = true)
    (hbody : decodeText SuggestionRequest.shape.decoder q.body = .ok wanted)
    (hauth : r.isAuthorized (requestToken q) = true) (hconfident : wanted.isConfident = true)
    (hroom : r.room? board = some room) :
    r.suggest board q id now = (.json 201 (wanted.suggestion id now).toValue.print,
      r.perform (.suggest (wanted.suggestion id now)) board now) := by
  have hpush : r.pushSuggestion board (wanted.suggestion id now) =
      (true, r.perform (.suggest (wanted.suggestion id now)) board now) := by
    simp only [perform, pushSuggestion, broadcast, hroom]
    rfl
  simp only [suggest, requestBody, if_pos hjson, hbody, hauth, hconfident, hpush]
  rfl

/-- **What becomes of a granted suggestion.** It is posted to all clients of the board that the path
names, and whoever asked for it reads it back from the response. The clients read it back from its
frame if its payload has at most 125 levels; there may be 126, and then no client can read the
frame. -/
theorem respond_created (h : (r.respond q id now).1.status = 201) :
    ∃ segment board wanted, Route.ofPath? q.path = some (.suggestions segment) ∧
      Route.decodeSegment? segment = some board ∧
      decodeText SuggestionRequest.shape.decoder q.body = .ok wanted ∧
      let s := wanted.suggestion id now
      (∀ number, (r.respond q id now).2.mailbox? ⟨board, number⟩ =
        (r.mailbox? ⟨board, number⟩).map (·.post (.suggestionNew s))) ∧
      (r.respond q id now).1 = .json 201 s.toValue.print ∧ s.payloadDepth ≤ 126 ∧
      ((∀ x ∈ s.doubles, x.isFinite = true → ReadsBack x) →
        decodeText Suggestion.decoder (r.respond q id now).1.body = .ok s ∧
        ServerMessage.decode (ServerMessage.suggestionNew s).encode =
          if s.payloadDepth ≤ 125 then .ok (.suggestionNew s) else .error (.fault .malformed)) := by
  obtain ⟨segment, board, hroute, hboard, hrespond⟩ := suggest_of_respond_created h
  rw [hrespond] at h ⊢
  obtain ⟨wanted, hwanted, hsuggest⟩ := suggest_of_created h
  have hs := SuggestionRequest.isReceived_suggestion hwanted id now
  refine ⟨segment, board, wanted, hroute, hboard, hwanted, ?_⟩
  rw [hsuggest]
  generalize wanted.suggestion id now = s at hs
  refine ⟨fun number => ?_, rfl, hs.payloadDepth_le, fun hd => ⟨?_, ?_⟩⟩
  · exact mailbox?_suggest ⟨board, number⟩ s now r
  · have hprint := ofText_print (Suggestion.fits_toValue hs hd).1
    have hread : Suggestion.decoder .direct s.toValue.node = .ok s :=
      Suggestion.decoder_node hs hd false
    simp only [Response.json, decodeText, hprint, hread, bind, Except.bind]
    rfl
  · split
    · next hdepth => exact ServerMessage.decode_suggestionNew (hs.of_payloadDepth_le hdepth) hd
    · next hdepth =>
      exact ServerMessage.decode_suggestionNew_of_lt_depth hs hd (Nat.lt_of_not_le hdepth)

/-! ### Payloads at the limit -/

/-- Arrays in each other, around an empty one. -/
def nestedArrays : Nat → Value
  | 0 => .array []
  | n + 1 => .array [nestedArrays n]

/-- A request to suggest something whose payload is a number of arrays in each other. -/
def nestedRequest (levels : Nat) : Request where
  method := "POST"
  target := "/api/v1/boards/b/suggestions"
  headers := [("Content-Type", "application/json"), ("Authorization", "Bearer t")]
  body := String.ofList ("\x7b\"title\":\"t\",\"payload\":".toList ++ List.replicate levels '['
    ++ List.replicate levels ']' ++ ['\x7d'])

/-- The suggestion that is asked for, its payload an empty array inside `n` others. -/
def nestedSuggestion (n : Nat) : Suggestion :=
  ⟨"s", "t", none, "task", "medium", 0.5, "pending", some (nestedArrays n), "now"⟩

/-- A relay with one board, which one client has joined. -/
def relayOfClient : Relay := ⟨[], [("b", ⟨[], [(0, .empty)]⟩)], 1⟩

theorem respond_nestedRequest {levels n : Nat}
    (hbody : decodeText SuggestionRequest.shape.decoder (nestedRequest levels).body =
      .ok ⟨"t", none, none, none, none, some (nestedArrays n)⟩) :
    relayOfClient.respond (nestedRequest levels) "s" "now" =
      (.json 201 (nestedSuggestion n).toValue.print,
        relayOfClient.perform (.suggest (nestedSuggestion n)) "b" "now") := by
  have hroute : Route.ofPath? (nestedRequest levels).path = some (.suggestions "b") := by
    show Route.ofPath? ("/api/v1/boards/b/suggestions".toList.takeWhile _) = _
    decide +kernel
  have htoken : requestToken (nestedRequest levels) = some "t" := by
    show (Option.filter _ (some "Bearer t")).bind _ = _
    decide +kernel
  have hjson : (((nestedRequest levels).headerText? "content-type").map isJson).getD false =
      true := by
    show ((Option.filter _ (some "application/json")).map isJson).getD false = true
    decide +kernel
  have hauth : relayOfClient.isAuthorized (requestToken (nestedRequest levels)) = true := by
    rw [htoken]
    decide +kernel
  have hwanted : SuggestionRequest.suggestion ⟨"t", none, none, none, none, some (nestedArrays n)⟩
      "s" "now" = nestedSuggestion n := rfl
  have hconfident : SuggestionRequest.isConfident
      ⟨"t", none, none, none, none, some (nestedArrays n)⟩ = true := by
    show SuggestionRequest.isConfident ⟨"t", none, none, none, none, none⟩ = true
    decide +kernel
  have hboard : Route.decodeSegment? "b" = some "b" := by decide +kernel
  have hroom : relayOfClient.room? "b" = some ⟨[], [(0, .empty)]⟩ := rfl
  rw [respond_eq_suggest rfl hroute hboard, suggest_eq hjson hbody hauth hconfident hroom, hwanted]

set_option maxRecDepth 4000 in
/-- A payload of 125 levels is granted, and the client reads it back. -/
theorem respond_created_of_nested :
    (relayOfClient.respond (nestedRequest 125) "s" "now").1.status = 201 ∧
      decodeText Suggestion.decoder (relayOfClient.respond (nestedRequest 125) "s" "now").1.body =
        .ok (nestedSuggestion 124) ∧
      ServerMessage.decode (ServerMessage.suggestionNew (nestedSuggestion 124)).encode =
        .ok (.suggestionNew (nestedSuggestion 124)) := by
  have hbody : decodeText SuggestionRequest.shape.decoder (nestedRequest 125).body =
      .ok ⟨"t", none, none, none, none, some (nestedArrays 124)⟩ := by
    rw [decodeText, Document.ofText, nestedRequest, String.toList_ofList]
    decide +kernel
  have hcreated : (relayOfClient.respond (nestedRequest 125) "s" "now").1.status = 201 := by
    rw [respond_nestedRequest hbody]
    rfl
  obtain ⟨segment, board, wanted, -, -, hwanted, -, -, -, hread⟩ := respond_created hcreated
  have hs : wanted.suggestion "s" "now" = nestedSuggestion 124 := by
    rw [← Except.ok.inj (hbody.symm.trans hwanted)]
    rfl
  have hdoubles : ∀ x ∈ (nestedSuggestion 124).doubles, x.isFinite = true → ReadsBack x := by
    decide +kernel
  have hdepth : (nestedSuggestion 124).payloadDepth ≤ 125 := by decide +kernel
  rw [hs, if_pos hdepth] at hread
  exact ⟨hcreated, hread hdoubles⟩

set_option maxRecDepth 4000 in
/-- A payload of 126 levels is granted and posted, and no client can read its frame. -/
theorem respond_created_ne_of_nested :
    let answer := relayOfClient.respond (nestedRequest 126) "s" "now"
    let s := nestedSuggestion 125
    answer.1.status = 201 ∧ decodeText Suggestion.decoder answer.1.body = .ok s ∧
      answer.2.mailbox? ⟨"b", 0⟩ = some ⟨[.suggestionNew s], 0⟩ ∧
      ServerMessage.decode (ServerMessage.suggestionNew s).encode = .error (.fault .malformed) := by
  intro answer s
  have hbody : decodeText SuggestionRequest.shape.decoder (nestedRequest 126).body =
      .ok ⟨"t", none, none, none, none, some (nestedArrays 125)⟩ := by
    rw [decodeText, Document.ofText, nestedRequest, String.toList_ofList]
    decide +kernel
  have hanswer : answer = (.json 201 s.toValue.print,
      relayOfClient.perform (.suggest s) "b" "now") := respond_nestedRequest hbody
  have hresponse : decodeText Suggestion.decoder s.toValue.print = .ok s := by
    rw [decodeText, Document.ofText, Value.print, String.toList_ofList]
    decide +kernel
  have hframe : ServerMessage.decode (ServerMessage.suggestionNew s).encode =
      .error (.fault .malformed) := by
    rw [ServerMessage.decode, decodeText, Document.ofText, ServerMessage.encode, Value.print,
      String.toList_ofList]
    decide +kernel
  have hbox := mailbox?_suggest ⟨"b", 0⟩ s "now" relayOfClient
  rw [hanswer]
  exact ⟨rfl, hresponse, hbox, hframe⟩

end Relay

end LiveBoard
