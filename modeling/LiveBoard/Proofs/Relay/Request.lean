import LiveBoard.Proofs.Relay.Call
import LiveBoard.Proofs.Relay.Published

/-!
# What requests do to a relay

A request is granted in full or refused without a trace. Three kinds of requests change something
when they are granted: one takes the tasks of an id off a board, one publishes a suggestion, and one
passes a message on. Each of them is one call of the relay, and what the receivers of the board are
sent is what the response speaks of. All other requests only look.

## Main definitions

* `Route.named?`: the resource that a request names.
* `Relay.Answer`: what becomes of a request.

## Main results

* `Relay.answer_respond`: every request is answered in one of the ways of `Relay.Answer`.
* `Relay.requests_are_atomic`: what the status of a response says about the relay.
-/

namespace LiveBoard

open Http Json

/-! ### Resources -/

namespace Route

/-- The resource that a request names, with the names of boards and tasks as texts. -/
def named? (q : Request) : Option Route :=
  ((ofPath? q.path).filter fun route => route.badPart?.isNone).map decoded

theorem named?_eq_some {q : Request} {route : Route} (h : ofPath? q.path = some route)
    (hgood : route.badPart? = none) : named? q = some route.decoded := by
  simp [named?, h, hgood]

theorem isSync_decoded (route : Route) : Relay.isSync route.decoded = Relay.isSync route := by
  cases route <;> rfl

theorem allows_decoded (route : Route) (method : String) :
    route.decoded.allows method = route.allows method := by
  cases route <;> rfl

end Route

namespace Relay

variable {id now board : String} {q : Request} {r r' : Relay} {response : Response}

/-! ### Answers -/

/-- What becomes of a request. It is refused or only looks, or it is one call of the relay that is
done: a deletion, a suggestion, or a message that is passed on. -/
inductive Answer (q : Request) (id now : String) (r : Relay) : Response → Relay → Prop
  | untouched {response : Response}
      (h : response.isSuccess = true → response.status = 200 ∧ q.method ≠ "POST") :
    Answer q id now r response r
  | deleted {board task : String} {r' : Relay} (hmethod : q.method = "DELETE")
      (hname : Route.named? q = some (.task board task))
      (hcall : r.call (.operate (.delete task)) board now = (true, r')) :
    Answer q id now r (.bare 204) r'
  | suggested {board : String} {wanted : SuggestionRequest} {r' : Relay}
      (hmethod : q.method = "POST") (hname : Route.named? q = some (.suggestions board))
      (hconfident : wanted.isConfident = true)
      (hcall : r.call (.operate (.suggest (wanted.suggestion id now))) board now = (true, r')) :
    Answer q id now r (.json 201 (wanted.suggestion id now).toValue.print) r'
  | notified {board : String} {m : ServerMessage} {r' : Relay} (hmethod : q.method = "POST")
      (hname : Route.named? q = some (.notify board)) (hbody : ServerMessage.decode q.body = .ok m)
      (hcall : r.call (.pass m) board now = (true, r')) :
    Answer q id now r (.bare 200) r'

/-- A refusal leaves no trace. -/
theorem Answer.refused (h : response.isSuccess = false) : Answer q id now r response r :=
  .untouched fun hsuccess => by simp [h] at hsuccess

/-- A response to a question about what there is may leave it out. -/
theorem Answer.withoutBody (h : Answer q id now r response r') (hmethod : q.method = "HEAD") :
    Answer q id now r { response with body := "" } r' := by
  cases h with
  | untouched h => exact .untouched h
  | deleted hdelete => simp [hmethod] at hdelete
  | suggested hpost => simp [hmethod] at hpost
  | notified hpost => simp [hmethod] at hpost

theorem answer_listTasks (hmethod : q.method ≠ "POST") :
    Answer q id now r (r.listTasks board q) r := by
  rw [listTasks]
  split
  · split
    · exact .untouched fun _ => ⟨rfl, hmethod⟩
    · exact .refused rfl
  · exact .refused rfl

theorem answer_removeTask {task : String} (hmethod : q.method = "DELETE")
    (hname : Route.named? q = some (.task board task)) :
    Answer q id now r (r.removeTask board task q now).1 (r.removeTask board task q now).2 := by
  rw [removeTask]
  split
  · cases r.tasks? board with
    | none => exact .refused rfl
    | some ts =>
      -- the deletion looks the board up once more and may still find no task
      cases hdelete : r.deleteTask board task now with
      | mk done r' =>
        have hcall : r.call (.operate (.delete task)) board now = (done, r') := hdelete
        cases done with
        | true => exact .deleted hmethod hname hcall
        | false =>
          rw [eq_of_call_eq_false hcall]
          exact .refused rfl
  · exact .refused rfl

theorem answer_suggest (hmethod : q.method = "POST")
    (hname : Route.named? q = some (.suggestions board)) :
    Answer q id now r (r.suggest board q id now).1 (r.suggest board q id now).2 := by
  rw [suggest]
  split
  · next response hbody => exact .refused (isSuccess_requestBody hbody)
  · next wanted hbody =>
    split
    · exact .refused rfl
    · split
      · exact .refused rfl
      · next hconfident =>
        dsimp only
        cases hpush : r.pushSuggestion board (wanted.suggestion id now) with
        | mk done r' =>
          have hcall : r.call (.operate (.suggest (wanted.suggestion id now))) board now =
              (done, r') := hpush
          cases done with
          | true => exact .suggested hmethod hname (by simpa using hconfident) hcall
          | false =>
            rw [eq_of_call_eq_false hcall]
            exact .refused rfl

theorem answer_notify (hmethod : q.method = "POST")
    (hname : Route.named? q = some (.notify board)) :
    Answer q id now r (r.notify board q).1 (r.notify board q).2 := by
  rw [notify]
  split
  · next response hbody => exact .refused (isSuccess_requestBody hbody)
  · next m hbody =>
    cases hcast : r.broadcast board m with
    | mk count r' =>
      have hcall : r.call (.pass m) board now = (count.isSome, r') := by rw [call, hcast]
      cases count with
      | some n => exact .notified hmethod hname (decodeText_of_requestBody hbody) hcall
      | none =>
        rw [eq_of_call_eq_false hcall]
        exact .refused rfl

theorem isSuccess_refuseSocket (q : Request) : (refuseSocket q).isSuccess = false := by
  rw [refuseSocket]
  repeat' split
  all_goals rfl

theorem answer_respondAt {route : Route} (hallows : route.allows q.method = true)
    (hname : isSync route = false → Route.named? q = some route) :
    Answer q id now r (r.respondAt route q id now).1 (r.respondAt route q id now).2 := by
  cases route with
  | tasks board =>
    refine answer_listTasks ?_
    rintro hmethod
    simp [Route.allows, hmethod] at hallows
  | task board task => exact answer_removeTask (of_decide_eq_true hallows) (hname rfl)
  | suggestions board => exact answer_suggest (of_decide_eq_true hallows) (hname rfl)
  | sync board => exact .refused (isSuccess_refuseSocket q)
  | notify board => exact answer_notify (of_decide_eq_true hallows) (hname rfl)

/-- **Every request is answered in one of these ways.** -/
theorem answer_respond (q : Request) (id now : String) (r : Relay) :
    Answer q id now r (r.respond q id now).1 (r.respond q id now).2 := by
  rw [respond]
  split
  · next hoptions => exact .untouched fun _ => ⟨rfl, by simp [hoptions]⟩
  · split
    · exact .refused rfl
    · next route hroute =>
      split
      · exact .refused rfl
      · next hallows =>
        have hanswer : (if isSync route then none else route.badPart?) = none →
            Answer q id now r (r.respondAt route.decoded q id now).1
              (r.respondAt route.decoded q id now).2 := by
          intro hgood
          refine answer_respondAt ?_ fun hsync => Route.named?_eq_some hroute ?_
          · rw [Route.allows_decoded]
            simpa using hallows
          · rwa [if_neg (by rw [← Route.isSync_decoded, hsync]; exact Bool.false_ne_true)] at hgood
        cases hbad : if isSync route then none else route.badPart? with
        | some part =>
          dsimp only
          split <;> exact .refused rfl
        | none =>
          dsimp only
          split
          · next hhead => exact (hanswer hbad).withoutBody hhead
          · exact hanswer hbad

/-- **Requests are atomic.** A request that is not granted leaves the relay as it is, and so does
one that only asks. Where the response says that something was deleted, created or passed on, the
board that the request names has changed accordingly, every receiver of the board was sent the one
message about it, and all other boards are as they were. -/
theorem requests_are_atomic (q : Request) (id now : String) (r : Relay) :
    let response := (r.respond q id now).1
    let r' := (r.respond q id now).2
    (response.isSuccess = false → r' = r) ∧
    (q.method = "GET" → r' = r) ∧
    (response.status = 204 → q.method = "DELETE" ∧ ∃ board task ts,
      Route.named? q = some (.task board task) ∧ task ∈ ids ts ∧
      Publishes board (.taskDeleted ⟨task, now⟩) ts (ts.filter fun t => t.id != task) r r' ∧
      r.AgreesElsewhere board r') ∧
    (response.status = 201 → q.method = "POST" ∧ ∃ board s ts,
      Route.named? q = some (.suggestions board) ∧ response.body = s.toValue.print ∧
      s.status = "pending" ∧ 0.0 ≤ s.confidence ∧ s.confidence ≤ 1.0 ∧
      Publishes board (.suggestionNew s) ts ts r r' ∧ r.AgreesElsewhere board r') ∧
    (response.status = 200 → q.method = "POST" → ∃ board m ts,
      Route.named? q = some (.notify board) ∧ ServerMessage.decode q.body = .ok m ∧
      Publishes board m ts ts r r' ∧ r.AgreesElsewhere board r') := by
  intro response r'
  have hanswer : Answer q id now r response r' := answer_respond q id now r
  generalize response = response, r' = r' at hanswer
  cases hanswer with
  | untouched h =>
    have hstatus : ∀ n, 200 ≤ n → n < 300 → response.status = n → n = 200 ∧ q.method ≠ "POST" := by
      rintro n hlow hhigh rfl
      exact h (by simp [Response.isSuccess, hlow, hhigh])
    refine ⟨fun _ => rfl, fun _ => rfl, fun h204 => ?_, fun h201 => ?_, fun h200 hpost => ?_⟩
    · exact absurd (hstatus 204 (by decide) (by decide) h204).1 (by decide)
    · exact absurd (hstatus 201 (by decide) (by decide) h201).1 (by decide)
    · exact absurd hpost (hstatus 200 (by decide) (by decide) h200).2
  | @deleted board task r' hmethod hname hcall =>
    refine ⟨fun h => (by cases h), fun h => (by simp [hmethod] at h), fun _ => ⟨hmethod, ?_⟩,
      fun h => (by cases h), fun h => (by cases h)⟩
    obtain ⟨m, ts, ts', hdescribes, hpublishes⟩ :=
      publishes_of_call_eq_true hcall fun _ h => by cases h
    cases hdescribes with
    | delete htask =>
      exact ⟨board, task, ts, hname, htask, hpublishes, agreesElsewhere_of_call hcall⟩
  | @suggested board wanted r' hmethod hname hconfident hcall =>
    refine ⟨fun h => (by cases h), fun h => (by simp [hmethod] at h), fun h => (by cases h),
      fun _ => ⟨hmethod, ?_⟩, fun h => (by cases h)⟩
    obtain ⟨m, ts, ts', hdescribes, hpublishes⟩ :=
      publishes_of_call_eq_true hcall fun _ h => by cases h
    obtain ⟨hlow, hhigh⟩ : 0.0 ≤ wanted.confidenceOrHalf ∧ wanted.confidenceOrHalf ≤ 1.0 := by
      simpa [SuggestionRequest.isConfident] using hconfident
    cases hdescribes with
    | suggest =>
      exact ⟨board, wanted.suggestion id now, ts, hname, rfl, rfl, hlow, hhigh, hpublishes,
        agreesElsewhere_of_call hcall⟩
  | @notified board m r' hmethod hname hbody hcall =>
    refine ⟨fun h => (by cases h), fun h => (by simp [hmethod] at h), fun h => (by cases h),
      fun h => (by cases h), fun _ _ => ?_⟩
    obtain ⟨m', ts, ts', hdescribes, hpublishes⟩ :=
      publishes_of_call_eq_true hcall fun _ h => by cases h
    cases hdescribes with
    | pass => exact ⟨board, m, ts, hname, hbody, hpublishes, agreesElsewhere_of_call hcall⟩

/-- A board on which an id is repeated, and a request of each of the three kinds. -/
theorem requests_are_atomic_of_repeated :
    let task := newTask "b" "Plan" .inbox none none "1" "t0"
    let r : Relay :=
      ⟨["k"], [("b", ⟨[task, task], [(0, .empty)]⟩), ("c", ⟨[task], [(1, .empty)]⟩)], 2⟩
    let member := ("Authorization", "Bearer k")
    let json := ("Content-Type", "application/json")
    let delete : Request := ⟨"DELETE", "/api/v1/boards/b/tasks/%31", [member], ""⟩
    let suggest : Request :=
      ⟨"POST", "/api/v1/boards/b/suggestions", [member, json], "\x7b\"title\":\"s\"\x7d"⟩
    let notify : Request :=
      ⟨"POST", "/internal/boards/b/notify", [json], "\x7b\"type\":\"heartbeat_ack\"\x7d"⟩
    (∃ board task ts, Route.named? delete = some (.task board task) ∧ task ∈ ids ts ∧
      Publishes board (.taskDeleted ⟨task, "t1"⟩) ts (ts.filter fun t => t.id != task) r
        (r.respond delete "2" "t1").2) ∧
    (∃ board s ts, Route.named? suggest = some (.suggestions board) ∧
      (r.respond suggest "2" "t1").1.body = s.toValue.print ∧
      Publishes board (.suggestionNew s) ts ts r (r.respond suggest "2" "t1").2) ∧
    ∃ board m ts, Route.named? notify = some (.notify board) ∧
      ServerMessage.decode notify.body = .ok m ∧
      Publishes board m ts ts r (r.respond notify "2" "t1").2 := by
  intro task r member json delete suggest notify
  have hdeleted : (r.respond delete "2" "t1").1.status = 204 := by decide +kernel
  have hcreated : (r.respond suggest "2" "t1").1.status = 201 := by decide +kernel
  have hpassed : (r.respond notify "2" "t1").1.status = 200 := by decide +kernel
  obtain ⟨-, -, hdelete, -, -⟩ := requests_are_atomic delete "2" "t1" r
  obtain ⟨-, -, -, hsuggest, -⟩ := requests_are_atomic suggest "2" "t1" r
  obtain ⟨-, -, -, -, hnotify⟩ := requests_are_atomic notify "2" "t1" r
  obtain ⟨-, board, task, ts, hname, htask, hpublishes, -⟩ := hdelete hdeleted
  obtain ⟨-, board', s, ts', hname', hbody, -, -, -, hpublishes', -⟩ := hsuggest hcreated
  obtain ⟨board'', m, ts'', hname'', hbody', hpublishes'', -⟩ := hnotify hpassed rfl
  exact ⟨⟨board, task, ts, hname, htask, hpublishes⟩, ⟨board', s, ts', hname', hbody, hpublishes'⟩,
    ⟨board'', m, ts'', hname'', hbody', hpublishes''⟩⟩

end Relay

end LiveBoard
