import LiveBoard.Proofs.Board.Reading
import LiveBoard.Proofs.Relay.History

/-!
# Relay and client in lock step

A client joins a board of a relay, takes the snapshot that it is given, and reads the frames of all
that is posted to it from then on. Whatever else happens to the relay, at every moment the client
has the tasks of the board, the first one of every id, and so it does after every prefix of the
frames, with the board as it was when the prefix ended.

## Main results

* `Relay.exists_prefix_of_prefix_posts`: every prefix of what is posted in a run is what is posted
  in a prefix of the run.
* `Relay.lockStep`: the client has the tasks of the relay.
-/

namespace LiveBoard

namespace Relay

theorem eq_of_map_message {ms ns : List ServerMessage}
    (h : ms.map Delivery.message = ns.map Delivery.message) : ms = ns :=
  (List.map_inj_right fun _ _ hmessage => Delivery.message.inj hmessage).mp h

/-- An action posts one message at most. -/
theorem postsOf_eq_nil_or_singleton (board : String) (a : Action) (r : Relay) :
    r.postsOf board a = [] ∨ ∃ m, r.postsOf board a = [m] := by
  cases a with
  | operate b op now =>
    simp only [postsOf, Operation.posts]
    split
    · cases ((r.tasks? b).bind (op.news b now)).map (·.1) with
      | none => exact .inl rfl
      | some m => exact .inr ⟨m, rfl⟩
    · exact .inl rfl
  | join | leave | drain => exact .inl rfl

/-- Every prefix of what is posted in a run is what is posted in a prefix of the run. -/
theorem exists_prefix_of_prefix_posts {board : String} {as : List Action} {r : Relay}
    {ns : List ServerMessage} (h : ns <+: posts board as r) :
    ∃ bs, bs <+: as ∧ posts board bs r = ns := by
  induction as generalizing r ns with
  | nil => exact ⟨[], List.nil_prefix, (List.prefix_nil.mp h).symm⟩
  | cons a as ih =>
    rw [posts] at h
    rcases postsOf_eq_nil_or_singleton board a r with hnone | ⟨m, hm⟩
    · rw [hnone] at h
      obtain ⟨bs, hbs, hposts⟩ := ih h
      exact ⟨a :: bs, (List.prefix_cons_inj a).mpr hbs, by rw [posts, hnone, hposts]; rfl⟩
    · rw [hm] at h
      rcases List.prefix_cons_iff.mp h with rfl | ⟨ns', rfl, hns'⟩
      · exact ⟨[], List.nil_prefix, rfl⟩
      · obtain ⟨bs, hbs, hposts⟩ := ih hns'
        exact ⟨a :: bs, (List.prefix_cons_inj a).mpr hbs, by rw [posts, hm, hposts]; rfl⟩

section Joined

variable {tokens : List String} {before : List Action} {board now : String}
  {token : Option String} {snapshot : Snapshot} {who : Receiver} {r : Relay}

/-- Who joins and has lost nothing is given what was posted to the board since. -/
theorem received_eq_posts_of_join
    (hjoin : ((ofTokens tokens).run before).join board token now = .ok (snapshot, who, r))
    {as : List Action} (hstay : .leave who ∉ as) (hlag : ∀ n, .lagged n ∉ r.received who as) :
    r.received who as = (posts board as r).map .message := by
  have hbox := mailbox?_join ((isNumbered_ofTokens tokens).run before) hjoin
  obtain ⟨rfl, -, -⟩ := join_eq_ok hjoin
  exact received_eq_posts hbox hstay hlag

/-- After the snapshot and all that was posted since, the client has the tasks of the board. -/
theorem tasks_readAll_posts
    (hjoin : ((ofTokens tokens).run before).join board token now = .ok (snapshot, who, r))
    {as : List Action} (hfresh : IsFresh as r) (s : BoardStore) :
    ((r.run as).tasks? board).map dedupById =
      some (s.readAll
        ((ServerMessage.boardState snapshot :: posts board as r).map
          ServerMessage.encode)).tasks := by
  obtain ⟨-, htasks, -⟩ := join_eq_ok hjoin
  obtain ⟨ts, hts, hamend⟩ := amendAll_posts ((tasks?_join hjoin board).trans htasks) hfresh
  rw [hts, BoardStore.tasks_readAll_encode, ServerMessage.amendAll_cons]
  exact congrArg some hamend.symm

/-- **Relay and client in lock step.** A client joins a board after any history of the relay and
takes the snapshot. At every moment of what happens then, what it was given so far, one frame after
the other, leaves it with the first task of every id that the board has at that moment. Every
prefix of what it is given by the end is all that it was given by some moment. -/
theorem lockStep
    (hjoin : ((ofTokens tokens).run before).join board token now = .ok (snapshot, who, r))
    {after : List Action} (hstay : .leave who ∉ after) (hfresh : IsFresh after r)
    {ms : List ServerMessage} (hms : r.received who after = ms.map .message) :
    (∀ as, as <+: after → ∃ ns, ns <+: ms ∧ r.received who as = ns.map .message ∧
      ∀ s : BoardStore, ((r.run as).tasks? board).map dedupById =
        some (s.readAll
          ((ServerMessage.boardState snapshot :: ns).map ServerMessage.encode)).tasks) ∧
      ∀ ns, ns <+: ms → ∃ as, as <+: after ∧ r.received who as = ns.map .message := by
  have hlag : ∀ n, .lagged n ∉ r.received who after := by simp [hms]
  have hbox := mailbox?_join ((isNumbered_ofTokens tokens).run before) hjoin
  have hposts : ∀ as, as <+: after → r.received who as = (posts board as r).map .message := by
    rintro as ⟨bs, rfl⟩
    refine received_eq_posts_of_join hjoin (fun h => hstay (List.mem_append_left _ h)) ?_
    intro n hn
    obtain ⟨n, hn⟩ := lagged_mem_received_append hbox hstay ⟨n, hn⟩
    exact hlag n hn
  have hall : ms = posts board after r := by
    exact eq_of_map_message (hms.symm.trans (hposts after (List.prefix_refl after)))
  constructor
  · rintro as ⟨bs, rfl⟩
    refine ⟨posts board as r, ?_, hposts as (List.prefix_append as bs), fun s => ?_⟩
    · rw [hall, posts_append]
      exact List.prefix_append _ _
    · exact tasks_readAll_posts hjoin (isFresh_append.mp hfresh).1 s
  · intro ns hns
    rw [hall] at hns
    obtain ⟨as, has, rfl⟩ := exists_prefix_of_prefix_posts hns
    exact ⟨as, has, hposts as has⟩

/-- A board with one task is joined, the task is moved, and another one is created. -/
theorem lockStep_of_move_of_create :
    let task := newTask "b" "Plan" .inbox none none "1" "t0"
    let r : Relay := ⟨[], [("b", ⟨[task], [(0, .empty)]⟩)], 1⟩
    let after := [.operate "b" (.move "1" .done none) "t2",
      .operate "b" (.create "Build" .inbox none none "2") "t3"]
    let ms := [.taskUpdated ⟨"1", movePatch task .done "t2", none, "t2"⟩,
      .taskCreated ⟨newTask "b" "Build" .inbox none none "2" "t3", "t3"⟩]
    ((ofTokens []).run [.operate "b" (.put [task]) "t0"]).join "b" (some "k") "t1" =
        .ok (⟨[task], "t1"⟩, ⟨"b", 0⟩, r) ∧
      .leave ⟨"b", 0⟩ ∉ after ∧ IsFresh after r ∧ r.received ⟨"b", 0⟩ after = ms.map .message ∧
      ((r.run after).tasks? "b").map dedupById = some (BoardStore.empty.readAll
        ((ServerMessage.boardState ⟨[task], "t1"⟩ :: ms).map ServerMessage.encode)).tasks := by
  intro task r after ms
  have hjoin : ((ofTokens []).run [.operate "b" (.put [task]) "t0"]).join "b" (some "k") "t1" =
      .ok (⟨[task], "t1"⟩, ⟨"b", 0⟩, r) := rfl
  have hstay : .leave ⟨"b", 0⟩ ∉ after := by simp [after]
  have hnew : "2" ∉ idsOf "b" (r.act (.operate "b" (.move "1" .done none) "t2")) := by decide
  have hfresh : IsFresh after r := ⟨trivial, hnew, trivial⟩
  have hms : r.received ⟨"b", 0⟩ after = ms.map .message := rfl
  obtain ⟨ns, -, hns, htasks⟩ :=
    (lockStep hjoin hstay hfresh hms).1 after (List.prefix_refl after)
  rw [eq_of_map_message (hns.symm.trans hms)] at htasks
  exact ⟨hjoin, hstay, hfresh, hms, htasks .empty⟩

end Joined

end Relay

end LiveBoard
