import LiveBoard.Proofs.Board.Reachable
import Mathlib.Algebra.Ring.Nat

/-!
# The columns of a board

A board shows its tasks in columns and counts them apart, and the two have to agree. The columns
share out the tasks: each column holds its tasks in the order of the list, and a task stands as
often in the column of its status as it stands in the list, and in no other one. The counts are the
lengths of the columns.

A move of the client takes one task out of one column and puts it into another one. This holds of
any board, whether its ids are distinct or not, since only the first task of an id is moved.

## Main results

* `count_column`: how often a task stands in a column.
* `sum_countByStatus`: the counts add up.
* `BoardStore.counts_moveLocally`: what a move does to the counts.
* `columns_share_tasks`: all of it.
-/

namespace LiveBoard

/-! ### Sharing out the tasks -/

theorem eq_of_mem_columns {tasks : List Task} {c : Status × List Task} (h : c ∈ columns tasks) :
    c.2 = tasks.filter fun t => t.status = c.1 := by
  obtain ⟨s, -, rfl⟩ := List.mem_map.mp h
  rfl

/-- **How often a task stands in a column:** as often as in the list, if it has the status of the
column. -/
theorem count_column {tasks : List Task} {c : Status × List Task} (h : c ∈ columns tasks)
    (t : Task) : c.2.count t = if t.status = c.1 then tasks.count t else 0 := by
  rw [eq_of_mem_columns h]
  split
  · next hstatus => exact List.count_filter (decide_eq_true hstatus)
  · next hstatus =>
    refine List.count_eq_zero_of_not_mem fun hmem => hstatus ?_
    simpa using (List.mem_filter.mp hmem).2

/-- The counts are the lengths of the columns. -/
theorem countByStatus_eq (tasks : List Task) :
    countByStatus tasks = (columns tasks).map fun c => (c.1, c.2.length) := by
  rw [columns, List.map_map]
  exact List.map_congr_left fun s _ => congrArg (Prod.mk s) List.countP_eq_length_filter

/-- **The counts add up** to the number of tasks. -/
theorem sum_countByStatus (tasks : List Task) :
    ((countByStatus tasks).map Prod.snd).sum = tasks.length := by
  induction tasks with
  | nil => rfl
  | cons t tasks ih =>
    simp only [countByStatus, Status.all, List.map_cons, List.map_nil, List.sum_cons,
      List.sum_nil, List.countP_cons, List.length_cons] at ih ⊢
    cases t.status <;> simp <;> omega

/-! ### Moving a task -/

/-- Only the first element that is found is counted in another way. -/
theorem countP_updateFirst {α : Type} {p : α → Bool} {as : List α} {a : α}
    (h : as.find? p = some a) (f : α → α) (q : α → Bool) :
    (updateFirst p f as).countP q + (if q a then 1 else 0) =
      as.countP q + if q (f a) then 1 else 0 := by
  induction as with
  | nil => cases h
  | cons b as ih =>
    rw [updateFirst]
    by_cases hb : p b = true
    · rw [List.find?_cons_of_pos hb] at h
      cases h
      rw [if_pos hb, List.countP_cons, List.countP_cons]
      omega
    · rw [List.find?_cons_of_neg hb] at h
      rw [if_neg hb, List.countP_cons, List.countP_cons]
      have hrest := ih h
      omega

namespace BoardStore

/-- **What a move does to the counts:** it lowers that of the status that the task had, raises that
of the status it gets, and leaves the others alone. -/
theorem counts_moveLocally {s : BoardStore} {id : String} {status : Status}
    (h : (s.moveLocally id status).1 = true) :
    ∃ t, s.task? id = some t ∧ t.status ≠ status ∧ ∃ n : Status → Nat,
      s.counts = Status.all.map (fun c => (c, n c)) ∧ 1 ≤ n t.status ∧
      (s.moveLocally id status).2.counts = Status.all.map fun c =>
        (c, if c = status then n c + 1 else if c = t.status then n c - 1 else n c) := by
  rw [moveLocally] at h ⊢
  split at h
  · next t ht =>
    split at h
    · cases h
    · next hne =>
      let n (c : Status) : Nat := s.tasks.countP fun t => t.status = c
      have hcounted : 1 ≤ n t.status :=
        List.countP_pos_iff.mpr ⟨t, List.mem_of_find?_eq_some ht, decide_eq_true rfl⟩
      refine ⟨t, ht, hne, n, rfl, hcounted, ?_⟩
      rw [if_neg hne]
      refine List.map_congr_left fun c _ => congrArg (Prod.mk c) ?_
      have hcount := countP_updateFirst ht (fun t => { t with status }) fun t => t.status = c
      simp only [decide_eq_true_eq] at hcount
      by_cases hnew : c = status
      · rw [if_pos hnew]
        rwa [if_neg (hnew ▸ hne), if_pos hnew.symm] at hcount
      · rw [if_neg hnew]
        rw [if_neg (Ne.symm hnew)] at hcount
        by_cases hold : c = t.status
        · rw [if_pos hold]
          rw [if_pos hold.symm] at hcount
          exact Nat.eq_sub_of_add_eq hcount
        · rw [if_neg hold]
          rwa [if_neg (Ne.symm hold)] at hcount
  · cases h

end BoardStore

/-- **The columns share out the tasks** of any list, and count them. They come in board order, and
each of them is a part of the list in the order of the list. A task stands in the column of its
status as often as in the list and in no other column. The counts are the lengths of the columns
and add up to the length of the list; and a move of the client that does something lowers one count
by one, that of the status which the task had, raises one by one, that of the status which it gets,
and leaves the others alone, on any board whatsoever. -/
theorem columns_share_tasks (tasks : List Task) :
    (columns tasks).map Prod.fst = [.inbox, .inProgress, .review, .done] ∧
    (∀ c ∈ columns tasks, c.2.Sublist tasks ∧ c.2 = tasks.filter (fun t => t.status = c.1) ∧
      ∀ t, c.2.count t = if t.status = c.1 then tasks.count t else 0) ∧
    countByStatus tasks = (columns tasks).map (fun c => (c.1, c.2.length)) ∧
    ((countByStatus tasks).map Prod.snd).sum = tasks.length ∧
    ∀ (s : BoardStore) (id : String) (status : Status), (s.moveLocally id status).1 = true →
      ∃ t, s.task? id = some t ∧ t.status ≠ status ∧ ∃ n : Status → Nat,
        s.counts = Status.all.map (fun c => (c, n c)) ∧ 1 ≤ n t.status ∧
        (s.moveLocally id status).2.counts = Status.all.map fun c =>
          (c, if c = status then n c + 1 else if c = t.status then n c - 1 else n c) := by
  refine ⟨rfl, fun c hc => ⟨?_, eq_of_mem_columns hc, count_column hc⟩, countByStatus_eq tasks,
    sum_countByStatus tasks, fun _ _ _ => BoardStore.counts_moveLocally⟩
  rw [eq_of_mem_columns hc]
  exact List.filter_sublist

/-- A lamp goes from review to the chair, which is done; a second task of its id was left out. -/
theorem columns_share_tasks_of_review :
    let lamp : Task := ⟨"1", "b", "Lamp", none, .review, "P2", none, none, none, "d", "d"⟩
    let chair : Task := { lamp with id := "2", title := "Chair", status := .done }
    let tasks := [chair, lamp, { lamp with title := "Desk lamp" }]
    let s := BoardStore.seeded tasks
    columns tasks = [(.inbox, []), (.inProgress, []),
      (.review, [lamp, { lamp with title := "Desk lamp" }]), (.done, [chair])] ∧
    ((countByStatus tasks).map Prod.snd).sum = 3 ∧
    (s.moveLocally "1" .done).1 = true ∧
    s.counts = [(.inbox, 0), (.inProgress, 0), (.review, 1), (.done, 1)] ∧
    (s.moveLocally "1" .done).2.counts =
      [(.inbox, 0), (.inProgress, 0), (.review, 0), (.done, 2)] := by
  intro lamp chair tasks s
  have hmoved : (s.moveLocally "1" .done).1 = true := by decide +kernel
  obtain ⟨-, -, -, hsum, hmove⟩ := columns_share_tasks tasks
  obtain ⟨t, ht, -, n, hbefore, -, hafter⟩ := hmove s "1" .done hmoved
  have hlamp : s.task? "1" = some lamp := by decide +kernel
  have hcounts : s.counts = [(.inbox, 0), (.inProgress, 0), (.review, 1), (.done, 1)] := by
    decide +kernel
  obtain rfl : lamp = t := Option.some.inj (hlamp.symm.trans ht)
  rw [hcounts] at hbefore
  refine ⟨by decide +kernel, hsum, hmoved, hcounts, hafter.trans ?_⟩
  simp only [Status.all, List.map_cons, List.map_nil, List.cons.injEq, Prod.mk.injEq] at hbefore ⊢
  obtain ⟨⟨-, h1⟩, ⟨-, h2⟩, ⟨-, h3⟩, ⟨-, h4⟩, -⟩ := hbefore
  simp [← h1, ← h2, ← h3, ← h4, lamp]

end LiveBoard
