import LiveBoard.Proofs.Board.Change

/-!
# The tasks of a client have distinct ids

A list of tasks from elsewhere may hold an id several times, and so may the whole board that the
relay sends. A board takes only the first task of an id from either, and nothing that happens to it
afterwards brings an id in again: a patch does not touch the id, and a new task with a known id is
refused.

So an id stands for one task. What looks for the first task of an id, as updates and moves do, and
what looks for all tasks of it, as deletions do, find the same one.

## Main definitions

* `BoardStore.IsReachable`: the boards that can come about.
* `BoardStore.HasOnce`: a task of a board with what is around it, none of which has its id.

## Main results

* `BoardStore.IsReachable.nodup_ids`: no id is held twice.
* `BoardStore.task?_eq_some_iff`: the task of an id is the only one.
* `BoardStore.ids_stay_unique`: updates, moves and deletions address this one task.
-/

namespace LiveBoard

namespace BoardStore

/-- The boards that can come about. -/
inductive IsReachable : BoardStore → Prop
  | empty : IsReachable .empty
  | seeded (tasks : List Task) : IsReachable (.seeded tasks)
  | perform {s : BoardStore} (h : IsReachable s) (c : Change) : IsReachable (s.perform c).2

/-- A board that can come about can go through any changes. -/
theorem IsReachable.run {s : BoardStore} (h : s.IsReachable) (cs : List Change) :
    (s.run cs).IsReachable := by
  induction cs generalizing s with
  | nil => exact h
  | cons c cs ih => exact ih (h.perform c)

/-! ### No id is held twice -/

theorem ids_moveLocally (id : String) (status : Status) (s : BoardStore) :
    ids (s.moveLocally id status).2.tasks = ids s.tasks := by
  rw [moveLocally]
  split
  · split
    · rfl
    · exact ids_updateFirst (f := fun t => { t with status }) (fun _ => rfl) s.tasks
  · rfl

theorem nodup_ids_seed (tasks : List Task) {s : BoardStore} (h : (ids s.tasks).Nodup) :
    (ids (s.seed tasks).2.tasks).Nodup := by
  rw [seed]
  split
  · exact h
  · exact nodup_ids_dedupById tasks

/-- Distinct ids stay distinct. -/
theorem nodup_ids_perform (c : Change) {s : BoardStore} (h : (ids s.tasks).Nodup) :
    (ids (s.perform c).2.tasks).Nodup := by
  cases c with
  | seed tasks => exact nodup_ids_seed tasks h
  | message m =>
    rw [perform_message, tasks_follow]
    exact m.nodup_ids_amend h
  | move id status =>
    have hids : ids (s.perform (.move id status)).2.tasks = ids s.tasks :=
      ids_moveLocally id status s
    rwa [hids]

/-- No id is held twice. -/
theorem IsReachable.nodup_ids {s : BoardStore} (h : s.IsReachable) : (ids s.tasks).Nodup := by
  induction h with
  | empty => exact List.nodup_nil
  | seeded tasks => exact nodup_ids_seed tasks List.nodup_nil
  | perform _ c ih => exact nodup_ids_perform c ih

/-! ### The one task of an id -/

/-- The task stands between others, none of which has its id. -/
structure HasOnce (s : BoardStore) (before : List Task) (t : Task) (after : List Task) : Prop where
  tasks : s.tasks = before ++ t :: after
  notMem_before : t.id ∉ ids before
  notMem_after : t.id ∉ ids after

namespace HasOnce

variable {s : BoardStore} {before after : List Task} {t : Task}

theorem task? (h : s.HasOnce before t after) : s.task? t.id = some t := by
  refine List.find?_eq_some_iff_append.mpr ⟨beq_self_eq_true _, before, after, h.tasks, ?_⟩
  intro u hu
  have hne : u.id ≠ t.id := fun heq => h.notMem_before (heq ▸ mem_ids_of_mem hu)
  simpa using hne

/-- A change of the first task of the id is a change of this one. -/
theorem updateFirst_tasks (h : s.HasOnce before t after) (f : Task → Task) :
    updateFirst (fun u => u.id == t.id) f s.tasks = before ++ f t :: after := by
  rw [h.tasks, updateFirst_append_of_notMem h.notMem_before, updateFirst,
    if_pos (beq_self_eq_true _)]

theorem applyUpdate (h : s.HasOnce before t after) {u : TaskUpdate} (hu : u.taskId = t.id) :
    s.applyUpdate u = (true, { s with tasks := before ++ t.apply u.changes :: after }) := by
  have hcontains : s.contains u.taskId = true := by rw [contains, hu, h.task?]; rfl
  rw [BoardStore.applyUpdate, if_pos hcontains, hu, h.updateFirst_tasks]

theorem moveLocally (h : s.HasOnce before t after) (status : Status) :
    s.moveLocally t.id status =
      (decide (t.status ≠ status), { s with tasks := before ++ { t with status } :: after }) := by
  rw [BoardStore.moveLocally, h.task?]
  by_cases hstatus : t.status = status
  · have hs : { s with tasks := before ++ { t with status } :: after } = s := by
      rw [← hstatus]
      exact congrArg (fun tasks => { s with tasks }) h.tasks.symm
    simp [hstatus, hs]
  · simp [hstatus, h.updateFirst_tasks]

theorem applyDeleted (h : s.HasOnce before t after) :
    s.applyDeleted t.id = (true, { s with tasks := before ++ after }) := by
  have hkeep : ∀ {us : List Task}, t.id ∉ ids us → us.filter (fun u => u.id != t.id) = us :=
    fun hus => List.filter_eq_self.mpr fun u hu =>
      bne_iff_ne.mpr fun heq => hus (heq ▸ mem_ids_of_mem hu)
  have hkept : s.tasks.filter (fun u => u.id != t.id) = before ++ after := by
    rw [h.tasks, List.filter_append, List.filter_cons_of_neg (by simp), hkeep h.notMem_before,
      hkeep h.notMem_after]
  have hlength : (before ++ after).length ≠ s.tasks.length := by
    rw [h.tasks, List.length_append, List.length_append, List.length_cons]
    omega
  simp only [BoardStore.applyDeleted, hkept, bne_iff_ne.mpr hlength]

end HasOnce

/-- A task of a board without two tasks of one id is the only one of its id. -/
theorem exists_hasOnce_of_mem {s : BoardStore} (h : (ids s.tasks).Nodup) {t : Task}
    (ht : t ∈ s.tasks) : ∃ before after, s.HasOnce before t after := by
  obtain ⟨before, after, htasks⟩ := List.append_of_mem ht
  rw [htasks, ids_append, ids_cons, List.nodup_append, List.nodup_cons] at h
  obtain ⟨-, ⟨hafter, -⟩, hbefore⟩ := h
  exact ⟨before, after, htasks, fun hmem => hbefore _ hmem _ List.mem_cons_self rfl, hafter⟩

/-- The task of an id is the only one. -/
theorem task?_eq_some_iff {s : BoardStore} (h : (ids s.tasks).Nodup) {id : String} {t : Task} :
    s.task? id = some t ↔ t.id = id ∧ ∃ before after, s.HasOnce before t after := by
  constructor
  · intro ht
    exact ⟨by simpa using List.find?_some ht,
      exists_hasOnce_of_mem h (List.mem_of_find?_eq_some ht)⟩
  · rintro ⟨rfl, before, after, hs⟩
    exact hs.task?

/-! ### An id without a task -/

section Unknown

variable {s : BoardStore} {id : String}

theorem task?_eq_none_iff : s.task? id = none ↔ id ∉ ids s.tasks := by
  simp [task?, mem_ids]

theorem applyUpdate_of_notMem {u : TaskUpdate} (h : u.taskId ∉ ids s.tasks) :
    s.applyUpdate u = (false, s) :=
  if_neg fun hcontains => h (contains_iff.mp hcontains)

theorem moveLocally_of_notMem (h : id ∉ ids s.tasks) (status : Status) :
    s.moveLocally id status = (false, s) := by
  rw [moveLocally, task?_eq_none_iff.mpr h]

theorem applyDeleted_of_notMem (h : id ∉ ids s.tasks) : s.applyDeleted id = (false, s) := by
  have hkept : s.tasks.filter (fun u => u.id != id) = s.tasks :=
    List.filter_eq_self.mpr fun u hu => bne_iff_ne.mpr fun heq => h (heq ▸ mem_ids_of_mem hu)
  simp only [applyDeleted, hkept, bne_self_eq_false]

end Unknown

/-- **An id stands for one task** of every board that can come about. No two of its tasks have the
same id. If there is a task of an id, then it is the one that looking it up, an update, a move and
a deletion mean, and no other task changes; if there is none, they all do nothing. A deletion takes
out at most one task. -/
theorem ids_stay_unique {s : BoardStore} (h : s.IsReachable) :
    (ids s.tasks).Nodup ∧
    (∀ id t, s.task? id = some t → t.id = id ∧ ∃ before after, s.HasOnce before t after ∧
      (∀ u : TaskUpdate, u.taskId = id →
        s.applyUpdate u = (true, { s with tasks := before ++ t.apply u.changes :: after })) ∧
      (∀ status, s.moveLocally id status =
        (decide (t.status ≠ status), { s with tasks := before ++ { t with status } :: after })) ∧
      s.applyDeleted id = (true, { s with tasks := before ++ after })) ∧
    (∀ id, s.task? id = none → id ∉ ids s.tasks ∧
      (∀ u : TaskUpdate, u.taskId = id → s.applyUpdate u = (false, s)) ∧
      (∀ status, s.moveLocally id status = (false, s)) ∧
      s.applyDeleted id = (false, s)) ∧
    ∀ id, s.tasks.length ≤ (s.applyDeleted id).2.tasks.length + 1 := by
  refine ⟨h.nodup_ids, fun id t ht => ?_, fun id hid => ?_, fun id => ?_⟩
  · obtain ⟨rfl, before, after, hs⟩ := (task?_eq_some_iff h.nodup_ids).mp ht
    exact ⟨rfl, before, after, hs, fun _ => hs.applyUpdate, hs.moveLocally, hs.applyDeleted⟩
  · rw [task?_eq_none_iff] at hid
    refine ⟨hid, ?_, moveLocally_of_notMem hid, applyDeleted_of_notMem hid⟩
    rintro u rfl
    exact applyUpdate_of_notMem hid
  · cases ht : s.task? id with
    | none =>
      rw [applyDeleted_of_notMem (task?_eq_none_iff.mp ht)]
      exact Nat.le_succ _
    | some t =>
      obtain ⟨rfl, before, after, hs⟩ := (task?_eq_some_iff h.nodup_ids).mp ht
      rw [hs.applyDeleted, hs.tasks, List.length_append, List.length_append, List.length_cons]
      omega

/-- A board that was seeded with one id twice, was sent another id twice, has heard of a task it
knows and of a patch of one it does not know. -/
theorem ids_stay_unique_of_repeated :
    let lamp : Task := ⟨"1", "b", "Lamp", none, .inbox, "P2", none, none, none, "d", "d"⟩
    let chair : Task := { lamp with id := "2", title := "Chair" }
    let s := (seeded [lamp, { lamp with title := "Desk lamp" }]).run [.move "1" .done,
      .message (.boardState ⟨[chair, lamp, { chair with title := "Stool" }], "t"⟩),
      .message (.taskCreated ⟨{ lamp with status := .review }, "u"⟩),
      .message (.taskUpdated ⟨"3", { title := some "Desk" }, none, "v"⟩), .seed [lamp, lamp]]
    s.IsReachable ∧ (ids s.tasks).Nodup ∧ s.tasks = [chair, lamp] ∧ s.task? "1" = some lamp ∧
      s.task? "3" = none ∧ s.applyDeleted "3" = (false, s) := by
  intro lamp chair s
  have hs : s.IsReachable := (IsReachable.seeded _).run _
  obtain ⟨hnodup, -, hunknown, -⟩ := ids_stay_unique hs
  have hnone : s.task? "3" = none := by decide +kernel
  obtain ⟨-, -, -, hdelete⟩ := hunknown "3" hnone
  exact ⟨hs, hnodup, by decide +kernel, by decide +kernel, hnone, hdelete⟩

end BoardStore

end LiveBoard
