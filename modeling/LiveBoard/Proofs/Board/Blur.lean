import LiveBoard.Proofs.Board.Amend

/-!
# Boards up to the status of some tasks

A client that moves a task shows it in its new place before the relay knows. Until the relay has
confirmed the move, the boards of both can differ in the status of this task and in nothing else.
A board is blurred when the status of some tasks is wiped out: two boards are equal but for the
status of these tasks when they look the same blurred.

A message of the relay keeps such boards equal but for the same tasks. The move of a task that is
among them makes them equal in its status too.

## Main definitions

* `blur`: the tasks of a board with the status of some of them wiped out.

## Main results

* `blur_amend_congr`, `blur_amendAll_congr`: messages keep boards equal up to some status.
* `blur_update_congr`: setting the status of a task makes it equal.
* `blur_moveLocally`: a client that moves a task changes only its status.
-/

namespace LiveBoard

/-- A task, without its status if its id is a hidden one. -/
def Task.blur (hidden : List String) (t : Task) : Task :=
  if t.id ∈ hidden then { t with status := .inbox } else t

/-- The tasks of a board, without the status of those whose id is a hidden one. -/
def blur (hidden : List String) (ts : List Task) : List Task := ts.map (Task.blur hidden)

section Task

variable {hidden hidden' : List String} {t : Task}

theorem Task.blur_of_mem (h : t.id ∈ hidden) : t.blur hidden = { t with status := .inbox } :=
  if_pos h

theorem Task.blur_of_notMem (h : t.id ∉ hidden) : t.blur hidden = t := if_neg h

@[simp] theorem Task.id_blur (hidden : List String) (t : Task) : (t.blur hidden).id = t.id := by
  rw [Task.blur]
  split <;> rfl

theorem Task.blur_blur_of_subset (h : hidden ⊆ hidden') (t : Task) :
    (t.blur hidden).blur hidden' = t.blur hidden' := by
  by_cases ht : t.id ∈ hidden
  · have ht' : (t.blur hidden).id ∈ hidden' := by
      rw [Task.id_blur]
      exact h ht
    rw [Task.blur_of_mem ht', Task.blur_of_mem ht, Task.blur_of_mem (h ht)]
  · rw [Task.blur_of_notMem ht]

/-- A patch does not look at the status. -/
theorem Task.blur_apply_blur (hidden : List String) (p : Patch) (t : Task) :
    ((t.blur hidden).apply p).blur hidden = (t.apply p).blur hidden := by
  by_cases ht : t.id ∈ hidden
  · have hp : ∀ u : Task, u.id = t.id → (u.apply p).id ∈ hidden := fun u hu => by
      rw [Task.id_apply, hu]
      exact ht
    rw [Task.blur_of_mem (hp _ (t.id_blur hidden)), Task.blur_of_mem (hp t rfl),
      Task.blur_of_mem ht]
    rfl
  · rw [Task.blur_of_notMem ht]

end Task

section Blur

variable {hidden hidden' : List String} {ts us : List Task}

@[simp] theorem blur_cons (hidden : List String) (t : Task) (ts : List Task) :
    blur hidden (t :: ts) = t.blur hidden :: blur hidden ts := rfl

@[simp] theorem blur_nil (ts : List Task) : blur [] ts = ts :=
  (List.map_congr_left fun _ _ => Task.blur_of_notMem List.not_mem_nil).trans (List.map_id ts)

@[simp] theorem ids_blur (hidden : List String) (ts : List Task) :
    ids (blur hidden ts) = ids ts := by
  rw [ids, blur, List.map_map]
  exact List.map_congr_left fun t _ => t.id_blur hidden

theorem blur_blur_of_subset (h : hidden ⊆ hidden') (ts : List Task) :
    blur hidden' (blur hidden ts) = blur hidden' ts := by
  rw [blur, blur, List.map_map]
  exact List.map_congr_left fun t _ => t.blur_blur_of_subset h

theorem blur_blur (hidden : List String) (ts : List Task) :
    blur hidden (blur hidden ts) = blur hidden ts :=
  blur_blur_of_subset (List.Subset.refl hidden) ts

theorem ids_eq_of_blur_eq (h : blur hidden ts = blur hidden us) : ids ts = ids us := by
  rw [← ids_blur hidden ts, h, ids_blur]

/-- What is equal but for some tasks is equal but for more tasks. -/
theorem blur_congr_of_subset (hsub : hidden ⊆ hidden') (h : blur hidden ts = blur hidden us) :
    blur hidden' ts = blur hidden' us := by
  rw [← blur_blur_of_subset hsub ts, h, blur_blur_of_subset hsub]

/-- There is no need to hide a task that is not there. -/
theorem blur_cons_of_notMem {id : String} (h : id ∉ ids ts) :
    blur (id :: hidden) ts = blur hidden ts := by
  refine List.map_congr_left fun t ht => ?_
  have hne : t.id ≠ id := fun heq => h (heq ▸ mem_ids_of_mem ht)
  simp [Task.blur, hne]

/-! ### Messages -/

theorem blur_updateFirst_blur (hidden : List String) (id : String) (p : Patch) (ts : List Task) :
    blur hidden (updateFirst (fun t => t.id == id) (fun t => t.apply p) (blur hidden ts)) =
      blur hidden (updateFirst (fun t => t.id == id) (fun t => t.apply p) ts) := by
  induction ts with
  | nil => rfl
  | cons t ts ih =>
    rw [blur_cons, updateFirst, updateFirst, Task.id_blur]
    split
    · rw [blur_cons, blur_cons, t.blur_apply_blur, blur_blur]
    · rw [blur_cons, blur_cons, t.blur_blur_of_subset (List.Subset.refl hidden), ih]

/-- A message of the relay does not look at the status of tasks. -/
theorem blur_amend_blur (hidden : List String) (m : ServerMessage) (ts : List Task) :
    blur hidden (m.amend (blur hidden ts)) = blur hidden (m.amend ts) := by
  cases m with
  | boardState s => rfl
  | taskUpdated u => exact blur_updateFirst_blur hidden u.taskId u.changes ts
  | taskCreated c =>
    by_cases hc : c.task.id ∈ ids ts
    · have hc' : c.task.id ∈ ids (blur hidden ts) := by rwa [ids_blur]
      rw [ServerMessage.amend_taskCreated_of_mem hc, ServerMessage.amend_taskCreated_of_mem hc',
        blur_blur]
    · have hc' : c.task.id ∉ ids (blur hidden ts) := by rwa [ids_blur]
      rw [ServerMessage.amend_taskCreated_of_notMem hc,
        ServerMessage.amend_taskCreated_of_notMem hc', blur_cons, blur_cons, blur_blur]
  | taskDeleted d =>
    have hfilter : (blur hidden ts).filter (fun t => t.id != d.taskId) =
        blur hidden (ts.filter fun t => t.id != d.taskId) := by
      rw [blur, List.filter_map, blur]
      congr 1
      exact List.filter_congr fun t _ => by simp
    rw [ServerMessage.amend, ServerMessage.amend, hfilter, blur_blur]
  | suggestionNew s => exact blur_blur hidden ts
  | heartbeatAck id => exact blur_blur hidden ts
  | unknown => exact blur_blur hidden ts

/-- **A message keeps boards equal** up to the status of the same tasks. -/
theorem blur_amend_congr (h : blur hidden ts = blur hidden us) (m : ServerMessage) :
    blur hidden (m.amend ts) = blur hidden (m.amend us) := by
  rw [← blur_amend_blur hidden m ts, h, blur_amend_blur]

theorem blur_amendAll_congr (h : blur hidden ts = blur hidden us) (ms : List ServerMessage) :
    blur hidden (ServerMessage.amendAll ms ts) = blur hidden (ServerMessage.amendAll ms us) := by
  induction ms generalizing ts us with
  | nil => exact h
  | cons m ms ih => exact ih (blur_amend_congr h m)

/-! ### Moves -/

/-- A task that is given a status was allowed to differ in it. -/
theorem Task.blur_apply_blur_cons {id : String} {p : Patch} (hp : p.status.isSome = true)
    (t : Task) :
    ((if (t.blur (id :: hidden)).id = id then (t.blur (id :: hidden)).apply p
        else t.blur (id :: hidden)).blur hidden) =
      (if t.id = id then t.apply p else t).blur hidden := by
  obtain ⟨s, hs⟩ := Option.isSome_iff_exists.mp hp
  rw [Task.id_blur]
  by_cases ht : t.id = id
  · have hblur : (t.blur (id :: hidden)).apply p = t.apply p := by
      rw [Task.blur_of_mem (ht ▸ List.mem_cons_self)]
      simp [Task.apply, hs]
    rw [if_pos ht, if_pos ht, hblur]
  · have hmem : t.id ∈ id :: hidden ↔ t.id ∈ hidden := by simp [ht]
    have hblur : t.blur (id :: hidden) = t.blur hidden := by simp only [Task.blur, hmem]
    rw [if_neg ht, if_neg ht, hblur, t.blur_blur_of_subset (List.Subset.refl hidden)]

/-- **Setting the status of a task** makes boards equal in it. -/
theorem blur_update_congr {id : String} {p : Patch} (hp : p.status.isSome = true)
    (hts : (ids ts).Nodup) (h : blur (id :: hidden) ts = blur (id :: hidden) us) :
    blur hidden (updateFirst (fun t => t.id == id) (fun t => t.apply p) ts) =
      blur hidden (updateFirst (fun t => t.id == id) (fun t => t.apply p) us) := by
  have hus : (ids us).Nodup := ids_eq_of_blur_eq h ▸ hts
  have hfactor : ∀ vs : List Task, (ids vs).Nodup →
      blur hidden (updateFirst (fun t => t.id == id) (fun t => t.apply p) vs) =
        (blur (id :: hidden) vs).map fun t =>
          (if t.id = id then t.apply p else t).blur hidden := by
    intro vs hvs
    rw [updateFirst_eq_map hvs, blur, List.map_map, blur, List.map_map]
    exact List.map_congr_left fun t _ => (Task.blur_apply_blur_cons hp t).symm
  rw [hfactor ts hts, hfactor us hus, h]

/-- A client that moves a task changes nothing but its status. -/
theorem blur_moveLocally {id : String} (hid : id ∈ hidden) (status : Status) (s : BoardStore) :
    blur hidden (s.moveLocally id status).2.tasks = blur hidden s.tasks := by
  rw [BoardStore.moveLocally]
  split
  · split
    · rfl
    · refine map_updateFirst (fun t ht => ?_) s.tasks
      have hmem : t.id ∈ hidden := by rwa [beq_iff_eq.mp ht]
      rw [Task.blur_of_mem hmem]
      exact Task.blur_of_mem hmem
  · rfl

theorem authoritative_moveLocally (id : String) (status : Status) (s : BoardStore) :
    (s.moveLocally id status).2.authoritative = s.authoritative := by
  rw [BoardStore.moveLocally]
  split
  · split <;> rfl
  · rfl

end Blur

end LiveBoard
