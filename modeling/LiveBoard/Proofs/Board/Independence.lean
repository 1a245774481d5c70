import LiveBoard.Proofs.Board.Reachable

/-!
# Changes of different tasks

A patch, a new task, a deletion and a move are about one task each. On a board without two tasks of
one id all four do the same kind of thing: they look at the task of the id, if there is one, and put
something in its place, or nothing. A task that was not there before goes to the front. The other
tasks have no say in this and stay where they are.

Changes of two different tasks can therefore change places. The one exception is a matter of order:
of two new tasks the later one is in front.

## Main definitions

* `editOne`, `edit`: a list of tasks with something put in the place of the task of an id.
* `BoardStore.Change.subject?`: the id of the task that a change is about.
* `BoardStore.Change.outcome`: what a change puts in the place of its task.
* `BoardStore.Change.Inserts`: a change puts a new task in front.

## Main results

* `filter_edit`: the other tasks stay where they are.
* `edit_edit`: edits of two tasks change places, or both put a task in front.
* `BoardStore.perform_eq_edit`: a change of one task is an edit.
* `BoardStore.different_tasks_commute`: changes of two different tasks change places.
-/

namespace LiveBoard

/-! ### Editing one task of a list -/

/-- What `f` puts in the place of a task, if the task has the id, and the task itself otherwise. -/
def editOne (id : String) (f : Option Task → Option Task) (t : Task) : Option Task :=
  if t.id = id then f (some t) else some t

/-- The list with what `f` puts in the place of the task of an id, or in front, if there is no such
task. -/
def edit (id : String) (f : Option Task → Option Task) (ts : List Task) : List Task :=
  if id ∈ ids ts then ts.filterMap (editOne id f) else (f none).toList ++ ts

/-- Only a task of the same id is put in the place of a task of an id. -/
def KeepsId (id : String) (f : Option Task → Option Task) : Prop :=
  ∀ o, (∀ t ∈ o, t.id = id) → ∀ t ∈ f o, t.id = id

section Edit

variable {i j k : String} {f g : Option Task → Option Task} {ts : List Task} {t : Task}

theorem edit_of_mem (h : i ∈ ids ts) : edit i f ts = ts.filterMap (editOne i f) := if_pos h

theorem edit_of_notMem (h : i ∉ ids ts) : edit i f ts = (f none).toList ++ ts := if_neg h

theorem editOne_of_eq (h : t.id = i) : editOne i f t = f (some t) := if_pos h

theorem editOne_of_ne (h : t.id ≠ i) : editOne i f t = some t := if_neg h

theorem KeepsId.id_of_none (hf : KeepsId i f) (h : t ∈ f none) : t.id = i :=
  hf none (by simp) t h

theorem KeepsId.id_of_editOne (hf : KeepsId i f) {u : Task} (h : u ∈ editOne i f t) :
    u.id = t.id := by
  by_cases ht : t.id = i
  · rw [editOne_of_eq ht] at h
    rw [ht]
    exact hf (some t) (by simpa using ht) u h
  · rw [editOne_of_ne ht] at h
    rw [Option.mem_some.mp h]

/-- Tasks of other ids stay as they are. -/
theorem filterMap_editOne_of_notMem (h : i ∉ ids ts) : ts.filterMap (editOne i f) = ts := by
  induction ts with
  | nil => rfl
  | cons t ts ih =>
    obtain ⟨ht, hts⟩ := not_or.mp (mt List.mem_cons.mpr h)
    rw [List.filterMap_cons_some (editOne_of_ne (Ne.symm ht)), ih hts]

/-- **The other tasks** stay where they are. -/
theorem filter_edit (hf : KeepsId i f) (ts : List Task) :
    (edit i f ts).filter (fun t => t.id != i) = ts.filter fun t => t.id != i := by
  by_cases hi : i ∈ ids ts
  · rw [edit_of_mem hi]
    clear hi
    induction ts with
    | nil => rfl
    | cons t ts ih =>
      by_cases ht : t.id = i
      · rw [List.filter_cons_of_neg (by simp [ht]), ← ih]
        cases hu : editOne i f t with
        | none => rw [List.filterMap_cons_none hu]
        | some u =>
          have hid : u.id = i := (hf.id_of_editOne hu).trans ht
          rw [List.filterMap_cons_some hu, List.filter_cons_of_neg (by simp [hid])]
      · rw [List.filterMap_cons_some (editOne_of_ne ht),
          List.filter_cons_of_pos (by simpa using ht), List.filter_cons_of_pos (by simpa using ht),
          ih]
  · have hfront : (f none).toList.filter (fun t => t.id != i) = [] := by
      refine List.filter_eq_nil_iff.mpr fun t ht => ?_
      simp [hf.id_of_none (Option.mem_toList.mp ht)]
    rw [edit_of_notMem hi, List.filter_append, hfront, List.nil_append]

/-- No other id comes or goes. -/
theorem mem_ids_edit (hf : KeepsId i f) (h : k ≠ i) : k ∈ ids (edit i f ts) ↔ k ∈ ids ts := by
  have hother : ∀ us : List Task, k ∈ ids (us.filter fun t => t.id != i) ↔ k ∈ ids us :=
    fun us => mem_ids_filter_ne.trans (and_iff_left h)
  rw [← hother (edit i f ts), filter_edit hf, hother]

/-- Looking up another id finds the same task. -/
theorem find?_edit_of_ne (hf : KeepsId i f) (h : k ≠ i) :
    (edit i f ts).find? (fun t => t.id == k) = ts.find? fun t => t.id == k := by
  have hother : ∀ us : List Task,
      (us.filter fun t => t.id != i).find? (fun t => t.id == k) = us.find? fun t => t.id == k := by
    intro us
    rw [List.find?_filter]
    refine congrArg (us.find? ·) (funext fun t => ?_)
    by_cases ht : t.id = k
    · simp [ht, h]
    · simp [ht]
  rw [← hother (edit i f ts), filter_edit hf, hother]

/-- A task of another id in front stays there. -/
theorem edit_toList_append (hg : KeepsId j g) (h : i ≠ j) (hi : i ∈ ids ts) :
    edit i f ((g none).toList ++ ts) = (g none).toList ++ edit i f ts := by
  have hfront : i ∉ ids (g none).toList := by
    rw [mem_ids]
    rintro ⟨t, ht, hid⟩
    exact h (hid.symm.trans (hg.id_of_none (Option.mem_toList.mp ht)))
  rw [edit_of_mem (by simp [hi]), edit_of_mem hi, List.filterMap_append,
    filterMap_editOne_of_notMem hfront]

theorem editOne_bind_editOne (hf : KeepsId i f) (h : i ≠ j) (ht : t.id = i) :
    (editOne i f t).bind (editOne j g) = (editOne j g t).bind (editOne i f) := by
  have hne : ∀ u : Task, u.id = i → u.id ≠ j := fun u hu heq => h (hu.symm.trans heq)
  rw [editOne_of_ne (hne t ht), Option.bind_some]
  cases hu : editOne i f t with
  | none => rfl
  | some u => exact editOne_of_ne (hne u ((hf.id_of_editOne hu).trans ht))

/-- **Edits of two tasks** change places, unless both put a task in front. -/
theorem edit_edit (hf : KeepsId i f) (hg : KeepsId j g) (h : i ≠ j) (ts : List Task) :
    edit j g (edit i f ts) = edit i f (edit j g ts) ∨
      ∃ a ∈ f none, ∃ b ∈ g none, i ∉ ids ts ∧ j ∉ ids ts ∧
        edit j g (edit i f ts) = b :: a :: ts ∧ edit i f (edit j g ts) = a :: b :: ts := by
  have hij : j ∈ ids (edit i f ts) ↔ j ∈ ids ts := mem_ids_edit hf (Ne.symm h)
  have hji : i ∈ ids (edit j g ts) ↔ i ∈ ids ts := mem_ids_edit hg h
  by_cases hi : i ∈ ids ts
  · by_cases hj : j ∈ ids ts
    · left
      rw [edit_of_mem (hij.mpr hj), edit_of_mem (hji.mpr hi), edit_of_mem hi, edit_of_mem hj,
        List.filterMap_filterMap, List.filterMap_filterMap]
      refine congrArg (ts.filterMap ·) (funext fun t => ?_)
      by_cases hti : t.id = i
      · exact editOne_bind_editOne hf h hti
      · by_cases htj : t.id = j
        · exact (editOne_bind_editOne hg (Ne.symm h) htj).symm
        · simp [editOne_of_ne hti, editOne_of_ne htj]
    · left
      rw [edit_of_notMem (mt hij.mp hj), edit_of_notMem hj, edit_toList_append hg h hi]
  · by_cases hj : j ∈ ids ts
    · left
      rw [edit_of_notMem (mt hji.mp hi), edit_of_notMem hi,
        edit_toList_append hf (Ne.symm h) hj]
    · rw [edit_of_notMem (mt hij.mp hj), edit_of_notMem (mt hji.mp hi), edit_of_notMem hi,
        edit_of_notMem hj]
      cases ha : f none with
      | none => exact .inl rfl
      | some a =>
        cases hb : g none with
        | none => exact .inl rfl
        | some b => exact .inr ⟨a, rfl, b, rfl, hi, hj, rfl, rfl⟩

end Edit

namespace BoardStore

/-! ### Changes of one task -/

namespace Change

/-- The id of the task that a change is about, if it is about one. -/
def subject? : Change → Option String
  | .message (.taskUpdated u) => some u.taskId
  | .message (.taskCreated c) => some c.task.id
  | .message (.taskDeleted d) => some d.taskId
  | .move id _ => some id
  | .seed _ | .message (.boardState _) | .message (.suggestionNew _)
  | .message (.heartbeatAck _) | .message .unknown => none

/-- What a change puts in the place of the task that it is about. -/
def outcome (c : Change) (o : Option Task) : Option Task :=
  match c with
  | .message (.taskUpdated u) => o.map fun t => t.apply u.changes
  | .message (.taskCreated c) => some (o.getD c.task)
  | .message (.taskDeleted _) => none
  | .move _ status => o.map fun t => { t with status }
  | .seed _ | .message (.boardState _) | .message (.suggestionNew _)
  | .message (.heartbeatAck _) | .message .unknown => o

/-- What the operation of a change says, given the task that the change is about. -/
def answer (c : Change) (o : Option Task) : Bool :=
  match c with
  | .message (.taskUpdated _) => o.isSome
  | .message (.taskCreated _) => o.isNone
  | .message (.taskDeleted _) => o.isSome
  | .move _ status => o.any fun t => t.status ≠ status
  | .seed _ | .message (.boardState _) | .message (.suggestionNew _)
  | .message (.heartbeatAck _) | .message .unknown => false

/-- The change puts a new task in front. -/
def Inserts (s : BoardStore) : Change → Prop
  | .message (.taskCreated c) => c.task.id ∉ ids s.tasks
  | .message (.taskUpdated _) | .message (.taskDeleted _) | .move _ _ | .seed _
  | .message (.boardState _) | .message (.suggestionNew _) | .message (.heartbeatAck _)
  | .message .unknown => False

variable {c : Change} {i : String} {s : BoardStore}

/-- The four kinds of changes that are about one task. -/
theorem subject_cases (hc : i ∈ c.subject?) :
    (∃ u : TaskUpdate, u.taskId = i ∧ c = .message (.taskUpdated u)) ∨
    (∃ created : TaskCreated, created.task.id = i ∧ c = .message (.taskCreated created)) ∨
    (∃ d : TaskDeleted, d.taskId = i ∧ c = .message (.taskDeleted d)) ∨
    ∃ status, c = .move i status := by
  cases c with
  | seed tasks => cases hc
  | move id status => exact .inr (.inr (.inr ⟨status, by rw [Option.some.inj hc]⟩))
  | message m =>
    cases m with
    | taskUpdated u => exact .inl ⟨u, Option.some.inj hc, rfl⟩
    | taskCreated created => exact .inr (.inl ⟨created, Option.some.inj hc, rfl⟩)
    | taskDeleted d => exact .inr (.inr (.inl ⟨d, Option.some.inj hc, rfl⟩))
    | boardState b => cases hc
    | suggestionNew suggestion => cases hc
    | heartbeatAck id => cases hc
    | unknown => cases hc

theorem keepsId_outcome (hc : i ∈ c.subject?) : KeepsId i c.outcome := by
  intro o ho t ht
  obtain ⟨u, -, rfl⟩ | ⟨created, hid, rfl⟩ | ⟨d, -, rfl⟩ | ⟨status, rfl⟩ := subject_cases hc
  · obtain ⟨v, hv, rfl⟩ := Option.map_eq_some_iff.mp ht
    exact ho v hv
  · obtain rfl := Option.mem_some.mp ht
    cases o with
    | none => exact hid
    | some v => exact ho v rfl
  · cases ht
  · obtain ⟨v, hv, rfl⟩ := Option.map_eq_some_iff.mp ht
    exact ho v hv

/-- Only a new task is put where there was none. -/
theorem inserts_of_mem_outcome (hc : i ∈ c.subject?) (hi : i ∉ ids s.tasks) {t : Task}
    (ht : t ∈ c.outcome none) : c.Inserts s := by
  obtain ⟨u, -, rfl⟩ | ⟨created, rfl, rfl⟩ | ⟨d, -, rfl⟩ | ⟨status, rfl⟩ := subject_cases hc
  · cases ht
  · exact hi
  · cases ht
  · cases ht

end Change

section Perform

variable {s : BoardStore} {c d : Change} {i j : String}

/-- Editing the only task of an id leaves what is around it. -/
theorem HasOnce.edit_tasks {before after : List Task} {t : Task} (h : s.HasOnce before t after)
    (f : Option Task → Option Task) :
    edit t.id f s.tasks = before ++ ((f (some t)).toList ++ after) := by
  have hmid : [t].filterMap (editOne t.id f) = (f (some t)).toList := by
    cases hu : f (some t) <;> simp [editOne_of_eq, hu]
  rw [edit_of_mem (h.tasks ▸ by simp), h.tasks, List.filterMap_append,
    filterMap_editOne_of_notMem h.notMem_before, ← List.singleton_append, List.filterMap_append,
    hmid, filterMap_editOne_of_notMem h.notMem_after]

/-- Where there is no task of the id and nothing is put in its place, the board stays as it is. -/
theorem edit_eq_self {f : Option Task → Option Task} (hi : i ∉ ids s.tasks) (hf : f none = none) :
    { s with tasks := edit i f s.tasks } = s := by
  rw [edit_of_notMem hi, hf]
  rfl

theorem perform_of_operation {f : BoardStore → Bool × BoardStore} {r : Bool × BoardStore}
    (hf : c.operation? = some f) (hr : f s = r) : s.perform c = (some r.1, r.2) := by
  rw [perform, hf, ← hr]

/-- A change of a task that is there. -/
theorem HasOnce.perform {before after : List Task} {t : Task} (h : s.HasOnce before t after)
    (hc : t.id ∈ c.subject?) :
    s.perform c = (some (c.answer (some t)), { s with tasks := edit t.id c.outcome s.tasks }) := by
  rw [h.edit_tasks]
  obtain ⟨u, hid, rfl⟩ | ⟨created, hid, rfl⟩ | ⟨d, hid, rfl⟩ | ⟨status, rfl⟩ :=
    Change.subject_cases hc
  · exact perform_of_operation rfl (h.applyUpdate hid)
  · have hknown : s.contains created.task.id = true := by rw [contains, hid, h.task?]; rfl
    have hs : s = { s with tasks := before ++ t :: after } :=
      congrArg (fun tasks => { s with tasks }) h.tasks
    have hrefused : s.applyCreated created.task = (false, s) := if_pos hknown
    exact perform_of_operation rfl (hrefused.trans (congrArg (Prod.mk false) hs))
  · have hdeleted := h.applyDeleted
    rw [← hid] at hdeleted
    exact perform_of_operation rfl hdeleted
  · exact perform_of_operation rfl (h.moveLocally status)

/-- A change of a task that is not there. -/
theorem perform_of_notMem (hi : i ∉ ids s.tasks) (hc : i ∈ c.subject?) :
    s.perform c = (some (c.answer none), { s with tasks := edit i c.outcome s.tasks }) := by
  obtain ⟨u, rfl, rfl⟩ | ⟨created, rfl, rfl⟩ | ⟨d, rfl, rfl⟩ | ⟨status, rfl⟩ :=
    Change.subject_cases hc
  · rw [edit_eq_self hi rfl]
    exact perform_of_operation rfl (applyUpdate_of_notMem hi)
  · have hnew : s.applyCreated created.task = (true, { s with tasks := created.task :: s.tasks }) :=
      if_neg (mt contains_iff.mp hi)
    rw [edit_of_notMem hi]
    exact perform_of_operation rfl hnew
  · rw [edit_eq_self hi rfl]
    exact perform_of_operation rfl (applyDeleted_of_notMem hi)
  · rw [edit_eq_self hi rfl]
    exact perform_of_operation rfl (moveLocally_of_notMem hi status)

/-- **A change of one task is an edit**, and what its operation says depends on this task alone. -/
theorem perform_eq_edit (h : (ids s.tasks).Nodup) (hc : i ∈ c.subject?) :
    s.perform c =
      (some (c.answer (s.task? i)), { s with tasks := edit i c.outcome s.tasks }) := by
  cases ht : s.task? i with
  | none => exact perform_of_notMem (task?_eq_none_iff.mp ht) hc
  | some t =>
    obtain ⟨rfl, before, after, hs⟩ := (task?_eq_some_iff h).mp ht
    exact hs.perform hc

/-- A change of another task does not touch this one. -/
theorem task?_perform_of_ne (h : (ids s.tasks).Nodup) (hc : i ∈ c.subject?) (hj : j ≠ i) :
    (s.perform c).2.task? j = s.task? j := by
  rw [perform_eq_edit h hc]
  exact find?_edit_of_ne (Change.keepsId_outcome hc) hj

/-- What an operation says does not depend on a change of another task before it. -/
theorem answer_perform_of_ne (h : (ids s.tasks).Nodup) (hc : i ∈ c.subject?)
    (hd : j ∈ d.subject?) (hij : i ≠ j) :
    ((s.perform c).2.perform d).1 = (s.perform d).1 := by
  rw [perform_eq_edit (nodup_ids_perform c h) hd, perform_eq_edit h hd,
    task?_perform_of_ne h hc (Ne.symm hij)]

/-- After changes of two tasks the board is the same, or both have put a new task in front. -/
theorem perform_perform (h : (ids s.tasks).Nodup) (hc : i ∈ c.subject?) (hd : j ∈ d.subject?)
    (hij : i ≠ j) :
    ((s.perform c).2.perform d).2 = ((s.perform d).2.perform c).2 ∨
      c.Inserts s ∧ d.Inserts s ∧ ∃ a b,
        ((s.perform c).2.perform d).2 = { s with tasks := b :: a :: s.tasks } ∧
        ((s.perform d).2.perform c).2 = { s with tasks := a :: b :: s.tasks } := by
  rw [perform_eq_edit (nodup_ids_perform c h) hd, perform_eq_edit (nodup_ids_perform d h) hc,
    perform_eq_edit h hc, perform_eq_edit h hd]
  let withTasks (tasks : List Task) : BoardStore := { s with tasks }
  obtain heq | ⟨a, ha, b, hb, hi, hj, hcd, hdc⟩ := edit_edit (Change.keepsId_outcome hc)
    (Change.keepsId_outcome hd) hij s.tasks
  · exact .inl (congrArg withTasks heq)
  · exact .inr ⟨Change.inserts_of_mem_outcome hc hi ha, Change.inserts_of_mem_outcome hd hj hb,
      a, b, congrArg withTasks hcd, congrArg withTasks hdc⟩

/-! ### The order of the tasks -/

theorem task?_eq_some_iff_mem (h : (ids s.tasks).Nodup) {id : String} {t : Task} :
    s.task? id = some t ↔ t.id = id ∧ t ∈ s.tasks := by
  rw [task?_eq_some_iff h]
  constructor
  · rintro ⟨hid, before, after, hs⟩
    exact ⟨hid, hs.tasks ▸ List.mem_append_right _ List.mem_cons_self⟩
  · rintro ⟨hid, ht⟩
    exact ⟨hid, exists_hasOnce_of_mem h ht⟩

/-- The order of the tasks has no say in what looking up an id finds. -/
theorem task?_eq_of_perm {s' : BoardStore} (h : (ids s.tasks).Nodup)
    (hperm : s.tasks.Perm s'.tasks) (id : String) : s.task? id = s'.task? id := by
  have h' : (ids s'.tasks).Nodup := (hperm.map _).nodup_iff.mp h
  refine Option.ext fun t => ?_
  rw [task?_eq_some_iff_mem h, task?_eq_some_iff_mem h', hperm.mem_iff]

/-- Nor has it in how many tasks every status has. -/
theorem counts_eq_of_perm {s' : BoardStore} (hperm : s.tasks.Perm s'.tasks) :
    s.counts = s'.counts :=
  List.map_congr_left fun _ _ => congrArg _ (hperm.countP_eq _)

/-- Changes of two tasks give the same tasks, if not in the same order, and the same of all else
in either order. -/
theorem perm_perform_perform (h : (ids s.tasks).Nodup) (hc : i ∈ c.subject?)
    (hd : j ∈ d.subject?) (hij : i ≠ j) :
    ((s.perform c).2.perform d).2.tasks.Perm ((s.perform d).2.perform c).2.tasks := by
  obtain heq | ⟨-, -, a, b, hcd, hdc⟩ := perform_perform h hc hd hij
  · rw [heq]
  · rw [hcd, hdc]
    exact .swap a b s.tasks

/-- A change of one task touches nothing but the tasks. -/
theorem suggestions_perform_of_subject (h : (ids s.tasks).Nodup) (hc : i ∈ c.subject?) :
    (s.perform c).2.suggestions = s.suggestions := by
  rw [perform_eq_edit h hc]

/-- **Changes of two different tasks change places.** A patch, a new task, a deletion and a move
leave all tasks but their own as they are and in the order in which they are. If they are about
different tasks, then each of two such changes is answered in the same way before and after the
other one, and afterwards every id stands for the same task, there are as many tasks, as many of
every status, and the same suggestions. The boards are equal, the order of the tasks included,
unless both changes put a new task in front. -/
theorem different_tasks_commute (h : s.IsReachable) :
    (∀ c i, i ∈ c.subject? →
      ((s.perform c).2.tasks.filter fun t => t.id != i) = s.tasks.filter (fun t => t.id != i) ∧
      ∀ id, id ≠ i → (s.perform c).2.task? id = s.task? id) ∧
    ∀ c d i j, i ∈ c.subject? → j ∈ d.subject? → i ≠ j →
      let cd := (s.perform c).2.perform d
      let dc := (s.perform d).2.perform c
      cd.1 = (s.perform d).1 ∧ dc.1 = (s.perform c).1 ∧
      (∀ id, cd.2.task? id = dc.2.task? id) ∧ cd.2.tasks.length = dc.2.tasks.length ∧
      cd.2.counts = dc.2.counts ∧ cd.2.suggestions = dc.2.suggestions ∧
      (¬(c.Inserts s ∧ d.Inserts s) → cd.2 = dc.2) := by
  have hnodup := h.nodup_ids
  refine ⟨fun c i hc => ⟨?_, fun id hid => task?_perform_of_ne hnodup hc hid⟩, ?_⟩
  · rw [perform_eq_edit hnodup hc]
    exact filter_edit (Change.keepsId_outcome hc) s.tasks
  · intro c d i j hc hd hij cd dc
    have hperm : cd.2.tasks.Perm dc.2.tasks := perm_perform_perform hnodup hc hd hij
    have hcd : (ids cd.2.tasks).Nodup := ((h.perform c).perform d).nodup_ids
    have hsuggestions : cd.2.suggestions = dc.2.suggestions := by
      rw [suggestions_perform_of_subject (h.perform c).nodup_ids hd,
        suggestions_perform_of_subject hnodup hc,
        suggestions_perform_of_subject (h.perform d).nodup_ids hc,
        suggestions_perform_of_subject hnodup hd]
    refine ⟨answer_perform_of_ne hnodup hc hd hij, answer_perform_of_ne hnodup hd hc hij.symm,
      task?_eq_of_perm hcd hperm, hperm.length_eq, counts_eq_of_perm hperm, hsuggestions,
      fun hboth => ?_⟩
    obtain heq | ⟨hinc, hind, -⟩ := perform_perform hnodup hc hd hij
    · exact heq
    · exact absurd ⟨hinc, hind⟩ hboth

/-- A deletion and a new task change places on a board with two tasks. Of two new tasks the later
one is in front. -/
theorem different_tasks_commute_of_created :
    let lamp : Task := ⟨"1", "b", "Lamp", none, .inbox, "P2", none, none, none, "d", "d"⟩
    let chair : Task := { lamp with id := "2", title := "Chair" }
    let desk : Task := { lamp with id := "3", title := "Desk" }
    let shelf : Task := { lamp with id := "4", title := "Shelf" }
    let s := seeded [lamp, chair]
    let delete : Change := .message (.taskDeleted ⟨"1", "t"⟩)
    let create : Change := .message (.taskCreated ⟨desk, "t"⟩)
    let add : Change := .message (.taskCreated ⟨shelf, "t"⟩)
    s.IsReachable ∧ "1" ∈ delete.subject? ∧ "3" ∈ create.subject? ∧ "4" ∈ add.subject? ∧
      ¬(delete.Inserts s ∧ create.Inserts s) ∧
      ((s.perform delete).2.perform create).2 = ((s.perform create).2.perform delete).2 ∧
      ((s.perform delete).2.perform create).2.tasks = [desk, chair] ∧
      (∀ id, ((s.perform create).2.perform add).2.task? id =
        ((s.perform add).2.perform create).2.task? id) ∧
      ((s.perform create).2.perform add).2.tasks = [shelf, desk, lamp, chair] ∧
      ((s.perform add).2.perform create).2.tasks = [desk, shelf, lamp, chair] := by
  intro lamp chair desk shelf s delete create add
  have hs : s.IsReachable := .seeded [lamp, chair]
  have hdelete : ¬(delete.Inserts s ∧ create.Inserts s) := And.left
  obtain ⟨-, hcommute⟩ := different_tasks_commute hs
  obtain ⟨-, -, -, -, -, -, heq⟩ := hcommute delete create "1" "3" rfl rfl (by decide)
  obtain ⟨-, -, htask, -⟩ := hcommute create add "3" "4" rfl rfl (by decide)
  exact ⟨hs, rfl, rfl, rfl, hdelete, heq hdelete, by decide +kernel, htask, by decide +kernel,
    by decide +kernel⟩

end Perform

end BoardStore

end LiveBoard
