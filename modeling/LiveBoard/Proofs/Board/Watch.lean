import LiveBoard.Proofs.Board.Reachable

/-!
# Waking those who watch a board

Those who watch a shared board are woken whenever an operation says that it has done something. An
operation that says no has left the whole board as it was, so nothing changes without waking them.

The converse does not hold. Whether an operation says yes depends on whether it was carried out,
not on what came of it: a patch of a known task, a list of tasks from elsewhere and the whole board
from the relay may bring nothing that the board does not hold already, and wake everybody all the
same. No other operation does this.

## Main definitions

* `Patch.IsHeldBy`: a task already has every value that a patch names.
* `BoardStore.Change.Does`: what a change makes of a board when its operation says yes.
* `BoardStore.Change.Repeats`: a change brings only what a board already holds.
* `SharedBoard.undergo`, `SharedBoard.run`: a shared board after a change, and after several.

## Main results

* `BoardStore.perform_cases`: a change leaves the whole board as it was, or its operation says yes.
* `BoardStore.Change.Does.eq_self_iff`: what an operation that says yes leaves as it was.
* `SharedBoard.differs_iff_of_woken`: what those who watch are woken for.
* `SharedBoard.no_change_unannounced`: they are woken for every change.
-/

namespace LiveBoard

/-! ### Patches that change nothing -/

/-- The task already has every value that the patch names. -/
structure Patch.IsHeldBy (p : Patch) (t : Task) : Prop where
  boardId : ∀ v ∈ p.boardId, v = t.boardId
  title : ∀ v ∈ p.title, v = t.title
  description : ∀ v ∈ p.description, v = t.description
  status : ∀ v ∈ p.status, v = t.status
  priority : ∀ v ∈ p.priority, v = t.priority
  dueAt : ∀ v ∈ p.dueAt, v = t.dueAt
  assignedAgentId : ∀ v ∈ p.assignedAgentId, v = t.assignedAgentId
  createdByUserId : ∀ v ∈ p.createdByUserId, v = t.createdByUserId
  createdAt : ∀ v ∈ p.createdAt, v = t.createdAt
  updatedAt : ∀ v ∈ p.updatedAt, v = t.updatedAt

private theorem getD_eq_self_iff {α : Type} {o : Option α} {a : α} :
    o.getD a = a ↔ ∀ v ∈ o, v = a := by
  cases o <;> simp

/-- A patch leaves a task as it was exactly if it names only what the task has. -/
theorem Task.apply_eq_self_iff {t : Task} {p : Patch} : t.apply p = t ↔ p.IsHeldBy t := by
  obtain ⟨id, board, title, text, status, priority, due, agent, user, created, updated⟩ := t
  simp only [apply, mk.injEq, true_and, getD_eq_self_iff]
  constructor
  · rintro ⟨h1, h2, h3, h4, h5, h6, h7, h8, h9, h10⟩
    exact ⟨h1, h2, h3, h4, h5, h6, h7, h8, h9, h10⟩
  · rintro ⟨h1, h2, h3, h4, h5, h6, h7, h8, h9, h10⟩
    exact ⟨h1, h2, h3, h4, h5, h6, h7, h8, h9, h10⟩

instance (p : Patch) (t : Task) : Decidable (p.IsHeldBy t) :=
  decidable_of_iff (t.apply p = t) Task.apply_eq_self_iff

theorem updateFirst_eq_self_iff {α : Type} {p : α → Bool} {f : α → α} {as : List α} :
    updateFirst p f as = as ↔ ∀ a ∈ as.find? p, f a = a := by
  induction as with
  | nil => simp [updateFirst]
  | cons a as ih =>
    by_cases ha : p a = true
    · simp [updateFirst, ha]
    · simp [updateFirst, ha, ih]

theorem filter_ne_self {id : String} {ts : List Task} (h : id ∈ ids ts) :
    ts.filter (fun t => t.id != id) ≠ ts := by
  intro hts
  rw [← hts, mem_ids_filter_ne] at h
  exact h.2 rfl

namespace BoardStore

variable {s : BoardStore}

theorem with_tasks_eq_self_iff {ts : List Task} : { s with tasks := ts } = s ↔ ts = s.tasks := by
  constructor
  · exact congrArg tasks
  · rintro rfl
    rfl

/-! ### What a change does -/

/-- What a change makes of a board when its operation says yes. -/
inductive Change.Does (s : BoardStore) : Change → BoardStore → Prop
  /-- The tasks come from elsewhere. -/
  | seeded {tasks : List Task} (hwhole : s.authoritative = false) :
    Does s (.seed tasks) { s with tasks := dedupById tasks }
  /-- The relay sends the whole board. -/
  | sent {b : Snapshot} :
    Does s (.message (.boardState b))
      { s with tasks := dedupById b.tasks, authoritative := true, snapshotAt := some b.timestamp }
  /-- A known task is patched. -/
  | patched {u : TaskUpdate} {t : Task} (ht : s.task? u.taskId = some t) :
    Does s (.message (.taskUpdated u)) { s with
      tasks := updateFirst (fun t => t.id == u.taskId) (fun t => t.apply u.changes) s.tasks }
  /-- A new task is put in front. -/
  | created {c : TaskCreated} (hnew : c.task.id ∉ ids s.tasks) :
    Does s (.message (.taskCreated c)) { s with tasks := c.task :: s.tasks }
  /-- The tasks of a known id are taken out. -/
  | deleted {d : TaskDeleted} (hid : d.taskId ∈ ids s.tasks) :
    Does s (.message (.taskDeleted d))
      { s with tasks := s.tasks.filter fun t => t.id != d.taskId }
  /-- A new suggestion is put in front. -/
  | suggested {suggestion : Suggestion}
    (hnew : ¬s.suggestions.contains suggestion.id = true) :
    Does s (.message (.suggestionNew suggestion))
      (s.withSuggestions { s.suggestions with
        items := (suggestion :: s.suggestions.items).take s.suggestions.capacity })
  /-- A task gets another status. -/
  | moved {id : String} {status : Status} {t : Task} (ht : s.task? id = some t)
    (hstatus : t.status ≠ status) :
    Does s (.move id status) { s with
      tasks := updateFirst (fun t => t.id == id) (fun t => { t with status }) s.tasks }

section Operations

variable (s)

theorem seed_cases (tasks : List Task) :
    s.seed tasks = (false, s) ∨
      ∃ s', s.seed tasks = (true, s') ∧ Change.Does s (.seed tasks) s' := by
  rw [seed]
  split
  · exact .inl rfl
  · next hwhole => exact .inr ⟨_, rfl, .seeded (Bool.eq_false_iff.mpr hwhole)⟩

theorem applyUpdate_cases (u : TaskUpdate) :
    s.applyUpdate u = (false, s) ∨
      ∃ s', s.applyUpdate u = (true, s') ∧ Change.Does s (.message (.taskUpdated u)) s' := by
  rw [applyUpdate]
  split
  · next hknown =>
    obtain ⟨t, ht⟩ := Option.isSome_iff_exists.mp hknown
    exact .inr ⟨_, rfl, .patched ht⟩
  · exact .inl rfl

theorem applyCreated_cases (c : TaskCreated) :
    s.applyCreated c.task = (false, s) ∨
      ∃ s', s.applyCreated c.task = (true, s') ∧ Change.Does s (.message (.taskCreated c)) s' := by
  rw [applyCreated]
  split
  · exact .inl rfl
  · next hnew => exact .inr ⟨_, rfl, .created fun hid => hnew (contains_iff.mpr hid)⟩

theorem applyDeleted_cases (d : TaskDeleted) :
    s.applyDeleted d.taskId = (false, s) ∨
      ∃ s', s.applyDeleted d.taskId = (true, s') ∧
        Change.Does s (.message (.taskDeleted d)) s' := by
  by_cases hid : d.taskId ∈ ids s.tasks
  · have hlength : (s.tasks.filter fun t => t.id != d.taskId).length ≠ s.tasks.length :=
      fun heq => filter_ne_self hid (List.filter_sublist.eq_of_length heq)
    exact .inr ⟨_, Prod.ext (bne_iff_ne.mpr hlength) rfl, .deleted hid⟩
  · exact .inl (applyDeleted_of_notMem hid)

theorem applySuggestion_cases (suggestion : Suggestion) :
    s.applySuggestion suggestion = (false, s) ∨
      ∃ s', s.applySuggestion suggestion = (true, s') ∧
        Change.Does s (.message (.suggestionNew suggestion)) s' := by
  by_cases hheld : s.suggestions.contains suggestion.id = true
  · exact .inl (by simp only [applySuggestion, SuggestionBuffer.push, if_pos hheld])
  · refine .inr ⟨_, ?_, .suggested hheld⟩
    simp only [applySuggestion, SuggestionBuffer.push, if_neg hheld, withSuggestions]

theorem moveLocally_cases (id : String) (status : Status) :
    s.moveLocally id status = (false, s) ∨
      ∃ s', s.moveLocally id status = (true, s') ∧ Change.Does s (.move id status) s' := by
  rw [moveLocally]
  split
  · next t ht =>
    split
    · exact .inl rfl
    · next hstatus => exact .inr ⟨_, rfl, .moved ht hstatus⟩
  · exact .inl rfl

/-- **An operation leaves the whole board as it was and says no, or it does something and says
yes.** -/
theorem operation_cases {c : Change} {f : BoardStore → Bool × BoardStore}
    (hf : f ∈ c.operation?) : f s = (false, s) ∨ ∃ s', f s = (true, s') ∧ c.Does s s' := by
  cases c with
  | seed tasks =>
    obtain rfl := Option.mem_some.mp hf
    exact s.seed_cases tasks
  | move id status =>
    obtain rfl := Option.mem_some.mp hf
    exact s.moveLocally_cases id status
  | message m =>
    cases m with
    | boardState b =>
      obtain rfl := Option.mem_some.mp hf
      exact .inr ⟨_, rfl, .sent⟩
    | taskUpdated u =>
      obtain rfl := Option.mem_some.mp hf
      exact s.applyUpdate_cases u
    | taskCreated c =>
      obtain rfl := Option.mem_some.mp hf
      exact s.applyCreated_cases c
    | taskDeleted d =>
      obtain rfl := Option.mem_some.mp hf
      exact s.applyDeleted_cases d
    | suggestionNew suggestion =>
      obtain rfl := Option.mem_some.mp hf
      exact s.applySuggestion_cases suggestion
    | heartbeatAck id => cases hf
    | unknown => cases hf

/-- A change leaves the whole board as it was, or its operation says yes. -/
theorem perform_cases (c : Change) :
    (s.perform c).1 ≠ some true ∧ (s.perform c).2 = s ∨
      (s.perform c).1 = some true ∧ c.Does s (s.perform c).2 := by
  rw [perform]
  cases hf : c.operation? with
  | none => exact .inl ⟨by simp, rfl⟩
  | some f =>
    obtain hno | ⟨s', hyes, hdoes⟩ := s.operation_cases hf
    · exact .inl (by simp [hno])
    · exact .inr (by simpa [hyes] using hdoes)

end Operations

theorem perform_eq_self {c : Change} (h : (s.perform c).1 ≠ some true) : (s.perform c).2 = s := by
  obtain ⟨-, hs⟩ | ⟨hyes, -⟩ := s.perform_cases c
  · exact hs
  · exact absurd hyes h

/-! ### Changes that bring nothing new -/

/-- The change brings only what the board already holds. -/
def Change.Repeats (s : BoardStore) : Change → Prop
  | .seed tasks => dedupById tasks = s.tasks
  | .message (.boardState b) =>
    dedupById b.tasks = s.tasks ∧ s.authoritative = true ∧ s.snapshotAt = some b.timestamp
  | .message (.taskUpdated u) => ∀ t ∈ s.task? u.taskId, u.changes.IsHeldBy t
  | .message _ => False
  | .move _ _ => False

instance (s : BoardStore) : (c : Change) → Decidable (c.Repeats s)
  | .seed _ => inferInstanceAs (Decidable (_ = _))
  | .message (.boardState _) => inferInstanceAs (Decidable (_ ∧ _ ∧ _))
  | .message (.taskUpdated u) =>
    inferInstanceAs (Decidable (∀ t ∈ s.task? u.taskId, u.changes.IsHeldBy t))
  | .message (.taskCreated _) => inferInstanceAs (Decidable False)
  | .message (.taskDeleted _) => inferInstanceAs (Decidable False)
  | .message (.suggestionNew _) => inferInstanceAs (Decidable False)
  | .message (.heartbeatAck _) => inferInstanceAs (Decidable False)
  | .message .unknown => inferInstanceAs (Decidable False)
  | .move _ _ => inferInstanceAs (Decidable False)

/-- No change touches the number of suggestions that a client retains. -/
theorem Change.Does.capacity {c : Change} {s' : BoardStore} (h : c.Does s s') :
    s'.suggestions.capacity = s.suggestions.capacity := by
  cases h <;> rfl

theorem capacity_perform (s : BoardStore) (c : Change) :
    (s.perform c).2.suggestions.capacity = s.suggestions.capacity := by
  obtain ⟨-, hs⟩ | ⟨-, hdoes⟩ := s.perform_cases c
  · rw [hs]
  · exact hdoes.capacity

theorem IsReachable.capacity (h : s.IsReachable) :
    s.suggestions.capacity = SuggestionBuffer.defaultCapacity := by
  induction h with
  | empty => rfl
  | seeded tasks => rfl
  | perform _ c ih => rwa [capacity_perform]

/-- A suggestion that is put in front is seen. -/
theorem withSuggestions_ne_self {suggestion : Suggestion} (hcapacity : 0 < s.suggestions.capacity)
    (hnew : ¬s.suggestions.contains suggestion.id = true) :
    s.withSuggestions { s.suggestions with
      items := (suggestion :: s.suggestions.items).take s.suggestions.capacity } ≠ s := by
  intro hs
  have hitems : (suggestion :: s.suggestions.items).take s.suggestions.capacity =
      s.suggestions.items :=
    congrArg (fun s => s.suggestions.items) hs
  refine hnew (List.any_eq_true.mpr ⟨suggestion, ?_, beq_self_eq_true _⟩)
  obtain ⟨n, hn⟩ := Nat.exists_eq_add_one_of_ne_zero (Nat.pos_iff_ne_zero.mp hcapacity)
  rw [← hitems, hn, List.take_succ_cons]
  exact List.mem_cons_self

/-- **What an operation that says yes leaves as it was.** It is what the board already holds. -/
theorem Change.Does.eq_self_iff {c : Change} {s' : BoardStore} (h : c.Does s s')
    (hcapacity : 0 < s.suggestions.capacity) : s' = s ↔ c.Repeats s := by
  cases h with
  | seeded hwhole => exact with_tasks_eq_self_iff
  | @sent b =>
    constructor
    · intro hs
      exact ⟨congrArg tasks hs, (congrArg authoritative hs).symm, (congrArg snapshotAt hs).symm⟩
    · rintro ⟨htasks, hwhole, htime⟩
      rw [htasks, ← hwhole, ← htime]
  | patched ht => exact with_tasks_eq_self_iff.trans (by
      simp only [updateFirst_eq_self_iff, Task.apply_eq_self_iff, Repeats, task?])
  | created hnew => exact with_tasks_eq_self_iff.trans (iff_false_intro (List.cons_ne_self _ _))
  | deleted hid => exact with_tasks_eq_self_iff.trans (iff_false_intro (filter_ne_self hid))
  | suggested hnew => exact iff_false_intro (withSuggestions_ne_self hcapacity hnew)
  | @moved id status t ht hstatus =>
    refine with_tasks_eq_self_iff.trans (iff_false_intro fun htasks => hstatus ?_)
    have hmoved : { t with status } = t := updateFirst_eq_self_iff.mp htasks t ht
    exact (congrArg Task.status hmoved).symm

/-- Two boards that retain as many suggestions are the same exactly if they look the same. -/
theorem ne_iff {s' : BoardStore} (h : s'.suggestions.capacity = s.suggestions.capacity) :
    s' ≠ s ↔ s'.tasks ≠ s.tasks ∨ s'.suggestions.items ≠ s.suggestions.items ∨
      s'.authoritative ≠ s.authoritative ∨ s'.snapshotAt ≠ s.snapshotAt := by
  obtain ⟨tasks, ⟨items, capacity⟩, authoritative, snapshotAt⟩ := s
  obtain ⟨tasks', ⟨items', capacity'⟩, authoritative', snapshotAt'⟩ := s'
  obtain rfl : capacity' = capacity := h
  simp only [ne_eq, mk.injEq, SuggestionBuffer.mk.injEq, and_true,
    Classical.not_and_iff_not_or_not]

end BoardStore

namespace SharedBoard

open BoardStore

/-- A shared board after a change. -/
def undergo (c : Change) (b : SharedBoard) : SharedBoard :=
  match c with
  | .seed tasks => (b.update (BoardStore.seed tasks)).2
  | .message m => b.receive m
  | .move id status => (b.update (moveLocally id status)).2

/-- A shared board after several changes, the first one first. -/
def run (b : SharedBoard) (cs : List Change) : SharedBoard :=
  cs.foldl (fun b c => b.undergo c) b

/-- A message that asks for an operation is that operation. -/
theorem receive_of_operation {m : ServerMessage} {f : BoardStore → Bool × BoardStore}
    (hf : operation? m = some f) (b : SharedBoard) : b.receive m = (b.update f).2 := by
  cases m <;> cases hf <;> rfl

theorem receive_of_no_operation {m : ServerMessage} (hm : operation? m = none)
    (b : SharedBoard) : b.receive m = b := by
  cases m <;> first | rfl | cases hm

/-- A shared board carries out the operation of a change, if there is one. -/
theorem undergo_of_operation {c : Change} {f : BoardStore → Bool × BoardStore}
    (hf : c.operation? = some f) (b : SharedBoard) : b.undergo c = (b.update f).2 := by
  cases c with
  | seed tasks => cases hf; rfl
  | message m => exact receive_of_operation hf b
  | move id status => cases hf; rfl

/-- Those who watch are woken exactly when an operation says that it has done something. -/
theorem undergo_eq (c : Change) (b : SharedBoard) :
    b.undergo c = ⟨(b.store.perform c).2,
      if (b.store.perform c).1 = some true then b.wakes + 1 else b.wakes⟩ := by
  rw [perform]
  cases hf : c.operation? with
  | some f => simp [undergo_of_operation hf, update]
  | none =>
    cases c with
    | message m => exact receive_of_no_operation hf b
    | seed tasks => cases hf
    | move id status => cases hf

theorem wakes_le_undergo (c : Change) (b : SharedBoard) : b.wakes ≤ (b.undergo c).wakes := by
  rw [undergo_eq]
  dsimp only
  split
  · exact Nat.le_succ _
  · exact Nat.le_refl _

theorem wakes_le_run (cs : List Change) (b : SharedBoard) : b.wakes ≤ (b.run cs).wakes := by
  induction cs generalizing b with
  | nil => exact Nat.le_refl _
  | cons c cs ih => exact Nat.le_trans (b.wakes_le_undergo c) (ih (b.undergo c))

/-- Where no operation says yes, nothing has changed. -/
theorem undergo_eq_self {c : Change} {b : SharedBoard}
    (h : (b.store.perform c).1 ≠ some true) : b.undergo c = b := by
  rw [undergo_eq, perform_eq_self h, if_neg h]

/-- A board that looks different has woken those who watch. -/
theorem wakes_lt_run {cs : List Change} {b : SharedBoard} (h : (b.run cs).store ≠ b.store) :
    b.wakes < (b.run cs).wakes := by
  induction cs generalizing b with
  | nil => exact absurd rfl h
  | cons c cs ih =>
    by_cases hyes : (b.store.perform c).1 = some true
    · have hwoken : (b.undergo c).wakes = b.wakes + 1 := by rw [undergo_eq, if_pos hyes]
      have hrest : (b.undergo c).wakes ≤ (b.run (c :: cs)).wakes :=
        wakes_le_run cs (b.undergo c)
      omega
    · have hundergo : b.run (c :: cs) = b.run cs := by
        rw [run, List.foldl_cons, undergo_eq_self hyes, ← run]
      rw [hundergo] at h ⊢
      exact ih h

/-- **What those who watch are woken for.** Whenever they are woken, an operation has said yes. The
tasks, the suggestions, the standing or the time of the last snapshot then differ from before,
unless the change is a list of tasks from elsewhere that holds what the board does, the whole board
as it was sent already, or a patch with no value that its task does not have; for these they are
woken although nothing has changed. -/
theorem differs_iff_of_woken {b : SharedBoard} (h : b.store.IsReachable) {c : Change}
    (hwoken : (b.undergo c).wakes ≠ b.wakes) :
    let before := b.store
    let after := (b.undergo c).store
    (before.perform c).1 = some true ∧
    ((after.tasks ≠ before.tasks ∨ after.suggestions.items ≠ before.suggestions.items ∨
      after.authoritative ≠ before.authoritative ∨ after.snapshotAt ≠ before.snapshotAt) ↔
        ¬c.Repeats before) := by
  intro before after
  have hafter : after = (before.perform c).2 := congrArg store (b.undergo_eq c)
  have hcapacity : 0 < before.suggestions.capacity := by rw [h.capacity]; decide
  obtain ⟨hno, -⟩ | ⟨hyes, hdoes⟩ := before.perform_cases c
  · exact absurd (congrArg wakes (undergo_eq_self hno)) hwoken
  · refine ⟨hyes, ?_⟩
    rw [hafter, ← ne_iff hdoes.capacity]
    exact not_congr (hdoes.eq_self_iff hcapacity)

/-- A board that was seeded, when a task gets a new title. -/
theorem differs_iff_of_woken_of_renamed :
    let lamp : Task := ⟨"1", "b", "Lamp", none, .inbox, "P2", none, none, none, "d", "d"⟩
    let b := ofStore (seeded [lamp])
    let c : Change := .message (.taskUpdated ⟨"1", { title := some "Desk lamp" }, none, "t"⟩)
    b.store.IsReachable ∧ (b.undergo c).wakes ≠ b.wakes ∧ (b.store.perform c).1 = some true ∧
      (b.undergo c).store.tasks ≠ b.store.tasks ∧ ¬c.Repeats b.store := by
  intro lamp b c
  have hreachable : b.store.IsReachable := .seeded [lamp]
  have hwoken : (b.undergo c).wakes ≠ b.wakes := by decide +kernel
  have htasks : (b.undergo c).store.tasks ≠ b.store.tasks := by decide +kernel
  obtain ⟨hyes, hdiffers⟩ := differs_iff_of_woken hreachable hwoken
  exact ⟨hreachable, hwoken, hyes, htasks, hdiffers.mp (.inl htasks)⟩

/-- A patch with nothing in it, a patch with the title that the task has and a list of the same
tasks from elsewhere wake those who watch, and nothing has changed. -/
theorem woken_for_nothing :
    let lamp : Task := ⟨"1", "b", "Lamp", none, .inbox, "P2", none, none, none, "d", "d"⟩
    let b := ofStore (seeded [lamp])
    let cs : List Change := [.message (.taskUpdated ⟨"1", {}, none, "t"⟩),
      .message (.taskUpdated ⟨"1", { title := some "Lamp" }, none, "t"⟩), .seed [lamp]]
    b.store.IsReachable ∧
      ∀ c ∈ cs, c.Repeats b.store ∧ (b.store.perform c).1 = some true ∧
        (b.undergo c).wakes = b.wakes + 1 ∧ (b.undergo c).store = b.store := by
  intro lamp b cs
  exact ⟨.seeded [lamp], by decide +kernel⟩

/-- **No change goes unannounced.** If the operation of a change says no, or if there is none, as
for acknowledgements and messages of unknown types, then the whole board is as it was and nobody is
woken. A message does to a shared board what the operation it asks for does to a board, and wakes
those who watch exactly when this operation says that it has done something. So whoever finds the
board different after any changes was woken in between. -/
theorem no_change_unannounced (b : SharedBoard) :
    (∀ c, (b.store.perform c).1 ≠ some true → (b.store.perform c).2 = b.store ∧ b.undergo c = b) ∧
    (∀ id, b.receive (.heartbeatAck id) = b) ∧ b.receive .unknown = b ∧
    (∀ m f, operation? m = some f →
      b.receive m = ⟨(f b.store).2, if (f b.store).1 then b.wakes + 1 else b.wakes⟩) ∧
    ∀ cs, (b.run cs).store ≠ b.store → b.wakes < (b.run cs).wakes := by
  refine ⟨fun c hno => ?_, fun id => rfl, rfl, fun m f hf => ?_, fun cs hne => ?_⟩
  · exact ⟨perform_eq_self hno, undergo_eq_self hno⟩
  · exact receive_of_operation hf b
  · exact wakes_lt_run hne

end SharedBoard

end LiveBoard
