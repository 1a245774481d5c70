import LiveBoard.Proofs.Board.Amend
import LiveBoard.Relay.State

/-!
# Replaying messages

A client that has lost messages is sent the board anew, and then reads messages that the board
already knows of. They do no harm. Whatever end of what was posted is read on top of the tasks that
it all has led to, these tasks stay as they are, as long as no id is used twice.

A move sets two fields and says nothing about what they were, and a deletion forgets a task. So
either of them, done once more at the end, covers up that it was done at the beginning. A creation
does not, but no message that is read again before it knows of its task.

## Main definitions

* `ServerMessage.IsPosted`: a message of the kinds that a relay posts.
* `ServerMessage.subjects`: the ids of the tasks that a message is about.
* `Settles`: any end of a history changes nothing when it is read again.

## Main results

* `ServerMessage.amend_amendAll_amend`: a message that creates nothing covers up its own traces.
* `Settles.concat`: one more message.
* `Settles.amendAll_eq`: reading any end of a history again changes nothing.
-/

namespace LiveBoard

namespace ServerMessage

/-- A message of the kinds that a relay posts: tasks change by being moved. -/
def IsPosted : ServerMessage → Prop
  | .taskUpdated u => ∃ t status now, u.changes = Relay.movePatch t status now
  | _ => True

/-- The ids of the tasks that a message is about. -/
def subjects : ServerMessage → List String
  | .boardState s => LiveBoard.ids s.tasks
  | .taskUpdated u => [u.taskId]
  | .taskCreated c => [c.task.id]
  | .taskDeleted d => [d.taskId]
  | _ => []

/-- The message is the whole board. -/
def IsWhole : ServerMessage → Prop
  | .boardState _ => True
  | _ => False

/-- The message makes a new task. -/
def IsCreation : ServerMessage → Prop
  | .taskCreated _ => True
  | _ => False

theorem ids_amend_taskUpdated (u : TaskUpdate) (ts : List Task) :
    LiveBoard.ids ((taskUpdated u).amend ts) = LiveBoard.ids ts :=
  ids_updateFirst (fun t => t.id_apply u.changes) ts

/-- A move covers up that it was made before. -/
theorem amend_amend_amend_update {u : TaskUpdate} (hu : (taskUpdated u).IsPosted)
    {n : ServerMessage} (hn : n.IsPosted) (ts : List Task) :
    (taskUpdated u).amend (n.amend ((taskUpdated u).amend ts)) =
      (taskUpdated u).amend (n.amend ts) := by
  obtain ⟨v, s, now, hchanges⟩ := hu
  have hid : ∀ t : Task, (t.apply u.changes).id = t.id := fun t => t.id_apply u.changes
  have hself : ∀ ts, (taskUpdated u).amend ((taskUpdated u).amend ts) = (taskUpdated u).amend ts :=
    fun ts => by
      rw [amend, amend, updateFirst_updateFirst_self hid, hchanges]
      rfl
  cases n with
  | boardState snapshot => rfl
  | taskUpdated w =>
    obtain ⟨v', s', now', hchanges'⟩ := hn
    by_cases h : u.taskId = w.taskId
    · simp only [amend, h, hchanges, hchanges']
      rw [updateFirst_updateFirst_self fun t => t.id_apply _,
        updateFirst_updateFirst_self fun t => t.id_apply _,
        updateFirst_updateFirst_self fun t => t.id_apply _]
      rfl
    · have hcomm : ∀ ts, (taskUpdated w).amend ((taskUpdated u).amend ts) =
          (taskUpdated u).amend ((taskUpdated w).amend ts) := fun ts =>
        updateFirst_comm (fun t => t.id_apply _) hid (Ne.symm h) ts
      rw [hcomm, hself]
  | taskCreated c =>
    by_cases hc : c.task.id ∈ LiveBoard.ids ts
    · have hc' : c.task.id ∈ LiveBoard.ids ((taskUpdated u).amend ts) := by
        rwa [ids_amend_taskUpdated]
      rw [amend_taskCreated_of_mem hc', amend_taskCreated_of_mem hc, hself]
    · have hc' : c.task.id ∉ LiveBoard.ids ((taskUpdated u).amend ts) := by
        rwa [ids_amend_taskUpdated]
      rw [amend_taskCreated_of_notMem hc', amend_taskCreated_of_notMem hc]
      by_cases h : c.task.id = u.taskId
      · have hnone : (taskUpdated u).amend ts = ts := updateFirst_of_notMem (h ▸ hc)
        rw [hnone]
      · have hcons : ∀ ts, (taskUpdated u).amend (c.task :: ts) =
            c.task :: (taskUpdated u).amend ts := fun ts => by
          rw [amend, updateFirst, if_neg (by simpa using h)]
          rfl
        rw [hcons, hcons, hself]
  | taskDeleted d =>
    by_cases h : d.taskId = u.taskId
    · simp only [amend, h, filter_updateFirst_self hid]
    · have hcomm : ∀ ts, (taskDeleted d).amend ((taskUpdated u).amend ts) =
          (taskUpdated u).amend ((taskDeleted d).amend ts) := fun ts =>
        filter_updateFirst_of_ne hid h ts
      rw [hcomm, hself]
  | suggestionNew s => exact hself ts
  | heartbeatAck id => exact hself ts
  | unknown => exact hself ts

/-- A deletion covers up that it was made before. -/
theorem amend_amend_amend_delete (d : TaskDeleted) (n : ServerMessage) (ts : List Task) :
    (taskDeleted d).amend (n.amend ((taskDeleted d).amend ts)) =
      (taskDeleted d).amend (n.amend ts) := by
  have hself : ∀ ts, (taskDeleted d).amend ((taskDeleted d).amend ts) = (taskDeleted d).amend ts :=
    fun ts => by simp [amend, List.filter_filter]
  cases n with
  | boardState snapshot => rfl
  | taskUpdated u =>
    by_cases h : d.taskId = u.taskId
    · simp only [amend, ← h, filter_updateFirst_self fun t => t.id_apply u.changes]
      simp [List.filter_filter]
    · have hcomm : ∀ ts, (taskDeleted d).amend ((taskUpdated u).amend ts) =
          (taskUpdated u).amend ((taskDeleted d).amend ts) := fun ts =>
        filter_updateFirst_of_ne (fun t => t.id_apply u.changes) h ts
      rw [hcomm, hself, hcomm]
  | taskCreated c =>
    by_cases h : c.task.id = d.taskId
    · have hforget : ∀ ts, (taskDeleted d).amend ((taskCreated c).amend ts) =
          (taskDeleted d).amend ts := fun ts => by
        by_cases hc : c.task.id ∈ LiveBoard.ids ts
        · rw [amend_taskCreated_of_mem hc]
        · rw [amend_taskCreated_of_notMem hc, amend, List.filter_cons_of_neg (by simpa using h)]
          rfl
      rw [hforget, hforget, hself]
    · have hiff : c.task.id ∈ LiveBoard.ids ((taskDeleted d).amend ts) ↔
          c.task.id ∈ LiveBoard.ids ts := by
        rw [amend, mem_ids_filter_ne, and_iff_left h]
      have hcons : ∀ ts, (taskDeleted d).amend (c.task :: ts) =
          c.task :: (taskDeleted d).amend ts := fun ts => by
        rw [amend, List.filter_cons_of_pos (by simpa using h)]
        rfl
      by_cases hc : c.task.id ∈ LiveBoard.ids ts
      · rw [amend_taskCreated_of_mem (hiff.mpr hc), amend_taskCreated_of_mem hc, hself]
      · rw [amend_taskCreated_of_notMem (mt hiff.mp hc), amend_taskCreated_of_notMem hc, hcons,
          hcons, hself]
  | taskDeleted d' =>
    have hcomm : (taskDeleted d').amend ((taskDeleted d).amend ts) =
        (taskDeleted d).amend ((taskDeleted d').amend ts) := by
      simp [amend, List.filter_filter, Bool.and_comm]
    rw [hcomm, hself]
  | suggestionNew s => exact hself ts
  | heartbeatAck id => exact hself ts
  | unknown => exact hself ts

/-- A message that creates nothing covers up that it was read before. -/
theorem amend_amend_amend {m n : ServerMessage} (hm : m.IsPosted) (hn : n.IsPosted)
    (hc : ¬m.IsCreation) (ts : List Task) :
    m.amend (n.amend (m.amend ts)) = m.amend (n.amend ts) := by
  cases m with
  | boardState s => rfl
  | taskUpdated u => exact amend_amend_amend_update hm hn ts
  | taskCreated c => exact absurd trivial hc
  | taskDeleted d => exact amend_amend_amend_delete d n ts
  | suggestionNew s => rfl
  | heartbeatAck id => rfl
  | unknown => rfl

/-- **A message that creates nothing covers up its own traces**, whatever is read in between. -/
theorem amend_amendAll_amend {m : ServerMessage} (hm : m.IsPosted) (hc : ¬m.IsCreation)
    {ns : List ServerMessage} (hns : ∀ n ∈ ns, n.IsPosted) (ts : List Task) :
    m.amend (amendAll ns (m.amend ts)) = m.amend (amendAll ns ts) := by
  induction ns generalizing ts with
  | nil => exact amend_amend_amend hm (show unknown.IsPosted from trivial) hc ts
  | cons n ns ih =>
    obtain ⟨hn, hns⟩ := List.forall_mem_cons.mp hns
    calc m.amend (amendAll ns (n.amend (m.amend ts)))
        = m.amend (amendAll ns (m.amend (n.amend (m.amend ts)))) := (ih hns _).symm
      _ = m.amend (amendAll ns (m.amend (n.amend ts))) := by
          rw [amend_amend_amend hm hn hc]
      _ = m.amend (amendAll ns (n.amend ts)) := ih hns _

/-- A message does not touch tasks that it is not about. -/
theorem amend_append {m : ServerMessage} {us : List Task} (hm : ¬m.IsWhole) (hc : ¬m.IsCreation)
    (hus : ∀ id ∈ LiveBoard.ids us, id ∉ m.subjects) (ts : List Task) :
    m.amend (us ++ ts) = us ++ m.amend ts := by
  cases m with
  | boardState s => exact absurd trivial hm
  | taskUpdated u =>
    exact updateFirst_append_of_notMem (fun hid => hus _ hid (List.mem_singleton_self _)) ts
  | taskCreated c => exact absurd trivial hc
  | taskDeleted d =>
    have hkeep : us.filter (fun t => t.id != d.taskId) = us := by
      rw [List.filter_eq_self]
      intro t ht
      have hid := hus t.id (mem_ids_of_mem ht)
      simpa [subjects] using hid
    rw [amend, List.filter_append, hkeep]
    rfl
  | suggestionNew s => rfl
  | heartbeatAck id => rfl
  | unknown => rfl

theorem mem_ids_amend {m : ServerMessage} (hm : ¬m.IsWhole) {id : String} (hid : id ∉ m.subjects)
    {ts : List Task} (h : id ∈ LiveBoard.ids ts) : id ∈ LiveBoard.ids (m.amend ts) := by
  cases m with
  | boardState s => exact absurd trivial hm
  | taskUpdated u => rwa [ids_amend_taskUpdated]
  | taskCreated c =>
    by_cases hc : c.task.id ∈ LiveBoard.ids ts
    · rwa [amend_taskCreated_of_mem hc]
    · rw [amend_taskCreated_of_notMem hc]
      exact List.mem_cons_of_mem _ h
  | taskDeleted d =>
    rw [amend, mem_ids_filter_ne]
    exact ⟨h, by simpa [subjects] using hid⟩
  | suggestionNew s => exact h
  | heartbeatAck id => exact h
  | unknown => exact h

theorem amend_eq_of_isWhole {m : ServerMessage} (h : m.IsWhole) (ts us : List Task) :
    m.amend ts = m.amend us := by
  cases m with
  | boardState s => rfl
  | _ => exact h.elim

/-- After the whole board nothing is left of what was before. -/
theorem amendAll_eq_of_isWhole {ms : List ServerMessage} (h : ∃ m ∈ ms, m.IsWhole)
    (ts us : List Task) : amendAll ms ts = amendAll ms us := by
  induction ms generalizing ts us with
  | nil => obtain ⟨m, hm, -⟩ := h; cases hm
  | cons m ms ih =>
    obtain ⟨n, hn, hwhole⟩ := h
    rcases List.mem_cons.mp hn with rfl | hn
    · rw [amendAll_cons, amendAll_cons, amend_eq_of_isWhole hwhole ts us]
    · exact ih ⟨n, hn, hwhole⟩ _ _

end ServerMessage

open ServerMessage

/-! ### Histories -/

/-- Any end of a history that led to some tasks changes nothing when it is read again on top of
them, with any other tasks in front; if the whole board is sent in it, it leads to these tasks
whatever it is read on top of. -/
structure Settles (history : List ServerMessage) (tasks : List Task) : Prop where
  part : ∀ ms, ms <:+ history → (∀ m ∈ ms, ¬m.IsWhole) → ∀ us,
    (∀ id ∈ ids us, id ∉ ids tasks ∧ ∀ m ∈ ms, id ∉ m.subjects) →
    amendAll ms (us ++ tasks) = us ++ tasks
  whole : ∀ ms, ms <:+ history → (∃ m ∈ ms, m.IsWhole) → ∀ us, amendAll ms us = tasks

theorem settles_nil (tasks : List Task) : Settles [] tasks where
  part ms h _ us _ := by rw [List.suffix_nil.mp h]; rfl
  whole ms h hwhole _ := by
    obtain ⟨m, hm, -⟩ := hwhole
    rw [List.suffix_nil.mp h] at hm
    cases hm

/-- **Reading any end of a history again changes nothing.** -/
theorem Settles.amendAll_eq {history ms : List ServerMessage} {tasks : List Task}
    (h : Settles history tasks) (hms : ms <:+ history) : amendAll ms tasks = tasks := by
  by_cases hwhole : ∃ m ∈ ms, m.IsWhole
  · exact h.whole ms hms hwhole tasks
  · exact h.part ms hms (by simpa using hwhole) [] (by simp)

/-- An end of a history with one more message is that message behind an end of the history. -/
theorem suffix_concat_cases {α : Type} {as bs : List α} {a : α} (h : as <:+ bs ++ [a]) :
    as = [] ∨ ∃ cs, cs <:+ bs ∧ as = cs ++ [a] := by
  rcases List.eq_nil_or_concat as with rfl | ⟨cs, c, rfl⟩
  · exact .inl rfl
  · rw [List.concat_eq_append] at h ⊢
    obtain ⟨ds, hds⟩ := h
    rw [← List.append_assoc] at hds
    obtain ⟨hbs, ha⟩ := List.append_inj' hds rfl
    exact .inr ⟨cs, ⟨ds, hbs⟩, by rw [ha]⟩

section Concat

variable {history : List ServerMessage} {tasks : List Task} {m : ServerMessage}

theorem Settles.whole_concat (h : Settles history tasks) {ns : List ServerMessage}
    (hns : ns <:+ history) (hwhole : ∃ n ∈ ns ++ [m], n.IsWhole) (us : List Task) :
    amendAll (ns ++ [m]) us = m.amend tasks := by
  rw [amendAll_concat]
  by_cases hm : m.IsWhole
  · exact amend_eq_of_isWhole hm _ _
  · obtain ⟨n, hn, hnwhole⟩ := hwhole
    rcases List.mem_append.mp hn with hn | hn
    · rw [h.whole ns hns ⟨n, hn, hnwhole⟩ us]
    · rw [List.mem_singleton.mp hn] at hnwhole
      exact absurd hnwhole hm

/-- A task that is new to a history stays behind other tasks, and in front of those that the
history led to. -/
theorem Settles.part_concat_creation {c : TaskCreated} (h : Settles history tasks)
    (hnew : c.task.id ∉ ids tasks) (hunheard : ∀ n ∈ history, c.task.id ∉ n.subjects)
    {ns : List ServerMessage} (hns : ns <:+ history) (hpart : ∀ n ∈ ns, ¬n.IsWhole)
    {us : List Task} (hus : ∀ id ∈ ids us, id ∉ ids tasks ∧ ∀ n ∈ ns, id ∉ n.subjects) :
    amendAll (ns ++ [taskCreated c]) (us ++ c.task :: tasks) = us ++ c.task :: tasks := by
  have hus' : ∀ id ∈ ids (us ++ [c.task]), id ∉ ids tasks ∧ ∀ n ∈ ns, id ∉ n.subjects := by
    intro id hid
    rw [ids_append, List.mem_append] at hid
    rcases hid with hid | hid
    · exact hus id hid
    · rw [List.mem_singleton.mp hid]
      exact ⟨hnew, fun n hn => hunheard n (hns.subset hn)⟩
  have hold := h.part ns hns hpart (us ++ [c.task]) hus'
  rw [List.append_assoc] at hold
  rw [amendAll_concat]
  exact (congrArg (taskCreated c).amend hold).trans (amend_taskCreated_of_mem (by simp))

/-- One more message, of a kind that creates nothing, covers up that it was read before. -/
theorem Settles.part_concat_of_not_isCreation (h : Settles history tasks)
    (hposted : ∀ n ∈ history, n.IsPosted) (hm : m.IsPosted) (hc : ¬m.IsCreation)
    (hwhole : ¬m.IsWhole) {ns : List ServerMessage} (hns : ns <:+ history)
    (hpart : ∀ n ∈ ns, ¬n.IsWhole) {us : List Task}
    (hus : ∀ id ∈ ids us, id ∉ ids tasks ∧ ∀ n ∈ ns, id ∉ n.subjects)
    (hum : ∀ id ∈ ids us, id ∉ m.subjects) :
    amendAll (ns ++ [m]) (us ++ m.amend tasks) = us ++ m.amend tasks := by
  have happend := amend_append hwhole hc hum tasks
  calc amendAll (ns ++ [m]) (us ++ m.amend tasks)
      = m.amend (amendAll ns (m.amend (us ++ tasks))) := by rw [amendAll_concat, happend]
    _ = m.amend (amendAll ns (us ++ tasks)) :=
        amend_amendAll_amend hm hc (fun n hn => hposted n (hns.subset hn)) _
    _ = m.amend (us ++ tasks) := by rw [h.part ns hns hpart us hus]
    _ = us ++ m.amend tasks := happend

/-- **One more message.** A task that it creates must be new to the tasks and to the history. -/
theorem Settles.concat (h : Settles history tasks) (hposted : ∀ n ∈ history, n.IsPosted)
    (hm : m.IsPosted)
    (hnew : m.IsCreation → ∀ id ∈ m.subjects, id ∉ ids tasks ∧ ∀ n ∈ history, id ∉ n.subjects) :
    Settles (history ++ [m]) (m.amend tasks) where
  part ms hms hpart us hus := by
    rcases suffix_concat_cases hms with rfl | ⟨ns, hns, rfl⟩
    · rfl
    · simp only [List.forall_mem_append, List.forall_mem_singleton] at hpart hus
      by_cases hc : m.IsCreation
      · cases m with
        | taskCreated c =>
          obtain ⟨hfresh, hunheard⟩ := hnew hc c.task.id (List.mem_singleton_self _)
          rw [amend_taskCreated_of_notMem hfresh] at hus ⊢
          refine h.part_concat_creation hfresh hunheard hns hpart.1 fun id hid => ?_
          obtain ⟨hid', hns', -⟩ := hus id hid
          exact ⟨fun hmem => hid' (List.mem_cons_of_mem _ hmem), hns'⟩
        | _ => exact hc.elim
      · refine h.part_concat_of_not_isCreation hposted hm hc hpart.2 hns hpart.1 (fun id hid => ?_)
          fun id hid => (hus id hid).2.2
        obtain ⟨hid', hns', hm'⟩ := hus id hid
        exact ⟨fun hmem => hid' (mem_ids_amend hpart.2 hm' hmem), hns'⟩
  whole ms hms hwhole us := by
    rcases suffix_concat_cases hms with rfl | ⟨ns, hns, rfl⟩
    · obtain ⟨m, hm, -⟩ := hwhole
      cases hm
    · exact h.whole_concat hns hwhole us

end Concat

end LiveBoard
