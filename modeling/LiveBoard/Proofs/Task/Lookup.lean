import LiveBoard.Proofs.Board.Distinct
import LiveBoard.Terminal.BoardView
import Mathlib.Data.List.Nodup

/-!
# The task that people mean

People name a task by its id or by the beginning of it. Where no id is held twice, what they give
means one task, or several, or none, and which of these it is does not depend on the order of the
tasks: an id that is spelled out means its task, even where other ids begin with it, and anything
else but an empty text means the tasks whose ids begin with it.

A board shows the first eight characters of an id. They mean the task of the line they stand in,
or several tasks, among them this one. There is one exception, since an id that is spelled out wins:
where the eight characters are the whole id of another task, they mean that other task.

## Main definitions

* `Task.Answers`: what an answer to people says about the tasks.

## Main results

* `Task.resolve_eq_iff`: an answer is given exactly if what it says is so.
* `Task.resolve_names_one`: all answers, and their independence of the order.
* `Task.resolve_shortId`: what the short ids of a board mean.
-/

namespace LiveBoard

open Terminal

namespace Task

/-- What an answer to a given text says about the tasks. -/
def Answers (tasks : List Task) (given : String) : Except LookupError Task → Prop
  | .ok t => t ∈ tasks ∧ (t.id = given ∨ given ≠ "" ∧ given ∉ ids tasks ∧
      given.toList <+: t.id.toList ∧ ∀ u ∈ tasks, given.toList <+: u.id.toList → u = t)
  | .error (.ambiguous g) => g = given ∧ given ≠ "" ∧ given ∉ ids tasks ∧
      ∃ u ∈ tasks, ∃ v ∈ tasks, u.id ≠ v.id ∧ given.toList <+: u.id.toList ∧
        given.toList <+: v.id.toList
  | .error (.notFound g) => g = given ∧ given ∉ ids tasks ∧
      (given = "" ∨ ∀ u ∈ tasks, ¬given.toList <+: u.id.toList)

variable {tasks tasks' : List Task} {given : String} {t u : Task}
  {answer : Except LookupError Task}

theorem idBegins_iff : idBegins given t = true ↔ given.toList <+: t.id.toList :=
  List.isPrefixOf_iff_prefix

theorem mem_filter_idBegins :
    t ∈ tasks.filter (idBegins given) ↔ t ∈ tasks ∧ given.toList <+: t.id.toList := by
  rw [List.mem_filter, idBegins_iff]

/-- An id that is spelled out means its task. -/
theorem find?_eq_some_iff (h : (ids tasks).Nodup) :
    tasks.find? (fun u => u.id == given) = some t ↔ t ∈ tasks ∧ t.id = given := by
  constructor
  · intro hfind
    exact ⟨List.mem_of_find?_eq_some hfind, by simpa using List.find?_some hfind⟩
  · rintro ⟨ht, rfl⟩
    obtain ⟨u, hfind⟩ := Option.isSome_iff_exists.mp
      (List.find?_isSome (p := fun u => u.id == t.id).mpr ⟨t, ht, beq_self_eq_true _⟩)
    have hid : u.id = t.id := by simpa using List.find?_some hfind
    rw [hfind, List.inj_on_of_nodup_map h (List.mem_of_find?_eq_some hfind) ht hid]

theorem find?_eq_none_iff : tasks.find? (fun u => u.id == given) = none ↔ given ∉ ids tasks := by
  simp [mem_ids]

/-- Two tasks that are both found have different ids. -/
theorem exists_ne_of_filter_idBegins (h : (ids tasks).Nodup) {rest : List Task}
    (hfilter : tasks.filter (idBegins given) = t :: u :: rest) :
    ∃ u ∈ tasks, ∃ v ∈ tasks, u.id ≠ v.id ∧ given.toList <+: u.id.toList ∧
      given.toList <+: v.id.toList := by
  have hdistinct : (ids (t :: u :: rest)).Nodup :=
    hfilter ▸ h.sublist (List.filter_sublist.map _)
  have hne : t.id ≠ u.id := fun hid =>
    (List.nodup_cons.mp hdistinct).1 (mem_ids.mpr ⟨u, List.mem_cons_self, hid.symm⟩)
  obtain ⟨ht, ht'⟩ := mem_filter_idBegins.mp (hfilter ▸ List.mem_cons_self)
  obtain ⟨hu, hu'⟩ :=
    mem_filter_idBegins.mp (hfilter ▸ List.mem_cons_of_mem t List.mem_cons_self)
  exact ⟨t, ht, u, hu, hne, ht', hu'⟩

/-- **What people are answered** is so. -/
theorem answers_resolve (h : (ids tasks).Nodup) (given : String) :
    Answers tasks given (resolve tasks given) := by
  rw [resolve]
  split
  · next t hfind =>
    obtain ⟨ht, hid⟩ := (find?_eq_some_iff h).mp hfind
    exact ⟨ht, .inl hid⟩
  · next hfind =>
    have hspelled := find?_eq_none_iff.mp hfind
    split
    · next hempty => exact ⟨rfl, hspelled, .inl hempty⟩
    · next hne =>
      split
      · next t hfilter =>
        have honly : ∀ u, u ∈ tasks ∧ given.toList <+: u.id.toList ↔ u = t := fun u => by
          rw [← mem_filter_idBegins, hfilter, List.mem_singleton]
        obtain ⟨ht, hbegins⟩ := (honly t).mpr rfl
        exact ⟨ht, .inr ⟨hne, hspelled, hbegins, fun u hu hu' => (honly u).mp ⟨hu, hu'⟩⟩⟩
      · next hfilter =>
        refine ⟨rfl, hspelled, .inr fun u hu hbegins => ?_⟩
        have hmem := mem_filter_idBegins.mpr ⟨hu, hbegins⟩
        rw [hfilter] at hmem
        cases hmem
      · next hseveral hnone =>
        match hfilter : tasks.filter (idBegins given) with
        | [] => exact absurd hfilter hnone
        | [u] => exact absurd hfilter (hseveral u)
        | u :: v :: rest => exact ⟨rfl, hne, hspelled, exists_ne_of_filter_idBegins h hfilter⟩

/-- **Nothing else** is answered. -/
theorem resolve_eq_of_answers (h : (ids tasks).Nodup) (ha : Answers tasks given answer) :
    resolve tasks given = answer := by
  match answer, ha with
  | .ok t, ⟨ht, .inl hid⟩ => rw [resolve, (find?_eq_some_iff h).mpr ⟨ht, hid⟩]
  | .ok t, ⟨ht, .inr ⟨hne, hspelled, hbegins, honly⟩⟩ =>
    have hnodup : (tasks.filter (idBegins given)).Nodup := h.of_map.filter _
    have hfilter : tasks.filter (idBegins given) = [t] := by
      refine List.perm_singleton.mp
        ((List.perm_ext_iff_of_nodup hnodup (List.nodup_singleton t)).mpr fun u => ?_)
      rw [mem_filter_idBegins, List.mem_singleton]
      exact ⟨fun hu => honly u hu.1 hu.2, fun hu => hu ▸ ⟨ht, hbegins⟩⟩
    simp only [resolve, find?_eq_none_iff.mpr hspelled, if_neg hne, hfilter]
  | .error (.ambiguous _), ⟨rfl, hne, hspelled, u, hu, v, hv, hid, hu', hv'⟩ =>
    have humem := mem_filter_idBegins.mpr ⟨hu, hu'⟩
    have hvmem := mem_filter_idBegins.mpr ⟨hv, hv'⟩
    rw [resolve, find?_eq_none_iff.mpr hspelled]
    simp only [if_neg hne]
    split
    · next w hfilter =>
      rw [hfilter, List.mem_singleton] at humem hvmem
      exact absurd (congrArg Task.id (humem.trans hvmem.symm)) hid
    · next hfilter =>
      rw [hfilter] at humem
      cases humem
    · rfl
  | .error (.notFound _), ⟨rfl, hspelled, hcause⟩ =>
    rw [resolve, find?_eq_none_iff.mpr hspelled]
    rcases hcause with rfl | hcause
    · rfl
    · have hfilter : tasks.filter (idBegins given) = [] :=
        List.filter_eq_nil_iff.mpr fun u hu hbegins => hcause u hu (idBegins_iff.mp hbegins)
      simp only [hfilter, ite_self]

/-- An answer is given exactly if it is so. -/
theorem resolve_eq_iff (h : (ids tasks).Nodup) :
    resolve tasks given = answer ↔ Answers tasks given answer :=
  ⟨fun heq => heq ▸ answers_resolve h given, resolve_eq_of_answers h⟩

/-- What an answer says does not depend on the order of the tasks. -/
theorem Answers.perm (hp : tasks.Perm tasks') (ha : Answers tasks given answer) :
    Answers tasks' given answer := by
  have hids : given ∈ ids tasks ↔ given ∈ ids tasks' := (hp.map Task.id).mem_iff
  match answer, ha with
  | .ok t, ha => simpa only [Answers, hp.mem_iff, hids] using ha
  | .error (.ambiguous g), ha => simpa only [Answers, hp.mem_iff, hids] using ha
  | .error (.notFound g), ha => simpa only [Answers, hp.mem_iff, hids] using ha

/-- **The order of the tasks** has no part in what people mean. -/
theorem resolve_perm (h : (ids tasks).Nodup) (hp : tasks.Perm tasks') (given : String) :
    resolve tasks' given = resolve tasks given :=
  resolve_eq_of_answers ((hp.map Task.id).nodup_iff.mp h) ((answers_resolve h given).perm hp)

/-- **What people mean** by a text, where no id is held twice: the task that has it as its id, or
else the only task whose id begins with it. Several such tasks make it ambiguous, and a text that is
neither is not found. The order of the tasks has no part in it. -/
theorem resolve_names_one (h : (ids tasks).Nodup) (given : String) :
    (∀ t, resolve tasks given = .ok t ↔
      t ∈ tasks ∧ (t.id = given ∨ given ≠ "" ∧ given ∉ ids tasks ∧
        given.toList <+: t.id.toList ∧ ∀ u ∈ tasks, given.toList <+: u.id.toList → u = t)) ∧
    (resolve tasks given = .error (.ambiguous given) ↔
      given ≠ "" ∧ given ∉ ids tasks ∧ ∃ u ∈ tasks, ∃ v ∈ tasks, u.id ≠ v.id ∧
        given.toList <+: u.id.toList ∧ given.toList <+: v.id.toList) ∧
    (resolve tasks given = .error (.notFound given) ↔
      (∀ t, resolve tasks given ≠ .ok t) ∧ resolve tasks given ≠ .error (.ambiguous given)) ∧
    ∀ tasks', tasks.Perm tasks' → resolve tasks' given = resolve tasks given := by
  refine ⟨fun t => resolve_eq_iff h, ?_, ?_, fun tasks' hp => resolve_perm h hp given⟩
  · rw [resolve_eq_iff h]
    exact and_iff_right rfl
  · refine ⟨fun heq => by simp [heq], fun ⟨hok, hambiguous⟩ => ?_⟩
    have hanswers := answers_resolve h given
    match hanswer : resolve tasks given with
    | .ok t => exact absurd hanswer (hok t)
    | .error (.ambiguous g) =>
      rw [hanswer] at hanswers
      exact absurd (hanswers.1 ▸ hanswer) hambiguous
    | .error (.notFound g) =>
      rw [hanswer] at hanswers
      rw [hanswers.1]

/-- An id that others begin with, the beginning of two ids, one that begins none, and no text. -/
theorem resolve_names_one_of_demo :
    let named (id : String) : Task :=
      ⟨id, "b", "Lamp", none, .inbox, "medium", none, none, none, "d", "d"⟩
    let tasks := [named "7c9e6679-74", named "7c9e0000-00", named "demo-1", named "demo"]
    (ids tasks).Nodup ∧ resolve tasks "demo" = .ok (named "demo") ∧
      resolve tasks.reverse "demo" = .ok (named "demo") ∧
      resolve tasks "7c9e66" = .ok (named "7c9e6679-74") ∧
      resolve tasks "7c9e" = .error (.ambiguous "7c9e") ∧
      resolve tasks "ffff" = .error (.notFound "ffff") ∧
      resolve tasks "" = .error (.notFound "") := by
  intro named tasks
  have h : (ids tasks).Nodup := by decide +kernel
  obtain ⟨hdemo, -, -, hperm⟩ := resolve_names_one h "demo"
  have hresolve : resolve tasks "demo" = .ok (named "demo") := (hdemo _).mpr (by decide +kernel)
  exact ⟨h, hresolve, (hperm _ tasks.reverse_perm.symm).trans hresolve,
    ((resolve_names_one h "7c9e66").1 _).mpr (by decide +kernel),
    (resolve_names_one h "7c9e").2.1.mpr (by decide +kernel),
    resolve_eq_of_answers h ⟨rfl, by decide +kernel⟩,
    resolve_eq_of_answers h ⟨rfl, by decide +kernel⟩⟩

/-! ### The ids on a board -/

theorem toList_shortId (t : Task) : t.shortId.toList = t.id.toList.take 8 := String.toList_ofList

/-- Only an empty id is cut to nothing. -/
theorem shortId_eq_empty_iff : t.shortId = "" ↔ t.id = "" := by
  rw [← String.toList_eq_nil_iff, ← String.toList_eq_nil_iff, toList_shortId, List.take_eq_nil_iff]
  exact or_iff_right (by decide)

theorem shortId_begins (t : Task) : t.shortId.toList <+: t.id.toList :=
  t.toList_shortId ▸ List.take_prefix 8 t.id.toList

/-- A board has a line for each of its tasks. -/
theorem taskLine_mem_boardView (s : BoardStore) (ht : t ∈ s.tasks) :
    BoardView.taskLine t.status t ∈ boardView s := by
  have hcolumn : (t.status, s.tasks.filter fun u => u.status = t.status) ∈ columns s.tasks :=
    List.mem_map.mpr ⟨t.status, by cases t.status <;> decide, rfl⟩
  have hmem : t ∈ s.tasks.filter fun u => u.status = t.status :=
    List.mem_filter.mpr ⟨ht, decide_eq_true rfl⟩
  have hline : BoardView.taskLine t.status t ∈
      BoardView.columnLines t.status (s.tasks.filter fun u => u.status = t.status) := by
    rw [BoardView.columnLines, if_neg (by simpa using List.ne_nil_of_mem hmem)]
    exact List.mem_cons_of_mem _ (List.mem_map_of_mem hmem)
  rw [boardView, if_neg (by simpa using List.ne_nil_of_mem ht)]
  exact List.mem_append_left _
    (List.mem_append_left _ (List.mem_flatMap.mpr ⟨_, hcolumn, hline⟩))

/-- The line of a task ends with the first characters of its id. -/
theorem shortId_mem_taskLine (s : Status) (t : Task) : dim t.shortId ∈ BoardView.taskLine s t := by
  simp [BoardView.taskLine, spaced]

/-- **What a board shows of an id** means the task that has it as its whole id, if there is one, and
otherwise the task of its line, unless it means several. -/
theorem resolve_shortId {s : BoardStore} (h : (ids s.tasks).Nodup) (ht : t ∈ s.tasks) :
    (∃ line ∈ boardView s, dim t.shortId ∈ line) ∧
    (∀ u ∈ s.tasks, u.id = t.shortId → resolve s.tasks t.shortId = .ok u) ∧
    (t.shortId ∉ ids s.tasks →
      resolve s.tasks t.shortId = .ok t ∨
        resolve s.tasks t.shortId = .error (.ambiguous t.shortId)) := by
  refine ⟨⟨_, taskLine_mem_boardView s ht, shortId_mem_taskLine t.status t⟩,
    fun u hu hid => resolve_eq_of_answers h ⟨hu, .inl hid⟩, fun hspelled => ?_⟩
  have hanswers := answers_resolve h t.shortId
  match hanswer : resolve s.tasks t.shortId with
  | .ok u =>
    rw [hanswer] at hanswers
    obtain ⟨hu, hid | ⟨-, -, -, honly⟩⟩ := hanswers
    · exact absurd (mem_ids.mpr ⟨u, hu, hid⟩) hspelled
    · exact .inl (congrArg _ (honly t ht t.shortId_begins).symm)
  | .error (.ambiguous g) =>
    rw [hanswer] at hanswers
    exact .inr (by rw [hanswers.1])
  | .error (.notFound g) =>
    rw [hanswer] at hanswers
    obtain ⟨-, -, hempty | hnone⟩ := hanswers
    · have hid : t.id = t.shortId := (shortId_eq_empty_iff.mp hempty).trans hempty.symm
      exact absurd (mem_ids.mpr ⟨t, ht, hid⟩) hspelled
    · exact absurd t.shortId_begins (hnone t ht)

/-- The line of a desk names a lamp, and the line of one of two shelves names both. -/
theorem resolve_shortId_of_shelves :
    let named (id : String) : Task :=
      ⟨id, "b", "Lamp", none, .inbox, "medium", none, none, none, "d", "d"⟩
    let s := BoardStore.seeded
      [named "12345678-a", named "7c9e6679-1", named "12345678", named "7c9e6679-2"]
    (ids s.tasks).Nodup ∧ named "12345678-a" ∈ s.tasks ∧ named "7c9e6679-1" ∈ s.tasks ∧
      (∃ line ∈ boardView s, dim "7c9e6679" ∈ line) ∧
      resolve s.tasks (named "12345678-a").shortId = .ok (named "12345678") ∧
      resolve s.tasks (named "7c9e6679-1").shortId = .error (.ambiguous "7c9e6679") := by
  intro named s
  have h : (ids s.tasks).Nodup := by decide +kernel
  have hdesk : named "12345678-a" ∈ s.tasks := by decide +kernel
  have hshelf : named "7c9e6679-1" ∈ s.tasks := by decide +kernel
  obtain ⟨-, hlamp, -⟩ := resolve_shortId h hdesk
  obtain ⟨hline, -, hseveral⟩ := resolve_shortId h hshelf
  have hshort : (named "7c9e6679-1").shortId = "7c9e6679" := by decide +kernel
  rw [hshort] at hline hseveral ⊢
  have hne : resolve s.tasks "7c9e6679" ≠ .ok (named "7c9e6679-1") := by
    rw [Ne, resolve_eq_iff h, Answers]
    decide +kernel
  exact ⟨h, hdesk, hshelf, hline, hlamp _ (by decide +kernel) (by decide +kernel),
    (hseveral (by decide +kernel)).resolve_left hne⟩

/-- What a board shows of the id of a desk is the whole id of a lamp, and means the lamp. -/
theorem resolve_shortId_ne :
    let lamp : Task := ⟨"12345678", "b", "Lamp", none, .inbox, "medium", none, none, none, "d", "d"⟩
    let desk : Task := { lamp with id := "12345678-a", title := "Desk" }
    let s := BoardStore.seeded [lamp, desk]
    (ids s.tasks).Nodup ∧ desk ∈ s.tasks ∧ (∃ line ∈ boardView s, dim desk.shortId ∈ line) ∧
      resolve s.tasks desk.shortId = .ok lamp ∧ lamp ≠ desk := by
  intro lamp desk s
  have h : (ids s.tasks).Nodup := by decide +kernel
  have hdesk : desk ∈ s.tasks := by decide +kernel
  have hlamp : lamp ∈ s.tasks := by decide +kernel
  exact ⟨h, hdesk,
    ⟨_, taskLine_mem_boardView s hdesk, shortId_mem_taskLine desk.status desk⟩,
    resolve_eq_of_answers h ⟨hlamp, .inl (by decide +kernel)⟩, by decide +kernel⟩

end Task

end LiveBoard
