import LiveBoard.Proofs.Board.Blur
import LiveBoard.Proofs.Board.Reading

/-!
# Changes of a board

Everything that can happen to the board of a client is one of three things: tasks come from
elsewhere, the relay says something, or the client moves a task. A change may carry out an
operation, and then the operation says whether it has done anything.

The suggestions of a board have no say in its tasks. No change but a new suggestion reads them or
writes them, so boards that differ in nothing else still differ in nothing else afterwards. The
whole board from the relay replaces all of the rest: what a board was before it is forgotten.

## Main definitions

* `BoardStore.Change`: what can happen to a board.
* `BoardStore.perform`, `BoardStore.run`: the board after a change, and after several.
* `BoardStore.answers`: what the operations of several changes say.
* `BoardStore.withSuggestions`: the board with other suggestions.

## Main results

* `BoardStore.perform_withSuggestions`: no other change knows of the suggestions.
* `BoardStore.authoritative_run`: a board that was sent as a whole stays so.
* `BoardStore.snapshot_wipes_history`: after the whole board nothing is left of what was before.
-/

namespace LiveBoard

namespace BoardStore

/-- What can happen to the board of a client. -/
inductive Change
  /-- Tasks come from elsewhere. -/
  | seed (tasks : List Task)
  /-- The relay says something. -/
  | message (m : ServerMessage)
  /-- The client moves a task. -/
  | move (id : String) (status : Status)
  deriving Repr, DecidableEq

namespace Change

/-- The operation that a change carries out, if it carries out any. -/
def operation? : Change → Option (BoardStore → Bool × BoardStore)
  | .seed tasks => some (BoardStore.seed tasks)
  | .message m => BoardStore.operation? m
  | .move id status => some (moveLocally id status)

/-- An agent suggests something. -/
def isSuggestion : Change → Bool
  | .message (.suggestionNew _) => true
  | _ => false

end Change

/-- What the operation of a change says, if there is one, and the board afterwards. -/
def perform (s : BoardStore) (c : Change) : Option Bool × BoardStore :=
  match c.operation? with
  | some f => (some (f s).1, (f s).2)
  | none => (none, s)

/-- The board after several changes, the first one first. -/
def run (s : BoardStore) : List Change → BoardStore
  | [] => s
  | c :: cs => run (s.perform c).2 cs

/-- What the operations of several changes say. -/
def answers (s : BoardStore) : List Change → List (Option Bool)
  | [] => []
  | c :: cs => (s.perform c).1 :: answers (s.perform c).2 cs

theorem perform_message (s : BoardStore) (m : ServerMessage) :
    (s.perform (.message m)).2 = s.follow m := by
  rw [perform, follow, Change.operation?]
  cases operation? m <;> rfl

theorem seed_of_authoritative {s : BoardStore} (h : s.authoritative = true) (tasks : List Task) :
    s.seed tasks = (false, s) :=
  if_pos h

/-! ### Suggestions -/

/-- The board with other suggestions. -/
def withSuggestions (b : SuggestionBuffer) (s : BoardStore) : BoardStore :=
  { s with suggestions := b }

/-- The operation neither reads the suggestions nor writes them. -/
def IgnoresSuggestions (f : BoardStore → Bool × BoardStore) : Prop :=
  ∀ b s, f (s.withSuggestions b) = ((f s).1, (f s).2.withSuggestions b)

theorem ignoresSuggestions_seed (tasks : List Task) : IgnoresSuggestions (seed tasks) := by
  intro b s
  cases h : s.authoritative <;> simp [seed, withSuggestions, h]

theorem ignoresSuggestions_applyUpdate (u : TaskUpdate) :
    IgnoresSuggestions (applyUpdate u) := by
  intro b s
  have hcontains : (s.withSuggestions b).contains u.taskId = s.contains u.taskId := rfl
  rw [applyUpdate, applyUpdate, hcontains]
  split <;> rfl

theorem ignoresSuggestions_applyCreated (t : Task) : IgnoresSuggestions (applyCreated t) := by
  intro b s
  have hcontains : (s.withSuggestions b).contains t.id = s.contains t.id := rfl
  rw [applyCreated, applyCreated, hcontains]
  split <;> rfl

theorem ignoresSuggestions_moveLocally (id : String) (status : Status) :
    IgnoresSuggestions (moveLocally id status) := by
  intro b s
  have htask : (s.withSuggestions b).task? id = s.task? id := rfl
  rw [moveLocally, moveLocally, htask]
  split
  · split <;> rfl
  · rfl

/-- No operation but that of a suggestion knows of the suggestions. -/
theorem ignoresSuggestions_operation {c : Change} (hc : c.isSuggestion = false)
    {f : BoardStore → Bool × BoardStore} (hf : f ∈ c.operation?) : IgnoresSuggestions f := by
  cases c with
  | seed tasks =>
    obtain rfl := Option.mem_some.mp hf
    exact ignoresSuggestions_seed tasks
  | move id status =>
    obtain rfl := Option.mem_some.mp hf
    exact ignoresSuggestions_moveLocally id status
  | message m =>
    cases m with
    | boardState snapshot =>
      obtain rfl := Option.mem_some.mp hf
      exact fun _ _ => rfl
    | taskUpdated u =>
      obtain rfl := Option.mem_some.mp hf
      exact ignoresSuggestions_applyUpdate u
    | taskCreated created =>
      obtain rfl := Option.mem_some.mp hf
      exact ignoresSuggestions_applyCreated created.task
    | taskDeleted d =>
      obtain rfl := Option.mem_some.mp hf
      exact fun _ _ => rfl
    | suggestionNew suggestion => cases hc
    | heartbeatAck id => cases hf
    | unknown => cases hf

/-- No change but a suggestion knows of the suggestions. -/
theorem perform_withSuggestions {c : Change} (hc : c.isSuggestion = false) (b : SuggestionBuffer)
    (s : BoardStore) :
    (s.withSuggestions b).perform c = ((s.perform c).1, (s.perform c).2.withSuggestions b) := by
  rw [perform, perform]
  cases hf : c.operation? with
  | none => rfl
  | some f =>
    dsimp only
    rw [ignoresSuggestions_operation hc hf b s]

theorem run_withSuggestions {cs : List Change} (hcs : ∀ c ∈ cs, c.isSuggestion = false)
    (b : SuggestionBuffer) (s : BoardStore) :
    (s.withSuggestions b).run cs = (s.run cs).withSuggestions b := by
  induction cs generalizing s with
  | nil => rfl
  | cons c cs ih =>
    obtain ⟨hc, hcs⟩ := List.forall_mem_cons.mp hcs
    rw [run, perform_withSuggestions hc, ih hcs, run]

theorem answers_withSuggestions {cs : List Change} (hcs : ∀ c ∈ cs, c.isSuggestion = false)
    (b : SuggestionBuffer) (s : BoardStore) : (s.withSuggestions b).answers cs = s.answers cs := by
  induction cs generalizing s with
  | nil => rfl
  | cons c cs ih =>
    obtain ⟨hc, hcs⟩ := List.forall_mem_cons.mp hcs
    rw [answers, perform_withSuggestions hc, ih hcs, answers]

/-! ### The whole board -/

theorem authoritative_perform (c : Change) {s : BoardStore} (h : s.authoritative = true) :
    (s.perform c).2.authoritative = true := by
  cases c with
  | seed tasks =>
    have hseed : (s.perform (.seed tasks)).2 = (s.seed tasks).2 := rfl
    rwa [hseed, seed_of_authoritative h]
  | message m =>
    rw [perform_message]
    exact authoritative_follow m h
  | move id status => exact (authoritative_moveLocally id status s).trans h

/-- A board that was sent as a whole stays so. -/
theorem authoritative_run (cs : List Change) {s : BoardStore} (h : s.authoritative = true) :
    (s.run cs).authoritative = true := by
  induction cs generalizing s with
  | nil => exact h
  | cons c cs ih => exact ih (authoritative_perform c h)

/-- **After the whole board nothing is left of what was before.** Whatever two boards were, once
the relay has sent both of them the whole board, they have the same tasks in the same order, the
same counts, the same standing and the same time of the last snapshot after any further changes
that are no suggestions, and every operation says the same on both. No seed does anything any
more, and the board never becomes one again that the relay has not sent. -/
theorem snapshot_wipes_history (s₁ s₂ : BoardStore) (b : Snapshot) (cs : List Change) :
    let whole := .message (.boardState b) :: cs
    ((∀ c ∈ cs, c.isSuggestion = false) →
      (s₁.run whole).tasks = (s₂.run whole).tasks ∧
      (s₁.run whole).counts = (s₂.run whole).counts ∧
      (s₁.run whole).authoritative = (s₂.run whole).authoritative ∧
      (s₁.run whole).snapshotAt = (s₂.run whole).snapshotAt ∧
      s₁.answers whole = s₂.answers whole) ∧
    (s₁.run whole).authoritative = true ∧
    ∀ tasks, (s₁.run whole).seed tasks = (false, s₁.run whole) := by
  intro whole
  have hauthoritative : (s₁.run whole).authoritative = true := authoritative_run cs rfl
  refine ⟨fun hcs => ?_, hauthoritative, seed_of_authoritative hauthoritative⟩
  have hrun : s₂.run whole = (s₁.run whole).withSuggestions s₂.suggestions :=
    run_withSuggestions hcs s₂.suggestions (s₁.applySnapshot b).2
  have hanswers : s₂.answers whole = s₁.answers whole :=
    congrArg (some true :: ·) (answers_withSuggestions hcs s₂.suggestions (s₁.applySnapshot b).2)
  rw [hrun]
  exact ⟨rfl, rfl, rfl, rfl, hanswers.symm⟩

/-- A board that was seeded, has moved its task and has heard of a suggestion, and one that knows
nothing, go on alike. -/
theorem snapshot_wipes_history_of_moved :
    let lamp : Task := ⟨"1", "b", "Lamp", none, .inbox, "P2", none, none, none, "d", "d"⟩
    let hint : Suggestion := ⟨"s", "Sort", none, "sort", "P2", 0, "pending", none, "d"⟩
    let moved := (seeded [lamp]).run [.move "1" .done, .message (.suggestionNew hint)]
    let b : Snapshot := ⟨[{ lamp with id := "2" }, { lamp with title := "Desk lamp" }], "t"⟩
    let cs : List Change := [.move "1" .done,
      .message (.taskUpdated ⟨"2", { dueAt := some none, status := some .review }, none, "u"⟩),
      .seed [lamp], .message (.taskDeleted ⟨"3", "v"⟩)]
    let whole := .message (.boardState b) :: cs
    (∀ c ∈ cs, c.isSuggestion = false) ∧ (moved.run whole).tasks = (empty.run whole).tasks ∧
      moved ≠ empty ∧ moved.run whole ≠ empty.run whole ∧
      moved.answers whole = [some true, some true, some true, some false, some false] := by
  intro lamp hint moved b cs whole
  have hcs : ∀ c ∈ cs, c.isSuggestion = false := by decide +kernel
  exact ⟨hcs, ((snapshot_wipes_history moved empty b cs).1 hcs).1, by decide +kernel,
    by decide +kernel, by decide +kernel⟩

end BoardStore

end LiveBoard
