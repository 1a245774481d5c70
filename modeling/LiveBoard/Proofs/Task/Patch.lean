import LiveBoard.Board.Listener
import LiveBoard.Proofs.Message.RoundTrip

/-!
# Patches field by field

A patch overwrites the fields that it names, so of several patches the last one that names a field
decides what it is. Several patches are therefore as good as one: their merge, in which the later
value stands before the earlier one. A field that may be empty is named by the patch that clears it,
and being cleared is a value like any other.

What a patch says of the status before is news to those who read it. No task becomes another for it,
and no board.

## Main definitions

* `TaskField`: the fields of a task that can be patched, each with its `TaskField.Value`.
* `Task.value`, `Patch.value?`: what a task has in a field, and what a patch puts there.
* `Patch.merge`, `Patch.mergeAll`: the patch that is as good as several.
* `Task.applyAll`: a task after several patches.

## Main results

* `Task.value_apply`: a patch acts on every field by itself.
* `Task.applyAll_eq`: several patches are as good as their merge.
* `Patch.value?_mergeAll`: a merge has the last value that was named.
* `Patch.isEmpty_iff`: the empty patches are those that change no task.
* `Task.last_named_value_stays`: all of it for every task and every sequence of patches.
-/

namespace LiveBoard

open Json

/-- The fields of a task that a patch can overwrite: all but its id. -/
inductive TaskField
  | boardId
  | title
  | description
  | status
  | priority
  | dueAt
  | assignedAgentId
  | createdByUserId
  | createdAt
  | updatedAt
  deriving Repr, DecidableEq

/-- What a field holds. Four of the fields may be empty. -/
def TaskField.Value : TaskField → Type
  | .status => Status
  | .description | .dueAt | .assignedAgentId | .createdByUserId => Option String
  | .boardId | .title | .priority | .createdAt | .updatedAt => String

instance : (f : TaskField) → DecidableEq f.Value
  | .status => inferInstanceAs (DecidableEq Status)
  | .description | .dueAt | .assignedAgentId | .createdByUserId =>
    inferInstanceAs (DecidableEq (Option String))
  | .boardId | .title | .priority | .createdAt | .updatedAt => inferInstanceAs (DecidableEq String)

/-- What a task has in a field. -/
def Task.value (t : Task) : (f : TaskField) → f.Value
  | .boardId => t.boardId
  | .title => t.title
  | .description => t.description
  | .status => t.status
  | .priority => t.priority
  | .dueAt => t.dueAt
  | .assignedAgentId => t.assignedAgentId
  | .createdByUserId => t.createdByUserId
  | .createdAt => t.createdAt
  | .updatedAt => t.updatedAt

/-- A task after several patches, the first one first. -/
def Task.applyAll (ps : List Patch) (t : Task) : Task := ps.foldl Task.apply t

namespace Patch

/-- What a patch puts into a field, if it names the field. -/
def value? (p : Patch) : (f : TaskField) → Option f.Value
  | .boardId => p.boardId
  | .title => p.title
  | .description => p.description
  | .status => p.status
  | .priority => p.priority
  | .dueAt => p.dueAt
  | .assignedAgentId => p.assignedAgentId
  | .createdByUserId => p.createdByUserId
  | .createdAt => p.createdAt
  | .updatedAt => p.updatedAt

/-- The patch with all that either of two names. The second one decides where both name a field. -/
def merge (p q : Patch) : Patch where
  boardId := q.boardId.or p.boardId
  title := q.title.or p.title
  description := q.description.or p.description
  status := q.status.or p.status
  previousStatus := q.previousStatus.or p.previousStatus
  priority := q.priority.or p.priority
  dueAt := q.dueAt.or p.dueAt
  assignedAgentId := q.assignedAgentId.or p.assignedAgentId
  createdByUserId := q.createdByUserId.or p.createdByUserId
  createdAt := q.createdAt.or p.createdAt
  updatedAt := q.updatedAt.or p.updatedAt

/-- The merge of several patches, the last one deciding. -/
def mergeAll (ps : List Patch) : Patch := ps.foldl merge {}

/-- The patch without a word about the status before. -/
def withoutPrevious (p : Patch) : Patch := { p with previousStatus := none }

/-- The text of a patch. -/
def encode (p : Patch) : String := p.toValue.print

/-- The patch of a text. -/
def decode (text : String) : Except ReadError Patch := decodeText decoder text

/-! ### Texts -/

/-- A patch is read back from its text. -/
theorem decode_encode (p : Patch) : decode p.encode = .ok p := by
  have hfits := p.fits_toValue.mono (show 1 ≤ 127 by decide)
  simp only [decode, encode, decodeText, ofText_print hfits.1, bind, Except.bind,
    Patch.reads .direct p hfits.2]
  rfl

/-- A field that is cleared is written, and one that is left alone is not. -/
example : encode { dueAt := some none } = "\x7b\"due_at\":null\x7d" ∧ encode {} = "\x7b\x7d" := by
  decide +kernel

theorem mapM_decode_encode (ps : List Patch) : ps.mapM (fun p => decode p.encode) = .ok ps := by
  induction ps with
  | nil => rfl
  | cons p ps ih =>
    rw [List.mapM_cons, decode_encode, ih]
    rfl

end Patch

/-! ### One patch -/

namespace Task

variable (t : Task) (p q : Patch)

/-- **A patch acts on every field by itself**: it has the value that the patch names, or else the
one that it had. -/
theorem value_apply (f : TaskField) : (t.apply p).value f = (p.value? f).getD (t.value f) := by
  cases f <;> rfl

/-- Tasks with the same id and the same fields are the same. -/
theorem eq_of_value {t u : Task} (hid : t.id = u.id) (h : ∀ f, t.value f = u.value f) : t = u := by
  cases t
  cases u
  rw [mk.injEq]
  exact ⟨hid, h .boardId, h .title, h .description, h .status, h .priority, h .dueAt,
    h .assignedAgentId, h .createdByUserId, h .createdAt, h .updatedAt⟩

/-- There are two tasks that have no field in common. -/
theorem exists_value_ne : ∃ t u : Task, ∀ f, t.value f ≠ u.value f := by
  refine ⟨⟨"", "a", "a", none, .inbox, "a", none, none, none, "a", "a"⟩,
    ⟨"", "b", "b", some "", .done, "b", some "", some "", some "", "b", "b"⟩, fun f => ?_⟩
  cases f <;> decide

end Task

namespace Patch

variable (p q : Patch) (f : TaskField)

theorem value?_merge : (p.merge q).value? f = (q.value? f).or (p.value? f) := by
  cases f <;> rfl

theorem isEmpty_iff_value? : p.isEmpty = true ↔ ∀ f, p.value? f = none := by
  simp only [isEmpty, Bool.and_eq_true, Option.isNone_iff_eq_none]
  constructor
  · rintro ⟨⟨⟨⟨⟨⟨⟨⟨⟨h1, h2⟩, h3⟩, h4⟩, h5⟩, h6⟩, h7⟩, h8⟩, h9⟩, h10⟩ f
    cases f <;> assumption
  · intro h
    exact ⟨⟨⟨⟨⟨⟨⟨⟨⟨h .boardId, h .title⟩, h .description⟩, h .status⟩, h .priority⟩, h .dueAt⟩,
      h .assignedAgentId⟩, h .createdByUserId⟩, h .createdAt⟩, h .updatedAt⟩

/-- **The empty patches** are those that leave every task as it was. -/
theorem isEmpty_iff : p.isEmpty = true ↔ ∀ t : Task, t.apply p = t := by
  rw [isEmpty_iff_value?]
  constructor
  · intro h t
    refine Task.eq_of_value rfl fun f => ?_
    rw [t.value_apply, h, Option.getD_none]
  · -- a value that the patch names is the one that either of two different tasks has there
    intro h f
    obtain ⟨t, u, hne⟩ := Task.exists_value_ne
    cases hv : p.value? f with
    | none => rfl
    | some v =>
      have hheld : ∀ t : Task, t.value f = v := fun t => by
        rw [← h t, t.value_apply, hv, Option.getD_some]
      exact absurd ((hheld t).trans (hheld u).symm) (hne f)

end Patch

/-! ### Many patches -/

theorem Task.apply_merge (t : Task) (p q : Patch) : t.apply (p.merge q) = (t.apply p).apply q := by
  refine eq_of_value rfl fun f => ?_
  rw [value_apply, value_apply, value_apply, Patch.value?_merge, Option.getD_or]

theorem Task.apply_foldl_merge (ps : List Patch) (t : Task) (p : Patch) :
    t.apply (ps.foldl Patch.merge p) = (t.apply p).applyAll ps := by
  induction ps generalizing p with
  | nil => rfl
  | cons q ps ih => exact (ih (p.merge q)).trans (congrArg (applyAll ps) (t.apply_merge p q))

/-- **Several patches are as good as their merge.** -/
theorem Task.applyAll_eq (ps : List Patch) (t : Task) :
    t.applyAll ps = t.apply (Patch.mergeAll ps) :=
  (t.apply_foldl_merge ps {}).symm

theorem Patch.value?_foldl_merge (ps : List Patch) (p : Patch) (f : TaskField) :
    (ps.foldl merge p).value? f = (ps.filterMap (·.value? f)).getLast?.or (p.value? f) := by
  induction ps generalizing p with
  | nil => rfl
  | cons q ps ih =>
    rw [List.foldl_cons, ih, value?_merge, List.filterMap_cons]
    cases q.value? f with
    | none => rw [Option.none_or]
    | some v =>
      rw [List.getLast?_cons]
      cases (ps.filterMap (·.value? f)).getLast? <;> rfl

/-- **A merge has the last value** that was named for a field. -/
theorem Patch.value?_mergeAll (ps : List Patch) (f : TaskField) :
    (mergeAll ps).value? f = (ps.filterMap (·.value? f)).getLast? :=
  (value?_foldl_merge ps {} f).trans (by cases f <;> exact Option.or_none)

theorem Task.applyAll_map_withoutPrevious (ps : List Patch) (t : Task) :
    t.applyAll (ps.map Patch.withoutPrevious) = t.applyAll ps :=
  List.foldl_map

/-- **The last value that is named stays.** Whatever patches a task is given one after the other,
its id is what it was, and every other field has the value of the last patch that names it, be it
empty, or else the one that it had. The patches are as good as their merge, and those that are read
back from their texts as good as themselves. What they say of the status before makes no
difference to any task and to no board of a client, and a patch is empty exactly if it leaves every
task as it was. -/
theorem Task.last_named_value_stays (t : Task) (ps : List Patch) :
    (t.applyAll ps).id = t.id ∧
    (∀ f, (t.applyAll ps).value f = (ps.filterMap (·.value? f)).getLast?.getD (t.value f)) ∧
    t.applyAll ps = t.apply (Patch.mergeAll ps) ∧
    (ps.mapM fun p => Patch.decode p.encode).map t.applyAll = .ok (t.applyAll ps) ∧
    t.applyAll (ps.map Patch.withoutPrevious) = t.applyAll ps ∧
    (∀ p : Patch, p.withoutPrevious.isEmpty = p.isEmpty ∧
      ∀ (b : SharedBoard) (u : TaskUpdate),
        b.receive (.taskUpdated { u with changes := p.withoutPrevious }) =
          b.receive (.taskUpdated { u with changes := p })) ∧
    ∀ p : Patch, p.isEmpty = true ↔ ∀ u : Task, u.apply p = u := by
  have hmerge := t.applyAll_eq ps
  refine ⟨by rw [hmerge, apply], fun f => ?_, hmerge, ?_, t.applyAll_map_withoutPrevious ps,
    fun p => ⟨rfl, fun b u => rfl⟩, Patch.isEmpty_iff⟩
  · rw [hmerge, value_apply, Patch.value?_mergeAll]
  · rw [Patch.mapM_decode_encode]
    rfl

end LiveBoard
