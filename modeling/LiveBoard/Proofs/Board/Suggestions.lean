import LiveBoard.Proofs.Board.Change
import Mathlib.Data.List.DropRight
import Mathlib.Data.List.Nodup

/-!
# The suggestions of a board

A buffer of suggestions holds the latest of those that it has taken. It takes every suggestion whose
id it does not hold, so an id that was pushed out at the far end may come back. What it holds is a
matter of what was pushed alone: it is as many of the suggestions taken as there is room for, the
latest first.

A board pushes a suggestion when an agent makes one, and touches its buffer in no other way.

## Main definitions

* `SuggestionBuffer.pushAll`: a buffer after several pushes.
* `SuggestionBuffer.taken`: the suggestions that a buffer takes.
* `BoardStore.Change.suggestion?`: the suggestion that a change brings.

## Main results

* `SuggestionBuffer.items_pushAll`: what a buffer holds after several pushes.
* `SuggestionBuffer.nodup_ids_pushAll`: no id is held twice.
* `BoardStore.suggestions_run`: what a board holds after several changes.
* `SuggestionBuffer.holds_latest`: all of it for every capacity and every sequence of pushes.
-/

namespace LiveBoard

namespace SuggestionBuffer

variable {b : SuggestionBuffer} {s : Suggestion}

/-- The ids of the suggestions that are held. -/
def ids (b : SuggestionBuffer) : List String := b.items.map (·.id)

/-- A buffer after several pushes, the first one first. -/
def pushAll (ss : List Suggestion) (b : SuggestionBuffer) : SuggestionBuffer :=
  ss.foldl (fun b s => (b.push s).2) b

/-- The suggestions that a buffer takes of those that are pushed, the first one first. -/
def taken : List Suggestion → SuggestionBuffer → List Suggestion
  | [], _ => []
  | s :: ss, b => (if (b.push s).1 then [s] else []) ++ taken ss (b.push s).2

@[simp] theorem pushAll_nil (b : SuggestionBuffer) : b.pushAll [] = b := rfl

@[simp] theorem pushAll_cons (s : Suggestion) (ss : List Suggestion) (b : SuggestionBuffer) :
    b.pushAll (s :: ss) = (b.push s).2.pushAll ss := rfl

/-! ### One push -/

theorem contains_iff {id : String} : b.contains id = true ↔ id ∈ b.ids := by
  simp [contains, ids]

theorem push_of_mem (h : s.id ∈ b.ids) : b.push s = (false, b) :=
  if_pos (contains_iff.mpr h)

theorem push_of_notMem (h : s.id ∉ b.ids) :
    b.push s = (true, { b with items := (s :: b.items).take b.capacity }) :=
  if_neg (mt contains_iff.mp h)

theorem fst_push_eq_false_iff : (b.push s).1 = false ↔ s.id ∈ b.ids := by
  by_cases h : s.id ∈ b.ids
  · simp [push_of_mem h, h]
  · simp [push_of_notMem h, h]

theorem capacity_push (s : Suggestion) (b : SuggestionBuffer) :
    (b.push s).2.capacity = b.capacity := by
  by_cases h : s.id ∈ b.ids
  · rw [push_of_mem h]
  · rw [push_of_notMem h]

theorem length_items_push (h : b.items.length ≤ b.capacity) :
    (b.push s).2.items.length ≤ b.capacity := by
  by_cases hid : s.id ∈ b.ids
  · rwa [push_of_mem hid]
  · rw [push_of_notMem hid]
    exact List.length_take_le _ _

theorem nodup_ids_push (h : b.ids.Nodup) : (b.push s).2.ids.Nodup := by
  by_cases hid : s.id ∈ b.ids
  · rwa [push_of_mem hid]
  · rw [push_of_notMem hid]
    have hnew : ((s :: b.items).map (·.id)).Nodup := List.nodup_cons.mpr ⟨hid, h⟩
    exact hnew.sublist ((List.take_sublist _ _).map _)

/-- What has the id of a suggestion that was held is that suggestion. -/
theorem eq_of_mem_push (h : b.ids.Nodup) {held x : Suggestion} (hheld : held ∈ b.items)
    (hx : x ∈ (b.push s).2.items) (hid : x.id = held.id) : x = held := by
  have hold : x ∈ b.items := by
    by_cases hs : s.id ∈ b.ids
    · rwa [push_of_mem hs] at hx
    · rw [push_of_notMem hs] at hx
      rcases List.mem_cons.mp (List.mem_of_mem_take hx) with rfl | hx
      · exact absurd (hid ▸ List.mem_map_of_mem hheld) hs
      · exact hx
  exact List.inj_on_of_nodup_map h hold hheld hid

/-! ### Many pushes -/

theorem nodup_ids_pushAll (h : b.ids.Nodup) (ss : List Suggestion) : (b.pushAll ss).ids.Nodup := by
  induction ss generalizing b with
  | nil => exact h
  | cons s ss ih => exact ih (nodup_ids_push h)

/-- **What a buffer holds** after several pushes: the latest of what it has taken, and behind it
what it held before, as far as there is room. -/
theorem items_pushAll (h : b.items.length ≤ b.capacity) (ss : List Suggestion) :
    (b.pushAll ss).items = ((b.taken ss).reverse ++ b.items).take b.capacity := by
  induction ss generalizing b with
  | nil => exact (List.take_of_length_le h).symm
  | cons s ss ih =>
    have hroom : (b.push s).2.items.length ≤ (b.push s).2.capacity :=
      (capacity_push s b).symm ▸ length_items_push h
    rw [pushAll_cons, ih hroom, capacity_push, taken]
    by_cases hid : s.id ∈ b.ids
    · simp [push_of_mem hid]
    · -- cutting the buffer first makes no difference, as the latest stand before it
      have hcut : ∀ front : List Suggestion,
          (front ++ (s :: b.items).take b.capacity).take b.capacity =
            (front ++ s :: b.items).take b.capacity := by
        intro front
        rw [List.take_append, List.take_append, List.take_take,
          Nat.min_eq_left (Nat.sub_le _ _)]
      simp [push_of_notMem hid, hcut]

end SuggestionBuffer

/-! ### Boards -/

namespace BoardStore

/-- The suggestion that a change brings, if it brings one. -/
def Change.suggestion? : Change → Option Suggestion
  | .message (.suggestionNew s) => some s
  | _ => none

/-- A change pushes the suggestion that it brings, and touches the buffer in no other way. -/
theorem suggestions_perform (c : Change) (s : BoardStore) :
    (s.perform c).2.suggestions = s.suggestions.pushAll c.suggestion?.toList := by
  cases hc : c.isSuggestion with
  | false =>
    have hnone : c.suggestion? = none := by
      cases c with
      | message m => cases m <;> first | rfl | cases hc
      | _ => rfl
    have hsame : s.perform c = (s.withSuggestions s.suggestions).perform c := rfl
    rw [hsame, perform_withSuggestions hc, hnone]
    rfl
  | true =>
    cases c with
    | message m =>
      cases m with
      | suggestionNew suggestion => rfl
      | _ => cases hc
    | _ => cases hc

/-- **What a board holds** after several changes is what was pushed in them. -/
theorem suggestions_run (cs : List Change) (s : BoardStore) :
    (s.run cs).suggestions = s.suggestions.pushAll (cs.filterMap Change.suggestion?) := by
  induction cs generalizing s with
  | nil => rfl
  | cons c cs ih =>
    rw [run, ih, suggestions_perform]
    cases hc : c.suggestion? with
    | none => rw [List.filterMap_cons_none hc]; rfl
    | some suggestion => rw [List.filterMap_cons_some hc]; rfl

end BoardStore

namespace SuggestionBuffer

/-- **A buffer holds the latest** of what it has taken. Whatever was pushed to a buffer of any
capacity, it refuses exactly the suggestions whose id it holds, and stays as it is then. It holds
as many of the suggestions that it has taken as there is room for, the latest first. No id is held
twice, there are never more than the capacity, and no push puts another suggestion in the place of
one that is held. The suggestions of a board are those that were pushed in the messages about
them, whatever else has happened to it. -/
theorem holds_latest (capacity : Nat) (pushed : List Suggestion) :
    let b := (withCapacity capacity).pushAll pushed
    let taken := (withCapacity capacity).taken pushed
    (∀ s, ((b.push s).1 = false ↔ s.id ∈ b.ids) ∧ ((b.push s).1 = false → (b.push s).2 = b)) ∧
    b.items = (taken.rtake (min capacity taken.length)).reverse ∧
    b.ids.Nodup ∧ b.items.length ≤ capacity ∧
    (∀ s, ∀ held ∈ b.items, ∀ x ∈ (b.push s).2.items, x.id = held.id → x = held) ∧
    ∀ (s : BoardStore) (cs : List BoardStore.Change),
      (s.run cs).suggestions =
        s.suggestions.pushAll (cs.filterMap BoardStore.Change.suggestion?) := by
  intro b taken
  have hnodup : b.ids.Nodup :=
    nodup_ids_pushAll (b := withCapacity capacity) List.nodup_nil pushed
  have hitems : b.items = taken.reverse.take capacity := by
    have hall := items_pushAll (b := withCapacity capacity) (Nat.zero_le _) pushed
    rwa [show (withCapacity capacity).items = [] from rfl, List.append_nil] at hall
  refine ⟨fun s => ⟨fst_push_eq_false_iff, fun hrefused => ?refused⟩, ?latest, hnodup, ?room,
    fun s held hheld x hx => eq_of_mem_push hnodup hheld hx, fun s cs => s.suggestions_run cs⟩
  case refused => rw [push_of_mem (fst_push_eq_false_iff.mp hrefused)]
  case latest =>
    have hroom : taken.reverse.take capacity =
        taken.reverse.take (min capacity taken.length) := by
      simp [List.take_eq_take_iff]
    rw [hitems, hroom, List.rtake_eq_reverse_take_reverse, List.reverse_reverse]
  case room =>
    rw [hitems]
    exact List.length_take_le _ _

/-- With room for two, an id that was pushed out comes back with another title, and one that is
held is refused. -/
theorem holds_latest_of_returning :
    let note := fun id title : String =>
      (⟨id, title, none, "note", "low", 0, "pending", none, ""⟩ : Suggestion)
    let pushed := [note "a" "first", note "b" "first", note "c" "first", note "c" "second",
      note "a" "second"]
    let b := (withCapacity 2).pushAll pushed
    b.items = (((withCapacity 2).taken pushed).rtake 2).reverse ∧
      b.items.map (fun s => (s.id, s.title)) = [("a", "second"), ("c", "first")] := by
  intro note pushed b
  obtain ⟨-, hlatest, -⟩ := holds_latest 2 pushed
  exact ⟨hlatest, by decide +kernel⟩

end SuggestionBuffer

end LiveBoard
