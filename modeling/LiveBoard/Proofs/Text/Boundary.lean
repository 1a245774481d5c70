import LiveBoard.Text.Blank
import Mathlib.Data.List.DropRight
import Mathlib.Data.List.TakeWhile

/-!
# Where a text is cut

A reader takes the front of a text as long as its characters are of one kind. What it takes does
not depend on the rest where the rest starts with a character of another kind. What is trimmed loses
its blanks at both ends, so nothing is left to trim.

## Main results

* `Text.takeWhile_append_of_head`: the front of a text that something else follows.
* `Text.eq_false_of_mem_head`: what is left starts with a character of another kind.
* `Text.trim_trim`, `Text.trim_eq_empty_iff`: what trimming leaves.
-/

namespace LiveBoard.Text

variable {p : Char → Bool} {cs rest : List Char} {c : Char}

/-- **A text is cut where it was before** if what follows starts with a character of another
kind. -/
theorem takeWhile_append_of_head (h : ∀ c ∈ rest.head?, p c = false) (cs : List Char) :
    (cs ++ rest).takeWhile p = cs.takeWhile p ∧
      (cs ++ rest).dropWhile p = cs.dropWhile p ++ rest := by
  induction cs with
  | nil =>
    cases rest with
    | nil => exact ⟨rfl, rfl⟩
    | cons c rest =>
      have hc : ¬p c = true := by simp [h c rfl]
      exact ⟨List.takeWhile_cons_of_neg hc, List.dropWhile_cons_of_neg hc⟩
  | cons c cs ih => cases hc : p c <;> simp [hc, ih]

theorem dropWhile_eq_self_of_head (h : ∀ c ∈ cs.head?, p c = false) : cs.dropWhile p = cs :=
  (takeWhile_append_of_head h []).2

theorem eq_false_of_mem_head (h : c ∈ (cs.dropWhile p).head?) : p c = false := by
  have hhead := List.head?_dropWhile_not p cs
  rw [Option.mem_def.mp h] at hhead
  exact hhead

/-! ### Trimming -/

theorem trimChars_eq (cs : List Char) :
    trimChars cs = (cs.dropWhile isBlank).rdropWhile isBlank := rfl

theorem trimChars_trimChars (cs : List Char) : trimChars (trimChars cs) = trimChars cs := by
  -- The right end is cut last, and what is left starts as it did before.
  have hstart : ∀ c ∈ (trimChars cs).head?, isBlank c = false := by
    intro c hc
    obtain ⟨rest, hrest⟩ := List.rdropWhile_prefix isBlank (cs.dropWhile isBlank)
    have hhead : c ∈ (cs.dropWhile isBlank).head? := by
      rw [← hrest, List.head?_append]
      exact Option.mem_def.mpr (Option.or_eq_some_iff.mpr (.inl hc))
    exact eq_false_of_mem_head hhead
  rw [trimChars_eq (trimChars cs), dropWhile_eq_self_of_head hstart, trimChars_eq,
    List.rdropWhile_idempotent]

/-- **What is trimmed stays** when it is trimmed again. -/
@[simp] theorem trim_trim (s : String) : trim (trim s) = trim s := by
  rw [trim, trim, String.toList_ofList, trimChars_trimChars]

/-- Nothing is left of a text that holds nothing but blanks, and of no other. -/
theorem trim_eq_empty_iff {s : String} : trim s = "" ↔ isBlankText s = true := by
  rw [trim, ← String.toList_inj, String.toList_ofList, isBlankText, List.all_eq_true]
  show trimChars s.toList = [] ↔ _
  constructor
  · intro hnone c hc
    have hblank : ∀ c ∈ s.toList.dropWhile isBlank, isBlank c = true :=
      List.rdropWhile_eq_nil_iff.mp hnone
    rw [← List.takeWhile_append_dropWhile (p := isBlank) (l := s.toList)] at hc
    exact (List.mem_append.mp hc).elim List.mem_takeWhile_imp (hblank c)
  · intro hblank
    rw [trimChars_eq, List.dropWhile_eq_nil_iff.mpr hblank, List.rdropWhile_nil]

end LiveBoard.Text
