import LiveBoard.Board.Store

/-!
# Lists of tasks with distinct ids

A list of tasks may hold an id several times. `dedupById` keeps the first task of every id. Here
are the laws by which it commutes with what can happen to a list: the first task of an id is
changed, the tasks of an id are taken out, a task with a new id is put in front.

## Main definitions

* `ids`: the ids of a list of tasks, in order.

## Main results

* `nodup_ids_dedupById`: no id is left twice.
* `dedupById_eq_self`: a list with distinct ids stays as it is.
* `dedupById_updateFirst`, `dedupById_filter_ne`, `dedupById_cons`: the laws of commutation.
-/

namespace LiveBoard

/-- The ids of a list of tasks. -/
def ids (ts : List Task) : List String := ts.map (·.id)

@[simp] theorem ids_nil : ids [] = [] := rfl

@[simp] theorem ids_cons (t : Task) (ts : List Task) : ids (t :: ts) = t.id :: ids ts := rfl

@[simp] theorem ids_append (ts us : List Task) : ids (ts ++ us) = ids ts ++ ids us :=
  List.map_append

theorem mem_ids {id : String} {ts : List Task} : id ∈ ids ts ↔ ∃ t ∈ ts, t.id = id :=
  List.mem_map

theorem mem_ids_of_mem {t : Task} {ts : List Task} (h : t ∈ ts) : t.id ∈ ids ts :=
  List.mem_map_of_mem h

theorem any_id_iff {id : String} {ts : List Task} :
    (ts.any fun t => t.id == id) = true ↔ id ∈ ids ts := by
  simp [mem_ids]

/-! ### Changing the first task of an id -/

section UpdateFirst

variable {id : String} {f : Task → Task}

theorem updateFirst_of_notMem {ts : List Task} (h : id ∉ ids ts) :
    updateFirst (fun t => t.id == id) f ts = ts := by
  induction ts with
  | nil => rfl
  | cons t ts ih =>
    simp only [ids_cons, List.mem_cons, not_or] at h
    rw [updateFirst, if_neg (by simpa using Ne.symm h.1), ih h.2]

/-- What a change does not touch stays as it is. -/
theorem map_updateFirst {α β : Type} {p : α → Bool} {f : α → α} {g : α → β}
    (hf : ∀ a, p a = true → g (f a) = g a) (as : List α) :
    (updateFirst p f as).map g = as.map g := by
  induction as with
  | nil => rfl
  | cons a as ih =>
    rw [updateFirst]
    split
    · next ha => rw [List.map_cons, hf a ha, List.map_cons]
    · rw [List.map_cons, ih, List.map_cons]

theorem ids_updateFirst (hf : ∀ t, (f t).id = t.id) (ts : List Task) :
    ids (updateFirst (fun t => t.id == id) f ts) = ids ts :=
  map_updateFirst (fun t _ => hf t) ts

theorem updateFirst_append_of_notMem {us : List Task} (h : id ∉ ids us) (ts : List Task) :
    updateFirst (fun t => t.id == id) f (us ++ ts) =
      us ++ updateFirst (fun t => t.id == id) f ts := by
  induction us with
  | nil => rfl
  | cons u us ih =>
    simp only [ids_cons, List.mem_cons, not_or] at h
    rw [List.cons_append, updateFirst, if_neg (by simpa using Ne.symm h.1), ih h.2,
      List.cons_append]

/-- On tasks with distinct ids the first task of an id is every task of it. -/
theorem updateFirst_eq_map {ts : List Task} (h : (ids ts).Nodup) :
    updateFirst (fun t => t.id == id) f ts = ts.map fun t => if t.id = id then f t else t := by
  induction ts with
  | nil => rfl
  | cons t ts ih =>
    obtain ⟨ht, hts⟩ := List.nodup_cons.mp h
    rw [updateFirst, List.map_cons]
    by_cases hid : t.id = id
    · have hrest : (ts.map fun t => if t.id = id then f t else t) = ts := by
        rw [← ih hts, updateFirst_of_notMem (hid ▸ ht)]
      rw [if_pos (by simpa using hid), if_pos hid, hrest]
    · rw [if_neg (by simpa using hid), if_neg hid, ih hts]

end UpdateFirst

/-! ### Two changes of one list -/

section Changes

variable {i j : String} {f g : Task → Task}

theorem updateFirst_updateFirst_self (hf : ∀ t, (f t).id = t.id) (ts : List Task) :
    updateFirst (fun t => t.id == i) g (updateFirst (fun t => t.id == i) f ts) =
      updateFirst (fun t => t.id == i) (fun t => g (f t)) ts := by
  induction ts with
  | nil => rfl
  | cons t ts ih =>
    by_cases hi : t.id = i
    · simp [updateFirst, hf, hi]
    · simp [updateFirst, hi, ih]

theorem updateFirst_comm (hf : ∀ t, (f t).id = t.id) (hg : ∀ t, (g t).id = t.id) (h : i ≠ j)
    (ts : List Task) :
    updateFirst (fun t => t.id == i) f (updateFirst (fun t => t.id == j) g ts) =
      updateFirst (fun t => t.id == j) g (updateFirst (fun t => t.id == i) f ts) := by
  induction ts with
  | nil => rfl
  | cons t ts ih =>
    by_cases hi : t.id = i
    · subst hi
      simp [updateFirst, hf, h]
    · by_cases hj : t.id = j
      · subst hj
        simp [updateFirst, hg, hi]
      · simp [updateFirst, hi, hj, ih]

theorem filter_updateFirst_self (hf : ∀ t, (f t).id = t.id) (ts : List Task) :
    (updateFirst (fun t => t.id == i) f ts).filter (fun t => t.id != i) =
      ts.filter fun t => t.id != i := by
  induction ts with
  | nil => rfl
  | cons t ts ih =>
    by_cases hi : t.id = i
    · simp [updateFirst, hf, hi]
    · simp [updateFirst, hi, ih]

theorem filter_updateFirst_of_ne (hf : ∀ t, (f t).id = t.id) (h : i ≠ j) (ts : List Task) :
    (updateFirst (fun t => t.id == j) f ts).filter (fun t => t.id != i) =
      updateFirst (fun t => t.id == j) f (ts.filter fun t => t.id != i) := by
  induction ts with
  | nil => rfl
  | cons t ts ih =>
    by_cases hi : t.id = i
    · simp [updateFirst, hi, h, ih]
    · by_cases hj : t.id = j
      · subst hj
        simp [updateFirst, hf, hi]
      · simp [updateFirst, hi, hj, ih]

theorem mem_ids_filter_ne {id : String} {ts : List Task} :
    id ∈ ids (ts.filter fun t => t.id != i) ↔ id ∈ ids ts ∧ id ≠ i := by
  simp only [mem_ids, List.mem_filter, bne_iff_ne]
  grind

end Changes

/-! ### Keeping the first task of every id -/

theorem dedupFrom_congr {seen seen' : List String} {ts : List Task}
    (h : ∀ id ∈ ids ts, id ∈ seen ↔ id ∈ seen') : dedupFrom seen ts = dedupFrom seen' ts := by
  induction ts generalizing seen seen' with
  | nil => rfl
  | cons t ts ih =>
    simp only [ids_cons, List.forall_mem_cons] at h
    have hrest : dedupFrom (t.id :: seen) ts = dedupFrom (t.id :: seen') ts :=
      ih fun id hid => by simp only [List.mem_cons, h.2 id hid]
    simp only [dedupFrom, List.contains_iff_mem, h.1, ih h.2, hrest]

theorem notMem_ids_dedupFrom {id : String} {seen : List String} (h : id ∈ seen)
    (ts : List Task) : id ∉ ids (dedupFrom seen ts) := by
  induction ts generalizing seen with
  | nil => simp [dedupFrom]
  | cons t ts ih =>
    rw [dedupFrom]
    split
    · exact ih h
    · next hseen =>
      rw [ids_cons, List.mem_cons, not_or]
      refine ⟨?_, ih (List.mem_cons_of_mem _ h)⟩
      rintro rfl
      exact hseen (List.contains_iff_mem.mpr h)

theorem nodup_ids_dedupFrom (seen : List String) (ts : List Task) :
    (ids (dedupFrom seen ts)).Nodup := by
  induction ts generalizing seen with
  | nil => exact List.nodup_nil
  | cons t ts ih =>
    rw [dedupFrom]
    split
    · exact ih seen
    · exact List.nodup_cons.mpr ⟨notMem_ids_dedupFrom List.mem_cons_self ts, ih _⟩

/-- No id is left twice. -/
theorem nodup_ids_dedupById (ts : List Task) : (ids (dedupById ts)).Nodup :=
  nodup_ids_dedupFrom [] ts

theorem mem_ids_dedupFrom {id : String} {seen : List String} {ts : List Task} :
    id ∈ ids (dedupFrom seen ts) ↔ id ∈ ids ts ∧ id ∉ seen := by
  induction ts generalizing seen with
  | nil => simp [dedupFrom]
  | cons t ts ih =>
    rw [dedupFrom]
    split <;> simp_all only [List.contains_iff_mem, ids_cons, List.mem_cons] <;> grind

theorem mem_ids_dedupById {id : String} {ts : List Task} :
    id ∈ ids (dedupById ts) ↔ id ∈ ids ts := by
  simp [dedupById, mem_ids_dedupFrom]

theorem dedupFrom_eq_self {seen : List String} {ts : List Task} (hseen : ∀ id ∈ ids ts, id ∉ seen)
    (h : (ids ts).Nodup) : dedupFrom seen ts = ts := by
  induction ts generalizing seen with
  | nil => rfl
  | cons t ts ih =>
    obtain ⟨ht, hts⟩ := List.nodup_cons.mp h
    simp only [ids_cons, List.forall_mem_cons] at hseen
    rw [dedupFrom, if_neg (by simpa using hseen.1), ih ?_ hts]
    intro id hid
    rw [List.mem_cons, not_or]
    exact ⟨fun heq => ht (show t.id ∈ ids ts from heq ▸ hid), hseen.2 id hid⟩

/-- A list with distinct ids stays as it is. -/
theorem dedupById_eq_self {ts : List Task} (h : (ids ts).Nodup) : dedupById ts = ts :=
  dedupFrom_eq_self (by simp) h

/-- Changing the first task of an id commutes with keeping the first of every id. -/
theorem dedupById_updateFirst {id : String} {f : Task → Task} (hf : ∀ t, (f t).id = t.id)
    (ts : List Task) :
    dedupById (updateFirst (fun t => t.id == id) f ts) =
      updateFirst (fun t => t.id == id) f (dedupById ts) := by
  -- The id must not be among those already met, since its first task would be passed over.
  have hgo : ∀ (ts : List Task) (seen : List String), id ∉ seen →
      dedupFrom seen (updateFirst (fun t => t.id == id) f ts) =
        updateFirst (fun t => t.id == id) f (dedupFrom seen ts) := by
    intro ts
    induction ts with
    | nil => exact fun _ _ => rfl
    | cons t ts ih =>
      intro seen hseen
      by_cases hid : t.id = id
      · have hpos : (t.id == id) = true := by simpa using hid
        have ht : ¬seen.contains t.id = true := by simpa [hid] using hseen
        rw [updateFirst, if_pos hpos, dedupFrom, hf, if_neg ht, dedupFrom, if_neg ht, updateFirst,
          if_pos hpos]
      · have hneg : ¬(t.id == id) = true := by simpa using hid
        rw [updateFirst, if_neg hneg, dedupFrom, dedupFrom]
        split
        · exact ih seen hseen
        · rw [updateFirst, if_neg hneg, ih]
          simpa [hseen] using Ne.symm hid
  exact hgo ts [] (by simp)

theorem dedupFrom_filter_ne (seen : List String) (id : String) (ts : List Task) :
    dedupFrom seen (ts.filter fun t => t.id != id) =
      (dedupFrom seen ts).filter fun t => t.id != id := by
  induction ts generalizing seen with
  | nil => rfl
  | cons t ts ih =>
    by_cases hid : t.id = id
    · have hrest : dedupFrom seen (ts.filter fun t => t.id != id) =
          dedupFrom (t.id :: seen) (ts.filter fun t => t.id != id) := by
        refine dedupFrom_congr fun x hx => ?_
        obtain ⟨u, hu, rfl⟩ := mem_ids.mp hx
        have hne : u.id ≠ t.id := by simpa [hid] using (List.mem_filter.mp hu).2
        simp [hne]
      rw [List.filter_cons_of_neg (by simp [hid]), dedupFrom]
      split
      · exact ih seen
      · rw [List.filter_cons_of_neg (by simp [hid]), hrest, ih]
    · rw [List.filter_cons_of_pos (by simpa using hid), dedupFrom, dedupFrom]
      split
      · exact ih seen
      · rw [List.filter_cons_of_pos (by simpa using hid), ih]

/-- Taking out an id commutes with keeping the first of every id. -/
theorem dedupById_filter_ne (id : String) (ts : List Task) :
    dedupById (ts.filter fun t => t.id != id) = (dedupById ts).filter fun t => t.id != id :=
  dedupFrom_filter_ne [] id ts

/-- A task with a new id in front stays there. -/
theorem dedupById_cons {t : Task} {ts : List Task} (h : t.id ∉ ids ts) :
    dedupById (t :: ts) = t :: dedupById ts := by
  rw [dedupById, dedupFrom, if_neg (by simp)]
  refine congrArg (t :: ·) (dedupFrom_congr fun id hid => ?_)
  have hne : id ≠ t.id := fun heq => h (heq ▸ hid)
  simp [hne]

end LiveBoard
