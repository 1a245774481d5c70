import LiveBoard.Proofs.Board.Amend

/-!
# The first task of every id

`dedupById` goes through a list once and remembers the ids that it has met. What it leaves can be
said without this memory: the tasks at those places of the list before which their id does not
occur. Every id is found as before, and it does not matter whether a patch of the first task of an
id, or a deletion of all of them, comes before or after.

## Main results

* `dedupById_eq_filter`: which tasks are left.
* `find?_dedupById`: every id is found as before.
* `firsts_stay`: all of it, with the laws of commutation.
-/

namespace LiveBoard

/-! ### Which tasks are left -/

/-- The places behind a task are counted from one, and the task stands before each of them. -/
theorem map_filter_behind (seen : List String) (t : Task) (ts : List Task) :
    ((ts.zipIdx.map (Prod.map id (· + 1))).filter fun p =>
        p.1.id ∉ seen ∧ p.1.id ∉ ids ((t :: ts).take p.2)).map Prod.fst =
      (ts.zipIdx.filter fun p =>
        p.1.id ∉ t.id :: seen ∧ p.1.id ∉ ids (ts.take p.2)).map Prod.fst := by
  rw [List.filter_map, List.map_map]
  refine congrArg _ (List.filter_congr fun p _ => decide_eq_decide.mpr ?_)
  simp only [Prod.map_fst, Prod.map_snd, id_eq, List.take_succ_cons, ids_cons, List.mem_cons,
    not_or, and_assoc, and_left_comm]

theorem dedupFrom_eq_filter (seen : List String) (ts : List Task) :
    dedupFrom seen ts =
      (ts.zipIdx.filter fun p => p.1.id ∉ seen ∧ p.1.id ∉ ids (ts.take p.2)).map Prod.fst := by
  induction ts generalizing seen with
  | nil => rfl
  | cons t ts ih =>
    rw [dedupFrom, List.zipIdx_cons', List.filter_cons]
    by_cases hseen : t.id ∈ seen
    · have hmet : dedupFrom seen ts = dedupFrom (t.id :: seen) ts :=
        dedupFrom_congr fun x _ => by
          rw [List.mem_cons]
          exact ⟨.inr, fun hx => hx.elim (fun heq => heq ▸ hseen) id⟩
      rw [if_pos (List.contains_iff_mem.mpr hseen), if_neg (by simpa using hseen),
        map_filter_behind, hmet, ih]
    · rw [if_neg (by simpa using hseen), if_pos (by simpa using hseen), List.map_cons,
        map_filter_behind, ih]

/-- **Which tasks are left:** those at the places before which their id does not occur. -/
theorem dedupById_eq_filter (ts : List Task) :
    dedupById ts = (ts.zipIdx.filter fun p => p.1.id ∉ ids (ts.take p.2)).map Prod.fst := by
  rw [dedupById, dedupFrom_eq_filter]
  simp only [List.not_mem_nil, not_false_eq_true, true_and]

theorem dedupById_sublist (ts : List Task) : (dedupById ts).Sublist ts := by
  have hplaces : (ts.zipIdx.filter fun p => p.1.id ∉ ids (ts.take p.2)).Sublist ts.zipIdx :=
    List.filter_sublist
  have h := hplaces.map Prod.fst
  rwa [List.zipIdx_map_fst, ← dedupById_eq_filter] at h

/-- Only a list with distinct ids stays as it is. -/
theorem dedupById_eq_self_iff {ts : List Task} : dedupById ts = ts ↔ (ids ts).Nodup :=
  ⟨fun h => h ▸ nodup_ids_dedupById ts, dedupById_eq_self⟩

/-! ### Looking up an id -/

theorem find?_dedupFrom {id : String} {seen : List String} (h : id ∉ seen) (ts : List Task) :
    (dedupFrom seen ts).find? (fun t => t.id == id) = ts.find? fun t => t.id == id := by
  induction ts generalizing seen with
  | nil => rfl
  | cons t ts ih =>
    rw [dedupFrom]
    by_cases hid : t.id = id
    · have ht : ¬seen.contains t.id = true := by simpa [hid] using h
      rw [if_neg ht, List.find?_cons_of_pos (by simpa using hid),
        List.find?_cons_of_pos (by simpa using hid)]
    · rw [List.find?_cons_of_neg (by simpa using hid)]
      split
      · exact ih h
      · rw [List.find?_cons_of_neg (by simpa using hid), ih]
        simpa [h] using Ne.symm hid

/-- **Every id is found as before**, and those that were not there are not found. -/
theorem find?_dedupById (ts : List Task) (id : String) :
    (dedupById ts).find? (fun t => t.id == id) = ts.find? fun t => t.id == id :=
  find?_dedupFrom List.not_mem_nil ts

/-- **The first task of every id stays**, as it is and where it is, and nothing else does: what is
left are the tasks at the places before which their id does not occur. No id is left twice, none is
lost, and each is found as before. Lists with distinct ids stay as they are, and no others do. It
makes no difference whether the tasks of an id are taken out before or after, nor whether the first
one is patched before or after. -/
theorem firsts_stay (ts : List Task) :
    dedupById ts = (ts.zipIdx.filter fun p => p.1.id ∉ ids (ts.take p.2)).map Prod.fst ∧
    (dedupById ts).Sublist ts ∧
    (ids (dedupById ts)).Nodup ∧
    (∀ id, id ∈ ids (dedupById ts) ↔ id ∈ ids ts) ∧
    (∀ id, (dedupById ts).find? (fun t => t.id == id) = ts.find? fun t => t.id == id) ∧
    (dedupById ts = ts ↔ (ids ts).Nodup) ∧
    (∀ id, dedupById (ts.filter fun t => t.id != id) =
      (dedupById ts).filter fun t => t.id != id) ∧
    ∀ id (p : Patch), dedupById (updateFirst (fun t => t.id == id) (fun t => t.apply p) ts) =
      updateFirst (fun t => t.id == id) (fun t => t.apply p) (dedupById ts) :=
  ⟨dedupById_eq_filter ts, dedupById_sublist ts, nodup_ids_dedupById ts,
    fun _ => mem_ids_dedupById, find?_dedupById ts, dedupById_eq_self_iff,
    fun id => dedupById_filter_ne id ts,
    fun _ p => dedupById_updateFirst (fun t => t.id_apply p) ts⟩

end LiveBoard
