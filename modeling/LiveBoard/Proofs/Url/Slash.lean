import LiveBoard.Proofs.Url.Parser
import LiveBoard.Proofs.Url.Percent

/-!
# Slashes at the end of an address

An address is read up to its last character, so a text that is shortened at its end may lead
somewhere else. Whatever is behind the path can be left out, and so can slashes behind a character
that is read and is no slash: user, host and port are the same, since slashes do not belong to the
authority. A path stays the same if a single slash is left out, for the empty segment behind it is
taken away before names are pushed; any further slash stands for a segment of its own.

## Main definitions

* `Url.popped`: a path without the empty segment at its end.
* `Url.IsSpare`: what can be left out without harm to the authority.
* `Url.IsBrief`: what can be left out without harm to the path.

## Main results

* `Url.popped_parsePath_concat`: a single slash behind a path.
* `Url.IsSpare.visible`: what is read of a text that was shortened.
* `Url.IsSpare.parseWeb_append`: what was left out is part of the tail.
* `Url.IsSpare.popped_parseTail_append`: the path of a text that was shortened.
-/

namespace LiveBoard.Url

/-! ### Paths -/

/-- A path without the empty segment at its end, unless it is the only one. -/
def popped (path : List (List Char)) : List (List Char) :=
  if 1 < path.length && path.getLast? = some [] then path.dropLast else path

theorem Address.popIfEmpty_eq (a : Address) :
    a.popIfEmpty = { a with path := popped a.path } := by
  rw [popIfEmpty, popped]
  split <;> rfl

theorem popped_concat_nil {path : List (List Char)} (h : path ≠ []) :
    popped (path ++ [[]]) = path := by
  have hlength := List.length_pos_iff.mpr h
  rw [popped, if_pos (by simp [hlength]), List.dropLast_concat]

theorem popped_concat {segment : List Char} (h : segment ≠ []) (path : List (List Char)) :
    popped (path ++ [segment]) = path ++ [segment] :=
  if_neg (by simp [h])

theorem parsePath_cons {c : Char} (hc : isSlash c = false) (done : List (List Char))
    (current cs : List Char) :
    parsePath done current (c :: cs) = parsePath done (c :: current) cs :=
  if_neg (Bool.eq_false_iff.mp hc)

theorem popped_parsePath_slash (done : List (List Char)) {current : List Char} (h : current ≠ []) :
    popped (parsePath done current ['/']) = popped (parsePath done current []) := by
  have hsegment : percentEncode inPath current.reverse ≠ [] :=
    percentEncode_ne_nil inPath (by simpa using h)
  have hslash : (('/' : Char) == '/' || ('/' : Char) == '\\') = true := by decide
  simp only [parsePath, parsePath.finish, hslash, if_true, List.reverse_nil]
  split
  · rfl
  · split
    · rfl
    · show popped (done ++ [percentEncode inPath current.reverse] ++ [[]]) = _
      rw [popped_concat_nil (by simp), popped_concat hsegment]

/-- **A slash at the end** leads to the same place if it is the only one there. -/
theorem popped_parsePath_concat {c : Char} (hc : isSlash c = false) (cs : List Char)
    (done : List (List Char)) (current : List Char) :
    popped (parsePath done current (cs ++ [c] ++ ['/'])) =
      popped (parsePath done current (cs ++ [c])) := by
  induction cs generalizing done current with
  | nil =>
    rw [List.nil_append, List.singleton_append, parsePath_cons hc, parsePath_cons hc]
    exact popped_parsePath_slash done (List.cons_ne_nil _ _)
  | cons d cs ih =>
    simp only [List.cons_append, parsePath] at ih ⊢
    split
    · split
      · exact ih _ _
      · split
        · exact ih _ _
        · exact ih _ _
    · exact ih _ _

/-! ### Tails -/

/-- The text of the path at the front of a tail. -/
def pathText (tail : List Char) : List Char :=
  match tail.takeWhile fun c => !endsPath c with
  | c :: inner => if isSlash c then inner else c :: inner
  | [] => []

theorem parseTail_path (tail : List Char) :
    (parseTail tail).1 = parsePath [] [] (pathText tail) := by
  rw [parseTail]
  have hpath : (tail.takeWhile fun c => c != '?' && c != '#') =
      tail.takeWhile fun c => !endsPath c := by
    congr 1
    funext c
    simp [endsPath, bne]
  rw [hpath, pathText]
  dsimp only
  cases tail.takeWhile fun c => !endsPath c <;> rfl

/-- What follows the end of a path does not matter to it. -/
theorem pathText_append {tail : List Char} (h : ∃ c ∈ tail, endsPath c = true) (cs : List Char) :
    pathText (tail ++ cs) = pathText tail := by
  obtain ⟨c, hc, hends⟩ := h
  have htake : (tail ++ cs).takeWhile (fun c => !endsPath c) =
      tail.takeWhile fun c => !endsPath c := by
    rw [List.takeWhile_append, if_neg]
    intro hlength
    have hall := List.takeWhile_eq_self_iff.mp
      ((List.takeWhile_prefix (p := fun c => !endsPath c)).eq_of_length hlength) c hc
    rw [hends] at hall
    cases hall
  rw [pathText, pathText, htake]

theorem pathText_of_slash {c : Char} {cs : List Char} (hc : isSlash c = true)
    (h : ∀ d ∈ c :: cs, endsPath d = false) : pathText (c :: cs) = cs := by
  have htake : (c :: cs).takeWhile (fun d => !endsPath d) = c :: cs :=
    List.takeWhile_eq_self_iff.mpr fun d hd => by rw [h d hd]; rfl
  rw [pathText, htake]
  exact if_pos hc

theorem popped_parseTail_concat {tail : List Char} (htail : IsTail tail)
    (hlast : ∀ c ∈ tail.getLast?, isSlash c = false) :
    popped (parseTail (tail ++ ['/'])).1 = popped (parseTail tail).1 := by
  by_cases hends : ∃ c ∈ tail, endsPath c = true
  · rw [parseTail_path, parseTail_path, pathText_append hends]
  · have hpath : ∀ c ∈ tail, endsPath c = false := by simpa using hends
    cases tail with
    | nil => rfl
    | cons c cs =>
      have hc : isSlash c = true := by
        have hhead := htail c rfl
        rwa [endsAuthority_eq, hpath c List.mem_cons_self, Bool.or_false] at hhead
      obtain rfl | ⟨init, l, rfl⟩ := List.eq_nil_or_concat cs
      · rw [hlast c rfl] at hc
        cases hc
      · have hlong : ∀ d ∈ c :: (init.concat l ++ ['/']), endsPath d = false := by
          rw [← List.cons_append, List.forall_mem_append]
          exact ⟨hpath, List.forall_mem_singleton.mpr rfl⟩
        rw [parseTail_path, parseTail_path, List.cons_append, pathText_of_slash hc hlong,
          pathText_of_slash hc hpath]
        rw [List.concat_eq_append] at hlast ⊢
        have hl : l ∈ (c :: (init ++ [l])).getLast? := by
          rw [← List.cons_append, List.getLast?_concat]
          rfl
        exact popped_parsePath_concat (hlast l hl) init [] []

/-! ### Slashes at the end -/

/-- A character that is read and is no slash. -/
def isOrdinary (c : Char) : Bool := !isSlash c && 0x20 < c.toNat

/-- A text has nothing behind it but what can be left out of an address without harm to its
authority: nothing, what is behind its path, or slashes behind a character that is read. -/
def IsSpare (cs ds : List Char) : Prop :=
  ds = [] ∨ (∃ c ∈ cs, endsPath c = true) ∨
    (∀ d ∈ ds, d = '/') ∧ ∃ c ∈ cs.getLast?, isOrdinary c = true

/-- What can be left out of an address without harm to its path: all that is behind it, and a
single character. -/
def IsBrief (cs ds : List Char) : Prop := (∃ c ∈ cs, endsPath c = true) ∨ ds.length ≤ 1

section Spare

variable {cs ds : List Char}

theorem isOrdinary_iff {c : Char} :
    isOrdinary c = true ↔ isSlash c = false ∧ 0x20 < c.toNat := by
  simp [isOrdinary]

theorem isOrdinary_of_endsPath {c : Char} (h : endsPath c = true) : isOrdinary c = true := by
  have hcases : c = '?' ∨ c = '#' := by simpa [endsPath] using h
  rcases hcases with rfl | rfl <;> decide

theorem IsSpare.append_left (h : IsSpare cs ds) (front : List Char) : IsSpare (front ++ cs) ds := by
  rcases h with rfl | ⟨c, hc, hpath⟩ | ⟨hds, c, hc, hordinary⟩
  · exact .inl rfl
  · exact .inr (.inl ⟨c, List.mem_append_right front hc, hpath⟩)
  · refine .inr (.inr ⟨hds, c, ?_, hordinary⟩)
    rw [List.getLast?_append, Option.mem_def.mp hc]
    rfl

theorem IsBrief.append_left (h : IsBrief cs ds) (front : List Char) : IsBrief (front ++ cs) ds :=
  h.imp_left fun ⟨c, hc, hpath⟩ => ⟨c, List.mem_append_right front hc, hpath⟩

/-- **What is read of a text** is read of a longer one as well, and the rest can be left out of it
if it can be left out of the text. -/
theorem IsSpare.visible (h : IsSpare cs ds) :
    ∃ rest, visible (cs ++ ds) = visible cs ++ rest ∧ IsSpare (visible cs) rest ∧
      (IsBrief cs ds → IsBrief (visible cs) rest) := by
  rcases h with rfl | ⟨c, hc, hpath⟩ | ⟨hds, c, hc, hordinary⟩
  · exact ⟨[], by rw [List.append_nil, List.append_nil], .inl rfl, fun _ => .inr (Nat.zero_le _)⟩
  · obtain ⟨rest, hrest⟩ := visible_prefix cs ds
    have hmem : c ∈ Url.visible cs :=
      mem_visible (isOrdinary_iff.mp (isOrdinary_of_endsPath hpath)).2 hc
    exact ⟨rest, hrest.symm, .inr (.inl ⟨c, hmem, hpath⟩), fun _ => .inl ⟨c, hmem, hpath⟩⟩
  · have hread := (isOrdinary_iff.mp hordinary).2
    have hslash : ∀ d ∈ ds, 0x20 < d.toNat := by
      intro d hd
      rw [hds d hd]
      decide
    have hlast : ∃ e ∈ (cs ++ ds).getLast?, 0x20 < e.toNat := by
      rw [List.getLast?_append, Option.mem_def.mp hc]
      cases hend : ds.getLast? with
      | none => exact ⟨c, rfl, hread⟩
      | some d => exact ⟨d, rfl, hslash d (List.mem_of_mem_getLast? hend)⟩
    obtain ⟨e, he, heread⟩ := hlast
    refine ⟨ds, ?_, .inr (.inr ⟨hds, c, getLast?_visible hread hc, hordinary⟩), fun hbrief => ?_⟩
    · rw [visible_of_getLast? heread he, visible_of_getLast? hread hc, List.filter_append,
        filter_isPassedOver hslash]
    · refine hbrief.imp_left fun ⟨d, hd, hpath⟩ => ⟨d, ?_, hpath⟩
      exact mem_visible (isOrdinary_iff.mp (isOrdinary_of_endsPath hpath)).2 hd

/-- **What can be left out** is part of the tail. -/
theorem IsSpare.parseWeb_append (h : IsSpare cs ds) (scheme : String) :
    parseWeb scheme (cs ++ ds) = (parseWeb scheme (Parts.of cs).authority).map
      (·.withTail (parseTail ((Parts.of cs).tail ++ ds))) := by
  have hparts : ds = [] ∨
      (∃ c ∈ cs, isSlash c = false) ∧ ((Parts.of cs).tail = [] → IsTail ds) := by
    rcases h with rfl | ⟨c, hc, hpath⟩ | ⟨hds, c, hc, hordinary⟩
    · exact .inl rfl
    · refine .inr ⟨⟨c, hc, (isSlash_of_endsPath hpath).1⟩, fun hnil => ?_⟩
      cases hnil ▸ (Parts.of cs).mem_tail hc hpath
    · refine .inr ⟨⟨c, List.mem_of_mem_getLast? hc, (isOrdinary_iff.mp hordinary).1⟩, ?_⟩
      intro _ d hd
      rw [hds d (List.mem_of_mem_head? hd)]
      rfl
  rcases hparts with rfl | ⟨hread, htail⟩
  · rw [List.append_nil, List.append_nil]
    exact (Parts.of cs).parseWeb scheme
  · exact ((Parts.of cs).append ds ((Parts.of cs).ne_nil hread) htail).parseWeb scheme

/-- **A single slash behind an address** leads to the same path, and so does all that is behind the
path. -/
theorem IsSpare.popped_parseTail_append (h : IsSpare cs ds) (hbrief : IsBrief cs ds) :
    popped (parseTail ((Parts.of cs).tail ++ ds)).1 = popped (parseTail (Parts.of cs).tail).1 := by
  have hmark : (∃ c ∈ cs, endsPath c = true) →
      popped (parseTail ((Parts.of cs).tail ++ ds)).1 =
        popped (parseTail (Parts.of cs).tail).1 := by
    rintro ⟨c, hc, hpath⟩
    rw [parseTail_path, parseTail_path,
      pathText_append ⟨c, (Parts.of cs).mem_tail hc hpath, hpath⟩]
  rcases h with rfl | hpath | ⟨hds, c, hc, hordinary⟩
  · rw [List.append_nil]
  · exact hmark hpath
  · refine hbrief.elim hmark fun hlength => ?_
    match ds with
    | [] => rw [List.append_nil]
    | [d] =>
      rw [hds d List.mem_cons_self]
      refine popped_parseTail_concat (Parts.of cs).isTail fun e he => ?_
      obtain rfl : e = c := Option.mem_unique ((Parts.of cs).getLast?_tail he) hc
      exact (isOrdinary_iff.mp hordinary).1

end Spare

end LiveBoard.Url
