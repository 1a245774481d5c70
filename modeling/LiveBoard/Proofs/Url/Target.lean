import LiveBoard.Http.Basic
import LiveBoard.Proofs.Json.Tree
import LiveBoard.Proofs.Url.Segment
import LiveBoard.Proofs.Url.Slash

/-!
# What is asked for at an address

A request is for the path of an address with its query behind it. Whoever answers it cuts the two
apart at the first question mark. A path that was read from a text or prolonged by names holds no
question mark, since it would stand there after a percent sign, so the cut is where it should be.

## Main definitions

* `Url.IsPlainPath`: a path without the signs behind which a query or a fragment stands.
* `Url.queryPart`: the query of a text.

## Main results

* `Url.isPlainPath_of_parse`, `Url.IsPlainPath.pushSegments`: the paths of all addresses that are
  read and built on are plain.
* `Url.Address.query_target`: the query of a request is that of its address.
-/

namespace LiveBoard

open Http

namespace Url

/-! ### Paths -/

/-- No segment of the path holds a sign behind which a query or a fragment stands. -/
def IsPlainPath (path : List (List Char)) : Prop :=
  ∀ segment ∈ path, ∀ c ∈ segment, endsPath c = false

variable {path done : List (List Char)}

theorem endsPath_eq_false_iff {c : Char} : endsPath c = false ↔ c ≠ '?' ∧ c ≠ '#' := by
  simp [endsPath]

theorem endsPath_percentEncode {encoded : Char → Bool} (hquery : encoded '?' = true)
    (hfragment : encoded '#' = true) (cs : List Char) :
    ∀ c ∈ percentEncode encoded cs, endsPath c = false := by
  intro c hc
  rw [endsPath_eq_false_iff]
  constructor
  · rintro rfl
    exact notMem_percentEncode hquery (by decide) (by decide) cs hc
  · rintro rfl
    exact notMem_percentEncode hfragment (by decide) (by decide) cs hc

theorem isPlainPath_nil : IsPlainPath [] := fun _ hsegment => nomatch hsegment

theorem IsPlainPath.concat (h : IsPlainPath path) {segment : List Char}
    (hsegment : ∀ c ∈ segment, endsPath c = false) : IsPlainPath (path ++ [segment]) := by
  rw [IsPlainPath, List.forall_mem_append, List.forall_mem_singleton]
  exact ⟨h, hsegment⟩

theorem IsPlainPath.concat_nil (h : IsPlainPath path) : IsPlainPath (path ++ [[]]) :=
  h.concat nofun

theorem IsPlainPath.dropLast (h : IsPlainPath path) : IsPlainPath path.dropLast :=
  fun segment hsegment => h segment (List.dropLast_subset _ hsegment)

theorem IsPlainPath.parsePath (h : IsPlainPath done) (current cs : List Char) :
    IsPlainPath (parsePath done current cs) := by
  have hwritten : ∀ cs, ∀ c ∈ percentEncode inPath cs, endsPath c = false :=
    endsPath_percentEncode (by decide) (by decide)
  induction cs generalizing done current with
  | nil =>
    simp only [Url.parsePath, parsePath.finish]
    split
    · exact h.dropLast.concat_nil
    · split
      · exact h.concat_nil
      · exact h.concat (hwritten _)
  | cons c cs ih =>
    rw [Url.parsePath]
    split
    · dsimp only
      split
      · exact ih h.dropLast []
      · split
        · exact ih h []
        · exact ih (h.concat (hwritten _)) []
    · exact ih h (c :: current)

/-- The parts of an address that is read are read from parts of the text. -/
theorem parseWeb_eq_ok {scheme : String} {cs : List Char} {a : Address}
    (h : parseWeb scheme cs = .ok a) :
    a.scheme = scheme ∧
      (∃ rest, splitUserinfo true (cs.dropWhile isSlash) = .ok (a.userinfo, rest)) ∧
      (∃ host, Host.parse host = .ok a.host) ∧ ∃ tail, a.path = (parseTail tail).1 := by
  rw [parseWeb_eq] at h
  obtain ⟨⟨user, rest⟩, huser, h⟩ := Json.bind_eq_ok h
  dsimp only [parseHost] at h
  split at h
  · cases h
  · obtain ⟨host, hhost, h⟩ := Json.bind_eq_ok h
    obtain ⟨⟨port, tail⟩, -, h⟩ := Json.bind_eq_ok h
    cases h
    exact ⟨rfl, ⟨rest, huser⟩, ⟨_, hhost⟩, tail, rfl⟩

theorem parseWeb_of_parse {text : String} {a : Address} (h : parse text = .ok (.web a)) :
    ∃ scheme cs, schemeKind scheme = .web ∧ parseWeb scheme cs = .ok a := by
  rw [parse] at h
  split at h
  · cases h
  · next scheme cs _ =>
    split at h
    · next hkind =>
      obtain ⟨a', ha', heq⟩ := Json.map_eq_ok h
      cases heq
      exact ⟨scheme, cs, hkind, ha'⟩
    · obtain ⟨-, -, heq⟩ := Json.map_eq_ok h
      cases heq
    · split at h
      · obtain ⟨-, -, heq⟩ := Json.map_eq_ok h
        cases heq
      · cases h

/-- **The path of an address that is read** is plain. -/
theorem isPlainPath_of_parse {text : String} {a : Address} (h : parse text = .ok (.web a)) :
    IsPlainPath a.path := by
  obtain ⟨scheme, cs, -, hweb⟩ := parseWeb_of_parse h
  obtain ⟨-, -, -, tail, htail⟩ := parseWeb_eq_ok hweb
  rw [htail, parseTail_path]
  exact isPlainPath_nil.parsePath [] _

theorem IsPlainPath.popIfEmpty {a : Address} (h : IsPlainPath a.path) :
    IsPlainPath a.popIfEmpty.path := by
  rw [Address.popIfEmpty]
  split
  · exact h.dropLast
  · exact h

theorem IsPlainPath.placed (h : IsPlainPath path) (name : String) :
    IsPlainPath (placed path name) := by
  have hfront : IsPlainPath (if path = [[]] then [] else path) := by
    split
    · exact isPlainPath_nil
    · exact h
  rw [Url.placed]
  split
  · exact h
  · rw [Address.pushPath]
    split
    · exact hfront.dropLast.concat_nil
    · split
      · exact hfront.concat_nil
      · exact hfront.concat (endsPath_percentEncode (by decide) (by decide) _)

/-- **A path stays plain** whatever names are pushed on it. -/
theorem IsPlainPath.pushSegments {a : Address} (h : IsPlainPath a.path) (names : List String) :
    IsPlainPath (a.pushSegments names).path := by
  rw [Address.pushSegments_eq]
  dsimp only
  generalize a.path = path at h
  induction names generalizing path with
  | nil => exact h
  | cons name names ih => exact ih _ (h.placed name)

/-! ### Targets -/

/-- The query of the text of an address or of a target: what stands behind its first question mark,
up to the first number sign. -/
def queryPart (cs : List Char) : Option (List Char) :=
  match (cs.takeWhile (· != '#')).dropWhile (· != '?') with
  | [] => none
  | _ :: query => some query

/-- A query is cut out between a front without the signs that cut, and a number sign. -/
theorem queryPart_append {front query rest : List Char} (hfront : ∀ c ∈ front, endsPath c = false)
    (hquery : '#' ∉ query) (hrest : ∀ c ∈ rest.head?, c = '#') :
    queryPart (front ++ '?' :: (query ++ rest)) = some query := by
  have hsigns (c : Char) (hc : c ∈ front) : c ≠ '?' ∧ c ≠ '#' :=
    endsPath_eq_false_iff.mp (hfront c hc)
  have hkeep : (front ++ '?' :: (query ++ rest)).takeWhile (· != '#') = front ++ '?' :: query := by
    have hstop : rest.takeWhile (· != '#') = [] := by
      cases rest with
      | nil => rfl
      | cons c cs => simp [hrest c rfl]
    rw [List.takeWhile_append_of_pos fun c hc => bne_iff_ne.mpr (hsigns c hc).2,
      List.takeWhile_cons_of_pos (by decide),
      List.takeWhile_append_of_pos fun c hc => bne_iff_ne.mpr (ne_of_mem_of_not_mem hc hquery),
      hstop, List.append_nil]
  rw [queryPart, hkeep, List.dropWhile_append_of_pos fun c hc => bne_iff_ne.mpr (hsigns c hc).1]
  rfl

theorem query_eq (r : Request) : r.query = (queryPart r.target.toList).getD [] := by
  rw [Request.query, queryPart]
  split
  · next hnone => rw [hnone]; rfl
  · next hsome => rw [hsome]; rfl

theorem IsPlainPath.pathChars {a : Address} (h : IsPlainPath a.path) :
    ∀ c ∈ a.pathChars, endsPath c = false := by
  intro c hc
  obtain ⟨segment, hsegment, hc⟩ := List.mem_flatMap.mp hc
  rcases List.mem_cons.mp hc with rfl | hc
  · decide
  · exact h segment hsegment c hc

/-- **The query of a request** is that of its address. -/
theorem Address.query_target {a : Address} (h : IsPlainPath a.path) {query : List Char}
    (hquery : a.query = some query) (hfragment : '#' ∉ query) (method body : String)
    (headers : List (String × String)) :
    Request.query ⟨method, String.ofList a.target, headers, body⟩ = query := by
  have htarget : a.target = a.pathChars ++ '?' :: (query ++ []) := by
    rw [target, hquery, List.append_nil]
  rw [query_eq, String.toList_ofList, htarget, queryPart_append h.pathChars hfragment (by simp)]
  rfl

end Url

end LiveBoard
