import LiveBoard.Proofs.Url.Percent
import LiveBoard.Relay.Route
import LiveBoard.Url.Basic

/-!
# Names in paths

A name is pushed on a path as one segment, and a relay reads it back from there: encoded as it is,
the segment has no slash in it, and it is not one of the names of places. Two kinds of names do not
get there as they are. The two names of places are left out, and every other name loses the
characters that are passed over in addresses. What is left of such a name may be a name of a place
again, and then the path takes that step.

## Main definitions

* `Url.carried`: what of a name gets into a path.
* `Url.placed`: a path with one more name.
* `Url.IsLiteral`: a name that stands for itself in a path.

## Main results

* `Route.decodeSegment?_percentEncode`: a relay reads the name that a segment was made of.
* `Url.isSingleDot_percentEncode`, `Url.isDoubleDot_percentEncode`: names whose segments are steps.
* `Url.placed_cases`, `Url.placed_of_carried`: what becomes of a path.
* `Url.Address.path_pushSegments`, `Url.Address.splitOn_pathChars`: a path on which names were
  pushed, and the segments of its text.
-/

namespace LiveBoard

namespace Url

theorem inSegment_percent : inSegment '%' = true := by decide

end Url

/-- **A relay reads the name** that a segment was made of. -/
theorem Route.decodeSegment?_percentEncode (cs : List Char) :
    decodeSegment? (String.ofList (Url.percentEncode Url.inSegment cs)) =
      some (String.ofList cs) := by
  rw [decodeSegment?, String.toList_ofList, Url.percentDecode_percentEncode Url.inSegment_percent,
    Utf8.decode?_encode, Option.map_some]

namespace Url

/-! ### Steps -/

theorem toLower_eq {c d : Char} (h : c.toLower = d) :
    c = d ∨ 0x41 ≤ c.toNat ∧ c.toNat ≤ 0x5A ∧ c.toNat + 0x20 = d.toNat := by
  unfold Char.toLower at h
  split at h
  · next hupper =>
    subst h
    have hlow : 0x41 ≤ c.toNat := UInt32.le_iff_toNat_le.mp hupper.1
    have hhigh : c.toNat ≤ 0x5A := UInt32.le_iff_toNat_le.mp hupper.2
    refine .inr ⟨hlow, hhigh, ?_⟩
    show c.toNat + 0x20 = (c.val + 0x20).toNat
    rw [UInt32.toNat_add]
    show c.toNat + 0x20 = (c.toNat + 0x20) % 2 ^ 32
    omega
  · exact .inl h

/-- Where there is no letter in lower case, there was none before. -/
theorem eq_of_toLower_eq {c d : Char} (h : c.toLower = d) (hd : d.toNat < 0x61) : c = d := by
  rcases toLower_eq h with h | ⟨hlow, -, heq⟩
  · exact h
  · omega

theorem eq_of_toLower_eq_e {c : Char} (h : c.toLower = 'e') : c = 'e' ∨ c = 'E' := by
  refine (toLower_eq h).imp_right fun ⟨_, _, heq⟩ => ?_
  have hnat : c.toNat = 'E'.toNat := Nat.add_right_cancel heq
  rw [← Char.ofNat_toNat c, hnat, Char.ofNat_toNat]

/-- A dot, as it is or encoded. -/
def IsDot (piece : List Char) : Prop :=
  piece.map Char.toLower = ['.'] ∨ piece.map Char.toLower = ['%', '2', 'e']

theorem percentDecode_dot {piece : List Char} (h : IsDot piece) (rest : List UInt8) :
    percentDecode (Utf8.encode piece ++ rest) = 0x2E :: percentDecode rest := by
  rcases h with h | h <;> obtain ⟨a, as, rfl, ha, has⟩ := List.map_eq_cons_iff.mp h <;>
    obtain rfl := eq_of_toLower_eq ha (by decide)
  · obtain rfl := List.map_eq_nil_iff.mp has
    exact percentDecode_of_ne (by decide) rest
  · obtain ⟨b, bs, rfl, hb, hbs⟩ := List.map_eq_cons_iff.mp has
    obtain ⟨c, cs, rfl, hc, hcs⟩ := List.map_eq_cons_iff.mp hbs
    obtain rfl := List.map_eq_nil_iff.mp hcs
    obtain rfl := eq_of_toLower_eq hb (by decide)
    rcases eq_of_toLower_eq_e hc with rfl | rfl <;> rfl

theorem isSingleDot_iff {segment : List Char} : isSingleDot segment = true ↔ IsDot segment := by
  simp [isSingleDot, IsDot]

theorem exists_of_isDoubleDot {segment : List Char} (h : isDoubleDot segment = true) :
    ∃ first second, segment = first ++ second ∧ IsDot first ∧ IsDot second := by
  have hdots : ∃ xs ys, segment.map Char.toLower = xs ++ ys ∧
      (xs = ['.'] ∨ xs = ['%', '2', 'e']) ∧ (ys = ['.'] ∨ ys = ['%', '2', 'e']) := by
    have htexts : ((segment.map Char.toLower = ['.', '.'] ∨
        segment.map Char.toLower = ['%', '2', 'e', '.']) ∨
        segment.map Char.toLower = ['.', '%', '2', 'e']) ∨
        segment.map Char.toLower = ['%', '2', 'e', '%', '2', 'e'] := by
      simpa [isDoubleDot] using h
    rcases htexts with ((h | h) | h) | h
    · exact ⟨['.'], ['.'], h, .inl rfl, .inl rfl⟩
    · exact ⟨['%', '2', 'e'], ['.'], h, .inr rfl, .inl rfl⟩
    · exact ⟨['.'], ['%', '2', 'e'], h, .inl rfl, .inr rfl⟩
    · exact ⟨['%', '2', 'e'], ['%', '2', 'e'], h, .inr rfl, .inr rfl⟩
  obtain ⟨xs, ys, hmap, hxs, hys⟩ := hdots
  obtain ⟨first, second, rfl, rfl, rfl⟩ := List.map_eq_append_iff.mp hmap
  exact ⟨first, second, rfl, hxs, hys⟩

/-- The segment of a name is a step on the spot if the name is a dot. -/
theorem isSingleDot_percentEncode {cs : List Char} :
    isSingleDot (percentEncode inSegment cs) = true ↔ cs = ['.'] := by
  constructor
  · intro h
    have hread := percentDecode_percentEncode inSegment_percent cs
    have hdot := percentDecode_dot (isSingleDot_iff.mp h) []
    rw [List.append_nil, hread] at hdot
    exact Utf8.encode_injective (hdot : _ = Utf8.encode ['.'])
  · rintro rfl
    decide

/-- The segment of a name is a step upwards if the name is two dots. -/
theorem isDoubleDot_percentEncode {cs : List Char} :
    isDoubleDot (percentEncode inSegment cs) = true ↔ cs = ['.', '.'] := by
  constructor
  · intro h
    have hread := percentDecode_percentEncode inSegment_percent cs
    obtain ⟨first, second, hsegment, hfirst, hsecond⟩ := exists_of_isDoubleDot h
    have hdots := percentDecode_dot hfirst (Utf8.encode second)
    have hdot := percentDecode_dot hsecond []
    rw [List.append_nil] at hdot
    rw [← Utf8.encode_append, ← hsegment, hread, hdot] at hdots
    exact Utf8.encode_injective (hdots : _ = Utf8.encode ['.', '.'])
  · rintro rfl
    decide

/-! ### Paths with one more name -/

/-- What of a name gets into a path: nothing of the two names of places, and of other names what is
not passed over. -/
def carried (name : String) : Option (List Char) :=
  if name = "." || name = ".." then none
  else some (name.toList.filter fun c => !isPassedOver c)

/-- All of a name gets into a path. -/
theorem carried_eq_some_iff {name : String} :
    carried name = some name.toList ↔
      name ≠ "." ∧ name ≠ ".." ∧ ∀ c ∈ name.toList, isPassedOver c = false := by
  by_cases hplace : name = "." ∨ name = ".."
  · rcases hplace with rfl | rfl <;> simp [carried]
  · obtain ⟨hdot, hdots⟩ := not_or.mp hplace
    simp [carried, hdot, hdots]

/-- A path with one more name. -/
def placed (path : List (List Char)) (name : String) : List (List Char) :=
  match carried name with
  | none => path
  | some cs => Address.pushPath path (percentEncode inSegment cs)

theorem Address.pushSegment_eq (a : Address) (name : String) :
    a.pushSegment name = { a with path := placed a.path name } := by
  rw [pushSegment, placed, carried]
  split <;> rfl

theorem Address.pushSegments_eq (a : Address) (names : List String) :
    a.pushSegments names = { a with path := names.foldl placed a.path } := by
  rw [pushSegments]
  induction names generalizing a with
  | nil => rfl
  | cons name names ih => rw [List.foldl_cons, ih, pushSegment_eq, List.foldl_cons]

/-- **What becomes of a path** that is not the root's: it stays as it is, takes a step on the spot
or upwards, or has one more segment. -/
theorem placed_cases {path : List (List Char)} (hroot : path ≠ [[]]) (name : String) :
    (carried name = none ∧ placed path name = path) ∨
      (carried name = some ['.'] ∧ placed path name = path ++ [[]]) ∨
      (carried name = some ['.', '.'] ∧ placed path name = path.dropLast ++ [[]]) ∨
      ∃ cs, carried name = some cs ∧ placed path name = path ++ [percentEncode inSegment cs] := by
  rw [placed]
  cases hname : carried name with
  | none => exact .inl ⟨rfl, rfl⟩
  | some cs =>
    simp only [Address.pushPath, if_neg hroot]
    by_cases hdots : cs = ['.', '.']
    · exact .inr (.inr (.inl ⟨by rw [hdots], if_pos (isDoubleDot_percentEncode.mpr hdots)⟩))
    · rw [if_neg (mt isDoubleDot_percentEncode.mp hdots)]
      by_cases hdot : cs = ['.']
      · exact .inr (.inl ⟨by rw [hdot], if_pos (isSingleDot_percentEncode.mpr hdot)⟩)
      · exact .inr (.inr (.inr ⟨cs, rfl, if_neg (mt isSingleDot_percentEncode.mp hdot)⟩))

/-- A name that is carried as it is becomes one more segment. -/
theorem placed_of_carried {path : List (List Char)} (hroot : path ≠ [[]]) {name : String}
    (h : carried name = some name.toList) :
    placed path name = path ++ [percentEncode inSegment name.toList] := by
  obtain ⟨hdot, hdots, -⟩ := carried_eq_some_iff.mp h
  rcases placed_cases hroot name with ⟨hc, -⟩ | ⟨hc, -⟩ | ⟨hc, -⟩ | ⟨cs, hc, hplaced⟩
  · rw [hc] at h
    cases h
  · have heq : name.toList = ".".toList := Option.some.inj (h.symm.trans hc)
    exact absurd (String.toList_injective heq) hdot
  · have heq : name.toList = "..".toList := Option.some.inj (h.symm.trans hc)
    exact absurd (String.toList_injective heq) hdots
  · obtain rfl : cs = name.toList := Option.some.inj (hc.symm.trans h)
    exact hplaced

section Paths

variable {path parents front : List (List Char)} {name : String}

/-- The segments of a path to push on. The root has none yet. -/
def trunk (path : List (List Char)) : List (List Char) := if path = [[]] then [] else path

theorem ne_root_of_length (h : 2 ≤ path.length) : path ≠ [[]] := by
  rintro rfl
  exact absurd h (by decide)

theorem trunk_of_length (h : 2 ≤ path.length) : trunk path = path := if_neg (ne_root_of_length h)

/-- A name is placed at the end of a path, whatever the path begins with. -/
theorem placed_append (h : 2 ≤ parents.length) (name : String) :
    placed (front ++ parents) name = front ++ placed parents name := by
  have hlength : 2 ≤ (front ++ parents).length := by
    rw [List.length_append]
    omega
  have hparents : parents ≠ [] := by
    rintro rfl
    exact absurd h (by decide)
  rw [placed, placed]
  cases carried name with
  | none => rfl
  | some cs =>
    simp only [Address.pushPath, if_neg (ne_root_of_length h), if_neg (ne_root_of_length hlength)]
    split
    · rw [List.dropLast_append_of_ne_nil hparents, List.append_assoc]
    · split <;> rw [List.append_assoc]

theorem length_placed (h : 2 ≤ parents.length) (name : String) :
    2 ≤ (placed parents name).length := by
  rcases placed_cases (ne_root_of_length h) name with
    ⟨-, heq⟩ | ⟨-, heq⟩ | ⟨-, heq⟩ | ⟨cs, -, heq⟩ <;> rw [heq]
  · exact h
  · rw [List.length_append]
    omega
  · rw [List.length_append, List.length_dropLast, List.length_singleton]
    omega
  · rw [List.length_append]
    omega

/-! ### Names that stand for themselves -/

/-- A name that stands for itself in a path. -/
structure IsLiteral (name : String) : Prop where
  ne_empty : name ≠ ""
  carried : carried name = some name.toList
  percentEncode : percentEncode inSegment name.toList = name.toList

theorem isLiteral_iff {name : String} :
    IsLiteral name ↔ name ≠ "" ∧ Url.carried name = some name.toList ∧
      Url.percentEncode inSegment name.toList = name.toList :=
  ⟨fun ⟨h₁, h₂, h₃⟩ => ⟨h₁, h₂, h₃⟩, fun ⟨h₁, h₂, h₃⟩ => ⟨h₁, h₂, h₃⟩⟩

instance (name : String) : Decidable (IsLiteral name) := decidable_of_iff' _ isLiteral_iff

theorem IsLiteral.placed (h : IsLiteral name) (path : List (List Char)) :
    placed path name = trunk path ++ [name.toList] := by
  obtain ⟨hdot, hdots, -⟩ := carried_eq_some_iff.mp h.carried
  have hsingle : isSingleDot name.toList ≠ true := by
    rw [← h.percentEncode, ne_eq, isSingleDot_percentEncode]
    exact fun heq => hdot (String.toList_injective heq)
  have hdouble : isDoubleDot name.toList ≠ true := by
    rw [← h.percentEncode, ne_eq, isDoubleDot_percentEncode]
    exact fun heq => hdots (String.toList_injective heq)
  simp only [Url.placed, h.carried, h.percentEncode, Address.pushPath, if_neg hsingle,
    if_neg hdouble, trunk]

theorem IsLiteral.trunk (h : IsLiteral name) (path : List (List Char)) :
    trunk (path ++ [name.toList]) = path ++ [name.toList] := by
  refine if_neg fun heq => h.ne_empty ?_
  have hlast : (path ++ [name.toList]).getLast? = [[]].getLast? := congrArg List.getLast? heq
  rw [List.getLast?_concat] at hlast
  exact String.toList_injective (Option.some.inj hlast)

theorem IsLiteral.slash_notMem (h : IsLiteral name) : '/' ∉ name.toList := by
  rw [← h.percentEncode]
  exact notMem_percentEncode (by decide) (by decide) (by decide) _

theorem foldl_placed {names : List String} (h : ∀ name ∈ names, IsLiteral name) (hne : names ≠ [])
    (path : List (List Char)) :
    names.foldl placed path = trunk path ++ names.map String.toList := by
  induction names generalizing path with
  | nil => exact absurd rfl hne
  | cons name names ih =>
    obtain ⟨hname, hnames⟩ := List.forall_mem_cons.mp h
    rw [List.foldl_cons, hname.placed]
    cases names with
    | nil => rfl
    | cons n ns => rw [ih hnames (List.cons_ne_nil _ _), hname.trunk, List.append_assoc]; rfl

end Paths

/-! ### Names below others -/

section Below

variable {parents : List String} {last : String}

theorem slash_notMem_placed {parents : List (List Char)} (hroot : parents ≠ [[]])
    (h : ∀ part ∈ parents, '/' ∉ part) (name : String) :
    ∀ part ∈ placed parents name, '/' ∉ part := by
  have hstep : ∀ path, (∀ part ∈ path, '/' ∉ part) → ∀ part ∈ path ++ [[]], '/' ∉ part := by
    intro path hpath
    rw [List.forall_mem_append]
    exact ⟨hpath, by simp⟩
  rcases placed_cases hroot name with ⟨-, heq⟩ | ⟨-, heq⟩ | ⟨-, heq⟩ | ⟨cs, -, heq⟩ <;> rw [heq]
  · exact h
  · exact hstep _ h
  · exact hstep _ fun part hpart => h part (List.dropLast_subset _ hpart)
  · rw [List.forall_mem_append, List.forall_mem_singleton]
    exact ⟨h, notMem_percentEncode (by decide) (by decide) (by decide) cs⟩

/-- **A path on which names were pushed**: what was there before, and the names, one of which may be
any. -/
theorem Address.path_pushSegments (hparents : ∀ name ∈ parents, IsLiteral name)
    (hlength : 2 ≤ parents.length) (hlast : IsLiteral last) (a : Address) (name : String) :
    (a.pushSegments (parents ++ [name, last])).path =
      trunk a.path ++ (placed (parents.map String.toList) name ++ [last.toList]) := by
  have hlength' : 2 ≤ (parents.map String.toList).length := by rwa [List.length_map]
  have hne : parents ≠ [] := by
    rintro rfl
    exact absurd hlength (by decide)
  have hlong : 2 ≤ (trunk a.path ++ placed (parents.map String.toList) name).length := by
    have := length_placed hlength' name
    rw [List.length_append]
    omega
  rw [pushSegments_eq]
  dsimp only
  rw [List.foldl_append, foldl_placed hparents hne, List.foldl_cons, List.foldl_cons,
    List.foldl_nil, placed_append hlength', hlast.placed, trunk_of_length hlong,
    List.append_assoc]

/-- The segments of its text are the same. -/
theorem Address.splitOn_pathChars (hparents : ∀ name ∈ parents, IsLiteral name)
    (hlength : 2 ≤ parents.length) (hlast : IsLiteral last) (a : Address) (name : String) :
    splitOn '/' (a.pushSegments (parents ++ [name, last])).pathChars =
      splitOn '/' ((trunk a.path).flatMap ('/' :: ·)) ++
        (placed (parents.map String.toList) name ++ [last.toList]) := by
  have hlength' : 2 ≤ (parents.map String.toList).length := by rwa [List.length_map]
  rw [pathChars, path_pushSegments hparents hlength hlast, List.flatMap_append, splitOn_flatMap]
  rw [List.forall_mem_append, List.forall_mem_singleton]
  refine ⟨slash_notMem_placed (ne_root_of_length hlength') ?_ name, hlast.slash_notMem⟩
  rw [List.forall_mem_map]
  exact fun parent hparent => (hparents parent hparent).slash_notMem

end Below

end Url

end LiveBoard
