import LiveBoard.Proofs.Toml.Numeral
import LiveBoard.Toml.Document

/-!
# Integers of a document

An integer of more than 64 bits with its sign is refused where it is read, and nothing that happens
to a document afterwards makes new integers. So whatever a document holds, at any depth, none of its
integers is too great to be written again.

## Main definitions

* `Toml.Item.IsBounded`: the integers in an item are below `2^63`.
* `Toml.KeepsBounds`: a change to a table that brings in no other integers.

## Main results

* `Toml.keepsBounds_within`: changes further down.
* `Toml.areBounded_ofSections`: documents of lines.
* `Toml.readsBounded`: values of any depth.
* `Toml.areBounded_read?`: all that is read.
-/

namespace LiveBoard.Toml

/-- All integers in an item, at any depth, are below `2^63`. -/
inductive Item.IsBounded : Item → Prop
  | string (s : String) : IsBounded (.string s)
  | integer {n : Int} (h : n < Int.ofNat (Nat.pow 2 63)) : IsBounded (.integer n)
  | float : IsBounded .float
  | boolean (b : Bool) : IsBounded (.boolean b)
  | moment : IsBounded .moment
  | array {items : List Item} (h : ∀ i ∈ items, IsBounded i) : IsBounded (.array items)
  | table (origin : Origin) {ms : Members} (h : ∀ m ∈ ms, IsBounded m.2) :
    IsBounded (.table origin ms)
  | tables {rows : List Members} (h : ∀ row ∈ rows, ∀ m ∈ row, IsBounded m.2) :
    IsBounded (.tables rows)

/-- All items of a table are bounded. -/
def AreBounded (ms : Members) : Prop := ∀ m ∈ ms, m.2.IsBounded

/-- A change to a table that leaves its items bounded. -/
def KeepsBounds (change : Members → Option Members) : Prop :=
  ∀ ⦃ms ms'⦄, AreBounded ms → change ms = some ms' → AreBounded ms'

variable {key : String} {item : Item} {ms ms' : Members}

/-! ### Tables -/

theorem areBounded_nil : AreBounded [] := nofun

theorem AreBounded.lookup (h : AreBounded ms) (hkey : lookup key ms = some item) :
    item.IsBounded := by
  obtain ⟨m, hm, rfl⟩ := Option.map_eq_some_iff.mp hkey
  exact h m (List.mem_of_find?_eq_some hm)

theorem AreBounded.assign (h : AreBounded ms) (hitem : item.IsBounded) (key : String) :
    AreBounded (assign key item ms) := by
  induction ms with
  | nil => exact List.forall_mem_cons.mpr ⟨hitem, nofun⟩
  | cons m ms ih =>
    obtain ⟨hm, hms⟩ := List.forall_mem_cons.mp h
    rw [Toml.assign]
    split
    · exact List.forall_mem_cons.mpr ⟨hitem, hms⟩
    · exact List.forall_mem_cons.mpr ⟨hm, ih hms⟩

theorem keepsBounds_foldlM {α : Type} {change : Members → α → Option Members} {as : List α}
    (h : ∀ a ∈ as, KeepsBounds fun ms => change ms a) :
    KeepsBounds fun ms => as.foldlM change ms := by
  induction as with
  | nil =>
    intro ms ms' hms hnone
    cases hnone
    exact hms
  | cons a as ih =>
    obtain ⟨ha, has⟩ := List.forall_mem_cons.mp h
    intro ms ms' hms hall
    obtain ⟨next, hnext, hrest⟩ := Option.bind_eq_some_iff.mp hall
    exact ih has (ha hms hnext) hrest

/-- **A change further down** keeps the bounds if it keeps them there. -/
theorem keepsBounds_within {origin : Origin} {change : Origin → Members → Option Members}
    (hchange : ∀ here, KeepsBounds (change here)) (path : List String) (here : Origin) :
    KeepsBounds (within origin change path here) := by
  induction path generalizing here with
  | nil => exact hchange here
  | cons key path ih =>
    intro ms ms' hms h
    rw [within] at h
    split at h
    · obtain ⟨inner, hinner, rfl⟩ := Option.map_eq_some_iff.mp h
      exact hms.assign (.table origin (ih origin areBounded_nil hinner)) key
    · next there inner hkey =>
      cases hms.lookup hkey with
      | table _ hin =>
        split at h
        · cases h
        · obtain ⟨inner', hinner, rfl⟩ := Option.map_eq_some_iff.mp h
          exact hms.assign (.table there (ih there hin hinner)) key
    · next row rows hkey =>
      cases hms.lookup hkey with
      | tables hin =>
        obtain ⟨hrow, hrows⟩ := List.forall_mem_cons.mp hin
        obtain ⟨row', hrow', rfl⟩ := Option.map_eq_some_iff.mp h
        exact hms.assign
          (.tables (List.forall_mem_cons.mpr ⟨ih .header hrow hrow', hrows⟩)) key
    · cases h

theorem keepsBounds_insertDotted (hitem : item.IsBounded) (path : List String) (key : String) :
    KeepsBounds (insertDotted path key item) := by
  refine keepsBounds_within (fun here ms ms' hms h => ?_) path .header
  split at h
  · split at h
    · cases h
      exact hms.assign hitem key
    · cases h
  · cases h

theorem keepsBounds_insertLines {lines : List Line} (hlines : ∀ l ∈ lines, l.item.IsBounded) :
    KeepsBounds (insertLines lines) :=
  keepsBounds_foldlM fun l hl => keepsBounds_insertDotted (hlines l hl) l.path l.key

theorem keepsBounds_openTable {lines : List Line} (hlines : ∀ l ∈ lines, l.item.IsBounded)
    (path : List String) (key : String) : KeepsBounds (openTable path key lines) := by
  refine keepsBounds_within (fun here ms ms' hms h => ?_) path .header
  split at h
  · obtain ⟨inner, hinner, rfl⟩ := Option.map_eq_some_iff.mp h
    exact hms.assign (.table _ (keepsBounds_insertLines hlines areBounded_nil hinner)) key
  · next inner hkey =>
    cases hms.lookup hkey with
    | table _ hin =>
      obtain ⟨inner', hinner, rfl⟩ := Option.map_eq_some_iff.mp h
      exact hms.assign (.table _ (keepsBounds_insertLines hlines hin hinner)) key
  · cases h

theorem keepsBounds_pushTable {lines : List Line} (hlines : ∀ l ∈ lines, l.item.IsBounded)
    (path : List String) (key : String) : KeepsBounds (pushTable path key lines) := by
  refine keepsBounds_within (fun here ms ms' hms h => ?_) path .header
  obtain ⟨row, hrow, h⟩ := Option.bind_eq_some_iff.mp h
  have hnew := keepsBounds_insertLines hlines areBounded_nil hrow
  split at h
  · cases h
    exact hms.assign (.tables (List.forall_mem_singleton.mpr hnew)) key
  · next rows hkey =>
    cases hms.lookup hkey with
    | tables hin =>
      cases h
      exact hms.assign (.tables (List.forall_mem_cons.mpr ⟨hnew, hin⟩)) key
  · cases h

theorem keepsBounds_addTo {s : Section} (h : ∀ l ∈ s.lines, l.item.IsBounded) :
    KeepsBounds s.addTo := by
  intro ms ms' hms hadd
  rw [Section.addTo] at hadd
  split at hadd
  · exact keepsBounds_insertLines h hms hadd
  · exact keepsBounds_pushTable h _ _ hms hadd
  · exact keepsBounds_openTable h _ _ hms hadd

/-- **A document** of bounded lines is bounded. -/
theorem areBounded_ofSections {ss : List Section}
    (h : ∀ s ∈ ss, ∀ l ∈ s.lines, l.item.IsBounded) (hms : ofSections ss = some ms) :
    AreBounded ms :=
  keepsBounds_foldlM (fun s hs => keepsBounds_addTo (h s hs)) areBounded_nil hms

/-! ### Values -/

variable {cs rest : List Char}

theorem isBounded_word? (h : word? cs = some item) : item.IsBounded := by
  rw [word?] at h
  split at h
  · cases h
    exact .boolean true
  split at h
  · cases h
    exact .boolean false
  split at h
  · next n hn =>
    cases h
    exact .integer (lt_of_integer? hn)
  split at h
  · cases h
    exact .float
  split at h
  · cases h
    exact .moment
  · cases h

theorem isBounded_scalar? (h : scalar? cs = some (item, rest)) : item.IsBounded := by
  rw [scalar?] at h
  split at h
  · cases h
    exact .string _
  · dsimp only at h
    split at h
    · cases h
      exact .moment
    · obtain ⟨word, hword, heq⟩ := Option.map_eq_some_iff.mp h
      cases heq
      exact isBounded_word? hword

theorem isBounded_braces {lines : List Line} {r : List Char}
    (hlines : ∀ l ∈ lines, l.item.IsBounded)
    (h : ((insertLines lines []).bind fun ms => some (Item.table .braces ms, r)) =
      some (item, rest)) : item.IsBounded := by
  obtain ⟨members, hmembers, heq⟩ := Option.bind_eq_some_iff.mp h
  cases heq
  exact .table _ (keepsBounds_insertLines hlines areBounded_nil hmembers)

/-- What is read with some fuel is bounded: a value, the elements of an array, and the lines
between braces. -/
structure ReadsBounded (fuel : Nat) : Prop where
  value : ∀ ⦃room cs item rest⦄, valueIn fuel room cs = some (item, rest) → item.IsBounded
  elements : ∀ ⦃room cs items rest⦄, elementsIn fuel room cs = some (items, rest) →
    ∀ i ∈ items, i.IsBounded
  pairs : ∀ ⦃room cs lines rest⦄, pairsIn fuel room cs = some (lines, rest) →
    ∀ l ∈ lines, l.item.IsBounded

namespace ReadsBounded

variable {fuel room : Nat}

theorem value_succ (ih : ReadsBounded fuel)
    (h : valueIn (fuel + 1) room cs = some (item, rest)) : item.IsBounded := by
  cases room with
  | zero => exact isBounded_scalar? h
  | succ room =>
    rw [valueIn.eq_def] at h
    dsimp only at h
    split at h
    · obtain ⟨⟨items, r⟩, hitems, heq⟩ := Option.map_eq_some_iff.mp h
      cases heq
      exact .array (ih.elements hitems)
    · split at h
      · exact isBounded_braces (List.forall_mem_nil _) h
      · obtain ⟨⟨lines, r⟩, hlines, h⟩ := Option.bind_eq_some_iff.mp h
        exact isBounded_braces (ih.pairs hlines) h
    · exact isBounded_scalar? h

theorem elements_succ (ih : ReadsBounded fuel) {items : List Item}
    (h : elementsIn (fuel + 1) room cs = some (items, rest)) : ∀ i ∈ items, i.IsBounded := by
  rw [elementsIn] at h
  split at h
  · cases h
    exact List.forall_mem_nil _
  · obtain ⟨⟨item, r⟩, hitem, h⟩ := Option.bind_eq_some_iff.mp h
    have hfirst := ih.value hitem
    dsimp only at h
    split at h
    · obtain ⟨⟨more, r⟩, hmore, heq⟩ := Option.bind_eq_some_iff.mp h
      cases heq
      exact List.forall_mem_cons.mpr ⟨hfirst, ih.elements hmore⟩
    · cases h
      exact List.forall_mem_singleton.mpr hfirst
    · cases h

theorem pairs_succ (ih : ReadsBounded fuel) {lines : List Line}
    (h : pairsIn (fuel + 1) room cs = some (lines, rest)) : ∀ l ∈ lines, l.item.IsBounded := by
  rw [pairsIn] at h
  obtain ⟨⟨path, key, r⟩, -, h⟩ := Option.bind_eq_some_iff.mp h
  dsimp only at h
  split at h
  · obtain ⟨⟨item, r⟩, hitem, h⟩ := Option.bind_eq_some_iff.mp h
    have hfirst := ih.value hitem
    dsimp only at h
    split at h
    · obtain ⟨⟨more, r⟩, hmore, heq⟩ := Option.bind_eq_some_iff.mp h
      cases heq
      exact List.forall_mem_cons.mpr ⟨hfirst, ih.pairs hmore⟩
    · cases h
      exact List.forall_mem_singleton.mpr hfirst
    · cases h
  · cases h

end ReadsBounded

theorem readsBounded (fuel : Nat) : ReadsBounded fuel := by
  induction fuel with
  | zero => constructor <;> intro _ _ _ _ h <;> cases h
  | succ fuel ih => exact ⟨fun _ _ _ _ => ih.value_succ, fun _ _ _ _ => ih.elements_succ,
      fun _ _ _ _ => ih.pairs_succ⟩

/-! ### Documents -/

theorem ne_line_of_header {double : Bool} {path : List String} {r : Option (List Char)}
    {l : Line} :
    (r.map fun rest => (Statement.header double path key, rest)) ≠ some (.line l, rest) := by
  intro h
  obtain ⟨r, -, heq⟩ := Option.map_eq_some_iff.mp h
  cases heq

theorem isBounded_statement? {l : Line} (h : statement? cs = some (.line l, rest)) :
    l.item.IsBounded := by
  rw [statement?] at h
  split at h
  · cases h
  split at h
  -- Headers, in double brackets and in single ones, are no lines.
  · obtain ⟨⟨path, key, r⟩, -, h⟩ := Option.bind_eq_some_iff.mp h
    dsimp only at h
    split at h
    · exact absurd h ne_line_of_header
    · cases h
  · obtain ⟨⟨path, key, r⟩, -, h⟩ := Option.bind_eq_some_iff.mp h
    dsimp only at h
    split at h
    · exact absurd h ne_line_of_header
    · cases h
  · obtain ⟨⟨path, key, r⟩, -, h⟩ := Option.bind_eq_some_iff.mp h
    dsimp only at h
    split at h
    · obtain ⟨⟨item, r⟩, hitem, h⟩ := Option.bind_eq_some_iff.mp h
      obtain ⟨r, -, heq⟩ := Option.map_eq_some_iff.mp h
      cases heq
      exact (readsBounded _).value hitem
    · cases h

theorem isBounded_statementsIn {fuel : Nat} {ss : List Statement}
    (h : statementsIn fuel cs = some ss) : ∀ l, .line l ∈ ss → l.item.IsBounded := by
  fun_induction statementsIn fuel cs generalizing ss with
  | case1 =>
    cases h
    exact fun _ => nofun
  | case2 => cases h
  | case3 fuel cs hcs ih =>
    obtain ⟨⟨s, r⟩, hs, h⟩ := Option.bind_eq_some_iff.mp h
    obtain ⟨more, hmore, heq⟩ := Option.bind_eq_some_iff.mp h
    cases heq
    intro l hl
    rcases List.mem_cons.mp hl with rfl | hl
    · exact isBounded_statement? hs
    · exact ih r hmore l hl

theorem isBounded_sections {header : Option (Bool × List String × String)} {lines : List Line}
    {ss : List Statement} (hlines : ∀ l ∈ lines, l.item.IsBounded)
    (h : ∀ l, .line l ∈ ss → l.item.IsBounded) :
    ∀ s ∈ sections header lines ss, ∀ l ∈ s.lines, l.item.IsBounded := by
  induction ss generalizing header lines with
  | nil => exact List.forall_mem_singleton.mpr fun l hl => hlines l (List.mem_reverse.mp hl)
  | cons s ss ih =>
    have htail (l : Line) (hl : .line l ∈ ss) : l.item.IsBounded :=
      h l (List.mem_cons_of_mem _ hl)
    cases s with
    | blank => exact ih hlines htail
    | line l => exact ih (List.forall_mem_cons.mpr ⟨h l List.mem_cons_self, hlines⟩) htail
    | header double path key =>
      exact List.forall_mem_cons.mpr ⟨fun l hl => hlines l (List.mem_reverse.mp hl),
        ih (List.forall_mem_nil _) htail⟩

/-- **Whatever is read is bounded.** -/
theorem areBounded_read? {text : String} (h : read? text = some ms) : AreBounded ms := by
  obtain ⟨ss, hss, hms⟩ := Option.bind_eq_some_iff.mp h
  exact areBounded_ofSections
    (isBounded_sections (List.forall_mem_nil _) (isBounded_statementsIn hss)) hms

end LiveBoard.Toml
