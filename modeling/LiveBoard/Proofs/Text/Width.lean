import LiveBoard.Proofs.Text.Table
import LiveBoard.Text.Width
import Mathlib.Algebra.Ring.Nat
import Mathlib.Tactic.SplitIfs

/-!
# Width of texts

The columns that a text takes are counted from its end, and the outlook on what comes behind a
character decides about its own columns. On its own, a character counts as if nothing came behind
it. A text is not much wider than its characters are on their own. In two cases it is: a control
character takes a column in a text and none on its own, and a selector may turn the character before
it into a pictograph of two columns. A demand that is met can take columns away again, but only such
as are counted already, or give back what another one has taken.

## Main definitions

* `Text.surplus`: the columns that characters may take besides their own ones.
* `Text.KeepsWidths`: no character takes more columns in a text than on its own.
* `Demand.credit`, `Demand.debt`: the columns that characters further to the front may take back,
  and those that they may add.

## Main results

* `Outlook.measure_bounds`: what one more character takes or adds.
* `Text.width_le`: a text against its characters.
* `Text.surplus_eq_zero_iff`: which characters have no surplus.
* `Text.width_append_replicate`: blanks and dots behind a text.
-/

namespace LiveBoard.Text

open Table

/-! ### Characters that take a column -/

/-- Rows of characters none of which is without a width: consonants that go below a letter, the
joiner of Tifinagh, a vowel sign, and the pictographs and regional letters with all that is between
them. -/
def shownRows : List (List Nat) :=
  [[0x1780, 0x17AF], [0x231A, 0x2B55], [0x2D7F, 0x2D7F], [0x16D68, 0x16D68], [0x1F004, 0x1FAF8]]

set_option maxRecDepth 100000 in
theorem areApart_zeroRanges : areApart zeroRanges.toList shownRows = true := by
  have hrows : zeroRanges.toList = rowsFrom [] none _ := toList_ofText _
  rw [hrows]
  decide +kernel

set_option maxRecDepth 100000 in
theorem isInside_pictographRanges :
    pictographRanges.toList.all (fun row => shownRows.any (isInside row)) = true := by
  have hrows : pictographRanges.toList = rowsFrom [] none _ := toList_ofText _
  rw [hrows]
  decide +kernel

variable {c : Char}

theorem one_le_tableWidth (first last : Nat) {rest : List Nat}
    (hrow : first :: last :: rest ∈ shownRows) (hfirst : first ≤ c.toNat) (hlast : c.toNat ≤ last) :
    1 ≤ tableWidth c := by
  have hcovers := covers_eq_false areApart_zeroRanges hrow hfirst hlast
  rw [tableWidth, hcovers, if_neg Bool.false_ne_true]
  split_ifs <;> decide

theorem one_le_tableWidth_of_toNat_eq {n : Nat} (hc : c.toNat = n) (hrow : [n, n] ∈ shownRows) :
    1 ≤ tableWidth c :=
  one_le_tableWidth n n hrow (Nat.le_of_eq hc.symm) (Nat.le_of_eq hc)

theorem one_le_tableWidth_of_isPictograph (h : isPictograph c = true) : 1 ≤ tableWidth c := by
  obtain ⟨first, last, rest, hrow, hfirst, hlast⟩ :=
    exists_row_of_inside isInside_pictographRanges h
  exact one_le_tableWidth first last hrow hfirst hlast

theorem one_le_tableWidth_of_isRegional (h : isRegional c = true) : 1 ≤ tableWidth c := by
  simp only [isRegional, isWithin, Bool.and_eq_true, decide_eq_true_eq] at h
  have hrow : [0x1F004, 0x1FAF8] ∈ shownRows := by decide
  exact one_le_tableWidth _ _ hrow (by omega) (by omega)

theorem one_le_tableWidth_of_isSubjoined (h : isSubjoined c = true) : 1 ≤ tableWidth c := by
  simp only [isSubjoined, isWithin, Bool.or_eq_true, Bool.and_eq_true, decide_eq_true_eq] at h
  have hrow : [0x1780, 0x17AF] ∈ shownRows := by decide
  exact one_le_tableWidth _ _ hrow (by omega) (by omega)

/-! ### Characters in a text and on their own -/

/-- A control character. -/
def isControl (c : Char) : Bool := c.toNat < 0x20 || isWithin c 0x7F 0x9F

theorem charWidth_of_isControl (h : isControl c = true) : charWidth c = 0 := if_pos h

theorem charWidth_of_not_isControl (h : isControl c = false) : charWidth c = tableWidth c :=
  if_neg (Bool.eq_false_iff.mp h)

theorem charWidth_eq_tableWidth (h : 0xA0 < c.toNat) : charWidth c = tableWidth c := by
  refine charWidth_of_not_isControl ?_
  simp only [isControl, isWithin, Bool.or_eq_false_iff, Bool.and_eq_false_iff,
    decide_eq_false_iff_not]
  omega

/-- The columns that a character may take in a text besides its own ones: a control character has
none of its own, and a selector behind a character may turn it into a pictograph. -/
def surplusAt (c : Char) (next : Option Char) : Nat :=
  if next = some '\uFE0F' ∧ isPresentable c = true then 2 - charWidth c
  else if isControl c then 1
  else 0

/-- The columns that characters may take besides their own ones. -/
def surplus : List Char → Nat
  | [] => 0
  | c :: cs => surplusAt c cs.head? + surplus cs

theorem one_le_charWidth_add_surplusAt (h : c.toNat ≤ 0xA0) (next : Option Char) :
    1 ≤ charWidth c + surplusAt c next := by
  rw [surplusAt]
  cases hcontrol : isControl c with
  | false =>
    have hown : charWidth c = 1 := by rw [charWidth_of_not_isControl hcontrol, tableWidth, if_pos h]
    omega
  | true =>
    rw [charWidth_of_isControl hcontrol, if_pos rfl]
    split_ifs <;> decide

/-- A character that nothing follows takes no more than one that something follows. -/
theorem surplusAt_none_le (c : Char) (next : Option Char) :
    surplusAt c none ≤ surplusAt c next := by
  rw [surplusAt, if_neg nofun, surplusAt]
  cases hcontrol : isControl c with
  | false => exact Nat.zero_le _
  | true =>
    rw [charWidth_of_isControl hcontrol]
    split_ifs <;> decide

theorem surplus_le_of_beginning {cs ds : List Char} (h : cs <+: ds) : surplus cs ≤ surplus ds := by
  induction cs generalizing ds with
  | nil => exact Nat.zero_le _
  | cons c cs ih =>
    obtain ⟨ds, rfl, hrest⟩ := List.cons_prefix_iff.mp h
    rw [surplus, surplus]
    refine Nat.add_le_add ?_ (ih hrest)
    cases cs with
    | nil => exact surplusAt_none_le c _
    | cons d cs =>
      obtain ⟨ds, rfl, -⟩ := List.cons_prefix_iff.mp hrest
      exact Nat.le_refl _

/-- No character takes more columns in a text than on its own: there are no control characters, and
what a selector turns into a pictograph is as wide as that anyway. -/
structure KeepsWidths (cs : List Char) : Prop where
  not_isControl : ∀ c ∈ cs, isControl c = false
  wide : ∀ c, [c, '\uFE0F'] <:+: cs → isPresentable c = true → 2 ≤ charWidth c

theorem surplusAt_eq_zero_iff {next : Option Char} :
    surplusAt c next = 0 ↔ isControl c = false ∧
      (next = some '\uFE0F' → isPresentable c = true → 2 ≤ charWidth c) := by
  rw [surplusAt]
  by_cases h : next = some '\uFE0F' ∧ isPresentable c = true
  · rw [if_pos h, Nat.sub_eq_zero_iff_le]
    refine ⟨fun hwide => ⟨?_, fun _ _ => hwide⟩, fun hwide => hwide.2 h.1 h.2⟩
    refine Bool.eq_false_iff.mpr fun hcontrol => ?_
    rw [charWidth_of_isControl hcontrol] at hwide
    cases hwide
  · have hnot : next = some '\uFE0F' → isPresentable c = true → 2 ≤ charWidth c :=
      fun hnext hc => absurd ⟨hnext, hc⟩ h
    rw [if_neg h, and_iff_left hnot]
    cases isControl c <;> decide

theorem surplus_eq_zero_iff {cs : List Char} : surplus cs = 0 ↔ KeepsWidths cs := by
  induction cs with
  | nil => exact iff_of_true rfl ⟨nofun, fun c h => by simp at h⟩
  | cons c cs ih =>
    have hpair (d : Char) : [d, '\uFE0F'] <:+: c :: cs ↔
        (d = c ∧ cs.head? = some '\uFE0F') ∨ [d, '\uFE0F'] <:+: cs := by
      rw [List.infix_cons_iff, List.cons_prefix_cons]
      cases cs with
      | nil => simp
      | cons e cs => simp [List.cons_prefix_cons, eq_comm]
    rw [surplus, Nat.add_eq_zero_iff, ih, surplusAt_eq_zero_iff]
    constructor
    · rintro ⟨⟨hcontrol, hwide⟩, hcs⟩
      refine ⟨List.forall_mem_cons.mpr ⟨hcontrol, hcs.not_isControl⟩, fun d hd => ?_⟩
      rcases (hpair d).mp hd with ⟨rfl, hhead⟩ | hd
      · exact hwide hhead
      · exact hcs.wide d hd
    · rintro ⟨hcontrol, hwide⟩
      rw [List.forall_mem_cons] at hcontrol
      exact ⟨⟨hcontrol.1, fun hhead => hwide c ((hpair c).mpr (.inl ⟨rfl, hhead⟩))⟩,
        hcontrol.2, fun d hd => hwide d ((hpair d).mpr (.inr hd))⟩

/-- Without control characters and selectors, characters keep their widths. -/
theorem KeepsWidths.of_notMem {cs : List Char} (hcontrol : ∀ c ∈ cs, isControl c = false)
    (hselector : '\uFE0F' ∉ cs) : KeepsWidths cs :=
  ⟨hcontrol, fun _ h => absurd (h.subset (by simp)) hselector⟩

theorem KeepsWidths.of_beginning {cs ds : List Char} (h : KeepsWidths ds) (hfront : cs <+: ds) :
    KeepsWidths cs := by
  have hle := surplus_le_of_beginning hfront
  rw [surplus_eq_zero_iff.mpr h] at hle
  exact surplus_eq_zero_iff.mp (Nat.le_zero.mp hle)

/-! ### What is asked of the characters further to the front -/

namespace Demand

/-- Columns that are counted already and that characters further to the front may take back. -/
def credit : Demand → Nat
  | tifinaghJoiner | subjoined | joinedRegional => 1
  | joinedRegionalOdd => 3
  | _ => 0

/-- Columns that are not counted yet and that characters further to the front may add. -/
def debt : Demand → Nat
  | joinedRegionalEven => 2
  | _ => 0

theorem sequence?_bounds {d d' : Demand} {n : Int} (h : d.sequence? c = some (n, d')) :
    d'.credit ≤ d.credit + n ∧ n + d'.debt ≤ d.debt + tableWidth c := by
  have hregional := one_le_tableWidth_of_isRegional (c := c)
  have hjoiner (heq : c.toNat = 0x2D7F) : 1 ≤ tableWidth c :=
    one_le_tableWidth_of_toNat_eq heq (by decide)
  have hvowel (heq : c.toNat = 0x16D68) : 1 ≤ tableWidth c :=
    one_le_tableWidth_of_toNat_eq heq (by decide)
  revert h
  fun_cases sequence? d c <;> rintro ⟨⟩ <;> simp only [credit, debt] <;> grind

theorem credit_ofChar_le (c : Char) : (ofChar c).credit ≤ tableWidth c := by
  fun_cases ofChar c
  case case4 hsubjoined => exact one_le_tableWidth_of_isSubjoined hsubjoined
  all_goals exact Nat.zero_le _

theorem debt_ofChar (c : Char) : (ofChar c).debt = 0 := by
  fun_cases ofChar c <;> rfl

theorem credit_withJoiner (d : Demand) : d.withJoiner.credit = d.credit := by cases d <;> rfl

theorem debt_withJoiner (d : Demand) : d.withJoiner.debt = d.debt := by cases d <;> rfl

end Demand

namespace Outlook

theorem demand_unselect (o : Outlook) :
    o.unselect.demand = o.demand ∨ o.unselect.demand = .free := by
  rw [unselect]
  split_ifs
  · exact .inl rfl
  · exact .inl rfl
  · exact .inr rfl

theorem selector_unselect (o : Outlook) : o.unselect.selector = .unselected := by
  rw [unselect]
  split_ifs with h
  · exact h
  · rfl
  · rfl

/-- A demand that a selector may have put an end to counts on no more columns. -/
theorem bounds_of_demand {d d' : Demand} (h : d' = d ∨ d' = .free) :
    d'.credit ≤ d.credit ∧ d'.debt ≤ d.debt := by
  rcases h with rfl | rfl
  · exact ⟨Nat.le_refl _, Nat.le_refl _⟩
  · exact ⟨Nat.zero_le _, Nat.zero_le _⟩

theorem measurePlain_bounds (o : Outlook) (c : Char) :
    ((o.measurePlain c).2.demand.credit : Int) ≤ o.demand.credit + (o.measurePlain c).1 ∧
      (o.measurePlain c).1 + (o.measurePlain c).2.demand.debt ≤ o.demand.debt + tableWidth c := by
  rw [measurePlain]
  split_ifs
  · simp only [ofDemand, Demand.credit_withJoiner, Demand.debt_withJoiner]
    omega
  · dsimp only
    omega
  · split
    · next n d h => exact Demand.sequence?_bounds h
    · have hcredit := Demand.credit_ofChar_le c
      have hdebt := Demand.debt_ofChar c
      simp only [ofDemand]
      omega

theorem measureSimple_bounds (o : Outlook) (c : Char) :
    0 ≤ (o.measureSimple c).1 ∧ (o.measureSimple c).1 ≤ 1 ∧
      (o.measureSimple c).2.demand.credit = 0 ∧ (o.measureSimple c).2.demand.debt = 0 := by
  rw [measureSimple]
  split_ifs <;> decide

theorem demand_selectPictograph (o : Outlook) :
    o.selectPictograph.demand = o.demand ∨ o.selectPictograph.demand = .free := by
  rw [selectPictograph]
  split_ifs
  · exact .inl rfl
  · exact .inr rfl

theorem demand_selectText (o : Outlook) :
    o.selectText.demand = o.demand ∨ o.selectText.demand = .free := by
  rw [selectText]
  split_ifs
  · exact .inl rfl
  · exact .inr rfl

/-- **One more character.** It takes back no more columns than are there to be taken back, and it
adds no more columns than it may, together with those that were left over before. -/
theorem measure_bounds (o : Outlook) (c : Char) {next : Option Char}
    (hnext : o.selector = .asPictograph → next = some '\uFE0F') :
    ((o.measure c).2.demand.credit : Int) ≤ o.demand.credit + (o.measure c).1 ∧
      (o.measure c).1 + (o.measure c).2.demand.debt ≤
        o.demand.debt + charWidth c + surplusAt c next := by
  rw [measure]
  split
  -- A selector turns the character into a pictograph: this is what the surplus is for.
  · next hselected =>
    simp only [Bool.and_eq_true, decide_eq_true_eq] at hselected
    have hsurplus : surplusAt c next = 2 - charWidth c := if_pos ⟨hnext hselected.1, hselected.2⟩
    simp only [ofDemand, Demand.credit, Demand.debt]
    split_ifs <;> omega
  · obtain ⟨o', ho', hdemand⟩ : ∃ o' : Outlook,
        (if o.selector = .asPictograph then o.unselect else o) = o' ∧
          (o'.demand = o.demand ∨ o'.demand = .free) := by
      split_ifs
      · exact ⟨_, rfl, o.demand_unselect⟩
      · exact ⟨_, rfl, .inl rfl⟩
    simp only [ho']
    have hbounds := bounds_of_demand hdemand
    split
    · next hsimple =>
      have hown := one_le_charWidth_add_surplusAt hsimple next
      obtain ⟨hleast, hmost, hcredit, hdebt⟩ := o'.measureSimple_bounds c
      omega
    · next hsimple =>
      have hown := charWidth_eq_tableWidth (Nat.lt_of_not_le hsimple)
      -- The two selectors take nothing, a pictograph set as text takes one column, and all else
      -- takes what it has, but for the demand.
      split
      · have hselect := bounds_of_demand o'.demand_selectPictograph
        dsimp only
        omega
      · split
        · have hselect := bounds_of_demand o'.demand_selectText
          dsimp only
          omega
        · split
          · next hflattened =>
            simp only [isFlattened, Bool.and_eq_true] at hflattened
            have hpictograph := one_le_tableWidth_of_isPictograph hflattened.2.1.2
            simp only [atEnd, Demand.credit, Demand.debt]
            omega
          · have hunselect := bounds_of_demand o'.demand_unselect
            have hplain := o'.unselect.measurePlain_bounds c
            omega

theorem selector_measureSimple (o : Outlook) (c : Char) :
    (o.measureSimple c).2.selector = .unselected := by
  rw [measureSimple]
  split_ifs <;> rfl

theorem selector_measurePlain {o : Outlook} (h : o.selector = .unselected) (c : Char) :
    (o.measurePlain c).2.selector = .unselected := by
  rw [measurePlain]
  split_ifs
  · rfl
  · exact h
  · split <;> rfl

/-- No other character but the selector of pictographs counts as one. -/
theorem eq_of_selector_measure {o : Outlook} {c : Char}
    (h : (o.measure c).2.selector = .asPictograph) : c = '\uFE0F' := by
  refine Decidable.byContradiction fun hne => ?_
  have hnat : c.toNat ≠ 0xFE0F := fun heq => hne (Char.toNat_inj.mp heq)
  refine absurd h ?_
  rw [measure]
  split
  · exact nofun
  · dsimp only
    generalize (if o.selector = .asPictograph then o.unselect else o) = o'
    split
    · rw [selector_measureSimple]
      exact nofun
    · split
      · exact nofun
      · split
        · exact nofun
        · rw [selector_measurePlain (selector_unselect _)]
          exact nofun

end Outlook

/-! ### Texts -/

theorem measure_cons (c : Char) (cs : List Char) :
    measure (c :: cs) =
      ((measure cs).1 + ((measure cs).2.measure c).1, ((measure cs).2.measure c).2) := rfl

theorem head?_of_selector_measure {cs : List Char}
    (h : (measure cs).2.selector = .asPictograph) : cs.head? = some '\uFE0F' := by
  cases cs with
  | nil => cases h
  | cons c cs => exact congrArg some (Outlook.eq_of_selector_measure h)

theorem measure_bounds (cs : List Char) :
    ((measure cs).2.demand.credit : Int) ≤ (measure cs).1 ∧
      (measure cs).1 + (measure cs).2.demand.debt ≤
        ((cs.map charWidth).sum + surplus cs : Nat) := by
  induction cs with
  | nil => decide
  | cons c cs ih =>
    have hstep := (measure cs).2.measure_bounds c head?_of_selector_measure
    rw [measure_cons, List.map_cons, List.sum_cons, surplus]
    dsimp only
    omega

theorem measure_nonneg (cs : List Char) : 0 ≤ (measure cs).1 := by
  have h := measure_bounds cs
  omega

/-- **A text is not wider than its characters on their own**, apart from its surplus. -/
theorem width_le (cs : List Char) :
    width (String.ofList cs) ≤ (cs.map charWidth).sum + surplus cs := by
  have h := measure_bounds cs
  rw [width, String.toList_ofList]
  omega

/-- What comes behind a text and asks for nothing of the text does not change how it is measured. -/
theorem measure_append {ds : List Char} (h : (measure ds).2 = .atEnd) (cs : List Char) :
    measure (cs ++ ds) = ((measure cs).1 + (measure ds).1, (measure cs).2) := by
  induction cs with
  | nil => exact Prod.ext (Int.zero_add _).symm h
  | cons c cs ih =>
    rw [List.cons_append, measure_cons, ih, measure_cons]
    exact Prod.ext (Int.add_right_comm _ _ _) rfl

theorem measure_replicate (h : Outlook.atEnd.measure c = (1, .atEnd)) (n : Nat) :
    measure (List.replicate n c) = ((n : Int), Outlook.atEnd) := by
  induction n with
  | zero => rfl
  | succ n ih =>
    rw [List.replicate_succ, measure_cons, ih, h]
    rfl

/-- **Characters behind a text** that take a column each and ask for nothing of it. -/
theorem width_append_replicate (h : Outlook.atEnd.measure c = (1, .atEnd)) (s : String) (n : Nat) :
    width (s ++ String.ofList (List.replicate n c)) = width s + n := by
  have hbehind := measure_replicate h n
  have hnonneg := measure_nonneg s.toList
  rw [width, String.toList_append, String.toList_ofList,
    measure_append (by rw [hbehind]), hbehind, width]
  omega

/-! ### A digit before a selector -/

set_option maxRecDepth 100000 in
theorem isPresentable_one : isPresentable '1' = true := by
  have hrows : presentableRanges = (rowsFrom [] none _).toArray := ofText_eq _
  rw [isPresentable, hrows]
  decide +kernel

set_option maxRecDepth 100000 in
theorem charWidth_selector : charWidth '\uFE0F' = 0 := by
  have hrows : zeroRanges = (rowsFrom [] none _).toArray := ofText_eq _
  rw [charWidth, tableWidth, hrows]
  decide +kernel

/-- A digit takes one column more where a selector follows. -/
theorem measure_keycap (cs : List Char)
    (h : (measure cs).2 = .atEnd ∨ (measure cs).2 = .ofDemand .pictograph) :
    measure ('1' :: '\uFE0F' :: cs) = ((measure cs).1 + 2, .ofDemand .pictograph) := by
  have hselector : (measure cs).2.measure '\uFE0F' = (0, ⟨.free, .asPictograph⟩) := by
    rcases h with h | h <;> rw [h] <;> decide +kernel
  have hdigit : Outlook.measure ⟨.free, .asPictograph⟩ '1' = (2, .ofDemand .pictograph) := by
    rw [Outlook.measure, isPresentable_one]
    rfl
  rw [measure_cons, measure_cons, hselector, hdigit]
  exact Prod.ext (congrArg (· + 2) (Int.add_zero _)) rfl

end LiveBoard.Text
