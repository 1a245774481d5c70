import LiveBoard.Proofs.Text.Width
import LiveBoard.Terminal.TaskTable

/-!
# Cells that fit

A text is cut by the widths of its characters on their own, and its cell is padded by the width of
the whole text. Where the two agree, the cell gets the width of its column. They differ by the
surplus of the beginning that is left, so a title with control characters, or with characters that
selectors turn into pictographs, can push the cells behind it to the right.

## Main definitions

* `TaskTable.onScreen`: the widths of the columns on a terminal of any width.
* `TaskTable.cellWidths`: the widths of the first two cells of a line.

## Main results

* `Terminal.width_padded`: the width of a cell.
* `Terminal.width_clipped_le`: the width of a text that has been cut.
* `TaskTable.cellWidths_header`, `TaskTable.cellWidths_task`: the cells of a table.
-/

namespace LiveBoard

open Terminal

namespace Terminal

variable {w : Nat} {s : String}

theorem measure_blank : Text.Outlook.atEnd.measure ' ' = (1, .atEnd) := by decide

theorem measure_dot : Text.Outlook.atEnd.measure '.' = (1, .atEnd) := by decide

/-- **Padding** makes a text as wide as it has to be. -/
theorem width_padded (w : Nat) (s : String) : Text.width (padded w s) = max w (Text.width s) := by
  rw [padded, blanks, Text.width_append_replicate measure_blank]
  omega

/-! ### Cutting -/

theorem fitting_isPrefix (room : Nat) (cs : List Char) : fitting room cs <+: cs := by
  induction cs generalizing room with
  | nil => exact List.prefix_refl _
  | cons c cs ih =>
    rw [fitting]
    split
    · exact List.cons_prefix_cons.mpr ⟨rfl, ih _⟩
    · exact List.nil_prefix

theorem sum_charWidth_fitting_le (room : Nat) (cs : List Char) :
    ((fitting room cs).map Text.charWidth).sum ≤ room := by
  induction cs generalizing room with
  | nil => exact Nat.zero_le _
  | cons c cs ih =>
    rw [fitting]
    split
    · have := ih (room - Text.charWidth c)
      rw [List.map_cons, List.sum_cons]
      omega
    · exact Nat.zero_le _

/-- The character behind a beginning that fits does not fit any more. -/
theorem lt_of_eq_fitting_append {room : Nat} {cs rest : List Char} {c : Char}
    (h : cs = fitting room cs ++ c :: rest) :
    room < ((fitting room cs).map Text.charWidth).sum + Text.charWidth c := by
  induction cs generalizing room with
  | nil => cases h
  | cons d cs ih =>
    rw [fitting] at h ⊢
    split at h
    · next hfits =>
      have hrest := ih (List.cons.inj h).2
      rw [if_pos hfits, List.map_cons, List.sum_cons]
      omega
    · next hfits =>
      obtain ⟨rfl, -⟩ := List.cons.inj h
      rw [if_neg hfits, List.map_nil, List.sum_nil]
      omega

theorem clipped_of_width_le (h : Text.width s ≤ w) : clipped w s = s := if_pos h

theorem clipped_of_le_three (h : w < Text.width s) (hw : w ≤ 3) :
    clipped w s = String.ofList (List.replicate w '.') := by
  rw [clipped, if_neg (Nat.not_le.mpr h), if_pos hw]

theorem clipped_of_three_lt (h : w < Text.width s) (hw : 3 < w) :
    clipped w s = String.ofList (fitting (w - 2) s.toList) ++ ".." := by
  rw [clipped, if_neg (Nat.not_le.mpr h), if_neg (Nat.not_le.mpr hw)]

/-- What is cut off and ends in two dots is as wide as it may be, apart from the surplus of what
is left. -/
theorem width_dotted_le (hw : 2 ≤ w) (cs : List Char) :
    Text.width (String.ofList (fitting (w - 2) cs) ++ "..") ≤
      w + Text.surplus (fitting (w - 2) cs) := by
  have hdots : ".." = String.ofList (List.replicate 2 '.') := rfl
  have hfront := Text.width_le (fitting (w - 2) cs)
  have hsum := sum_charWidth_fitting_le (w - 2) cs
  rw [hdots, Text.width_append_replicate measure_dot]
  omega

/-- **What is cut** is not wider than it may be, apart from the surplus of what is left. -/
theorem width_clipped_le (w : Nat) (s : String) :
    Text.width (clipped w s) ≤ w + Text.surplus (fitting (w - 2) s.toList) := by
  rcases Nat.lt_or_ge w (Text.width s) with h | h
  · rcases Nat.lt_or_ge 3 w with hw | hw
    · rw [clipped_of_three_lt h hw]
      exact width_dotted_le (Nat.le_of_succ_le (Nat.le_of_succ_le hw)) s.toList
    · have hdots : Text.width ("" ++ String.ofList (List.replicate w '.')) = 0 + w :=
        Text.width_append_replicate measure_dot "" w
      rw [String.empty_append] at hdots
      rw [clipped_of_le_three h hw]
      omega
  · rw [clipped_of_width_le h]
    exact Nat.le_trans h (Nat.le_add_right _ _)

theorem width_clipped_le_of_keepsWidths {w : Nat} {s : String}
    (h : Text.KeepsWidths (fitting (w - 2) s.toList)) : Text.width (clipped w s) ≤ w := by
  have hle := width_clipped_le w s
  rwa [Text.surplus_eq_zero_iff.mpr h, Nat.add_zero] at hle

end Terminal

namespace TaskTable

/-- The widths of the columns for a list of tasks on a terminal of a given width. -/
def onScreen (columns : Nat) (tasks : List Task) : TaskTable :=
  { ofTasks tasks with titleWidth := clamp 16 60 (columns - ((ofTasks tasks).idWidth + 30)) }

theorem ofTasks_eq_onScreen (tasks : List Task) : ofTasks tasks = onScreen screenWidth tasks := rfl

/-- The widths of the first two cells of a line. -/
def cellWidths (table : TaskTable) (id title : String) : List Nat :=
  (table.cells id title).map fun cell => Text.width cell.text

theorem cellWidths_eq (table : TaskTable) (id title : String) :
    table.cellWidths id title = [max table.idWidth (Text.width id),
      max table.titleWidth (Text.width (clipped table.titleWidth title))] := by
  simp only [cellWidths, cells, plain, List.map_cons, List.map_nil, width_padded]

theorem idWidth_eq (tasks : List Task) : (ofTasks tasks).idWidth =
    max 2 ((tasks.map fun t => Text.width t.id).max?.getD 2) := List.foldl_max

/-- Every id fits. -/
theorem width_id_le {tasks : List Task} {t : Task} (ht : t ∈ tasks) :
    Text.width t.id ≤ (ofTasks tasks).idWidth := by
  have hmem : Text.width t.id ∈ tasks.map fun t => Text.width t.id := List.mem_map.mpr ⟨t, ht, rfl⟩
  rw [idWidth_eq]
  exact Nat.le_trans (List.le_max?_getD_of_mem hmem) (Nat.le_max_right _ _)

theorem two_le_idWidth (tasks : List Task) : 2 ≤ (ofTasks tasks).idWidth := by
  rw [idWidth_eq]
  exact Nat.le_max_left _ _

theorem le_titleWidth (columns : Nat) (tasks : List Task) :
    16 ≤ (onScreen columns tasks).titleWidth := Nat.le_max_left _ _

/-- The headings fit on every screen. -/
theorem cellWidths_header (columns : Nat) (tasks : List Task) :
    (onScreen columns tasks).cellWidths "ID" "Title" =
      [(onScreen columns tasks).idWidth, (onScreen columns tasks).titleWidth] := by
  have hid : Text.width "ID" = 2 := by decide +kernel
  have htitle : Text.width "Title" = 5 := by decide +kernel
  have hfirst : 2 ≤ (onScreen columns tasks).idWidth := two_le_idWidth tasks
  have hsecond := le_titleWidth columns tasks
  rw [cellWidths_eq, clipped_of_width_le (by omega), hid, htitle, Nat.max_eq_left hfirst,
    Nat.max_eq_left (by omega)]

/-- The cell of an id is as wide as its heading, and so is that of a title which is not too wide
when it has been cut. -/
theorem cellWidths_task (columns : Nat) {tasks : List Task} {t : Task} (ht : t ∈ tasks) :
    (onScreen columns tasks).cellWidths t.id t.title =
      [(onScreen columns tasks).idWidth, max (onScreen columns tasks).titleWidth
        (Text.width (clipped (onScreen columns tasks).titleWidth t.title))] := by
  rw [cellWidths_eq]
  exact congrArg (· :: _) (Nat.max_eq_left (width_id_le ht))

end TaskTable

namespace Terminal

/-- **What is cut fits**, where the characters that are left keep their widths. A text that fits
stays as it is. Another one becomes as many dots as there is room for, up to three, and beyond that
the longest beginning whose characters, on their own, leave room for two dots. The result is not
wider than it may be, apart from the surplus of this beginning: a column for every control
character, and what characters gain by being turned into pictographs. So in a table of tasks on a
terminal of any width, the cell of an id is as wide as its heading, and that of a title as well, if
the title is not cut or the characters that are left keep their widths. -/
theorem clipped_fits (w : Nat) (s : String) :
    (Text.width s ≤ w → clipped w s = s) ∧
    (w < Text.width s → w ≤ 3 → clipped w s = String.ofList (List.replicate w '.')) ∧
    (w < Text.width s → 3 < w → ∃ front, front <+: s.toList ∧
      clipped w s = String.ofList front ++ ".." ∧ (front.map Text.charWidth).sum ≤ w - 2 ∧
      ∀ c rest, s.toList = front ++ c :: rest →
        w - 2 < (front.map Text.charWidth).sum + Text.charWidth c) ∧
    Text.width (clipped w s) ≤ w + Text.surplus (fitting (w - 2) s.toList) ∧
    (Text.KeepsWidths (fitting (w - 2) s.toList) → Text.width (clipped w s) ≤ w) ∧
    (Text.KeepsWidths s.toList → Text.KeepsWidths (fitting (w - 2) s.toList)) ∧
    ∀ (columns : Nat) (tasks : List Task), ∀ t ∈ tasks,
      let table := TaskTable.onScreen columns tasks
      table.cellWidths "ID" "Title" = [table.idWidth, table.titleWidth] ∧
      table.cellWidths t.id t.title = [table.idWidth,
        max table.titleWidth (Text.width (clipped table.titleWidth t.title))] ∧
      (Text.width t.title ≤ table.titleWidth ∨
          Text.KeepsWidths (fitting (table.titleWidth - 2) t.title.toList) →
        table.cellWidths t.id t.title = table.cellWidths "ID" "Title") := by
  refine ⟨clipped_of_width_le, clipped_of_le_three, fun h hw => ?_, width_clipped_le w s,
    width_clipped_le_of_keepsWidths, fun h => h.of_beginning (fitting_isPrefix _ _),
    fun columns tasks t ht => ?_⟩
  · exact ⟨_, fitting_isPrefix _ _, clipped_of_three_lt h hw, sum_charWidth_fitting_le _ _,
      fun c rest hrest => lt_of_eq_fitting_append hrest⟩
  · intro table
    have hheader := TaskTable.cellWidths_header columns tasks
    have htask := TaskTable.cellWidths_task columns ht
    refine ⟨hheader, htask, fun h => ?_⟩
    have hfits : Text.width (clipped table.titleWidth t.title) ≤ table.titleWidth := by
      rcases h with h | h
      · rwa [clipped_of_width_le h]
      · exact width_clipped_le_of_keepsWidths h
    rw [hheader, htask, Nat.max_eq_left hfits]

/-- A title of ideographs and one with a tab, on a narrow screen. -/
theorem clipped_fits_of_ideographs :
    let lamp : Task :=
      ⟨"1", "b", "漢字漢字漢字漢字漢字漢字漢字", none, .inbox, "P2", none, none, none, "d", "d"⟩
    let chair : Task := { lamp with id := "demo-1", title := "tab\there" }
    let table := TaskTable.onScreen 60 [lamp, chair]
    Text.KeepsWidths lamp.title.toList ∧ Text.width chair.title = 8 ∧ table = ⟨6, 24⟩ ∧
      Text.width (clipped 24 lamp.title) ≤ 24 ∧ table.cellWidths "ID" "Title" = [6, 24] ∧
      table.cellWidths lamp.id lamp.title = [6, 24] ∧
      table.cellWidths chair.id chair.title = [6, 24] ∧
      8 < Text.width "a long task title" ∧ ∃ front, front <+: "a long task title".toList ∧
        clipped 8 "a long task title" = String.ofList front ++ ".." := by
  intro lamp chair table
  have hplain : lamp.title.toList.all (fun c => !Text.isControl c) = true := by decide +kernel
  have hkeeps : Text.KeepsWidths lamp.title.toList :=
    .of_notMem (by simpa using hplain) (by decide +kernel)
  have hwidth : Text.width chair.title = 8 := by decide +kernel
  have htable : table = ⟨6, 24⟩ := by decide +kernel
  obtain ⟨-, -, -, -, hfits, hfront, hcells⟩ := clipped_fits 24 lamp.title
  obtain ⟨hheader, -, hlamp⟩ := hcells 60 [lamp, chair] lamp (by decide +kernel)
  obtain ⟨-, -, hchair⟩ := hcells 60 [lamp, chair] chair (by decide +kernel)
  have hlong : 8 < Text.width "a long task title" := by decide +kernel
  obtain ⟨front, hbeginning, hcut, -⟩ :=
    (clipped_fits 8 "a long task title").2.2.1 hlong (by decide)
  have htitles : table.cellWidths "ID" "Title" = [6, 24] :=
    hheader.trans (congrArg (fun t : TaskTable => [t.idWidth, t.titleWidth]) htable)
  have hshort : Text.width chair.title ≤ table.titleWidth :=
    hwidth ▸ Nat.le_trans (by decide) (TaskTable.le_titleWidth 60 [lamp, chair])
  exact ⟨hkeeps, hwidth, htable, hfits (hfront hkeeps), htitles,
    (hlamp (.inr (hkeeps.of_beginning (fitting_isPrefix _ _)))).trans htitles,
    (hchair (.inl hshort)).trans htitles, hlong, front, hbeginning, hcut⟩

theorem clipped_keycaps : clipped 4 "1\uFE0F1\uFE0F1\uFE0F" = "1\uFE0F1\uFE0F.." := by
  have hlast := Text.measure_keycap [] (.inl rfl)
  have hsecond := Text.measure_keycap _ (.inr (congrArg Prod.snd hlast))
  have hfirst := Text.measure_keycap _ (.inr (congrArg Prod.snd hsecond))
  have hwidth : Text.width "1\uFE0F1\uFE0F1\uFE0F" = 6 := by
    rw [Text.width, String.toList_ofList, hfirst, hsecond, hlast]
    rfl
  have hdigit : Text.charWidth '1' = 1 := by decide +kernel
  have hfitting : fitting 2 "1\uFE0F1\uFE0F1\uFE0F".toList = "1\uFE0F1\uFE0F".toList := by
    simp [fitting, hdigit, Text.charWidth_selector]
  rw [clipped_of_three_lt (hwidth ▸ by decide) (by decide), hfitting]
  rfl

theorem width_keycaps : Text.width "1\uFE0F1\uFE0F.." = 6 := by
  have hdots : Text.measure ['.', '.'] = (2, .atEnd) := Text.measure_replicate measure_dot 2
  have hlast := Text.measure_keycap _ (.inl (congrArg Prod.snd hdots))
  have hfirst := Text.measure_keycap _ (.inr (congrArg Prod.snd hlast))
  rw [Text.width, String.toList_ofList, hfirst, hlast, hdots]
  rfl

/-- Characters that do not keep their widths. Bells have no width of their own, so any number of
them is left; a digit that a selector turns into a pictograph takes two columns instead of one. -/
theorem clipped_exceeds :
    let bells := String.ofList (List.replicate 50 '\x07')
    let keycaps := "1\uFE0F1\uFE0F1\uFE0F"
    let bell : Task := ⟨"1", "b", bells, none, .inbox, "P2", none, none, none, "d", "d"⟩
    clipped 48 bells = bells ++ ".." ∧ Text.width (clipped 48 bells) = 52 ∧
      (TaskTable.ofTasks [bell]).cellWidths "ID" "Title" = [2, 48] ∧
      (TaskTable.ofTasks [bell]).cellWidths bell.id bell.title = [2, 52] ∧
      clipped 4 keycaps = "1\uFE0F1\uFE0F.." ∧ Text.width (clipped 4 keycaps) = 6 := by
  intro bells keycaps bell
  have hbells : clipped 48 bells = bells ++ ".." := by decide +kernel
  have hwidth : Text.width (clipped 48 bells) = 52 := by decide +kernel
  have htable : TaskTable.ofTasks [bell] = ⟨2, 48⟩ := by decide +kernel
  have hheader := TaskTable.cellWidths_header screenWidth [bell]
  have hbell := TaskTable.cellWidths_task screenWidth (List.mem_singleton_self bell)
  rw [← TaskTable.ofTasks_eq_onScreen, htable] at hheader hbell
  rw [hwidth] at hbell
  rw [htable]
  exact ⟨hbells, hwidth, hheader, hbell, clipped_keycaps,
    (congrArg Text.width clipped_keycaps).trans width_keycaps⟩

end Terminal

end LiveBoard
