import LiveBoard.Text.Table

/-!
# Rows of tables

A table of characters is read from its text with a draft at hand, and looked up by halving. What a
reader of the text sees is simpler: the rows stand one behind the other, and a number that the
table covers lies between the ends of one of them. So whether two tables have a number in common
can be told from their rows.

## Main definitions

* `Table.rowsFrom`: the rows of a text, from the front.
* `Table.isInside`: a row lies between the ends of another one.
* `Table.areApart`: no number lies in rows of both lists.

## Main results

* `Table.toList_ofText`: the rows of a table.
* `Table.exists_row_of_covers`: where a covered number lies.
* `Table.covers_eq_false`: numbers in rows that are apart from a table are not covered.
-/

namespace LiveBoard.Text.Table

/-! ### The rows of a text -/

/-- The finished row, if there is anything in it. -/
def finished (row : List Nat) (number : Option Nat) : List (List Nat) :=
  match number.toList ++ row with
  | [] => []
  | n :: ns => [(n :: ns).reverse]

/-- The rows of a text, of which the numbers of a row and a part of a number have been read. -/
def rowsFrom (row : List Nat) (number : Option Nat) : List Char → List (List Nat)
  | [] => finished row number
  | c :: cs =>
    if c = ' ' || c = '\n' then finished row number ++ rowsFrom [] none cs
    else if c = ',' then rowsFrom (number.toList ++ row) none cs
    else rowsFrom row (some (number.getD 0 * 16 + digitValue c)) cs

/-- A row that ends stands behind the rows before it. -/
theorem Draft.endRow_eq (d : Draft) :
    d.endRow = ⟨d.rows ++ (finished d.row d.number).toArray, [], none⟩ := by
  obtain ⟨rows, row, number⟩ := d
  cases number <;> cases row <;> simp [endRow, endNumber, finished]

theorem Draft.endNumber_eq (d : Draft) :
    d.endNumber = ⟨d.rows, d.number.toList ++ d.row, none⟩ := by
  obtain ⟨rows, row, number⟩ := d
  cases number <;> rfl

theorem toList_foldl_read (cs : List Char) (d : Draft) :
    (cs.foldl Draft.read d).endRow.rows.toList = d.rows.toList ++ rowsFrom d.row d.number cs := by
  induction cs generalizing d with
  | nil => simp [Draft.endRow_eq, rowsFrom]
  | cons c cs ih =>
    rw [List.foldl_cons, ih, Draft.read, rowsFrom]
    split
    · simp [Draft.endRow_eq]
    · split
      · rw [Draft.endNumber_eq]
      · rfl

/-- **The rows of a table** are those of its text. -/
theorem toList_ofText (cs : List Char) :
    (ofText (String.ofList cs)).toList = rowsFrom [] none cs := by
  rw [ofText, String.toList_ofList, toList_foldl_read]
  rfl

theorem ofText_eq (cs : List Char) : ofText (String.ofList cs) = (rowsFrom [] none cs).toArray :=
  Array.toList_inj.mp (toList_ofText cs)

/-! ### The rows that are looked up -/

theorem mem_of_search {table : Array (List Nat)} {n : Nat} {steps low count : Nat}
    {row : List Nat} (h : search table n steps low count = some row) :
    row ∈ table.toList ∧ ∃ first rest, row = first :: rest ∧ first ≤ n := by
  induction steps generalizing low count with
  | zero => cases h
  | succ steps ih =>
    rw [search] at h
    split at h
    · cases h
    · split at h
      · split at h
        · next first rest hrow =>
          split at h
          · next hle =>
            cases h
            exact ⟨Array.mem_toList_iff.mpr (Array.mem_of_getElem? hrow), first, rest, rfl, hle⟩
          · cases h
        · cases h
      · simp only at h
        split at h
        · split at h
          · exact ih h
          · exact ih h
        · cases h

/-- **Where a covered number lies:** between the ends of a row. -/
theorem exists_row_of_covers {table : Array (List Nat)} {n : Nat} (h : covers table n = true) :
    ∃ first last rest, first :: last :: rest ∈ table.toList ∧ first ≤ n ∧ n ≤ last := by
  rw [covers] at h
  split at h
  · next first last rest hrow =>
    obtain ⟨hmem, first', rest', heq, hle⟩ := mem_of_search hrow
    cases heq
    exact ⟨first, last, rest, hmem, hle, by simpa using h⟩
  · cases h

/-! ### Comparing rows -/

/-- The first row lies between the ends of the second one. -/
def isInside : List Nat → List Nat → Bool
  | first :: last :: _, first' :: last' :: _ => Nat.ble first' first && Nat.ble last last'
  | _, _ => false

/-- Where a covered number lies, if the rows of the table are inside wider ones. -/
theorem exists_row_of_inside {table : Array (List Nat)} {rows : List (List Nat)}
    (h : table.toList.all (fun row => rows.any (isInside row)) = true) {n : Nat}
    (hn : covers table n = true) :
    ∃ first last rest, first :: last :: rest ∈ rows ∧ first ≤ n ∧ n ≤ last := by
  obtain ⟨first, last, rest, hrow, hfirst, hlast⟩ := exists_row_of_covers hn
  obtain ⟨row, hmem, hinside⟩ := List.any_eq_true.mp (List.all_eq_true.mp h _ hrow)
  match row with
  | first' :: last' :: rest' =>
    simp only [isInside, Bool.and_eq_true, Nat.ble_eq] at hinside
    exact ⟨first', last', rest', hmem, Nat.le_trans hinside.1 hfirst, Nat.le_trans hlast hinside.2⟩
  | [] | [_] => cases hinside

/-- No number lies in both rows. -/
def isApart : List Nat → List Nat → Bool
  | first :: last :: _, first' :: last' :: _ => Nat.blt last first' || Nat.blt last' first
  | _, _ => true

/-- No number lies in rows of both lists. -/
def areApart (rows rows' : List (List Nat)) : Bool :=
  rows.all fun row => rows'.all fun row' => isApart row row'

/-- **Numbers in rows that are apart** from those of a table are not covered. -/
theorem covers_eq_false {table : Array (List Nat)} {rows : List (List Nat)}
    (h : areApart table.toList rows = true) {first last n : Nat} {rest : List Nat}
    (hrow : first :: last :: rest ∈ rows) (hfirst : first ≤ n) (hlast : n ≤ last) :
    covers table n = false := by
  refine Bool.eq_false_iff.mpr fun hcovers => ?_
  obtain ⟨first', last', rest', hrow', hfirst', hlast'⟩ := exists_row_of_covers hcovers
  have hapart := List.all_eq_true.mp (List.all_eq_true.mp h _ hrow') _ hrow
  simp only [isApart, Bool.or_eq_true, Nat.blt_eq] at hapart
  omega

end LiveBoard.Text.Table
