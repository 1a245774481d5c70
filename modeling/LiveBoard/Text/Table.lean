/-!
# Tables of characters

The data of the Unicode standard is kept as text: words of hexadecimal numbers with commas between
them, sorted by their first number. Looking a character up takes a binary search.

## Main definitions

* `Text.Table.ofText`: the rows of a table.
* `Text.Table.rowAt?`: the last row that begins at or before a number.
* `Text.Table.covers`: membership in the ranges of a table.
-/

namespace LiveBoard.Text.Table

/-- The value of a hexadecimal digit in upper case. -/
def digitValue (c : Char) : Nat :=
  if c.isDigit then c.toNat - '0'.toNat else c.toNat - 'A'.toNat + 10

/-- A table in the making: finished rows, finished numbers of the row, and the number under way,
the latest first. -/
structure Draft where
  rows : Array (List Nat)
  row : List Nat
  number : Option Nat

/-- The draft with its number finished. -/
def Draft.endNumber (d : Draft) : Draft :=
  match d.number with
  | some n => { d with row := n :: d.row, number := none }
  | none => d

/-- The draft with its row finished. -/
def Draft.endRow (d : Draft) : Draft :=
  let d := d.endNumber
  if d.row.isEmpty then d else { d with rows := d.rows.push d.row.reverse, row := [] }

/-- One more character of the text of a table. -/
def Draft.read (d : Draft) (c : Char) : Draft :=
  if c = ' ' || c = '\n' then d.endRow
  else if c = ',' then d.endNumber
  else { d with number := some (d.number.getD 0 * 16 + digitValue c) }

/-- The rows of a table. -/
def ofText (s : String) : Array (List Nat) :=
  (s.toList.foldl Draft.read ⟨#[], [], none⟩).endRow.rows

/-- The last of the `count` rows from `low` on that begins at or before `n`, found in a number of
steps: each step halves the rows that are left. -/
def search (table : Array (List Nat)) (n : Nat) : Nat → Nat → Nat → Option (List Nat)
  | 0, _, _ => none
  | steps + 1, low, count =>
    if count = 0 then none
    else if count = 1 then
      match table[low]? with
      | some (first :: rest) => if first ≤ n then some (first :: rest) else none
      | _ => none
    else
      let half := count / 2
      match table[low + half]? with
      | some (first :: _) =>
        if first ≤ n then search table n steps (low + half) (count - half)
        else search table n steps low half
      | _ => none

/-- The last row that begins at or before `n`. -/
def rowAt? (table : Array (List Nat)) (n : Nat) : Option (List Nat) :=
  search table n table.size 0 table.size

/-- Whether `n` lies in one of the ranges of a table, which include both ends. -/
def covers (table : Array (List Nat)) (n : Nat) : Bool :=
  match rowAt? table n with
  | some (_ :: last :: _) => n ≤ last
  | _ => false

end LiveBoard.Text.Table
