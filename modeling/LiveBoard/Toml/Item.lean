/-!
# TOML documents

The tree that a TOML document stands for. A table remembers how it came into being, because that
decides who may add to it: a table that was only mentioned on the way to another one may still get
a header of its own, and a table made by dotted keys may be prolonged by dotted keys.

## Main definitions

* `Toml.Item`: what a key stands for.
* `Toml.insertDotted`, `Toml.openTable`, `Toml.pushTable`: how a document grows.
-/

namespace LiveBoard.Toml

/-- How a table came into being. -/
inductive Origin
  /-- It has a header of its own. -/
  | header
  /-- It is on the way to a table with a header. -/
  | mentioned
  /-- It is on the way to a dotted key. -/
  | dotted
  /-- It is a value between braces. -/
  | braces
  deriving Repr, DecidableEq

/-- What a key stands for. Of floats and moments only the fact is kept. -/
inductive Item
  | string (s : String)
  | integer (n : Int)
  | float
  | boolean (b : Bool)
  | moment
  | array (items : List Item)
  | table (origin : Origin) (members : List (String × Item))
  /-- Tables whose headers stand in double brackets, the last one first. -/
  | tables (rows : List (List (String × Item)))
  deriving Repr, Inhabited

/-- The members of a table, in the order in which they were written. -/
abbrev Members := List (String × Item)

/-- What a key stands for in a table. -/
def lookup (key : String) (ms : Members) : Option Item :=
  (ms.find? fun m => m.1 == key).map (·.2)

/-- The table with a key that stands for something else than before, or that is new. -/
def assign (key : String) (item : Item) : Members → Members
  | [] => [(key, item)]
  | (k, i) :: ms => if k = key then (k, item) :: ms else (k, i) :: assign key item ms

/-- Changes the table at the end of a path of keys. The tables on the way are made, with the given
origin, where they are missing. Of tables in double brackets the last one is meant. Dotted keys do
not lead into a table with a header of its own, and nothing leads into a value. -/
def within (origin : Origin) (change : Origin → Members → Option Members) :
    List String → Origin → Members → Option Members
  | [], here, ms => change here ms
  | key :: path, _, ms =>
    match lookup key ms with
    | none => (within origin change path origin []).map fun inner =>
      assign key (.table origin inner) ms
    | some (.table there inner) =>
      if there = .braces || (origin = .dotted && there = .header) then none
      else (within origin change path there inner).map fun inner =>
        assign key (.table there inner) ms
    | some (.tables (row :: rows)) =>
      (within origin change path .header row).map fun row => assign key (.tables (row :: rows)) ms
    | some _ => none

/-- Adds a key with its value to the table that is being written. Behind dots, the table at the
end must be one that dotted keys have made. -/
def insertDotted (path : List String) (key : String) (item : Item) (ms : Members) :
    Option Members :=
  within .dotted
    (fun here inner =>
      if here = .dotted || path.isEmpty then
        match lookup key inner with
        | none => some (assign key item inner)
        | some _ => none
      else none)
    path .header ms

/-- One line of a table: a key behind its path, and what it stands for. -/
structure Line where
  path : List String
  key : String
  item : Item
  deriving Repr

/-- Adds lines to the table that is being written. -/
def insertLines (lines : List Line) (ms : Members) : Option Members :=
  lines.foldlM (fun ms line => insertDotted line.path line.key line.item ms) ms

/-- The table at a header, with the lines under it. A table may have only one header. -/
def openTable (path : List String) (key : String) (lines : List Line) (root : Members) :
    Option Members :=
  within .mentioned
    (fun _ ms =>
      match lookup key ms with
      | none => (insertLines lines []).map fun inner => assign key (.table .header inner) ms
      | some (.table .mentioned inner) =>
        (insertLines lines inner).map fun inner => assign key (.table .header inner) ms
      | some _ => none)
    path .header root

/-- One more table at a header in double brackets, with the lines under it. -/
def pushTable (path : List String) (key : String) (lines : List Line) (root : Members) :
    Option Members :=
  within .mentioned
    (fun _ ms => do
      let row ← insertLines lines []
      match lookup key ms with
      | none => some (assign key (.tables [row]) ms)
      | some (.tables rows) => some (assign key (.tables (row :: rows)) ms)
      | some _ => none)
    path .header root

/-- A part of a document: the lines before the first header, or those under a header. -/
structure Section where
  /-- The header, and whether it stands in double brackets. -/
  header : Option (Bool × List String × String)
  lines : List Line
  deriving Repr

/-- Adds a part to a document. -/
def Section.addTo (s : Section) (root : Members) : Option Members :=
  match s.header with
  | none => insertLines s.lines root
  | some (true, path, key) => pushTable path key s.lines root
  | some (false, path, key) => openTable path key s.lines root

/-- The document of a list of parts. -/
def ofSections (sections : List Section) : Option Members :=
  sections.foldlM (fun root s => s.addTo root) []

end LiveBoard.Toml
