/-!
# Tables of code points

Tables of the Unicode standard are kept as text: words with blanks between them, each word one or
more code points in hexadecimal, joined by dashes.
-/

set_option autoImplicit false

namespace DynamicForms.Unicode

/-- The value of a hexadecimal digit written with capitals. -/
def digitValue (c : Char) : Nat :=
  if c.isDigit then c.toNat - '0'.toNat else c.toNat - 'A'.toNat + 10

/-- A table that is being read: the rows that are complete, the numbers of the current row and
the digits of the current number. -/
structure TableDraft where
  rows : Array (List Nat)
  row : List Nat
  number : Option Nat

namespace TableDraft

/-- Ends the number that is being read. -/
def endNumber (d : TableDraft) : TableDraft :=
  match d.number with
  | none => d
  | some n => { d with row := d.row ++ [n], number := none }

/-- Ends the row that is being read. -/
def endRow (d : TableDraft) : TableDraft :=
  let d := d.endNumber
  if d.row.isEmpty then d else { d with rows := d.rows.push d.row, row := [] }

/-- Reads one more character. -/
def read (d : TableDraft) (c : Char) : TableDraft :=
  if c = ' ' ∨ c = '\n' then d.endRow
  else if c = '-' then d.endNumber
  else { d with number := some (16 * d.number.getD 0 + digitValue c) }

end TableDraft

/-- The rows of a table. -/
def readTable (text : String) : Array (List Nat) :=
  (text.toList.foldl TableDraft.read ⟨#[], [], none⟩).endRow.rows

end DynamicForms.Unicode
