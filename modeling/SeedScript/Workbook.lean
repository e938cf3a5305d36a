import SeedScript.Decimal.Reader
import SeedScript.Decimal.Shortest
import SeedScript.Table

/-!
# Workbooks

A workbook is a list of named sheets, and a sheet is read as a table. Only the smallest rectangle
that holds every present cell is seen, and its first row is the header, up to the last cell that is
not blank. A sheet with an unreadable cell anywhere is refused.
-/

namespace SeedScript

/-- What a sheet stores for a cell. -/
inductive SheetCell where
  | absent
  | text (s : String)
  | boolean (b : Bool)
  | number (spelling : String)
  | error (code : String)
  deriving DecidableEq, Repr

/-- A sheet, with its cells from the upper left corner. -/
structure Sheet where
  name : String
  rows : List (List SheetCell)
  deriving DecidableEq, Repr

structure Workbook where
  sheets : List Sheet
  deriving DecidableEq, Repr

namespace SheetCell

def errorCodes : List String :=
  ["#DIV/0!", "#N/A", "#NAME?", "#NULL!", "#NUM!", "#REF!", "#VALUE!"]

/-- The text of a cell, when it is present. -/
def text? : SheetCell → Except SeedError (Option String)
  | .absent => .ok none
  | .text s => .ok (some s)
  | .boolean b => .ok (some (if b then "true" else "false"))
  | .number spelling =>
    if spelling.isEmpty then .ok none
    else
      match Decimal.read? spelling with
      | some n => .ok (some n.text)
      | none => .error .workbook
  | .error code => if errorCodes.contains code then .ok (some code) else .error .workbook

end SheetCell

namespace Sheet

def isEmptyRow (row : List (Option String)) : Bool := row.all Option.isNone

/-- The rows from the first to the last one that has a cell. -/
def trimRows (rows : List (List (Option String))) : List (List (Option String)) :=
  ((rows.dropWhile isEmptyRow).reverse.dropWhile isEmptyRow).reverse

/-- The column of the first cell of a row, if it has one. -/
def firstCell? (row : List (Option String)) : Option Nat := row.findIdx? Option.isSome

/-- How many columns a row needs for its last cell. -/
def width (row : List (Option String)) : Nat :=
  (row.reverse.dropWhile Option.isNone).length

/-- The smallest rectangle that holds every cell; absent cells in it are empty. -/
def usedRange (rows : List (List (Option String))) : List (List String) :=
  let rows := trimRows rows
  let left := ((rows.filterMap firstCell?).min?).getD 0
  let right := ((rows.map width).max?).getD 0
  rows.map fun row => (List.range' left (right - left)).map fun j => (row.getD j none).getD ""

/-- The header cells up to the last one that is not blank. -/
def header (cells : List String) : List String :=
  (cells.reverse.dropWhile fun cell => (Text.trim cell).isEmpty).reverse

/-- The rows of a table whose first row is the header. -/
def tableRows (rename : Record String) : List (List String) → Except SeedError (List Row)
  | [] => .error .emptyInput
  | first :: records => Table.rows ((header first).map (Table.columnKey rename)) records

def loadRows (rename : Record String) (sheet : Sheet) : Except SeedError (List Row) := do
  let cells ← sheet.rows.mapM fun row => row.mapM SheetCell.text?
  tableRows rename (usedRange cells)

end Sheet

namespace Workbook

/-- The sheet to read: the named one, or the first. -/
def selectSheet (w : Workbook) : (name? : Option String) → Except SeedError Sheet
  | some name =>
    match w.sheets.find? fun sheet => sheet.name == name with
    | some sheet => .ok sheet
    | none => .error .workbook
  | none =>
    match w.sheets.head? with
    | some sheet => .ok sheet
    | none => .error .emptyInput

/-- The rows that a workbook holds in one of its sheets. -/
def rows (name? : Option String) (rename : Record String) (w : Workbook) :
    Except SeedError (List Row) := do
  let sheet ← w.selectSheet name?
  sheet.loadRows rename

end Workbook

end SeedScript
