import SeedScript.Command.Run

/-!
# The program

Reads the files that the command line names, asks `Options.sql` for the SQL, and prints or writes
it. Workbooks are taken unpacked, which no file on a disk is, so a workbook on a disk is refused.
-/

namespace SeedScript.Program

open Command

def readFile (path : String) : IO (Option Content) := do
  try
    let bytes ← IO.FS.readBinFile path
    return some (.bytes bytes.toList)
  catch _ => return none

/-- The folder of a path, if the path names one. -/
def folder? (path : String) : Option String :=
  match (Files.names path).dropLast with
  | [] => none
  | names => some ("/".intercalate names)

/-- Writes a file, and makes the folders that lead to it. -/
def writeFile (path text : String) : IO Bool := do
  try
    match folder? path with
    | some folder => if folder != "" then IO.FS.createDirAll folder
    | none => pure ()
    IO.FS.writeFile path text
    return true
  catch _ => return false

def fail (failure : Failure) : IO UInt32 := do
  IO.eprintln ("Error: " ++ failure.message)
  return 2

/-- Tells of a text that is written as an SQL expression. -/
def warn (w : Warning) : IO Unit :=
  IO.eprintln ("WARN " ++ w.table ++ "." ++ w.column ++
    ": emitting literal containing '(' unquoted as SQL: " ++ w.text)

def runOptions (o : Options) : IO UInt32 := do
  let contents ← o.readPaths.mapM fun path => do
    if o.verbose then IO.eprintln ("DEBUG reading " ++ path)
    return (path, ← readFile path)
  let (warnings, result) := o.sql fun path => (contents.lookup path).join
  warnings.forM warn
  match result, o.output? with
  | .error failure, _ => fail failure
  | .ok sql, none => do
    IO.print (Output.textOf sql)
    return 0
  | .ok sql, some path => do
    if ← writeFile path (Output.textOf sql) then return 0
    else fail (.seeding .unwritable)

end SeedScript.Program

def main (words : List String) : IO UInt32 :=
  match SeedScript.Command.Options.parse? words with
  | some o => SeedScript.Program.runOptions o
  | none => do
    IO.eprintln "error: the arguments are not a command line of this program"
    return 2
