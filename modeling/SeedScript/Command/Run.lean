import SeedScript.Command.Options
import SeedScript.Config.Json
import SeedScript.Digest.Blake3
import SeedScript.Output
import SeedScript.Sql.Check

/-!
# Running a command line

The configuration is read, amended and validated; then the column map and the input are read, the
rows seeded, the SQL checked if that is asked for, and written. The first step that fails ends the
run, and only the last step changes a file.
-/

namespace SeedScript.Command

inductive Failure where
  | unreadable (path : String)
  | invalidColumnMap (path : String)
  | seeding (e : SeedError)
  deriving DecidableEq, Repr

def Failure.message : Failure → String
  | .unreadable path => "failed to read " ++ path
  | .invalidColumnMap path => "invalid column map " ++ path
  | .seeding e => e.message

/-- What a file holds, if it can be read. -/
abbrev ReadFile := String → Option Content

def readText (read : ReadFile) (path : String) : Except Failure String :=
  match (read path).bind Content.text? with
  | some text => .ok text
  | none => .error (.unreadable path)

namespace Options

/-- The configuration of a file, or the standard one, with what the options change. -/
def loadConfig (read : ReadFile) (o : Options) : Except Failure Config :=
  match o.config? with
  | none => .ok (o.amend .standard)
  | some path => do
    let text ← readText read path
    let c ← (Config.ofJson text).mapError .seeding
    return o.amend c

def hashFunction? (o : Options) : Option (String → String) :=
  match o.hash with
  | .off => none
  | .blake3 => some Digest.Blake3.hexDigest

def seeder (read : ReadFile) (o : Options) : Except Failure Seeder := do
  let c ← o.loadConfig read
  let s ← (Seeder.ofConfig c).mapError .seeding
  return { s with hash? := o.hashFunction? }

/-- The new names of columns. -/
def columnMap (read : ReadFile) (o : Options) : Except Failure (Record String) :=
  match o.columnMap? with
  | none => .ok .empty
  | some path => do
    let text ← readText read path
    match Json.document Json.stringsValue text with
    | .ok names => return .ofList names
    | .error _ => .error (.invalidColumnMap path)

/-- The source of rows in the input. -/
def source (read : ReadFile) (o : Options) : Except Failure Source := do
  let rename ← o.columnMap read
  match o.format with
  | .json => return .json (← readText read o.input)
  | .csv => return .csv (← readText read o.input) rename
  | .workbook =>
    match read o.input with
    | some content => return .workbook content.workbook? o.sheet? rename
    | none => .error (.unreadable o.input)

/-- The SQL of a run that has been checked, if that is asked for. -/
def checked (o : Options) (sql : String) : Except Failure String :=
  if o.check then ((Sql.check sql).map fun _ => sql).mapError .seeding else .ok sql

/-- The SQL that a command line asks for, with the warnings given on the way. -/
def sql (read : ReadFile) (o : Options) : List Warning × Except Failure String :=
  match (do return (← o.seeder read, ← o.source read) : Except Failure (Seeder × Source)) with
  | .error failure => ([], .error failure)
  | .ok (seeder, source) =>
    let seeded := seeder.seedFrom source o.target
    (seeded.warnings, (seeded.result.mapError .seeding).bind o.checked)

end Options

inductive Outcome where
  /-- The words are no command line. -/
  | usage
  | failed (failure : Failure)
  /-- The run has printed a text, which is empty when the output is a file. -/
  | succeeded (printed : String)
  deriving DecidableEq, Repr

def Outcome.exitCode : Outcome → Nat
  | .succeeded _ => 0
  | _ => 2

def Outcome.printed : Outcome → String
  | .succeeded text => text
  | _ => ""

/-- Puts generated SQL where the options ask for it. -/
def Options.deliver (o : Options) (fs : Files) (sql : String) : Outcome × Files :=
  match o.output? with
  | none => (.succeeded (Output.textOf sql), fs)
  | some path =>
    match Output.save fs path sql with
    | .ok fs => (.succeeded "", fs)
    | .error e => (.failed (.seeding e), fs)

/-- Runs a command line among some files. -/
def run (words : List String) (fs : Files) : Outcome × Files :=
  match Options.parse? words with
  | none => (.usage, fs)
  | some o =>
    match (o.sql fs.read?).2 with
    | .error failure => (.failed failure, fs)
    | .ok sql => o.deliver fs sql

end SeedScript.Command
