import SeedScript.Batch.Expansion
import SeedScript.Sql.Style
import SeedScript.FunctionCall
import SeedScript.Source

/-!
# Seeding

A seeder holds a usable configuration and perhaps a hash function. It turns rows into the SQL that
seeds a table, or that calls a function with them.
-/

namespace SeedScript

/-- What rows are for. -/
inductive Target where
  | table (schema table : String)
  | function (name : String)
  deriving DecidableEq, Repr

/-- A usable configuration and a hash function. -/
structure Seeder where
  config : Config
  hash? : Option (String → String)
  valid : config.Valid

namespace Seeder

/-- The seeder of a configuration, without a hash function. -/
def ofConfig (c : Config) : Except SeedError Seeder :=
  match h : c.fault? with
  | some fault => .error (.invalidConfig fault)
  | none => .ok ⟨c, none, h⟩

def withHash (s : Seeder) (hash : String → String) : Seeder := { s with hash? := some hash }

def style (s : Seeder) : SqlStyle := ⟨s.config.delimiters, s.config.mode, s.hash?⟩

/-- The statements for rows of a table, which must have a name. -/
def batch (s : Seeder) (schema table : String) (rows : List Row) : Except SeedError Batch :=
  if table.isEmpty then .error .missingTable else Batch.ofRows s.config schema table rows

def seed (s : Seeder) (rows : List Row) : Target → Logged String
  | .function name => .ofExcept (functionCall name rows)
  | .table schema table => do
    let b ← Logged.ofExcept (s.batch schema table rows)
    s.style.batch b

/-- The SQL for the rows of a source. -/
def seedFrom (s : Seeder) (source : Source) (target : Target) : Logged String := do
  let rows ← Logged.ofExcept source.rows
  s.seed rows target

end Seeder

end SeedScript
