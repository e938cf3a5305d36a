import SeedScript.Error
import SeedScript.Literal

/-!
# Configuration

A configuration is usable when no delimiter is empty and the one-to-many delimiter does not contain
the many-to-many delimiter: many-to-many keys are recognised first, and would take every
one-to-many key otherwise.
-/

namespace SeedScript

/-- Delimiters and the way literals are written. -/
structure Config where
  delimiters : Delimiters
  /-- Separates the items of a many-to-many cell. -/
  rowItemDelimiter : String
  mode : LiteralMode
  deriving DecidableEq, Repr

namespace Config

/-- Two stars, three stars, a bar, and compat mode. -/
def standard : Config := ⟨.standard, "|", .compat⟩

def fault? (c : Config) : Option ConfigFault :=
  if c.delimiters.oneToMany.isEmpty then some (.emptyDelimiter .oneToMany)
  else if c.delimiters.manyToMany.isEmpty then some (.emptyDelimiter .manyToMany)
  else if c.rowItemDelimiter.isEmpty then some (.emptyDelimiter .rowItem)
  else if Text.contains c.delimiters.oneToMany c.delimiters.manyToMany then
    some (.overlapping c.delimiters)
  else none

def Valid (c : Config) : Prop := c.fault? = none

instance (c : Config) : Decidable c.Valid := inferInstanceAs (Decidable (_ = _))

theorem valid_standard : standard.Valid := by decide

/-- A configuration is usable when its delimiters are not empty and the first does not contain the
second. -/
theorem valid_iff (c : Config) :
    c.Valid ↔ c.delimiters.oneToMany ≠ "" ∧ c.delimiters.manyToMany ≠ "" ∧
      c.rowItemDelimiter ≠ "" ∧
      ¬ c.delimiters.manyToMany.toList <:+: c.delimiters.oneToMany.toList := by
  unfold Valid fault?
  simp only [← Text.contains_iff, String.isEmpty_iff]
  by_cases h1 : c.delimiters.oneToMany = "" <;> simp [h1]
  by_cases h2 : c.delimiters.manyToMany = "" <;> simp [h2]
  by_cases h3 : c.rowItemDelimiter = "" <;> simp [h3]

def validate (c : Config) : Except SeedError Unit :=
  match c.fault? with
  | some fault => .error (.invalidConfig fault)
  | none => .ok ()

theorem validate_eq_ok_iff (c : Config) : c.validate = .ok () ↔ c.Valid := by
  unfold validate Valid
  cases h : c.fault? <;> simp

end Config

end SeedScript
