import SeedScript.Proofs.Seeder.Runs
import SeedScript.Sql.Check

/-!
# Errors after the configuration

Once there is a seeder, its configuration is not looked at for faults again: what can go wrong with
a source, with its rows and with the SQL is never that the configuration cannot be used
(`Source.sparesConfig_rows`, `Seeder.sparesConfig_seed`, `Sql.sparesConfig_check`).
-/

namespace SeedScript

/-- The error is not about a configuration. -/
def SeedError.SparesConfig : SeedError → Prop
  | .invalidConfig _ => False
  | _ => True

/-! ## Sources -/

theorem Json.sparesConfig_rows (text : String) : FailsOnly SeedError.SparesConfig (rows text) := by
  unfold rows
  split
  · exact .error trivial
  · refine .mapM (fun object => .map (.mapM (fun cell => .map ?_ _) _) _) _
    unfold cellText
    split
    · exact .ok _
    · exact .error trivial

theorem Table.sparesConfig_rows (columns : List String) (records : List (List String)) :
    FailsOnly SeedError.SparesConfig (rows columns records) := by
  unfold rows
  split
  · exact .error trivial
  · exact .ok _

theorem Csv.sparesConfig_rows (rename : Record String) (text : String) :
    FailsOnly SeedError.SparesConfig (rows rename text) := by
  unfold rows
  split
  · exact .error trivial
  · exact Table.sparesConfig_rows _ _

theorem SheetCell.sparesConfig_text? (cell : SheetCell) :
    FailsOnly SeedError.SparesConfig cell.text? := by
  unfold text?
  split
  · exact .ok _
  · exact .ok _
  · exact .ok _
  · split
    · exact .ok _
    · split
      · exact .ok _
      · exact .error trivial
  · split
    · exact .ok _
    · exact .error trivial

theorem Sheet.sparesConfig_loadRows (rename : Record String) (sheet : Sheet) :
    FailsOnly SeedError.SparesConfig (sheet.loadRows rename) := by
  unfold loadRows
  refine .bind (.mapM (fun row => .mapM SheetCell.sparesConfig_text? row) _) fun cells => ?_
  unfold tableRows
  split
  · exact .error trivial
  · exact Table.sparesConfig_rows _ _

theorem Workbook.sparesConfig_rows (sheet? : Option String) (rename : Record String)
    (w : Workbook) : FailsOnly SeedError.SparesConfig (w.rows sheet? rename) := by
  unfold rows
  refine .bind ?_ fun sheet => sheet.sparesConfig_loadRows rename
  unfold selectSheet
  split
  · split
    · exact .ok _
    · exact .error trivial
  · split
    · exact .ok _
    · exact .error trivial

theorem Source.sparesConfig_rows (source : Source) :
    FailsOnly SeedError.SparesConfig source.rows := by
  unfold rows
  split
  · exact Json.sparesConfig_rows _
  · exact Csv.sparesConfig_rows _ _
  · exact Workbook.sparesConfig_rows _ _ _
  · exact .error trivial

/-! ## Seeding and checking -/

theorem Batch.sparesConfig_fault? {d : Delimiters} {schema table : String} {rows : List Row}
    {e : SeedError} (h : fault? d schema table rows = some e) : e.SparesConfig := by
  cases rows with
  | nil =>
    cases h
    trivial
  | cons first rest =>
    rw [fault?_cons] at h
    rcases Option.or_eq_some_iff.1 h with h | ⟨-, h⟩
    · obtain ⟨kind, key, found, rfl⟩ := keyFault?_eq_some h
      trivial
    · obtain ⟨index, key, rfl⟩ := rowFault?_eq_some h
      trivial

theorem Seeder.sparesConfig_seed (s : Seeder) (rows : List Row) (target : Target) :
    FailsOnly SeedError.SparesConfig (s.seed rows target).result := by
  cases target with
  | function name =>
    show FailsOnly _ (functionCall name rows)
    unfold functionCall
    split
    · exact .error trivial
    · exact .ok _
  | table schema table =>
    intro e he
    have hfault := (s.failsWith_seed schema table rows e).1 he
    unfold fault? at hfault
    split at hfault
    · cases hfault
      trivial
    · rcases Option.or_eq_some_iff.1 hfault with h | ⟨-, h⟩
      · exact Batch.sparesConfig_fault? h
      · obtain ⟨-, before, key, after, -, -, -, rfl⟩ :=
          SqlStyle.findSome?_hashFault?_eq_some_iff.1 h
        trivial

theorem Sql.sparesConfig_check (text : String) :
    FailsOnly SeedError.SparesConfig (check text) := by
  unfold check
  split
  · exact .ok _
  · exact .error trivial

end SeedScript
