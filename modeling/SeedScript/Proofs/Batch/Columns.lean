import SeedScript.Proofs.Batch.Pairs

/-!
# What stands under a column

Under a column of the seeded table every row has what the role of the column makes of a text. Under
both columns of a junction table every row has a subquery of the lookup that the column was read as,
also when the two columns are one (`JunctionColumn.statementOf_looksUp`).
-/

namespace SeedScript

/-- Every row has a subquery of the lookup under the column. -/
def Statement.LooksUp (mode : LiteralMode) (s : Statement) (key : String) (l : Lookup) : Prop :=
  ∀ record ∈ s.rows, ∃ text, record.get? key = some (.subquery (l.subquery mode text))

variable {c : Config} {d : Delimiters} {schema table : String} {keys : List String}
  {rows : List Row}

/-! ## The seeded table -/

theorem RootColumn.role_eq_hashed_iff {column : RootColumn}
    (hof : RootColumn.ofKey d column.key = .ok column) :
    column.role = .hashed ↔ d.kind column.key = .hashed := by
  obtain ⟨-, hrole⟩ := ofKey_eq_ok_iff.1 hof
  cases hkind : d.kind column.key with
  | oneToMany =>
    rw [hkind] at hrole
    obtain ⟨l, -, hrole⟩ := hrole
    simp [hrole]
  | hashed =>
    rw [hkind] at hrole
    exact iff_of_true hrole rfl
  | plain =>
    rw [hkind] at hrole
    rw [show column.role = .literal from hrole]
    simp
  | manyToMany =>
    rw [hkind] at hrole
    rw [show column.role = .literal from hrole]
    simp

theorem Layout.rootStatement_looksUp {layout : Layout} (hnodup : keys.Nodup)
    (hlayout : Layout.ofKeys d schema table keys = .ok layout) {column : RootColumn}
    (hcolumn : column ∈ layout.root) {l : Lookup} (hrole : column.role = .lookup l) :
    (layout.rootStatement c schema table rows).LooksUp c.mode column.key l := by
  intro record hrecord
  obtain ⟨row, -, rfl⟩ := List.mem_map.1 hrecord
  refine ⟨row.text column.key, ?_⟩
  rw [get?_rootRecord (nodup_key_root hlayout hnodup) hcolumn, hrole]
  rfl

/-! ## Junction tables -/

namespace JunctionColumn

variable {column : JunctionColumn}

/-- Where both keys are one, so are the lookups, and the item's subquery is one of the owner's. -/
theorem exists_get?_join_ownerKey (hof : ofKey c.delimiters schema table column.key = .ok column)
    (mode : LiteralMode) (owner item : String) :
    ∃ text, (column.join mode owner item).get? column.junction.ownerKey =
      some (.subquery (column.owner.subquery mode text)) := by
  rw [get?_join_ownerKey]
  split
  · rename_i hkeys
    exact ⟨item, by rw [(ownerKey_eq_itemKey_iff hof).1 hkeys]⟩
  · exact ⟨owner, rfl⟩

theorem statementOf_looksUp (hof : ofKey c.delimiters schema table column.key = .ok column)
    (rows : List Row) :
    (column.statementOf c rows).LooksUp c.mode column.junction.ownerKey column.owner ∧
      (column.statementOf c rows).LooksUp c.mode column.junction.itemKey column.item := by
  constructor
  · intro record hrecord
    obtain ⟨row, -, token, -, rfl⟩ := mem_rows_statementOf.1 hrecord
    exact exists_get?_join_ownerKey hof c.mode _ token
  · intro record hrecord
    obtain ⟨row, -, token, -, rfl⟩ := mem_rows_statementOf.1 hrecord
    exact ⟨token, get?_join_itemKey c.mode column _ token⟩

end JunctionColumn

end SeedScript
