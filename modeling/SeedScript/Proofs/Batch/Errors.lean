import SeedScript.Proofs.Batch.ClosedForm

/-!
# Why a batch is not built

Each stage of a build fails in the first of its steps that does. A key is refused by the reading of
its segments, and a row for a cell that it lacks; nothing else stops a build.
-/

namespace SeedScript

variable {c : Config} {d : Delimiters} {schema table key : String} {keys : List String}
  {e : SeedError}

/-! ## Keys -/

theorem RootColumn.ofKey_eq_error_iff :
    RootColumn.ofKey d key = .error e ↔
      d.kind key = .oneToMany ∧ Lookup.ofKey d key = .error e := by
  unfold ofKey
  cases hkind : d.kind key with
  | oneToMany => cases Lookup.ofKey d key <;> simp [Except.map]
  | hashed => simp
  | plain => simp
  | manyToMany => simp

theorem JunctionColumn.ofKey_eq_error_iff :
    JunctionColumn.ofKey d schema table key = .error e ↔
      Junction.ofKey d schema table key = .error e ∨
        ∃ j, Junction.ofKey d schema table key = .ok j ∧
          (Lookup.ofKey d j.ownerKey = .error e ∨
            (∃ owner, Lookup.ofKey d j.ownerKey = .ok owner) ∧
              Lookup.ofKey d j.itemKey = .error e) := by
  unfold ofKey
  simp only [bind_eq_error_iff, pure, Except.pure, reduceCtorEq, and_false, exists_false, or_false,
    exists_and_right]

theorem Layout.ofKeys_eq_error_iff :
    Layout.ofKeys d schema table keys = .error e ↔
      (d.rootKeys keys).mapM (RootColumn.ofKey d) = .error e ∨
        (∃ root, (d.rootKeys keys).mapM (RootColumn.ofKey d) = .ok root) ∧
          (d.junctionKeys keys).mapM (JunctionColumn.ofKey d schema table) = .error e := by
  unfold ofKeys
  simp only [bind_eq_error_iff, pure, Except.pure, reduceCtorEq, and_false, exists_false, or_false,
    exists_and_right]

/-! ## Cells -/

theorem RootColumn.cell_eq_error_iff {mode : LiteralMode} {row : Row} {index : Nat}
    {column : RootColumn} :
    RootColumn.cell mode row index column = .error e ↔
      column.key ∉ row.keys ∧ e = .missingCell index column.key := by
  rw [← Row.cell_eq_error_iff, cell]
  cases row.cell index column.key <;> simp [Except.map]

theorem JunctionColumn.rows_eq_error_iff {row : Row} {index : Nat} {column : JunctionColumn} :
    JunctionColumn.rows c row index column = .error e ↔
      column.key ∉ row.keys ∧ e = .missingCell index column.key ∨
        column.key ∈ row.keys ∧ column.junction.firstSearchKey ∉ row.keys ∧
          e = .missingCell index column.junction.firstSearchKey := by
  unfold rows
  simp only [bind_eq_error_iff, Row.cell_eq_error_iff, Row.cell_eq_ok_iff, pure, Except.pure,
    reduceCtorEq, and_false, exists_false, or_false, exists_and_right, exists_and_left,
    exists_eq, and_true]

theorem Layout.expand_eq_error {layout : Layout} {row : Row} {index : Nat}
    (h : layout.expand c row index = .error e) : ∃ key, e = .missingCell index key := by
  unfold expand at h
  rcases bind_eq_error_iff.1 h with h | ⟨root, -, h⟩
  · obtain ⟨-, column, -, -, -, hcell⟩ := mapM_eq_error_iff.1 h
    exact ⟨_, (RootColumn.cell_eq_error_iff.1 hcell).2⟩
  · rcases bind_eq_error_iff.1 h with h | ⟨junctions, -, h⟩
    · obtain ⟨-, column, -, -, -, hrows⟩ := mapM_eq_error_iff.1 h
      rcases JunctionColumn.rows_eq_error_iff.1 hrows with ⟨-, h⟩ | ⟨-, -, h⟩
      · exact ⟨_, h⟩
      · exact ⟨_, h⟩
    · cases h

/-- A build that is not stopped by a missing cell is stopped by the keys of its first row. -/
theorem Batch.ofKeys_eq_error_of_ofRows {first : Row} {rest : List Row}
    (h : Batch.ofRows c schema table (first :: rest) = .error e)
    (hcell : ∀ index key, e ≠ .missingCell index key) :
    Layout.ofKeys c.delimiters schema table first.keys = .error e := by
  unfold ofRows at h
  rcases bind_eq_error_iff.1 h with h | ⟨layout, -, h⟩
  · exact h
  · rcases bind_eq_error_iff.1 h with h | ⟨expansions, -, h⟩
    · obtain ⟨-, row, -, -, -, hexpand⟩ := mapM_eq_error_iff.1 h
      obtain ⟨key, he⟩ := Layout.expand_eq_error hexpand
      exact absurd he (hcell _ key)
    · cases h

end SeedScript
