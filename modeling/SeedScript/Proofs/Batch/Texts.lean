import SeedScript.Proofs.Batch.ClosedForm
import SeedScript.Proofs.Sql.Rendering

/-!
# The text of the rows of a batch

A row of the seeded table is written with the cells of its columns. A junction row is written with
the subqueries of its owner and its item, provided that they stand under two keys.
-/

namespace SeedScript

variable {c : Config} {style : SqlStyle}

theorem Layout.rowText_rootRecord {layout : Layout} {mode : LiteralMode}
    (h : (layout.root.map RootColumn.key).Nodup) (row : Row) :
    style.rowText (layout.root.map RootColumn.key) (layout.rootRecord mode row) =
      SqlStyle.tuple (layout.root.map fun column =>
        style.cellText (column.role.resolve mode (row.text column.key))) := by
  unfold SqlStyle.rowText
  rw [List.map_map]
  congr 1
  refine List.map_congr_left fun column hcolumn => ?_
  exact SqlStyle.textAt_of_get? (get?_rootRecord h hcolumn)

theorem Layout.map_rowText_rootStatement {layout : Layout} {schema table : String}
    (h : (layout.root.map RootColumn.key).Nodup) (rows : List Row) :
    (layout.rootStatement c schema table rows).rows.map
        (style.rowText (layout.rootStatement c schema table rows).columns) =
      rows.map fun row => SqlStyle.tuple (layout.root.map fun column =>
        style.cellText (column.role.resolve c.mode (row.text column.key))) := by
  show (rows.map (layout.rootRecord c.mode)).map
    (style.rowText (layout.root.map RootColumn.key)) = _
  rw [List.map_map]
  exact List.map_congr_left fun row _ => rowText_rootRecord h row

namespace JunctionColumn

variable {column : JunctionColumn}

theorem mem_rows_statementOf {rows : List Row} {record : Record Cell} :
    record ∈ (column.statementOf c rows).rows ↔ ∃ row ∈ rows,
      ∃ token ∈ Text.split c.rowItemDelimiter (row.text column.key),
        record = column.join c.mode (row.text column.junction.firstSearchKey) token := by
  simp only [statementOf, records, List.mem_flatMap, List.mem_map, eq_comm]

/-! ## The two cells of a junction row -/

/-- Where the two keys are one, the item takes the place of the owner. -/
theorem get?_join_ownerKey (mode : LiteralMode) (column : JunctionColumn) (owner item : String) :
    (column.join mode owner item).get? column.junction.ownerKey =
      some (.subquery
        (if column.junction.ownerKey = column.junction.itemKey then column.item.subquery mode item
          else column.owner.subquery mode owner)) := by
  rw [join, Record.get?_ofList_pair]
  split
  · rfl
  · rw [if_pos rfl]

theorem get?_join_itemKey (mode : LiteralMode) (column : JunctionColumn) (owner item : String) :
    (column.join mode owner item).get? column.junction.itemKey =
      some (.subquery (column.item.subquery mode item)) := by
  rw [join, Record.get?_ofList_pair, if_pos rfl]

/-- The text of the owner and the token, for each junction row. -/
def joined (itemDelimiter : String) (column : JunctionColumn) (row : Row) :
    List (String × String) :=
  (Text.split itemDelimiter (row.text column.key)).map
    (Prod.mk (row.text column.junction.firstSearchKey))

theorem rows_statementOf (rows : List Row) :
    (column.statementOf c rows).rows = (rows.flatMap (column.joined c.rowItemDelimiter)).map
      fun p => column.join c.mode p.1 p.2 := by
  rw [List.map_flatMap]
  refine List.flatMap_congr fun row _ => ?_
  rw [joined, List.map_map]
  rfl

section Distinct

variable (hne : column.junction.ownerKey ≠ column.junction.itemKey)

include hne

theorem get?_join (mode : LiteralMode) (owner item : String) :
    (column.join mode owner item).get? column.junction.ownerKey =
        some (.subquery (column.owner.subquery mode owner)) ∧
      (column.join mode owner item).get? column.junction.itemKey =
        some (.subquery (column.item.subquery mode item)) := by
  rw [get?_join_ownerKey, if_neg hne]
  exact ⟨rfl, get?_join_itemKey mode column owner item⟩

theorem rowText_join (mode : LiteralMode) (owner item : String) :
    style.rowText [column.junction.ownerKey, column.junction.itemKey]
        (column.join mode owner item) =
      SqlStyle.tuple [column.owner.subquery mode owner, column.item.subquery mode item] := by
  obtain ⟨howner, hitem⟩ := get?_join hne mode owner item
  unfold SqlStyle.rowText
  rw [List.map_cons, List.map_cons, List.map_nil, SqlStyle.textAt_of_get? howner,
    SqlStyle.textAt_of_get? hitem]
  rfl

theorem map_rowText_statementOf (rows : List Row) :
    (column.statementOf c rows).rows.map (style.rowText (column.statementOf c rows).columns) =
      rows.flatMap fun row => (Text.split c.rowItemDelimiter (row.text column.key)).map fun token =>
        SqlStyle.tuple [column.owner.subquery c.mode (row.text column.junction.firstSearchKey),
          column.item.subquery c.mode token] := by
  simp only [statementOf, records, List.map_flatMap, List.map_map]
  refine List.flatMap_congr fun row _ => List.map_congr_left fun token _ => ?_
  exact rowText_join hne c.mode _ token

theorem statementOf_writesStatement (rows : List Row) :
    style.WritesStatement (column.statementOf c rows) := by
  intro record hrecord key hkey
  obtain ⟨row, -, token, -, rfl⟩ := mem_rows_statementOf.1 hrecord
  obtain ⟨howner, hitem⟩ := get?_join hne c.mode (row.text column.junction.firstSearchKey) token
  rcases List.mem_cons.1 hkey with rfl | hkey
  · exact ⟨_, howner, trivial⟩
  · rw [List.mem_singleton.1 hkey]
    exact ⟨_, hitem, trivial⟩

end Distinct

end JunctionColumn

end SeedScript
