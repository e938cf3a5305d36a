import SeedScript.FunctionCall
import SeedScript.Json.Rows
import SeedScript.Proofs.Json.Values
import SeedScript.Proofs.Records
import SeedScript.Proofs.Sql.Unquoted

/-!
# Rows as JSON and back

Rows that are written as a JSON array of objects are read back with the same keys in the same order
(`Row.rows_jsonArray`), and so they are from every other text of this array
(`Row.rows_of_document`). In the call of an SQL function the JSON is a quoted literal: the SQL is
read as what precedes its opening quote, the JSON, and what follows its closing quote
(`functionCall_rows`). So neither the escapes of JSON nor the doubled quotes around them lose or add
anything.
-/

namespace SeedScript

/-! ## Rows -/

namespace Row

open Json (Value)

/-- The members of the object that a row is written as. -/
def members (row : Row) : List (String × Value) := row.entries.map fun e => (e.1, .string e.2)

theorem rowOfObject_members (index : Nat) (row : Row) :
    Json.rowOfObject index (Record.ofList row.members) = .ok row := by
  have hnodup : (row.members.map Prod.fst).Nodup := by
    rw [members, List.map_map]
    exact row.nodup
  have hcells : (Record.ofList row.members).entries.mapM
      (fun m => (Json.cellText index m.1 m.2).map fun s => (m.1, s)) = .ok row.entries := by
    rw [Record.entries_ofList hnodup, members, mapM_eq_ok_iff, List.forall₂_map_left_iff,
      List.forall₂_same]
    exact fun e _ => rfl
  unfold Json.rowOfObject
  rw [hcells]
  exact congrArg Except.ok (Record.ext (Record.entries_ofList row.nodup))

theorem jsonArray_eq (rows : List Row) :
    jsonArray rows = .array ((rows.map members).map .object) := by
  rw [jsonArray, List.map_map]
  rfl

theorem rows_of_document {rows : List Row} {text : String}
    (h : Json.document (Json.value Json.maxDepth) text = .ok (jsonArray rows)) :
    Json.rows text = .ok rows := by
  have hobjects := Json.document_objectsValue ((jsonArray_eq rows) ▸ h)
  unfold Json.rows
  rw [hobjects]
  dsimp only
  rw [List.zipIdx_map, List.mapM_map]
  refine (mapM_zipIdx_eq_ok_iff_map (p := fun _ => True) (g := id)
    (f := fun row index => Json.rowOfObject index (Record.ofList row.members))
    fun row index row' => ?_).2 ⟨fun _ _ => trivial, (List.map_id rows).symm⟩
  rw [rowOfObject_members, Except.ok.injEq, true_and]
  exact eq_comm

theorem document_jsonArray (rows : List Row) :
    Json.document (Json.value Json.maxDepth) (jsonArray rows).text = .ok (jsonArray rows) := by
  rw [jsonArray_eq]
  refine Value.document_text fun v hv => ?_
  obtain ⟨ms, hms, rfl⟩ := List.mem_map.1 hv
  obtain ⟨row, -, rfl⟩ := List.mem_map.1 hms
  intro m hm
  obtain ⟨e, -, rfl⟩ := List.mem_map.1 hm
  trivial

theorem rows_jsonArray (rows : List Row) : Json.rows (jsonArray rows).text = .ok rows :=
  rows_of_document (document_jsonArray rows)

end Row

/-! ## Calls -/

/-- The call of a function with rows is read as a literal between two texts, and the literal holds
the rows. -/
theorem functionCall_rows {function : String} {rows : List Row} (hfunction : Sql.Unquoted function)
    (hrows : rows ≠ []) :
    ∃ json, functionCall function rows =
        .ok ("SELECT " ++ function ++ "('" ++ Literal.escape json ++ "'::JSONB);") ∧
      Sql.scan ("SELECT " ++ function ++ "('" ++ Literal.escape json ++ "'::JSONB);") =
        some (Sql.codes ("SELECT " ++ function ++ "(") ++ .literal json :: Sql.codes "::JSONB);") ∧
      Json.rows json = .ok rows := by
  have htext (json : String) :
      "SELECT " ++ function ++ "('" ++ Literal.escape json ++ "'::JSONB);" =
        "SELECT " ++ function ++ "(" ++ (Literal.quote json ++ "::JSONB);") := by
    rw [← String.toList_inj]
    simp [Literal.quote, Literal.enclose]
  refine ⟨(Row.jsonArray rows).text, ?_, ?_, Row.rows_jsonArray rows⟩
  · rw [functionCall, if_neg (by simpa using hrows), htext, ← String.append_assoc]
  · have hselect : Sql.Unquoted "SELECT " := by decide
    have hopen : Sql.Unquoted "(" := by decide
    have hclose : Sql.Unquoted "::JSONB);" := by decide
    have hargument := (Sql.reads_quote (Row.jsonArray rows).text).append (Sql.reads_codes hclose)
      hclose.followsLiteral
    rw [htext]
    exact (hargument.codes_append ((hselect.append hfunction).append hopen)).scan

/-- A row whose key and cell have quotes, a backslash at the end, a control character and a letter
beyond the basic plane, and a row without keys. -/
def awkwardRows : List Row :=
  [.ofList [("it's", "''\"\\"), ("b\x01", "𝔘\n'")], .ofList []]

theorem functionCall_rows_awkwardRows :
    ∃ json, functionCall "app.load" awkwardRows =
        .ok ("SELECT app.load('" ++ Literal.escape json ++ "'::JSONB);") ∧
      Sql.scan ("SELECT app.load('" ++ Literal.escape json ++ "'::JSONB);") =
        some (Sql.codes "SELECT app.load(" ++ .literal json :: Sql.codes "::JSONB);") ∧
      Json.rows json = .ok awkwardRows :=
  functionCall_rows (by decide) (by decide)

end SeedScript
