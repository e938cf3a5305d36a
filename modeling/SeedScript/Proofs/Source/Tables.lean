import SeedScript.Proofs.Csv.Quoted
import SeedScript.Proofs.Json.Rows
import SeedScript.Proofs.Records
import SeedScript.Proofs.Workbook.TextCells
import SeedScript.Seeder

/-!
# One table in three formats

A table of texts may be written as comma separated values with every field quoted, as a sheet of
text cells, or as a JSON array of objects under the keys of its columns. Its rows are the same in
all three, and so is what they are seeded as (`Source.rows_eq_of_holds`).
-/

namespace SeedScript

/-- A table of texts: its headers are not blank and name columns that differ, it has records, and
they are as long as the header. -/
structure TextTable (rename : Record String) where
  headers : List String
  records : List (List String)
  headers_ne_nil : headers ≠ []
  trim_ne_empty : ∀ header ∈ headers, Text.trim header ≠ ""
  nodup_keys : (headers.map (Table.columnKey rename)).Nodup
  records_ne_nil : records ≠ []
  length_record : ∀ record ∈ records, record.length = headers.length

namespace TextTable

variable {rename : Record String}

def keys (table : TextTable rename) : List String := table.headers.map (Table.columnKey rename)

/-- The records as objects under the keys of the columns. -/
def json (table : TextTable rename) : Json.Value :=
  .array (table.records.map fun record => .object (table.keys.zip (record.map .string)))

/-- The records as rows under the keys of the columns. -/
def rows (table : TextTable rename) : List Row := table.records.map (Table.rowOf table.keys)

end TextTable

/-- The source holds the table in one of the formats. -/
inductive Source.Holds {rename : Record String} (table : TextTable rename) : Source → Prop
  /-- Every field is quoted, and a line ends as it likes. -/
  | csv {lines : List (List String × Csv.LineEnd)}
      (hlines : lines.map Prod.fst = table.headers :: table.records) :
      Holds table (.csv (Csv.quoted lines) rename)
  /-- The sheet that is read has only text cells. -/
  | workbook {contents : Workbook} {sheet? : Option String} {sheet : Sheet}
      (hselect : contents.selectSheet sheet? = .ok sheet)
      (hcells : sheet.rows = Sheet.textCells (table.headers :: table.records)) :
      Holds table (.workbook (some contents) sheet? rename)
  /-- The text may have blanks between values, and escapes in strings. -/
  | json {text : String}
      (htext : Json.document (Json.value Json.maxDepth) text = .ok table.json) :
      Holds table (.json text)

/-! ## Records that are as long as the header -/

namespace Table

theorem zipIdx_map_getD {columns record : List String} (h : record.length = columns.length) :
    (columns.zipIdx.map fun (key, index) => (key, record.getD index "")) = columns.zip record := by
  refine List.ext_getElem (by simp [h]) fun k hk _ => ?_
  have hlength : k < record.length := by simpa [h] using hk
  simp [hlength]

/-- Under distinct keys each cell of such a record has a key of its own. -/
theorem entries_rowOf {columns record : List String} (hcolumns : columns.Nodup)
    (h : record.length = columns.length) : (rowOf columns record).entries = columns.zip record := by
  rw [rowOf, zipIdx_map_getD h]
  exact Record.entries_ofList (by rwa [List.map_fst_zip h.ge])

end Table

namespace TextTable

variable {rename : Record String}

theorem length_keys (table : TextTable rename) : table.keys.length = table.headers.length :=
  List.length_map _

theorem ne_nil_of_mem (table : TextTable rename) {record : List String}
    (h : record ∈ table.headers :: table.records) : record ≠ [] := by
  have hlength : record.length = table.headers.length := by
    rcases List.mem_cons.1 h with rfl | h
    · rfl
    · exact table.length_record record h
  exact List.ne_nil_of_length_pos (hlength ▸ List.length_pos_iff.2 table.headers_ne_nil)

theorem entries_rows (table : TextTable rename) :
    table.rows.map Record.entries = table.records.map fun record => table.keys.zip record := by
  rw [rows, List.map_map]
  exact List.map_congr_left fun record hrecord => Table.entries_rowOf table.nodup_keys
    ((table.length_record record hrecord).trans table.length_keys.symm)

theorem tableRows_eq (table : TextTable rename) :
    Table.rows table.keys table.records = .ok table.rows :=
  if_neg (by simpa using table.records_ne_nil)

theorem json_eq (table : TextTable rename) : table.json = Row.jsonArray table.rows := by
  have hmembers : table.rows.map Row.members =
      table.records.map fun record => table.keys.zip (record.map .string) := by
    calc table.rows.map Row.members
        = (table.rows.map Record.entries).map (List.map fun e => (e.1, .string e.2)) := by
          rw [List.map_map]
          rfl
      _ = table.records.map fun record => table.keys.zip (record.map .string) := by
          rw [table.entries_rows, List.map_map]
          exact List.map_congr_left fun record _ => List.zip_map_right.symm
  rw [Row.jsonArray_eq, hmembers, List.map_map]
  rfl

theorem holds_json_text (table : TextTable rename) :
    Source.Holds table (.json table.json.text) := by
  refine .json ?_
  rw [json_eq]
  exact Row.document_jsonArray table.rows

end TextTable

/-! ## Sources -/

theorem Source.Holds.rows_eq {rename : Record String} {table : TextTable rename} {source : Source}
    (h : source.Holds table) : source.rows = .ok table.rows := by
  cases h with
  | @csv lines hlines =>
    have hne : ∀ line ∈ lines, line.1 ≠ [] := fun line hline =>
      table.ne_nil_of_mem (hlines ▸ List.mem_map_of_mem hline)
    change Csv.rows rename (Csv.quoted lines) = _
    rw [Csv.rows, Csv.records_quoted hne, hlines]
    exact table.tableRows_eq
  | @workbook contents sheet? sheet hselect hcells =>
    change (contents.selectSheet sheet? >>= fun sheet => sheet.loadRows rename) = _
    rw [hselect]
    exact (Sheet.loadRows_texts hcells table.headers_ne_nil table.trim_ne_empty
      table.length_record).trans table.tableRows_eq
  | json htext => exact Row.rows_of_document (table.json_eq ▸ htext)

/-- A table has the same rows in every format that holds it, each cell under the key of its column,
and they are seeded alike. The JSON that is written for the table is one of the texts that hold
it. -/
theorem Source.rows_eq_of_holds {rename : Record String} (table : TextTable rename) :
    table.rows.map Record.entries = table.records.map (fun record => table.keys.zip record) ∧
      Source.Holds table (.json table.json.text) ∧
      ∀ source : Source, source.Holds table →
        source.rows = .ok table.rows ∧
          ∀ (s : Seeder) (target : Target),
            s.seedFrom source target = s.seed table.rows target := by
  refine ⟨table.entries_rows, table.holds_json_text, fun source hsource =>
    ⟨hsource.rows_eq, fun s target => ?_⟩⟩
  rw [Seeder.seedFrom, hsource.rows_eq]
  rfl

/-- A new name for one column. -/
def categoryName : Record String := .ofList [("category", "category_id**categories**name")]

/-- A table whose cells have a comma, quotes, line breaks and a letter beyond the basic plane, and
with a record of empty texts. -/
def awkwardTable : TextTable categoryName where
  headers := [" \"ID\"", "CATEGORY "]
  records := [["a,\"b\"\r\n", "\"\""], ["", ""], ["\n", "𝔘, ÏN"]]
  headers_ne_nil := by decide
  trim_ne_empty := by decide
  nodup_keys := by decide
  records_ne_nil := by decide
  length_record := by decide

/-- The table with line ends of both kinds, as the second sheet of a workbook, and as JSON. -/
def awkwardSources : List Source :=
  let table := awkwardTable.headers :: awkwardTable.records
  [.csv (Csv.quoted (table.zip [.crlf, .lf, .crlf, .lf])) categoryName,
    .workbook (some ⟨[⟨"Notes", []⟩, ⟨"Items", Sheet.textCells table⟩]⟩) (some "Items")
      categoryName,
    .json awkwardTable.json.text]

theorem Source.rows_eq_of_holds_awkwardTable :
    awkwardTable.rows.map Record.entries =
        [[("\"id\"", "a,\"b\"\r\n"), ("category_id**categories**name", "\"\"")],
          [("\"id\"", ""), ("category_id**categories**name", "")],
          [("\"id\"", "\n"), ("category_id**categories**name", "𝔘, ÏN")]] ∧
      ∀ source ∈ awkwardSources, source.Holds awkwardTable ∧ source.rows = .ok awkwardTable.rows ∧
        ∀ (s : Seeder) (target : Target),
          s.seedFrom source target = s.seed awkwardTable.rows target := by
  obtain ⟨hentries, hjson, hrows⟩ := Source.rows_eq_of_holds awkwardTable
  have hsources : ∀ source ∈ awkwardSources, source.Holds awkwardTable := by
    simp only [awkwardSources, List.forall_mem_cons]
    exact ⟨.csv rfl, .workbook rfl rfl, hjson, by simp⟩
  exact ⟨hentries.trans (by decide), fun source hsource =>
    ⟨hsources source hsource, hrows source (hsources source hsource)⟩⟩

end SeedScript
