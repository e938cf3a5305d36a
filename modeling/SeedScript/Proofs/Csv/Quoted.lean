import SeedScript.Csv

/-!
# Records with every field quoted

A field between quotes, with the quotes inside it doubled, holds its text whatever characters that
has. So records whose fields are all written in this way are read back as they are, however their
lines end (`records_quoted`).
-/

namespace SeedScript.Csv

inductive LineEnd where
  | lf | crlf
  deriving DecidableEq, Repr

def LineEnd.chars : LineEnd → List Char
  | .lf => ['\n']
  | .crlf => ['\r', '\n']

/-- Every quote is written twice. -/
def doubleQuotes : List Char → List Char
  | [] => []
  | c :: cs => if c = '"' then '"' :: '"' :: doubleQuotes cs else c :: doubleQuotes cs

def quotedField (field : List Char) : List Char := '"' :: doubleQuotes field ++ ['"']

/-- The fields of a record between quotes, separated by commas. -/
def quotedFields : List (List Char) → List Char
  | [] => []
  | [field] => quotedField field
  | field :: next :: fields => quotedField field ++ ',' :: quotedFields (next :: fields)

/-- A record and its line end. -/
def quotedLine (line : List String × LineEnd) : List Char :=
  quotedFields (line.1.map String.toList) ++ line.2.chars

/-- Records, each with its line end, as a text in which every field is quoted. -/
def quoted (lines : List (List String × LineEnd)) : String :=
  String.ofList (lines.flatMap quotedLine)

example : quoted [(["a,b", "\"c\""], .crlf), (["", "\n"], .lf)] =
    "\"a,b\",\"\"\"c\"\"\"\r\n\"\",\"\n\"\n" := by
  decide

/-! ## Fields -/

/-- Inside quotes, a text with doubled quotes is taken up to the single quote behind it. -/
theorem scan_doubleQuotes (cs field : List Char) (fields : List (List Char)) (rest : List Char) :
    scan .quoted field fields (doubleQuotes cs ++ '"' :: rest) =
      scan .afterQuote (cs.reverse ++ field) fields rest := by
  -- the characters that are already read are kept back to front
  induction cs generalizing field with
  | nil => simp [doubleQuotes, scan]
  | cons c cs ih =>
    rw [List.reverse_cons, List.append_assoc, List.singleton_append, ← ih]
    by_cases h : c = '"'
    · simp [doubleQuotes, h, scan]
    · simp [doubleQuotes, h, scan]

theorem scan_quotedField (field : List Char) (fields : List (List Char)) (rest : List Char) :
    scan .fieldStart [] fields (quotedField field ++ rest) =
      scan .afterQuote field.reverse fields rest := by
  have hopen (cs : List Char) :
      scan .fieldStart [] fields ('"' :: cs) = scan .quoted [] fields cs := by
    rw [scan, if_neg (by decide), if_pos rfl]
  rw [quotedField, List.cons_append, List.cons_append, hopen, List.append_assoc,
    List.singleton_append, scan_doubleQuotes, List.append_nil]

/-! ## Records -/

theorem scan_afterQuote_lineEnd (field : List Char) (fields : List (List Char)) (lineEnd : LineEnd)
    (rest : List Char) :
    scan .afterQuote field fields (lineEnd.chars ++ rest) =
      (field.reverse :: fields).reverse :: scan .recordStart [] [] rest := by
  cases lineEnd <;> simp [LineEnd.chars, scan, isLineEnd]

/-- The fields of a record are added to those before them, and the line end closes it. -/
theorem scan_quotedFields {record : List (List Char)} (h : record ≠ [])
    (fields : List (List Char)) (lineEnd : LineEnd) (rest : List Char) :
    scan .fieldStart [] fields (quotedFields record ++ (lineEnd.chars ++ rest)) =
      (fields.reverse ++ record) :: scan .recordStart [] [] rest := by
  match record with
  | [field] =>
    rw [quotedFields, scan_quotedField, scan_afterQuote_lineEnd]
    simp
  | field :: next :: record =>
    have hcomma (cs : List Char) : scan .afterQuote field.reverse fields (',' :: cs) =
        scan .fieldStart [] (field :: fields) cs := by
      rw [scan, if_neg (by decide), if_neg (by decide), if_pos rfl, List.reverse_reverse]
    rw [quotedFields, List.append_assoc, List.cons_append, scan_quotedField, hcomma,
      scan_quotedFields (List.cons_ne_nil next record)]
    simp

/-- A record whose first field is quoted is read in the same way as what follows a comma. -/
theorem scan_recordStart_quotedFields {record : List (List Char)} (h : record ≠ [])
    (rest : List Char) :
    scan .recordStart [] [] (quotedFields record ++ rest) =
      scan .fieldStart [] [] (quotedFields record ++ rest) := by
  match record with
  | [field] => rfl
  | field :: next :: record => rfl

/-! ## Texts -/

theorem scan_quotedLines {lines : List (List String × LineEnd)} (h : ∀ line ∈ lines, line.1 ≠ []) :
    scan .recordStart [] [] (lines.flatMap quotedLine) =
      lines.map fun line => line.1.map String.toList := by
  induction lines with
  | nil => rfl
  | cons line lines ih =>
    have hne : line.1.map String.toList ≠ [] := mt List.map_eq_nil_iff.1 (h line List.mem_cons_self)
    have htail := ih fun l hl => h l (List.mem_cons_of_mem line hl)
    rw [List.flatMap_cons, List.map_cons, quotedLine, List.append_assoc,
      scan_recordStart_quotedFields hne, scan_quotedFields hne, htail]
    rfl

/-- A text that begins with a quote has no byte order mark in front. -/
theorem afterMark_quotedLines {lines : List (List String × LineEnd)}
    (h : ∀ line ∈ lines, line.1 ≠ []) :
    afterMark (lines.flatMap quotedLine) = lines.flatMap quotedLine := by
  match lines with
  | [] => rfl
  | ([], lineEnd) :: lines => exact absurd rfl (h _ List.mem_cons_self)
  | ([field], lineEnd) :: lines => rfl
  | (field :: next :: record, lineEnd) :: lines => rfl

theorem records_quoted {lines : List (List String × LineEnd)} (h : ∀ line ∈ lines, line.1 ≠ []) :
    records (quoted lines) = lines.map Prod.fst := by
  rw [records, quoted, String.toList_ofList, afterMark_quotedLines h, scan_quotedLines h,
    List.map_map]
  refine List.map_congr_left fun line _ => ?_
  rw [Function.comp_apply, List.map_map]
  exact List.map_id'' (fun s => String.ofList_toList) line.1

end SeedScript.Csv
