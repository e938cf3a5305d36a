import SeedScript.Proofs.Source.Sheets
import SeedScript.Proofs.Workbook.UsedRange

/-!
# Cells right of the header

The header of a sheet ends with the last cell of its first row that is not blank, however wide the
used range is. The rows of the sheet are made of the cells in the columns of the header and of no
others (`loadRows_eq`). So two sheets that agree in these columns, with blank or absent header cells
after them, have the same rows (`Source.rows_eq_of_agreesTo`).
-/

namespace SeedScript

/-! ## Records under a header -/

theorem Table.rowOf_congr {columns record record' : List String}
    (h : ∀ j < columns.length, record.getD j "" = record'.getD j "") :
    rowOf columns record = rowOf columns record' := by
  rw [rowOf, rowOf]
  refine congrArg Record.ofList (List.map_congr_left fun p hp => ?_)
  have hplace : p.2 < columns.length := by simpa using List.snd_lt_add_of_mem_zipIdx hp
  show (p.1, record.getD p.2 "") = (p.1, record'.getD p.2 "")
  rw [h p.2 hplace]

namespace Sheet

/-- Blank cells are cut off behind the header, and nothing else is. -/
theorem IsHeader.header_eq {first cells : List String} (h : IsHeader first cells) :
    header cells = first := by
  obtain ⟨blanks, rfl, hblanks⟩ := h.append_blanks
  have hcut : ∀ blank ∈ blanks.reverse, (Text.trim blank).isEmpty = true := fun blank hblank =>
    String.isEmpty_iff.2 (hblanks blank (List.mem_reverse.1 hblank))
  have hkept : first.rdropWhile (fun cell => (Text.trim cell).isEmpty) = first := by
    refine List.rdropWhile_eq_self_iff.2 fun hne hblank => ?_
    exact h.trim_last_ne _ (List.getLast?_eq_some_getLast hne) (String.isEmpty_iff.1 hblank)
  rw [header, List.reverse_append, List.dropWhile_append_of_pos hcut]
  exact hkept

/-! ## The columns of a header -/

namespace Rectangle

variable {r r' : Rectangle} {cells cells' : List (List (Option String))} {n : Nat}

/-- The first `n` cells of the first row make the header: the last of them is not blank, and those
after them are. -/
structure HeaderEnds (r : Rectangle) (cells : List (List (Option String))) (n : Nat) : Prop where
  last_ne : 0 < n → Text.trim (r.text cells 0 (n - 1)) ≠ ""
  blank : ∀ j < r.width, n ≤ j → Text.trim (r.text cells 0 j) = ""

/-- Two used ranges have as many rows, headers of `n` columns, and the same texts in these
columns. -/
structure AgreesTo (n : Nat) (r : Rectangle) (cells : List (List (Option String)))
    (r' : Rectangle) (cells' : List (List (Option String))) : Prop where
  height_eq : r.height = r'.height
  header : r.HeaderEnds cells n
  header' : r'.HeaderEnds cells' n
  text_eq : ∀ i < r.height, ∀ j < n, r.text cells i j = r'.text cells' i j

/-- The used range is as wide as the header at least. -/
theorem HeaderEnds.le_width (h : r.HeaderEnds cells n) (hrange : r.IsUsedRange cells) :
    n ≤ r.width := by
  by_contra hlt
  have hne : r.text cells 0 (n - 1) ≠ "" := by
    intro htext
    refine h.last_ne (by omega) ?_
    rw [htext]
    decide
  have hbounds := hrange.lt_of_text_ne hne
  omega

theorem HeaderEnds.isHeader (h : r.HeaderEnds cells n) (hrange : r.IsUsedRange cells) :
    IsHeader ((List.range n).map (r.text cells 0)) (r.rowTexts cells 0) where
  append_blanks := by
    obtain ⟨k, hk⟩ := Nat.exists_eq_add_of_le (h.le_width hrange)
    refine ⟨(List.range k).map fun j => r.text cells 0 (n + j), ?_, fun blank hblank => ?_⟩
    · rw [rowTexts, hk, List.range_add, List.map_append, List.map_map]
      rfl
    · obtain ⟨j, hj, rfl⟩ := List.mem_map.1 hblank
      rw [List.mem_range] at hj
      exact h.blank (n + j) (by omega) (by omega)
  trim_last_ne := by
    intro last hlast
    cases n with
    | zero => cases hlast
    | succ n =>
      rw [List.range_succ, List.map_append, List.map_singleton, List.getLast?_concat] at hlast
      cases hlast
      exact h.last_ne (Nat.succ_pos n)

theorem getD_rowTexts {i j : Nat} (hj : j < r.width) :
    (r.rowTexts cells i).getD j "" = r.text cells i j := by
  rw [List.getD_eq_getElem _ _ (by simpa [rowTexts] using hj)]
  simp [rowTexts]

end Rectangle

open Rectangle

variable {rename : Record String} {r : Rectangle} {cells : List (List (Option String))} {n : Nat}

/-- The row of a record, from its cells in the columns of the header. -/
def rowAt (rename : Record String) (r : Rectangle) (cells : List (List (Option String)))
    (n i : Nat) : Row :=
  Table.rowOf ((List.range n).map fun j => Table.columnKey rename (r.text cells 0 j))
    ((List.range n).map (r.text cells i))

/-- A used range with a header of `n` columns has a row for each of its records, made of the cells
in these columns. -/
theorem tableRows_texts (hrange : r.IsUsedRange cells) (hheader : r.HeaderEnds cells n) :
    tableRows rename (r.texts cells) =
      if r.height ≤ 1 then .error .emptyInput
      else .ok ((List.range (r.height - 1)).map fun i => rowAt rename r cells n (i + 1)) := by
  cases hheight : r.height with
  | zero =>
    rw [texts, hheight]
    rfl
  | succ height =>
    have hcolumns : (header (r.rowTexts cells 0)).map (Table.columnKey rename) =
        (List.range n).map fun j => Table.columnKey rename (r.text cells 0 j) := by
      rw [(hheader.isHeader hrange).header_eq, List.map_map]
      rfl
    have hrow : ∀ i, Table.rowOf
        ((List.range n).map fun j => Table.columnKey rename (r.text cells 0 j))
        (r.rowTexts cells i) = rowAt rename r cells n i := by
      intro i
      refine Table.rowOf_congr fun j hj => ?_
      have hj : j < n := by simpa using hj
      have hwidth := hheader.le_width hrange
      rw [getD_rowTexts (by omega), List.getD_eq_getElem _ _ (by simpa using hj)]
      simp
    rw [texts, hheight, List.range_succ_eq_map, List.map_cons, List.map_map, tableRows, hcolumns,
      Table.rows, List.isEmpty_map, List.map_map]
    cases height with
    | zero => rfl
    | succ height =>
      rw [if_neg (by simp), if_neg (by omega), Nat.add_sub_cancel]
      exact congrArg Except.ok (List.map_congr_left fun i _ => hrow (i + 1))

end Sheet

/-! ## Two workbooks -/

open Sheet

/-- The cells of the sheet to read are all readable, and these are their texts. -/
def Workbook.HoldsCells (contents : Workbook) (sheet? : Option String)
    (cells : List (List (Option String))) : Prop :=
  ∃ sheet, contents.selectSheet sheet? = .ok sheet ∧
    (sheet.rows.mapM fun row => row.mapM SheetCell.text?) = .ok cells

variable {contents contents' : Workbook} {sheet? sheet?' : Option String}
  {cells cells' : List (List (Option String))} {r r' : Rectangle} {n : Nat}

/-- The rows of a workbook are those of the used range of its sheet, in the columns of the
header. -/
theorem Source.rows_workbook (rename : Record String) (hcells : contents.HoldsCells sheet? cells)
    (hrange : r.IsUsedRange cells) (hheader : r.HeaderEnds cells n) :
    (Source.workbook (some contents) sheet? rename).rows =
      if r.height ≤ 1 then .error .emptyInput
      else .ok ((List.range (r.height - 1)).map fun i => rowAt rename r cells n (i + 1)) := by
  obtain ⟨sheet, hselect, htexts⟩ := hcells
  show (contents.selectSheet sheet? >>= fun sheet => sheet.loadRows rename) = _
  rw [hselect]
  show ((sheet.rows.mapM fun row => row.mapM SheetCell.text?) >>= fun cells =>
    tableRows rename (usedRange cells)) = _
  rw [htexts, ← tableRows_texts hrange hheader, ← usedRange_eq_texts hrange]
  rfl

/-- The row of a record is the same in used ranges that agree in the columns of the header. -/
theorem Sheet.Rectangle.AgreesTo.rowAt_eq (h : r.AgreesTo n cells r' cells')
    (rename : Record String) {i : Nat} (hi : i < r.height) :
    rowAt rename r cells n i = rowAt rename r' cells' n i := by
  have hcolumns : ((List.range n).map fun j => Table.columnKey rename (r.text cells 0 j)) =
      (List.range n).map fun j => Table.columnKey rename (r'.text cells' 0 j) :=
    List.map_congr_left fun j hj => by
      rw [h.text_eq 0 (by omega) j (List.mem_range.1 hj)]
  have hrecord : (List.range n).map (r.text cells i) = (List.range n).map (r'.text cells' i) :=
    List.map_congr_left fun j hj => h.text_eq i hi j (List.mem_range.1 hj)
  rw [rowAt, rowAt, hcolumns, hrecord]

/-- Two workbooks give the same rows where their used ranges have as many rows, the same texts in
the columns of the header, and only blank or absent header cells after these: one row for each
record, and they are refused only for a lack of records. What stands right of the header does not
count, nor how wide the used ranges are. -/
theorem Source.rows_eq_of_agreesTo (rename : Record String)
    (hcells : contents.HoldsCells sheet? cells) (hcells' : contents'.HoldsCells sheet?' cells')
    (hrange : r.IsUsedRange cells) (hrange' : r'.IsUsedRange cells')
    (hagree : r.AgreesTo n cells r' cells') :
    (r.height ≤ 1 → (Source.workbook (some contents) sheet? rename).rows = .error .emptyInput ∧
      (Source.workbook (some contents') sheet?' rename).rows = .error .emptyInput) ∧
    (1 < r.height → ∃ rows, rows.length + 1 = r.height ∧
      (Source.workbook (some contents) sheet? rename).rows = .ok rows ∧
      (Source.workbook (some contents') sheet?' rename).rows = .ok rows) := by
  rw [rows_workbook rename hcells hrange hagree.header,
    rows_workbook rename hcells' hrange' hagree.header', ← hagree.height_eq]
  refine ⟨fun hheight => ?_, fun hheight => ?_⟩
  · rw [if_pos hheight, if_pos hheight]
    exact ⟨rfl, rfl⟩
  · rw [if_neg (by omega), if_neg (by omega)]
    refine ⟨_, ?_, rfl, congrArg Except.ok (List.map_congr_left fun i hi => ?_)⟩
    · rw [List.length_map, List.length_range]
      omega
    · have hi := List.mem_range.1 hi
      exact (hagree.rowAt_eq rename (by omega)).symm

/-- A column without a name between two others, a short record, and nothing after the header. -/
def narrowSheet : Sheet where
  name := "Items"
  rows := [[.text " Name ", .absent, .text "Qty"], [.text "Desk", .text "x", .number "3"],
    [.absent, .text "y"]]

/-- The same columns away from the corner. On the right stand blank header cells and cells of all
kinds. -/
def wideSheet : Sheet where
  name := "Wide"
  rows := [[],
    [.absent, .text " Name ", .text "", .text "Qty", .text "\u00a0", .absent, .text "\u3000"],
    [.absent, .text "Desk", .text "x", .text "3", .absent, .boolean true, .error "#N/A",
      .number "7"],
    [.absent, .absent, .text "y", .absent, .text "more"]]

def narrowTexts : List (List (Option String)) :=
  [[some " Name ", none, some "Qty"], [some "Desk", some "x", some "3"], [none, some "y"]]

def wideTexts : List (List (Option String)) :=
  [[], [none, some " Name ", some "", some "Qty", some "\u00a0", none, some "\u3000"],
    [none, some "Desk", some "x", some "3", none, some "true", some "#N/A", some "7"],
    [none, none, some "y", none, some "more"]]

theorem Source.rows_eq_of_agreesTo_wideSheet :
    ∃ (cells cells' : List (List (Option String))) (r r' : Rectangle) (rows : List Row),
      Workbook.HoldsCells ⟨[narrowSheet]⟩ none cells ∧
      Workbook.HoldsCells ⟨[narrowSheet, wideSheet]⟩ (some "Wide") cells' ∧
      r.IsUsedRange cells ∧ r'.IsUsedRange cells' ∧ r.AgreesTo 3 cells r' cells' ∧
      r.width = 3 ∧ r'.width = 7 ∧ rows.length = 2 ∧
      (Source.workbook (some ⟨[narrowSheet]⟩) none (.ofList [("name", "title")])).rows = .ok rows ∧
      (Source.workbook (some ⟨[narrowSheet, wideSheet]⟩) (some "Wide")
        (.ofList [("name", "title")])).rows = .ok rows := by
  have hcells : Workbook.HoldsCells ⟨[narrowSheet]⟩ none narrowTexts :=
    ⟨narrowSheet, by decide +kernel, by decide +kernel⟩
  have hcells' : Workbook.HoldsCells ⟨[narrowSheet, wideSheet]⟩ (some "Wide") wideTexts :=
    ⟨wideSheet, by decide +kernel, by decide +kernel⟩
  have hrange := isUsedRange_usedRectangle narrowTexts
  have hrange' := isUsedRange_usedRectangle wideTexts
  have hagree : (usedRectangle narrowTexts).AgreesTo 3 narrowTexts
      (usedRectangle wideTexts) wideTexts :=
    { height_eq := by decide +kernel
      header := ⟨by decide +kernel, by decide +kernel⟩
      header' := ⟨by decide +kernel, by decide +kernel⟩
      text_eq := by decide +kernel }
  obtain ⟨rows, hlength, hrows, hrows'⟩ := (Source.rows_eq_of_agreesTo (.ofList [("name", "title")])
    hcells hcells' hrange hrange' hagree).2 (by decide +kernel)
  have hheight : (usedRectangle narrowTexts).height = 3 := by decide +kernel
  exact ⟨narrowTexts, wideTexts, usedRectangle narrowTexts, usedRectangle wideTexts, rows, hcells,
    hcells', hrange, hrange', hagree, by decide +kernel, by decide +kernel, by omega, hrows, hrows'⟩

end SeedScript
