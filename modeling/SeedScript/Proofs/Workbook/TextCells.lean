import Mathlib.Data.List.Forall2
import Mathlib.Data.List.TakeWhile
import SeedScript.Proofs.Traversal
import SeedScript.Proofs.Workbook.UsedRange

/-!
# Sheets of text cells

In a sheet whose rows are equally long and hold text cells only, the used range is the whole sheet:
no cell is absent, empty texts included. So its records are the texts of its rows
(`Sheet.loadRows_texts`).
-/

namespace SeedScript.Sheet

/-- A table of texts as the cells of a sheet. -/
def textCells (table : List (List String)) : List (List SheetCell) :=
  table.map fun record => record.map .text

theorem mapM_text?_textCells (table : List (List String)) :
    (textCells table).mapM (fun row => row.mapM SheetCell.text?) =
      .ok (table.map fun record => record.map some) := by
  rw [textCells, mapM_eq_ok_iff, List.forall₂_map_left_iff, List.forall₂_map_right_iff,
    List.forall₂_same]
  intro record _
  rw [mapM_eq_ok_iff, List.forall₂_map_left_iff, List.forall₂_map_right_iff, List.forall₂_same]
  exact fun _ _ => rfl

/-! ## The used range -/

theorem dropWhile_eq_self_of_forall {α : Type} {p : α → Bool} {xs : List α}
    (h : ∀ x ∈ xs, p x = false) : xs.dropWhile p = xs :=
  List.dropWhile_eq_self_iff.2 fun hpos => Bool.eq_false_iff.1 (h _ (List.getElem_mem hpos))

theorem cellAt?_map_some (table : List (List String)) (i j : Nat) :
    cellAt? (table.map fun record => record.map some) i j =
      table[i]?.bind fun record => record[j]? := by
  have hrow : (table.map fun record => record.map some).getD i [] =
      (table[i]?.map fun record => record.map some).getD [] := by
    rw [List.getD_eq_getElem?_getD, List.getElem?_map]
  rw [cellAt?, hrow]
  cases table[i]? with
  | none => rfl
  | some record =>
    show (record.map some).getD j none = record[j]?
    rw [List.getD_eq_getElem?_getD, List.getElem?_map]
    cases record[j]? <;> rfl

/-- A table without absent cells is its own used range. -/
theorem usedRange_texts {table : List (List String)} {n : Nat} (htable : table ≠ []) (hn : 0 < n)
    (h : ∀ record ∈ table, record.length = n) :
    usedRange (table.map fun record => record.map some) = table := by
  have hpos := List.length_pos_iff.2 htable
  have hcell : ∀ i (hi : i < table.length) j (hj : j < table[i].length),
      cellAt? (table.map fun record => record.map some) i j = some (table[i][j]) := by
    intro i hi j hj
    rw [cellAt?_map_some, List.getElem?_eq_getElem hi, Option.bind_some,
      List.getElem?_eq_getElem hj]
  have hpresent : ∀ i < table.length, ∀ j < n,
      (cellAt? (table.map fun record => record.map some) i j).isSome := by
    intro i hi j hj
    rw [hcell i hi j (by rwa [h _ (List.getElem_mem hi)])]
    rfl
  have hrange : (Rectangle.mk 0 0 table.length n).IsUsedRange
      (table.map fun record => record.map some) := by
    refine Rectangle.isUsedRange_of_sides (fun i j hsome => ?_) fun _ =>
      ⟨⟨0, hpresent 0 hpos 0 hn⟩, ⟨0, hpresent _ ?_ 0 hn⟩, ⟨0, hpresent 0 hpos 0 hn⟩,
        ⟨0, hpresent 0 hpos _ ?_⟩⟩
    · rw [cellAt?_map_some] at hsome
      obtain ⟨text, htext⟩ := Option.isSome_iff_exists.1 hsome
      obtain ⟨record, hrecord, hcell⟩ := Option.bind_eq_some_iff.1 htext
      obtain ⟨hi, rfl⟩ := List.getElem?_eq_some_iff.1 hrecord
      obtain ⟨hj, -⟩ := List.getElem?_eq_some_iff.1 hcell
      rw [h _ (List.getElem_mem hi)] at hj
      simp only [Rectangle.Holds]
      omega
    · show 0 + table.length - 1 < table.length
      omega
    · show 0 + n - 1 < n
      omega
  rw [usedRange_eq_texts hrange]
  refine List.ext_getElem (by simp [Rectangle.texts]) fun i _ hi => ?_
  have hlength := h _ (List.getElem_mem hi)
  refine List.ext_getElem (by simp [Rectangle.texts, Rectangle.rowTexts, hlength]) fun j _ hj => ?_
  simp only [Rectangle.texts, Rectangle.rowTexts, List.getElem_map, List.getElem_range,
    Rectangle.text, Nat.zero_add, hcell i hi j hj]
  rfl

/-! ## Records -/

theorem header_of_forall {cells : List String} (h : ∀ cell ∈ cells, Text.trim cell ≠ "") :
    header cells = cells := by
  have hfilled : ∀ cell ∈ cells.reverse, (Text.trim cell).isEmpty = false := by
    simpa using h
  rw [header, dropWhile_eq_self_of_forall hfilled, List.reverse_reverse]

/-- The rows of a sheet of text cells are those of the table of its texts. -/
theorem loadRows_texts {rename : Record String} {sheet : Sheet} {headers : List String}
    {records : List (List String)} (hsheet : sheet.rows = textCells (headers :: records))
    (hheaders : headers ≠ []) (hfilled : ∀ h ∈ headers, Text.trim h ≠ "")
    (hlength : ∀ record ∈ records, record.length = headers.length) :
    sheet.loadRows rename = Table.rows (headers.map (Table.columnKey rename)) records := by
  have hrange := usedRange_texts (List.cons_ne_nil headers records) (List.length_pos_iff.2 hheaders)
    (List.forall_mem_cons.2 ⟨rfl, hlength⟩)
  rw [loadRows, hsheet, mapM_text?_textCells]
  change tableRows rename (usedRange _) = _
  rw [hrange, tableRows, header_of_forall hfilled]

end SeedScript.Sheet
