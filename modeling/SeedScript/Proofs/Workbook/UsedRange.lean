import Mathlib.Data.List.DropRight
import Mathlib.Data.List.GetD
import SeedScript.Workbook

/-!
# The used range of a sheet

The used range is the smallest rectangle that holds every present cell: it holds them all, and lies
inside every other rectangle that does (`Rectangle.IsUsedRange`). The range that is read has the
texts of this rectangle (`usedRange_eq_texts`): its rows begin and end with one that has a cell, its
first column is the least in which a row has its first cell, and its last column is the greatest in
which a row has its last.
-/

namespace SeedScript.Sheet

variable {cells rows : List (List (Option String))} {row : List (Option String)}

/-! ## Rectangles -/

/-- The text of the cell in a row and a column, if it is present. -/
def cellAt? (cells : List (List (Option String))) (i j : Nat) : Option String :=
  (cells.getD i []).getD j none

structure Rectangle where
  top : Nat
  left : Nat
  height : Nat
  width : Nat
  deriving DecidableEq

namespace Rectangle

def Holds (r : Rectangle) (i j : Nat) : Prop :=
  (r.top ≤ i ∧ i < r.top + r.height) ∧ r.left ≤ j ∧ j < r.left + r.width

/-- Whether the rectangle holds every present cell. -/
def Covers (r : Rectangle) (cells : List (List (Option String))) : Prop :=
  ∀ i j, (cellAt? cells i j).isSome → r.Holds i j

/-- The smallest rectangle that holds every present cell. Where there is none, it has no rows. -/
structure IsUsedRange (r : Rectangle) (cells : List (List (Option String))) : Prop where
  covers : r.Covers cells
  least : ∀ r' : Rectangle, r'.Covers cells → ∀ i j, r.Holds i j → r'.Holds i j
  height_eq_zero : (∀ i j, cellAt? cells i j = none) → r.height = 0

/-- The text in a row and a column, counted from the upper left corner. An absent cell is empty. -/
def text (r : Rectangle) (cells : List (List (Option String))) (i j : Nat) : String :=
  (cellAt? cells (r.top + i) (r.left + j)).getD ""

def rowTexts (r : Rectangle) (cells : List (List (Option String))) (i : Nat) : List String :=
  (List.range r.width).map (r.text cells i)

def texts (r : Rectangle) (cells : List (List (Option String))) : List (List String) :=
  (List.range r.height).map (r.rowTexts cells)

variable {r r' : Rectangle}

/-- Outside the used range a text is empty. -/
theorem IsUsedRange.lt_of_text_ne (h : r.IsUsedRange cells) {i j : Nat}
    (htext : r.text cells i j ≠ "") : i < r.height ∧ j < r.width := by
  have hsome : (cellAt? cells (r.top + i) (r.left + j)).isSome := by
    by_contra hnone
    rw [Bool.not_eq_true, Option.isSome_eq_false_iff, Option.isNone_iff_eq_none] at hnone
    exact htext (by rw [text, hnone]; rfl)
  have hholds := h.covers _ _ hsome
  unfold Holds at hholds
  omega

theorem IsUsedRange.unique (h : r.IsUsedRange cells) (h' : r'.IsUsedRange cells) {i j : Nat}
    (hcell : (cellAt? cells i j).isSome) : r = r' := by
  have hholds := h.covers i j hcell
  have hholds' := h'.covers i j hcell
  have hcorner := h.least r' h'.covers r.top r.left
  have hcorner' := h'.least r h.covers r'.top r'.left
  have hopposite := h.least r' h'.covers (r.top + r.height - 1) (r.left + r.width - 1)
  have hopposite' := h'.least r h.covers (r'.top + r'.height - 1) (r'.left + r'.width - 1)
  obtain ⟨top, left, height, width⟩ := r
  obtain ⟨top', left', height', width'⟩ := r'
  simp only [Holds, Rectangle.mk.injEq] at *
  omega

theorem IsUsedRange.texts_eq (h : r.IsUsedRange cells) (h' : r'.IsUsedRange cells) :
    r.texts cells = r'.texts cells := by
  by_cases hcells : ∀ i j, cellAt? cells i j = none
  · rw [texts, texts, h.height_eq_zero hcells, h'.height_eq_zero hcells]
    rfl
  · push Not at hcells
    obtain ⟨i, j, hcell⟩ := hcells
    rw [h.unique h' (Option.isSome_iff_ne_none.2 hcell)]

end Rectangle

/-! ## Rows -/

theorem isEmptyRow_iff : isEmptyRow row = true ↔ ∀ j, row.getD j none = none := by
  unfold isEmptyRow
  rw [List.all_eq_true]
  constructor
  · intro hall j
    rcases lt_or_ge j row.length with hj | hj
    · rw [List.getD_eq_getElem _ _ hj]
      exact Option.isNone_iff_eq_none.1 (hall _ (List.getElem_mem hj))
    · exact List.getD_eq_default _ _ hj
  · intro hall cell hcell
    obtain ⟨j, hj, rfl⟩ := List.mem_iff_getElem.1 hcell
    rw [Option.isNone_iff_eq_none, ← List.getD_eq_getElem _ none hj]
    exact hall j

theorem exists_cell_of_isEmptyRow_eq_false (h : isEmptyRow row = false) :
    ∃ j, (row.getD j none).isSome := by
  by_contra hnone
  have hempty : isEmptyRow row = true := isEmptyRow_iff.2 fun j => by
    by_contra hj
    exact hnone ⟨j, Option.isSome_iff_ne_none.2 hj⟩
  rw [h] at hempty
  cases hempty

theorem cellAt?_of_isEmptyRow (h : ∀ row ∈ rows, isEmptyRow row = true) (i j : Nat) :
    cellAt? rows i j = none := by
  rw [cellAt?]
  rcases lt_or_ge i rows.length with hi | hi
  · rw [List.getD_eq_getElem _ _ hi]
    exact isEmptyRow_iff.1 (h _ (List.getElem_mem hi)) j
  · rw [List.getD_eq_default _ _ hi]
    rfl

section Between

variable {before kept after : List (List (Option String))}

theorem cellAt?_append_left {i : Nat} (hi : i < before.length) (j : Nat) :
    cellAt? (before ++ after) i j = cellAt? before i j := by
  rw [cellAt?, List.getD_append _ _ _ _ hi, cellAt?]

theorem cellAt?_append_right {i : Nat} (hi : before.length ≤ i) (j : Nat) :
    cellAt? (before ++ after) i j = cellAt? after (i - before.length) j := by
  rw [cellAt?, List.getD_append_right _ _ _ _ hi, cellAt?]

/-- A present cell does not lie in the rows without cells before and after the others. -/
theorem lt_of_cellAt?_between (hbefore : ∀ row ∈ before, isEmptyRow row = true)
    (hafter : ∀ row ∈ after, isEmptyRow row = true) {i j : Nat}
    (h : (cellAt? (before ++ (kept ++ after)) i j).isSome) :
    before.length ≤ i ∧ i < before.length + kept.length := by
  have hlead : before.length ≤ i := by
    by_contra hlt
    rw [cellAt?_append_left (by omega), cellAt?_of_isEmptyRow hbefore] at h
    cases h
  refine ⟨hlead, ?_⟩
  by_contra hge
  rw [cellAt?_append_right hlead, cellAt?_append_right (by omega),
    cellAt?_of_isEmptyRow hafter] at h
  cases h

theorem cellAt?_between (before after : List (List (Option String))) {k : Nat}
    (hk : k < kept.length) (j : Nat) :
    cellAt? (before ++ (kept ++ after)) (before.length + k) j = kept[k].getD j none := by
  rw [cellAt?_append_right (Nat.le_add_right _ _), Nat.add_sub_cancel_left,
    cellAt?_append_left hk, cellAt?, List.getD_eq_getElem _ _ hk]

end Between

theorem exists_append_trimRows (cells : List (List (Option String))) :
    ∃ after, cells = cells.takeWhile isEmptyRow ++ (trimRows cells ++ after) ∧
      ∀ row ∈ after, isEmptyRow row = true := by
  refine ⟨(cells.dropWhile isEmptyRow).rtakeWhile isEmptyRow, ?_, fun row hrow =>
    List.mem_rtakeWhile_imp hrow⟩
  have hsplit : trimRows cells ++ (cells.dropWhile isEmptyRow).rtakeWhile isEmptyRow =
      cells.dropWhile isEmptyRow := List.rdropWhile_append_rtakeWhile
  rw [hsplit, List.takeWhile_append_dropWhile]

theorem isEmptyRow_head_trimRows (h : trimRows cells ≠ []) :
    isEmptyRow ((trimRows cells).head h) = false := by
  have hprefix : trimRows cells <+: cells.dropWhile isEmptyRow := List.rdropWhile_prefix _ _
  obtain ⟨rest, hrest⟩ := hprefix
  have hne : cells.dropWhile isEmptyRow ≠ [] := by
    rw [← hrest]
    exact List.append_ne_nil_of_left_ne_nil h rest
  have hhead := List.head_dropWhile_not isEmptyRow hne
  simp only [← hrest, List.head_append_of_ne_nil h] at hhead
  exact hhead

theorem isEmptyRow_getLast_trimRows (h : trimRows cells ≠ []) :
    isEmptyRow ((trimRows cells).getLast h) = false :=
  Bool.not_eq_true _ ▸ List.rdropWhile_last_not _ _ h

/-! ## Columns -/

/-- The first cell of a row is present, and every present cell stands there or after it. -/
theorem firstCell?_eq_some {k : Nat} (h : firstCell? row = some k) :
    (row.getD k none).isSome ∧ ∀ j, (row.getD j none).isSome → k ≤ j := by
  obtain ⟨hk, hcell, hbefore⟩ := List.findIdx?_eq_some_iff_getElem.1 h
  refine ⟨by rwa [List.getD_eq_getElem _ _ hk], fun j hj => ?_⟩
  by_contra hlt
  rw [List.getD_eq_getElem _ _ (by omega)] at hj
  exact hbefore j (by omega) hj

theorem exists_firstCell?_eq_some {j : Nat} (h : (row.getD j none).isSome) :
    ∃ k, firstCell? row = some k := by
  refine Option.isSome_iff_exists.1 (Option.isSome_iff_ne_none.2 fun hnone => ?_)
  have hall := List.findIdx?_eq_none_iff.1 hnone
  have hempty : isEmptyRow row = true := List.all_eq_true.2 fun cell hcell => by
    simpa using hall cell hcell
  rw [isEmptyRow_iff.1 hempty j] at h
  cases h

theorem lt_width {j : Nat} (h : (row.getD j none).isSome) : j < width row := by
  have hsplit : row.rdropWhile Option.isNone ++ row.rtakeWhile Option.isNone = row :=
    List.rdropWhile_append_rtakeWhile
  have hwidth : (row.rdropWhile Option.isNone).length = width row := by
    rw [width, List.rdropWhile, List.length_reverse]
  have hempty : isEmptyRow (row.rtakeWhile Option.isNone) = true :=
    List.all_eq_true.2 fun cell hcell => List.mem_rtakeWhile_imp hcell
  by_contra hge
  rw [← hsplit, List.getD_append_right _ _ _ _ (by omega), isEmptyRow_iff.1 hempty] at h
  cases h

theorem isSome_getD_of_width {k : Nat} (h : width row = k + 1) : (row.getD k none).isSome := by
  have hprefix : row.rdropWhile Option.isNone <+: row := List.rdropWhile_prefix _ _
  have hwidth : (row.rdropWhile Option.isNone).length = k + 1 := by
    rw [← h, width, List.rdropWhile, List.length_reverse]
  have hne : row.rdropWhile Option.isNone ≠ [] := List.ne_nil_of_length_pos (by omega)
  have hlast := List.rdropWhile_last_not _ _ hne
  obtain ⟨rest, hrest⟩ := hprefix
  rw [← hrest, List.getD_append _ _ _ _ (by omega), List.getD_eq_getElem _ _ (by omega)]
  simpa [List.getLast_eq_getElem, hwidth, Option.isSome_iff_ne_none] using hlast

/-- The least column in which a row has its first cell. -/
def firstColumn (rows : List (List (Option String))) : Nat :=
  ((rows.filterMap firstCell?).min?).getD 0

/-- The column after the greatest in which a row has its last cell. -/
def endColumn (rows : List (List (Option String))) : Nat := ((rows.map width).max?).getD 0

theorem firstColumn_spec (hrow : row ∈ rows) {j : Nat} (h : (row.getD j none).isSome) :
    firstColumn rows ≤ j ∧ ∃ row ∈ rows, (row.getD (firstColumn rows) none).isSome := by
  obtain ⟨k, hk⟩ := exists_firstCell?_eq_some h
  have hmem : k ∈ rows.filterMap firstCell? := List.mem_filterMap.2 ⟨row, hrow, hk⟩
  cases hmin : (rows.filterMap firstCell?).min? with
  | none =>
    rw [List.min?_eq_none_iff.1 hmin] at hmem
    cases hmem
  | some first =>
    obtain ⟨hfirst, hleast⟩ := List.min?_eq_some_iff.1 hmin
    obtain ⟨row', hrow', hk'⟩ := List.mem_filterMap.1 hfirst
    have hcolumn : firstColumn rows = first := by rw [firstColumn, hmin, Option.getD_some]
    rw [hcolumn]
    exact ⟨(hleast k hmem).trans ((firstCell?_eq_some hk).2 j h), row', hrow',
      (firstCell?_eq_some hk').1⟩

theorem endColumn_spec (hrow : row ∈ rows) {j : Nat} (h : (row.getD j none).isSome) :
    j < endColumn rows ∧ ∃ row ∈ rows, (row.getD (endColumn rows - 1) none).isSome := by
  have hmem : width row ∈ rows.map width := List.mem_map_of_mem hrow
  cases hmax : (rows.map width).max? with
  | none =>
    rw [List.max?_eq_none_iff.1 hmax] at hmem
    cases hmem
  | some last =>
    obtain ⟨hlast, hgreatest⟩ := List.max?_eq_some_iff.1 hmax
    obtain ⟨row', hrow', hwidth⟩ := List.mem_map.1 hlast
    have hcolumn : endColumn rows = last := by rw [endColumn, hmax, Option.getD_some]
    have hlt : j < last := (lt_width h).trans_le (hgreatest _ hmem)
    rw [hcolumn]
    exact ⟨hlt, row', hrow', isSome_getD_of_width (by omega)⟩

/-! ## The rectangle that is read -/

/-- A rectangle with a cell on each of its sides lies in every one that holds all cells. -/
theorem Rectangle.isUsedRange_of_sides {r : Rectangle} (hcovers : r.Covers cells)
    (hsides : r.height ≠ 0 → (∃ j, (cellAt? cells r.top j).isSome) ∧
      (∃ j, (cellAt? cells (r.top + r.height - 1) j).isSome) ∧
      (∃ i, (cellAt? cells i r.left).isSome) ∧
      ∃ i, (cellAt? cells i (r.left + r.width - 1)).isSome) : r.IsUsedRange cells where
  covers := hcovers
  least := by
    intro r' hcovers' i j hholds
    unfold Holds at hholds
    obtain ⟨⟨_, htop⟩, ⟨_, hbottom⟩, ⟨_, hleft⟩, ⟨_, hright⟩⟩ := hsides (by omega)
    have htop := hcovers' _ _ htop
    have hbottom := hcovers' _ _ hbottom
    have hleft := hcovers' _ _ hleft
    have hright := hcovers' _ _ hright
    unfold Holds at *
    omega
  height_eq_zero := by
    intro hnone
    by_contra hheight
    obtain ⟨⟨j, hj⟩, -⟩ := hsides hheight
    rw [hnone] at hj
    cases hj

/-- The rectangle whose texts are read. -/
def usedRectangle (cells : List (List (Option String))) : Rectangle where
  top := (cells.takeWhile isEmptyRow).length
  left := firstColumn (trimRows cells)
  height := (trimRows cells).length
  width := endColumn (trimRows cells) - firstColumn (trimRows cells)

theorem cellAt?_usedRectangle {k : Nat} (hk : k < (trimRows cells).length) (j : Nat) :
    cellAt? cells ((usedRectangle cells).top + k) j = (trimRows cells)[k].getD j none := by
  obtain ⟨after, hcells, -⟩ := exists_append_trimRows cells
  have hbetween := cellAt?_between (cells.takeWhile isEmptyRow) after hk j
  rwa [← hcells] at hbetween

theorem exists_kept_of_cellAt? {i j : Nat} (h : (cellAt? cells i j).isSome) :
    ∃ k, ∃ hk : k < (trimRows cells).length, i = (usedRectangle cells).top + k ∧
      ((trimRows cells)[k].getD j none).isSome := by
  obtain ⟨after, hcells, hafter⟩ := exists_append_trimRows cells
  have hbefore : ∀ row ∈ cells.takeWhile isEmptyRow, isEmptyRow row = true :=
    fun row hrow => List.mem_takeWhile_imp hrow
  have hbounds : (usedRectangle cells).top ≤ i ∧
      i < (usedRectangle cells).top + (trimRows cells).length :=
    lt_of_cellAt?_between hbefore hafter (hcells ▸ h)
  obtain ⟨k, rfl⟩ := Nat.exists_eq_add_of_le hbounds.1
  have hk : k < (trimRows cells).length := by omega
  exact ⟨k, hk, rfl, cellAt?_usedRectangle hk j ▸ h⟩

theorem isUsedRange_usedRectangle (cells : List (List (Option String))) :
    (usedRectangle cells).IsUsedRange cells := by
  refine Rectangle.isUsedRange_of_sides (fun i j h => ?_) fun hheight => ?_
  · obtain ⟨k, hk, rfl, hcell⟩ := exists_kept_of_cellAt? h
    have hfirst := (firstColumn_spec (List.getElem_mem hk) hcell).1
    have hend := (endColumn_spec (List.getElem_mem hk) hcell).1
    show (_ ∧ _ < _ + (trimRows cells).length) ∧ firstColumn (trimRows cells) ≤ j ∧
      j < firstColumn (trimRows cells) + (endColumn _ - firstColumn _)
    omega
  · have hpos : 0 < (trimRows cells).length := Nat.pos_of_ne_zero hheight
    have hne : trimRows cells ≠ [] := List.ne_nil_of_length_pos hpos
    have hhead := isEmptyRow_head_trimRows hne
    have hlast := isEmptyRow_getLast_trimRows hne
    rw [List.head_eq_getElem] at hhead
    rw [List.getLast_eq_getElem] at hlast
    obtain ⟨j, hj⟩ := exists_cell_of_isEmptyRow_eq_false hhead
    obtain ⟨j', hj'⟩ := exists_cell_of_isEmptyRow_eq_false hlast
    obtain ⟨-, row, hrow, hleft⟩ := firstColumn_spec (List.getElem_mem hpos) hj
    obtain ⟨hend, row', hrow', hright⟩ := endColumn_spec (List.getElem_mem hpos) hj
    obtain ⟨k, hk, rfl⟩ := List.mem_iff_getElem.1 hrow
    obtain ⟨k', hk', rfl⟩ := List.mem_iff_getElem.1 hrow'
    have hfirst := (firstColumn_spec hrow' hright).1
    have hheight : (usedRectangle cells).height = (trimRows cells).length := rfl
    have hwidth : (usedRectangle cells).left + (usedRectangle cells).width - 1 =
        endColumn (trimRows cells) - 1 := by
      show firstColumn _ + (endColumn _ - firstColumn _) - 1 = _
      omega
    refine ⟨⟨j, ?_⟩, ⟨j', ?_⟩, ⟨(usedRectangle cells).top + k, ?_⟩,
      (usedRectangle cells).top + k', ?_⟩
    · rw [← Nat.add_zero (usedRectangle cells).top, cellAt?_usedRectangle hpos]
      exact hj
    · rw [hheight, Nat.add_sub_assoc hpos, cellAt?_usedRectangle (by omega)]
      exact hj'
    · rw [cellAt?_usedRectangle hk]
      exact hleft
    · rw [hwidth, cellAt?_usedRectangle hk']
      exact hright

theorem usedRange_eq_texts {r : Rectangle} (h : r.IsUsedRange cells) :
    usedRange cells = r.texts cells := by
  have hrange : usedRange cells = (trimRows cells).map fun row =>
      (List.range (usedRectangle cells).width).map fun j =>
        (row.getD ((usedRectangle cells).left + j) none).getD "" := by
    refine List.map_congr_left fun row _ => ?_
    rw [List.range'_eq_map_range, List.map_map]
    rfl
  rw [h.texts_eq (isUsedRange_usedRectangle cells), hrange]
  refine List.ext_getElem (by simp [Rectangle.texts, usedRectangle]) fun k hk _ => ?_
  have hrow : k < (trimRows cells).length := by simpa using hk
  simp only [Rectangle.texts, Rectangle.rowTexts, List.getElem_map, List.getElem_range]
  refine List.map_congr_left fun j _ => ?_
  rw [Rectangle.text, cellAt?_usedRectangle hrow]

end SeedScript.Sheet
