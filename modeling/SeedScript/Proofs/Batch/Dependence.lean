import SeedScript.Proofs.Batch.ClosedForm

/-!
# What a batch depends on

Of every row a batch depends only on the cells under the keys of the first row. The order of the
keys in later rows does not matter, and keys that the first row lacks are never looked at, although
the column that finds an owner is named inside a key and not taken from the list of keys. Where the
first row lacks that column, it is refused before another row is read (`Batch.ofRows_congr`).
-/

namespace SeedScript

variable {c : Config} {schema table : String}

/-- Under some keys two rows have the same cells and lack the same. -/
def Row.AgreesOn (keys : List String) (row row' : Row) : Prop :=
  ∀ key ∈ keys, row.get? key = row'.get? key

instance (keys : List String) (row row' : Row) : Decidable (row.AgreesOn keys row') :=
  inferInstanceAs (Decidable (∀ key ∈ keys, row.get? key = row'.get? key))

theorem Row.AgreesOn.mono {keys keys' : List String} {row row' : Row} (h : row.AgreesOn keys row')
    (hsub : keys' ⊆ keys) : row.AgreesOn keys' row' :=
  fun key hkey => h key (hsub hkey)

/-- Rows that have the same keys, and agree on them, agree on every key. -/
theorem Row.AgreesOn.get?_eq {row row' : Row} (h : row.AgreesOn row.keys row')
    (hkeys : row'.keys = row.keys) (key : String) : row.get? key = row'.get? key := by
  by_cases hkey : key ∈ row.keys
  · exact h key hkey
  · have hrow := Record.isSome_get?_iff.not.2 hkey
    have hrow' := Record.isSome_get?_iff.not.2 (hkeys ▸ hkey)
    rw [Option.not_isSome_iff_eq_none.1 hrow, Option.not_isSome_iff_eq_none.1 hrow']

theorem Row.cell_congr {row row' : Row} {key : String} (h : row.get? key = row'.get? key)
    (index : Nat) : row.cell index key = row'.cell index key := by
  rw [cell, cell, h]

namespace Layout

variable {layout : Layout} {row row' : Row}

/-- The keys that a layout takes cells from. -/
def readKeys (layout : Layout) : List String :=
  layout.root.map RootColumn.key ++
    layout.junctions.flatMap fun column => [column.key, column.junction.firstSearchKey]

theorem key_mem_readKeys {column : RootColumn} (h : column ∈ layout.root) :
    column.key ∈ layout.readKeys :=
  List.mem_append_left _ (List.mem_map_of_mem h)

theorem keys_mem_readKeys {column : JunctionColumn} (h : column ∈ layout.junctions) :
    column.key ∈ layout.readKeys ∧ column.junction.firstSearchKey ∈ layout.readKeys := by
  constructor
  · exact List.mem_append_right _ (List.mem_flatMap.2 ⟨column, h, by simp⟩)
  · exact List.mem_append_right _ (List.mem_flatMap.2 ⟨column, h, by simp⟩)

theorem Covers.readKeys_subset (h : layout.Covers row) : layout.readKeys ⊆ row.keys := by
  intro key hkey
  rcases List.mem_append.1 hkey with hkey | hkey
  · obtain ⟨column, hcolumn, rfl⟩ := List.mem_map.1 hkey
    exact h.1 column hcolumn
  · obtain ⟨column, hcolumn, hkey⟩ := List.mem_flatMap.1 hkey
    obtain ⟨hcell, howner⟩ := h.2 column hcolumn
    rcases List.mem_cons.1 hkey with rfl | hkey
    · exact hcell
    · exact List.mem_singleton.1 hkey ▸ howner

/-- A row is expanded from the cells under the keys that are read. -/
theorem expand_congr (h : row.AgreesOn layout.readKeys row') (index : Nat) :
    layout.expand c row index = layout.expand c row' index := by
  have hroot : layout.root.mapM (RootColumn.cell c.mode row index) =
      layout.root.mapM (RootColumn.cell c.mode row' index) := by
    refine mapM_congr fun column hcolumn => ?_
    unfold RootColumn.cell
    rw [Row.cell_congr (h _ (key_mem_readKeys hcolumn))]
  have hjunctions : layout.junctions.mapM (JunctionColumn.rows c row index) =
      layout.junctions.mapM (JunctionColumn.rows c row' index) := by
    refine mapM_congr fun column hcolumn => ?_
    obtain ⟨hkey, howner⟩ := keys_mem_readKeys hcolumn
    unfold JunctionColumn.rows
    rw [Row.cell_congr (h _ hkey), Row.cell_congr (h _ howner)]
  unfold expand
  rw [hroot, hjunctions]

end Layout

/-- Once the first row is expanded, its keys are all that is read of the other rows. -/
theorem Layout.mapM_expand_congr {layout : Layout} {first first' : Row} {rest rest' : List Row}
    (hkeys : first'.keys = first.keys)
    (hrows : List.Forall₂ (Row.AgreesOn first.keys) (first :: rest) (first' :: rest')) :
    ((first :: rest).zipIdx.mapM fun row => layout.expand c row.1 row.2) =
      (first' :: rest').zipIdx.mapM fun row => layout.expand c row.1 row.2 := by
  obtain ⟨hfirst, hrest⟩ := List.forall₂_cons.1 hrows
  have hexpand : layout.expand c first 0 = layout.expand c first' 0 :=
    Layout.expand_congr (fun key _ => hfirst.get?_eq hkeys key) 0
  rw [List.zipIdx_cons, List.zipIdx_cons, List.mapM_cons, List.mapM_cons, ← hexpand]
  cases hresult : layout.expand c first 0 with
  | error e => rfl
  | ok expansion =>
    have hsub := (Layout.expand_eq_ok_iff.1 hresult).1.readKeys_subset
    have hexpands : List.Forall₂ (fun row row' => ∀ index,
        layout.expand c row index = layout.expand c row' index) rest rest' :=
      hrest.imp fun _ _ hrow => Layout.expand_congr (hrow.mono hsub)
    rw [mapM_zipIdx_congr hexpands]

/-- Rows that agree on the keys of the first row become the same statements, or are refused with the
same error. -/
theorem Batch.ofRows_congr (c : Config) (schema table : String) {first first' : Row}
    {rest rest' : List Row} (hkeys : first'.keys = first.keys)
    (hrows : List.Forall₂ (Row.AgreesOn first.keys) (first :: rest) (first' :: rest')) :
    Batch.ofRows c schema table (first :: rest) =
      Batch.ofRows c schema table (first' :: rest') := by
  simp only [ofRows, hkeys]
  cases Layout.ofKeys c.delimiters schema table first.keys with
  | error e => rfl
  | ok layout =>
    show ((first :: rest).zipIdx.mapM fun row => layout.expand c row.1 row.2) >>= _ = _
    rw [Layout.mapM_expand_congr hkeys hrows]
    rfl

/-- A row of tags with other cells. -/
def tagsRow (tags : String) (before after : List (String × String)) : Row :=
  .ofList (before ++ ("tag_id***product_tags***tags***tag_name***name", tags) :: after)

/-- A second row with its keys in another order and a note is the same. A name in the second row
does not help a first row that lacks it. -/
theorem Batch.ofRows_congr_tags :
    (List.Forall₂ (Row.AgreesOn (tagsRow "a|b" [("name", "Laptop")] []).keys)
        [tagsRow "a|b" [("name", "Laptop")] [], tagsRow "a" [("name", "Phone")] []]
        [tagsRow "a|b" [("name", "Laptop")] [],
          tagsRow "a" [("note", "new")] [("name", "Phone")]] ∧
      ofRows .standard "" "products"
          [tagsRow "a|b" [("name", "Laptop")] [], tagsRow "a" [("name", "Phone")] []] =
        ofRows .standard "" "products" [tagsRow "a|b" [("name", "Laptop")] [],
          tagsRow "a" [("note", "new")] [("name", "Phone")]]) ∧
    List.Forall₂ (Row.AgreesOn (tagsRow "a|b" [] []).keys)
        [tagsRow "a|b" [] [], tagsRow "a" [] []]
        [tagsRow "a|b" [] [], tagsRow "a" [] [("name", "Phone")]] ∧
      ofRows .standard "" "products" [tagsRow "a|b" [] [], tagsRow "a" [] []] =
        ofRows .standard "" "products"
          [tagsRow "a|b" [] [], tagsRow "a" [] [("name", "Phone")]] := by
  have hordered : List.Forall₂ (Row.AgreesOn (tagsRow "a|b" [("name", "Laptop")] []).keys)
      [tagsRow "a|b" [("name", "Laptop")] [], tagsRow "a" [("name", "Phone")] []]
      [tagsRow "a|b" [("name", "Laptop")] [], tagsRow "a" [("note", "new")] [("name", "Phone")]] :=
    .cons (by decide +kernel) (.cons (by decide +kernel) .nil)
  have hnamed : List.Forall₂ (Row.AgreesOn (tagsRow "a|b" [] []).keys)
      [tagsRow "a|b" [] [], tagsRow "a" [] []]
      [tagsRow "a|b" [] [], tagsRow "a" [] [("name", "Phone")]] :=
    .cons (by decide +kernel) (.cons (by decide +kernel) .nil)
  exact ⟨⟨hordered, Batch.ofRows_congr .standard "" "products" rfl hordered⟩, hnamed,
    Batch.ofRows_congr .standard "" "products" rfl hnamed⟩

end SeedScript
