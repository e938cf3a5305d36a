import SeedScript.Proofs.Batch.FirstFault
import SeedScript.Proofs.Column.Kinds

/-!
# The column that finds the owner

A many-to-many key names, in its last segment, the column by which a seeded row is found again. The
many-to-many delimiter does not stand in a segment, so this column belongs to the seeded table, and
the first row must have it. Junction tables are therefore never filled without a column of the
seeded table: a first row of many-to-many keys alone is refused (`Batch.ofRows_owners`).
-/

namespace SeedScript

variable {c : Config} {d : Delimiters} {schema table key : String} {keys : List String}
  {first : Row} {rest : List Row}

/-- The column of the owner is a column of the seeded table. -/
theorem Junction.kind_firstSearchKey (hmany : d.manyToMany ≠ "") {j : Junction}
    (h : Junction.ofKey d schema table key = .ok j) : d.kind j.firstSearchKey ≠ .manyToMany := by
  obtain ⟨joinKey, hsegments, -⟩ := ofKey_eq_ok_iff.1 h
  have hmem : j.firstSearchKey ∈ Text.split d.manyToMany key := by
    show j.firstSearchKey ∈ d.segments .manyToMany key
    rw [hsegments]
    simp
  rw [ne_eq, Delimiters.kind_eq_manyToMany_iff, Delimiters.isManyToMany_iff]
  exact Text.not_isInfix_of_mem_split hmany hmem

namespace Delimiters

/-- Every row needs the column of the owner of each many-to-many key. -/
theorem ownerColumn_mem_requiredKeys (h : key ∈ d.junctionKeys keys) :
    d.ownerColumn key ∈ d.requiredKeys keys :=
  List.mem_append_right _ (List.mem_flatMap.2 ⟨key, h, by simp⟩)

end Delimiters

/-! ## Batches that are built -/

theorem Layout.firstSearchKey_mem_root (hmany : d.manyToMany ≠ "") {layout : Layout}
    (hlayout : Layout.ofKeys d schema table first.keys = .ok layout) (hcovers : layout.Covers first)
    {column : JunctionColumn} (hcolumn : column ∈ layout.junctions) :
    column.junction.firstSearchKey ∈ layout.root.map RootColumn.key := by
  obtain ⟨-, hof⟩ := ofKey_of_mem_junctions hlayout hcolumn
  rw [map_key_root hlayout]
  exact Delimiters.mem_rootKeys_iff.2 ⟨(hcovers.2 column hcolumn).2,
    Junction.kind_firstSearchKey hmany (JunctionColumn.ofKey_eq_ok_iff.1 hof).2.1⟩

/-- The seeded table has a column as soon as the first row has a key. -/
theorem Layout.map_key_root_eq_nil_iff (hmany : d.manyToMany ≠ "") {layout : Layout}
    (hlayout : Layout.ofKeys d schema table first.keys = .ok layout)
    (hcovers : layout.Covers first) : layout.root.map RootColumn.key = [] ↔ first.keys = [] := by
  constructor
  · intro hroot
    have hjunctions : layout.junctions = [] :=
      List.eq_nil_iff_forall_not_mem.2 fun column hcolumn => by
        have hmem := firstSearchKey_mem_root hmany hlayout hcovers hcolumn
        rw [hroot] at hmem
        cases hmem
    refine List.eq_nil_iff_forall_not_mem.2 fun key hkey => ?_
    by_cases hkind : d.kind key = .manyToMany
    · have hmem : key ∈ layout.junctions.map JunctionColumn.key :=
        map_key_junctions hlayout ▸ Delimiters.mem_junctionKeys_iff.2 ⟨hkey, hkind⟩
      rw [hjunctions] at hmem
      cases hmem
    · have hmem : key ∈ layout.root.map RootColumn.key :=
        map_key_root hlayout ▸ Delimiters.mem_rootKeys_iff.2 ⟨hkey, hkind⟩
      rw [hroot] at hmem
      cases hmem
  · intro hkeys
    rw [map_key_root hlayout, hkeys]
    rfl

/-! ## Batches that are refused -/

/-- A first row that lacks a key that every row needs is refused before any other row. -/
theorem Batch.rowFault?_of_missing (rest : List Row) (start : Nat)
    (h : ∃ key ∈ keys, key ∉ first.keys) :
    ∃ key, rowFault? keys start (first :: rest) = some (.missingCell start key) := by
  rw [rowFault?_cons]
  cases hmissing : first.missing? start keys with
  | none =>
    obtain ⟨key, hkey, hnot⟩ := h
    exact absurd (Row.missing?_eq_none_iff.1 hmissing key hkey) hnot
  | some e =>
    obtain ⟨key, rfl⟩ := Row.missing?_eq_some hmissing
    exact ⟨key, rfl⟩

theorem Batch.exists_junction (hfault : keyFault? d schema table keys = none) {relation : String}
    (h : relation ∈ d.junctionKeys keys) :
    ∃ j, Junction.ofKey d schema table relation = .ok j ∧
      j.firstSearchKey = d.ownerColumn relation := by
  obtain ⟨layout, hlayout⟩ := Layout.failsWith_ofKeys.exists_ok_iff.2 hfault
  obtain ⟨column, hcolumn, rfl⟩ := List.mem_map.1 (Layout.map_key_junctions hlayout ▸ h)
  obtain ⟨-, hof⟩ := Layout.ofKey_of_mem_junctions hlayout hcolumn
  exact ⟨column.junction, (JunctionColumn.ofKey_eq_ok_iff.1 hof).2.1,
    (JunctionColumn.ownerColumn_eq hof).symm⟩

/-- Where the first row has many-to-many keys only, one of them is refused for its format, or the
first row for a cell that it lacks. -/
theorem Batch.fault?_of_junctionKeys (hmany : d.manyToMany ≠ "") (hne : first.keys ≠ [])
    (hkinds : ∀ key ∈ first.keys, d.kind key = .manyToMany) :
    ∃ e, fault? d schema table (first :: rest) = some e ∧
      ((∃ key, e = .missingCell 0 key) ∨
        ∃ kind key found, e = .relationFormat kind key (d.of kind) found) := by
  rw [fault?_cons]
  cases hfault : keyFault? d schema table first.keys with
  | some e => exact ⟨e, rfl, .inr (keyFault?_eq_some hfault)⟩
  | none =>
    obtain ⟨key, hkey⟩ := List.exists_mem_of_ne_nil _ hne
    have hjunction : key ∈ d.junctionKeys first.keys :=
      Delimiters.mem_junctionKeys_iff.2 ⟨hkey, hkinds key hkey⟩
    obtain ⟨j, hj, hsearch⟩ := exists_junction hfault hjunction
    have howner : d.ownerColumn key ∉ first.keys := by
      rw [← hsearch]
      exact fun hmem => Junction.kind_firstSearchKey hmany hj (hkinds _ hmem)
    obtain ⟨missing, hmissing⟩ := rowFault?_of_missing rest 0
      ⟨_, Delimiters.ownerColumn_mem_requiredKeys hjunction, howner⟩
    exact ⟨_, hmissing, .inl ⟨missing, rfl⟩⟩

/-! ## Both -/

/-- In a batch the column that finds the owner of each junction row is a column of the seeded table.
So the seeded table is without columns only if the first row is without keys, and then there are no
junction tables. A first row that has many-to-many keys and no others is refused, for the format of
a key or for a cell that it lacks. -/
theorem Batch.ofRows_owners (hc : c.Valid) (schema table : String) (first : Row)
    (rest : List Row) :
    (∀ b, Batch.ofRows c schema table (first :: rest) = .ok b →
      ∃ root junctions, b.statements = root :: junctions ∧
        (∀ key ∈ first.keys, c.delimiters.kind key = .manyToMany →
          ∃ j, Junction.ofKey c.delimiters schema table key = .ok j ∧
            j.firstSearchKey ∈ root.columns) ∧
        (root.columns = [] ↔ first.keys = []) ∧ (first.keys = [] → junctions = []) ∧
        ∀ s ∈ junctions, s.columns ≠ []) ∧
    (first.keys ≠ [] → (∀ key ∈ first.keys, c.delimiters.kind key = .manyToMany) →
      ∃ e, Batch.ofRows c schema table (first :: rest) = .error e ∧
        ((∃ key, e = .missingCell 0 key) ∨
          ∃ kind key found, e = .relationFormat kind key (c.delimiters.of kind) found)) := by
  have hmany := (c.valid_iff.1 hc).2.1
  constructor
  · intro b hb
    obtain ⟨_, _, layout, hrows, hlayout, hcovers, hstatements⟩ := Batch.ofRows_eq_ok_iff.1 hb
    obtain ⟨rfl, rfl⟩ := List.cons_eq_cons.1 hrows
    have hfirst := hcovers first List.mem_cons_self
    refine ⟨_, _, hstatements, fun key hkey hkind => ?_,
      Layout.map_key_root_eq_nil_iff hmany hlayout hfirst, fun hkeys => ?_, fun s hs => ?_⟩
    · have hmem : key ∈ layout.junctions.map JunctionColumn.key :=
        Layout.map_key_junctions hlayout ▸ Delimiters.mem_junctionKeys_iff.2 ⟨hkey, hkind⟩
      obtain ⟨column, hcolumn, rfl⟩ := List.mem_map.1 hmem
      obtain ⟨-, hof⟩ := Layout.ofKey_of_mem_junctions hlayout hcolumn
      exact ⟨column.junction, (JunctionColumn.ofKey_eq_ok_iff.1 hof).2.1,
        Layout.firstSearchKey_mem_root hmany hlayout hfirst hcolumn⟩
    · have hjunctions := Layout.map_key_junctions hlayout
      rw [hkeys] at hjunctions
      rw [List.map_eq_nil_iff.1 hjunctions]
      rfl
    · obtain ⟨column, -, rfl⟩ := List.mem_map.1 hs
      exact List.cons_ne_nil _ _
  · intro hne hkinds
    obtain ⟨e, he, hcause⟩ := fault?_of_junctionKeys hmany hne hkinds
    exact ⟨e, (failsWith_ofRows c schema table _ e).2 he, hcause⟩

/-- A product with two tags, and tags of a product without the name that finds it. -/
theorem Batch.ofRows_owners_tags :
    Config.standard.Valid ∧
      (∃ b root junctions, Batch.ofRows .standard "" "products"
          [.ofList [("tag_id***product_tags***tags***tag_name***name", "a|b"),
            ("name", "Laptop")]] = .ok b ∧
        b.statements = root :: junctions ∧ root.columns ≠ [] ∧
        ∃ j, Junction.ofKey .standard "" "products"
            "tag_id***product_tags***tags***tag_name***name" = .ok j ∧
          j.firstSearchKey ∈ root.columns) ∧
      ∃ e, Batch.ofRows .standard "" "products"
          [.ofList [("tag_id***product_tags***tags***tag_name***name", "a|b")]] = .error e ∧
        ((∃ key, e = .missingCell 0 key) ∨ ∃ kind key found,
          e = .relationFormat kind key (Config.standard.delimiters.of kind) found) := by
  obtain ⟨b, hb⟩ := exists_eq_ok_of_isOk (x := Batch.ofRows .standard "" "products"
    [.ofList [("tag_id***product_tags***tags***tag_name***name", "a|b"), ("name", "Laptop")]])
    (by decide +kernel)
  obtain ⟨root, junctions, hstatements, howners, hcolumns, -⟩ :=
    (Batch.ofRows_owners Config.valid_standard "" "products" _ []).1 b hb
  refine ⟨Config.valid_standard, ⟨b, root, junctions, hb, hstatements, fun hnil => ?_,
    howners _ (by decide +kernel) (by decide +kernel)⟩, ?_⟩
  · exact absurd (hcolumns.1 hnil) (by decide +kernel)
  · exact (Batch.ofRows_owners Config.valid_standard "" "products" _ []).2 (by decide +kernel)
      (by decide +kernel)

end SeedScript
