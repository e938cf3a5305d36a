import SeedScript.Proofs.Batch.Errors

/-!
# Lookups of a junction, written and read again

The two lookups of a junction are written as column keys and read again before any row is looked at.
Each comes back exactly when it is encodable, whatever the segments of the many-to-many key are: no
segment may have the one-to-many delimiter in it, and yet the name of the schema, the primary key
made from the name of the table, or an occurrence that begins at the end of a name can put it where
it separates other names. `Batch.ofRows_lookups` says what follows for a whole build when every
lookup is encodable: no error names a key that the first row does not have, and rows are looked up
through the names that the keys hold.
-/

namespace SeedScript

/-- Both lookups of the junction in a key are encodable, if the key holds one. -/
def Delimiters.KeepsLookups (d : Delimiters) (schema table key : String) : Prop :=
  ∀ joinKey joinTable secondTable secondSearch firstSearch,
    d.segments .manyToMany key = [joinKey, joinTable, secondTable, secondSearch, firstSearch] →
      (Lookup.ofOwner schema table firstSearch).Encodable d ∧
        Lookup.Encodable d ⟨secondTable, joinKey, secondSearch⟩

/-- The statement holds, for every row and every token of its cell, the subquery of the row's owner
and that of the token, through the names in the segments of a key. -/
def Statement.JoinsThrough (c : Config) (schema table : String) (rows : List Row) (key : String)
    (s : Statement) : Prop :=
  ∃ joinKey joinTable secondTable secondSearch firstSearch ownerKey itemKey,
    c.delimiters.segments .manyToMany key =
        [joinKey, joinTable, secondTable, secondSearch, firstSearch] ∧
      s.table = joinTable ∧ s.columns = [ownerKey, itemKey] ∧
      s.rows = rows.flatMap fun row =>
        (Text.split c.rowItemDelimiter (row.text key)).map fun token => .ofList [
          (ownerKey, .subquery (Lookup.subquery c.mode
            ⟨Naming.qualified schema table, Naming.primaryKey table, firstSearch⟩
            (row.text firstSearch))),
          (itemKey, .subquery (Lookup.subquery c.mode ⟨secondTable, joinKey, secondSearch⟩ token))]

variable {c : Config} {d : Delimiters} {schema table key : String}

/-! ## One key -/

/-- A key of five segments is read as a junction, and each of its lookups comes back from the key
that it is written as exactly when it is encodable. -/
theorem Junction.ofKey_lookups (hd : d.oneToMany ≠ "")
    {joinKey joinTable secondTable secondSearch firstSearch : String}
    (hkey : d.segments .manyToMany key =
      [joinKey, joinTable, secondTable, secondSearch, firstSearch]) :
    ∃ j, Junction.ofKey d schema table key = .ok j ∧ j.table = joinTable ∧
      j.firstSearchKey = firstSearch ∧
      (Lookup.ofKey d j.ownerKey = .ok (Lookup.ofOwner schema table firstSearch) ↔
        (Lookup.ofOwner schema table firstSearch).Encodable d) ∧
      (Lookup.ofKey d j.itemKey = .ok ⟨secondTable, joinKey, secondSearch⟩ ↔
        Lookup.Encodable d ⟨secondTable, joinKey, secondSearch⟩) := by
  refine ⟨⟨joinTable, table, secondTable, firstSearch, secondSearch,
    (Lookup.ofOwner schema table firstSearch).key d,
    Lookup.key d ⟨secondTable, joinKey, secondSearch⟩⟩,
    Junction.ofKey_eq_ok_iff.2 ⟨joinKey, hkey, rfl, rfl, rfl⟩, rfl, rfl, ?_, ?_⟩
  · exact Lookup.ofKey_key_iff hd
  · exact Lookup.ofKey_key_iff hd

theorem JunctionColumn.ofKey_eq_error_of_keeps (hd : d.oneToMany ≠ "")
    (hkeeps : d.KeepsLookups schema table key) {e : SeedError}
    (h : JunctionColumn.ofKey d schema table key = .error e) :
    ∃ found, e = .relationFormat .manyToMany key d.manyToMany found := by
  rcases ofKey_eq_error_iff.1 h with h | ⟨j, hj, h⟩
  · exact ⟨_, (Junction.ofKey_eq_error_iff.1 h).2⟩
  · obtain ⟨joinKey, hkey, -, howner, hitem⟩ := Junction.ofKey_eq_ok_iff.1 hj
    obtain ⟨hkeepsOwner, hkeepsItem⟩ := hkeeps _ _ _ _ _ hkey
    rw [howner, (Lookup.ofKey_key_iff hd).2 hkeepsOwner, hitem,
      (Lookup.ofKey_key_iff hd).2 hkeepsItem] at h
    rcases h with h | ⟨-, h⟩ <;> cases h

theorem JunctionColumn.statementOf_joinsThrough (hd : c.delimiters.oneToMany ≠ "")
    {column : JunctionColumn} (hkeeps : c.delimiters.KeepsLookups schema table column.key)
    (hof : JunctionColumn.ofKey c.delimiters schema table column.key = .ok column)
    (rows : List Row) :
    (column.statementOf c rows).JoinsThrough c schema table rows column.key := by
  obtain ⟨-, hjunction, howner, hitem⟩ := ofKey_eq_ok_iff.1 hof
  obtain ⟨joinKey, hkey, -, hownerKey, hitemKey⟩ := Junction.ofKey_eq_ok_iff.1 hjunction
  obtain ⟨hkeepsOwner, hkeepsItem⟩ := hkeeps _ _ _ _ _ hkey
  rw [hownerKey, (Lookup.ofKey_key_iff hd).2 hkeepsOwner, Except.ok.injEq] at howner
  rw [hitemKey, (Lookup.ofKey_key_iff hd).2 hkeepsItem, Except.ok.injEq] at hitem
  refine ⟨joinKey, column.junction.table, column.junction.secondTable,
    column.junction.secondSearchKey, column.junction.firstSearchKey, column.junction.ownerKey,
    column.junction.itemKey, hkey, rfl, rfl, ?_⟩
  show rows.flatMap (column.records c) = _
  refine List.flatMap_congr fun row _ => ?_
  rw [records]
  refine List.map_congr_left fun token _ => ?_
  rw [join, ← howner, ← hitem]
  rfl

/-! ## A build -/

theorem Layout.ofKeys_eq_error_of_keeps (hd : d.oneToMany ≠ "") {keys : List String}
    (hkeeps : ∀ key ∈ keys, d.KeepsLookups schema table key) {e : SeedError}
    (h : Layout.ofKeys d schema table keys = .error e) :
    ∃ kind, ∃ key ∈ keys, ∃ delimiter found, e = .relationFormat kind key delimiter found := by
  rcases ofKeys_eq_error_iff.1 h with h | ⟨-, h⟩
  · obtain ⟨before, key, after, hkeys, -, hof⟩ := mapM_eq_error_iff.1 h
    have hmem : key ∈ d.rootKeys keys := hkeys ▸ List.mem_append_right _ List.mem_cons_self
    have herror := (Lookup.ofKey_eq_error_iff.1 (RootColumn.ofKey_eq_error_iff.1 hof).2).2
    exact ⟨_, key, (Delimiters.mem_rootKeys_iff.1 hmem).1, _, _, herror⟩
  · obtain ⟨before, key, after, hkeys, -, hof⟩ := mapM_eq_error_iff.1 h
    have hmem : key ∈ d.junctionKeys keys := hkeys ▸ List.mem_append_right _ List.mem_cons_self
    have hkey := (Delimiters.mem_junctionKeys_iff.1 hmem).1
    obtain ⟨found, herror⟩ := JunctionColumn.ofKey_eq_error_of_keeps hd (hkeeps key hkey) hof
    exact ⟨_, key, hkey, _, _, herror⟩

/-- Every many-to-many key of five segments holds a junction, whose lookups come back exactly when
they are encodable. Where those of every key of the first row are, a format error names one of these
keys, and junction rows are looked up through the names in them. -/
theorem Batch.ofRows_lookups (hc : c.Valid) (schema table : String) :
    (∀ key joinKey joinTable secondTable secondSearch firstSearch,
      c.delimiters.segments .manyToMany key =
          [joinKey, joinTable, secondTable, secondSearch, firstSearch] →
        ∃ j, Junction.ofKey c.delimiters schema table key = .ok j ∧
          (Lookup.ofKey c.delimiters j.ownerKey =
              .ok ⟨Naming.qualified schema table, Naming.primaryKey table, firstSearch⟩ ↔
            Lookup.Encodable c.delimiters
              ⟨Naming.qualified schema table, Naming.primaryKey table, firstSearch⟩) ∧
          (Lookup.ofKey c.delimiters j.itemKey = .ok ⟨secondTable, joinKey, secondSearch⟩ ↔
            Lookup.Encodable c.delimiters ⟨secondTable, joinKey, secondSearch⟩)) ∧
      ∀ first rest, (∀ key ∈ first.keys, c.delimiters.KeepsLookups schema table key) →
        (∀ kind column delimiter found,
          Batch.ofRows c schema table (first :: rest) =
            .error (.relationFormat kind column delimiter found) → column ∈ first.keys) ∧
        ∀ b, Batch.ofRows c schema table (first :: rest) = .ok b →
          List.Forall₂ (fun key s => s.JoinsThrough c schema table (first :: rest) key)
            (c.delimiters.junctionKeys first.keys) b.junctions := by
  have hd : c.delimiters.oneToMany ≠ "" := (c.valid_iff.1 hc).1
  refine ⟨fun key joinKey joinTable secondTable secondSearch firstSearch hkey => ?_,
    fun first rest hkeeps => ⟨fun kind column delimiter found h => ?_, fun b h => ?_⟩⟩
  · obtain ⟨j, hj, -, -, howner, hitem⟩ := Junction.ofKey_lookups hd hkey
    exact ⟨j, hj, howner, hitem⟩
  · have hlayout := Batch.ofKeys_eq_error_of_ofRows h fun _ _ => SeedError.noConfusion
    obtain ⟨_, key, hkey, _, _, he⟩ := Layout.ofKeys_eq_error_of_keeps hd hkeeps hlayout
    injection he with _ hcolumn
    exact hcolumn ▸ hkey
  · obtain ⟨_, _, layout, hrows, hlayout, -, hb⟩ := Batch.ofRows_eq_ok_iff.1 h
    obtain ⟨rfl, rfl⟩ := List.cons_eq_cons.1 hrows
    rw [Batch.junctions, hb, List.tail_cons, ← Layout.map_key_junctions hlayout]
    refine List.forall₂_map_left_iff.2 (forall₂_map_self fun column hcolumn => ?_)
    obtain ⟨hmem, hof⟩ := Layout.ofKey_of_mem_junctions hlayout hcolumn
    exact JunctionColumn.statementOf_joinsThrough hd
      (hkeeps column.key (Delimiters.mem_junctionKeys_iff.1 hmem).1) hof _

theorem Batch.ofRows_lookups_products :
    Config.standard.Valid ∧ ∃ j,
      Junction.ofKey .standard "public" "products"
          "tag_id***product_tags***tags***tag_name***product_name" = .ok j ∧
        Lookup.ofKey .standard j.ownerKey = .ok ⟨"public.products", "product_id", "product_name"⟩ ∧
        Lookup.ofKey .standard j.itemKey = .ok ⟨"tags", "tag_id", "tag_name"⟩ := by
  refine ⟨Config.valid_standard, ?_⟩
  obtain ⟨j, hj, howner, hitem⟩ := (Batch.ofRows_lookups Config.valid_standard "public"
    "products").1 "tag_id***product_tags***tags***tag_name***product_name" "tag_id" "product_tags"
    "tags" "tag_name" "product_name" (by decide +kernel)
  exact ⟨j, hj, howner.2 (by decide +kernel), hitem.2 (by decide +kernel)⟩

/-- A usable configuration whose one-to-many delimiter stands in every primary key. -/
def Config.underscored : Config := ⟨⟨"_", "***"⟩, "|", .compat⟩

/-- No segment of the key has the delimiter in it, and the build fails with an error about a key
that the row does not have. -/
theorem Batch.ofRows_lookups_lost :
    Config.underscored.Valid ∧
      Config.underscored.delimiters.segments .manyToMany
        "tagid***producttags***tags***tagname***name" =
          ["tagid", "producttags", "tags", "tagname", "name"] ∧
      (∀ segment ∈ ["tagid", "producttags", "tags", "tagname", "name"],
        Text.contains segment "_" = false) ∧
      Batch.ofRows .underscored "" "products"
        [.ofList [("name", "Laptop"), ("tagid***producttags***tags***tagname***name", "a")]] =
          .error (.relationFormat .oneToMany "product_id_products_name" "_" 4) := by
  refine ⟨by decide, by decide +kernel, by decide +kernel, ?_⟩
  decide +kernel

end SeedScript
