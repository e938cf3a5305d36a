import SeedScript.Proofs.Batch.Columns
import SeedScript.Proofs.Column.BaseName
import SeedScript.Proofs.Sql.Inserts

/-!
# Names in the column list of an insert

A build reads the lookups of its columns, and what is written names the columns again from their
keys. For the seeded table both agree: a looked-up column is named by the primary key of its lookup,
a marked column by the text before its mark, and any other by its key. A junction column is a key
that was written by the build; it is named by the primary key of its lookup if and only if the
many-to-many delimiter does not stand in it (`Batch.ofRows_headers`). A dot between a schema and a
table is enough to bring one into the key of an owner (`Batch.ofRows_headers_dotted`).
-/

namespace SeedScript

/-- What the name of a column of the seeded table has to be, by the kind of its key. -/
def Statement.NamesRoot (c : Config) (s : Statement) (key name : String) : Prop :=
  match c.delimiters.kind key with
  | .oneToMany => ∃ l, Lookup.ofKey c.delimiters key = .ok l ∧ s.LooksUp c.mode key l ∧
      name = l.primaryKey
  | .hashed => ∃ after, key = name ++ "#" ++ after ∧ '#' ∉ name.toList ∧ '#' ∉ after.toList
  | .plain => name = key
  | .manyToMany => False

/-- The cells under a junction column are subqueries of a lookup, and the column is named by the
primary key of the lookup unless the many-to-many delimiter stands in its key. -/
def Statement.NamesJunction (c : Config) (s : Statement) (key name : String) : Prop :=
  ∃ l, Lookup.ofKey c.delimiters key = .ok l ∧ s.LooksUp c.mode key l ∧
    (name = l.primaryKey ↔ ¬ c.delimiters.manyToMany.toList <:+: key.toList)

variable {c : Config} {schema table : String} {keys : List String}

theorem Layout.rootStatement_namesRoot {layout : Layout} {rows : List Row} (hnodup : keys.Nodup)
    (hlayout : Layout.ofKeys c.delimiters schema table keys = .ok layout) {column : RootColumn}
    (hcolumn : column ∈ layout.root) :
    (layout.rootStatement c schema table rows).NamesRoot c column.key
      (c.delimiters.baseName column.key) := by
  obtain ⟨hmem, hof⟩ := ofKey_of_mem_root hlayout hcolumn
  obtain ⟨-, hrole⟩ := RootColumn.ofKey_eq_ok_iff.1 hof
  unfold Statement.NamesRoot
  cases hkind : c.delimiters.kind column.key with
  | oneToMany =>
    rw [hkind] at hrole
    obtain ⟨l, hl, hrole⟩ := hrole
    have hone := (c.delimiters.kind_eq_oneToMany_iff column.key).1 hkind
    exact ⟨l, hl, rootStatement_looksUp hnodup hlayout hcolumn hrole,
      Lookup.baseName_of_isOneToMany hone hl⟩
  | hashed => exact Delimiters.baseName_of_hashed hkind
  | plain => exact Delimiters.baseName_of_plain hkind
  | manyToMany => exact absurd hkind (Delimiters.mem_rootKeys_iff.1 hmem).2

theorem JunctionColumn.statementOf_namesJunction (hc : c.Valid) {column : JunctionColumn}
    (hof : ofKey c.delimiters schema table column.key = .ok column) (rows : List Row) :
    ∀ key ∈ (column.statementOf c rows).columns,
      (column.statementOf c rows).NamesJunction c key (c.delimiters.baseName key) := by
  obtain ⟨-, -, howner, hitem⟩ := ofKey_eq_ok_iff.1 hof
  obtain ⟨hownerCells, hitemCells⟩ := statementOf_looksUp hof rows
  have hone := (c.valid_iff.1 hc).1
  intro key hkey
  rcases List.mem_cons.1 hkey with rfl | hkey
  · exact ⟨column.owner, howner, hownerCells, Lookup.baseName_iff hone howner⟩
  · rw [List.mem_singleton.1 hkey]
    exact ⟨column.item, hitem, hitemCells, Lookup.baseName_iff hone hitem⟩

/-- The column list of an insert holds the base names of the columns. For the seeded table they are
the names that the build goes by; for a junction table they are, for each of the two lookups, if and
only if the many-to-many delimiter does not stand in the key that carries it. -/
theorem Batch.ofRows_headers (hc : c.Valid) {rows : List Row} {b : Batch}
    (h : Batch.ofRows c schema table rows = .ok b) :
    (∀ s ∈ b.statements, ∀ (style : SqlStyle) sql, style.delimiters = c.delimiters →
      (style.statement s).result = .ok sql → ∃ i, sql = i.text ∧ style.WritesAs s i ∧
        i.names = s.columns.map c.delimiters.baseName) ∧
      ∃ first rest root junctions, rows = first :: rest ∧ b.statements = root :: junctions ∧
        root.columns = c.delimiters.rootKeys first.keys ∧
        (∀ key ∈ root.columns, root.NamesRoot c key (c.delimiters.baseName key)) ∧
        List.Forall₂ (fun key s => ∃ j, Junction.ofKey c.delimiters schema table key = .ok j ∧
            s.columns = [j.ownerKey, j.itemKey] ∧
            ∀ column ∈ s.columns, s.NamesJunction c column (c.delimiters.baseName column))
          (c.delimiters.junctionKeys first.keys) junctions := by
  constructor
  · intro s _ style sql hstyle hsql
    obtain ⟨i, hwrites, rfl⟩ := SqlStyle.exists_insert_of_result hsql
    exact ⟨i, rfl, hwrites, hstyle ▸ hwrites.names_eq⟩
  · obtain ⟨first, rest, layout, hrows, hlayout, -, hb⟩ := Batch.ofRows_eq_ok_iff.1 h
    refine ⟨first, rest, _, _, hrows, hb, Layout.map_key_root hlayout, fun key hkey => ?_, ?_⟩
    · obtain ⟨column, hcolumn, rfl⟩ := List.mem_map.1 hkey
      exact Layout.rootStatement_namesRoot first.nodup_keys hlayout hcolumn
    · rw [← Layout.map_key_junctions hlayout]
      refine List.forall₂_map_left_iff.2 (forall₂_map_self fun column hcolumn => ?_)
      have hof := (Layout.ofKey_of_mem_junctions hlayout hcolumn).2
      exact ⟨column.junction, (JunctionColumn.ofKey_eq_ok_iff.1 hof).2.1, rfl,
        JunctionColumn.statementOf_namesJunction hc hof rows⟩

theorem Batch.ofRows_headers_userRows :
    ∃ b root junctions, Batch.ofRows .standard "public" "users" userRows = .ok b ∧
      b.statements = root :: junctions ∧
      root.NamesRoot .standard "role_id**roles**role" "role_id" ∧
      root.NamesRoot .standard "pass#" "pass" ∧
      (∃ i : Insert, (SqlStyle.statement ⟨.standard, .compat, some id⟩ root).result = .ok i.text ∧
        i.names = ["name", "pass", "note", "role_id"]) ∧
      ∃ s ∈ junctions, s.columns = ["user_id**public.users**name", "tag_id**tags**tag"] ∧
        s.NamesJunction .standard "user_id**public.users**name" "user_id" ∧
        s.NamesJunction .standard "tag_id**tags**tag" "tag_id" := by
  obtain ⟨b, hb, hwritten⟩ := exists_eq_ok_of_map
    (x := Batch.ofRows .standard "public" "users" userRows)
    (p := fun b => ∀ s ∈ b.statements,
      (SqlStyle.statement ⟨.standard, .compat, some id⟩ s).result.isOk = true)
    (by decide +kernel)
  obtain ⟨hheaders, first, rest, root, junctions, hrows, hstatements, hroot, hnames,
    hjunctions⟩ := Batch.ofRows_headers Config.valid_standard hb
  obtain ⟨rfl, rfl⟩ := List.cons_eq_cons.1 hrows
  have hmem : root ∈ b.statements := hstatements ▸ List.mem_cons_self
  obtain ⟨sql, hsql⟩ := exists_eq_ok_of_isOk (hwritten root hmem)
  obtain ⟨i, rfl, -, hlist⟩ := hheaders root hmem _ sql rfl hsql
  rw [hroot, show (Config.standard.delimiters.rootKeys (Record.keys _)).map
    Config.standard.delimiters.baseName = ["name", "pass", "note", "role_id"] by
      decide +kernel] at hlist
  have hrole := hnames "role_id**roles**role" (by rw [hroot]; decide +kernel)
  have hpass := hnames "pass#" (by rw [hroot]; decide +kernel)
  rw [show Config.standard.delimiters.baseName "role_id**roles**role" = "role_id" by
    decide +kernel] at hrole
  rw [show Config.standard.delimiters.baseName "pass#" = "pass" by decide +kernel] at hpass
  refine ⟨b, root, junctions, hb, hstatements, hrole, hpass, ⟨i, hsql, hlist⟩, ?_⟩
  rw [show Config.standard.delimiters.junctionKeys (Record.keys _) =
    ["tag_id***user_tags***tags***tag***name"] by decide +kernel] at hjunctions
  cases hjunctions with
  | cons hs htail =>
    rename_i s _
    obtain ⟨j, hj, hcolumns, hs⟩ := hs
    obtain ⟨howner, hitem⟩ : j.ownerKey = "user_id**public.users**name" ∧
        j.itemKey = "tag_id**tags**tag" := by
      have hkeys : (Junction.ofKey Config.standard.delimiters "public" "users"
          "tag_id***user_tags***tags***tag***name").map (fun j => (j.ownerKey, j.itemKey)) =
            .ok ("user_id**public.users**name", "tag_id**tags**tag") := by decide +kernel
      rw [hj] at hkeys
      exact Prod.mk.inj (Except.ok.inj hkeys)
    rw [howner, hitem] at hcolumns
    have howner := hs "user_id**public.users**name" (by simp [hcolumns])
    have hitem := hs "tag_id**tags**tag" (by simp [hcolumns])
    rw [show Config.standard.delimiters.baseName "user_id**public.users**name" = "user_id" by
      decide +kernel] at howner
    rw [show Config.standard.delimiters.baseName "tag_id**tags**tag" = "tag_id" by
      decide +kernel] at hitem
    exact ⟨s, List.mem_cons_self, hcolumns, howner, hitem⟩

/-- A usable configuration whose many-to-many delimiter separates the names of a schema and a
table. -/
def Config.dotted : Config := ⟨⟨"**", "."⟩, "|", .compat⟩

/-- The owner of a row is looked up by its primary key, and the lookup itself is written into the
column list. -/
theorem Batch.ofRows_headers_dotted :
    Config.dotted.Valid ∧ ∃ b, Batch.ofRows .dotted "public" "products"
        [.ofList [("name", "Laptop"), ("tag_id.product_tags.tags.tag_name.name", "a")]] = .ok b ∧
      b.statements[1]?.map (fun s => s.columns.map Config.dotted.delimiters.baseName) =
        some ["product_id**public.products**name", "tag_id"] ∧
      Lookup.ofKey Config.dotted.delimiters "product_id**public.products**name" =
        .ok ⟨"public.products", "product_id", "name"⟩ ∧
      (b.statements[1]?.map fun s =>
        (SqlStyle.statement ⟨Config.dotted.delimiters, .compat, none⟩ s).result) =
        some (.ok ("INSERT INTO product_tags (product_id**public.products**name, tag_id) VALUES " ++
          "((SELECT product_id FROM public.products WHERE name = 'Laptop'), " ++
          "(SELECT tag_id FROM tags WHERE tag_name = 'a'));")) := by
  obtain ⟨b, hb, hnames, hsql⟩ := exists_eq_ok_of_map
    (x := Batch.ofRows .dotted "public" "products"
      [.ofList [("name", "Laptop"), ("tag_id.product_tags.tags.tag_name.name", "a")]])
    (p := fun b =>
      b.statements[1]?.map (fun s => s.columns.map Config.dotted.delimiters.baseName) =
          some ["product_id**public.products**name", "tag_id"] ∧
        (b.statements[1]?.map fun s =>
          (SqlStyle.statement ⟨Config.dotted.delimiters, .compat, none⟩ s).result) =
          some (.ok
            ("INSERT INTO product_tags (product_id**public.products**name, tag_id) VALUES " ++
              "((SELECT product_id FROM public.products WHERE name = 'Laptop'), " ++
              "(SELECT tag_id FROM tags WHERE tag_name = 'a'));")))
    (by decide +kernel)
  exact ⟨by decide +kernel, b, hb, hnames, by decide +kernel, hsql⟩

end SeedScript
