import Mathlib.Data.Set.List
import SeedScript.Proofs.Batch.Owners
import SeedScript.Proofs.Batch.Written
import SeedScript.Proofs.Sql.Identifiers
import SeedScript.Proofs.Sql.Parsing
import SeedScript.Proofs.Sql.StrictMode

/-!
# Strict mode passes the check

In strict mode a cell is written as null, as a quoted text or as a subquery, whatever text it holds
and whatever the hash function gives. So where the keys of the first row are made of identifiers,
each statement of a batch is written as an insert of the grammar, and what is written for a batch is
parsed again into one insert for each statement (`Seeder.check_strict`).
-/

namespace SeedScript

open Sql (IsBareName Operand Insertion)

variable {items schema table : String} {hash? : Option (String → String)} {style : SqlStyle}
  {first : Row} {rest rows : List Row}

/-! ## Cells -/

theorem CellRole.exists_operand_literal (text : String) :
    ∃ o : Operand, o.sql = SqlStyle.cellText ⟨.standard, .strict, hash?⟩
      (literal.resolve .strict text) := by
  by_cases hnull : Literal.isNullToken text = true
  · refine ⟨.null, ?_⟩
    rw [resolve, if_pos hnull]
    rfl
  · refine ⟨.text text, ?_⟩
    rw [resolve, if_neg hnull, SqlStyle.cellText, LiteralMode.literal, if_neg hnull,
      if_neg (by simp)]
    rfl

theorem Lookup.IsNamed.exists_operand {l : Lookup} (h : l.IsNamed) (text : String) :
    ∃ o : Operand, o.sql = l.subquery .strict text := by
  obtain ⟨n, hn⟩ := h.table.exists_text_eq
  by_cases hstar : text = "*"
  · refine ⟨.column ⟨_, h.primaryKey⟩ n, ?_⟩
    rw [subquery, if_pos hstar, ← hn]
    rfl
  · refine ⟨.lookup ⟨_, h.primaryKey⟩ n ⟨_, h.searchKey⟩ text, ?_⟩
    rw [subquery, if_neg hstar, ← hn]
    rfl

/-- Whatever text a cell of the seeded table holds, it is written as a cell of the grammar. -/
theorem RootColumn.exists_operand {column : RootColumn} (hkey : IsIdentifierKey column.key)
    (hof : ofKey .standard column.key = .ok column) (text : String) :
    ∃ o : Operand, o.sql = SqlStyle.cellText ⟨.standard, .strict, hash?⟩
      (column.role.resolve .strict text) := by
  obtain ⟨-, hrole⟩ := ofKey_eq_ok_iff.1 hof
  cases hkind : Delimiters.standard.kind column.key with
  | plain =>
    rw [hkind] at hrole
    rw [hrole]
    exact CellRole.exists_operand_literal text
  | hashed =>
    rw [hkind] at hrole
    rw [hrole]
    exact ⟨.text _, rfl⟩
  | oneToMany =>
    rw [hkind] at hrole
    obtain ⟨l, hl, hrole⟩ := hrole
    rw [hrole]
    exact (hkey.isNamed_of_ofKey hkind hl).exists_operand text
  | manyToMany =>
    rw [hkind] at hrole
    rw [hrole]
    exact CellRole.exists_operand_literal text

/-! ## Statements -/

/-- The table, the columns and the cells of a statement are written in the forms of the grammar. -/
structure SqlStyle.Grammatical (style : SqlStyle) (s : Statement) : Prop where
  table : IsTableName (Naming.qualified s.schema s.table)
  columns_ne_nil : s.columns ≠ []
  rows_ne_nil : s.rows ≠ []
  names : ∀ key ∈ s.columns, IsBareName (style.delimiters.baseName key)
  cells : ∀ record ∈ s.rows, ∀ key ∈ s.columns, ∃ o : Operand, o.sql = style.textAt record key

namespace SqlStyle

theorem Grammatical.exists_insertion {s : Statement} (h : style.Grammatical s) :
    ∃ i : Insertion, i.toInsert = style.insert s := by
  obtain ⟨n, hn⟩ := h.table.exists_text_eq
  obtain ⟨columns, hcolumns⟩ : s.columns.map style.delimiters.baseName ∈
      Set.range (List.map Sql.BareName.text) := by
    rw [Set.range_list_map]
    intro name hname
    obtain ⟨key, hkey, rfl⟩ := List.mem_map.1 hname
    exact ⟨⟨_, h.names key hkey⟩, rfl⟩
  obtain ⟨tuples, htuples⟩ : (s.rows.map fun record => s.columns.map (style.textAt record)) ∈
      Set.range (List.map (List.map Operand.sql)) := by
    rw [Set.range_list_map, Set.range_list_map]
    intro tuple htuple text htext
    obtain ⟨record, hrecord, rfl⟩ := List.mem_map.1 htuple
    obtain ⟨key, hkey, rfl⟩ := List.mem_map.1 htext
    exact h.cells record hrecord key hkey
  refine ⟨⟨n, columns, tuples, ?_, ?_, ?_⟩, ?_⟩
  · rintro rfl
    exact h.columns_ne_nil (List.map_eq_nil_iff.1 hcolumns.symm)
  · rintro rfl
    exact h.rows_ne_nil (List.map_eq_nil_iff.1 htuples.symm)
  · rintro _ htuple rfl
    have hmem := List.mem_map_of_mem (f := List.map Operand.sql) htuple
    rw [htuples] at hmem
    obtain ⟨record, -, hnil⟩ := List.mem_map.1 hmem
    exact h.columns_ne_nil (List.map_eq_nil_iff.1 hnil)
  · rw [Insertion.toInsert, insert, hn, hcolumns, htuples]

/-- What is written for such statements is parsed into one insert for each, into its table. -/
theorem check_texts {statements : List Statement} (h : ∀ s ∈ statements, style.Grammatical s) :
    Sql.check ("\n".intercalate (statements.map style.statementText)) =
      .ok ((statements.map fun s => Naming.qualified s.schema s.table).map .insert) := by
  -- the texts and the tables of the grammar's inserts are those of the statements
  obtain ⟨is, his⟩ : statements.map style.insert ∈ Set.range (List.map Insertion.toInsert) := by
    rw [Set.range_list_map]
    intro i hi
    obtain ⟨s, hs, rfl⟩ := List.mem_map.1 hi
    exact (h s hs).exists_insertion
  have htexts := congrArg (List.map Insert.text) his
  have htables := congrArg (List.map Insert.table) his
  rw [List.map_map, List.map_map] at htexts htables
  have htexts : is.map Insertion.sql = statements.map style.statementText :=
    htexts.trans (List.map_congr_left fun s _ => text_insert style s)
  have hqueries : (is.map fun i => Sql.Query.insert i.table.text) =
      (statements.map fun s => Naming.qualified s.schema s.table).map .insert := by
    have hqueries := congrArg (List.map Sql.Query.insert) htables
    rw [List.map_map] at hqueries
    exact hqueries
  rw [Sql.check, ← htexts, Sql.parse?_script, hqueries]

end SqlStyle

/-! ## The seeded table -/

theorem Layout.rootStatement_grammatical {layout : Layout}
    (hschema : schema = "" ∨ IsIdentifier schema) (htable : IsIdentifier table)
    (hne : first.keys ≠ []) (hkeys : ∀ key ∈ first.keys, IsIdentifierKey key)
    (hlayout : Layout.ofKeys .standard schema table first.keys = .ok layout)
    (hcovers : layout.Covers first) :
    SqlStyle.Grammatical ⟨.standard, .strict, hash?⟩
      (layout.rootStatement ⟨.standard, items, .strict⟩ schema table (first :: rest)) where
  table := Naming.isTableName_qualified hschema htable
  columns_ne_nil hnil := hne ((map_key_root_eq_nil_iff (by decide) hlayout hcovers).1 hnil)
  rows_ne_nil := List.cons_ne_nil _ _
  names := by
    intro key hkey
    have hmem : key ∈ Delimiters.standard.rootKeys first.keys := map_key_root hlayout ▸ hkey
    obtain ⟨hmem, hkind⟩ := Delimiters.mem_rootKeys_iff.1 hmem
    exact (hkeys key hmem).isBareName_baseName hkind
  cells := by
    intro record hrecord key hkey
    obtain ⟨row, -, rfl⟩ := List.mem_map.1 hrecord
    obtain ⟨column, hcolumn, rfl⟩ := List.mem_map.1 hkey
    obtain ⟨hmem, hof⟩ := ofKey_of_mem_root hlayout hcolumn
    have hnodup := nodup_key_root hlayout first.nodup_keys
    rw [SqlStyle.textAt_of_get? (get?_rootRecord hnodup hcolumn)]
    exact column.exists_operand (hkeys _ (Delimiters.mem_rootKeys_iff.1 hmem).1) hof _

/-! ## Junction tables -/

/-- Both lookups of a junction are named, and so is its table. -/
theorem JunctionColumn.isNamed_of_ofKey {column : JunctionColumn}
    (hschema : schema = "" ∨ IsIdentifier schema) (htable : IsIdentifier table)
    (hkey : IsIdentifierKey column.key)
    (hkind : Delimiters.standard.kind column.key = .manyToMany)
    (hof : ofKey .standard schema table column.key = .ok column) :
    IsTableName column.junction.table ∧
      (column.owner.IsNamed ∧ column.junction.ownerKey = column.owner.key .standard) ∧
      column.item.IsNamed ∧ column.junction.itemKey = column.item.key .standard := by
  obtain ⟨-, hjunction, howner, hitem⟩ := ofKey_eq_ok_iff.1 hof
  obtain ⟨htableName, hsearch, item, hnamed, hitemKey⟩ := hkey.junction_of_ofKey hkind hjunction
  obtain ⟨-, -, -, hownerKey, -⟩ := Junction.ofKey_eq_ok_iff.1 hjunction
  have hownerNamed := Lookup.isNamed_ofOwner hschema htable hsearch
  rw [hownerKey] at howner
  rw [hitemKey] at hitem
  have hownerEq := hownerNamed.eq_of_ofKey_key howner
  have hitemEq := hnamed.eq_of_ofKey_key hitem
  exact ⟨htableName, ⟨hownerEq ▸ hownerNamed, hownerEq ▸ hownerKey⟩, hitemEq ▸ hnamed,
    hitemEq ▸ hitemKey⟩

theorem JunctionColumn.statementOf_grammatical {column : JunctionColumn}
    (hschema : schema = "" ∨ IsIdentifier schema) (htable : IsIdentifier table)
    (hkey : IsIdentifierKey column.key)
    (hkind : Delimiters.standard.kind column.key = .manyToMany)
    (hof : ofKey .standard schema table column.key = .ok column) (hrows : rows ≠ []) :
    SqlStyle.Grammatical ⟨.standard, .strict, hash?⟩
      (column.statementOf ⟨.standard, items, .strict⟩ rows) := by
  obtain ⟨hname, ⟨hownerNamed, hownerKey⟩, hitemNamed, hitemKey⟩ :=
    isNamed_of_ofKey hschema htable hkey hkind hof
  obtain ⟨howner, hitem⟩ := statementOf_looksUp (c := ⟨.standard, items, .strict⟩) hof rows
  have hcolumns : ∀ key ∈ (column.statementOf ⟨.standard, items, .strict⟩ rows).columns,
      ∃ l : Lookup, l.IsNamed ∧ key = l.key .standard ∧
        (column.statementOf ⟨.standard, items, .strict⟩ rows).LooksUp .strict key l := by
    intro key hmem
    rcases List.mem_cons.1 hmem with rfl | hmem
    · exact ⟨column.owner, hownerNamed, hownerKey, howner⟩
    · rw [List.mem_singleton.1 hmem]
      exact ⟨column.item, hitemNamed, hitemKey, hitem⟩
  refine ⟨hname, List.cons_ne_nil _ _, ?_, fun key hmem => ?_, fun record hrecord key hmem => ?_⟩
  · obtain ⟨record, hrecord⟩ := exists_mem_rows_statementOf _ column hrows
    exact List.ne_nil_of_mem hrecord
  · obtain ⟨l, hnamed, rfl, -⟩ := hcolumns key hmem
    exact hnamed.baseName_key ▸ hnamed.primaryKey
  · obtain ⟨l, hnamed, -, hlooksUp⟩ := hcolumns key hmem
    obtain ⟨text, hcell⟩ := hlooksUp record hrecord
    rw [SqlStyle.textAt_of_get? hcell]
    exact hnamed.exists_operand text

/-! ## Batches -/

/-- Every statement of a batch is written in the forms of the grammar. -/
theorem Batch.grammatical {b : Batch} (hschema : schema = "" ∨ IsIdentifier schema)
    (htable : IsIdentifier table) (hne : first.keys ≠ [])
    (hkeys : ∀ key ∈ first.keys, IsIdentifierKey key)
    (h : ofRows ⟨.standard, items, .strict⟩ schema table (first :: rest) = .ok b) :
    ∀ s ∈ b.statements, SqlStyle.Grammatical ⟨.standard, .strict, hash?⟩ s := by
  obtain ⟨_, _, layout, hrows, hlayout, hcovers, hb⟩ := ofRows_eq_ok_iff.1 h
  obtain ⟨rfl, rfl⟩ := List.cons_eq_cons.1 hrows
  intro s hs
  rw [hb] at hs
  rcases List.mem_cons.1 hs with rfl | hs
  · exact Layout.rootStatement_grammatical hschema htable hne hkeys hlayout
      (hcovers first List.mem_cons_self)
  · obtain ⟨column, hcolumn, rfl⟩ := List.mem_map.1 hs
    obtain ⟨hmem, hof⟩ := Layout.ofKey_of_mem_junctions hlayout hcolumn
    obtain ⟨hmem, hkind⟩ := Delimiters.mem_junctionKeys_iff.1 hmem
    exact JunctionColumn.statementOf_grammatical hschema htable (hkeys _ hmem) hkind hof
      (List.cons_ne_nil _ _)

/-- The first statement of a batch is for the seeded table, and the others are for the tables that
the many-to-many keys name in their second segments. -/
theorem Batch.tables_of_ofRows {c : Config} {b : Batch}
    (h : ofRows c schema table (first :: rest) = .ok b) :
    (b.statements.map fun s => Naming.qualified s.schema s.table) =
        Naming.qualified schema table :: b.junctions.map Statement.table ∧
      List.Forall₂ (fun key s => (c.delimiters.segments .manyToMany key)[1]? = some s.table)
        (c.delimiters.junctionKeys first.keys) b.junctions := by
  obtain ⟨_, _, layout, hrows, hlayout, -, hb⟩ := ofRows_eq_ok_iff.1 h
  obtain ⟨rfl, rfl⟩ := List.cons_eq_cons.1 hrows
  rw [junctions, hb, List.tail_cons]
  constructor
  · rw [List.map_cons, List.map_map, List.map_map]
    rfl
  · rw [← Layout.map_key_junctions hlayout]
    refine List.forall₂_map_left_iff.2 (forall₂_map_self fun column hcolumn => ?_)
    obtain ⟨-, hof⟩ := Layout.ofKey_of_mem_junctions hlayout hcolumn
    obtain ⟨-, hjunction, -⟩ := JunctionColumn.ofKey_eq_ok_iff.1 hof
    obtain ⟨joinKey, hsegments, -⟩ := Junction.ofKey_eq_ok_iff.1 hjunction
    rw [hsegments]
    rfl

theorem Sql.insertedTables_map_insert (tables : List String) :
    insertedTables (tables.map .insert) = tables := by
  rw [insertedTables, List.filterMap_map]
  exact List.filterMap_some

/-- With the usual delimiters, in strict mode and with names that are identifiers, what is written
for rows passes the check, whatever the rows hold. It is parsed into one insert for each statement:
one into the seeded table, and then one into the table of each many-to-many key. -/
theorem Seeder.check_strict {s : Seeder} {sql : String}
    (hdelimiters : s.config.delimiters = .standard) (hmode : s.config.mode = .strict)
    (hschema : schema = "" ∨ IsIdentifier schema) (htable : IsIdentifier table)
    (hne : first.keys ≠ []) (hkeys : ∀ key ∈ first.keys, IsIdentifierKey key)
    (h : (s.seed (first :: rest) (.table schema table)).result = .ok sql) :
    ∃ b queries, Batch.ofRows s.config schema table (first :: rest) = .ok b ∧
      Sql.check sql = .ok queries ∧ queries.length = b.statements.length ∧
      Sql.insertedTables queries =
        Naming.qualified schema table :: b.junctions.map Statement.table ∧
      List.Forall₂ (fun key junction =>
          (s.config.delimiters.segments .manyToMany key)[1]? = some junction.table)
        (s.config.delimiters.junctionKeys first.keys) b.junctions := by
  obtain ⟨b, hb, rfl⟩ := exists_batch_of_seed h
  obtain ⟨htables, hjunctions⟩ := Batch.tables_of_ofRows hb
  have hconfig : s.config = ⟨.standard, s.config.rowItemDelimiter, .strict⟩ := by
    rw [← hdelimiters, ← hmode]
  have hgrammatical : ∀ statement ∈ b.statements, s.style.Grammatical statement := by
    rw [style, hdelimiters, hmode]
    exact Batch.grammatical hschema htable hne hkeys (hconfig ▸ hb)
  refine ⟨b, _, hb, SqlStyle.check_texts hgrammatical, ?_, ?_, hjunctions⟩
  · rw [List.length_map, List.length_map]
  · rw [Sql.insertedTables_map_insert, htables]

/-- A product whose cells, and the digest of one of them, hold quotes, semicolons and comments. -/
def semicolonRow : Row :=
  .ofList [("name", "O'Hara; --"), ("code#md", "');"), ("note", "null"),
    ("brand_id**shop.brands**name", "it's"),
    ("tag_id***shop.product_tags***tags***tag_name***name", "a'); /*|*")]

theorem Seeder.check_strict_semicolonRow :
    ∃ sql queries, (Seeder.quoting.seed [semicolonRow] (.table "public" "products")).result =
        .ok sql ∧ Sql.check sql = .ok queries ∧ queries.length = 2 ∧
      Sql.insertedTables queries = ["public.products", "shop.product_tags"] := by
  obtain ⟨sql, hsql⟩ := exists_eq_ok_of_isOk
    (x := (Seeder.quoting.seed [semicolonRow] (.table "public" "products")).result)
    (by decide +kernel)
  have hkeys : ∀ key ∈ semicolonRow.keys, IsIdentifierKey key := by
    have hlist : semicolonRow.keys = ["name", "code" ++ "#" ++ "md", "note",
        "brand_id" ++ "**" ++ ("shop" ++ "." ++ "brands") ++ "**" ++ "name",
        "***".intercalate
          ["tag_id", "shop" ++ "." ++ "product_tags", "tags", "tag_name", "name"]] := by
      decide +kernel
    simp only [hlist, List.forall_mem_cons, List.not_mem_nil, false_implies, implies_true, and_true]
    exact ⟨.plain (by decide), .hashed (by decide) (by decide), .plain (by decide),
      .oneToMany (by decide) (.dotted (by decide) (by decide)) (by decide),
      .manyToMany (by decide) (.dotted (by decide) (by decide)) (.bare (by decide)) (by decide)
        (by decide)⟩
  obtain ⟨b, queries, hb, hcheck, hlength, htables, -⟩ := Seeder.check_strict
    (s := Seeder.quoting) rfl rfl (.inr (by decide)) (by decide) (by decide +kernel) hkeys hsql
  have hbuilt : (Batch.ofRows Seeder.quoting.config "public" "products" [semicolonRow]).map
      (fun b => (b.statements.length, b.junctions.map Statement.table)) =
        .ok (2, ["shop.product_tags"]) := by
    decide +kernel
  rw [hb] at hbuilt
  obtain ⟨hstatements, hjunctions⟩ := Prod.mk.inj (Except.ok.inj hbuilt)
  refine ⟨sql, queries, hsql, hcheck, hlength.trans hstatements, ?_⟩
  rw [htables, hjunctions]
  rfl

end SeedScript
