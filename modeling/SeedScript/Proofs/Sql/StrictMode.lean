import SeedScript.Proofs.Batch.Texts
import SeedScript.Proofs.Seeder.Runs
import SeedScript.Proofs.Sql.Twins

/-!
# Strict mode keeps values in literals

In strict mode every value is quoted with its quotes doubled, wherever it goes: into a literal, as a
digest or into the comparison of a subquery. Where no identifier has a quote in it, generated SQL is
therefore read as literals that hold exactly the values of the rows, and two lists of rows that look
alike, apart from their values, give SQL that is the same outside literals
(`Seeder.strict_literals`). The proof compares two runs, from single cells up to the whole batch.
-/

namespace SeedScript

open Sql (Unquoted Twins)

/-! ## Values -/

/-- What a lookup of a text compares with; a star stands for every row. -/
def Lookup.searched (text : String) : List String := if text = "*" then [] else [text]

namespace Row

/-- The values that a row puts under a column of the seeded table. -/
def rootValues (d : Delimiters) (hash : String → String) (row : Row) (key : String) :
    List String :=
  match d.kind key with
  | .plain => if Literal.isNullToken (row.text key) then [] else [row.text key]
  | .hashed => [hash (row.text key)]
  | .oneToMany => Lookup.searched (row.text key)
  | .manyToMany => []

/-- The values that a row puts in a junction table: for each token that of the owner and its own. -/
def junctionValues (d : Delimiters) (itemDelimiter : String) (row : Row) (key : String) :
    List String :=
  (Text.split itemDelimiter (row.text key)).flatMap fun token =>
    Lookup.searched (row.text (d.ownerColumn key)) ++ Lookup.searched token

/-- What of two rows shows outside literals is the same: which texts are null, which are stars, and
the tokens of a cell but for what they are. -/
structure Alike (d : Delimiters) (itemDelimiter itemDelimiter' : String) (keys : List String)
    (row row' : Row) : Prop where
  nulls : ∀ key ∈ keys, d.kind key = .plain →
    Literal.isNullToken (row.text key) = Literal.isNullToken (row'.text key)
  stars : ∀ key ∈ keys, d.kind key = .oneToMany → (row.text key = "*" ↔ row'.text key = "*")
  owners : ∀ key ∈ keys, d.kind key = .manyToMany →
    (row.text (d.ownerColumn key) = "*" ↔ row'.text (d.ownerColumn key) = "*")
  tokens : ∀ key ∈ keys, d.kind key = .manyToMany →
    (Text.split itemDelimiter (row.text key)).map (· == "*") =
      (Text.split itemDelimiter' (row'.text key)).map (· == "*")

theorem Alike.refl (d : Delimiters) (itemDelimiter : String) (keys : List String) (row : Row) :
    row.Alike d itemDelimiter itemDelimiter keys row :=
  ⟨fun _ _ _ => rfl, fun _ _ _ => .rfl, fun _ _ _ => .rfl, fun _ _ _ => rfl⟩

end Row

/-- The values of rows in the order in which they are written: those of the seeded table row by row,
then those of each junction table. -/
def Seeder.values (s : Seeder) (keys : List String) (rows : List Row) : List String :=
  rows.flatMap (fun row => (s.config.delimiters.rootKeys keys).flatMap
    (row.rootValues s.config.delimiters (s.hash?.getD id))) ++
  (s.config.delimiters.junctionKeys keys).flatMap fun key => rows.flatMap fun row =>
    row.junctionValues s.config.delimiters s.config.rowItemDelimiter key

/-! ## Cells -/

theorem Lookup.twins_subquery {l : Lookup} (hl : l.NamesUnquoted) {v w : String}
    (h : v = "*" ↔ w = "*") :
    Twins (l.subquery .strict v) (l.subquery .strict w) (searched v) (searched w) := by
  have hselect : Unquoted "(SELECT " := by decide
  have hfrom : Unquoted " FROM " := by decide
  have hwhere : Unquoted " WHERE " := by decide
  have hequals : Unquoted " = " := by decide
  have hclose : Unquoted ")" := by decide
  have hhead := ((hselect.append hl.primaryKey).append hfrom).append hl.table
  unfold subquery searched
  by_cases hv : v = "*"
  · rw [if_pos hv, if_pos hv, if_pos (h.1 hv), if_pos (h.1 hv)]
    exact Twins.codes (hhead.append hclose)
  · have hw : w ≠ "*" := fun hw => hv (h.2 hw)
    rw [if_neg hv, if_neg hv, if_neg hw, if_neg hw]
    have hcondition := ((hhead.append hwhere).append hl.searchKey).append hequals
    exact ((Twins.quote v w).codes_append hcondition).append_codes hclose

section Runs

variable {d : Delimiters} {hash? hash?' : Option (String → String)} {items items' : String}
  {schema table : String} {keys : List String}

theorem RootColumn.twins_cellText {column : RootColumn} {row row' : Row}
    (hof : ofKey d column.key = .ok column) (hfree : QuoteFree d schema table keys)
    (hmem : column.key ∈ d.rootKeys keys) (halike : row.Alike d items items' keys row') :
    Twins
      (SqlStyle.cellText ⟨d, .strict, hash?⟩ (column.role.resolve .strict (row.text column.key)))
      (SqlStyle.cellText ⟨d, .strict, hash?'⟩ (column.role.resolve .strict (row'.text column.key)))
      (row.rootValues d (hash?.getD id) column.key)
      (row'.rootValues d (hash?'.getD id) column.key) := by
  obtain ⟨-, hrole⟩ := ofKey_eq_ok_iff.1 hof
  obtain ⟨hmem, hroot⟩ := Delimiters.mem_rootKeys_iff.1 hmem
  unfold Row.rootValues
  cases hkind : d.kind column.key with
  | plain =>
    rw [hkind] at hrole
    rw [hrole]
    have hnull := halike.nulls column.key hmem hkind
    simp only [CellRole.resolve, ← hnull]
    split
    · have hnullText : Unquoted "NULL" := by decide
      exact Twins.codes hnullText
    · rename_i hne
      have hne' : ¬ Literal.isNullToken (row'.text column.key) = true := hnull ▸ hne
      simp only [SqlStyle.cellText, LiteralMode.literal, if_neg hne, if_neg hne']
      exact Twins.quote _ _
  | hashed =>
    rw [hkind] at hrole
    rw [hrole]
    exact Twins.quote _ _
  | oneToMany =>
    rw [hkind] at hrole
    obtain ⟨l, hl, hrole⟩ := hrole
    rw [hrole]
    have hnames := Lookup.namesUnquoted_of_ofKey hfree.oneToMany_ne (hfree.keys _ hmem) hl
    exact Lookup.twins_subquery hnames (halike.stars column.key hmem hkind)
  | manyToMany => exact absurd hkind hroot

/-! ## Statements -/

/-- Statements with the same names are twins when the tuples of their rows are. -/
theorem SqlStyle.twins_statementText {style style' : SqlStyle} {s s' : Statement}
    {vs ws : List String} (hdelimiters : style'.delimiters = style.delimiters)
    (hschema : s'.schema = s.schema) (htable : s'.table = s.table)
    (hcolumns : s'.columns = s.columns) (hd : style.delimiters.oneToMany ≠ "")
    (hname : Unquoted (Naming.qualified s.schema s.table)) (hkeys : ∀ key ∈ s.columns, Unquoted key)
    (htuples : Twins (", ".intercalate (s.rows.map (style.rowText s.columns)))
      (", ".intercalate (s'.rows.map (style'.rowText s'.columns))) vs ws) :
    Twins (style.statementText s) (style'.statementText s') vs ws := by
  have hinsert : Unquoted "INSERT INTO " := by decide
  have hspace : Unquoted " " := by decide
  have hvalues : Unquoted " VALUES " := by decide
  have hend : Unquoted ";" := by decide
  have hheader : Unquoted (tuple (s.columns.map style.delimiters.baseName)) := by
    refine unquoted_tuple fun item hitem => ?_
    obtain ⟨key, hkey, rfl⟩ := List.mem_map.1 hitem
    exact Delimiters.unquoted_baseName hd (hkeys key hkey)
  have hhead := (((hinsert.append hname).append hspace).append hheader).append hvalues
  unfold statementText
  rw [hschema, htable, hdelimiters]
  rw [hcolumns] at htuples ⊢
  exact (htuples.codes_append hhead).append_codes hend

theorem Layout.twins_rootStatement {layout : Layout} {rows rows' : List Row}
    (hlayout : ofKeys d schema table keys = .ok layout) (hnodup : keys.Nodup)
    (hfree : QuoteFree d schema table keys)
    (halike : List.Forall₂ (Row.Alike d items items' keys) rows rows') :
    Twins
      (SqlStyle.statementText ⟨d, .strict, hash?⟩
        (layout.rootStatement ⟨d, items, .strict⟩ schema table rows))
      (SqlStyle.statementText ⟨d, .strict, hash?'⟩
        (layout.rootStatement ⟨d, items', .strict⟩ schema table rows'))
      (rows.flatMap fun row => (d.rootKeys keys).flatMap (row.rootValues d (hash?.getD id)))
      (rows'.flatMap fun row => (d.rootKeys keys).flatMap (row.rootValues d (hash?'.getD id))) := by
  have hkeysNodup := nodup_key_root hlayout hnodup
  refine SqlStyle.twins_statementText rfl rfl rfl rfl hfree.oneToMany_ne
    (Naming.unquoted_qualified hfree.schema hfree.table) (fun key hkey => ?_) ?_
  · have hmem : key ∈ d.rootKeys keys := map_key_root hlayout ▸ hkey
    exact hfree.keys key (Delimiters.mem_rootKeys_iff.1 hmem).1
  · rw [map_rowText_rootStatement hkeysNodup, map_rowText_rootStatement hkeysNodup]
    refine Twins.intercalate (by decide) (by decide) (halike.imp fun row row' hrow => ?_)
    rw [← map_key_root hlayout, List.flatMap_map, List.flatMap_map]
    refine Twins.tuple (List.forall₂_same.2 fun column hcolumn => ?_)
    obtain ⟨hmem, hof⟩ := ofKey_of_mem_root hlayout hcolumn
    exact RootColumn.twins_cellText hof hfree hmem hrow

/-! ## Junction statements -/

namespace JunctionColumn

variable {column : JunctionColumn} {rows rows' : List Row}

theorem joined_alike (hof : ofKey d schema table column.key = .ok column)
    (hmem : column.key ∈ d.junctionKeys keys)
    (halike : List.Forall₂ (Row.Alike d items items' keys) rows rows') :
    List.Forall₂ (fun p q => (p.1 = "*" ↔ q.1 = "*") ∧ (p.2 = "*" ↔ q.2 = "*"))
      (rows.flatMap (column.joined items)) (rows'.flatMap (column.joined items')) := by
  refine List.rel_flatMap halike fun row row' hrow => ?_
  obtain ⟨hkey, hkind⟩ := Delimiters.mem_junctionKeys_iff.1 hmem
  have howner := hrow.owners column.key hkey hkind
  have htokens := hrow.tokens column.key hkey hkind
  rw [ownerColumn_eq hof] at howner
  rw [← List.forall₂_eq_eq_eq, List.forall₂_map_left_iff, List.forall₂_map_right_iff] at htokens
  refine List.forall₂_map_left_iff.2 (List.forall₂_map_right_iff.2 (htokens.imp ?_))
  intro token token' htoken
  exact ⟨howner, by rw [← beq_iff_eq, htoken, beq_iff_eq]⟩

theorem map_rowText_eq_map_joined
    (hne : column.junction.ownerKey ≠ column.junction.itemKey) {c : Config} {style : SqlStyle} :
    (column.statementOf c rows).rows.map (style.rowText (column.statementOf c rows).columns) =
      (rows.flatMap (column.joined c.rowItemDelimiter)).map fun p =>
        SqlStyle.tuple [column.owner.subquery c.mode p.1, column.item.subquery c.mode p.2] := by
  rw [rows_statementOf, List.map_map]
  exact List.map_congr_left fun p _ => rowText_join hne c.mode p.1 p.2

theorem junctionValues_eq_flatMap_joined (hof : ofKey d schema table column.key = .ok column) :
    (rows.flatMap fun row => row.junctionValues d items column.key) =
      (rows.flatMap (column.joined items)).flatMap fun p =>
        Lookup.searched p.1 ++ Lookup.searched p.2 := by
  rw [List.flatMap_assoc]
  refine List.flatMap_congr fun row _ => ?_
  rw [Row.junctionValues, ownerColumn_eq hof, joined, List.flatMap_map]

theorem twins_statementOf (hof : ofKey d schema table column.key = .ok column)
    (hfree : QuoteFree d schema table keys)
    (hne : column.junction.ownerKey ≠ column.junction.itemKey)
    (hmem : column.key ∈ d.junctionKeys keys)
    (halike : List.Forall₂ (Row.Alike d items items' keys) rows rows') :
    Twins
      (SqlStyle.statementText ⟨d, .strict, hash?⟩ (column.statementOf ⟨d, items, .strict⟩ rows))
      (SqlStyle.statementText ⟨d, .strict, hash?'⟩ (column.statementOf ⟨d, items', .strict⟩ rows'))
      (rows.flatMap fun row => row.junctionValues d items column.key)
      (rows'.flatMap fun row => row.junctionValues d items' column.key) := by
  obtain ⟨-, hjunction, howner, hitem⟩ := ofKey_eq_ok_iff.1 hof
  obtain ⟨hjoinTable, hownerKey, hitemKey⟩ :=
    Junction.unquoted_of_ofKey hfree (Delimiters.mem_junctionKeys_iff.1 hmem).1 hjunction
  have hownerNames := Lookup.namesUnquoted_of_ofKey hfree.oneToMany_ne hownerKey howner
  have hitemNames := Lookup.namesUnquoted_of_ofKey hfree.oneToMany_ne hitemKey hitem
  refine SqlStyle.twins_statementText rfl rfl rfl rfl hfree.oneToMany_ne ?_ (fun key hkey => ?_) ?_
  · show Unquoted (Naming.qualified "" column.junction.table)
    rw [Naming.qualified_empty]
    exact hjoinTable
  · rcases List.mem_cons.1 hkey with rfl | hkey
    · exact hownerKey
    · exact List.mem_singleton.1 hkey ▸ hitemKey
  · rw [map_rowText_eq_map_joined hne, map_rowText_eq_map_joined hne,
      junctionValues_eq_flatMap_joined hof, junctionValues_eq_flatMap_joined hof]
    refine Twins.intercalate (by decide) (by decide) ((joined_alike hof hmem halike).imp ?_)
    rintro ⟨owner, token⟩ ⟨owner', token'⟩ ⟨howners, htokens⟩
    exact (Lookup.twins_subquery hownerNames howners).pair
      (Lookup.twins_subquery hitemNames htokens)

end JunctionColumn

/-! ## Batches -/

theorem Layout.twins_batch (hash? hash?' : Option (String → String)) {layout : Layout}
    {rows rows' : List Row}
    (hlayout : ofKeys d schema table keys = .ok layout) (hnodup : keys.Nodup)
    (hfree : QuoteFree d schema table keys)
    (hdistinct : ∀ key ∈ keys, ∀ j, Junction.ofKey d schema table key = .ok j →
      j.ownerKey ≠ j.itemKey)
    (halike : List.Forall₂ (Row.Alike d items items' keys) rows rows') :
    Twins
      ("\n".intercalate ((layout.rootStatement ⟨d, items, .strict⟩ schema table rows ::
        layout.junctions.map (JunctionColumn.statementOf ⟨d, items, .strict⟩ rows)).map
          (SqlStyle.statementText ⟨d, .strict, hash?⟩)))
      ("\n".intercalate ((layout.rootStatement ⟨d, items', .strict⟩ schema table rows' ::
        layout.junctions.map (JunctionColumn.statementOf ⟨d, items', .strict⟩ rows')).map
          (SqlStyle.statementText ⟨d, .strict, hash?'⟩)))
      (rows.flatMap (fun row => (d.rootKeys keys).flatMap (row.rootValues d (hash?.getD id))) ++
        (d.junctionKeys keys).flatMap fun key => rows.flatMap fun row =>
          row.junctionValues d items key)
      (rows'.flatMap (fun row => (d.rootKeys keys).flatMap (row.rootValues d (hash?'.getD id))) ++
        (d.junctionKeys keys).flatMap fun key => rows'.flatMap fun row =>
          row.junctionValues d items' key) := by
  rw [List.map_cons, List.map_cons, List.map_map, List.map_map, ← map_key_junctions hlayout,
    List.flatMap_map, List.flatMap_map]
  refine Twins.intercalate_cons (by decide) (by decide)
    (twins_rootStatement hlayout hnodup hfree halike)
    (List.forall₂_same.2 fun column hcolumn => ?_)
  obtain ⟨hmem, hof⟩ := ofKey_of_mem_junctions hlayout hcolumn
  have hkey := (Delimiters.mem_junctionKeys_iff.1 hmem).1
  have hjunction := (JunctionColumn.ofKey_eq_ok_iff.1 hof).2.1
  exact JunctionColumn.twins_statementOf hof hfree (hdistinct _ hkey _ hjunction) hmem halike

theorem Seeder.exists_layout_of_seed {s : Seeder} {first : Row} {rest : List Row} {sql : String}
    (hconfig : s.config = ⟨d, items, .strict⟩)
    (h : (s.seed (first :: rest) (.table schema table)).result = .ok sql) :
    ∃ layout, Layout.ofKeys d schema table first.keys = .ok layout ∧
      sql = "\n".intercalate
        ((layout.rootStatement ⟨d, items, .strict⟩ schema table (first :: rest) ::
          layout.junctions.map (JunctionColumn.statementOf ⟨d, items, .strict⟩ (first :: rest))).map
            (SqlStyle.statementText ⟨d, .strict, s.hash?⟩)) := by
  obtain ⟨_, _, layout, hrows, hlayout, rfl⟩ := exists_layout_of_result h
  obtain ⟨rfl, rfl⟩ := List.cons_eq_cons.1 hrows
  rw [hconfig] at hlayout
  refine ⟨layout, hlayout, ?_⟩
  rw [style, hconfig]

end Runs

/-- In strict mode the SQL for rows is read as literals that hold the values of the rows. Rows that
look alike, whatever hash function and item delimiter they are seeded with, give SQL that is the
same outside literals. -/
theorem Seeder.strict_literals {s : Seeder} {schema table sql : String} {first : Row}
    {rest : List Row} (hmode : s.config.mode = .strict) (hschema : Unquoted schema)
    (htable : Unquoted table) (hdelimiter : Unquoted s.config.delimiters.oneToMany)
    (hkeys : ∀ key ∈ first.keys, Unquoted key)
    (hdistinct : ∀ key ∈ first.keys, ∀ j,
      Junction.ofKey s.config.delimiters schema table key = .ok j → j.ownerKey ≠ j.itemKey)
    (h : (s.seed (first :: rest) (.table schema table)).result = .ok sql) :
    (∃ ps, Sql.scan sql = some ps ∧ Sql.literals ps = s.values first.keys (first :: rest)) ∧
      ∀ (s' : Seeder) (first' : Row) (rest' : List Row) (sql' : String),
        s'.config.delimiters = s.config.delimiters → s'.config.mode = .strict →
        first'.keys = first.keys →
        List.Forall₂ (Row.Alike s.config.delimiters s.config.rowItemDelimiter
          s'.config.rowItemDelimiter first.keys) (first :: rest) (first' :: rest') →
        (s'.seed (first' :: rest') (.table schema table)).result = .ok sql' →
        (Sql.scan sql').map Sql.outline = (Sql.scan sql).map Sql.outline := by
  obtain ⟨hone, hmany, -⟩ := s.config.valid_iff.1 s.valid
  have hfree : QuoteFree s.config.delimiters schema table first.keys :=
    ⟨hone, hmany, hdelimiter, hschema, htable, hkeys⟩
  have hconfig : s.config = ⟨s.config.delimiters, s.config.rowItemDelimiter, .strict⟩ := by
    rw [← hmode]
  obtain ⟨layout, hlayout, rfl⟩ := exists_layout_of_seed hconfig h
  -- a run is compared with itself for its values, and with another run for its outline
  constructor
  · have hself : List.Forall₂ (Row.Alike s.config.delimiters s.config.rowItemDelimiter
        s.config.rowItemDelimiter first.keys) (first :: rest) (first :: rest) :=
      List.forall₂_same.2 fun row _ => Row.Alike.refl _ _ _ row
    exact (Layout.twins_batch s.hash? s.hash? hlayout first.nodup_keys hfree hdistinct hself).scan
  · intro s' first' rest' sql' hdelimiters hmode' hkeys' halike h'
    have hconfig' : s'.config = ⟨s.config.delimiters, s'.config.rowItemDelimiter, .strict⟩ := by
      rw [← hmode', ← hdelimiters]
    obtain ⟨layout', hlayout', rfl⟩ := exists_layout_of_seed hconfig' h'
    rw [hkeys', hlayout, Except.ok.injEq] at hlayout'
    subst hlayout'
    exact (Layout.twins_batch s.hash? s'.hash? hlayout first.nodup_keys hfree hdistinct
      halike).outline_eq.symm

/-- A seeder in strict mode whose digests end in a quote. -/
def Seeder.quoting : Seeder where
  config := ⟨.standard, "|", .strict⟩
  hash? := some fun text => text ++ "'"
  valid := by decide

/-- A product with quotes in its cells. -/
def quotedRow : Row :=
  .ofList [("name", "O'Hara"), ("code#", "''"), ("brand_id**brands**name", "*"), ("note", "NULL"),
    ("tag_id***product_tags***tags***tag_name***name", "a'|*")]

/-- A product that looks like it. -/
def plainRow : Row :=
  .ofList [("name", "lamp"), ("code#", "7"), ("brand_id**brands**name", "*"), ("note", ""),
    ("tag_id***product_tags***tags***tag_name***name", "b|*")]

theorem Seeder.strict_literals_quotedRow :
    ∃ sql sql', (Seeder.quoting.seed [quotedRow] (.table "public" "products")).result = .ok sql ∧
      (Seeder.quoting.seed [plainRow] (.table "public" "products")).result = .ok sql' ∧
      (∃ ps, Sql.scan sql = some ps ∧
        Sql.literals ps = ["O'Hara", "'''", "O'Hara", "a'", "O'Hara"]) ∧
      (Sql.scan sql').map Sql.outline = (Sql.scan sql).map Sql.outline := by
  obtain ⟨sql, hsql⟩ := exists_eq_ok_of_isOk
    (x := (Seeder.quoting.seed [quotedRow] (.table "public" "products")).result)
    (by decide +kernel)
  obtain ⟨sql', hsql'⟩ := exists_eq_ok_of_isOk
    (x := (Seeder.quoting.seed [plainRow] (.table "public" "products")).result)
    (by decide +kernel)
  have hdistinct : ∀ key ∈ quotedRow.keys, ∀ j,
      Junction.ofKey .standard "public" "products" key = .ok j → j.ownerKey ≠ j.itemKey := by
    have hkeys : ∀ key ∈ quotedRow.keys,
        (Junction.ofKey .standard "public" "products" key).toOption.all fun j =>
          j.ownerKey != j.itemKey := by
      decide +kernel
    intro key hkey j hj
    have hkey := hkeys key hkey
    rw [hj] at hkey
    exact bne_iff_ne.1 hkey
  obtain ⟨⟨ps, hps, hvalues⟩, houtline⟩ := Seeder.strict_literals (s := Seeder.quoting) rfl
    (by decide) (by decide) (by decide) (by decide +kernel) hdistinct hsql
  have halike : quotedRow.Alike .standard "|" "|" quotedRow.keys plainRow :=
    ⟨by decide +kernel, by decide +kernel, by decide +kernel, by decide +kernel⟩
  refine ⟨sql, sql', hsql, hsql', ⟨ps, hps, hvalues.trans (by decide +kernel)⟩, ?_⟩
  exact houtline Seeder.quoting plainRow [] sql' rfl rfl (by decide +kernel)
    (.cons halike .nil) hsql'

end SeedScript
