import SeedScript.Proofs.Seeder.Runs

/-!
# Hashed cells are known by their digests

Two batches of rows are seeded side by side. They have the same keys, and where their cells differ
the key is marked to be hashed, finds no owner of a junction, and the two cells have one digest. The
faults of rows are a matter of their keys, junction tables are filled from other cells, and in the
seeded table these cells pass through the hash function. So both runs end in the same way, with the
same SQL or the same error and with the same warnings (`Seeder.seed_digests`).
-/

namespace SeedScript

/-- The cells under a key are hashed and used for nothing else: the key is marked for it, and no
many-to-many key finds its owners by it. -/
def Delimiters.OnlyHashes (d : Delimiters) (schema table : String) (keys : List String)
    (key : String) : Prop :=
  d.kind key = .hashed ∧
    ∀ k ∈ keys, ∀ j, Junction.ofKey d schema table k = .ok j → j.firstSearchKey ≠ key

instance (d : Delimiters) (schema table : String) (keys : List String) (key : String) :
    Decidable (d.OnlyHashes schema table keys key) :=
  decidable_of_iff (d.kind key = .hashed ∧
      ∀ k ∈ keys, ∀ j ∈ (Junction.ofKey d schema table k).toOption, j.firstSearchKey ≠ key)
    (by simp only [Delimiters.OnlyHashes, Option.mem_def, toOption_eq_some_iff])

/-- Two rows have the same keys and the same cells, but for some keys under which their cells have
the same digests. -/
structure Row.SameDigests (hash : String → String) (hidden : String → Prop) (row row' : Row) :
    Prop where
  keys_eq : row'.keys = row.keys
  cells : ∀ key ∈ row.keys, row.text key = row'.text key ∨
    hidden key ∧ hash (row.text key) = hash (row'.text key)

namespace Row.SameDigests

variable {hash : String → String} {hidden : String → Prop} {row row' : Row} {key : String}

/-- A key that neither row has stands for an empty text in both. -/
theorem text_or (h : row.SameDigests hash hidden row') (key : String) :
    row.text key = row'.text key ∨ hidden key ∧ hash (row.text key) = hash (row'.text key) := by
  by_cases hkey : key ∈ row.keys
  · exact h.cells key hkey
  · have hnone := Option.not_isSome_iff_eq_none.1 (Record.isSome_get?_iff.not.2 hkey)
    have hnone' := Option.not_isSome_iff_eq_none.1 (Record.isSome_get?_iff.not.2 (h.keys_eq ▸ hkey))
    exact .inl (by rw [Row.text, Row.text, hnone, hnone'])

theorem text_eq (h : row.SameDigests hash hidden row') (hkey : ¬ hidden key) :
    row.text key = row'.text key :=
  (h.text_or key).resolve_right fun hhidden => hkey hhidden.1

end Row.SameDigests

variable {c : Config} {d : Delimiters} {schema table : String} {keys : List String}
  {rows rows' : List Row}

/-! ## Faults -/

theorem Batch.rowFault?_congr (h : List.Forall₂ (fun row row' : Row => row'.keys = row.keys) rows
    rows') (start : Nat) : rowFault? keys start rows = rowFault? keys start rows' := by
  induction h generalizing start with
  | nil => rfl
  | cons hkeys _ ih => rw [rowFault?_cons, rowFault?_cons, ih, Row.missing?, Row.missing?, hkeys]

/-- What is wrong with rows shows in their keys. -/
theorem Batch.fault?_congr
    (h : List.Forall₂ (fun row row' : Row => row'.keys = row.keys) rows rows') :
    fault? d schema table rows = fault? d schema table rows' := by
  have hrow (keys : List String) : rowFault? keys 0 rows = rowFault? keys 0 rows' :=
    rowFault?_congr h 0
  cases h with
  | nil => rfl
  | cons hkeys _ => rw [fault?_cons, fault?_cons, hkeys, hrow]

/-! ## Statements -/

theorem JunctionColumn.statementOf_congr {column : JunctionColumn}
    (h : List.Forall₂ (fun row row' : Row => row.text column.key = row'.text column.key ∧
      row.text column.junction.firstSearchKey = row'.text column.junction.firstSearchKey)
      rows rows') : column.statementOf c rows = column.statementOf c rows' := by
  have hrecords : rows.flatMap (column.records c) = rows'.flatMap (column.records c) := by
    induction h with
    | nil => rfl
    | cons htexts _ ih =>
      rw [List.flatMap_cons, List.flatMap_cons, ih, records, records, htexts.1, htexts.2]
  unfold statementOf
  rw [hrecords]

section Writing

variable {style : SqlStyle} {hash : String → String}

/-- A cell is written from its text, and from the digest of its text if it is to be hashed. -/
theorem RootColumn.cell_congr {column : RootColumn} (hof : ofKey d column.key = .ok column)
    (hhash : style.hash? = some hash) {text text' : String}
    (h : text = text' ∨ d.kind column.key = .hashed ∧ hash text = hash text') (mode : LiteralMode)
    (name : String) :
    style.cell name column.key (column.role.resolve mode text) =
      style.cell name column.key (column.role.resolve mode text') := by
  rcases h with rfl | ⟨hkind, hdigest⟩
  · rfl
  · have hrole : column.role = .hashed := (role_eq_hashed_iff hof).2 hkind
    simp only [hrole, CellRole.resolve, SqlStyle.cell, hhash, hdigest]

theorem Layout.statement_rootStatement_congr {layout : Layout} (hnodup : keys.Nodup)
    (hlayout : ofKeys d schema table keys = .ok layout) (hhash : style.hash? = some hash)
    (h : List.Forall₂ (fun row row' : Row => ∀ key, row.text key = row'.text key ∨
      d.kind key = .hashed ∧ hash (row.text key) = hash (row'.text key)) rows rows') :
    style.statement (layout.rootStatement c schema table rows) =
      style.statement (layout.rootStatement c schema table rows') := by
  have hkeysNodup := nodup_key_root hlayout hnodup
  have hrows : List.Forall₂ (fun record record' => ∀ index,
      style.row (Naming.qualified schema table) (layout.root.map RootColumn.key) record index =
        style.row (Naming.qualified schema table) (layout.root.map RootColumn.key) record' index)
      (rows.map (layout.rootRecord c.mode)) (rows'.map (layout.rootRecord c.mode)) := by
    refine List.forall₂_map_left_iff.2 (List.forall₂_map_right_iff.2 (h.imp ?_))
    intro row row' htexts index
    unfold SqlStyle.row
    rw [mapM_congr fun key hkey => ?_]
    obtain ⟨column, hcolumn, rfl⟩ := List.mem_map.1 hkey
    unfold SqlStyle.column
    rw [get?_rootRecord hkeysNodup hcolumn, get?_rootRecord hkeysNodup hcolumn]
    exact RootColumn.cell_congr (ofKey_of_mem_root hlayout hcolumn).2 hhash (htexts column.key)
      c.mode _
  unfold SqlStyle.statement rootStatement
  dsimp only
  rw [mapM_zipIdx_congr hrows]

/-- Two batches of one layout are written alike when their cells are the same, or have the same
digests under keys that only hash. -/
theorem Layout.batch_congr {layout : Layout} {b b' : Batch} (hnodup : keys.Nodup)
    (hlayout : ofKeys d schema table keys = .ok layout) (hhash : style.hash? = some hash)
    (h : List.Forall₂ (Row.SameDigests hash (d.OnlyHashes schema table keys)) rows rows')
    (hb : b.statements = layout.rootStatement c schema table rows ::
      layout.junctions.map (JunctionColumn.statementOf c rows))
    (hb' : b'.statements = layout.rootStatement c schema table rows' ::
      layout.junctions.map (JunctionColumn.statementOf c rows')) :
    style.batch b = style.batch b' := by
  have hroot := statement_rootStatement_congr (c := c) hnodup hlayout hhash
    (h.imp fun row row' hrow key => (hrow.text_or key).imp_right (And.imp_left And.left))
  have hjunctions : layout.junctions.map (JunctionColumn.statementOf c rows) =
      layout.junctions.map (JunctionColumn.statementOf c rows') := by
    refine List.map_congr_left fun column hcolumn => ?_
    obtain ⟨hmem, hof⟩ := ofKey_of_mem_junctions hlayout hcolumn
    obtain ⟨hkey, hkind⟩ := Delimiters.mem_junctionKeys_iff.1 hmem
    have hjunction := (JunctionColumn.ofKey_eq_ok_iff.1 hof).2.1
    refine JunctionColumn.statementOf_congr (h.imp fun row row' hrow => ⟨?_, ?_⟩)
    · -- a many-to-many key is not marked to be hashed
      exact hrow.text_eq fun hhidden => by rw [hhidden.1] at hkind; cases hkind
    · exact hrow.text_eq fun hhidden => hhidden.2 _ hkey _ hjunction rfl
  unfold SqlStyle.batch
  rw [hb, hb', List.mapM_cons, List.mapM_cons, hroot, hjunctions]

end Writing

/-- Rows whose cells differ only where they are hashed, to the same digests, are seeded alike: with
the same SQL or the same error, and with the same warnings. -/
theorem Seeder.seed_digests {s : Seeder} {hash : String → String} (hhash : s.hash? = some hash)
    {schema table : String} {rows rows' : List Row}
    (h : List.Forall₂ (Row.SameDigests hash
      (s.config.delimiters.OnlyHashes schema table (Row.firstKeys rows))) rows rows') :
    s.seed rows (.table schema table) = s.seed rows' (.table schema table) := by
  have hkeys := h.imp fun row row' hrow => hrow.keys_eq
  have hfails := Batch.failsWith_ofRows s.config schema table rows
  have hfails' := Batch.failsWith_ofRows s.config schema table rows'
  rw [← Batch.fault?_congr hkeys] at hfails'
  show Logged.ofExcept (s.batch schema table rows) >>= s.style.batch =
    Logged.ofExcept (s.batch schema table rows') >>= s.style.batch
  unfold batch
  split
  · rfl
  cases hfault : Batch.fault? s.config.delimiters schema table rows with
  | some e => rw [(hfails e).2 hfault, (hfails' e).2 hfault]
  | none =>
    obtain ⟨b, hb⟩ := hfails.exists_ok_iff.2 hfault
    obtain ⟨b', hb'⟩ := hfails'.exists_ok_iff.2 hfault
    obtain ⟨first, rest, layout, rfl, hlayout, -, hstatements⟩ := Batch.ofRows_eq_ok_iff.1 hb
    obtain ⟨first', rest', layout', rfl, hlayout', -, hstatements'⟩ :=
      Batch.ofRows_eq_ok_iff.1 hb'
    rw [(List.forall₂_cons.1 hkeys).1, hlayout, Except.ok.injEq] at hlayout'
    subst hlayout'
    rw [hb, hb']
    show s.style.batch b = s.style.batch b'
    exact Layout.batch_congr first.nodup_keys hlayout hhash h hstatements hstatements'

/-- A seeder whose digests tell short texts from long ones. -/
def Seeder.measuring : Seeder :=
  ⟨.standard, some fun text => if text.length < 4 then "short" else "long", Config.valid_standard⟩

/-- A user with a password, and a cell that compat mode warns of. -/
def passRow (pass : String) : Row :=
  .ofList [("name", "ann"), ("pass#", pass), ("made", "NOW()"),
    ("tag_id***user_tags***tags***tag***name", "a|b")]

/-- Neither a null token nor a star nor quotes in a password show. -/
theorem Seeder.seed_digests_passRow :
    Seeder.measuring.seed [passRow "", passRow "secret"] (.table "" "users") =
        Seeder.measuring.seed [passRow "*", passRow "'NOW()'"] (.table "" "users") ∧
      (Seeder.measuring.seed [passRow "", passRow "secret"] (.table "" "users")).result.isOk ∧
      (Seeder.measuring.seed [passRow "", passRow "secret"] (.table "" "users")).warnings =
        [⟨"users", "made", "NOW()"⟩, ⟨"users", "made", "NOW()"⟩] := by
  refine ⟨Seeder.seed_digests rfl (.cons ⟨by decide +kernel, by decide +kernel⟩
    (.cons ⟨by decide +kernel, by decide +kernel⟩ .nil)), by decide +kernel, by decide +kernel⟩

end SeedScript
