import SeedScript.Proofs.Batch.Columns
import SeedScript.Proofs.Sql.Visits
import SeedScript.Seeder

/-!
# Built batches are written

Every row of a built batch has a cell under every column of its statement, and only cells of the
seeded table are to be hashed. So writing a built batch can fail for one reason: a key of the first
row is marked to be hashed and there is no hash function. Otherwise an insert is written for each
statement, with at least one tuple, and with as many texts in each tuple as it has names
(`Seeder.result_batch`).
-/

namespace SeedScript

/-- The fault of a key that is marked to be hashed, when there is no hash function. -/
def SqlStyle.hashFault? (style : SqlStyle) (key : String) : Option SeedError :=
  if style.delimiters.kind key = .hashed ∧ style.hash?.isNone then some (.missingHash key) else none

variable {c : Config} {style : SqlStyle} {schema table : String} {keys : List String}
  {rows : List Row}

theorem SqlStyle.hashFault?_eq_some_iff {key : String} {e : SeedError} :
    style.hashFault? key = some e ↔
      (style.delimiters.kind key = .hashed ∧ style.hash? = none) ∧ e = .missingHash key := by
  rw [hashFault?, Option.ite_none_right_eq_some, Option.isNone_iff_eq_none, Option.some.injEq,
    @eq_comm _ e]

/-! ## The seeded table -/

theorem RootColumn.cellFault?_resolve {column : RootColumn} (mode : LiteralMode) (text : String)
    (hof : ofKey style.delimiters column.key = .ok column) :
    style.cellFault? column.key (column.role.resolve mode text) =
      style.hashFault? column.key := by
  unfold SqlStyle.hashFault?
  simp only [← role_eq_hashed_iff hof]
  cases column.role with
  | lookup l => simp [CellRole.resolve, SqlStyle.cellFault?]
  | hashed => simp [CellRole.resolve, SqlStyle.cellFault?]
  | literal =>
    unfold CellRole.resolve
    dsimp only
    split <;> simp [SqlStyle.cellFault?]

theorem Layout.keyFault?_rootRecord {layout : Layout} (hnodup : keys.Nodup)
    (hlayout : Layout.ofKeys style.delimiters schema table keys = .ok layout) (mode : LiteralMode)
    (row : Row) (index : Nat) {column : RootColumn} (hcolumn : column ∈ layout.root) :
    style.keyFault? (layout.rootRecord mode row) index column.key =
      style.hashFault? column.key := by
  unfold SqlStyle.keyFault?
  rw [get?_rootRecord (nodup_key_root hlayout hnodup) hcolumn]
  exact RootColumn.cellFault?_resolve mode _ (ofKey_of_mem_root hlayout hcolumn).2

/-- Every row of the seeded table has the same fault, so the statement has that of its first row. -/
theorem Layout.statementFault?_rootStatement {layout : Layout} (hnodup : keys.Nodup)
    (hlayout : Layout.ofKeys style.delimiters schema table keys = .ok layout) (hrows : rows ≠ []) :
    style.statementFault? (layout.rootStatement c schema table rows) =
      keys.findSome? style.hashFault? := by
  have hkeys : (layout.root.map RootColumn.key).findSome? style.hashFault? =
      keys.findSome? style.hashFault? := by
    rw [map_key_root hlayout]
    refine findSome?_filter_of_none fun key _ hroot => ?_
    have hkind : style.delimiters.kind key ≠ .hashed := fun hkind => by
      rw [hkind] at hroot
      cases hroot
    rw [SqlStyle.hashFault?, if_neg fun h => hkind h.1]
  have hrecords : (layout.rootStatement c schema table rows).rows.zipIdx ≠ [] := by
    simpa [rootStatement] using hrows
  refine findSome?_eq_of_forall hrecords fun p hp => ?_
  obtain ⟨row, -, hrecord⟩ := List.mem_map.1 (List.fst_mem_of_mem_zipIdx hp)
  show (layout.root.map RootColumn.key).findSome? (style.keyFault? p.1 p.2) = _
  rw [← hkeys, List.findSome?_map, List.findSome?_map, ← hrecord]
  exact findSome?_congr fun column hcolumn =>
    keyFault?_rootRecord hnodup hlayout c.mode row p.2 hcolumn

/-! ## Junction tables -/

theorem Statement.LooksUp.keyFault?_eq_none {s : Statement} {mode : LiteralMode} {key : String}
    {l : Lookup} (h : s.LooksUp mode key l) {record : Record Cell} (hrecord : record ∈ s.rows)
    (index : Nat) : style.keyFault? record index key = none := by
  obtain ⟨text, hcell⟩ := h record hrecord
  rw [SqlStyle.keyFault?, hcell]
  rfl

theorem JunctionColumn.statementFault?_statementOf {column : JunctionColumn}
    (hof : ofKey c.delimiters schema table column.key = .ok column) :
    style.statementFault? (column.statementOf c rows) = none := by
  obtain ⟨howner, hitem⟩ := statementOf_looksUp hof rows
  refine List.findSome?_eq_none_iff.2 fun p hp => List.findSome?_eq_none_iff.2 fun key hkey => ?_
  have hrecord := List.fst_mem_of_mem_zipIdx hp
  rcases List.mem_cons.1 hkey with rfl | hkey
  · exact howner.keyFault?_eq_none hrecord p.2
  · rw [List.mem_singleton.1 hkey]
    exact hitem.keyFault?_eq_none hrecord p.2

/-! ## Batches -/

/-- A batch that is built has statements for its rows and its keys, and each of them has rows. -/
theorem Batch.rows_ne_nil {b : Batch} (h : Batch.ofRows c schema table rows = .ok b) {s : Statement}
    (hs : s ∈ b.statements) : s.rows ≠ [] := by
  obtain ⟨first, rest, layout, hrows, -, -, hb⟩ := Batch.ofRows_eq_ok_iff.1 h
  have hne : rows ≠ [] := hrows ▸ List.cons_ne_nil _ _
  rw [hb] at hs
  rcases List.mem_cons.1 hs with rfl | hs
  · simpa [Layout.rootStatement] using hne
  · obtain ⟨column, -, rfl⟩ := List.mem_map.1 hs
    obtain ⟨record, hrecord⟩ := JunctionColumn.exists_mem_rows_statementOf c column hne
    exact List.ne_nil_of_mem hrecord

theorem Batch.length_statements {b : Batch} {first : Row} {rest : List Row}
    (h : Batch.ofRows c schema table (first :: rest) = .ok b) :
    b.statements.length = 1 + (c.delimiters.junctionKeys first.keys).length := by
  obtain ⟨_, _, layout, hrows, hlayout, -, hb⟩ := Batch.ofRows_eq_ok_iff.1 h
  obtain ⟨rfl, rfl⟩ := List.cons_eq_cons.1 hrows
  rw [hb, ← Layout.map_key_junctions hlayout, List.length_cons, List.length_map, List.length_map,
    Nat.add_comm]

/-- Writing a batch that is built has the fault of the first key that is marked to be hashed. -/
theorem Batch.findSome?_statementFault? {b : Batch} {first : Row} {rest : List Row}
    (hstyle : style.delimiters = c.delimiters)
    (h : Batch.ofRows c schema table (first :: rest) = .ok b) :
    b.statements.findSome? style.statementFault? = first.keys.findSome? style.hashFault? := by
  obtain ⟨_, _, layout, hrows, hlayout, -, hb⟩ := Batch.ofRows_eq_ok_iff.1 h
  obtain ⟨rfl, rfl⟩ := List.cons_eq_cons.1 hrows
  have hjunctions : (layout.junctions.map (JunctionColumn.statementOf c (first :: rest))).findSome?
      style.statementFault? = none := by
    refine List.findSome?_eq_none_iff.2 fun s hs => ?_
    obtain ⟨column, hcolumn, rfl⟩ := List.mem_map.1 hs
    exact JunctionColumn.statementFault?_statementOf
      (Layout.ofKey_of_mem_junctions hlayout hcolumn).2
  rw [hb, findSome?_cons_eq_or, hjunctions, Option.or_none,
    Layout.statementFault?_rootStatement first.nodup_keys (hstyle ▸ hlayout) (List.cons_ne_nil _ _)]

theorem SqlStyle.findSome?_hashFault?_eq_some_iff {e : SeedError} :
    keys.findSome? style.hashFault? = some e ↔ style.hash? = none ∧
      ∃ before key after, keys = before ++ key :: after ∧
        (∀ k ∈ before, style.delimiters.kind k ≠ .hashed) ∧ style.delimiters.kind key = .hashed ∧
        e = .missingHash key := by
  rw [List.findSome?_eq_some_iff]
  constructor
  · rintro ⟨before, key, after, hkeys, hkey, hbefore⟩
    obtain ⟨⟨hkind, hhash⟩, rfl⟩ := hashFault?_eq_some_iff.1 hkey
    refine ⟨hhash, before, key, after, hkeys, fun k hk hkind => ?_, hkind, rfl⟩
    have hfault := hashFault?_eq_some_iff.2 ⟨⟨hkind, hhash⟩, rfl⟩
    rw [hbefore k hk] at hfault
    cases hfault
  · rintro ⟨hhash, before, key, after, hkeys, hbefore, hkind, rfl⟩
    refine ⟨before, key, after, hkeys, hashFault?_eq_some_iff.2 ⟨⟨hkind, hhash⟩, rfl⟩,
      fun k hk => ?_⟩
    rw [hashFault?, if_neg fun h => hbefore k hk h.1]

/-- What is seeded into a table are the texts of the statements that are built. -/
theorem Seeder.exists_batch_of_seed {s : Seeder} {sql : String}
    (h : (s.seed rows (.table schema table)).result = .ok sql) :
    ∃ b, Batch.ofRows s.config schema table rows = .ok b ∧
      sql = "\n".intercalate (b.statements.map s.style.statementText) := by
  unfold seed batch at h
  simp only [Logged.result_bind, Logged.result_ofExcept, bind_eq_ok_iff] at h
  obtain ⟨b, hb, hsql⟩ := h
  split at hb
  · cases hb
  · exact ⟨b, hb, (SqlStyle.result_batch_eq_ok_iff.1 hsql).2⟩

/-- Writing a batch that is built fails exactly when there is no hash function and a key of the
first row is marked to be hashed, and then for the first of these keys. Otherwise one insert is
written for the seeded table and one for each many-to-many key, each with a tuple or more, and each
tuple has a text for every name of the insert. -/
theorem Seeder.result_batch {s : Seeder} {b : Batch} (h : s.batch schema table rows = .ok b) :
    ∃ first rest, rows = first :: rest ∧
      (∀ e, (s.style.batch b).result = .error e ↔ s.hash? = none ∧
        ∃ before key after, first.keys = before ++ key :: after ∧
          (∀ k ∈ before, s.config.delimiters.kind k ≠ .hashed) ∧
          s.config.delimiters.kind key = .hashed ∧ e = .missingHash key) ∧
      (∀ index key, (s.style.batch b).result ≠ .error (.missingCell index key)) ∧
      ((s.hash? ≠ none ∨ ∀ key ∈ first.keys, s.config.delimiters.kind key ≠ .hashed) →
        ∃ inserts, (s.style.batch b).result = .ok ("\n".intercalate (inserts.map Insert.text)) ∧
          List.Forall₂ s.style.WritesAs b.statements inserts ∧
          inserts.length = 1 + (s.config.delimiters.junctionKeys first.keys).length ∧
          ∀ i ∈ inserts, i.tuples ≠ [] ∧ ∀ tuple ∈ i.tuples, tuple.length = i.names.length) := by
  unfold batch at h
  split at h
  · cases h
  cases rows with
  | nil => cases h
  | cons first rest =>
    have hfails : FailsWith (s.style.batch b).result _ := SqlStyle.failsWith_batch b
    rw [Batch.findSome?_statementFault? rfl h] at hfails
    have herror (e : SeedError) := (hfails e).trans SqlStyle.findSome?_hashFault?_eq_some_iff
    refine ⟨first, rest, rfl, herror, fun index key hresult => ?_, fun hhash => ?_⟩
    · obtain ⟨-, before, marked, after, -, -, -, he⟩ := (herror _).1 hresult
      cases he
    · have hnone : first.keys.findSome? s.style.hashFault? = none := by
        refine List.findSome?_eq_none_iff.2 fun key hkey => ?_
        rw [SqlStyle.hashFault?, if_neg]
        rintro ⟨hkind, hnone⟩
        rcases hhash with hhash | hkinds
        · exact hhash (Option.isNone_iff_eq_none.1 hnone)
        · exact hkinds key hkey hkind
      obtain ⟨sql, hsql⟩ := hfails.exists_ok_iff.2 hnone
      obtain ⟨inserts, hinserts, rfl⟩ := SqlStyle.exists_inserts_of_result hsql
      refine ⟨inserts, hsql, hinserts, ?_, fun i hi => ?_⟩
      · rw [← hinserts.length_eq, Batch.length_statements h]
      · obtain ⟨statement, hstatement, hwrites⟩ := exists_of_forall₂_of_mem hinserts hi
        exact ⟨hwrites.tuples_ne_nil (Batch.rows_ne_nil h hstatement),
          fun tuple => hwrites.length_tuple⟩

/-- A user with a password to be hashed, and friends who are found as the user is. -/
def memberRows : List Row :=
  [.ofList [("name", "ann"), ("pass#", "x"),
      ("user_id***friends***users***name***name", "bob|cat")],
    .ofList [("name", "bob"), ("pass#", ""), ("user_id***friends***users***name***name", "ann")]]

/-- The standard configuration with a hash function. -/
def Seeder.hashing : Seeder := ⟨.standard, some fun text => text ++ "!", Config.valid_standard⟩

theorem Seeder.result_batch_memberRows :
    ∃ b, Seeder.hashing.batch "" "users" memberRows = .ok b ∧
      (∃ inserts : List Insert, (Seeder.hashing.style.batch b).result =
          .ok ("\n".intercalate (inserts.map Insert.text)) ∧ inserts.length = 2) ∧
      (SqlStyle.batch ⟨.standard, .compat, none⟩ b).result = .error (.missingHash "pass#") := by
  obtain ⟨b, hb⟩ := exists_eq_ok_of_isOk (x := Seeder.hashing.batch "" "users" memberRows)
    (by decide +kernel)
  obtain ⟨first, rest, hrows, -, -, hwritten⟩ := Seeder.result_batch hb
  obtain ⟨rfl, rfl⟩ := List.cons_eq_cons.1 hrows
  obtain ⟨inserts, hsql, -, hlength, -⟩ := hwritten (.inl (by decide))
  obtain ⟨first, rest, hrows, hfails, -, -⟩ :=
    Seeder.result_batch (s := { Seeder.hashing with hash? := none }) hb
  obtain ⟨rfl, rfl⟩ := List.cons_eq_cons.1 hrows
  refine ⟨b, hb, ⟨inserts, hsql, hlength.trans (by decide +kernel)⟩, (hfails _).2 ⟨rfl, ?_⟩⟩
  exact ⟨["name"], "pass#", ["user_id***friends***users***name***name"], by decide +kernel,
    by decide +kernel, by decide +kernel, rfl⟩

end SeedScript
