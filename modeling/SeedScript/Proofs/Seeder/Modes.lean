import SeedScript.Proofs.Batch.Texts
import SeedScript.Proofs.Literals
import SeedScript.Proofs.Seeder.Runs
import SeedScript.Proofs.Sql.Scan

/-!
# Compat mode and strict mode

The mode is asked in three places: where a literal is written, where a digest is, and where a lookup
compares. In each of them strict mode writes what compat mode writes, with quotes put in. `Widens`
relates two such texts and says when they are one; as nothing is ever taken out, texts put together
are one only where all their parts are. So the SQL of strict mode is that of compat mode with quotes
put in, and it is the same SQL exactly where no cell asks for them (`Seeder.seed_modes`).
-/

namespace SeedScript

open Sql (Unquoted)

/-! ## Texts -/

/-- The second text is the first one with characters put in, and none exactly when `p` holds. -/
structure Widens (a b : String) (p : Prop) : Prop where
  sublist : a.toList.Sublist b.toList
  eq_iff : a = b ↔ p

namespace Widens

variable {a b a' b' c sep : String} {p q : Prop}

theorem refl (c : String) : Widens c c True := ⟨.refl _, iff_of_true rfl trivial⟩

theorem congr (h : Widens a b p) (hpq : p ↔ q) : Widens a b q := ⟨h.sublist, h.eq_iff.trans hpq⟩

theorem length_le (h : Widens a b p) : a.length ≤ b.length := by
  rw [← String.length_toList, ← String.length_toList]
  exact h.sublist.length_le

theorem append (h : Widens a b p) (h' : Widens a' b' q) : Widens (a ++ a') (b ++ b') (p ∧ q) where
  sublist := by
    rw [String.toList_append, String.toList_append]
    exact h.sublist.append h'.sublist
  eq_iff := by
    rw [← h.eq_iff, ← h'.eq_iff]
    constructor
    · intro heq
      -- neither part can make up for a character that was put into the other
      have hlength : a.length + a'.length = b.length + b'.length := by
        rw [← String.length_append, heq, String.length_append]
      have hfirst := h.length_le
      have hsecond := h'.length_le
      constructor
      · exact String.toList_inj.1 (h.sublist.eq_of_length (by
          rw [String.length_toList, String.length_toList]; omega))
      · exact String.toList_inj.1 (h'.sublist.eq_of_length (by
          rw [String.length_toList, String.length_toList]; omega))
    · rintro ⟨rfl, rfl⟩
      rfl

theorem append_right (h : Widens a b p) (c : String) : Widens (a ++ c) (b ++ c) p :=
  (h.append (refl c)).congr (and_iff_left trivial)

theorem append_left (c : String) (h : Widens a b p) : Widens (c ++ a) (c ++ b) p :=
  ((refl c).append h).congr (and_iff_right trivial)

section Lists

variable {α : Type} {f g : α → String} {q : α → Prop} {xs : List α}

theorem intercalate_cons (sep : String) (h : Widens a b p)
    (htail : ∀ x ∈ xs, Widens (f x) (g x) (q x)) :
    Widens (sep.intercalate (a :: xs.map f)) (sep.intercalate (b :: xs.map g))
      (p ∧ ∀ x ∈ xs, q x) := by
  -- the next text takes the place of the first, so both stay general
  induction xs generalizing a b p with
  | nil =>
    rw [List.map_nil, List.map_nil, String.intercalate_singleton, String.intercalate_singleton]
    exact h.congr (by simp)
  | cons x xs ih =>
    have hx := htail x List.mem_cons_self
    have hxs := ih hx fun y hy => htail y (List.mem_cons_of_mem x hy)
    rw [List.map_cons, List.map_cons, String.intercalate_cons_cons, String.intercalate_cons_cons]
    exact ((h.append_right sep).append hxs).congr (by rw [List.forall_mem_cons])

theorem intercalate (sep : String) (h : ∀ x ∈ xs, Widens (f x) (g x) (q x)) :
    Widens (sep.intercalate (xs.map f)) (sep.intercalate (xs.map g)) (∀ x ∈ xs, q x) := by
  cases xs with
  | nil => exact (refl _).congr (by simp)
  | cons x xs =>
    have hx := h x List.mem_cons_self
    rw [List.map_cons, List.map_cons]
    exact (intercalate_cons sep hx fun y hy => h y (List.mem_cons_of_mem x hy)).congr
      (List.forall_mem_cons).symm

theorem tuple (h : ∀ x ∈ xs, Widens (f x) (g x) (q x)) :
    Widens (SqlStyle.tuple (xs.map f)) (SqlStyle.tuple (xs.map g)) (∀ x ∈ xs, q x) :=
  ((intercalate ", " h).append_left "(").append_right ")"

end Lists

end Widens

/-! ## Literals -/

namespace Literal

theorem escape_eq_self_iff {text : String} : escape text = text ↔ Unquoted text := by
  rw [← String.toList_inj, escape, String.toList_ofList, doubleQuotes_eq_self_iff, Unquoted]

theorem widens_escape (text : String) : Widens text (escape text) (Unquoted text) where
  sublist := by
    rw [escape, String.toList_ofList]
    exact sublist_doubleQuotes text.toList
  eq_iff := by rw [eq_comm, escape_eq_self_iff]

/-- Between quotes a text is the same in both modes when it has none. -/
theorem widens_enclose (text : String) :
    Widens (LiteralMode.compat.enclose text) (LiteralMode.strict.enclose text) (Unquoted text) :=
  ((widens_escape text).append_left "'").append_right "'"

/-- An expression stands without quotes in compat mode only. -/
theorem widens_quote (text : String) : Widens text (LiteralMode.strict.enclose text) False where
  sublist := by
    show text.toList.Sublist (quote text).toList
    rw [toList_quote]
    exact ((sublist_doubleQuotes text.toList).trans (List.sublist_append_left _ _)).cons _
  eq_iff := by
    refine iff_of_false (fun heq => ?_) id
    have hle := (sublist_doubleQuotes text.toList).length_le
    have hlength := congrArg (fun s : String => s.toList.length) heq
    simp only [LiteralMode.enclose, toList_quote, List.cons_append, List.length_cons,
      List.length_append, List.length_nil] at hlength
    omega

theorem widens_literal (text : String) :
    Widens (LiteralMode.compat.literal text) (LiteralMode.strict.literal text)
      ('(' ∉ text.toList ∧ Unquoted text) := by
  by_cases hnull : isNullToken text = true
  · unfold LiteralMode.literal
    rw [if_pos hnull, if_pos hnull]
    refine (Widens.refl _).congr (iff_of_true trivial ?_)
    exact ⟨fun h => not_isNullToken (.inl h) hnull, fun h => not_isNullToken (.inr h) hnull⟩
  · have hstrict : LiteralMode.strict.literal text = LiteralMode.strict.enclose text := by
      rw [LiteralMode.literal, if_neg hnull, if_neg (by simp)]
    rw [hstrict, LiteralMode.literal, if_neg hnull]
    by_cases hexpression : '(' ∈ text.toList
    · rw [if_pos ⟨rfl, List.contains_iff_mem.2 hexpression⟩]
      exact (widens_quote text).congr (iff_of_false id fun h => h.1 hexpression)
    · rw [if_neg fun h => hexpression (List.contains_iff_mem.1 h.2)]
      exact (widens_enclose text).congr (and_iff_right hexpression).symm

end Literal

theorem Lookup.widens_subquery (l : Lookup) (value : String) :
    Widens (l.subquery .compat value) (l.subquery .strict value) (Unquoted value) := by
  unfold subquery
  split
  · rename_i hstar
    exact (Widens.refl _).congr (iff_of_true trivial (hstar ▸ by decide))
  · exact ((Literal.widens_enclose value).append_left _).append_right ")"

/-! ## Rows -/

/-- Under a key a row has nothing that strict mode writes with more quotes than compat mode: no
parenthesis and no quote in a literal, no quote in a digest and none in what is looked up. -/
def Row.Tame (d : Delimiters) (itemDelimiter : String) (hash : String → String) (row : Row)
    (key : String) : Prop :=
  match d.kind key with
  | .plain => '(' ∉ (row.text key).toList ∧ Unquoted (row.text key)
  | .hashed => Unquoted (hash (row.text key))
  | .oneToMany => Unquoted (row.text key)
  | .manyToMany => Unquoted (row.text (d.ownerColumn key)) ∧
      ∀ token ∈ Text.split itemDelimiter (row.text key), Unquoted token

instance (d : Delimiters) (itemDelimiter : String) (hash : String → String) (row : Row)
    (key : String) : Decidable (row.Tame d itemDelimiter hash key) := by
  unfold Row.Tame
  split <;> infer_instance

section Runs

variable {d : Delimiters} {items schema table : String} {hash? : Option (String → String)}
  {keys : List String} {rows : List Row}

theorem RootColumn.widens_cellText {column : RootColumn} (hof : ofKey d column.key = .ok column)
    (hroot : d.kind column.key ≠ .manyToMany) (row : Row) :
    Widens
      (SqlStyle.cellText ⟨d, .compat, hash?⟩ (column.role.resolve .compat (row.text column.key)))
      (SqlStyle.cellText ⟨d, .strict, hash?⟩ (column.role.resolve .strict (row.text column.key)))
      (row.Tame d items (hash?.getD id) column.key) := by
  obtain ⟨-, hrole⟩ := ofKey_eq_ok_iff.1 hof
  unfold Row.Tame
  cases hkind : d.kind column.key with
  | plain =>
    rw [hkind] at hrole
    rw [hrole]
    have hliteral := Literal.widens_literal (row.text column.key)
    simp only [CellRole.resolve]
    split
    · rename_i hnull
      rw [LiteralMode.literal, LiteralMode.literal, if_pos hnull, if_pos hnull] at hliteral
      exact hliteral
    · exact hliteral
  | hashed =>
    rw [hkind] at hrole
    rw [hrole]
    exact Literal.widens_enclose _
  | oneToMany =>
    rw [hkind] at hrole
    obtain ⟨l, -, hrole⟩ := hrole
    rw [hrole]
    exact l.widens_subquery _
  | manyToMany => exact absurd hkind hroot

theorem JunctionColumn.widens_rowText (column : JunctionColumn) (owner item : String) :
    Widens
      (SqlStyle.rowText ⟨d, .compat, hash?⟩ [column.junction.ownerKey, column.junction.itemKey]
        (column.join .compat owner item))
      (SqlStyle.rowText ⟨d, .strict, hash?⟩ [column.junction.ownerKey, column.junction.itemKey]
        (column.join .strict owner item))
      ((column.junction.ownerKey ≠ column.junction.itemKey → Unquoted owner) ∧ Unquoted item) := by
  have hitem := column.item.widens_subquery item
  have hfirst : Widens
      (if column.junction.ownerKey = column.junction.itemKey then column.item.subquery .compat item
        else column.owner.subquery .compat owner)
      (if column.junction.ownerKey = column.junction.itemKey then column.item.subquery .strict item
        else column.owner.subquery .strict owner)
      (if column.junction.ownerKey = column.junction.itemKey then Unquoted item
        else Unquoted owner) := by
    split
    · exact hitem
    · exact column.owner.widens_subquery owner
  have htexts (mode : LiteralMode) :
      SqlStyle.rowText ⟨d, mode, hash?⟩ [column.junction.ownerKey, column.junction.itemKey]
          (column.join mode owner item) =
        "(" ++ (if column.junction.ownerKey = column.junction.itemKey then
            column.item.subquery mode item else column.owner.subquery mode owner) ++ ", " ++
          column.item.subquery mode item ++ ")" := by
    rw [SqlStyle.rowText, List.map_cons, List.map_cons, List.map_nil,
      SqlStyle.textAt_of_get? (get?_join_ownerKey mode column owner item),
      SqlStyle.textAt_of_get? (get?_join_itemKey mode column owner item)]
    rfl
  rw [htexts, htexts]
  refine ((((hfirst.append_left "(").append_right ", ").append hitem).append_right ")").congr ?_
  split
  · rename_i hkeys
    simp [hkeys]
  · rename_i hkeys
    simp [hkeys]

/-! ## Statements -/

/-- Statements that differ in their tuples only are widened as these are. -/
theorem SqlStyle.widens_statementText {s s' : Statement} {p : Prop} (hschema : s'.schema = s.schema)
    (htable : s'.table = s.table) (hcolumns : s'.columns = s.columns)
    (htuples : Widens
      (", ".intercalate (s.rows.map (SqlStyle.rowText ⟨d, .compat, hash?⟩ s.columns)))
      (", ".intercalate (s'.rows.map (SqlStyle.rowText ⟨d, .strict, hash?⟩ s.columns))) p) :
    Widens (SqlStyle.statementText ⟨d, .compat, hash?⟩ s)
      (SqlStyle.statementText ⟨d, .strict, hash?⟩ s') p := by
  unfold statementText
  rw [hschema, htable, hcolumns]
  exact (htuples.append_left _).append_right ";"

theorem Layout.widens_rootStatement {layout : Layout} (hnodup : keys.Nodup)
    (hlayout : ofKeys d schema table keys = .ok layout) (rows : List Row) :
    Widens
      (SqlStyle.statementText ⟨d, .compat, hash?⟩
        (layout.rootStatement ⟨d, items, .compat⟩ schema table rows))
      (SqlStyle.statementText ⟨d, .strict, hash?⟩
        (layout.rootStatement ⟨d, items, .strict⟩ schema table rows))
      (∀ row ∈ rows, ∀ column ∈ layout.root, row.Tame d items (hash?.getD id) column.key) := by
  have hkeysNodup := nodup_key_root hlayout hnodup
  refine SqlStyle.widens_statementText rfl rfl rfl ?_
  rw [map_rowText_rootStatement hkeysNodup]
  show Widens _ (", ".intercalate (List.map (SqlStyle.rowText _
    (layout.rootStatement ⟨d, items, .strict⟩ schema table rows).columns) _)) _
  rw [map_rowText_rootStatement hkeysNodup]
  refine Widens.intercalate ", " fun row _ => Widens.tuple fun column hcolumn => ?_
  obtain ⟨hmem, hof⟩ := ofKey_of_mem_root hlayout hcolumn
  exact RootColumn.widens_cellText hof (Delimiters.mem_rootKeys_iff.1 hmem).2 row

theorem JunctionColumn.widens_statementOf (column : JunctionColumn) (rows : List Row) :
    Widens
      (SqlStyle.statementText ⟨d, .compat, hash?⟩ (column.statementOf ⟨d, items, .compat⟩ rows))
      (SqlStyle.statementText ⟨d, .strict, hash?⟩ (column.statementOf ⟨d, items, .strict⟩ rows))
      (∀ p ∈ rows.flatMap (column.joined items),
        (column.junction.ownerKey ≠ column.junction.itemKey → Unquoted p.1) ∧ Unquoted p.2) := by
  refine SqlStyle.widens_statementText rfl rfl rfl ?_
  rw [rows_statementOf, rows_statementOf, List.map_map, List.map_map]
  exact Widens.intercalate ", " fun p _ => column.widens_rowText p.1 p.2

/-- The batch of a layout in strict mode is that in compat mode with quotes put in, and none exactly
when its cells are tame. Where a junction has one key for both of its lookups, the owner is not
written. -/
theorem Layout.widens_batch (items : String) (hash? : Option (String → String)) {layout : Layout}
    (hnodup : keys.Nodup) (hlayout : ofKeys d schema table keys = .ok layout) (rows : List Row) :
    Widens
      ("\n".intercalate ((layout.rootStatement ⟨d, items, .compat⟩ schema table rows ::
        layout.junctions.map (JunctionColumn.statementOf ⟨d, items, .compat⟩ rows)).map
          (SqlStyle.statementText ⟨d, .compat, hash?⟩)))
      ("\n".intercalate ((layout.rootStatement ⟨d, items, .strict⟩ schema table rows ::
        layout.junctions.map (JunctionColumn.statementOf ⟨d, items, .strict⟩ rows)).map
          (SqlStyle.statementText ⟨d, .strict, hash?⟩)))
      ((∀ row ∈ rows, ∀ column ∈ layout.root, row.Tame d items (hash?.getD id) column.key) ∧
        ∀ column ∈ layout.junctions, ∀ p ∈ rows.flatMap (column.joined items),
          (column.junction.ownerKey ≠ column.junction.itemKey → Unquoted p.1) ∧ Unquoted p.2) := by
  rw [List.map_cons, List.map_cons, List.map_map, List.map_map]
  exact Widens.intercalate_cons "\n" (widens_rootStatement hnodup hlayout rows)
    fun column _ => column.widens_statementOf rows

/-- Tame cells under the keys of a layout leave nothing to put in. -/
theorem Layout.tame_of_rows {layout : Layout} (hlayout : ofKeys d schema table keys = .ok layout)
    (htame : ∀ row ∈ rows, ∀ key ∈ keys, row.Tame d items (hash?.getD id) key) :
    (∀ row ∈ rows, ∀ column ∈ layout.root, row.Tame d items (hash?.getD id) column.key) ∧
      ∀ column ∈ layout.junctions, ∀ p ∈ rows.flatMap (column.joined items),
        (column.junction.ownerKey ≠ column.junction.itemKey → Unquoted p.1) ∧ Unquoted p.2 := by
  constructor
  · intro row hrow column hcolumn
    have hmem := (ofKey_of_mem_root hlayout hcolumn).1
    exact htame row hrow _ (Delimiters.mem_rootKeys_iff.1 hmem).1
  · intro column hcolumn p hp
    obtain ⟨hmem, hof⟩ := ofKey_of_mem_junctions hlayout hcolumn
    obtain ⟨hkey, hkind⟩ := Delimiters.mem_junctionKeys_iff.1 hmem
    obtain ⟨row, hrow, hp⟩ := List.mem_flatMap.1 hp
    obtain ⟨token, htoken, rfl⟩ := List.mem_map.1 hp
    have hrowTame := htame row hrow _ hkey
    rw [Row.Tame, hkind, JunctionColumn.ownerColumn_eq hof] at hrowTame
    exact ⟨fun _ => hrowTame.1, hrowTame.2 token htoken⟩

end Runs

def Seeder.inMode (s : Seeder) (mode : LiteralMode) : Seeder where
  config := { s.config with mode }
  hash? := s.hash?
  valid := s.valid

/-- Rows are refused in one mode with the error with which they are refused in the other. The SQL of
strict mode is that of compat mode with characters put in. It is the same where no cell under a key
of the first row has anything to quote, and another one where a literal does. -/
theorem Seeder.seed_modes (s : Seeder) (schema table : String) (rows : List Row) :
    (∀ e, ((s.inMode .compat).seed rows (.table schema table)).result = .error e ↔
        ((s.inMode .strict).seed rows (.table schema table)).result = .error e) ∧
      ∀ compat strict,
        ((s.inMode .compat).seed rows (.table schema table)).result = .ok compat →
        ((s.inMode .strict).seed rows (.table schema table)).result = .ok strict →
        ∃ first rest, rows = first :: rest ∧
          compat.toList.Sublist strict.toList ∧ compat.length ≤ strict.length ∧
          ((∀ row ∈ rows, ∀ key ∈ first.keys, row.Tame s.config.delimiters
              s.config.rowItemDelimiter (s.hash?.getD id) key) → compat = strict) ∧
          ((∃ row ∈ rows, ∃ key ∈ first.keys, s.config.delimiters.kind key = .plain ∧
              ('(' ∈ (row.text key).toList ∨ '\'' ∈ (row.text key).toList)) →
            compat ≠ strict) := by
  constructor
  · intro e
    exact (failsWith_seed (s.inMode .compat) schema table rows e).trans
      (failsWith_seed (s.inMode .strict) schema table rows e).symm
  · intro compat strict hcompat hstrict
    obtain ⟨first, rest, layout, rfl, hlayout, rfl⟩ := exists_layout_of_result hcompat
    obtain ⟨_, _, layout', hrows, hlayout', rfl⟩ := exists_layout_of_result hstrict
    obtain ⟨rfl, rfl⟩ := List.cons_eq_cons.1 hrows
    obtain rfl : layout = layout' := Except.ok.inj (hlayout.symm.trans hlayout')
    have hwidens : Widens _ _ _ := Layout.widens_batch s.config.rowItemDelimiter s.hash?
      first.nodup_keys hlayout (first :: rest)
    refine ⟨first, rest, rfl, hwidens.sublist, hwidens.length_le, fun htame => ?_, ?_⟩
    · exact hwidens.eq_iff.2 (Layout.tame_of_rows hlayout htame)
    · rintro ⟨row, hrow, key, hkey, hkind, htext⟩ heq
      have hroot : s.config.delimiters.kind key ≠ .manyToMany := by
        rw [hkind]
        decide
      have hmem : key ∈ layout.root.map RootColumn.key :=
        Layout.map_key_root hlayout ▸ Delimiters.mem_rootKeys_iff.2 ⟨hkey, hroot⟩
      obtain ⟨column, hcolumn, rfl⟩ := List.mem_map.1 hmem
      have htame := (hwidens.eq_iff.1 heq).1 row hrow column hcolumn
      unfold Row.Tame at htame
      rw [show (s.inMode .compat).config.delimiters.kind column.key = .plain from hkind] at htame
      rcases htext with hparen | hquote
      · exact htame.1 hparen
      · exact htame.2 hquote

/-- A product with a digest, a null token, a star and tokens. -/
def madeRow (made : String) : Row :=
  .ofList [("name", "lamp"), ("made", made), ("code#", "7"), ("note", "null"),
    ("brand_id**brands**name", "*"), ("tag_id***product_tags***tags***tag_name***name", "a|b")]

/-- A date is the same in both modes, and the call that gives one is not. -/
theorem Seeder.seed_modes_madeRow :
    (∃ sql, ((Seeder.hashing.inMode .compat).seed [madeRow "1999"] (.table "" "products")).result =
        .ok sql ∧
      ((Seeder.hashing.inMode .strict).seed [madeRow "1999"] (.table "" "products")).result =
        .ok sql) ∧
      ∃ compat strict,
        ((Seeder.hashing.inMode .compat).seed [madeRow "NOW()"] (.table "" "products")).result =
          .ok compat ∧
        ((Seeder.hashing.inMode .strict).seed [madeRow "NOW()"] (.table "" "products")).result =
          .ok strict ∧ compat ≠ strict := by
  have hok (mode : LiteralMode) (made : String) (h : made = "1999" ∨ made = "NOW()") :
      ∃ sql, ((Seeder.hashing.inMode mode).seed [madeRow made] (.table "" "products")).result =
        .ok sql := by
    refine exists_eq_ok_of_isOk ?_
    cases mode <;> rcases h with rfl | rfl <;> decide +kernel
  constructor
  · obtain ⟨compat, hcompat⟩ := hok .compat "1999" (.inl rfl)
    obtain ⟨strict, hstrict⟩ := hok .strict "1999" (.inl rfl)
    obtain ⟨first, rest, hrows, -, -, htame, -⟩ :=
      (Seeder.seed_modes Seeder.hashing "" "products" [madeRow "1999"]).2 _ _ hcompat hstrict
    obtain ⟨rfl, rfl⟩ := List.cons_eq_cons.1 hrows
    exact ⟨compat, hcompat, by rw [htame (by decide +kernel), hstrict]⟩
  · obtain ⟨compat, hcompat⟩ := hok .compat "NOW()" (.inr rfl)
    obtain ⟨strict, hstrict⟩ := hok .strict "NOW()" (.inr rfl)
    obtain ⟨first, rest, hrows, -, -, -, hne⟩ :=
      (Seeder.seed_modes Seeder.hashing "" "products" [madeRow "NOW()"]).2 _ _ hcompat hstrict
    obtain ⟨rfl, rfl⟩ := List.cons_eq_cons.1 hrows
    exact ⟨compat, strict, hcompat, hstrict,
      hne ⟨_, List.mem_singleton_self _, "made", by decide +kernel, by decide +kernel,
        by decide +kernel⟩⟩

end SeedScript
