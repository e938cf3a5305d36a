import SeedScript.Proofs.Column.Lookups
import SeedScript.Proofs.Naming.Singular
import SeedScript.Proofs.Sql.Scan
import SeedScript.Sql.Style

/-!
# Names without quotes

Where the schema, the table, the one-to-many delimiter and a column key have no quote in them, no
name that is made from them has one: not the lookups of the key, not its base name, and not the two
columns of the junction that it holds.
-/

namespace SeedScript

/-! ## Texts -/

namespace Sql.Unquoted

variable {a b text : String}

theorem append (ha : Unquoted a) (hb : Unquoted b) : Unquoted (a ++ b) := by
  unfold Unquoted
  rw [String.toList_append, List.mem_append, not_or]
  exact ⟨ha, hb⟩

theorem of_isInfix (h : Unquoted text) (ha : a.toList <:+: text.toList) : Unquoted a :=
  fun hmem => h (ha.mem hmem)

theorem of_mem_segments (d : Delimiters) (kind : RelationKind) (hd : d.of kind ≠ "")
    (h : Unquoted text) (ha : a ∈ d.segments kind text) : Unquoted a :=
  h.of_isInfix (Text.isInfix_of_mem_split hd ha)

theorem intercalate {texts : List String} (ha : Unquoted a) (h : ∀ text ∈ texts, Unquoted text) :
    Unquoted (a.intercalate texts) := by
  induction texts with
  | nil =>
    rw [String.intercalate_nil]
    decide
  | cons text texts ih =>
    have htexts := ih fun text ht => h text (List.mem_cons_of_mem _ ht)
    have htext := h text List.mem_cons_self
    cases texts with
    | nil =>
      rw [String.intercalate_singleton]
      exact htext
    | cons next texts =>
      rw [String.intercalate_cons_cons]
      exact (htext.append ha).append htexts

end Sql.Unquoted

open Sql (Unquoted)

theorem SqlStyle.unquoted_tuple {items : List String} (h : ∀ item ∈ items, Unquoted item) :
    Unquoted (tuple items) := by
  have hopen : Unquoted "(" := by decide
  have hcomma : Unquoted ", " := by decide
  have hclose : Unquoted ")" := by decide
  exact (hopen.append (hcomma.intercalate h)).append hclose

/-! ## Names of tables and keys -/

theorem Naming.unquoted_qualified {schema table : String} (hschema : Unquoted schema)
    (htable : Unquoted table) : Unquoted (qualified schema table) := by
  unfold qualified
  split
  · exact htable
  · have hpoint : Unquoted "." := by decide
    exact (hschema.append hpoint).append htable

theorem Naming.unquoted_primaryKey {table : String} (h : Unquoted table) :
    Unquoted (primaryKey table) := by
  have hsingular : Unquoted (singular table) := by
    intro hmem
    rw [singular, String.toList_ofList] at hmem
    rcases mem_singularOf hmem with hmem | hletter
    · exact h hmem
    · exact absurd hletter (by decide)
  have hsuffix : Unquoted "_id" := by decide
  exact hsingular.append hsuffix

/-! ## Column keys -/

variable {d : Delimiters} {schema table key : String}

/-- No name of the lookup has a quote. -/
structure Lookup.NamesUnquoted (l : Lookup) : Prop where
  table : Unquoted l.table
  primaryKey : Unquoted l.primaryKey
  searchKey : Unquoted l.searchKey

namespace Lookup

variable {l : Lookup}

theorem namesUnquoted_of_ofKey (hd : d.oneToMany ≠ "") (hkey : Unquoted key)
    (h : ofKey d key = .ok l) : l.NamesUnquoted := by
  have hsegments := ofKey_eq_ok_iff.1 h
  have hpart (part : String) (hpart : part ∈ [l.primaryKey, l.table, l.searchKey]) :
      Unquoted part :=
    Sql.Unquoted.of_mem_segments d .oneToMany hd hkey (hsegments ▸ hpart)
  exact ⟨hpart _ (by simp), hpart _ (by simp), hpart _ (by simp)⟩

theorem unquoted_key (hd : Unquoted d.oneToMany) (h : l.NamesUnquoted) : Unquoted (l.key d) := by
  unfold key
  exact (((h.primaryKey.append hd).append h.table).append hd).append h.searchKey

end Lookup

theorem Delimiters.unquoted_baseName (hd : d.oneToMany ≠ "") (hkey : Unquoted key) :
    Unquoted (d.baseName key) := by
  unfold baseName
  split
  · cases hsegments : d.segments .oneToMany key with
    | nil => exact hkey
    | cons segment rest =>
      show Unquoted segment
      exact Sql.Unquoted.of_mem_segments d .oneToMany hd hkey (hsegments ▸ List.mem_cons_self)
  · split
    · intro hmem
      rw [String.toList_ofList] at hmem
      exact hkey ((List.takeWhile_sublist _).mem hmem)
    · exact hkey

/-- What names are made from has no quote, and no delimiter is empty. -/
structure QuoteFree (d : Delimiters) (schema table : String) (keys : List String) : Prop where
  oneToMany_ne : d.oneToMany ≠ ""
  manyToMany_ne : d.manyToMany ≠ ""
  oneToMany : Unquoted d.oneToMany
  schema : Unquoted schema
  table : Unquoted table
  keys : ∀ key ∈ keys, Unquoted key

theorem Junction.unquoted_of_ofKey {j : Junction} {keys : List String}
    (hfree : QuoteFree d schema table keys) (hkey : key ∈ keys)
    (h : ofKey d schema table key = .ok j) :
    Unquoted j.table ∧ Unquoted j.ownerKey ∧ Unquoted j.itemKey := by
  obtain ⟨joinKey, hsegments, -, howner, hitem⟩ := ofKey_eq_ok_iff.1 h
  have hpart (part : String) (hpart : part ∈
      [joinKey, j.table, j.secondTable, j.secondSearchKey, j.firstSearchKey]) : Unquoted part :=
    Sql.Unquoted.of_mem_segments d .manyToMany hfree.manyToMany_ne (hfree.keys key hkey)
      (hsegments ▸ hpart)
  refine ⟨hpart _ (by simp), ?_, ?_⟩
  · rw [howner]
    exact Lookup.unquoted_key hfree.oneToMany
      ⟨Naming.unquoted_qualified hfree.schema hfree.table, Naming.unquoted_primaryKey hfree.table,
        hpart j.firstSearchKey (by simp)⟩
  · rw [hitem]
    exact Lookup.unquoted_key hfree.oneToMany
      ⟨hpart _ (by simp), hpart _ (by simp), hpart _ (by simp)⟩

end SeedScript
