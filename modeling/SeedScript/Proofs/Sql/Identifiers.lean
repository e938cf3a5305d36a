import SeedScript.Proofs.Column.BaseName
import SeedScript.Proofs.Naming.Singular
import SeedScript.Proofs.Sql.Grammar

/-!
# Column keys made of identifiers

An identifier is a bare name of SQL in small letters. Bare names have neither stars nor hash marks,
so under the usual delimiters a key that is made of identifiers has the kind that its marks and
stars stand for. Its base name is a bare name, and the lookups that are read from it, or from the
keys of its junction, name columns by bare names and tables by names of tables.
-/

namespace SeedScript

open Sql (IsBareName isNameStart isNameChar)

/-! ## Identifiers -/

/-- Whether an identifier may begin with a character. -/
def isIdentifierStart (c : Char) : Bool := c.isLower || c == '_'

/-- Whether an identifier may go on with a character. -/
def isIdentifierChar (c : Char) : Bool := isIdentifierStart c || c.isDigit

/-- A small letter or an underscore, and then small letters, digits and underscores. Keywords are
not left out: where a name is expected, any word is read as a name. -/
def IsIdentifier (text : String) : Prop :=
  (∃ c ∈ text.toList.head?, isIdentifierStart c = true) ∧
    ∀ c ∈ text.toList, isIdentifierChar c = true

instance (text : String) : Decidable (IsIdentifier text) :=
  @instDecidableAnd _ _ (Option.decidableExistsMem text.toList.head?)
    (List.decidableBAll (fun c => isIdentifierChar c = true) text.toList)

/-- An identifier, or two with a point between them. -/
inductive IsTableName : String → Prop
  | bare {table : String} (htable : IsIdentifier table) : IsTableName table
  | dotted {schema table : String} (hschema : IsIdentifier schema) (htable : IsIdentifier table) :
    IsTableName (schema ++ "." ++ table)

/-- A column key that is made of identifiers under the usual delimiters. -/
inductive IsIdentifierKey : String → Prop
  | plain {name : String} (hname : IsIdentifier name) : IsIdentifierKey name
  | hashed {name mark : String} (hname : IsIdentifier name) (hmark : IsIdentifier mark) :
    IsIdentifierKey (name ++ "#" ++ mark)
  | oneToMany {primaryKey table searchKey : String} (hprimary : IsIdentifier primaryKey)
    (htable : IsTableName table) (hsearch : IsIdentifier searchKey) :
    IsIdentifierKey (primaryKey ++ "**" ++ table ++ "**" ++ searchKey)
  | manyToMany {joinKey joinTable secondTable secondSearchKey firstSearchKey : String}
    (hjoin : IsIdentifier joinKey) (htable : IsTableName joinTable)
    (hsecond : IsTableName secondTable) (hsecondSearch : IsIdentifier secondSearchKey)
    (hfirstSearch : IsIdentifier firstSearchKey) :
    IsIdentifierKey ("***".intercalate
      [joinKey, joinTable, secondTable, secondSearchKey, firstSearchKey])

/-! ## Names of SQL -/

theorem isNameStart_of_isAlpha {c : Char} (h : c.isAlpha = true) : isNameStart c = true := by
  simp only [isNameStart, h, Bool.true_or]

theorem isNameChar_of_isAlpha {c : Char} (h : c.isAlpha = true) : isNameChar c = true := by
  simp only [isNameChar, isNameStart_of_isAlpha h, Bool.true_or]

theorem isNameStart_of_isIdentifierStart {c : Char} (h : isIdentifierStart c = true) :
    isNameStart c = true := by
  simp only [isIdentifierStart, Bool.or_eq_true, beq_iff_eq] at h
  rcases h with h | rfl
  · exact isNameStart_of_isAlpha (Bool.or_eq_true_iff.2 (.inr h))
  · decide

theorem isNameChar_of_isIdentifierChar {c : Char} (h : isIdentifierChar c = true) :
    isNameChar c = true := by
  simp only [isIdentifierChar, Bool.or_eq_true] at h
  simp only [isNameChar, Bool.or_eq_true]
  rcases h with h | h
  · exact .inl (.inl (isNameStart_of_isIdentifierStart h))
  · exact .inl (.inr h)

theorem IsIdentifier.isBareName {text : String} (h : IsIdentifier text) : IsBareName text := by
  obtain ⟨⟨c, hc, hstart⟩, hall⟩ := h
  exact ⟨⟨c, hc, isNameStart_of_isIdentifierStart hstart⟩,
    fun d hd => isNameChar_of_isIdentifierChar (hall d hd)⟩

theorem IsTableName.exists_text_eq {text : String} (h : IsTableName text) :
    ∃ n : Sql.TableName, n.text = text := by
  cases h with
  | bare htable => exact ⟨⟨none, ⟨_, htable.isBareName⟩⟩, rfl⟩
  | dotted hschema htable =>
    exact ⟨⟨some ⟨_, hschema.isBareName⟩, ⟨_, htable.isBareName⟩⟩, rfl⟩

theorem Naming.isTableName_qualified {schema table : String}
    (hschema : schema = "" ∨ IsIdentifier schema) (htable : IsIdentifier table) :
    IsTableName (qualified schema table) := by
  by_cases hempty : schema = ""
  · subst hempty
    exact .bare htable
  · have hnot : schema.isEmpty = false := by simpa using hempty
    rw [qualified, hnot]
    exact .dotted (hschema.resolve_left hempty) htable

/-- The singular of a bare name may be empty, but not the primary key made from it. -/
theorem Naming.isBareName_primaryKey {table : String} (htable : IsBareName table) :
    IsBareName (primaryKey table) := by
  have hinflects := inflects_singularOf table.toList
  have htext : (primaryKey table).toList = singularOf table.toList ++ ['_', 'i', 'd'] := by
    simp [primaryKey, singular]
  obtain ⟨⟨first, hfirst, hstart⟩, hall⟩ := htable
  refine ⟨?_, fun c hc => ?_⟩
  · rw [htext]
    cases hsingular : singularOf table.toList with
    | nil => exact ⟨'_', rfl, by decide⟩
    | cons c cs =>
      refine ⟨c, rfl, ?_⟩
      rw [hsingular] at hinflects
      rcases hinflects.mem_head? (c := c) rfl with hc | hc
      · exact Option.mem_unique hfirst hc ▸ hstart
      · exact isNameStart_of_isAlpha hc
  · rw [htext] at hc
    rcases List.mem_append.1 hc with hc | hc
    · rcases hinflects.mem hc with hc | hc
      · exact hall c hc
      · exact isNameChar_of_isAlpha hc
    · have hletters : ['_', 'i', 'd'].all isNameChar = true := by decide
      exact List.all_eq_true.1 hletters c hc

/-! ## Names and delimiters -/

theorem Sql.IsBareName.not_mem {text : String} (h : IsBareName text) {c : Char}
    (hc : isNameChar c = false) : c ∉ text.toList := by
  intro hmem
  rw [h.2 c hmem] at hc
  cases hc

theorem Sql.IsBareName.ne_empty {text : String} (h : IsBareName text) : text ≠ "" := by
  rintro rfl
  obtain ⟨⟨c, hc, -⟩, -⟩ := h
  cases hc

theorem Sql.TableName.star_not_mem (n : TableName) : '*' ∉ n.text.toList := by
  obtain ⟨schema?, table⟩ := n
  have htable := table.isBareName.not_mem (c := '*') (by decide)
  cases schema? with
  | none => exact htable
  | some schema =>
    have hschema := schema.isBareName.not_mem (c := '*') (by decide)
    simp [text, hschema, htable]

theorem Sql.TableName.text_ne_empty (n : TableName) : n.text ≠ "" := by
  obtain ⟨schema?, table⟩ := n
  cases schema? with
  | none => exact table.isBareName.ne_empty
  | some schema =>
    intro hempty
    have hlength := congrArg (fun s => s.toList.length) hempty
    simp [text] at hlength

namespace Delimiters

theorem spares_standard {text : String} (h : '*' ∉ text.toList) : standard.Spares text := by
  intro c hc
  have hne : c ≠ '*' := fun he => h (he ▸ hc)
  have hone : standard.oneToMany.toList = ['*', '*'] := rfl
  have hmany : standard.manyToMany.toList = ['*', '*', '*'] := rfl
  simp [hone, hmany, hne]

theorem isName_of_isBareName {text : String} (h : IsBareName text) : standard.IsName text :=
  ⟨h.ne_empty, spares_standard (h.not_mem (by decide))⟩

theorem isName_of_isTableName {text : String} (h : IsTableName text) : standard.IsName text := by
  obtain ⟨n, rfl⟩ := h.exists_text_eq
  exact ⟨n.text_ne_empty, spares_standard n.star_not_mem⟩

theorem isOneToMany_of_spares {key : String} (h : standard.Spares key) :
    standard.isOneToMany key = false := by
  rcases kind_of_spares (by decide) (by decide) h with hkind | hkind
  · exact (not_isHashMarked_of_kind hkind).1
  · exact (isHashMarked_of_kind hkind).1

theorem kind_ne_of_spares {key : String} (h : standard.Spares key) :
    standard.kind key ≠ .oneToMany ∧ standard.kind key ≠ .manyToMany := by
  rcases kind_of_spares (by decide) (by decide) h with hkind | hkind
  · simp [hkind]
  · simp [hkind]

/-! ## Names and marked names -/

theorem baseName_of_isBareName {name : String} (h : IsBareName name) :
    standard.baseName name = name := by
  have hcount : name.toList.count '#' = 0 := List.count_eq_zero.2 (h.not_mem (by decide))
  have hmarked : isHashMarked name = false := by
    rw [isHashMarked, hcount]
    rfl
  rw [baseName_of_not_isOneToMany (isOneToMany_of_spares (isName_of_isBareName h).2), hmarked]
  rfl

theorem spares_marked {name mark : String} (hname : IsBareName name) (hmark : IsBareName mark) :
    standard.Spares (name ++ "#" ++ mark) := by
  have hname := hname.not_mem (c := '*') (by decide)
  have hmark := hmark.not_mem (c := '*') (by decide)
  exact spares_standard (by simp [hname, hmark])

theorem baseName_marked {name mark : String} (hname : IsBareName name) (hmark : IsBareName mark) :
    standard.baseName (name ++ "#" ++ mark) = name := by
  have hbefore := hname.not_mem (c := '#') (by decide)
  have hafter := hmark.not_mem (c := '#') (by decide)
  have hmarked : isHashMarked (name ++ "#" ++ mark) = true := by
    simp [isHashMarked, List.count_append, List.count_eq_zero.2 hbefore,
      List.count_eq_zero.2 hafter]
  rw [baseName_of_not_isOneToMany (isOneToMany_of_spares (spares_marked hname hmark)),
    if_pos hmarked, String.append_assoc, beforeMark_append hbefore]
  simp [beforeMark]

end Delimiters

/-! ## Lookups -/

/-- The names of a lookup are names of SQL. -/
structure Lookup.IsNamed (l : Lookup) : Prop where
  primaryKey : IsBareName l.primaryKey
  table : IsTableName l.table
  searchKey : IsBareName l.searchKey

namespace Lookup.IsNamed

variable {l : Lookup}

theorem isName (h : l.IsNamed) :
    ∀ name ∈ [l.primaryKey, l.table, l.searchKey], Delimiters.standard.IsName name := by
  simp only [List.forall_mem_cons, List.not_mem_nil, false_implies, implies_true, and_true]
  exact ⟨Delimiters.isName_of_isBareName h.primaryKey, Delimiters.isName_of_isTableName h.table,
    Delimiters.isName_of_isBareName h.searchKey⟩

theorem kind_key (h : l.IsNamed) : Delimiters.standard.kind (l.key .standard) = .oneToMany :=
  kind_key_of_names (by decide) (by decide) h.isName

theorem ofKey_key (h : l.IsNamed) : ofKey .standard (l.key .standard) = .ok l :=
  ofKey_key_of_names (by decide) h.isName

theorem eq_of_ofKey_key (h : l.IsNamed) {l' : Lookup}
    (hof : ofKey .standard (l.key .standard) = .ok l') : l' = l := by
  rw [h.ofKey_key] at hof
  exact (Except.ok.inj hof).symm

theorem baseName_key (h : l.IsNamed) :
    Delimiters.standard.baseName (l.key .standard) = l.primaryKey :=
  baseName_of_isOneToMany ((Delimiters.kind_eq_oneToMany_iff _ _).1 h.kind_key) h.ofKey_key

end Lookup.IsNamed

/-! ## Keys -/

namespace IsIdentifierKey

variable {key : String}

/-- What a key made of identifiers is: a name that may be marked, a lookup, or the segments of a
many-to-many key, among them the lookup of an item. -/
theorem forms (h : IsIdentifierKey key) :
    (Delimiters.standard.Spares key ∧ IsBareName (Delimiters.standard.baseName key)) ∨
      (∃ l : Lookup, l.IsNamed ∧ key = l.key .standard) ∨
      ∃ (item : Lookup) (joinTable firstSearchKey : String), item.IsNamed ∧ IsTableName joinTable ∧
        IsBareName firstSearchKey ∧ Delimiters.standard.kind key = .manyToMany ∧
        Delimiters.standard.segments .manyToMany key =
          [item.primaryKey, joinTable, item.table, item.searchKey, firstSearchKey] := by
  cases h with
  | plain hname =>
    have hbare := hname.isBareName
    have hbase := Delimiters.baseName_of_isBareName hbare
    exact .inl ⟨(Delimiters.isName_of_isBareName hbare).2, hbase.symm ▸ hbare⟩
  | hashed hname hmark =>
    have hbare := hname.isBareName
    have hbase := Delimiters.baseName_marked hbare hmark.isBareName
    exact .inl ⟨Delimiters.spares_marked hbare hmark.isBareName, hbase.symm ▸ hbare⟩
  | @oneToMany primaryKey table searchKey hprimary htable hsearch =>
    exact .inr (.inl ⟨⟨table, primaryKey, searchKey⟩,
      ⟨hprimary.isBareName, htable, hsearch.isBareName⟩, rfl⟩)
  | @manyToMany joinKey joinTable secondTable secondSearchKey firstSearchKey hjoin htable hsecond
      hsecondSearch hfirst =>
    have hnames : ∀ name ∈ [joinKey, joinTable, secondTable, secondSearchKey, firstSearchKey],
        Delimiters.standard.IsName name := by
      simp only [List.forall_mem_cons, List.not_mem_nil, false_implies, implies_true, and_true]
      exact ⟨Delimiters.isName_of_isBareName hjoin.isBareName,
        Delimiters.isName_of_isTableName htable, Delimiters.isName_of_isTableName hsecond,
        Delimiters.isName_of_isBareName hsecondSearch.isBareName,
        Delimiters.isName_of_isBareName hfirst.isBareName⟩
    obtain ⟨hkind, hsegments⟩ := Delimiters.segments_join_of_names (by decide) hnames
    exact .inr (.inr ⟨⟨secondTable, joinKey, secondSearchKey⟩, joinTable, firstSearchKey,
      ⟨hjoin.isBareName, hsecond, hsecondSearch.isBareName⟩, htable, hfirst.isBareName, hkind,
      hsegments⟩)

theorem isBareName_baseName (h : IsIdentifierKey key)
    (hkind : Delimiters.standard.kind key ≠ .manyToMany) :
    IsBareName (Delimiters.standard.baseName key) := by
  rcases h.forms with ⟨-, hbase⟩ | ⟨l, hnamed, rfl⟩ | ⟨-, -, -, -, -, -, hmany, -⟩
  · exact hbase
  · exact hnamed.baseName_key ▸ hnamed.primaryKey
  · exact absurd hmany hkind

theorem isNamed_of_ofKey (h : IsIdentifierKey key)
    (hkind : Delimiters.standard.kind key = .oneToMany) {l : Lookup}
    (hof : Lookup.ofKey .standard key = .ok l) : l.IsNamed := by
  rcases h.forms with ⟨hspares, -⟩ | ⟨l, hnamed, rfl⟩ | ⟨-, -, -, -, -, -, hmany, -⟩
  · exact absurd hkind (Delimiters.kind_ne_of_spares hspares).1
  · exact hnamed.eq_of_ofKey_key hof ▸ hnamed
  · rw [hmany] at hkind
    cases hkind

theorem junction_of_ofKey (h : IsIdentifierKey key)
    (hkind : Delimiters.standard.kind key = .manyToMany) {schema table : String} {j : Junction}
    (hof : Junction.ofKey .standard schema table key = .ok j) :
    IsTableName j.table ∧ IsBareName j.firstSearchKey ∧
      ∃ item : Lookup, item.IsNamed ∧ j.itemKey = item.key .standard := by
  rcases h.forms with ⟨hspares, -⟩ | ⟨l, hnamed, rfl⟩ |
    ⟨item, joinTable, firstSearchKey, hnamed, htable, hfirst, -, hsegments⟩
  · exact absurd hkind (Delimiters.kind_ne_of_spares hspares).2
  · rw [hnamed.kind_key] at hkind
    cases hkind
  · rw [Junction.ofKey_of_segments hsegments] at hof
    cases hof
    exact ⟨htable, hfirst, item, hnamed, rfl⟩

end IsIdentifierKey

theorem Lookup.isNamed_ofOwner {schema table searchKey : String}
    (hschema : schema = "" ∨ IsIdentifier schema) (htable : IsIdentifier table)
    (hsearch : IsBareName searchKey) : (ofOwner schema table searchKey).IsNamed :=
  ⟨Naming.isBareName_primaryKey htable.isBareName, Naming.isTableName_qualified hschema htable,
    hsearch⟩

end SeedScript
