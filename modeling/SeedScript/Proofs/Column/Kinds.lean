import SeedScript.Column
import SeedScript.Config
import SeedScript.Proofs.Column.Lookups

/-!
# Column keys made of names

A name is a non-empty text that shares no character with a delimiter. Under a usable configuration
names can be joined to a key of either relation: the key has the kind that its delimiter stands for,
and the names are read from it again. Occurrences of a delimiter cannot reach across a name, so this
holds for delimiters that overlap themselves or one another. A configuration that is refused for
this overlap leaves no one-to-many keys at all (`Config.validate_kinds`).
-/

namespace SeedScript

namespace Delimiters

variable {d : Delimiters} {key text : String}

/-- No character of a text stands in a delimiter. -/
def Spares (d : Delimiters) (text : String) : Prop :=
  ∀ c ∈ text.toList, c ∉ d.oneToMany.toList ∧ c ∉ d.manyToMany.toList

instance (d : Delimiters) (text : String) : Decidable (d.Spares text) :=
  List.decidableBAll (fun c => c ∉ d.oneToMany.toList ∧ c ∉ d.manyToMany.toList) text.toList

/-- A non-empty text no character of which stands in a delimiter. -/
def IsName (d : Delimiters) (text : String) : Prop := text ≠ "" ∧ d.Spares text

instance (d : Delimiters) (text : String) : Decidable (d.IsName text) :=
  inferInstanceAs (Decidable (_ ∧ _))

theorem Spares.disjoint (h : d.Spares text) :
    text.toList.Disjoint d.oneToMany.toList ∧ text.toList.Disjoint d.manyToMany.toList :=
  ⟨List.disjoint_left.2 fun c hc => (h c hc).1, List.disjoint_left.2 fun c hc => (h c hc).2⟩

theorem isManyToMany_iff : d.isManyToMany key = true ↔ d.manyToMany.toList <:+: key.toList :=
  Text.contains_iff

theorem kind_eq_oneToMany_iff_isInfix :
    d.kind key = .oneToMany ↔
      ¬ d.manyToMany.toList <:+: key.toList ∧ d.oneToMany.toList <:+: key.toList := by
  rw [kind_eq_oneToMany_iff, isOneToMany, Bool.and_eq_true, Bool.not_eq_true', ← Bool.not_eq_true,
    isManyToMany_iff, Text.contains_iff]

theorem kind_eq_plain_or_hashed (hone : ¬ d.oneToMany.toList <:+: key.toList)
    (hmany : ¬ d.manyToMany.toList <:+: key.toList) :
    d.kind key = .plain ∨ d.kind key = .hashed := by
  cases hkind : d.kind key with
  | plain => exact .inl rfl
  | hashed => exact .inr rfl
  | oneToMany => exact absurd (kind_eq_oneToMany_iff_isInfix.1 hkind).2 hone
  | manyToMany =>
    exact absurd (isManyToMany_iff.1 ((d.kind_eq_manyToMany_iff key).1 hkind)) hmany

/-- A text that spares the delimiters carries no relation. -/
theorem kind_of_spares (hone : d.oneToMany ≠ "") (hmany : d.manyToMany ≠ "") (h : d.Spares key) :
    d.kind key = .plain ∨ d.kind key = .hashed :=
  kind_eq_plain_or_hashed (Text.not_isInfix_of_disjoint (Text.toList_ne_nil hone) h.disjoint.1)
    (Text.not_isInfix_of_disjoint (Text.toList_ne_nil hmany) h.disjoint.2)

end Delimiters

variable {d : Delimiters}

/-! ## Joined names -/

theorem Lookup.oneToMany_isInfix_key (d : Delimiters) (l : Lookup) :
    d.oneToMany.toList <:+: (l.key d).toList := by
  simp only [key, String.toList_append, List.append_assoc]
  exact List.infix_append' _ _ _

/-- Three names joined by the one-to-many delimiter are a one-to-many key. -/
theorem Lookup.kind_key_of_names (hmany : d.manyToMany ≠ "")
    (hapart : ¬ d.manyToMany.toList <:+: d.oneToMany.toList) {l : Lookup}
    (hnames : ∀ name ∈ [l.primaryKey, l.table, l.searchKey], d.IsName name) :
    d.kind (l.key d) = .oneToMany := by
  refine Delimiters.kind_eq_oneToMany_iff_isInfix.2 ⟨?_, l.oneToMany_isInfix_key d⟩
  rw [key_eq_intercalate, String.toList_intercalate]
  refine Text.not_isInfix_intercalate (Text.toList_ne_nil hmany) hapart fun s hs => ?_
  obtain ⟨name, hname, rfl⟩ := List.mem_map.1 hs
  exact ⟨Text.toList_ne_nil (hnames name hname).1, (hnames name hname).2.disjoint.2⟩

theorem Lookup.ofKey_key_of_names (hone : d.oneToMany ≠ "") {l : Lookup}
    (hnames : ∀ name ∈ [l.primaryKey, l.table, l.searchKey], d.IsName name) :
    ofKey d (l.key d) = .ok l := by
  rw [ofKey_eq_ok_iff, key_eq_intercalate]
  refine Text.split_intercalate_of_disjoint hone (List.cons_ne_nil _ _) fun name hname => ?_
  exact (hnames name hname).2.disjoint.1

/-- Names joined by the many-to-many delimiter are a many-to-many key of these segments. -/
theorem Delimiters.segments_join_of_names (hmany : d.manyToMany ≠ "") {first second : String}
    {names : List String} (hnames : ∀ name ∈ first :: second :: names, d.IsName name) :
    d.kind (d.manyToMany.intercalate (first :: second :: names)) = .manyToMany ∧
      d.segments .manyToMany (d.manyToMany.intercalate (first :: second :: names)) =
        first :: second :: names := by
  constructor
  · rw [kind_eq_manyToMany_iff, isManyToMany_iff, String.intercalate_cons_cons,
      String.toList_append, String.toList_append]
    exact List.infix_append _ _ _
  · refine Text.split_intercalate_of_disjoint hmany (List.cons_ne_nil _ _) fun name hname => ?_
    exact (hnames name hname).2.disjoint.2

/-! ## Configurations -/

/-- Under a configuration that is let through, three names joined by the one-to-many delimiter are a
one-to-many key and read again from it, five joined by the many-to-many delimiter are a many-to-many
key and read again from it, and a text that spares the delimiters is neither. A configuration
without empty delimiters that is refused turns the first of these keys into many-to-many keys, and
no key is a one-to-many key under it. -/
theorem Config.validate_kinds (c : Config) :
    (c.validate = .ok () →
      (∀ primaryKey table searchKey,
        (∀ name ∈ [primaryKey, table, searchKey], c.delimiters.IsName name) →
          c.delimiters.kind (primaryKey ++ c.delimiters.oneToMany ++ table ++
              c.delimiters.oneToMany ++ searchKey) = .oneToMany ∧
            Lookup.ofKey c.delimiters (primaryKey ++ c.delimiters.oneToMany ++ table ++
              c.delimiters.oneToMany ++ searchKey) = .ok { primaryKey, table, searchKey }) ∧
      (∀ schema seeded joinKey joinTable secondTable secondSearch firstSearch,
        (∀ name ∈ [joinKey, joinTable, secondTable, secondSearch, firstSearch],
          c.delimiters.IsName name) →
          c.delimiters.kind (c.delimiters.manyToMany.intercalate
              [joinKey, joinTable, secondTable, secondSearch, firstSearch]) = .manyToMany ∧
            ∃ j, Junction.ofKey c.delimiters schema seeded (c.delimiters.manyToMany.intercalate
                [joinKey, joinTable, secondTable, secondSearch, firstSearch]) = .ok j ∧
              j.table = joinTable ∧ j.secondTable = secondTable ∧
              j.secondSearchKey = secondSearch ∧ j.firstSearchKey = firstSearch ∧
              j.itemKey = joinKey ++ c.delimiters.oneToMany ++ secondTable ++
                c.delimiters.oneToMany ++ secondSearch) ∧
      ∀ key, c.delimiters.Spares key →
        c.delimiters.kind key = .plain ∨ c.delimiters.kind key = .hashed) ∧
    (c.validate ≠ .ok () → c.delimiters.oneToMany ≠ "" → c.delimiters.manyToMany ≠ "" →
      c.rowItemDelimiter ≠ "" →
        (∀ primaryKey table searchKey,
          c.delimiters.kind (primaryKey ++ c.delimiters.oneToMany ++ table ++
            c.delimiters.oneToMany ++ searchKey) = .manyToMany) ∧
        ∀ key, c.delimiters.kind key ≠ .oneToMany) := by
  rw [validate_eq_ok_iff, ne_eq, validate_eq_ok_iff, valid_iff]
  constructor
  · rintro ⟨hone, hmany, -, hapart⟩
    refine ⟨fun primaryKey table searchKey hnames => ?_,
      fun schema seeded joinKey joinTable secondTable secondSearch firstSearch hnames => ?_,
      fun key => Delimiters.kind_of_spares hone hmany⟩
    · exact ⟨Lookup.kind_key_of_names (l := { primaryKey, table, searchKey }) hmany hapart hnames,
        Lookup.ofKey_key_of_names (l := { primaryKey, table, searchKey }) hone hnames⟩
    · obtain ⟨hkind, hsegments⟩ := Delimiters.segments_join_of_names hmany hnames
      exact ⟨hkind, _, Junction.ofKey_of_segments hsegments schema seeded, rfl, rfl, rfl, rfl, rfl⟩
  · intro hrefused hone hmany hitem
    have hinside : c.delimiters.manyToMany.toList <:+: c.delimiters.oneToMany.toList := by
      by_contra hapart
      exact hrefused ⟨hone, hmany, hitem, hapart⟩
    refine ⟨fun primaryKey table searchKey => ?_, fun key hkind => ?_⟩
    · rw [Delimiters.kind_eq_manyToMany_iff, Delimiters.isManyToMany_iff]
      exact hinside.trans (Lookup.oneToMany_isInfix_key _ { primaryKey, table, searchKey })
    · obtain ⟨hnot, hone⟩ := Delimiters.kind_eq_oneToMany_iff_isInfix.1 hkind
      exact hnot (hinside.trans hone)

/-- The usual delimiters the wrong way round. -/
def Config.swapped : Config := ⟨⟨"***", "**"⟩, "|", .compat⟩

theorem Config.validate_kinds_stars :
    Config.standard.validate = .ok () ∧
      Config.standard.delimiters.kind "brand_id**brands**name" = .oneToMany ∧
      (∃ j, Junction.ofKey .standard "public" "products"
          "tag_id***product_tags***tags***tag_name***name" = .ok j ∧
        j.table = "product_tags" ∧ j.itemKey = "tag_id**tags**tag_name") ∧
      (Config.standard.delimiters.kind "pass#" = .plain ∨
        Config.standard.delimiters.kind "pass#" = .hashed) ∧
      Config.swapped.validate ≠ .ok () ∧
      Config.swapped.delimiters.kind "brand_id***brands***name" = .manyToMany := by
  have hvalid : Config.standard.validate = .ok () := by decide
  have hrefused : Config.swapped.validate ≠ .ok () := by decide
  obtain ⟨hone, hmany, hneither⟩ := (Config.validate_kinds .standard).1 hvalid
  obtain ⟨-, j, hj, htable, -, -, -, hitem⟩ := hmany "public" "products" "tag_id" "product_tags"
    "tags" "tag_name" "name" (by decide +kernel)
  have hlost := ((Config.validate_kinds .swapped).2 hrefused (by decide) (by decide)
    (by decide)).1 "brand_id" "brands" "name"
  exact ⟨hvalid, (hone "brand_id" "brands" "name" (by decide +kernel)).1, ⟨j, hj, htable, hitem⟩,
    hneither "pass#" (by decide +kernel), hrefused, hlost⟩

end SeedScript
