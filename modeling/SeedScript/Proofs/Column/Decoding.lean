import SeedScript.Proofs.Column.Lookups
import SeedScript.Proofs.Text.Occurrences

/-!
# Column keys, written and read

Both kinds of key are names joined by a delimiter. What is read from a key is always what it was
written for. What is written is read again exactly when the first delimiter after each name but the
last is the one that was written there, and there is none in the last name. A delimiter may share
characters with itself, so a name that does not contain it may still end in its beginning: then the
first delimiter is found too early. A key that is not read has another number of delimiters than its
kind, counted from left to right without overlap (`Delimiters.ofKey_key_exact`).
-/

namespace SeedScript

/-- The five names in a many-to-many key, in their order. -/
structure Junction.Names where
  joinKey : String
  joinTable : String
  secondTable : String
  secondSearchKey : String
  firstSearchKey : String
  deriving DecidableEq

namespace Junction.Names

def toList (names : Names) : List String :=
  [names.joinKey, names.joinTable, names.secondTable, names.secondSearchKey, names.firstSearchKey]

def key (d : Delimiters) (names : Names) : String :=
  names.joinKey ++ d.manyToMany ++ names.joinTable ++ d.manyToMany ++ names.secondTable ++
    d.manyToMany ++ names.secondSearchKey ++ d.manyToMany ++ names.firstSearchKey

/-- The junction of `schema.table` that the names stand for. -/
def junction (d : Delimiters) (schema table : String) (names : Names) : Junction where
  table := names.joinTable
  firstTable := table
  secondTable := names.secondTable
  firstSearchKey := names.firstSearchKey
  secondSearchKey := names.secondSearchKey
  ownerKey := (Lookup.ofOwner schema table names.firstSearchKey).key d
  itemKey := Lookup.key d ⟨names.secondTable, names.joinKey, names.secondSearchKey⟩

end Junction.Names

variable {d : Delimiters} {key : String} {n : Nat}

/-- The delimiter, written after a name, stands there for the first time. -/
def Text.StandsFirstAfter (name delimiter : String) : Prop :=
  FirstAt delimiter.toList (name ++ delimiter).toList name.length

instance (name delimiter : String) : Decidable (Text.StandsFirstAfter name delimiter) :=
  inferInstanceAs (Decidable (Text.FirstAt _ _ _))

theorem Text.standsFirstAfter_iff {name delimiter : String} (hd : delimiter ≠ "") :
    StandsFirstAfter name delimiter ↔ ClosedBy name.toList delimiter.toList := by
  have happend := firstAt_append_iff (s := name.toList) (toList_ne_nil hd) []
  rwa [List.append_nil, ← String.toList_append, String.length_toList] at happend

/-! ## Segments of either kind -/

namespace Delimiters

/-- Joined names are the segments of a key exactly when each delimiter between them is the first one
after the name before it, and none stands in the last name. -/
theorem segments_join_iff (kind : RelationKind) (hd : d.of kind ≠ "") {names : List String}
    (hne : names ≠ []) :
    d.segments kind ((d.of kind).intercalate names) = names ↔
      (∀ name ∈ names.dropLast, Text.StandsFirstAfter name (d.of kind)) ∧
        ¬ (d.of kind).toList <:+: (names.getLast hne).toList := by
  rw [segments, Text.split_intercalate_iff hd hne, ← Bool.not_eq_true, Text.contains_iff]
  refine and_congr_left fun _ => forall₂_congr fun name _ => ?_
  exact (Text.standsFirstAfter_iff hd).symm

theorem leftmostOccurrences_iff (kind : RelationKind) (hd : d.of kind ≠ "") :
    Text.LeftmostOccurrences (d.of kind).toList key.toList n ↔
      (d.segments kind key).length = n + 1 := by
  rw [Text.leftmostOccurrences_iff (Text.toList_ne_nil hd), segments, ← Text.map_toList_split,
    List.length_map]

/-- A key has one number of delimiters, and one segment more. -/
theorem exists_leftmostOccurrences (kind : RelationKind) (hd : d.of kind ≠ "")
    (key : String) :
    ∃ n, (∀ m, Text.LeftmostOccurrences (d.of kind).toList key.toList m ↔ m = n) ∧
      (d.segments kind key).length = n + 1 := by
  have hpos : 0 < (d.segments kind key).length :=
    List.length_pos_iff.2 (Text.split_ne_nil _ key)
  refine ⟨(d.segments kind key).length - 1, fun m => ?_, by omega⟩
  rw [leftmostOccurrences_iff kind hd]
  omega

end Delimiters

/-! ## Junctions -/

namespace Junction

variable {schema table : String} {j : Junction} {names : Junction.Names}

theorem Names.key_eq_intercalate (d : Delimiters) (names : Names) :
    names.key d = d.manyToMany.intercalate names.toList := by
  rw [← String.toList_inj, String.toList_intercalate]
  simp [Names.key, Names.toList, List.intercalate]

/-- The name of the joined key column is kept in the lookup of the item. -/
theorem Names.junction_injective :
    Function.Injective (Names.junction d schema table) := by
  rintro ⟨joinKey, _, _, _, _⟩ ⟨joinKey', _, _, _, _⟩ h
  simp only [Names.junction, Junction.mk.injEq, true_and] at h
  obtain ⟨rfl, rfl, rfl, rfl, -, hitem⟩ := h
  simp only [Lookup.key, String.append_assoc, String.append_left_inj] at hitem
  rw [hitem]

theorem ofKey_eq_ok_iff_names :
    ofKey d schema table key = .ok j ↔
      ∃ names : Names, d.segments .manyToMany key = names.toList ∧
        names.junction d schema table = j := by
  constructor
  · intro h
    obtain ⟨joinKey, hsegments, hfirst, howner, hitem⟩ := ofKey_eq_ok_iff.1 h
    refine ⟨⟨joinKey, j.table, j.secondTable, j.secondSearchKey, j.firstSearchKey⟩, hsegments, ?_⟩
    cases j
    simp_all [Names.junction]
  · rintro ⟨names, hsegments, rfl⟩
    exact ofKey_of_segments hsegments schema table

/-- A junction that is read from a key was written as this key. -/
theorem exists_names_of_ofKey (h : ofKey d schema table key = .ok j) :
    ∃ names : Names, names.junction d schema table = j ∧ names.key d = key := by
  obtain ⟨names, hsegments, hj⟩ := ofKey_eq_ok_iff_names.1 h
  refine ⟨names, hj, ?_⟩
  rw [names.key_eq_intercalate, ← hsegments]
  exact Text.intercalate_split _ _

theorem ofKey_key_iff (hd : d.manyToMany ≠ "") :
    ofKey d schema table (names.key d) = .ok (names.junction d schema table) ↔
      (∀ name ∈ [names.joinKey, names.joinTable, names.secondTable, names.secondSearchKey],
        Text.StandsFirstAfter name d.manyToMany) ∧
        ¬ d.manyToMany.toList <:+: names.firstSearchKey.toList := by
  have hne : names.toList ≠ [] := List.cons_ne_nil _ _
  refine Iff.trans ?_ (Delimiters.segments_join_iff .manyToMany hd hne)
  rw [ofKey_eq_ok_iff_names, names.key_eq_intercalate]
  constructor
  · rintro ⟨names', hsegments, hjunction⟩
    rwa [Names.junction_injective hjunction] at hsegments
  · intro hsegments
    exact ⟨names, hsegments, rfl⟩

end Junction

theorem Lookup.ofKey_key_iff_first (hd : d.oneToMany ≠ "") {l : Lookup} :
    Lookup.ofKey d (l.key d) = .ok l ↔
      Text.StandsFirstAfter l.primaryKey d.oneToMany ∧ Text.StandsFirstAfter l.table d.oneToMany ∧
        ¬ d.oneToMany.toList <:+: l.searchKey.toList := by
  rw [ofKey_key_iff hd, Encodable, Text.standsFirstAfter_iff hd, Text.standsFirstAfter_iff hd,
    ← Bool.not_eq_true, Text.contains_iff]

/-- What is read from a key is what the key was written for. What a key is written for is read from
it exactly when each name but the last is followed by its first delimiter and the last has none. A
key is refused exactly when it does not have as many delimiters as its kind, and the error tells one
more than it has. All of this holds of lookups and of junctions. -/
theorem Delimiters.ofKey_key_exact (d : Delimiters) :
    (d.oneToMany ≠ "" →
      (∀ key l, Lookup.ofKey d key = .ok l →
        l.primaryKey ++ d.oneToMany ++ l.table ++ d.oneToMany ++ l.searchKey = key) ∧
      (∀ primaryKey table searchKey,
        Lookup.ofKey d (primaryKey ++ d.oneToMany ++ table ++ d.oneToMany ++ searchKey) =
            .ok { primaryKey, table, searchKey } ↔
          Text.StandsFirstAfter primaryKey d.oneToMany ∧
            Text.StandsFirstAfter table d.oneToMany ∧
            ¬ d.oneToMany.toList <:+: searchKey.toList) ∧
      ∀ key, ∃ n, (∀ m, Text.LeftmostOccurrences d.oneToMany.toList key.toList m ↔ m = n) ∧
        ∀ e, Lookup.ofKey d key = .error e ↔
          n ≠ 2 ∧ e = .relationFormat .oneToMany key d.oneToMany (n + 1)) ∧
    (d.manyToMany ≠ "" → ∀ schema table,
      (∀ key j, Junction.ofKey d schema table key = .ok j →
        ∃ names : Junction.Names, names.junction d schema table = j ∧ names.key d = key) ∧
      (∀ names : Junction.Names,
        Junction.ofKey d schema table (names.key d) = .ok (names.junction d schema table) ↔
          (∀ name ∈ [names.joinKey, names.joinTable, names.secondTable, names.secondSearchKey],
            Text.StandsFirstAfter name d.manyToMany) ∧
            ¬ d.manyToMany.toList <:+: names.firstSearchKey.toList) ∧
      ∀ key, ∃ n, (∀ m, Text.LeftmostOccurrences d.manyToMany.toList key.toList m ↔ m = n) ∧
        ∀ e, Junction.ofKey d schema table key = .error e ↔
          n ≠ 4 ∧ e = .relationFormat .manyToMany key d.manyToMany (n + 1)) := by
  constructor
  · intro hd
    refine ⟨fun key l h => Lookup.key_of_ofKey h, fun primaryKey table searchKey => ?_,
      fun key => ?_⟩
    · exact Lookup.ofKey_key_iff_first (l := { primaryKey, table, searchKey }) hd
    · obtain ⟨n, hcount, hlength⟩ := exists_leftmostOccurrences .oneToMany hd key
      refine ⟨n, hcount, fun e => ?_⟩
      rw [Lookup.ofKey_eq_error_iff, hlength]
      exact and_congr_left fun _ => by omega
  · intro hd schema table
    refine ⟨fun key j => Junction.exists_names_of_ofKey, fun names => Junction.ofKey_key_iff hd,
      fun key => ?_⟩
    obtain ⟨n, hcount, hlength⟩ := exists_leftmostOccurrences .manyToMany hd key
    refine ⟨n, hcount, fun e => ?_⟩
    rw [Junction.ofKey_eq_error_iff, hlength]
    exact and_congr_left fun _ => by omega

/-- Five names, of which the third begins with a star and the last ends in two. -/
def tagNames : Junction.Names := ⟨"tag_id", "product_tags", "*tags", "tag_name", "name**"⟩

/-- A name that ends in a star gives it to the delimiter after it, one that begins with a star keeps
it. Six stars are three delimiters of two, and five are one of three. -/
theorem Delimiters.ofKey_key_exact_stars :
    Delimiters.standard.oneToMany ≠ "" ∧ Delimiters.standard.manyToMany ≠ "" ∧
      Lookup.ofKey .standard ("id*" ++ "**" ++ "brands" ++ "**" ++ "name") ≠
        .ok ⟨"brands", "id*", "name"⟩ ∧
      Lookup.ofKey .standard ("id" ++ "**" ++ "*brands" ++ "**" ++ "name*") =
        .ok ⟨"*brands", "id", "name*"⟩ ∧
      Lookup.ofKey .standard "id******name" =
        .error (.relationFormat .oneToMany "id******name" "**" 4) ∧
      Junction.ofKey .standard "public" "products" (tagNames.key .standard) =
        .ok (tagNames.junction .standard "public" "products") ∧
      Junction.ofKey .standard "public" "products" "id*****name" =
        .error (.relationFormat .manyToMany "id*****name" "***" 2) := by
  have hone : Delimiters.standard.oneToMany ≠ "" := by decide
  have hmany : Delimiters.standard.manyToMany ≠ "" := by decide
  obtain ⟨-, hlookup, hnoLookup⟩ := (Delimiters.ofKey_key_exact .standard).1 hone
  obtain ⟨-, hjunction, hnoJunction⟩ :=
    (Delimiters.ofKey_key_exact .standard).2 hmany "public" "products"
  refine ⟨hone, hmany, (hlookup "id*" "brands" "name").not.2 (by decide),
    (hlookup "id" "*brands" "name*").2 (by decide), ?_, (hjunction tagNames).2 (by decide), ?_⟩
  · obtain ⟨n, hcount, herror⟩ := hnoLookup "id******name"
    obtain rfl : 3 = n :=
      (hcount 3).1 ((leftmostOccurrences_iff .oneToMany hone).2 (by decide +kernel))
    exact (herror _).2 ⟨by decide, rfl⟩
  · obtain ⟨n, hcount, herror⟩ := hnoJunction "id*****name"
    obtain rfl : 1 = n :=
      (hcount 1).1 ((leftmostOccurrences_iff .manyToMany hmany).2 (by decide +kernel))
    exact (herror _).2 ⟨by decide, rfl⟩

end SeedScript
