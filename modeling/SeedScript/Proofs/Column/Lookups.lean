import SeedScript.Column.Junction
import SeedScript.Proofs.Text.Splitting

/-!
# Lookups written as column keys

A key that carries a lookup is written by joining three names and read by splitting. What is read
was written so (`Lookup.key_of_ofKey`), so two keys never carry one lookup. What is written is read
again exactly when the delimiter closes the primary key and the table and does not stand in the
search column (`Lookup.ofKey_key_iff`). The two lookups of a junction are written under the names
that the table and the schema happen to have, so `Lookup.Encodable` is a condition on these too.
-/

namespace SeedScript

variable {d : Delimiters} {key : String} {l : Lookup}

namespace Lookup

/-- The names of a lookup are found again in its column key. -/
def Encodable (d : Delimiters) (l : Lookup) : Prop :=
  Text.ClosedBy l.primaryKey.toList d.oneToMany.toList ∧
    Text.ClosedBy l.table.toList d.oneToMany.toList ∧
    Text.contains l.searchKey d.oneToMany = false

instance (d : Delimiters) (l : Lookup) : Decidable (l.Encodable d) :=
  inferInstanceAs (Decidable (_ ∧ _ ∧ _))

theorem ofKey_eq_ok_iff :
    ofKey d key = .ok l ↔ d.segments .oneToMany key = [l.primaryKey, l.table, l.searchKey] := by
  unfold ofKey
  split
  · rename_i h
    rw [h, Except.ok.injEq]
    constructor
    · rintro rfl
      rfl
    · intro he
      injection he with hp he
      injection he with ht he
      injection he with hs _
      rw [hp, ht, hs]
  · rename_i hne
    constructor
    · intro h
      cases h
    · intro h
      exact absurd h (hne _ _ _)

theorem ofKey_eq_error_iff {e : SeedError} :
    ofKey d key = .error e ↔ (d.segments .oneToMany key).length ≠ 3 ∧
      e = .relationFormat .oneToMany key d.oneToMany (d.segments .oneToMany key).length := by
  unfold ofKey
  split
  · rename_i h
    simp [h]
  · rename_i hne
    have hlen : (d.segments .oneToMany key).length ≠ 3 := fun h => by
      obtain ⟨p, t, s, h⟩ := List.length_eq_three.1 h
      exact hne _ _ _ h
    rw [Except.error.injEq, eq_comm]
    simp only [hlen, ne_eq, not_false_eq_true, true_and]

theorem key_eq_intercalate (d : Delimiters) (l : Lookup) :
    l.key d = d.oneToMany.intercalate [l.primaryKey, l.table, l.searchKey] := by
  rw [← String.toList_inj, String.toList_intercalate]
  simp [key, List.intercalate]

theorem key_of_ofKey (h : ofKey d key = .ok l) : l.key d = key := by
  rw [key_eq_intercalate, ← ofKey_eq_ok_iff.1 h]
  exact Text.intercalate_split _ _

theorem ofKey_injective {key' : String} (h : ofKey d key = .ok l) (h' : ofKey d key' = .ok l) :
    key = key' := by
  rw [← key_of_ofKey h, key_of_ofKey h']

theorem ofKey_key_iff (hd : d.oneToMany ≠ "") : ofKey d (l.key d) = .ok l ↔ l.Encodable d := by
  rw [ofKey_eq_ok_iff, key_eq_intercalate]
  refine (Text.split_intercalate_iff hd (List.cons_ne_nil _ _)).trans ?_
  simp [Encodable, and_assoc]

end Lookup

/-! ## Junctions -/

namespace Junction

variable {schema table : String} {j : Junction}

theorem ofKey_eq_ok_iff :
    ofKey d schema table key = .ok j ↔
      ∃ joinKey, d.segments .manyToMany key =
          [joinKey, j.table, j.secondTable, j.secondSearchKey, j.firstSearchKey] ∧
        j.firstTable = table ∧
        j.ownerKey = (Lookup.ofOwner schema table j.firstSearchKey).key d ∧
        j.itemKey = Lookup.key d ⟨j.secondTable, joinKey, j.secondSearchKey⟩ := by
  unfold ofKey
  split
  · rename_i joinKey joinTable secondTable secondSearchKey firstSearchKey h
    rw [h, Except.ok.injEq]
    constructor
    · rintro rfl
      exact ⟨joinKey, rfl, rfl, rfl, rfl⟩
    · rintro ⟨joinKey', he, hfirst, howner, hitem⟩
      simp only [List.cons.injEq, and_true] at he
      obtain ⟨rfl, rfl, rfl, rfl, rfl⟩ := he
      cases j
      simp_all
  · rename_i hne
    constructor
    · intro h
      cases h
    · rintro ⟨joinKey, he, -⟩
      exact absurd he (hne _ _ _ _ _)

theorem ofKey_of_segments {joinKey joinTable secondTable secondSearchKey firstSearchKey : String}
    (h : d.segments .manyToMany key =
      [joinKey, joinTable, secondTable, secondSearchKey, firstSearchKey])
    (schema table : String) :
    ofKey d schema table key = .ok {
      table := joinTable
      firstTable := table
      secondTable
      firstSearchKey
      secondSearchKey
      ownerKey := (Lookup.ofOwner schema table firstSearchKey).key d
      itemKey := Lookup.key d ⟨secondTable, joinKey, secondSearchKey⟩ } := by
  unfold ofKey
  rw [h]

theorem ofKey_eq_error_iff {e : SeedError} :
    ofKey d schema table key = .error e ↔ (d.segments .manyToMany key).length ≠ 5 ∧
      e = .relationFormat .manyToMany key d.manyToMany (d.segments .manyToMany key).length := by
  unfold ofKey
  split
  · rename_i h
    simp [h]
  · rename_i hne
    have hlen : (d.segments .manyToMany key).length ≠ 5 := by
      intro h
      match hs : d.segments .manyToMany key, h with
      | [_, _, _, _, _], _ => exact hne _ _ _ _ _ hs
    rw [Except.error.injEq, eq_comm]
    simp only [hlen, ne_eq, not_false_eq_true, true_and]

end Junction

end SeedScript
