import SeedScript.Proofs.Column.Kinds

/-!
# Names of columns in SQL

A marked key is named by the text before its hash mark. A key that carries a lookup is named by the
primary key of the lookup, unless the many-to-many delimiter stands in it: such a key is not taken
for a one-to-many key, and the lookup stays in the name (`Lookup.baseName_iff`).
-/

namespace SeedScript

variable {d : Delimiters} {key : String} {l : Lookup}

/-! ## Hash marks -/

/-- The text before the first hash mark. -/
def beforeMark (key : String) : String := String.ofList (key.toList.takeWhile (· != '#'))

theorem beforeMark_append {before after : String} (h : '#' ∉ before.toList) :
    beforeMark (before ++ after) = before ++ beforeMark after := by
  have hall : ∀ c ∈ before.toList, (c != '#') = true :=
    fun c hc => bne_iff_ne.2 fun he => h (he ▸ hc)
  rw [← String.toList_inj, beforeMark, String.toList_ofList, String.toList_append,
    String.toList_append, List.takeWhile_append_of_pos hall, beforeMark, String.toList_ofList]

/-- A marked key is what stands before its mark, the mark, and what stands after it. -/
theorem eq_beforeMark_append (h : isHashMarked key = true) :
    ∃ after, key = beforeMark key ++ "#" ++ after ∧ '#' ∉ (beforeMark key).toList ∧
      '#' ∉ after.toList := by
  have hcount : key.toList.count '#' = 1 := beq_iff_eq.1 h
  obtain ⟨before, after, hkey, hbefore⟩ :=
    List.eq_append_cons_of_mem (List.count_pos_iff.1 (hcount ▸ Nat.one_pos))
  have hafter : '#' ∉ after := by
    rw [hkey, List.count_append, List.count_cons_self, List.count_eq_zero.2 hbefore] at hcount
    exact List.count_eq_zero.1 (by omega)
  have hparts : key = String.ofList before ++ "#" ++ String.ofList after := by
    rw [← String.toList_inj, hkey]
    simp
  have hmark : beforeMark key = String.ofList before := by
    rw [hparts, String.append_assoc, beforeMark_append (by rwa [String.toList_ofList])]
    simp [beforeMark]
  rw [hmark, String.toList_ofList]
  exact ⟨String.ofList after, hparts, hbefore, by rwa [String.toList_ofList]⟩

namespace Delimiters

theorem baseName_of_not_isOneToMany (h : d.isOneToMany key = false) :
    d.baseName key = if isHashMarked key then beforeMark key else key := by
  rw [baseName, h]
  rfl

theorem isHashMarked_of_kind (h : d.kind key = .hashed) :
    d.isOneToMany key = false ∧ isHashMarked key = true := by
  unfold kind at h
  split at h
  · cases h
  · split at h
    · cases h
    · rename_i hone
      split at h
      · exact ⟨Bool.not_eq_true _ ▸ hone, ‹_›⟩
      · cases h

theorem not_isHashMarked_of_kind (h : d.kind key = .plain) :
    d.isOneToMany key = false ∧ isHashMarked key = false := by
  unfold kind at h
  split at h
  · cases h
  · split at h
    · cases h
    · rename_i hone
      split at h
      · cases h
      · exact ⟨Bool.not_eq_true _ ▸ hone, Bool.not_eq_true _ ▸ ‹_›⟩

theorem baseName_of_hashed (h : d.kind key = .hashed) :
    ∃ after, key = d.baseName key ++ "#" ++ after ∧ '#' ∉ (d.baseName key).toList ∧
      '#' ∉ after.toList := by
  obtain ⟨hone, hmark⟩ := isHashMarked_of_kind h
  rw [baseName_of_not_isOneToMany hone, if_pos hmark]
  exact eq_beforeMark_append hmark

theorem baseName_of_plain (h : d.kind key = .plain) : d.baseName key = key := by
  obtain ⟨hone, hmark⟩ := not_isHashMarked_of_kind h
  rw [baseName_of_not_isOneToMany hone, hmark]
  rfl

end Delimiters

/-! ## Lookups -/

namespace Lookup

theorem baseName_of_isOneToMany (hkey : d.isOneToMany key = true) (h : ofKey d key = .ok l) :
    d.baseName key = l.primaryKey := by
  rw [Delimiters.baseName, if_pos hkey, ofKey_eq_ok_iff.1 h]
  rfl

/-- The one-to-many delimiter stands in the key twice, so it has no hash mark if the key has one. -/
theorem not_mem_delimiter_of_isHashMarked (hmark : isHashMarked (l.key d) = true) :
    '#' ∉ d.oneToMany.toList := by
  have hcount : (l.key d).toList.count '#' = 1 := beq_iff_eq.1 hmark
  simp only [key, String.toList_append, List.count_append] at hcount
  exact List.count_eq_zero.1 (by omega)

/-- What precedes the hash mark of a key is not the primary key alone: the delimiter follows it. -/
theorem beforeMark_key_ne (hone : d.oneToMany ≠ "") (hmark : isHashMarked (l.key d) = true) :
    beforeMark (l.key d) ≠ l.primaryKey := by
  intro he
  obtain ⟨after, -, hbefore, -⟩ := eq_beforeMark_append hmark
  rw [he] at hbefore
  have hkey : l.key d =
      l.primaryKey ++ (d.oneToMany ++ (l.table ++ d.oneToMany ++ l.searchKey)) := by
    simp only [key, String.append_assoc]
  rw [hkey, beforeMark_append hbefore,
    beforeMark_append (not_mem_delimiter_of_isHashMarked hmark)] at he
  have hlength := congrArg (fun s => s.toList.length) he
  have hpos := List.length_pos_iff.2 (Text.toList_ne_nil hone)
  simp only [String.toList_append, List.length_append] at hlength
  omega

/-- A key that carries a lookup is named by its primary key exactly when the many-to-many delimiter
does not stand in the key. -/
theorem baseName_iff (hone : d.oneToMany ≠ "") (h : ofKey d key = .ok l) :
    d.baseName key = l.primaryKey ↔ ¬ d.manyToMany.toList <:+: key.toList := by
  obtain rfl := key_of_ofKey h
  rw [← Delimiters.isManyToMany_iff, Bool.not_eq_true]
  constructor
  · intro hname
    by_contra hmany
    rw [Bool.not_eq_false] at hmany
    have hnot : d.isOneToMany (l.key d) = false := by
      rw [Delimiters.isOneToMany, hmany]
      rfl
    rw [Delimiters.baseName_of_not_isOneToMany hnot] at hname
    split at hname
    · rename_i hmark
      exact beforeMark_key_ne hone hmark hname
    · have hlength := congrArg (fun s => s.toList.length) hname
      have hpos := List.length_pos_iff.2 (Text.toList_ne_nil hone)
      simp only [key, String.toList_append, List.length_append] at hlength
      omega
  · intro hmany
    refine baseName_of_isOneToMany ?_ h
    rw [Delimiters.isOneToMany, hmany, Text.contains_iff.2 (oneToMany_isInfix_key d l)]
    rfl

end Lookup

end SeedScript
