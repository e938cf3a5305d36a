import SeedScript.Naming.Singular

/-!
# Characters of a singular

A singular is the front of the name with letters after it, which an ending rule or the table of
irregular plurals puts there (`inflects_singularOf`). So each of its characters stands in the name
or is a letter (`mem_singularOf`), and it begins as the name does unless no part of the name is
left.
-/

namespace SeedScript.Naming

variable {c : Char} {name : List Char}

/-- A part of the name from its beginning, and letters after it. -/
def Inflects (name result : List Char) : Prop :=
  ∃ front letters, result = front ++ letters ∧ front <+: name ∧ ∀ c ∈ letters, c.isAlpha = true

theorem Inflects.refl (name : List Char) : Inflects name name :=
  ⟨name, [], (List.append_nil name).symm, List.prefix_rfl, by simp⟩

theorem Inflects.mem {result : List Char} (h : Inflects name result) (hc : c ∈ result) :
    c ∈ name ∨ c.isAlpha = true := by
  obtain ⟨front, letters, rfl, hfront, hletters⟩ := h
  rcases List.mem_append.1 hc with hc | hc
  · exact .inl (hfront.mem hc)
  · exact .inr (hletters c hc)

theorem Inflects.mem_head? {result : List Char} (h : Inflects name result)
    (hc : c ∈ result.head?) : c ∈ name.head? ∨ c.isAlpha = true := by
  obtain ⟨front, letters, rfl, ⟨back, rfl⟩, hletters⟩ := h
  cases front with
  | nil => exact .inr (hletters c (List.mem_of_mem_head? hc))
  | cons d front => exact .inl hc

/-! ## Ending rules -/

theorem afterPattern?_isSuffix {pattern : List Letter} {cs rest : List Char}
    (h : afterPattern? pattern cs = some rest) : rest <:+ cs := by
  induction pattern generalizing cs with
  | nil =>
    cases h
    exact List.suffix_rfl
  | cons l pattern ih =>
    cases cs with
    | nil => cases h
    | cons d cs =>
      rw [afterPattern?] at h
      split at h
      · exact (ih h).trans (List.suffix_cons d cs)
      · cases h

theorem all_isAlpha_endingRules :
    (endingRules.all fun rule => rule.singular.toList.all Char.isAlpha) = true := by
  decide

theorem inflects_of_inflect? {rule : EndingRule} {result : List Char} (hrule : rule ∈ endingRules)
    (h : rule.inflect? name = some result) : Inflects name result := by
  obtain ⟨ending, -, h⟩ := List.exists_of_findSome?_eq_some h
  split at h
  · rename_i reversed hafter
    split at h
    · cases h
      have hfront := List.reverse_prefix.2 (afterPattern?_isSuffix hafter)
      rw [List.reverse_reverse] at hfront
      exact ⟨_, _, rfl, hfront,
        List.all_eq_true.1 (List.all_eq_true.1 all_isAlpha_endingRules rule hrule)⟩
    · cases h
  · cases h

theorem inflects_singularByEnding (name : List Char) : Inflects name (singularByEnding name) := by
  unfold singularByEnding
  cases h : endingRules.findSome? fun rule => rule.inflect? name with
  | none => exact .refl name
  | some result =>
    obtain ⟨rule, hrule, hinflect⟩ := List.exists_of_findSome?_eq_some h
    exact inflects_of_inflect? hrule hinflect

/-! ## Irregular plurals -/

theorem all_isAlpha_irregular :
    (irregular.all fun p => p.2.toList.all fun c => c.isAlpha && c.toUpper.isAlpha) = true := by
  decide

theorem mem_irregular {lower singular : String} (h : irregular.lookup lower = some singular) :
    (lower, singular) ∈ irregular := by
  obtain ⟨before, after, hirregular, -⟩ := List.lookup_eq_some_iff.1 h
  exact hirregular ▸ List.mem_append_right before List.mem_cons_self

theorem mem_capitalizedLike {model word : List Char} (hc : c ∈ capitalizedLike model word) :
    c ∈ word ∨ ∃ d ∈ word, c = d.toUpper := by
  unfold capitalizedLike at hc
  split at hc
  · rename_i w ws
    split at hc
    · rcases List.mem_cons.1 hc with rfl | hc
      · exact .inr ⟨w, List.mem_cons_self, rfl⟩
      · exact .inl (List.mem_cons_of_mem w hc)
    · exact .inl hc
  · exact .inl hc

theorem isAlpha_of_mem_capitalizedLike {model : List Char} {lower singular : String}
    (h : irregular.lookup lower = some singular)
    (hc : c ∈ capitalizedLike model singular.toList) : c.isAlpha = true := by
  have hletters (c : Char) (hc : c ∈ singular.toList) :
      c.isAlpha = true ∧ c.toUpper.isAlpha = true :=
    Bool.and_eq_true_iff.1
      (List.all_eq_true.1 (List.all_eq_true.1 all_isAlpha_irregular _ (mem_irregular h)) c hc)
  rcases mem_capitalizedLike hc with hc | ⟨d, hd, rfl⟩
  · exact (hletters c hc).1
  · exact (hletters d hd).2

/-! ## Names -/

theorem inflects_singularOf (name : List Char) : Inflects name (singularOf name) := by
  unfold singularOf
  dsimp only
  split
  · exact .refl name
  · split
    · rename_i singular hlookup
      exact ⟨_, _, rfl, ⟨_, beforeLastWord_append_lastWord name⟩,
        fun c hc => isAlpha_of_mem_capitalizedLike hlookup hc⟩
    · exact inflects_singularByEnding name

theorem mem_singularOf (hc : c ∈ singularOf name) : c ∈ name ∨ c.isAlpha :=
  (inflects_singularOf name).mem hc

end SeedScript.Naming
