import SeedScript.Naming
import SeedScript.Proofs.Naming.Singular
import SeedScript.Proofs.Traversal

/-!
# Letter case of singulars

A pattern sees a character only through `foldCase`, and what an ending rule puts for an ending is in
small letters. So a change of letters that `foldCase` does not see and that keeps small letters can
be made before the name is inflected by its ending or after it (`singularByEnding_map`). With the
tables of words, which are looked up in lower case, the same holds of the whole singular
(`singularOf_map_toLower`): it does not depend on the case of the name.
-/

namespace SeedScript.Naming

/-! ## Small letters -/

theorem isUpper_iff {c : Char} : c.isUpper = true ↔ 65 ≤ c.toNat ∧ c.toNat ≤ 90 :=
  decide_eq_true_iff.trans (and_congr UInt32.le_iff_toNat_le UInt32.le_iff_toNat_le)

theorem isLower_iff {c : Char} : c.isLower = true ↔ 97 ≤ c.toNat ∧ c.toNat ≤ 122 := by
  have hbounds : c.isLower = true ↔ 'a'.val ≤ c.val ∧ c.val ≤ 'z'.val :=
    Bool.and_eq_true_iff.trans (and_congr decide_eq_true_iff decide_eq_true_iff)
  exact hbounds.trans (and_congr UInt32.le_iff_toNat_le UInt32.le_iff_toNat_le)

/-- Capitals stand 32 places before their small letters. -/
theorem toNat_toLower (c : Char) :
    c.toLower.toNat = if c.isUpper then c.toNat + 32 else c.toNat := by
  by_cases h : c.isUpper
  · have hcode := isUpper_iff.1 h
    have hlt : c.val.toNat + 32 < 2 ^ 32 := by
      rw [Char.toNat_val]
      omega
    have htoLower : c.toLower = _ := dif_pos (of_decide_eq_true h)
    rw [if_pos h, htoLower]
    exact (UInt32.toNat_add c.val 32).trans (Nat.mod_eq_of_lt hlt)
  · have htoLower : c.toLower = c := dif_neg fun hcode => h (decide_eq_true hcode)
    rw [if_neg h, htoLower]

theorem isUpper_toLower (c : Char) : c.toLower.isUpper = false := by
  rw [Bool.eq_false_iff, Ne, isUpper_iff, toNat_toLower]
  split
  · rename_i h
    have hcode := isUpper_iff.1 h
    omega
  · rename_i h
    rwa [isUpper_iff] at h

theorem toLower_of_isUpper_eq_false {c : Char} (h : c.isUpper = false) : c.toLower = c := by
  rw [← Char.toNat_inj, toNat_toLower, h]
  rfl

theorem toLower_toLower (c : Char) : c.toLower.toLower = c.toLower :=
  toLower_of_isUpper_eq_false (isUpper_toLower c)

theorem toLower_eq_iff {c d : Char} (hd : d.isAlpha = false) : c.toLower = d ↔ c = d := by
  have hother : d.isUpper = false ∧ d.isLower = false := Bool.or_eq_false_iff.1 hd
  constructor
  · rintro rfl
    by_cases hupper : c.isUpper
    · have hcode := isUpper_iff.1 hupper
      have hlower : c.toLower.isLower = true := by
        rw [isLower_iff, toNat_toLower, if_pos hupper]
        omega
      rw [hother.2] at hlower
      cases hlower
    · exact (toLower_of_isUpper_eq_false (Bool.not_eq_true _ ▸ hupper)).symm
  · rintro rfl
    exact toLower_of_isUpper_eq_false hother.1

/-! ## Changes of case -/

theorem foldCase_eq_underscore_iff {c : Char} : foldCase c = '_' ↔ c = '_' := by
  unfold foldCase
  split
  · rename_i hlong
    subst hlong
    decide
  · exact toLower_eq_iff (by decide)

/-- A change of letters that no pattern sees, and that keeps the letters of the patterns. -/
structure Recases (f : Char → Char) : Prop where
  foldCase_eq : ∀ c, foldCase (f c) = foldCase c
  eq_self : ∀ c, foldCase c = c → f c = c

theorem recases_toLower : Recases Char.toLower where
  foldCase_eq c := by
    unfold foldCase
    rw [toLower_toLower]
    simp only [toLower_eq_iff (d := 'ſ') (by decide)]
  eq_self c h := by
    unfold foldCase at h
    split at h
    · rename_i hlong
      subst hlong
      cases h
    · exact h

theorem recases_foldCase : Recases foldCase where
  foldCase_eq c := by
    by_cases hlong : c = 'ſ'
    · subst hlong
      decide
    · rw [show foldCase c = c.toLower from if_neg hlong, recases_toLower.foldCase_eq]
      exact if_neg hlong
  eq_self _ h := h

variable {f : Char → Char}

theorem Recases.eq_underscore_iff (hf : Recases f) {c : Char} : f c = '_' ↔ c = '_' := by
  rw [← foldCase_eq_underscore_iff, hf.foldCase_eq, foldCase_eq_underscore_iff]

theorem Recases.map_eq_self (hf : Recases f) {cs : List Char} (h : ∀ c ∈ cs, foldCase c = c) :
    cs.map f = cs := by
  rw [List.map_congr_left fun c hc => hf.eq_self c (h c hc), List.map_id']

/-! ## Ending rules -/

theorem Letter.admits_map (hf : Recases f) (l : Letter) (c : Char) :
    l.admits (f c) = l.admits c := by
  cases l with
  | oneOf letters => simp only [admits, hf.foldCase_eq]
  | noneOf letters => simp only [admits, hf.foldCase_eq]

theorem afterPattern?_map (hf : Recases f) (pattern : List Letter) (cs : List Char) :
    afterPattern? pattern (cs.map f) = (afterPattern? pattern cs).map (List.map f) := by
  induction pattern generalizing cs with
  | nil => rfl
  | cons l pattern ih =>
    cases cs with
    | nil => rfl
    | cons c cs =>
      rw [List.map_cons, afterPattern?, afterPattern?, Letter.admits_map hf, ih]
      split
      · rfl
      · rfl

theorem atWordStart_map (hf : Recases f) (reversed : List Char) :
    atWordStart (reversed.map f) = atWordStart reversed := by
  cases reversed with
  | nil => rfl
  | cons c reversed => exact Bool.eq_iff_iff.2 (by simpa [atWordStart] using hf.eq_underscore_iff)

theorem EndingRule.endsInStem_map (hf : Recases f) (rule : EndingRule) (reversed : List Char) :
    rule.endsInStem (reversed.map f) = rule.endsInStem reversed := by
  refine List.any_congr rfl fun stem => ?_
  rw [afterPattern?_map hf]
  cases afterPattern? stem.reverse reversed with
  | none => rfl
  | some front => simp only [Option.map_some, atWordStart_map hf]

theorem EndingRule.inflect?_map (hf : Recases f) {rule : EndingRule}
    (hsingular : ∀ c ∈ rule.singular.toList, foldCase c = c) (name : List Char) :
    rule.inflect? (name.map f) = (rule.inflect? name).map (List.map f) := by
  unfold EndingRule.inflect?
  rw [List.map_findSome?]
  refine findSome?_congr fun ending _ => ?_
  rw [← List.map_reverse, afterPattern?_map hf, Function.comp_apply]
  cases afterPattern? ending.reverse name.reverse with
  | none => rfl
  | some reversed =>
    simp only [Option.map_some, rule.endsInStem_map hf]
    split
    · simp only [Option.map_some, List.map_append, List.map_reverse, hf.map_eq_self hsingular]
    · rfl

theorem foldCase_endingRules {rule : EndingRule} (hrule : rule ∈ endingRules) :
    ∀ c ∈ rule.singular.toList, foldCase c = c := by
  have hall : (endingRules.all fun rule =>
      rule.singular.toList.all fun c => foldCase c == c) = true := by decide
  intro c hc
  exact beq_iff_eq.1 (List.all_eq_true.1 (List.all_eq_true.1 hall rule hrule) c hc)

/-- What can be done before each rule or after it can be done so with the first that matches. -/
theorem singularByEnding_comm {g : List Char → List Char} {name : List Char}
    (h : ∀ rule ∈ endingRules, rule.inflect? (g name) = (rule.inflect? name).map g) :
    singularByEnding (g name) = g (singularByEnding name) := by
  have hrules : (endingRules.findSome? fun rule => rule.inflect? (g name)) =
      (endingRules.findSome? fun rule => rule.inflect? name).map g := by
    rw [List.map_findSome?]
    exact findSome?_congr h
  unfold singularByEnding
  rw [hrules]
  cases endingRules.findSome? fun rule => rule.inflect? name with
  | none => rfl
  | some result => rfl

/-- The case of a name can be changed before its ending is inflected or after that. -/
theorem singularByEnding_map (hf : Recases f) (name : List Char) :
    singularByEnding (name.map f) = (singularByEnding name).map f :=
  singularByEnding_comm fun rule hrule => rule.inflect?_map hf (foldCase_endingRules hrule) name

/-! ## Words -/

theorem not_underscore_comp (hf : Recases f) : (· != '_') ∘ f = (· != '_') := by
  funext c
  exact Bool.eq_iff_iff.2 (by simpa using not_congr hf.eq_underscore_iff)

theorem lastWord_map (hf : Recases f) (name : List Char) :
    lastWord (name.map f) = (lastWord name).map f := by
  rw [lastWord, lastWord, ← List.map_reverse, List.takeWhile_map, not_underscore_comp hf,
    List.map_reverse]

theorem beforeLastWord_map (hf : Recases f) (name : List Char) :
    beforeLastWord (name.map f) = (beforeLastWord name).map f := by
  rw [beforeLastWord, beforeLastWord, ← List.map_reverse, List.dropWhile_map,
    not_underscore_comp hf, List.map_reverse]

theorem capitalizedLike_map_toLower (model word : List Char) :
    capitalizedLike (model.map Char.toLower) word = word := by
  cases model with
  | nil => rfl
  | cons m model =>
    cases word with
    | nil => rfl
    | cons w word =>
      rw [List.map_cons, capitalizedLike, isUpper_toLower]
      rfl

theorem map_toLower_capitalizedLike {word : List Char}
    (hword : ∀ c ∈ word, c.toUpper.toLower = c.toLower) (model : List Char) :
    (capitalizedLike model word).map Char.toLower = word.map Char.toLower := by
  unfold capitalizedLike
  split
  · split
    · rw [List.map_cons, hword _ List.mem_cons_self, List.map_cons]
    · rfl
  · rfl

theorem smallLetters_irregular {p : String × String} (hp : p ∈ irregular) :
    ∀ c ∈ p.2.toList, foldCase c = c ∧ c.toUpper.toLower = c.toLower := by
  have hall : (irregular.all fun p => p.2.toList.all fun c =>
      foldCase c == c && c.toUpper.toLower == c.toLower) = true := by decide
  intro c hc
  simpa using List.all_eq_true.1 (List.all_eq_true.1 hall p hp) c hc

theorem map_toLower_capitalizedLike_of_lookup {lower singular : String}
    (h : irregular.lookup lower = some singular) (model : List Char) :
    (capitalizedLike model singular.toList).map Char.toLower = singular.toList := by
  have hletters := smallLetters_irregular (mem_irregular h)
  rw [map_toLower_capitalizedLike fun c hc => (hletters c hc).2]
  exact recases_toLower.map_eq_self fun c hc => (hletters c hc).1

theorem singularOf_map_toLower (name : List Char) :
    singularOf (name.map Char.toLower) = (singularOf name).map Char.toLower := by
  have hlower (cs : List Char) : (cs.map Char.toLower).map Char.toLower = cs.map Char.toLower :=
    (List.map_map ..).trans (List.map_congr_left fun c _ => toLower_toLower c)
  unfold singularOf
  dsimp only
  -- Both names are looked up by the same word, so the cases of the two sides are the same.
  rw [lastWord_map recases_toLower, beforeLastWord_map recases_toLower, hlower]
  split
  · rfl
  · split
    · rename_i singular hlookup
      rw [capitalizedLike_map_toLower, List.map_append,
        map_toLower_capitalizedLike_of_lookup hlookup]
    · exact singularByEnding_map recases_toLower name

/-! ## Names of tables -/

theorem toList_toLower (s : String) : s.toLower.toList = s.toList.map Char.toLower :=
  String.toList_map

theorem toLower_singular (name : String) : (singular name).toLower = singular name.toLower := by
  rw [← String.toList_inj]
  simp only [singular, toList_toLower, String.toList_ofList, singularOf_map_toLower]

theorem toLower_primaryKey (table : String) :
    (primaryKey table).toLower = primaryKey table.toLower := by
  have hid : "_id".toList.map Char.toLower = "_id".toList := by decide
  rw [← String.toList_inj, primaryKey, primaryKey, ← toLower_singular]
  simp only [toList_toLower, String.toList_append, List.map_append, hid]

/-- The singular does not depend on the case of ASCII letters, which are those that
`String.toLower` changes: the singular of a name in small letters is its singular in small letters.
So the primary keys of two tables whose names differ only in this case differ in nothing else. -/
theorem singular_caseless :
    (∀ name : String, (singular name).toLower = singular name.toLower) ∧
      ∀ table table' : String, table.toLower = table'.toLower →
        (primaryKey table).toLower = (primaryKey table').toLower := by
  refine ⟨toLower_singular, fun table table' h => ?_⟩
  rw [toLower_primaryKey, toLower_primaryKey, h]

theorem singular_caseless_movies :
    singular "MOVIES" = "Movie" ∧ (singular "MOVIES").toLower = singular "MOVIES".toLower ∧
      "MOVIES".toLower = "Movies".toLower ∧
      (primaryKey "MOVIES").toLower = (primaryKey "Movies").toLower := by
  have hcase : "MOVIES".toLower = "Movies".toLower := by
    rw [← String.toList_inj, toList_toLower, toList_toLower]
    decide
  exact ⟨by decide +kernel, singular_caseless.1 "MOVIES", hcase,
    singular_caseless.2 "MOVIES" "Movies" hcase⟩

end SeedScript.Naming
