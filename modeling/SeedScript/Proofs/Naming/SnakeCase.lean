import Mathlib.Data.List.Infix
import Mathlib.Data.List.TakeWhile
import SeedScript.Proofs.Naming.LetterCase

/-!
# Names of several words

Only the last word of a snake case name is inflected. The tables of words see nothing else of the
name. The ending rules read the name from its end, and a pattern gets past the last word only by a
letter that admits the underscore. Two patterns have such a letter, and what they match after it is
`ies` or `ves` (`crossings_endingRules`). So the last word is inflected as it is alone exactly when
it is neither of these, in any case of letters (`singularOf_append_iff`), and what stands before it
is always kept (`exists_singularOf_append`).
-/

namespace SeedScript.Naming

variable {word : List Char}

/-! ## Patterns and the underscore -/

theorem afterPattern?_append (pattern pattern' : List Letter) (cs : List Char) :
    afterPattern? (pattern ++ pattern') cs =
      (afterPattern? pattern cs).bind (afterPattern? pattern') := by
  induction pattern generalizing cs with
  | nil => rfl
  | cons l pattern ih =>
    cases cs with
    | nil => rfl
    | cons c cs =>
      rw [List.cons_append, afterPattern?, afterPattern?, ih]
      split
      · rfl
      · rfl

/-- Where no letter of the pattern meets the underscore, the pattern stays before it. -/
theorem afterPattern?_append_underscore {pattern : List Letter} {cs : List Char}
    (hmeets : ∀ within l beyond, pattern = within ++ l :: beyond → l.admits '_' = true →
      afterPattern? within cs ≠ some []) (back : List Char) :
    afterPattern? pattern (cs ++ '_' :: back) =
      (afterPattern? pattern cs).map (· ++ '_' :: back) := by
  induction pattern generalizing cs with
  | nil => rfl
  | cons l pattern ih =>
    cases cs with
    | nil =>
      have hl : l.admits '_' = false :=
        Bool.eq_false_iff.2 fun hl => hmeets [] l pattern rfl hl rfl
      exact if_neg (Bool.not_eq_true _ ▸ hl)
    | cons c cs =>
      rw [List.cons_append, afterPattern?, afterPattern?]
      split
      · rename_i hc
        refine ih fun within l' beyond hpattern hl' hwithin => ?_
        refine hmeets (l :: within) l' beyond (by rw [hpattern, List.cons_append]) hl' ?_
        rw [afterPattern?, if_pos hc, hwithin]
      · rfl

theorem afterPattern?_spelled_iff {letters cs : List Char} :
    afterPattern? (letters.map fun c => .oneOf [c]) cs = some [] ↔ cs.map foldCase = letters := by
  induction letters generalizing cs with
  | nil => simp [afterPattern?]
  | cons x letters ih =>
    cases cs with
    | nil => simp [afterPattern?]
    | cons c cs => simp [afterPattern?, Letter.admits, ih]

/-- The whole word matches the pattern. -/
def Fits (pattern : List Letter) (word : List Char) : Prop :=
  afterPattern? pattern.reverse word.reverse = some []

theorem fits_spelled_iff {plural : String} :
    Fits (spelled plural) word ↔ word.map foldCase = plural.toList := by
  rw [Fits, spelled, ← List.map_reverse, afterPattern?_spelled_iff, List.map_reverse,
    List.reverse_inj]

/-! ## Ending rules -/

/-- What a rule matches after a letter of a stem that admits the underscore. -/
def EndingRule.crossings (rule : EndingRule) : List (List Letter) :=
  rule.endings.flatMap fun ending => rule.stems.flatMap fun stem => stem.tails.filterMap fun
    | l :: within => if l.admits '_' then some (within ++ ending) else none
    | [] => none

theorem crossings_endingRules :
    endingRules.flatMap EndingRule.crossings = [spelled "ies", spelled "ves"] := by
  decide

theorem not_admits_underscore : ∀ rule ∈ endingRules, ∀ ending ∈ rule.endings, ∀ l ∈ ending,
    l.admits '_' = false := by
  decide

theorem atWordStart_append_underscore (reversed back : List Char) :
    atWordStart (reversed ++ '_' :: back) = atWordStart reversed := by
  cases reversed with
  | nil => rfl
  | cons c reversed => rfl

variable {rule : EndingRule} {ending stem : List Letter} {reversed : List Char}

theorem EndingRule.mem_crossings (hending : ending ∈ rule.endings) (hstem : stem ∈ rule.stems)
    {within beyond : List Letter} {l : Letter} (hsplit : stem.reverse = within ++ l :: beyond)
    (hl : l.admits '_' = true) : within.reverse ++ ending ∈ rule.crossings := by
  refine List.mem_flatMap.2 ⟨ending, hending, List.mem_flatMap.2 ⟨stem, hstem, ?_⟩⟩
  refine List.mem_filterMap.2 ⟨l :: within.reverse, (List.mem_tails _ _).2 ⟨beyond.reverse, ?_⟩, ?_⟩
  · rw [← List.reverse_inj, hsplit]
    simp
  · exact if_pos hl

/-- The stem of a rule is found in the last word alone, unless the word is one that the rule
matches together with the underscore. -/
theorem EndingRule.endsInStem_append (hfits : ∀ pattern ∈ rule.crossings, ¬ Fits pattern word)
    (hending : ending ∈ rule.endings)
    (hafter : afterPattern? ending.reverse word.reverse = some reversed) (back : List Char) :
    rule.endsInStem (reversed ++ '_' :: back) = rule.endsInStem reversed := by
  unfold endsInStem
  refine Bool.eq_iff_iff.2 ?_
  rw [List.any_eq_true, List.any_eq_true]
  refine exists_congr fun stem => and_congr_right fun hstem => ?_
  rw [afterPattern?_append_underscore fun within l beyond hsplit hl hwithin =>
    hfits _ (mem_crossings hending hstem hsplit hl) ?_]
  · cases afterPattern? stem.reverse reversed with
    | none => rfl
    | some left => simp only [Option.map_some, atWordStart_append_underscore]
  · rw [Fits, List.reverse_append, List.reverse_reverse, afterPattern?_append, hafter]
    exact hwithin

/-- A rule takes its ending from the last word: what precedes the word is kept. -/
theorem EndingRule.inflect?_append (hrule : rule ∈ endingRules) (front word : List Char) :
    rule.inflect? (front ++ '_' :: word) = rule.endings.findSome? fun ending =>
      (afterPattern? ending.reverse word.reverse).bind fun reversed =>
        if rule.endsInStem (reversed ++ '_' :: front.reverse) then
          some (front ++ '_' :: (reversed.reverse ++ rule.singular.toList))
        else none := by
  unfold EndingRule.inflect?
  refine findSome?_congr fun ending hending => ?_
  have hletters := not_admits_underscore rule hrule ending hending
  rw [List.reverse_append, List.reverse_cons, List.append_assoc, List.singleton_append,
    afterPattern?_append_underscore fun within l beyond hsplit hl _ => ?_]
  · cases afterPattern? ending.reverse word.reverse with
    | none => rfl
    | some reversed => simp
  · have hmem : l ∈ ending := by
      rw [← List.mem_reverse, hsplit]
      exact List.mem_append_right within List.mem_cons_self
    exact absurd hl (by rw [hletters l hmem]; exact Bool.false_ne_true)

theorem EndingRule.inflect?_append_of_not_fits (hrule : rule ∈ endingRules)
    (hfits : ∀ pattern ∈ rule.crossings, ¬ Fits pattern word) (front : List Char) :
    rule.inflect? (front ++ '_' :: word) = (rule.inflect? word).map (front ++ '_' :: ·) := by
  rw [inflect?_append hrule, EndingRule.inflect?, List.map_findSome?]
  refine findSome?_congr fun ending hending => ?_
  cases hafter : afterPattern? ending.reverse word.reverse with
  | none => simp [hafter]
  | some reversed =>
    rw [Option.bind_some, endsInStem_append hfits hending hafter]
    simp only [Function.comp_apply, hafter]
    split
    · rfl
    · rfl

theorem exists_singularByEnding_append (front word : List Char) :
    ∃ rest, singularByEnding (front ++ '_' :: word) = front ++ '_' :: rest := by
  unfold singularByEnding
  cases h : endingRules.findSome? fun rule => rule.inflect? (front ++ '_' :: word) with
  | none => exact ⟨word, rfl⟩
  | some result =>
    obtain ⟨rule, hrule, hinflect⟩ := List.exists_of_findSome?_eq_some h
    rw [EndingRule.inflect?_append hrule] at hinflect
    obtain ⟨ending, -, hending⟩ := List.exists_of_findSome?_eq_some hinflect
    obtain ⟨reversed, -, hresult⟩ := Option.bind_eq_some_iff.1 hending
    split at hresult
    · cases hresult
      exact ⟨_, rfl⟩
    · cases hresult

/-- The last words that a rule matches together with the underscore before them, in any case of
letters. -/
def Crosses (word : List Char) : Prop := word.map foldCase ∈ ["ies".toList, "ves".toList]

theorem not_fits_of_not_crosses (hcross : ¬ Crosses word) (hrule : rule ∈ endingRules) :
    ∀ pattern ∈ rule.crossings, ¬ Fits pattern word := by
  intro pattern hpattern hfits
  have hmem : pattern ∈ endingRules.flatMap EndingRule.crossings :=
    List.mem_flatMap.2 ⟨rule, hrule, hpattern⟩
  rw [crossings_endingRules] at hmem
  refine hcross (List.mem_pair.2 ?_)
  rcases List.mem_pair.1 hmem with rfl | rfl
  · exact .inl (fits_spelled_iff.1 hfits)
  · exact .inr (fits_spelled_iff.1 hfits)

theorem singularByEnding_append (hcross : ¬ Crosses word) (front : List Char) :
    singularByEnding (front ++ '_' :: word) = front ++ '_' :: singularByEnding word :=
  singularByEnding_comm (g := (front ++ '_' :: ·)) fun rule hrule =>
    rule.inflect?_append_of_not_fits hrule (not_fits_of_not_crosses hcross hrule) front

/-- The underscore is taken for the letter before the ending. -/
theorem singularByEnding_crossing (plural result : String)
    (h : (plural, result) ∈ [("ies", "y"), ("ves", "fe")]) (front : List Char) :
    singularByEnding (front ++ '_' :: plural.toList) = front ++ '_' :: result.toList := by
  have hreverse : (front ++ '_' :: plural.toList).reverse =
      plural.toList.reverse ++ '_' :: front.reverse := by simp
  have hrule : (endingRules.findSome? fun rule => rule.inflect? (front ++ '_' :: plural.toList)) =
      some (('_' :: front.reverse).reverse ++ result.toList) := by
    unfold EndingRule.inflect?
    rw [hreverse]
    rcases List.mem_pair.1 h with h | h
    · cases h
      rfl
    · cases h
      rfl
  rw [singularByEnding, hrule]
  simp

theorem singularByEnding_append_ne (hcross : Crosses word) (front : List Char) :
    singularByEnding (front ++ '_' :: word) ≠ front ++ '_' :: singularByEnding word := by
  intro h
  have hunderscore : foldCase '_' = '_' := by decide
  -- The letters of the word are known only up to case, so the two sides are compared folded.
  have hfold := congrArg (List.map foldCase) h
  simp only [← singularByEnding_map recases_foldCase, List.map_append, List.map_cons,
    hunderscore] at hfold
  rcases List.mem_pair.1 hcross with hword | hword
  · rw [hword, singularByEnding_crossing "ies" "y" (by simp)] at hfold
    exact absurd (List.append_cancel_left hfold) (by decide)
  · rw [hword, singularByEnding_crossing "ves" "fe" (by simp)] at hfold
    exact absurd (List.append_cancel_left hfold) (by decide)

/-! ## Last words -/

theorem ne_underscore_of_not_mem (h : '_' ∉ word) : ∀ c ∈ word.reverse, (c != '_') = true :=
  fun _ hc => bne_iff_ne.2 (ne_of_mem_of_not_mem (List.mem_reverse.1 hc) h)

theorem lastWord_of_not_mem (h : '_' ∉ word) : lastWord word = word := by
  rw [lastWord, List.takeWhile_eq_self_iff.2 (ne_underscore_of_not_mem h), List.reverse_reverse]

theorem beforeLastWord_of_not_mem (h : '_' ∉ word) : beforeLastWord word = [] := by
  have hall := beforeLastWord_append_lastWord word
  rw [lastWord_of_not_mem h] at hall
  exact List.append_left_eq_self.1 hall

theorem lastWord_append_underscore (h : '_' ∉ word) (front : List Char) :
    lastWord (front ++ '_' :: word) = word := by
  rw [lastWord, List.reverse_append, List.reverse_cons, List.append_assoc,
    List.takeWhile_append_of_pos (ne_underscore_of_not_mem h)]
  simp

theorem beforeLastWord_append_underscore (h : '_' ∉ word) (front : List Char) :
    beforeLastWord (front ++ '_' :: word) = front ++ ['_'] := by
  have hall := beforeLastWord_append_lastWord (front ++ '_' :: word)
  rw [lastWord_append_underscore h] at hall
  exact List.append_cancel_right (hall.trans (List.append_cons front '_' word))

/-- One of the tables holds the word. -/
def Tabled (word : List Char) : Prop :=
  String.ofList (word.map Char.toLower) ∈ uncountable ++ irregular.map Prod.fst

theorem singularOf_of_not_tabled {name : List Char} (h : ¬ Tabled (lastWord name)) :
    singularOf name = singularByEnding name := by
  unfold singularOf
  dsimp only
  split
  · rename_i huncountable
    exact absurd (List.mem_append_left _ (List.contains_iff_mem.1 huncountable)) h
  · split
    · rename_i singular hlookup
      exact absurd (List.mem_append_right _ (List.mem_map_of_mem (mem_irregular hlookup))) h
    · rfl

theorem singularOf_append_of_tabled (hword : '_' ∉ word) (h : Tabled word) (front : List Char) :
    singularOf (front ++ '_' :: word) = front ++ '_' :: singularOf word := by
  unfold singularOf
  dsimp only
  rw [lastWord_append_underscore hword, beforeLastWord_append_underscore hword,
    lastWord_of_not_mem hword, beforeLastWord_of_not_mem hword]
  split
  · rfl
  · rename_i huncountable
    split
    · simp
    · rename_i hlookup
      rcases List.mem_append.1 h with hmem | hmem
      · exact absurd (List.contains_iff_mem.2 hmem) huncountable
      · obtain ⟨p, hp, hfst⟩ := List.mem_map.1 hmem
        exact absurd hfst.symm (bne_iff_ne.1 (List.lookup_eq_none_iff.1 hlookup p hp))

theorem not_tabled_of_crosses (hcross : Crosses word) : ¬ Tabled word := by
  have hwords : ∀ plural ∈ uncountable ++ irregular.map Prod.fst, ¬ Crosses plural.toList := by
    unfold Crosses
    decide
  have hfold : (String.ofList (word.map Char.toLower)).toList.map foldCase = word.map foldCase := by
    rw [String.toList_ofList, List.map_map]
    exact List.map_congr_left fun c _ => recases_toLower.foldCase_eq c
  intro htabled
  refine hwords _ htabled ?_
  rw [Crosses, hfold]
  exact hcross

theorem exists_singularOf_append (hword : '_' ∉ word) (front : List Char) :
    ∃ rest, singularOf (front ++ '_' :: word) = front ++ '_' :: rest := by
  by_cases htabled : Tabled word
  · exact ⟨_, singularOf_append_of_tabled hword htabled front⟩
  · rw [singularOf_of_not_tabled (by rwa [lastWord_append_underscore hword])]
    exact exists_singularByEnding_append front word

/-- The last word is inflected as it is alone. -/
theorem singularOf_append_iff (hword : '_' ∉ word) (front : List Char) :
    singularOf (front ++ '_' :: word) = front ++ '_' :: singularOf word ↔ ¬ Crosses word := by
  by_cases htabled : Tabled word
  · exact iff_of_true (singularOf_append_of_tabled hword htabled front)
      fun hcross => not_tabled_of_crosses hcross htabled
  · rw [singularOf_of_not_tabled (by rwa [lastWord_append_underscore hword]),
      singularOf_of_not_tabled (by rwa [lastWord_of_not_mem hword])]
    exact ⟨fun h hcross => singularByEnding_append_ne hcross front h,
      fun hcross => singularByEnding_append hcross front⟩

/-! ## Names of tables -/

/-- Only the last word of a name is inflected. What stands before it is kept. The word becomes what
it becomes alone, whatever precedes it, except for two words: `ies` and `ves`, in any case and with
a long s for an s, take the underscore for the letter before the ending. -/
theorem singular_append_underscore (front word : String) (hword : '_' ∉ word.toList) :
    (∃ rest, singular (front ++ "_" ++ word) = front ++ "_" ++ rest) ∧
      (singular (front ++ "_" ++ word) = front ++ "_" ++ singular word ↔
        word.toList.map foldCase ∉ ["ies".toList, "ves".toList]) := by
  have htoList (back : String) :
      (front ++ "_" ++ back).toList = front.toList ++ '_' :: back.toList := by
    simp
  have hsingular (name : String) : (singular name).toList = singularOf name.toList :=
    String.toList_ofList
  constructor
  · obtain ⟨rest, hrest⟩ := exists_singularOf_append hword front.toList
    refine ⟨String.ofList rest, ?_⟩
    rw [← String.toList_inj, hsingular, htoList, htoList, hrest, String.toList_ofList]
  · rw [← String.toList_inj, hsingular, htoList, htoList, hsingular]
    exact singularOf_append_iff hword front.toList

/-- A word of the ending rules after a word of the tables. -/
theorem singular_append_underscore_wolves :
    '_' ∉ "Wolves".toList ∧ "Wolves".toList.map foldCase ∉ ["ies".toList, "ves".toList] ∧
      singular ("sales_people" ++ "_" ++ "Wolves") =
        "sales_people" ++ "_" ++ singular "Wolves" ∧
      singular "Wolves" = "Wolf" := by
  have hword : '_' ∉ "Wolves".toList := by decide
  have hcross : "Wolves".toList.map foldCase ∉ ["ies".toList, "ves".toList] := by decide
  exact ⟨hword, hcross, (singular_append_underscore "sales_people" "Wolves" hword).2.2 hcross,
    by decide +kernel⟩

example : singular "party_IES" = "party_y" := by decide +kernel

end SeedScript.Naming
