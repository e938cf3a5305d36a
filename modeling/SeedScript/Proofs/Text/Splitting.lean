import Mathlib.Data.List.Infix
import SeedScript.Text.Split

/-!
# What a text is cut into

A segment is closed by a delimiter when the delimiter, written after the segment, is found there and
not earlier. `SplitsInto` cuts a text at the leftmost occurrences of a delimiter, without saying how
they are found; `segments_eq_iff` says that `segments` finds them. So joined parts are found again
exactly when the delimiter closes each part but the last and does not stand in the last
(`segments_intercalate_iff`): it is not enough that no part contains the delimiter, because an
occurrence may begin in a part and end in the delimiter after it. It is enough that no part shares a
character with the delimiter (`split_intercalate_of_disjoint`).
-/

namespace SeedScript.Text

/-- The first occurrence of `d` in `s ++ d` is the one after `s`. -/
def ClosedBy (s d : List Char) : Prop := ¬ d <:+: s ++ d.dropLast

instance (s d : List Char) : Decidable (ClosedBy s d) := inferInstanceAs (Decidable (¬ _))

/-- A text cut at the leftmost occurrences of `d` that do not overlap. -/
inductive SplitsInto (d : List Char) : List Char → List (List Char) → Prop
  | last {s : List Char} (h : ¬ d <:+: s) : SplitsInto d s [s]
  | next {s cs : List Char} {ss : List (List Char)} (h : ClosedBy s d) (hs : SplitsInto d cs ss) :
    SplitsInto d (s ++ d ++ cs) (s :: ss)

variable {c : Char} {d s cs : List Char} {ss : List (List Char)}

/-! ## Closed segments -/

theorem append_dropLast_isPrefix (s d cs : List Char) : s ++ d.dropLast <+: s ++ d ++ cs := by
  rw [List.append_assoc, List.prefix_append_right_inj]
  exact (List.dropLast_prefix d).trans (List.prefix_append d cs)

theorem closedBy_nil (hd : d ≠ []) : ClosedBy [] d := by
  intro h
  have hlen := h.length_le
  have hpos := List.length_pos_iff.2 hd
  rw [List.nil_append, List.length_dropLast] at hlen
  omega

theorem ClosedBy.of_cons (h : ClosedBy (c :: s) d) : ClosedBy s d :=
  fun hs => h (List.infix_cons hs)

/-- No delimiter begins at a character of a closed segment. -/
theorem ClosedBy.not_isPrefix (h : ClosedBy (c :: s) d) (cs : List Char) :
    ¬ d <+: c :: (s ++ d ++ cs) := by
  intro hp
  have hdrop : c :: s ++ d.dropLast <+: c :: (s ++ d ++ cs) :=
    append_dropLast_isPrefix (c :: s) d cs
  have hlen : d.length ≤ (c :: s ++ d.dropLast).length := by
    simp only [List.length_append, List.length_cons, List.length_dropLast]
    omega
  exact h (List.prefix_of_prefix_length_le hp hdrop hlen).isInfix

/-! ## Cutting -/

theorem splitsInto_ne_nil (h : SplitsInto d cs ss) : ss ≠ [] := by
  cases h <;> exact List.cons_ne_nil _ _

theorem splitsInto_singleton_iff : SplitsInto d cs [s] ↔ cs = s ∧ ¬ d <:+: s := by
  constructor
  · intro h
    cases h with
    | last h => exact ⟨rfl, h⟩
    | next h hs => exact absurd rfl (splitsInto_ne_nil hs)
  · rintro ⟨rfl, h⟩
    exact .last h

theorem splitsInto_cons_cons_iff {t : List Char} :
    SplitsInto d cs (s :: t :: ss) ↔
      ClosedBy s d ∧ ∃ rest, cs = s ++ d ++ rest ∧ SplitsInto d rest (t :: ss) := by
  constructor
  · intro h
    cases h with
    | next h hs => exact ⟨h, _, rfl, hs⟩
  · rintro ⟨h, rest, rfl, hs⟩
    exact .next h hs

/-- A character at which no delimiter begins joins the first segment. -/
theorem SplitsInto.cons (h : ¬ d <+: c :: cs) (hs : SplitsInto d cs (s :: ss)) :
    SplitsInto d (c :: cs) ((c :: s) :: ss) := by
  cases hs with
  | last hs =>
    refine .last fun hi => ?_
    rcases List.infix_cons_iff.1 hi with hi | hi
    · exact h hi
    · exact hs hi
  | @next _ rest _ hc hs =>
    refine .next (s := c :: s) (fun hi => ?_) hs
    rcases List.infix_cons_iff.1 hi with hi | hi
    · exact h (hi.trans (append_dropLast_isPrefix (c :: s) d rest))
    · exact hc hi

theorem segments_append_of_closedBy (hd : d ≠ []) (h : ClosedBy s d) (cs : List Char) :
    segments d (s ++ d ++ cs) = s :: segments d cs := by
  induction s with
  | nil => exact segments_append hd cs
  | cons c s ih =>
    rw [List.cons_append, List.cons_append, segments_cons hd (h.not_isPrefix cs), ih h.of_cons]
    rfl

theorem segments_of_not_isInfix (hd : d ≠ []) (h : ¬ d <:+: cs) : segments d cs = [cs] := by
  induction cs with
  | nil => exact segments_nil hd
  | cons c cs ih =>
    rw [List.infix_cons_iff, not_or] at h
    rw [segments_cons hd h.1, ih h.2]
    rfl

theorem splitsInto_segments (hd : d ≠ []) (cs : List Char) : SplitsInto d cs (segments d cs) := by
  induction hn : cs.length using Nat.strongRecOn generalizing cs with
  | _ n ih =>
    have hpos := List.length_pos_iff.2 hd
    by_cases h : d <+: cs
    · obtain ⟨rest, rfl⟩ := h
      rw [segments_append hd]
      rw [List.length_append] at hn
      exact .next (s := []) (closedBy_nil hd) (ih rest.length (by omega) rest rfl)
    · cases cs with
      | nil => exact segments_nil hd ▸ .last (by simpa using hd)
      | cons c cs =>
        obtain ⟨s, ss, hs⟩ := List.exists_cons_of_ne_nil (segments_ne_nil d cs)
        rw [List.length_cons] at hn
        have hcut := ih cs.length (by omega) cs rfl
        rw [hs] at hcut
        rw [segments_cons hd h, hs]
        exact hcut.cons h

/-- It is the only way: a text is cut into its segments and into nothing else. -/
theorem segments_eq_iff (hd : d ≠ []) : segments d cs = ss ↔ SplitsInto d cs ss := by
  constructor
  · rintro rfl
    exact splitsInto_segments hd cs
  · intro h
    induction h with
    | last h => exact segments_of_not_isInfix hd h
    | next h _ ih => rw [segments_append_of_closedBy hd h, ih]

theorem SplitsInto.isInfix (h : SplitsInto d cs ss) (hs : s ∈ ss) : s <:+: cs := by
  induction h with
  | last => exact List.mem_singleton.1 hs ▸ List.infix_refl _
  | @next t cs ss _ _ ih =>
    rcases List.mem_cons.1 hs with rfl | hs
    · rw [List.append_assoc]
      exact (List.prefix_append _ _).isInfix
    · exact (ih hs).trans (List.suffix_append _ _).isInfix

theorem SplitsInto.not_isInfix (h : SplitsInto d cs ss) (hs : s ∈ ss) : ¬ d <:+: s := by
  induction h with
  | last h => exact List.mem_singleton.1 hs ▸ h
  | next h _ ih =>
    rcases List.mem_cons.1 hs with rfl | hs
    · exact fun hi => h (hi.trans (List.infix_append' [] _ _))
    · exact ih hs

/-! ## Joined parts -/

theorem splitsInto_intercalate_iff (hne : ss ≠ []) :
    SplitsInto d (d.intercalate ss) ss ↔
      (∀ s ∈ ss.dropLast, ClosedBy s d) ∧ ¬ d <:+: ss.getLast hne := by
  induction ss with
  | nil => exact absurd rfl hne
  | cons s ss ih =>
    cases ss with
    | nil => simp [splitsInto_singleton_iff, List.intercalate]
    | cons t ss =>
      have hjoin : d.intercalate (s :: t :: ss) = s ++ d ++ d.intercalate (t :: ss) := by
        simp [List.intercalate]
      rw [splitsInto_cons_cons_iff, hjoin]
      simp only [List.append_cancel_left_eq, exists_eq_left', ih (List.cons_ne_nil t ss),
        List.dropLast_cons_cons, List.forall_mem_cons, and_assoc, List.getLast_cons_cons]

/-- Joined parts are found again exactly when the delimiter closes each part but the last, and does
not stand in the last. -/
theorem segments_intercalate_iff (hd : d ≠ []) (hne : ss ≠ []) :
    segments d (d.intercalate ss) = ss ↔
      (∀ s ∈ ss.dropLast, ClosedBy s d) ∧ ¬ d <:+: ss.getLast hne :=
  (segments_eq_iff hd).trans (splitsInto_intercalate_iff hne)

/-! ## Parts that share no character with a delimiter -/

theorem eq_nil_of_disjoint {part : List Char} (h : s.Disjoint d) (hs : part ⊆ s) (hd : part ⊆ d) :
    part = [] :=
  List.eq_nil_iff_forall_not_mem.2 fun _ hc => h (hs hc) (hd hc)

theorem isInfix_of_append_left (hne : d ≠ []) (h : s.Disjoint d) (hi : d <:+: s ++ cs) :
    d <:+: cs := by
  rcases List.infix_append_iff.1 hi with hi | hi | ⟨front, back, rfl, hfront, hback⟩
  · exact absurd (eq_nil_of_disjoint h hi.subset (List.Subset.refl d)) hne
  · exact hi
  · have hnil := eq_nil_of_disjoint h hfront.subset (List.subset_append_left front back)
    rw [hnil, List.nil_append]
    exact hback.isInfix

/-- An occurrence of a delimiter does not reach across a part. -/
theorem isInfix_of_append_append (hne : d ≠ []) (h : s.Disjoint d) (hs : s ≠ []) {ds : List Char}
    (hi : d <:+: ds ++ (s ++ cs)) : d <:+: ds ∨ d <:+: s ++ cs := by
  rcases List.infix_append_iff.1 hi with hi | hi | ⟨front, back, rfl, hfront, hback⟩
  · exact .inl hi
  · exact .inr hi
  · obtain ⟨c, s, rfl⟩ := List.exists_cons_of_ne_nil hs
    cases back with
    | nil => exact .inl (by simpa using hfront.isInfix)
    | cons b back =>
      have hb : b = c := (List.cons_prefix_cons.1 hback).1
      exact absurd (List.mem_append_right front (hb ▸ List.mem_cons_self))
        (List.disjoint_left.1 h List.mem_cons_self)

theorem ClosedBy.of_disjoint (hd : d ≠ []) (h : s.Disjoint d) : ClosedBy s d := fun hi =>
  closedBy_nil hd (isInfix_of_append_left hd h hi)

theorem not_isInfix_of_disjoint (hd : d ≠ []) (h : s.Disjoint d) : ¬ d <:+: s := fun hi =>
  hd (eq_nil_of_disjoint h hi.subset (List.Subset.refl d))

/-- Parts joined by a delimiter hold another one only if their delimiter does. -/
theorem not_isInfix_intercalate {sep : List Char} (hd : d ≠ []) (hsep : ¬ d <:+: sep)
    (hparts : ∀ s ∈ ss, s ≠ [] ∧ s.Disjoint d) : ¬ d <:+: sep.intercalate ss := by
  induction ss with
  | nil => simpa [List.intercalate] using hd
  | cons s ss ih =>
    obtain ⟨-, hs⟩ := hparts s List.mem_cons_self
    have htail := ih fun t ht => hparts t (List.mem_cons_of_mem s ht)
    cases ss with
    | nil => simpa [List.intercalate] using not_isInfix_of_disjoint hd hs
    | cons t ss =>
      obtain ⟨htne, ht⟩ := hparts t (List.mem_cons_of_mem s List.mem_cons_self)
      have hjoin : sep.intercalate (s :: t :: ss) = s ++ (sep ++ sep.intercalate (t :: ss)) := by
        simp [List.intercalate]
      obtain ⟨rest, hrest⟩ : ∃ rest, sep.intercalate (t :: ss) = t ++ rest := by
        cases ss <;> simp [List.intercalate]
      rw [hjoin]
      intro hi
      have hi := isInfix_of_append_left hd hs hi
      rw [hrest] at hi htail
      rcases isInfix_of_append_append hd ht htne hi with hi | hi
      · exact hsep hi
      · exact htail hi

/-! ## Strings -/

/-- The tokens of a text at a delimiter. An empty delimiter stands before and after each
character. -/
def CutInto (delimiter text : String) (tokens : List String) : Prop :=
  if delimiter = "" then tokens = "" :: text.toList.map String.singleton ++ [""]
  else SplitsInto delimiter.toList text.toList (tokens.map String.toList)

theorem toList_ne_nil {s : String} (h : s ≠ "") : s.toList ≠ [] := by
  rwa [ne_eq, String.toList_eq_nil_iff]

theorem map_toList_split (delimiter text : String) :
    (split delimiter text).map String.toList = segments delimiter.toList text.toList := by
  rw [split, List.map_map]
  exact (List.map_congr_left fun _ _ => String.toList_ofList).trans (List.map_id _)

theorem map_toList_injective : Function.Injective (List.map String.toList) :=
  List.map_injective_iff.2 fun _ _ h => String.toList_injective h

theorem cutInto_iff {delimiter text : String} {tokens : List String} :
    CutInto delimiter text tokens ↔ split delimiter text = tokens := by
  by_cases h : delimiter = ""
  · subst h
    have hsplit : split "" text = "" :: text.toList.map String.singleton ++ [""] := by
      simp [split, segments, Function.comp_def]
    rw [CutInto, if_pos rfl, hsplit, eq_comm]
  · rw [CutInto, if_neg h, ← segments_eq_iff (toList_ne_nil h), ← map_toList_split]
    exact map_toList_injective.eq_iff

theorem contains_eq_decide (text delimiter : String) :
    contains text delimiter = decide (delimiter.toList <:+: text.toList) :=
  Bool.eq_iff_iff.2 (contains_iff.trans (decide_eq_true_iff).symm)

theorem isInfix_of_mem_split {delimiter text token : String} (hd : delimiter ≠ "")
    (h : token ∈ split delimiter text) : token.toList <:+: text.toList := by
  refine (splitsInto_segments (toList_ne_nil hd) text.toList).isInfix ?_
  rw [← map_toList_split]
  exact List.mem_map_of_mem h

theorem not_isInfix_of_mem_split {delimiter text token : String} (hd : delimiter ≠ "")
    (h : token ∈ split delimiter text) : ¬ delimiter.toList <:+: token.toList := by
  refine (splitsInto_segments (toList_ne_nil hd) text.toList).not_isInfix ?_
  rw [← map_toList_split]
  exact List.mem_map_of_mem h

/-- Joined tokens are found again exactly when the delimiter closes each but the last, and does not
stand in the last. -/
theorem split_intercalate_iff {delimiter : String} {tokens : List String} (hd : delimiter ≠ "")
    (hne : tokens ≠ []) :
    split delimiter (delimiter.intercalate tokens) = tokens ↔
      (∀ s ∈ tokens.dropLast, ClosedBy s.toList delimiter.toList) ∧
        contains (tokens.getLast hne) delimiter = false := by
  have hne' : tokens.map String.toList ≠ [] := by simpa using hne
  rw [← map_toList_injective.eq_iff, map_toList_split, String.toList_intercalate,
    segments_intercalate_iff (toList_ne_nil hd) hne', ← List.map_dropLast, List.forall_mem_map,
    List.getLast_map, ← contains_iff, Bool.not_eq_true]

theorem split_intercalate_of_disjoint {delimiter : String} {tokens : List String}
    (hd : delimiter ≠ "") (hne : tokens ≠ [])
    (h : ∀ s ∈ tokens, s.toList.Disjoint delimiter.toList) :
    split delimiter (delimiter.intercalate tokens) = tokens := by
  have hd' := toList_ne_nil hd
  refine (split_intercalate_iff hd hne).2 ⟨fun s hs => ?_, ?_⟩
  · exact .of_disjoint hd' (h s (List.mem_of_mem_dropLast hs))
  · rw [← Bool.not_eq_true, contains_iff]
    exact not_isInfix_of_disjoint hd' (h _ (List.getLast_mem hne))

end SeedScript.Text
