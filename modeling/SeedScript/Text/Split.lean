/-!
# Splitting text by a delimiter

Occurrences of a delimiter are found from left to right and never overlap, so `"***"` holds one
`"**"` and a `'*'` after it. The segments between them, joined by the delimiter, are the text
again (`intercalate_segments`). An empty delimiter stands at both ends of a text and between any
two of its characters.
-/

namespace SeedScript.Text

/-- The segments of a text between occurrences of a non-empty delimiter `d`. The first `skip`
characters belong to an occurrence that has been found already. -/
def segmentsFrom (d : List Char) : (skip : Nat) → List Char → List (List Char)
  | _, [] => [[]]
  | skip + 1, _ :: cs => segmentsFrom d skip cs
  | 0, c :: cs =>
    if d.isPrefixOf (c :: cs) then [] :: segmentsFrom d (d.length - 1) cs
    else (segmentsFrom d 0 cs).modifyHead (c :: ·)

/-- The segments of a text between the occurrences of `d`. -/
def segments (d cs : List Char) : List (List Char) :=
  if d.isEmpty then [] :: (cs.map fun c => [c]) ++ [[]] else segmentsFrom d 0 cs

/-- Whether `d` stands somewhere in a text. -/
def occursIn (d : List Char) : List Char → Bool
  | [] => d.isEmpty
  | c :: cs => d.isPrefixOf (c :: cs) || occursIn d cs

/-- The segments of `text` between the occurrences of `delimiter`. -/
def split (delimiter text : String) : List String :=
  (segments delimiter.toList text.toList).map String.ofList

/-- Whether `delimiter` stands somewhere in `text`. -/
def contains (text delimiter : String) : Bool := occursIn delimiter.toList text.toList

/-! ## Occurrences -/

theorem occursIn_iff {d cs : List Char} : occursIn d cs = true ↔ d <:+: cs := by
  induction cs with
  | nil => simp [occursIn]
  | cons c cs ih => simp [occursIn, ih, List.infix_cons_iff, List.isPrefixOf_iff_prefix]

theorem contains_iff {text delimiter : String} :
    contains text delimiter = true ↔ delimiter.toList <:+: text.toList :=
  occursIn_iff

/-! ## Segments -/

theorem segmentsFrom_ne_nil (d : List Char) (skip : Nat) (cs : List Char) :
    segmentsFrom d skip cs ≠ [] := by
  induction cs generalizing skip with
  | nil => simp [segmentsFrom]
  | cons c cs ih =>
    cases skip with
    | zero =>
      rw [segmentsFrom]
      split
      · simp
      · simpa using ih 0
    | succ skip => simpa [segmentsFrom] using ih skip

theorem segments_ne_nil (d cs : List Char) : segments d cs ≠ [] := by
  unfold segments
  split
  · simp
  · exact segmentsFrom_ne_nil d 0 cs

theorem segmentsFrom_drop (d cs : List Char) (skip : Nat) (h : skip ≤ cs.length) :
    segmentsFrom d skip cs = segmentsFrom d 0 (cs.drop skip) := by
  induction cs generalizing skip with
  | nil => cases skip <;> simp_all
  | cons c cs ih =>
    cases skip with
    | zero => rfl
    | succ skip => simpa [segmentsFrom] using ih skip (by simpa using h)

@[simp] theorem segments_nil {d : List Char} (hd : d ≠ []) : segments d [] = [[]] := by
  simp [segments, hd, segmentsFrom]

/-- A delimiter at the front closes an empty segment. -/
theorem segments_append {d : List Char} (hd : d ≠ []) (cs : List Char) :
    segments d (d ++ cs) = [] :: segments d cs := by
  obtain ⟨e, ds, rfl⟩ := List.exists_cons_of_ne_nil hd
  have hp : (e :: ds).isPrefixOf (e :: (ds ++ cs)) = true := by
    rw [List.isPrefixOf_iff_prefix]
    exact ⟨cs, rfl⟩
  have hs := segmentsFrom_drop (e :: ds) (ds ++ cs) ds.length (by simp)
  simp [segments, segmentsFrom, hp, hs]

/-- A character at which no delimiter begins joins the first segment. -/
theorem segments_cons {d : List Char} (hd : d ≠ []) {c : Char} {cs : List Char}
    (h : ¬ d <+: c :: cs) : segments d (c :: cs) = (segments d cs).modifyHead (c :: ·) := by
  have hp : d.isPrefixOf (c :: cs) = false := by
    rw [Bool.eq_false_iff, ne_eq, List.isPrefixOf_iff_prefix]
    exact h
  simp [segments, hd, segmentsFrom, hp]

theorem intercalate_modifyHead (d : List Char) (c : Char) {ss : List (List Char)} (h : ss ≠ []) :
    d.intercalate (ss.modifyHead (c :: ·)) = c :: d.intercalate ss := by
  match ss with
  | [s] => simp [List.intercalate]
  | s :: t :: ss => simp [List.intercalate, List.intersperse]

theorem intercalate_segments_of_ne_nil {d : List Char} (hd : d ≠ []) (cs : List Char) :
    d.intercalate (segments d cs) = cs := by
  have hpos := List.length_pos_iff.2 hd
  induction hn : cs.length using Nat.strongRecOn generalizing cs with
  | _ n ih =>
    by_cases h : d <+: cs
    · obtain ⟨rest, rfl⟩ := h
      have hrest := ih rest.length (by simp at hn; omega) rest rfl
      obtain ⟨s, ss, hs⟩ := List.exists_cons_of_ne_nil (segments_ne_nil d rest)
      rw [segments_append hd, hs]
      rw [hs] at hrest
      simpa [List.intercalate] using hrest
    · match cs with
      | [] => simp [segments_nil hd, List.intercalate]
      | c :: cs =>
        rw [segments_cons hd h, intercalate_modifyHead d c (segments_ne_nil d cs),
          ih cs.length (by simp at hn; omega) cs rfl]

theorem intercalate_segments (d cs : List Char) : d.intercalate (segments d cs) = cs := by
  by_cases hd : d = []
  · subst hd
    have h : ∀ ss : List (List Char), List.intercalate [] ss = ss.flatten := by
      intro ss
      induction ss with
      | nil => rfl
      | cons s ss ih => cases ss <;> simp_all [List.intercalate, List.intersperse]
    simp [segments, h]
    induction cs <;> simp_all
  · exact intercalate_segments_of_ne_nil hd cs

theorem split_ne_nil (delimiter text : String) : split delimiter text ≠ [] := by
  simpa [split] using segments_ne_nil delimiter.toList text.toList

theorem intercalate_split (delimiter text : String) :
    delimiter.intercalate (split delimiter text) = text := by
  have h : String.toList ∘ String.ofList = id := by
    funext cs
    simp
  rw [← String.toList_inj, String.toList_intercalate, split, List.map_map, h, List.map_id,
    intercalate_segments]

end SeedScript.Text
