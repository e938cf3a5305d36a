import SeedScript.Proofs.Text.Splitting

/-!
# Occurrences of a delimiter

A delimiter may stand in a text at places that overlap. Of these, the leftmost ones that do not
overlap are counted: the first one, and then those after its end (`LeftmostOccurrences`). The
segments of a text are one more than these (`leftmostOccurrences_iff`), and a segment is closed by a
delimiter when the delimiter that is written after it is the first one there (`firstAt_append_iff`).
-/

namespace SeedScript.Text

/-- The first place in a text at which `d` stands. -/
def FirstAt (d cs : List Char) (place : Nat) : Prop :=
  d <+: cs.drop place ∧ ∀ k < place, ¬ d <+: cs.drop k

instance (d cs : List Char) (place : Nat) : Decidable (FirstAt d cs place) :=
  inferInstanceAs (Decidable (_ ∧ _))

/-- How many leftmost occurrences of `d` that do not overlap a text has: there is none, or there is
a first one and the others begin after its end. -/
inductive LeftmostOccurrences (d : List Char) : List Char → Nat → Prop
  | none {cs : List Char} (h : ¬ d <:+: cs) : LeftmostOccurrences d cs 0
  | first {cs : List Char} {place n : Nat} (h : FirstAt d cs place)
    (hrest : LeftmostOccurrences d (cs.drop (place + d.length)) n) :
    LeftmostOccurrences d cs (n + 1)

variable {d s cs : List Char} {ss : List (List Char)} {n : Nat}

/-! ## First occurrences -/

/-- Where the delimiter stands in what precedes the end of `s ++ d`, it stands before `s` ends. -/
theorem exists_isPrefix_drop_of_isInfix (hd : d ≠ []) (h : d <:+: s ++ d.dropLast)
    (cs : List Char) : ∃ k < s.length, d <+: (s ++ d ++ cs).drop k := by
  obtain ⟨before, after, heq⟩ := h
  have hpos := List.length_pos_iff.2 hd
  have hlength := congrArg List.length heq
  simp only [List.length_append, List.length_dropLast] at hlength
  have hprefix : before ++ d <+: s ++ d ++ cs :=
    (List.prefix_append (before ++ d) after).trans (heq ▸ append_dropLast_isPrefix s d cs)
  obtain ⟨rest, hrest⟩ := hprefix
  refine ⟨before.length, by omega, rest, ?_⟩
  rw [← hrest, List.append_assoc, List.drop_left]

/-- The delimiter after a segment is the first one exactly when it closes the segment. -/
theorem firstAt_append_iff (hd : d ≠ []) (cs : List Char) :
    FirstAt d (s ++ d ++ cs) s.length ↔ ClosedBy s d := by
  constructor
  · rintro ⟨-, hfirst⟩ hinfix
    obtain ⟨k, hk, hprefix⟩ := exists_isPrefix_drop_of_isInfix hd hinfix cs
    exact hfirst k hk hprefix
  · intro hclosed
    refine ⟨?_, fun k hk hprefix => ?_⟩
    · rw [List.append_assoc, List.drop_left]
      exact List.prefix_append d cs
    · -- an earlier occurrence ends before the last character of the delimiter
      obtain ⟨rest, hrest⟩ := hprefix
      have hwhole : (s ++ d ++ cs).take k ++ d <+: s ++ d ++ cs := by
        refine ⟨rest, ?_⟩
        rw [List.append_assoc, hrest, List.take_append_drop]
      have hlength : ((s ++ d ++ cs).take k ++ d).length ≤ (s ++ d.dropLast).length := by
        simp only [List.length_append, List.length_take, List.length_dropLast]
        omega
      have hpart := List.prefix_of_prefix_length_le hwhole (append_dropLast_isPrefix s d cs) hlength
      exact hclosed ((List.suffix_append _ d).isInfix.trans hpart.isInfix)

/-- A first occurrence ends the segment before it. -/
theorem FirstAt.exists_closedBy (hd : d ≠ []) {place : Nat} (h : FirstAt d cs place) :
    ∃ s, ClosedBy s d ∧ cs = s ++ d ++ cs.drop (place + d.length) := by
  obtain ⟨rest, hrest⟩ := h.1
  have hpos := List.length_pos_iff.2 hd
  have hplace : place ≤ cs.length := by
    have hlength := congrArg List.length hrest
    simp only [List.length_append, List.length_drop] at hlength
    omega
  have htake : (cs.take place).length = place := List.length_take_of_le hplace
  have hsplit : cs = cs.take place ++ d ++ rest := by
    rw [List.append_assoc, hrest, List.take_append_drop]
  have hdrop : cs.drop (place + d.length) = rest := by
    rw [← List.drop_drop, ← hrest, List.drop_left]
  refine ⟨cs.take place, ?_, hdrop.symm ▸ hsplit⟩
  rw [← firstAt_append_iff hd rest, ← hsplit, htake]
  exact h

/-! ## Counting -/

theorem leftmostOccurrences_of_splitsInto (hd : d ≠ []) (h : SplitsInto d cs ss)
    (hn : ss.length = n + 1) : LeftmostOccurrences d cs n := by
  induction h generalizing n with
  | last h =>
    obtain rfl : n = 0 := by simpa using hn.symm
    exact .none h
  | @next s cs ss hclosed hcut ih =>
    obtain ⟨n, rfl⟩ : ∃ m, n = m + 1 :=
      Nat.exists_eq_add_one_of_ne_zero fun h0 => splitsInto_ne_nil hcut
        (List.length_eq_zero_iff.1 (by simpa [h0] using hn))
    refine .first ((firstAt_append_iff hd cs).2 hclosed) ?_
    rw [← List.length_append, List.drop_left]
    exact ih (by simpa using hn)

/-- A text has one segment more than it has leftmost occurrences of the delimiter. -/
theorem leftmostOccurrences_iff (hd : d ≠ []) :
    LeftmostOccurrences d cs n ↔ (segments d cs).length = n + 1 := by
  constructor
  · intro h
    induction h with
    | none h => rw [segments_of_not_isInfix hd h, List.length_singleton]
    | @first cs place n h _ ih =>
      obtain ⟨s, hclosed, hcs⟩ := h.exists_closedBy hd
      rw [hcs, segments_append_of_closedBy hd hclosed, List.length_cons, ih]
  · exact leftmostOccurrences_of_splitsInto hd (splitsInto_segments hd cs)

end SeedScript.Text
