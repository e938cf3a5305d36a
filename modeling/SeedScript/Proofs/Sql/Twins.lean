import Mathlib.Data.List.Forall2
import SeedScript.Proofs.Sql.Unquoted

/-!
# Texts that differ in literals only

`Twins` relates two texts that a reader finds the same outside literals, and keeps the contents of
the literals of each. Quoted texts are twins whatever they quote, a text without quotes is its own
twin, and twins stay twins when the same text is put around or between them. A text that is its own
twin is read as literals with these contents (`Twins.scan`).
-/

namespace SeedScript.Sql

/-- Both texts are read, outside literals as the same, and the literals hold `vs` and `ws`. -/
def Twins (a b : String) (vs ws : List String) : Prop :=
  ∃ ps qs, Reads a ps ∧ Reads b qs ∧ outline ps = outline qs ∧ literals ps = vs ∧ literals qs = ws

namespace Twins

variable {a b c sep : String} {vs ws vs' ws' : List String}

theorem codes (h : Unquoted c) : Twins c c [] [] :=
  ⟨_, _, reads_codes h, reads_codes h, rfl, literals_codes c, literals_codes c⟩

theorem quote (v w : String) : Twins (Literal.quote v) (Literal.quote w) [v] [w] :=
  ⟨_, _, reads_quote v, reads_quote w, rfl, rfl, rfl⟩

theorem append_codes (h : Twins a b vs ws) (hc : Unquoted c) : Twins (a ++ c) (b ++ c) vs ws := by
  obtain ⟨ps, qs, ha, hb, houtline, rfl, rfl⟩ := h
  refine ⟨_, _, ha.append (reads_codes hc) hc.followsLiteral,
    hb.append (reads_codes hc) hc.followsLiteral, ?_, ?_, ?_⟩
  · rw [outline_append, outline_append, houtline]
  · rw [literals_append, literals_codes, List.append_nil]
  · rw [literals_append, literals_codes, List.append_nil]

theorem codes_append (hc : Unquoted c) (h : Twins a b vs ws) : Twins (c ++ a) (c ++ b) vs ws := by
  obtain ⟨ps, qs, ha, hb, houtline, rfl, rfl⟩ := h
  refine ⟨_, _, ha.codes_append hc, hb.codes_append hc, ?_, ?_, ?_⟩
  · rw [outline_append, outline_append, houtline]
  · rw [literals_append, literals_codes, List.nil_append]
  · rw [literals_append, literals_codes, List.nil_append]

/-- Twins one after the other, with a text between them that keeps their quotes apart. -/
theorem append_append {a' b' : String} (h : Twins a b vs ws) (hc : Unquoted c) (hne : c ≠ "")
    (h' : Twins a' b' vs' ws') : Twins (a ++ c ++ a') (b ++ c ++ b') (vs ++ vs') (ws ++ ws') := by
  obtain ⟨ps, qs, ha, hb, houtline, rfl, rfl⟩ := h
  obtain ⟨ps', qs', ha', hb', houtline', rfl, rfl⟩ := h'
  have hfollows (t : String) : FollowsLiteral (c ++ t).toList := by
    rw [String.toList_append]
    exact hc.followsLiteral.append_of_ne_nil (Text.toList_ne_nil hne) t.toList
  rw [String.append_assoc, String.append_assoc]
  refine ⟨_, _, ha.append (ha'.codes_append hc) (hfollows a'),
    hb.append (hb'.codes_append hc) (hfollows b'), ?_, ?_, ?_⟩
  · rw [outline_append, outline_append, outline_append, outline_append, houtline, houtline']
  · rw [literals_append, literals_append, literals_codes, List.nil_append]
  · rw [literals_append, literals_append, literals_codes, List.nil_append]

theorem parenthesised (h : Twins a b vs ws) :
    Twins ("(" ++ a ++ ")") ("(" ++ b ++ ")") vs ws := by
  have hopen : Unquoted "(" := by decide
  have hclose : Unquoted ")" := by decide
  exact (h.codes_append hopen).append_codes hclose

/-- Two texts in a tuple, and their twins. -/
theorem pair {a' b' : String} (h : Twins a b vs ws) (h' : Twins a' b' vs' ws') :
    Twins (SqlStyle.tuple [a, a']) (SqlStyle.tuple [b, b']) (vs ++ vs') (ws ++ ws') := by
  have hcomma : Unquoted ", " := by decide
  unfold SqlStyle.tuple
  rw [String.intercalate_cons_cons, String.intercalate_singleton, String.intercalate_cons_cons,
    String.intercalate_singleton]
  exact (h.append_append hcomma (by decide) h').parenthesised

section Lists

variable {α β : Type} {f : α → String} {g : β → String} {v : α → List String}
  {w : β → List String} {xs : List α} {ys : List β}

theorem intercalate_cons (hsep : Unquoted sep) (hne : sep ≠ "") (h : Twins a b vs ws)
    (htail : List.Forall₂ (fun x y => Twins (f x) (g y) (v x) (w y)) xs ys) :
    Twins (sep.intercalate (a :: xs.map f)) (sep.intercalate (b :: ys.map g))
      (vs ++ xs.flatMap v) (ws ++ ys.flatMap w) := by
  -- the next pair takes the place of the first, so both texts stay general
  induction htail generalizing a b vs ws with
  | nil =>
    rw [List.map_nil, List.map_nil, String.intercalate_singleton, String.intercalate_singleton,
      List.flatMap_nil, List.flatMap_nil, List.append_nil, List.append_nil]
    exact h
  | cons hnext _ ih =>
    rw [List.map_cons, List.map_cons, String.intercalate_cons_cons, String.intercalate_cons_cons,
      List.flatMap_cons, List.flatMap_cons]
    exact h.append_append hsep hne (ih hnext)

theorem intercalate (hsep : Unquoted sep) (hne : sep ≠ "")
    (h : List.Forall₂ (fun x y => Twins (f x) (g y) (v x) (w y)) xs ys) :
    Twins (sep.intercalate (xs.map f)) (sep.intercalate (ys.map g)) (xs.flatMap v)
      (ys.flatMap w) := by
  cases h with
  | nil =>
    rw [List.map_nil, List.map_nil, String.intercalate_nil]
    exact codes (by decide)
  | cons hxy htail => exact intercalate_cons hsep hne hxy htail

theorem tuple (h : List.Forall₂ (fun x y => Twins (f x) (g y) (v x) (w y)) xs ys) :
    Twins (SqlStyle.tuple (xs.map f)) (SqlStyle.tuple (ys.map g)) (xs.flatMap v)
      (ys.flatMap w) := by
  have hcomma : Unquoted ", " := by decide
  exact (intercalate hcomma (by decide) h).parenthesised

end Lists

/-! ## What a reader finds -/

theorem scan (h : Twins a b vs ws) :
    ∃ ps, Sql.scan a = some ps ∧ literals ps = vs := by
  obtain ⟨ps, -, ha, -, -, hvs, -⟩ := h
  exact ⟨ps, ha.scan, hvs⟩

theorem outline_eq (h : Twins a b vs ws) : (Sql.scan a).map outline = (Sql.scan b).map outline := by
  obtain ⟨ps, qs, ha, hb, houtline, -, -⟩ := h
  rw [ha.scan, hb.scan, Option.map_some, Option.map_some, houtline]

end Twins

end SeedScript.Sql
