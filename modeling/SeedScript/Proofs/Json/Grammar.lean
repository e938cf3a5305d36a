import Mathlib.Data.List.Forall2
import SeedScript.Json.Reader
import SeedScript.Json.Writer
import SeedScript.Proofs.Traversal

/-!
# The grammar of JSON

Which texts spell a value is told here without a reader. Blanks may stand around every token, a
character of a string may be written in several ways, and brackets nest to a given depth
(`Value.Spells`). Which numbers may stand in a text is left open. The values that have a text are
those within the depth whose numbers are well formed and may stand (`Value.exists_spells_iff`), and
the text that such a value is written as is one of its texts (`Value.spells_chars`).
-/

namespace SeedScript.Json

variable {α : Type}

/-! ## Blanks -/

def Blanks (w : List Char) : Prop := ∀ c ∈ w, isBlank c = true

/-- A text that spells something, with blanks around it. -/
def Padded (spells : List Char → α → Prop) (text : List Char) (a : α) : Prop :=
  ∃ before core after, Blanks before ∧ Blanks after ∧ spells core a ∧
    text = before ++ (core ++ after)

theorem blanks_nil : Blanks [] := fun _ h => by cases h

theorem padded_self {spells : List Char → α → Prop} {text : List Char} {a : α}
    (h : spells text a) : Padded spells text a :=
  ⟨[], text, [], blanks_nil, blanks_nil, h, (List.append_nil text).symm⟩

/-! ## Strings -/

/-- The characters that stand behind a backslash, and those that they stand for. -/
def shortEscapes : List (Char × Char) :=
  [('"', '"'), ('\\', '\\'), ('/', '/'), ('b', '\x08'), ('f', '\x0c'), ('n', '\n'), ('r', '\r'),
    ('t', '\t')]

def hexDigits : List (Char × Nat) :=
  "0123456789abcdef".toList.zipIdx ++ "ABCDEF".toList.zipIdx 10

/-- Four hexadecimal digits and the code that they spell. -/
inductive SpellsCode : List Char → Nat → Prop
  | digits {a b c d : Char} {i j k l : Nat} (ha : (a, i) ∈ hexDigits) (hb : (b, j) ∈ hexDigits)
      (hc : (c, k) ∈ hexDigits) (hd : (d, l) ∈ hexDigits) :
      SpellsCode [a, b, c, d] (((i * 16 + j) * 16 + k) * 16 + l)

/-- The ways to write a character in a string: as it is, with a letter behind a backslash, with its
code, and with the two halves of a surrogate pair. -/
inductive SpellsChar : List Char → Char → Prop
  | plain {c : Char} (hquote : c ≠ '"') (hbackslash : c ≠ '\\') (hcontrol : 32 ≤ c.toNat) :
      SpellsChar [c] c
  | escape {letter c : Char} (h : (letter, c) ∈ shortEscapes) : SpellsChar ['\\', letter] c
  | code {digits : List Char} {c : Char} (h : SpellsCode digits c.toNat) :
      SpellsChar ('\\' :: 'u' :: digits) c
  | pair {first second : List Char} {high low : Nat} {c : Char} (hfirst : SpellsCode first high)
      (hsecond : SpellsCode second low) (hhigh : isHighSurrogate high = true)
      (hlow : isLowSurrogate low = true)
      (hc : c.toNat = 0x10000 + (high - 0xd800) * 0x400 + (low - 0xdc00)) :
      SpellsChar ('\\' :: 'u' :: (first ++ '\\' :: 'u' :: second)) c

/-- The characters of a string one after another. -/
def SpellsChars (text s : List Char) : Prop :=
  ∃ pieces, List.Forall₂ SpellsChar pieces s ∧ text = pieces.flatten

def SpellsString (text : List Char) (s : String) : Prop :=
  ∃ body, SpellsChars body s.toList ∧ text = '"' :: (body ++ ['"'])

/-! ## Numbers -/

/-- The digits after the point, which may be missing together with it. -/
inductive SpellsFraction : List Char → List Digit → Prop
  | none : SpellsFraction [] []
  | digits {ds : List Digit} (hne : ds ≠ []) : SpellsFraction ('.' :: ds.map digitChar) ds

/-- The signs of an exponent, and whether it is negative under them. -/
def exponentSigns : List (List Char × Bool) := [([], false), (['+'], false), (['-'], true)]

/-- The exponent with its sign, which may be missing. -/
inductive SpellsExponent : List Char → Bool × List Digit → Prop
  | none : SpellsExponent [] (false, [])
  | power {e : Char} {sign : List Char} {negative : Bool} {ds : List Digit}
      (he : e = 'e' ∨ e = 'E') (hsign : (sign, negative) ∈ exponentSigns) (hne : ds ≠ []) :
      SpellsExponent (e :: (sign ++ ds.map digitChar)) (negative, ds)

/-- The digits before the point: at least one, and a zero in front stands alone. -/
def WholeDigits (ds : List Digit) : Prop := ds ≠ [] ∧ ∀ tail, ds = 0 :: tail → tail = []

/-- A number, in range or not. -/
def SpellsNumber (text : List Char) (n : Number) : Prop :=
  ∃ fraction exponent, WholeDigits n.whole ∧ SpellsFraction fraction n.fraction ∧
    SpellsExponent exponent (n.exponentNegative, n.exponent) ∧
    text = (if n.negative then ['-'] else []) ++ (n.whole.map digitChar ++ (fraction ++ exponent))

/-! ## Arrays and objects -/

def commas (texts : List (List Char)) : List Char := [','].intercalate texts

theorem commas_singleton (t : List Char) : commas [t] = t := List.intercalate_singleton

theorem commas_cons_cons (t u : List Char) (texts : List (List Char)) :
    commas (t :: u :: texts) = t ++ ',' :: commas (u :: texts) := by
  rw [commas, List.intercalate_cons_cons, List.append_assoc]
  rfl

/-- What stands between the brackets of an array, or the braces of an object. -/
inductive SpellsItems (spells : List Char → α → Prop) : List Char → List α → Prop
  | blank {w : List Char} (hw : Blanks w) : SpellsItems spells w []
  | items {texts : List (List Char)} {as : List α} (hne : texts ≠ [])
      (h : List.Forall₂ (Padded spells) texts as) : SpellsItems spells (commas texts) as

/-- A name, a colon and a value, with blanks around the colon. -/
def SpellsMember (spells : List Char → α → Prop) (text : List Char) (m : String × α) : Prop :=
  ∃ name before after core, SpellsString name m.1 ∧ Blanks before ∧ Blanks after ∧
    spells core m.2 ∧ text = name ++ (before ++ ':' :: (after ++ core))

def SpellsArray (spells : List Char → α → Prop) (text : List Char) (as : List α) : Prop :=
  ∃ body, SpellsItems spells body as ∧ text = '[' :: (body ++ [']'])

def SpellsObject (spells : List Char → α → Prop) (text : List Char) (ms : List (String × α)) :
    Prop :=
  ∃ body, SpellsItems (SpellsMember spells) body ms ∧ text = '\x7b' :: (body ++ ['\x7d'])

/-- The texts of a value whose numbers are all accepted, with at most `depth` brackets open at a
time. -/
def Value.Spells (accepts : Number → Prop) : (depth : Nat) → List Char → Value → Prop
  | _, text, .null => text = "null".toList
  | _, text, .boolean b => text = (if b then "true" else "false").toList
  | _, text, .number n => SpellsNumber text n ∧ accepts n
  | _, text, .string s => SpellsString text s
  | 0, _, .array _ => False
  | depth + 1, text, .array vs => SpellsArray (Spells accepts depth) text vs
  | 0, _, .object _ => False
  | depth + 1, text, .object ms => SpellsObject (Spells accepts depth) text ms

/-! ## The texts that values are written as -/

/-- A name with what follows it in an object. -/
def memberText (m : String × List Char) : List Char := stringChars m.1 ++ m.2

theorem itemsChars_eq_commas (vs : List Value) : itemsChars vs = commas (vs.map Value.chars) := by
  match vs with
  | [] => rfl
  | [v] => rw [itemsChars, List.map_singleton, commas_singleton]
  | v :: w :: vs =>
    have htail := itemsChars_eq_commas (w :: vs)
    rw [List.map_cons] at htail
    rw [itemsChars, List.map_cons, List.map_cons, commas_cons_cons, htail]

theorem membersChars_eq_commas (ms : List (String × Value)) :
    membersChars ms = commas (ms.map fun m => memberText (m.1, ':' :: m.2.chars)) := by
  match ms with
  | [] => rfl
  | [m] => rw [membersChars, List.map_singleton, commas_singleton, memberText]
  | m :: n :: ms =>
    have htail := membersChars_eq_commas (n :: ms)
    rw [List.map_cons] at htail
    rw [membersChars, List.map_cons, List.map_cons, commas_cons_cons, htail]
    rfl

theorem mem_hexDigits_hexDigit : ∀ n < 16, (hexDigit n, n) ∈ hexDigits := by decide

theorem spellsChar_escapeChar (c : Char) : SpellsChar (escapeChar c) c := by
  unfold escapeChar
  split_ifs with hquote hbackslash hb hf hn hr ht hcontrol
  · exact .escape (by rw [hquote]; decide)
  · exact .escape (by rw [hbackslash]; decide)
  · exact .escape (by rw [hb]; decide)
  · exact .escape (by rw [hf]; decide)
  · exact .escape (by rw [hn]; decide)
  · exact .escape (by rw [hr]; decide)
  · exact .escape (by rw [ht]; decide)
  · have hcode : SpellsCode ['0', '0', hexDigit (c.toNat / 16), hexDigit (c.toNat % 16)]
        (((0 * 16 + 0) * 16 + c.toNat / 16) * 16 + c.toNat % 16) :=
      .digits (by decide) (by decide) (mem_hexDigits_hexDigit _ (by omega))
        (mem_hexDigits_hexDigit _ (by omega))
    refine .code ?_
    rwa [show ((0 * 16 + 0) * 16 + c.toNat / 16) * 16 + c.toNat % 16 = c.toNat by omega] at hcode
  · exact .plain hquote hbackslash (by omega)

theorem spellsString_stringChars (s : String) : SpellsString (stringChars s) s := by
  refine ⟨s.toList.flatMap escapeChar, ⟨s.toList.map escapeChar, ?_, List.flatMap_def⟩, rfl⟩
  rw [List.forall₂_map_left_iff, List.forall₂_same]
  exact fun c _ => spellsChar_escapeChar c

/-- A number that has a text: its exponent has no sign without digits. -/
def Number.WellFormed (n : Number) : Prop :=
  WholeDigits n.whole ∧ (n.exponent = [] → n.exponentNegative = false)

theorem SpellsNumber.wellFormed {text : List Char} {n : Number} (h : SpellsNumber text n) :
    n.WellFormed := by
  obtain ⟨fraction, exponent, hwhole, -, hexponent, -⟩ := h
  refine ⟨hwhole, fun hnil => ?_⟩
  generalize hp : (n.exponentNegative, n.exponent) = p at hexponent
  cases hexponent with
  | none => exact (Prod.mk.inj hp).1
  | power he hsign hne => exact absurd ((Prod.mk.inj hp).2.symm.trans hnil) hne

theorem Number.WellFormed.spells_chars {n : Number} (h : n.WellFormed) :
    SpellsNumber n.chars n := by
  refine ⟨if n.fraction.isEmpty then [] else '.' :: n.fraction.map digitChar,
    if n.exponent.isEmpty then []
      else 'e' :: (if n.exponentNegative then ['-'] else []) ++ n.exponent.map digitChar,
    h.1, ?_, ?_, by simp [Number.chars]⟩
  · cases hfraction : n.fraction with
    | nil => exact .none
    | cons d ds => exact .digits (List.cons_ne_nil d ds)
  · cases hexponent : n.exponent with
    | nil =>
      rw [h.2 hexponent]
      exact .none
    | cons d ds =>
      refine .power (.inl rfl) ?_ (List.cons_ne_nil d ds)
      cases n.exponentNegative <;> decide

/-- A value that has a text: its brackets nest at most `depth` deep, and its numbers are well formed
and accepted. -/
def Value.Within (accepts : Number → Prop) : (depth : Nat) → Value → Prop
  | _, .null => True
  | _, .boolean _ => True
  | _, .number n => n.WellFormed ∧ accepts n
  | _, .string _ => True
  | 0, .array _ => False
  | depth + 1, .array vs => ∀ v ∈ vs, v.Within accepts depth
  | 0, .object _ => False
  | depth + 1, .object ms => ∀ m ∈ ms, m.2.Within accepts depth

section Written

variable {spells : List Char → α → Prop} {text : α → List Char}

theorem spellsItems_commas {as : List α} (h : ∀ a ∈ as, spells (text a) a) :
    SpellsItems spells (commas (as.map text)) as := by
  cases as with
  | nil => exact .blank blanks_nil
  | cons a as =>
    refine .items (by simp) ?_
    rw [List.forall₂_map_left_iff, List.forall₂_same]
    exact fun b hb => padded_self (h b hb)

theorem spellsMember_memberText {m : String × α} (h : spells (text m.2) m.2) :
    SpellsMember spells (memberText (m.1, ':' :: text m.2)) m :=
  ⟨_, [], [], _, spellsString_stringChars m.1, blanks_nil, blanks_nil, h, rfl⟩

end Written

section Depth

variable {accepts : Number → Prop} {depth : Nat} {text : List Char} {v : Value}

theorem spellsObject_chars {ms : List (String × Value)}
    (h : ∀ m ∈ ms, m.2.Spells accepts depth m.2.chars) :
    SpellsObject (Value.Spells accepts depth) (Value.object ms).chars ms := by
  refine ⟨membersChars ms, ?_, ?_⟩
  · rw [membersChars_eq_commas]
    exact spellsItems_commas fun m hm => spellsMember_memberText (h m hm)
  · rw [Value.chars]
    rfl

/-- A value is spelled by the text that it is written as. -/
theorem Value.spells_chars {depth : Nat} {v : Value} (h : v.Within accepts depth) :
    v.Spells accepts depth v.chars := by
  cases v with
  | null =>
    rw [Spells]
    rfl
  | boolean b =>
    rw [Spells]
    cases b <;> rfl
  | number n =>
    rw [Within] at h
    rw [Spells]
    exact ⟨h.1.spells_chars, h.2⟩
  | string s =>
    rw [Spells]
    exact spellsString_stringChars s
  | array vs =>
    cases depth with
    | zero => exact h.elim
    | succ depth =>
      refine ⟨itemsChars vs, ?_, ?_⟩
      · rw [itemsChars_eq_commas]
        exact spellsItems_commas fun v hv => spells_chars (h v hv)
      · rw [Value.chars]
        rfl
  | object ms =>
    cases depth with
    | zero => exact h.elim
    | succ depth => exact spellsObject_chars fun m hm => spells_chars (h m hm)

theorem SpellsItems.exists_of_mem {spells : List Char → α → Prop} {as : List α}
    (h : SpellsItems spells text as) {a : α} (ha : a ∈ as) : ∃ core, spells core a := by
  cases h with
  | blank hw => cases ha
  | items hne h =>
    obtain ⟨t, -, before, core, after, -, -, hcore, -⟩ := exists_of_forall₂_of_mem h ha
    exact ⟨core, hcore⟩

theorem Value.Spells.within {depth : Nat} {text : List Char} {v : Value}
    (h : v.Spells accepts depth text) : v.Within accepts depth := by
  cases v with
  | number n =>
    rw [Spells] at h
    rw [Within]
    exact ⟨h.1.wellFormed, h.2⟩
  | array vs =>
    cases depth with
    | zero => exact h
    | succ depth =>
      obtain ⟨body, hitems, -⟩ := h
      intro v hv
      obtain ⟨core, hcore⟩ := hitems.exists_of_mem hv
      exact hcore.within
  | object ms =>
    cases depth with
    | zero => exact h
    | succ depth =>
      obtain ⟨body, hitems, -⟩ := h
      intro m hm
      obtain ⟨_, _, _, _, core, -, -, -, hcore, -⟩ := hitems.exists_of_mem hm
      exact hcore.within
  | _ =>
    rw [Within]
    trivial

theorem Value.exists_spells_iff :
    (∃ text, v.Spells accepts depth text) ↔ v.Within accepts depth :=
  ⟨fun ⟨_, h⟩ => h.within, fun h => ⟨v.chars, spells_chars h⟩⟩

end Depth

end SeedScript.Json
