import SeedScript.Proofs.Json.Grammar

/-!
# Strings and numbers as they are read

A string is read where one is spelled and its closing quote follows, and nowhere else
(`string_eq_ok_iff`). A number goes as far as its spelling does: it is read from a text of the
grammar (`SpellsNumber.of_number`), and from every such text that is followed by something other
than a part of a number (`SpellsNumber.number_append`).
-/

namespace SeedScript.Json

/-! ## Codes of characters -/

theorem hexValue?_eq_some_iff {c : Char} {n : Nat} :
    hexValue? c = some n ↔ (c, n) ∈ hexDigits := by
  have hascii : ∀ k < 128, ∀ n ∈ hexValue? (Char.ofNat k), (Char.ofNat k, n) ∈ hexDigits := by
    decide
  have hvalues : ∀ p ∈ hexDigits, hexValue? p.1 = some p.2 := by decide
  refine ⟨fun h => ?_, fun h => hvalues (c, n) h⟩
  have hlt : c.toNat < 128 := by
    unfold hexValue? at h
    split_ifs at h with hdigit hlower hupper
    · have hle : c.toNat ≤ 57 := (Char.isDigit_iff_toNat.1 hdigit).2
      omega
    · have hle : c.toNat ≤ 102 := UInt32.le_iff_toNat_le.1 hlower.2
      omega
    · have hle : c.toNat ≤ 70 := UInt32.le_iff_toNat_le.1 hupper.2
      omega
  have hmem := hascii c.toNat hlt n (by rw [Char.ofNat_toNat]; exact h)
  rwa [Char.ofNat_toNat] at hmem

section Options

variable {α β : Type} {f : α → Option β} {xs : List α}

theorem exists_cons_of_mapM {y : β} {ys : List β} (h : xs.mapM f = some (y :: ys)) :
    ∃ x xs', xs = x :: xs' ∧ f x = some y ∧ xs'.mapM f = some ys := by
  cases xs with
  | nil => cases h
  | cons x xs =>
    rw [List.mapM_cons] at h
    obtain ⟨z, hz, h⟩ := Option.bind_eq_some_iff.1 h
    obtain ⟨zs, hzs, h⟩ := Option.bind_eq_some_iff.1 h
    cases h
    exact ⟨x, xs, rfl, hz, hzs⟩

theorem eq_nil_of_mapM (h : xs.mapM f = some []) : xs = [] := by
  cases xs with
  | nil => rfl
  | cons x xs =>
    rw [List.mapM_cons] at h
    obtain ⟨z, -, h⟩ := Option.bind_eq_some_iff.1 h
    obtain ⟨zs, -, h⟩ := Option.bind_eq_some_iff.1 h
    cases h

end Options

theorem snd_lt_of_mem_hexDigits : ∀ p ∈ hexDigits, p.2 < 16 := by decide

theorem four_le_length_utf8 (a b c d : Char) :
    4 ≤ ([a, b, c, d].flatMap String.utf8EncodeChar).length := by
  simp only [List.flatMap_cons, List.flatMap_nil, List.length_append, List.length_nil,
    String.length_utf8EncodeChar]
  have ha := a.utf8Size_pos
  have hb := b.utf8Size_pos
  have hc := c.utf8Size_pos
  have hd := d.utf8Size_pos
  omega

theorem SpellsCode.lt {digits : List Char} {n : Nat} (h : SpellsCode digits n) : n < 0x10000 := by
  cases h with
  | digits ha hb hc hd =>
    have hi := snd_lt_of_mem_hexDigits _ ha
    have hj := snd_lt_of_mem_hexDigits _ hb
    have hk := snd_lt_of_mem_hexDigits _ hc
    have hl := snd_lt_of_mem_hexDigits _ hd
    dsimp only at hi hj hk hl
    omega

theorem hexCode_eq_ok_iff {cs rest : List Char} {n : Nat} :
    hexCode cs = .ok (n, rest) ↔ ∃ digits, SpellsCode digits n ∧ cs = digits ++ rest := by
  constructor
  · intro h
    unfold hexCode at h
    split_ifs at h with hshort
    split at h
    · rename_i i j k l hvalues
      cases h
      obtain ⟨a, as, ha, hi, hvalues⟩ := exists_cons_of_mapM hvalues
      obtain ⟨b, bs, rfl, hj, hvalues⟩ := exists_cons_of_mapM hvalues
      obtain ⟨c, cs', rfl, hk, hvalues⟩ := exists_cons_of_mapM hvalues
      obtain ⟨d, ds, rfl, hl, hvalues⟩ := exists_cons_of_mapM hvalues
      obtain rfl : ds = [] := eq_nil_of_mapM hvalues
      refine ⟨[a, b, c, d], .digits (hexValue?_eq_some_iff.1 hi) (hexValue?_eq_some_iff.1 hj)
        (hexValue?_eq_some_iff.1 hk) (hexValue?_eq_some_iff.1 hl), ?_⟩
      rw [← ha, List.take_append_drop]
    · cases h
  · rintro ⟨digits, h, rfl⟩
    cases h with
    | @digits a b c d i j k l ha hb hc hd =>
      have hlong := four_le_length_utf8 a b c d
      have hvalues : [a, b, c, d].mapM hexValue? = some [i, j, k, l] := by
        simp [List.mapM_cons, hexValue?_eq_some_iff.2 ha, hexValue?_eq_some_iff.2 hb,
          hexValue?_eq_some_iff.2 hc, hexValue?_eq_some_iff.2 hd]
      unfold hexCode
      rw [show List.take 4 ([a, b, c, d] ++ rest) = [a, b, c, d] from rfl, if_neg (by omega),
        hvalues]
      rfl

theorem lowSurrogate_eq_ok_iff {cs rest : List Char} {n : Nat} :
    lowSurrogate cs = .ok (n, rest) ↔ ∃ digits, SpellsCode digits n ∧ isLowSurrogate n = true ∧
      cs = '\\' :: 'u' :: (digits ++ rest) := by
  constructor
  · intro h
    unfold lowSurrogate at h
    split at h
    · obtain ⟨⟨m, next⟩, hcode, hlow⟩ := bind_eq_ok_iff.1 h
      obtain ⟨digits, hdigits, rfl⟩ := hexCode_eq_ok_iff.1 hcode
      dsimp only at hlow
      split_ifs at hlow with hlow'
      cases hlow
      exact ⟨digits, hdigits, hlow', rfl⟩
    · cases h
    · cases h
  · rintro ⟨digits, hdigits, hlow, rfl⟩
    have hcode : hexCode (digits ++ rest) = .ok (n, rest) :=
      hexCode_eq_ok_iff.2 ⟨digits, hdigits, rfl⟩
    simp only [lowSurrogate, hcode, bind, Except.bind, hlow, if_true]

/-! ## Characters -/

theorem toNat_ofNat_of_isValidChar {n : Nat} (h : n.isValidChar) : (Char.ofNat n).toNat = n := by
  rw [Char.ofNat, dif_pos h]
  rfl

/-- A code is that of a character, unless it is one half of a surrogate pair. -/
theorem isValidChar_of_code {n : Nat} (hlt : n < 0x10000) (hlow : isLowSurrogate n = false)
    (hhigh : isHighSurrogate n = false) : n.isValidChar := by
  simp only [isLowSurrogate, isHighSurrogate, Bool.and_eq_false_iff, decide_eq_false_iff_not]
    at hlow hhigh
  unfold Nat.isValidChar
  omega

/-- A surrogate pair stands for a character beyond the codes. -/
theorem isValidChar_of_pair {high low : Nat} (hhigh : isHighSurrogate high = true)
    (hlow : isLowSurrogate low = true) :
    Nat.isValidChar (0x10000 + (high - 0xd800) * 0x400 + (low - 0xdc00)) := by
  simp only [isLowSurrogate, isHighSurrogate, Bool.and_eq_true, decide_eq_true_eq] at hlow hhigh
  unfold Nat.isValidChar
  omega

theorem not_isSurrogate_toNat (c : Char) :
    isLowSurrogate c.toNat = false ∧ isHighSurrogate c.toNat = false := by
  have hvalid : c.toNat.isValidChar := c.valid
  unfold Nat.isValidChar at hvalid
  simp only [isLowSurrogate, isHighSurrogate, Bool.and_eq_false_iff, decide_eq_false_iff_not]
  omega

theorem not_isLowSurrogate_of_isHighSurrogate {n : Nat} (h : isHighSurrogate n = true) :
    isLowSurrogate n = false := by
  simp only [isHighSurrogate, Bool.and_eq_true, decide_eq_true_eq] at h
  simp only [isLowSurrogate, Bool.and_eq_false_iff, decide_eq_false_iff_not]
  omega

/-- What follows a backslash is a short escape, a code, or a code and the escape of another. -/
theorem SpellsChar.of_escapedChar {cs rest : List Char} {c : Char}
    (h : escapedChar cs = .ok (c, rest)) :
    ∃ code, SpellsChar ('\\' :: code) c ∧ cs = code ++ rest := by
  unfold escapedChar at h
  split at h
  case h_9 cs =>
    unfold codedChar at h
    obtain ⟨⟨n, next⟩, hcode, hchar⟩ := bind_eq_ok_iff.1 h
    obtain ⟨first, hfirst, rfl⟩ := hexCode_eq_ok_iff.1 hcode
    dsimp only at hchar
    split_ifs at hchar with hlow hhigh
    · obtain ⟨⟨m, later⟩, hpair, hsome⟩ := bind_eq_ok_iff.1 hchar
      obtain ⟨second, hsecond, hm, rfl⟩ := lowSurrogate_eq_ok_iff.1 hpair
      obtain ⟨rfl, rfl⟩ := Prod.mk.inj (Except.ok.inj hsome)
      refine ⟨'u' :: (first ++ '\\' :: 'u' :: second), .pair hfirst hsecond hhigh hm ?_, by simp⟩
      exact toNat_ofNat_of_isValidChar (isValidChar_of_pair hhigh hm)
    · cases hchar
      rw [Bool.not_eq_true] at hlow hhigh
      refine ⟨'u' :: first, .code ?_, rfl⟩
      rwa [toNat_ofNat_of_isValidChar (isValidChar_of_code hfirst.lt hlow hhigh)]
  case h_10 => cases h
  all_goals
    cases h
    exact ⟨[_], .escape (by decide), rfl⟩

theorem SpellsChar.escapedChar_append {code : List Char} {c : Char}
    (h : SpellsChar ('\\' :: code) c) (rest : List Char) :
    escapedChar (code ++ rest) = .ok (c, rest) := by
  cases h with
  | plain hquote hbackslash hcontrol => exact absurd rfl hbackslash
  | escape h =>
    have hescapes : ∀ p ∈ shortEscapes, escapedChar (p.1 :: rest) = .ok (p.2, rest) := by
      simp only [shortEscapes, List.forall_mem_cons, List.not_mem_nil, false_imp_iff, implies_true,
        and_true]
      exact ⟨rfl, rfl, rfl, rfl, rfl, rfl, rfl, rfl⟩
    exact hescapes _ h
  | @code digits _ h =>
    have hcode : hexCode (digits ++ rest) = .ok (c.toNat, rest) :=
      hexCode_eq_ok_iff.2 ⟨digits, h, rfl⟩
    have hnot := not_isSurrogate_toNat c
    show codedChar (digits ++ rest) = _
    simp [codedChar, hcode, bind, Except.bind, hnot.1, hnot.2, Char.ofNat_toNat]
  | @pair first second high low _ hfirst hsecond hhigh hlow hc =>
    have hcode : hexCode (first ++ '\\' :: 'u' :: (second ++ rest)) =
        .ok (high, '\\' :: 'u' :: (second ++ rest)) := hexCode_eq_ok_iff.2 ⟨first, hfirst, rfl⟩
    have hnext : lowSurrogate ('\\' :: 'u' :: (second ++ rest)) = .ok (low, rest) :=
      lowSurrogate_eq_ok_iff.2 ⟨second, hsecond, hlow, rfl⟩
    rw [List.cons_append, List.append_assoc, List.cons_append, List.cons_append]
    show codedChar (first ++ '\\' :: 'u' :: (second ++ rest)) = _
    simp only [codedChar, hcode, bind, Except.bind, not_isLowSurrogate_of_isHighSurrogate hhigh,
      hhigh, hnext, ← hc, Char.ofNat_toNat]
    rfl

/-! ## Strings -/

theorem spellsChars_nil : SpellsChars [] [] := ⟨[], .nil, rfl⟩

theorem SpellsChars.cons {piece text s : List Char} {c : Char} (hc : SpellsChar piece c)
    (h : SpellsChars text s) : SpellsChars (piece ++ text) (c :: s) := by
  obtain ⟨pieces, hpieces, rfl⟩ := h
  exact ⟨piece :: pieces, .cons hc hpieces, List.flatten_cons.symm⟩

theorem SpellsChars.of_stringRest {bound : Nat} {cs s rest : List Char}
    (h : stringRest bound cs = .ok (s, rest)) :
    ∃ body, SpellsChars body s ∧ cs = body ++ '"' :: rest := by
  induction bound generalizing cs s with
  | zero => cases h
  | succ bound ih =>
    cases cs with
    | nil => cases h
    | cons c cs =>
      rw [stringRest] at h
      split_ifs at h with hquote hbackslash hcontrol
      · obtain ⟨rfl, rfl⟩ := Prod.mk.inj (Except.ok.inj h)
        exact ⟨[], spellsChars_nil, by rw [hquote]; rfl⟩
      · obtain ⟨⟨e, next⟩, hescape, h⟩ := bind_eq_ok_iff.1 h
        obtain ⟨⟨s', rest'⟩, htail, h⟩ := bind_eq_ok_iff.1 h
        obtain ⟨rfl, rfl⟩ := Prod.mk.inj (Except.ok.inj h)
        obtain ⟨code, hcode, rfl⟩ := SpellsChar.of_escapedChar hescape
        obtain ⟨body, hbody, rfl⟩ := ih htail
        refine ⟨_, hbody.cons hcode, ?_⟩
        rw [hbackslash, List.cons_append, List.cons_append, List.append_assoc]
      · obtain ⟨⟨s', rest'⟩, htail, h⟩ := bind_eq_ok_iff.1 h
        obtain ⟨rfl, rfl⟩ := Prod.mk.inj (Except.ok.inj h)
        obtain ⟨body, hbody, rfl⟩ := ih htail
        exact ⟨_, hbody.cons (.plain hquote hbackslash (by omega)), rfl⟩

/-- A character as it is, or an escape, is taken off the front. -/
theorem SpellsChar.stringRest_append {piece cs s rest : List Char} {c : Char} {bound : Nat}
    (hc : SpellsChar piece c) (h : stringRest bound cs = .ok (s, rest)) :
    stringRest (bound + 1) (piece ++ cs) = .ok (c :: s, rest) := by
  have hescape (code : List Char) (hcode : SpellsChar ('\\' :: code) c) :
      stringRest (bound + 1) ('\\' :: (code ++ cs)) = .ok (c :: s, rest) := by
    rw [stringRest, if_neg (by decide), if_pos rfl, hcode.escapedChar_append]
    show (stringRest bound cs >>= fun p => Except.ok (c :: p.1, p.2)) = _
    rw [h]
    rfl
  cases hc with
  | plain hquote hbackslash hcontrol =>
    rw [List.singleton_append, stringRest, if_neg hquote, if_neg hbackslash, if_neg (by omega), h]
    rfl
  | escape h' => exact hescape _ (.escape h')
  | code h' => exact hescape _ (.code h')
  | pair hfirst hsecond hhigh hlow hc' => exact hescape _ (.pair hfirst hsecond hhigh hlow hc')

theorem SpellsChar.ne_nil {piece : List Char} {c : Char} (h : SpellsChar piece c) : piece ≠ [] := by
  cases h <;> exact List.cons_ne_nil _ _

theorem SpellsChars.stringRest_append {body s : List Char} (h : SpellsChars body s) {bound : Nat}
    (hbound : body.length < bound) (rest : List Char) :
    stringRest bound (body ++ '"' :: rest) = .ok (s, rest) := by
  obtain ⟨pieces, hpieces, rfl⟩ := h
  induction hpieces generalizing bound with
  | nil =>
    obtain ⟨bound, rfl⟩ := Nat.exists_eq_succ_of_ne_zero (Nat.ne_zero_of_lt hbound)
    rfl
  | @cons piece c pieces s hc hpieces ih =>
    obtain ⟨bound, rfl⟩ := Nat.exists_eq_succ_of_ne_zero (Nat.ne_zero_of_lt hbound)
    have hpos := List.length_pos_iff.2 hc.ne_nil
    rw [List.flatten_cons, List.length_append] at hbound
    rw [List.flatten_cons, List.append_assoc]
    exact hc.stringRest_append (ih (by omega))

theorem string_eq_ok_iff {cs rest : List Char} {s : String} :
    string cs = .ok (s, rest) ↔ ∃ body, SpellsChars body s.toList ∧ cs = body ++ '"' :: rest := by
  unfold string
  rw [map_eq_ok_iff]
  constructor
  · rintro ⟨⟨s', rest'⟩, hread, heq⟩
    obtain ⟨rfl, rfl⟩ := Prod.mk.inj heq
    obtain ⟨body, hbody, rfl⟩ := SpellsChars.of_stringRest hread
    exact ⟨body, by rwa [String.toList_ofList], rfl⟩
  · rintro ⟨body, hbody, rfl⟩
    refine ⟨(s.toList, rest), hbody.stringRest_append ?_ rest, ?_⟩
    · rw [List.length_append]
      omega
    · exact congrArg (·, rest) String.ofList_toList

/-! ## Digits -/

theorem digit?_eq_some_iff {c : Char} {d : Digit} : digit? c = some d ↔ c = digitChar d := by
  have hchars : ∀ d, digit? (digitChar d) = some d := by decide
  constructor
  · intro h
    unfold digit? at h
    split_ifs at h with hdigit
    obtain rfl := Option.some.inj h
    have hcode : 48 + (c.toNat - 48) = c.toNat := by omega
    show c = Char.ofNat (48 + (c.toNat - 48))
    rw [hcode, Char.ofNat_toNat]
  · rintro rfl
    exact hchars d

/-- A text that does not go on with a digit. -/
def StopsDigits (cs : List Char) : Prop := ∀ c ∈ cs.head?, digit? c = none

theorem stopsDigits_cons {c : Char} (h : digit? c = none) (cs : List Char) :
    StopsDigits (c :: cs) := by
  intro e he
  cases he
  exact h

theorem leadingDigits_append {rest : List Char} (h : StopsDigits rest) (ds : List Digit) :
    leadingDigits (ds.map digitChar ++ rest) = (ds, rest) := by
  induction ds with
  | nil =>
    cases rest with
    | nil => rfl
    | cons c rest =>
      have hc : digit? c = none := h c rfl
      rw [List.map_nil, List.nil_append, leadingDigits, hc]
  | cons d ds ih =>
    have hd : digit? (digitChar d) = some d := digit?_eq_some_iff.2 rfl
    rw [List.map_cons, List.cons_append, leadingDigits, hd]
    simp only [ih]

theorem leadingDigits_spec (cs : List Char) :
    cs = (leadingDigits cs).1.map digitChar ++ (leadingDigits cs).2 ∧
      StopsDigits (leadingDigits cs).2 := by
  induction cs with
  | nil => exact ⟨rfl, fun c hc => by cases hc⟩
  | cons c cs ih =>
    rw [leadingDigits]
    cases hc : digit? c with
    | none => exact ⟨rfl, stopsDigits_cons hc cs⟩
    | some d =>
      refine ⟨?_, ih.2⟩
      rw [List.map_cons, List.cons_append, ← ih.1, ← digit?_eq_some_iff.1 hc]

/-- Digits are read as far as they go, and at least one of them. -/
theorem someDigits_eq_ok_iff {cs rest : List Char} {ds : List Digit} :
    someDigits cs = .ok (ds, rest) ↔
      ds ≠ [] ∧ cs = ds.map digitChar ++ rest ∧ StopsDigits rest := by
  constructor
  · intro h
    obtain ⟨htext, hstops⟩ := leadingDigits_spec cs
    unfold someDigits at h
    split at h
    · cases h
    · rename_i ds' rest' hne heq
      obtain ⟨rfl, rfl⟩ := Prod.mk.inj (Except.ok.inj h)
      rw [heq] at htext hstops
      exact ⟨hne, htext, hstops⟩
  · rintro ⟨hne, rfl, hstops⟩
    obtain ⟨d, ds, rfl⟩ := List.exists_cons_of_ne_nil hne
    rw [someDigits, leadingDigits_append hstops]

theorem wholeDigits_eq_ok_iff {cs rest : List Char} {ds : List Digit} :
    wholeDigits cs = .ok (ds, rest) ↔
      WholeDigits ds ∧ cs = ds.map digitChar ++ rest ∧ StopsDigits rest := by
  have hwhole : wholeDigits cs = .ok (ds, rest) ↔
      someDigits cs = .ok (ds, rest) ∧ ∀ tail, ds = 0 :: tail → tail = [] := by
    unfold wholeDigits
    split
    · rename_i d tail rest' heq
      refine ⟨(by cases ·), fun h => ?_⟩
      obtain ⟨rfl, rfl⟩ := Prod.mk.inj (Except.ok.inj (heq.symm.trans h.1))
      cases h.2 (d :: tail) rfl
    · rename_i hzero
      refine ⟨fun h => ⟨h, fun tail hds => ?_⟩, fun h => h.1⟩
      cases tail with
      | nil => rfl
      | cons d tail => exact absurd (hds ▸ h) (hzero d tail rest)
  rw [hwhole, someDigits_eq_ok_iff, WholeDigits]
  tauto

/-! ## Numbers -/

/-- A text that does not go on with a part of a number. -/
def StopsNumber (cs : List Char) : Prop :=
  ∀ c ∈ cs.head?, digit? c = none ∧ c ≠ '.' ∧ c ≠ 'e' ∧ c ≠ 'E'

theorem StopsNumber.stopsDigits {cs : List Char} (h : StopsNumber cs) : StopsDigits cs :=
  fun c hc => (h c hc).1

theorem SpellsFraction.of_fractionDigits {cs rest : List Char} {ds : List Digit}
    (h : fractionDigits cs = .ok (ds, rest)) :
    ∃ text, SpellsFraction text ds ∧ cs = text ++ rest := by
  unfold fractionDigits at h
  split at h
  · obtain ⟨hne, rfl, -⟩ := someDigits_eq_ok_iff.1 h
    exact ⟨_, .digits hne, rfl⟩
  · obtain ⟨rfl, rfl⟩ := Prod.mk.inj (Except.ok.inj h)
    exact ⟨[], .none, rfl⟩

/-- The fraction is read where neither a digit nor another point follows. -/
theorem SpellsFraction.fractionDigits_append {text rest : List Char} {ds : List Digit}
    (h : SpellsFraction text ds) (hstops : StopsDigits rest) (hpoint : '.' ∉ rest.head?) :
    fractionDigits (text ++ rest) = .ok (ds, rest) := by
  cases h with
  | none =>
    rw [List.nil_append]
    unfold fractionDigits
    split
    · exact absurd rfl hpoint
    · rfl
  | digits hne => exact someDigits_eq_ok_iff.2 ⟨hne, rfl, hstops⟩

theorem exponentSign_spec (cs : List Char) :
    ∃ sign, (sign, (exponentSign cs).1) ∈ exponentSigns ∧ cs = sign ++ (exponentSign cs).2 := by
  unfold exponentSign
  split
  · exact ⟨['-'], by simp [exponentSigns], rfl⟩
  · exact ⟨['+'], by simp [exponentSigns], rfl⟩
  · exact ⟨[], by simp [exponentSigns], rfl⟩

theorem digitChar_ne_sign : ∀ d, digitChar d ≠ '-' ∧ digitChar d ≠ '+' := by decide

/-- The sign of an exponent is read before its first digit. -/
theorem exponentSign_append {sign : List Char} {negative : Bool}
    (h : (sign, negative) ∈ exponentSigns) (d : Digit) (cs : List Char) :
    exponentSign (sign ++ digitChar d :: cs) = (negative, digitChar d :: cs) := by
  simp only [exponentSigns, List.mem_cons, Prod.mk.injEq, List.not_mem_nil, or_false] at h
  rcases h with ⟨rfl, rfl⟩ | ⟨rfl, rfl⟩ | ⟨rfl, rfl⟩
  · rw [List.nil_append]
    unfold exponentSign
    split
    · rename_i heq
      exact absurd (List.cons_eq_cons.1 heq).1 (digitChar_ne_sign d).1
    · rename_i heq
      exact absurd (List.cons_eq_cons.1 heq).1 (digitChar_ne_sign d).2
    · rfl
  · rfl
  · rfl

theorem SpellsExponent.of_exponentPart {cs rest : List Char} {negative : Bool} {ds : List Digit}
    (h : exponentPart cs = .ok ((negative, ds), rest)) :
    ∃ text, SpellsExponent text (negative, ds) ∧ cs = text ++ rest := by
  unfold exponentPart at h
  split at h
  · cases h
    exact ⟨[], .none, rfl⟩
  · rename_i e cs
    split_ifs at h with he
    · obtain ⟨sign, hmem, hcs⟩ := exponentSign_spec cs
      generalize exponentSign cs = p at h hmem hcs
      obtain ⟨⟨ds', rest'⟩, hdigits, heq⟩ := map_eq_ok_iff.1 h
      obtain ⟨hne, htext, -⟩ := someDigits_eq_ok_iff.1 hdigits
      cases heq
      refine ⟨_, .power he hmem hne, ?_⟩
      rw [List.cons_append, List.append_assoc, ← htext, ← hcs]
    · cases h
      exact ⟨[], .none, rfl⟩

/-- The exponent is read where nothing follows that belongs to a number. -/
theorem SpellsExponent.exponentPart_append {text rest : List Char} {p : Bool × List Digit}
    (h : SpellsExponent text p) (hstops : StopsNumber rest) :
    exponentPart (text ++ rest) = .ok (p, rest) := by
  cases h with
  | none =>
    cases rest with
    | nil => rfl
    | cons c rest =>
      have hc := hstops c rfl
      rw [List.nil_append, exponentPart, if_neg (by tauto)]
  | @power e sign negative ds he hsign hne =>
    obtain ⟨d, ds, rfl⟩ := List.exists_cons_of_ne_nil hne
    have hread : exponentSign (sign ++ ((d :: ds).map digitChar ++ rest)) =
        (negative, (d :: ds).map digitChar ++ rest) := exponentSign_append hsign d _
    have hdigits : someDigits ((d :: ds).map digitChar ++ rest) = .ok (d :: ds, rest) :=
      someDigits_eq_ok_iff.2 ⟨hne, rfl, hstops.stopsDigits⟩
    rw [List.cons_append, List.append_assoc, exponentPart, if_pos he, hread]
    dsimp only
    rw [hdigits]
    rfl

/-- What is left after the fraction goes on with nothing that belongs before the point. -/
theorem SpellsExponent.stops {text rest : List Char} {p : Bool × List Digit}
    (h : SpellsExponent text p) (hstops : StopsNumber rest) :
    StopsDigits (text ++ rest) ∧ '.' ∉ (text ++ rest).head? := by
  cases h with
  | none => exact ⟨hstops.stopsDigits, fun hpoint => (hstops '.' hpoint).2.1 rfl⟩
  | power he hsign hne =>
    rcases he with rfl | rfl
    · exact ⟨stopsDigits_cons rfl _, by simp⟩
    · exact ⟨stopsDigits_cons rfl _, by simp⟩

theorem SpellsFraction.stops {text rest : List Char} {ds : List Digit}
    (h : SpellsFraction text ds) (hstops : StopsDigits rest) : StopsDigits (text ++ rest) := by
  cases h with
  | none => exact hstops
  | digits hne => exact stopsDigits_cons rfl _

theorem minusSign_append {ds : List Digit} (hne : ds ≠ []) (negative : Bool) (cs : List Char) :
    minusSign ((if negative then ['-'] else []) ++ (ds.map digitChar ++ cs)) =
      (negative, ds.map digitChar ++ cs) := by
  obtain ⟨d, ds, rfl⟩ := List.exists_cons_of_ne_nil hne
  cases negative with
  | true => rfl
  | false =>
    show minusSign (digitChar d :: (ds.map digitChar ++ cs)) = _
    unfold minusSign
    split
    · rename_i heq
      exact absurd (List.cons_eq_cons.1 heq).1 (digitChar_ne_sign d).1
    · rfl

theorem minusSign_spec (cs : List Char) :
    cs = (if (minusSign cs).1 then ['-'] else []) ++ (minusSign cs).2 := by
  unfold minusSign
  split <;> rfl

theorem SpellsNumber.of_number {cs rest : List Char} {n : Number}
    (h : number cs = .ok (n, rest)) :
    ∃ text, SpellsNumber text n ∧ n.inRange = true ∧ cs = text ++ rest := by
  have hsign := minusSign_spec cs
  unfold number at h
  generalize minusSign cs = p at h hsign
  obtain ⟨⟨whole, afterWhole⟩, hwhole, h⟩ := bind_eq_ok_iff.1 h
  obtain ⟨⟨fraction, afterFraction⟩, hfraction, h⟩ := bind_eq_ok_iff.1 h
  obtain ⟨⟨⟨exponentNegative, exponent⟩, after⟩, hexponent, h⟩ := bind_eq_ok_iff.1 h
  dsimp only at h
  split_ifs at h with hrange
  cases h
  obtain ⟨hdigits, hwholeText, -⟩ := wholeDigits_eq_ok_iff.1 hwhole
  obtain ⟨fractionText, hfractionText, rfl⟩ := SpellsFraction.of_fractionDigits hfraction
  obtain ⟨exponentText, hexponentText, rfl⟩ := SpellsExponent.of_exponentPart hexponent
  refine ⟨_, ⟨fractionText, exponentText, hdigits, hfractionText, hexponentText, rfl⟩, hrange, ?_⟩
  rw [hsign, hwholeText]
  simp only [List.append_assoc]

/-- A number in range is read from its text, where nothing follows that belongs to a number. -/
theorem SpellsNumber.number_append {text rest : List Char} {n : Number} (h : SpellsNumber text n)
    (hrange : n.inRange = true) (hstops : StopsNumber rest) :
    number (text ++ rest) = .ok (n, rest) := by
  obtain ⟨fraction, exponent, hwhole, hfraction, hexponent, rfl⟩ := h
  obtain ⟨hdigits, hpoint⟩ := hexponent.stops hstops
  have hreadWhole : wholeDigits (n.whole.map digitChar ++ (fraction ++ (exponent ++ rest))) =
      .ok (n.whole, fraction ++ (exponent ++ rest)) :=
    wholeDigits_eq_ok_iff.2 ⟨hwhole, rfl, hfraction.stops hdigits⟩
  have hreadFraction := hfraction.fractionDigits_append hdigits hpoint
  have hreadExponent := hexponent.exponentPart_append hstops
  unfold number
  simp only [List.append_assoc, minusSign_append hwhole.1, hreadWhole, hreadFraction,
    hreadExponent, bind, Except.bind]
  exact if_pos hrange

end SeedScript.Json
