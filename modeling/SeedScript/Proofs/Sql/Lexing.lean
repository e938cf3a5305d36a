import SeedScript.Proofs.Sql.Grammar

/-!
# The words of written inserts

What a text is cut into depends on what follows it: a name goes on with the characters after it, and
a quote after a literal is part of the literal. `Lexes` says that a text is cut into some words
wherever a condition holds of what follows, and that the rest is then cut on its own. Names and
literals are cut so where no such character follows, signs and blanks before anything. Texts that
are put together are cut into the words of their parts, and so the inserts of a script into theirs
(`tokens_script`).
-/

namespace SeedScript.Sql

/-- Nothing that follows would go on with a name or a literal. -/
def Ends (rest : List Char) : Prop := ∀ c ∈ rest.head?, isNameChar c = false ∧ c ≠ '\''

/-- What follows may be anything. -/
def Anything (_ : List Char) : Prop := True

/-- Where `P` holds of what follows, the text is cut into the words, and what follows on its own. -/
def Lexes (P : List Char → Prop) (text : String) (ts : List Token) : Prop :=
  ∀ rest, P rest → ∀ bound, (text.toList ++ rest).length ≤ bound →
    ∃ left, rest.length ≤ left ∧
      tokensFrom bound (text.toList ++ rest) = (tokensFrom left rest).map (ts ++ ·)

/-- The text begins with a character that ends what stands before it. -/
def EndsBefore (text : String) : Prop :=
  ∃ c ∈ text.toList.head?, isNameChar c = false ∧ c ≠ '\''

instance (text : String) : Decidable (EndsBefore text) :=
  Option.decidableExistsMem text.toList.head?

theorem EndsBefore.ends {text : String} (h : EndsBefore text) (rest : List Char) :
    Ends (text.toList ++ rest) := by
  obtain ⟨c, hc, hends⟩ := h
  intro d hd
  rw [List.head?_append, hc, Option.some_or, Option.mem_some_iff] at hd
  exact hd ▸ hends

namespace Lexes

variable {P : List Char → Prop} {a b text : String} {ts us : List Token}

theorem weaken (h : Lexes Anything text ts) : Lexes P text ts := fun rest _ => h rest trivial

theorem append_of {Q : List Char → Prop} (ha : Lexes Q a ts) (hb : Lexes P b us)
    (hfollows : ∀ rest, P rest → Q (b.toList ++ rest)) : Lexes P (a ++ b) (ts ++ us) := by
  intro rest hrest bound hbound
  rw [String.toList_append, List.append_assoc] at hbound ⊢
  obtain ⟨middle, hmiddle, hcut⟩ := ha _ (hfollows rest hrest) bound hbound
  obtain ⟨left, hleft, hcut'⟩ := hb rest hrest middle hmiddle
  refine ⟨left, hleft, ?_⟩
  rw [hcut, hcut', Option.map_map]
  congr 1
  funext more
  exact (List.append_assoc ts us more).symm

/-- After a text before which anything may stand, another text. -/
theorem append (ha : Lexes Anything a ts) (hb : Lexes P b us) : Lexes P (a ++ b) (ts ++ us) :=
  ha.append_of hb fun _ _ => trivial

/-- After a name or a literal, a text that ends it. -/
theorem append_apart (ha : Lexes Ends a ts) (hb : Lexes P b us) (hends : EndsBefore b) :
    Lexes P (a ++ b) (ts ++ us) :=
  ha.append_of hb fun rest _ => hends.ends rest

theorem nil : Lexes P "" [] := by
  intro rest _ bound hbound
  exact ⟨bound, hbound, by simp⟩

theorem tokens_eq (h : Lexes Ends text ts) : tokens text = some ts := by
  obtain ⟨left, -, hcut⟩ := h [] (fun c hc => by cases hc) text.toList.length (by simp)
  rw [List.append_nil] at hcut
  cases left <;> simpa [tokens, tokensFrom] using hcut

end Lexes

/-! ## Single words -/

theorem isSpace_of_isNameStart {c : Char} (h : isNameStart c = true) : isSpace c = false := by
  by_contra hspace
  simp only [Bool.not_eq_false, isSpace, Bool.or_eq_true, beq_iff_eq] at hspace
  rcases hspace with ((rfl | rfl) | rfl) | rfl <;> exact absurd h (by decide)

theorem isDigit_of_isNameStart {c : Char} (h : isNameStart c = true) : c.isDigit = false := by
  by_contra hdigit
  rw [Bool.not_eq_false] at hdigit
  have hnine : c.toNat ≤ 57 := (Char.isDigit_iff_toNat.1 hdigit).2
  have hupper (h : c.isUpper = true) : 65 ≤ c.toNat :=
    UInt32.le_iff_toNat_le.1 (of_decide_eq_true h).1
  have hlower (h : c.isLower = true) : 97 ≤ c.toNat :=
    UInt32.le_iff_toNat_le.1 (of_decide_eq_true (Bool.and_eq_true_iff.1 h).1)
  simp only [isNameStart, Bool.or_eq_true, beq_iff_eq, decide_eq_true_eq] at h
  rcases h with (h | rfl) | h
  · rcases Bool.or_eq_true_iff.1 h with h | h
    · have := hupper h
      omega
    · have := hlower h
      omega
  · exact absurd hdigit (by decide)
  · omega

/-- A name is cut off before a character that does not go on with it. -/
theorem span_isNameChar {cs rest : List Char} (hcs : ∀ c ∈ cs, isNameChar c = true)
    (hrest : Ends rest) :
    (cs ++ rest).takeWhile isNameChar = cs ∧ (cs ++ rest).dropWhile isNameChar = rest := by
  rw [List.takeWhile_append_of_pos hcs, List.dropWhile_append_of_pos hcs]
  cases rest with
  | nil => simp
  | cons c rest => simp [(hrest c rfl).1]

theorem lexes_name {text : String} (h : IsBareName text) : Lexes Ends text [.word text] := by
  obtain ⟨⟨c, hc, hstart⟩, hall⟩ := h
  obtain ⟨cs, hcs⟩ : ∃ cs, text.toList = c :: cs := ⟨_, List.eq_cons_of_mem_head? hc⟩
  intro rest hrest bound hbound
  rw [hcs] at hall hbound ⊢
  cases bound with
  | zero => simp at hbound
  | succ bound =>
    obtain ⟨htake, hdrop⟩ := span_isNameChar (fun d hd => hall d (List.mem_cons_of_mem c hd)) hrest
    refine ⟨bound, ?_, ?_⟩
    · simp only [List.length_append, List.length_cons] at hbound
      omega
    · rw [List.cons_append, tokensFrom, isSpace_of_isNameStart hstart, hstart, htake, hdrop, ← hcs,
        String.ofList_toList]
      · rfl
      · -- the case of a cast: a name does not begin with a colon
        rintro _ rfl -
        exact absurd hstart (by decide)

theorem lexes_blank {text : String} {c : Char} (htext : text.toList = [c]) (h : isSpace c = true) :
    Lexes Anything text [] := by
  intro rest _ bound hbound
  rw [htext] at hbound ⊢
  cases bound with
  | zero => simp at hbound
  | succ bound =>
    refine ⟨bound, by simpa using hbound, ?_⟩
    rw [List.singleton_append, tokensFrom, h, if_pos rfl]
    · exact (congrFun Option.map_id _).symm
    · rintro _ rfl -
      exact absurd h (by decide)

/-- A sign is a word, unless it begins a number. -/
theorem lexes_sign {text : String} {c : Char} {P : List Char → Prop} (htext : text.toList = [c])
    (h : isSign c = true) (hnumber : ∀ rest, P rest → beginsNumber (c :: rest) = false) :
    Lexes P text [.sign c] := by
  intro rest hrest bound hbound
  rw [htext] at hbound ⊢
  cases bound with
  | zero => simp at hbound
  | succ bound =>
    refine ⟨bound, by simpa using hbound, ?_⟩
    have hsigns : c ∈ ['.', ',', '(', ')', ';', '=', '+', '-'] := List.contains_iff_mem.1 h
    have hother : isSpace c = false ∧ isNameStart c = false ∧ c ≠ '\'' ∧ c ≠ '"' := by
      revert hsigns
      simp only [List.mem_cons, List.not_mem_nil, or_false]
      rintro (rfl | rfl | rfl | rfl | rfl | rfl | rfl | rfl) <;> decide
    obtain ⟨hspace, hstart, hquote, hdouble⟩ := hother
    rw [List.singleton_append, tokensFrom, hspace, hstart, if_neg hquote, if_neg hdouble,
      hnumber rest hrest, h]
    · rfl
    · rintro _ rfl -
      exact absurd h (by decide)

/-- The contents of a literal are read up to the quote that closes it. -/
theorem untilQuote_doubleQuotes {rest : List Char} (hrest : Ends rest) (cs : List Char) :
    untilQuote '\'' (Literal.doubleQuotes cs ++ '\'' :: rest) = some (cs, rest) := by
  induction cs with
  | nil =>
    cases rest with
    | nil => rfl
    | cons d rest =>
      have hd : d ≠ '\'' := (hrest d rfl).2
      rw [Literal.doubleQuotes, List.nil_append, untilQuote, if_pos rfl, if_neg hd]
  | cons c cs ih =>
    rw [Literal.doubleQuotes]
    split
    · rename_i hc
      subst hc
      rw [List.cons_append, List.cons_append, untilQuote, if_pos rfl, if_pos rfl, ih]
      rfl
    · rename_i hc
      obtain ⟨d, ds, hds⟩ := List.exists_cons_of_ne_nil
        (List.append_ne_nil_of_right_ne_nil (Literal.doubleQuotes cs) (List.cons_ne_nil '\'' rest))
      rw [List.cons_append, hds, untilQuote, if_neg hc, ← hds, ih]
      rfl

theorem lexes_quote (value : String) : Lexes Ends (Literal.quote value) [.text value] := by
  intro rest hrest bound hbound
  rw [Literal.toList_quote, List.cons_append, List.cons_append, List.append_assoc,
    List.singleton_append] at hbound ⊢
  cases bound with
  | zero => simp at hbound
  | succ bound =>
    refine ⟨bound, ?_, ?_⟩
    · simp only [List.length_append, List.length_cons] at hbound
      omega
    · have hspace : isSpace '\'' = false := by decide
      have hstart : isNameStart '\'' = false := by decide
      rw [tokensFrom, hspace, hstart, if_pos rfl, untilQuote_doubleQuotes hrest]
      · simp only [Option.bind_eq_bind, Option.bind_some, String.ofList_toList]
        cases tokensFrom bound rest <;> rfl
      · rintro _ h
        cases h

/-! ## Words between blanks -/

theorem lexes_space : Lexes Anything " " [] := lexes_blank rfl rfl

theorem lexes_nameBlank {text : String} (h : IsBareName text) :
    Lexes Anything (text ++ " ") [.word text] := by
  have hall := (lexes_name h).append_apart lexes_space (by decide)
  exact hall

theorem lexes_blankName {text : String} (h : IsBareName text) :
    Lexes Anything (" " ++ (text ++ " ")) [.word text] := by
  have hall := lexes_space.append (lexes_nameBlank h)
  exact hall

theorem lexes_open : Lexes Anything "(" [.sign '('] := lexes_sign rfl rfl fun _ _ => rfl

theorem lexes_close : Lexes Anything ")" [.sign ')'] := lexes_sign rfl rfl fun _ _ => rfl

theorem lexes_semicolon : Lexes Anything ";" [.sign ';'] := lexes_sign rfl rfl fun _ _ => rfl

theorem lexes_comma : Lexes Anything ", " [.sign ','] := by
  have hsign : Lexes Anything "," [.sign ','] := lexes_sign rfl rfl fun _ _ => rfl
  have hall := hsign.append lexes_space
  exact hall

theorem lexes_equals : Lexes Anything " = " [.sign '='] := by
  have hsign : Lexes Anything "=" [.sign '='] := lexes_sign rfl rfl fun _ _ => rfl
  have hall := lexes_space.append (hsign.append lexes_space)
  exact hall

/-! ## Names of tables -/

/-- A point before a name begins no number. -/
theorem lexes_point {name : String} (h : IsBareName name) :
    Lexes Ends ("." ++ name) [.sign '.', .word name] := by
  have hpoint : Lexes (fun rest => beginsNumber ('.' :: rest) = false) "." [.sign '.'] :=
    lexes_sign rfl rfl fun _ hrest => hrest
  refine hpoint.append_of (lexes_name h) fun rest _ => ?_
  obtain ⟨⟨c, hc, hstart⟩, -⟩ := h
  rw [List.eq_cons_of_mem_head? hc]
  exact isDigit_of_isNameStart hstart

theorem TableName.lexes (n : TableName) : Lexes Ends n.text n.words := by
  obtain ⟨schema?, table⟩ := n
  cases schema? with
  | none => exact lexes_name table.isBareName
  | some schema =>
    rw [text, String.append_assoc]
    exact (lexes_name schema.isBareName).append_apart (lexes_point table.isBareName)
      ⟨'.', by simp, by decide⟩

/-! ## Lists -/

section Lists

variable {α : Type} {text : α → String} {words : α → List Token} {xs : List α}

theorem lexes_intercalate (h : ∀ x ∈ xs, Lexes Ends (text x) (words x)) :
    Lexes Ends (", ".intercalate (xs.map text)) (commas (xs.map words)) := by
  induction xs with
  | nil => exact .nil
  | cons x xs ih =>
    have hx := h x List.mem_cons_self
    have htail := ih fun y hy => h y (List.mem_cons_of_mem x hy)
    cases xs with
    | nil =>
      rw [List.map_singleton, List.map_singleton, String.intercalate_singleton, commas_singleton]
      exact hx
    | cons y xs =>
      have hall := (hx.append_apart lexes_comma (by decide)).append htail
      rw [List.append_assoc] at hall
      rw [List.map_cons, List.map_cons, List.map_cons, List.map_cons,
        String.intercalate_cons_cons, commas_cons_cons]
      exact hall

theorem lexes_tuple (h : ∀ x ∈ xs, Lexes Ends (text x) (words x)) :
    Lexes Anything (SqlStyle.tuple (xs.map text)) (parens (commas (xs.map words))) :=
  (lexes_open.append (lexes_intercalate h)).append_apart lexes_close (by decide)

end Lists

/-! ## Cells -/

theorem lexes_select : Lexes Anything "(SELECT " [.sign '(', .word "SELECT"] := by
  have hname : IsBareName "SELECT" := by decide
  have hall := lexes_open.append (lexes_nameBlank hname)
  exact hall

theorem lexes_from : Lexes Anything " FROM " [.word "FROM"] := by
  have hname : IsBareName "FROM" := by decide
  have hall := lexes_blankName hname
  exact hall

theorem lexes_where : Lexes Anything " WHERE " [.word "WHERE"] := by
  have hname : IsBareName "WHERE" := by decide
  have hall := lexes_blankName hname
  exact hall

theorem Operand.lexes (o : Operand) : Lexes Ends o.sql o.words := by
  cases o with
  | null => exact lexes_name (by decide)
  | text value => exact lexes_quote value
  | column c t =>
    have hcolumn := lexes_select.append (lexes_name c.isBareName)
    have htable := (hcolumn.append_apart lexes_from (by decide)).append t.lexes
    have hall := htable.append_apart lexes_close (by decide)
    exact hall.weaken
  | lookup c t s value =>
    have hcolumn := lexes_select.append (lexes_name c.isBareName)
    have htable := (hcolumn.append_apart lexes_from (by decide)).append t.lexes
    have hsearch := (htable.append_apart lexes_where (by decide)).append (lexes_name s.isBareName)
    have hvalue := (hsearch.append_apart lexes_equals (by decide)).append (lexes_quote value)
    have hall := hvalue.append_apart lexes_close (by decide)
    simp only [List.append_assoc, List.cons_append, List.nil_append] at hall
    simp only [words, parens, List.append_assoc, List.cons_append, List.nil_append]
    exact hall.weaken

/-! ## Inserts -/

theorem lexes_insertInto : Lexes Anything "INSERT INTO " [.word "INSERT", .word "INTO"] := by
  have hinsert : IsBareName "INSERT" := by decide
  have hinto : IsBareName "INTO" := by decide
  have hall := (lexes_nameBlank hinsert).append (lexes_nameBlank hinto)
  exact hall

theorem lexes_values : Lexes Anything " VALUES " [.word "VALUES"] := by
  have hname : IsBareName "VALUES" := by decide
  have hall := lexes_blankName hname
  exact hall

theorem Insertion.lexes (i : Insertion) : Lexes Anything i.sql (i.words ++ [Token.sign ';']) := by
  have hcolumns := lexes_tuple fun c (_ : c ∈ i.columns) => lexes_name c.isBareName
  have htuples : Lexes Ends
      (", ".intercalate (i.tuples.map (SqlStyle.tuple ∘ List.map Operand.sql)))
      (commas (i.tuples.map tupleWords)) :=
    lexes_intercalate fun tuple _ => (lexes_tuple fun o _ => o.lexes).weaken
  have htable := (lexes_insertInto.append i.table.lexes).append_apart lexes_space (by decide)
  have hnames := (htable.append hcolumns).append lexes_values
  have hall := (hnames.append htuples).append_apart lexes_semicolon (by decide)
  rw [← List.map_map, List.append_nil] at hall
  exact hall

theorem lexes_script (is : List Insertion) :
    Lexes Ends ("\n".intercalate (is.map Insertion.sql))
      (is.flatMap fun i => i.words ++ [Token.sign ';']) := by
  induction is with
  | nil => exact .nil
  | cons i is ih =>
    cases is with
    | nil => simpa using i.lexes.weaken
    | cons j is =>
      have hbreak : Lexes Anything "\n" [] := lexes_blank rfl rfl
      rw [List.map_cons, List.map_cons, String.intercalate_cons_cons, List.flatMap_cons]
      simpa using (i.lexes.append hbreak).append ih

/-- A script consists of the words of its inserts, each with a semicolon after it. -/
theorem tokens_script (is : List Insertion) :
    tokens ("\n".intercalate (is.map Insertion.sql)) =
      some (is.flatMap fun i => i.words ++ [Token.sign ';']) :=
  (lexes_script is).tokens_eq

end SeedScript.Sql
