import SeedScript.Proofs.Sql.Lexing

/-!
# Written inserts are parsed

A phrase accepts some words when, before anything that does not go on with a name, a call or a cast,
it consumes exactly these words. Cells are accepted as expressions, lists by the parsers of lists,
and so the words of an insert are one statement, which names its table
(`Insertion.statement_words`). Literals are words of their own, so no semicolon inside one ends a
statement, and a script is parsed into one query for each insert (`parse?_script`).
-/

namespace SeedScript.Sql

/-- What follows goes on with no name, call or cast. -/
def Follows (rest : List Token) : Prop :=
  ∀ t ∈ rest.head?, t ≠ .cast ∧ t ≠ .sign '.' ∧ t ≠ .sign '('

/-- The phrase consumes exactly these words. -/
def Accepts (p : Phrase) (ts : List Token) : Prop :=
  ∀ rest, Follows rest → p (ts ++ rest) = some rest

variable {t : Token} {ts rest : List Token} {tss : List (List Token)} {p : Phrase}

theorem follows_cons (h : t ≠ .cast ∧ t ≠ .sign '.' ∧ t ≠ .sign '(') : Follows (t :: rest) := by
  rintro _ ⟨⟩
  exact h

/-! ## Words -/

theorem keyword_word {k s : String} (h : s.map Char.toLower = k) (rest : List Token) :
    keyword k (.word s :: rest) = some rest := if_pos h

theorem sign_sign (c : Char) (rest : List Token) : sign c (.sign c :: rest) = some rest :=
  if_pos rfl

theorem casts_of_follows (h : Follows rest) : casts rest = rest := by
  unfold casts
  split
  · exact absurd rfl (h .cast rfl).1
  · rfl

theorem nameParts_of_head? (h : rest.head? ≠ some (.sign '.')) : nameParts rest = ([], rest) := by
  unfold nameParts
  split
  · exact absurd rfl h
  · rfl

theorem name_words (n : TableName) (h : rest.head? ≠ some (.sign '.')) :
    name (n.words ++ rest) = some (n.text, rest) := by
  obtain ⟨schema?, table⟩ := n
  cases schema? with
  | none =>
    show some (".".intercalate (table.text :: (nameParts rest).1), (nameParts rest).2) = _
    rw [nameParts_of_head? h]
    rfl
  | some schema =>
    show some (".".intercalate (schema.text :: table.text :: (nameParts rest).1),
      (nameParts rest).2) = _
    rw [nameParts_of_head? h, String.intercalate_cons_cons]
    rfl

/-! ## Lists -/

theorem length_le_length_commas (h : ∀ ts ∈ tss, ts ≠ []) : tss.length ≤ (commas tss).length := by
  induction tss with
  | nil => exact Nat.zero_le _
  | cons ts tss ih =>
    have hpos := List.length_pos_iff.2 (h ts List.mem_cons_self)
    have htail := ih fun us hus => h us (List.mem_cons_of_mem ts hus)
    cases tss with
    | nil =>
      rw [commas_singleton]
      exact hpos
    | cons us tss =>
      rw [commas_cons_cons]
      simp only [List.length_append, List.length_cons] at htail ⊢
      omega

theorem commaSeparated_commas (hne : tss ≠ []) (h : ∀ ts ∈ tss, Accepts p ts)
    (hrest : Follows rest) (hcomma : rest.head? ≠ some (.sign ',')) {bound : Nat}
    (hbound : tss.length ≤ bound) : commaSeparated p bound (commas tss ++ rest) = some rest := by
  induction tss generalizing bound with
  | nil => exact absurd rfl hne
  | cons ts tss ih =>
    obtain ⟨bound, rfl⟩ := Nat.exists_eq_add_one.2 (Nat.lt_of_lt_of_le (Nat.succ_pos _) hbound)
    have hts := h ts List.mem_cons_self
    cases tss with
    | nil =>
      rw [commas_singleton, commaSeparated, hts rest hrest]
      split
      · rename_i heq
        cases heq
        exact absurd rfl hcomma
      · rfl
    | cons us tss =>
      have htail := ih (List.cons_ne_nil us tss) (fun vs hvs => h vs (List.mem_cons_of_mem ts hvs))
        (Nat.le_of_succ_le_succ hbound)
      -- the comma after the first phrase ends it, and asks for the next one
      have hcomma : Follows (.sign ',' :: (commas (us :: tss) ++ rest)) := follows_cons (by decide)
      rw [commas_cons_cons, List.append_assoc, List.cons_append, commaSeparated, hts _ hcomma]
      exact htail

theorem parenthesised_parens (hne : tss ≠ []) (h : ∀ ts ∈ tss, ts ≠ [] ∧ Accepts p ts)
    (rest : List Token) : parenthesised p (parens (commas tss) ++ rest) = some rest := by
  have hlength := length_le_length_commas fun ts hts => (h ts hts).1
  have hitems : commaSeparated p (commas tss ++ .sign ')' :: rest).length
      (commas tss ++ .sign ')' :: rest) = some (.sign ')' :: rest) := by
    refine commaSeparated_commas hne (fun ts hts => (h ts hts).2) (follows_cons (by decide))
      (by simp) ?_
    rw [List.length_append]
    omega
  rw [parens_append, parenthesised]
  simp only [Option.bind_eq_bind, hitems, sign_sign, Option.bind_some]

/-! ## Cells -/

theorem accepts_text (depth : Nat) (value : String) :
    Accepts (expression (depth + 1)) [.text value] := by
  intro rest hrest
  show some (casts rest) = some rest
  rw [casts_of_follows hrest]

theorem accepts_word (depth : Nat) (s : String) : Accepts (expression (depth + 1)) [.word s] := by
  intro rest hrest
  have hname : name (.word s :: rest) = some (s, rest) := by
    show some (".".intercalate (s :: (nameParts rest).1), (nameParts rest).2) = _
    rw [nameParts_of_head? fun hhead => (hrest _ hhead).2.1 rfl]
    rfl
  rw [List.singleton_append, expression, hname]
  · simp only [Option.bind_eq_bind, Option.bind_some]
    split
    · exact absurd rfl (hrest _ rfl).2.2
    · rw [casts_of_follows hrest]
      rfl
  -- the forms of an expression that do not begin with a word
  all_goals simp

section Selections

variable {cs ss vs : List Token}

/-- A column of every row of a table. -/
theorem selection_table (hcs : Accepts p cs) (n : TableName) (hrest : Follows rest)
    (hwhere : keyword "where" rest = none) :
    selection p (cs ++ .word "FROM" :: (n.words ++ rest)) = some rest := by
  have hcolumn := hcs (.word "FROM" :: (n.words ++ rest)) (follows_cons (by decide))
  have hfrom := keyword_word (k := "from") (s := "FROM") (by decide +kernel) (n.words ++ rest)
  have htable := name_words n fun hhead => (hrest _ hhead).2.1 rfl
  simp only [selection, hcolumn, Option.bind_eq_bind, Option.bind_some, hfrom, htable, hwhere]
  rfl

/-- A column of the rows of a table for which a comparison holds. -/
theorem selection_where (hcs : Accepts p cs) (n : TableName) (hss : Accepts p ss)
    (hvs : Accepts p vs) (hrest : Follows rest) :
    selection p (cs ++ .word "FROM" :: (n.words ++
      .word "WHERE" :: (ss ++ .sign '=' :: (vs ++ rest)))) = some rest := by
  have hcolumn := hcs (.word "FROM" :: (n.words ++ .word "WHERE" :: (ss ++ .sign '=' ::
    (vs ++ rest)))) (follows_cons (by decide))
  have hfrom := keyword_word (k := "from") (s := "FROM") (by decide +kernel)
    (n.words ++ .word "WHERE" :: (ss ++ .sign '=' :: (vs ++ rest)))
  have htable : name (n.words ++ .word "WHERE" :: (ss ++ .sign '=' :: (vs ++ rest))) =
      some (n.text, .word "WHERE" :: (ss ++ .sign '=' :: (vs ++ rest))) :=
    name_words n (by simp)
  have hwhere := keyword_word (k := "where") (s := "WHERE") (by decide +kernel)
    (ss ++ .sign '=' :: (vs ++ rest))
  have hsearch := hss (.sign '=' :: (vs ++ rest)) (follows_cons (by decide))
  simp only [selection, hcolumn, Option.bind_eq_bind, Option.bind_some, hfrom, htable, hwhere,
    hsearch, sign_sign, hvs rest hrest]

end Selections

theorem accepts_subquery {depth : Nat} (h : ∀ rest,
      selection (expression depth) (ts ++ .sign ')' :: rest) = some (.sign ')' :: rest)) :
    Accepts (expression (depth + 1)) (parens (.word "SELECT" :: ts)) := by
  intro rest hrest
  have hselect := keyword_word (k := "select") (s := "SELECT") (by decide +kernel)
    (ts ++ .sign ')' :: rest)
  rw [parens_append, List.cons_append, expression]
  simp only [Option.bind_eq_bind, hselect, h, sign_sign, Option.bind_some, casts_of_follows hrest]
  rfl

/-- A subquery is nested in a cell and nothing is nested in it. -/
theorem accepts_operand (depth : Nat) (o : Operand) :
    Accepts (expression (depth + 2)) o.words := by
  cases o with
  | null => exact accepts_word _ _
  | text value => exact accepts_text _ value
  | column c t =>
    refine accepts_subquery fun rest => ?_
    have hclose : Follows (.sign ')' :: rest) := follows_cons (by decide)
    exact selection_table (accepts_word depth c.text) t hclose rfl
  | lookup c t s value =>
    refine accepts_subquery fun rest => ?_
    have hclose : Follows (.sign ')' :: rest) := follows_cons (by decide)
    have hselection := selection_where (accepts_word depth c.text) t (accepts_word depth s.text)
      (accepts_text depth value) hclose
    simpa using hselection

/-! ## Inserts -/

theorem Operand.words_ne_nil (o : Operand) : o.words ≠ [] := by
  cases o <;> exact List.cons_ne_nil _ _

theorem accepts_tuple (depth : Nat) {tuple : List Operand} (hne : tuple ≠ []) :
    Accepts (parenthesised (expression (depth + 2))) (Insertion.tupleWords tuple) := by
  intro rest _
  refine parenthesised_parens (by simpa using hne) (fun ts hts => ?_) rest
  obtain ⟨o, -, rfl⟩ := List.mem_map.1 hts
  exact ⟨o.words_ne_nil, accepts_operand depth o⟩

theorem accepts_identifier (s : String) : Accepts identifier [.word s] := fun _ _ => rfl

namespace Insertion

theorem words_eq_cons (i : Insertion) :
    i.words = .word "INSERT" :: .word "INTO" :: (i.table.words ++
      (parens (commas (i.columns.map fun c => [.word c.text])) ++
        .word "VALUES" :: commas (i.tuples.map tupleWords))) := by
  simp [words]

theorem parenthesised_columns (i : Insertion) (rest : List Token) :
    parenthesised identifier (parens (commas (i.columns.map fun c => [.word c.text])) ++ rest) =
      some rest := by
  refine parenthesised_parens (by simpa using i.columns_ne_nil) (fun ts hts => ?_) rest
  obtain ⟨c, -, rfl⟩ := List.mem_map.1 hts
  exact ⟨List.cons_ne_nil _ _, accepts_identifier c.text⟩

theorem commaSeparated_tuples (i : Insertion) (depth : Nat) :
    commaSeparated (parenthesised (expression (depth + 2)))
      (commas (i.tuples.map tupleWords)).length (commas (i.tuples.map tupleWords)) = some [] := by
  have hnil : Follows [] := by
    rintro _ ⟨⟩
  have hlength : (i.tuples.map tupleWords).length ≤ (commas (i.tuples.map tupleWords)).length := by
    refine length_le_length_commas fun ts hts => ?_
    obtain ⟨tuple, -, rfl⟩ := List.mem_map.1 hts
    exact List.cons_ne_nil _ _
  have haccepts : ∀ ts ∈ i.tuples.map tupleWords,
      Accepts (parenthesised (expression (depth + 2))) ts := by
    intro ts hts
    obtain ⟨tuple, htuple, rfl⟩ := List.mem_map.1 hts
    exact accepts_tuple depth (i.tuple_ne_nil tuple htuple)
  have hall := commaSeparated_commas (by simpa using i.tuples_ne_nil) haccepts hnil (by simp)
    hlength
  rwa [List.append_nil] at hall

/-- The words of an insert are a statement, and its table is that of the insert. -/
theorem statement_words (i : Insertion) : statement i.words = some (.insert i.table.text) := by
  obtain ⟨depth, hdepth⟩ : ∃ depth, i.words.length = depth + 2 := ⟨_, rfl⟩
  have hnames := i.parenthesised_columns (.word "VALUES" :: commas (i.tuples.map tupleWords))
  have hrows := i.commaSeparated_tuples depth
  have htable : name (i.table.words ++ (parens (commas (i.columns.map fun c => [.word c.text])) ++
      .word "VALUES" :: commas (i.tuples.map tupleWords))) = some (i.table.text, _) :=
    name_words i.table (by simp [parens])
  have hinsert := keyword_word (k := "insert") (s := "INSERT") (by decide +kernel)
  have hinto := keyword_word (k := "into") (s := "INTO") (by decide +kernel)
  have hvalues := keyword_word (k := "values") (s := "VALUES") (by decide +kernel)
  rw [statement, hdepth, i.words_eq_cons]
  simp only [hinsert, hinto, htable, hnames, hvalues, hrows, Option.bind_eq_bind, Option.bind_some]
  rfl

end Insertion

/-! ## Scripts -/

theorem sections_append (h : .sign ';' ∉ ts) (rest : List Token) :
    sections (ts ++ .sign ';' :: rest) = ts :: sections rest := by
  induction ts with
  | nil => rw [List.nil_append, sections, if_pos rfl]
  | cons t ts ih =>
    rw [List.mem_cons, not_or] at h
    rw [List.cons_append, sections, if_neg (Ne.symm h.1), ih h.2]
    rfl

theorem not_mem_commas (ht : t ≠ .sign ',') (h : ∀ ts ∈ tss, t ∉ ts) : t ∉ commas tss := by
  induction tss with
  | nil => exact List.not_mem_nil
  | cons ts tss ih =>
    have hts := h ts List.mem_cons_self
    have htail := ih fun us hus => h us (List.mem_cons_of_mem ts hus)
    cases tss with
    | nil =>
      rw [commas_singleton]
      exact hts
    | cons us tss =>
      rw [commas_cons_cons]
      simp [hts, ht, htail]

theorem TableName.semicolon_not_mem_words (n : TableName) : .sign ';' ∉ n.words := by
  obtain ⟨schema?, table⟩ := n
  cases schema? <;> simp [words]

theorem Operand.semicolon_not_mem_words (o : Operand) : .sign ';' ∉ o.words := by
  cases o with
  | null => simp [words]
  | text value => simp [words]
  | column c t => simp [words, parens, t.semicolon_not_mem_words]
  | lookup c t s value => simp [words, parens, t.semicolon_not_mem_words]

/-- A semicolon inside a literal is no word. -/
theorem Insertion.semicolon_not_mem_words (i : Insertion) : .sign ';' ∉ i.words := by
  have hcolumns : .sign ';' ∉ commas (i.columns.map fun c => [.word c.text]) := by
    refine not_mem_commas (by decide) fun ts hts => ?_
    obtain ⟨c, -, rfl⟩ := List.mem_map.1 hts
    simp
  have htuples : .sign ';' ∉ commas (i.tuples.map tupleWords) := by
    refine not_mem_commas (by decide) fun ts hts => ?_
    obtain ⟨tuple, -, rfl⟩ := List.mem_map.1 hts
    have hcells : .sign ';' ∉ commas (tuple.map Operand.words) := by
      refine not_mem_commas (by decide) fun us hus => ?_
      obtain ⟨o, -, rfl⟩ := List.mem_map.1 hus
      exact o.semicolon_not_mem_words
    simp [tupleWords, parens, hcells]
  simp [words_eq_cons, parens, i.table.semicolon_not_mem_words, hcolumns, htuples]

theorem sections_script (is : List Insertion) :
    sections (is.flatMap fun i => i.words ++ [Token.sign ';']) =
      is.map Insertion.words ++ [[]] := by
  induction is with
  | nil => rfl
  | cons i is ih =>
    rw [List.flatMap_cons, List.append_assoc, List.singleton_append,
      sections_append i.semicolon_not_mem_words, ih]
    rfl

theorem mapM_statement_words (is : List Insertion) :
    (is.map Insertion.words).mapM statement = some (is.map fun i => .insert i.table.text) := by
  induction is with
  | nil => rfl
  | cons i is ih =>
    rw [List.map_cons, List.mapM_cons, i.statement_words, ih]
    rfl

/-- A script of inserts is parsed into one query for each of them, with its table. -/
theorem parse?_script (is : List Insertion) :
    parse? ("\n".intercalate (is.map Insertion.sql)) =
      some (is.map fun i => .insert i.table.text) := by
  have hfilter : (is.map Insertion.words ++ [[]]).filter (fun s => !s.isEmpty) =
      is.map Insertion.words := by
    rw [List.filter_append, List.filter_eq_self.2]
    · simp
    · intro ts hts
      obtain ⟨i, -, rfl⟩ := List.mem_map.1 hts
      rfl
  rw [parse?, tokens_script]
  simp only [Option.bind_eq_bind, Option.bind_some, sections_script, hfilter, mapM_statement_words]

end SeedScript.Sql
