import SeedScript.Literal

/-!
# Reading quoted literals

SQL is read from left to right. A quote opens a literal; in a literal a doubled quote stands for one
quote and a lone quote closes it. Whether a quote is lone shows in the next character only, so what
a text is read as depends on what follows it. `Reads` says that a text is read as some pieces
wherever no quote follows. Quoted texts (`reads_quote`) and texts without quotes (`reads_codes`) are
read in this way, and so is what is put together from them.
-/

namespace SeedScript.Sql

/-- A piece of SQL: a character outside literals, or a literal with its contents. -/
inductive Piece where
  | code (c : Char)
  | literal (text : String)
  deriving DecidableEq, Repr

/-- Where the next character stands. -/
inductive ScanState where
  | outside
  /-- In a literal with these contents so far. -/
  | inside (read : List Char)
  /-- After a quote in a literal, which is doubled if a quote follows and lone otherwise. -/
  | closing (read : List Char)

/-- The pieces of a text, unless it ends inside a literal. -/
def scanFrom : ScanState → List Char → Option (List Piece)
  | .outside, [] => some []
  | .outside, c :: cs =>
    if c = '\'' then scanFrom (.inside []) cs else (scanFrom .outside cs).map (.code c :: ·)
  | .inside _, [] => none
  | .inside read, c :: cs =>
    if c = '\'' then scanFrom (.closing read) cs else scanFrom (.inside (read ++ [c])) cs
  | .closing read, [] => some [.literal (String.ofList read)]
  | .closing read, c :: cs =>
    if c = '\'' then scanFrom (.inside (read ++ ['\''])) cs
    else (scanFrom .outside cs).map ([.literal (String.ofList read), .code c] ++ ·)

/-- The pieces of SQL that does not end inside a literal. -/
def scan (sql : String) : Option (List Piece) := scanFrom .outside sql.toList

/-- The contents of the literals, in order. -/
def literals (ps : List Piece) : List String :=
  ps.filterMap fun
    | .literal text => some text
    | .code _ => none

/-- The text outside literals, with a gap for each literal. -/
def outline (ps : List Piece) : List (Option Char) :=
  ps.map fun
    | .code c => some c
    | .literal _ => none

/-- The pieces of a text without quotes. -/
def codes (text : String) : List Piece := text.toList.map Piece.code

@[simp] theorem literals_append (ps qs : List Piece) :
    literals (ps ++ qs) = literals ps ++ literals qs :=
  List.filterMap_append

@[simp] theorem outline_append (ps qs : List Piece) :
    outline (ps ++ qs) = outline ps ++ outline qs :=
  List.map_append

@[simp] theorem literals_codes (text : String) : literals (codes text) = [] := by
  unfold literals codes
  rw [List.filterMap_map, List.filterMap_eq_nil_iff]
  intro c _
  rfl

/-! ## Quotes in a text -/

/-- A text without single quotes. -/
def Unquoted (text : String) : Prop := '\'' ∉ text.toList

instance (text : String) : Decidable (Unquoted text) := inferInstanceAs (Decidable (¬ _))

/-- What may follow a literal. -/
def FollowsLiteral (cs : List Char) : Prop := ∀ c ∈ cs.head?, c ≠ '\''

theorem Unquoted.followsLiteral {text : String} (h : Unquoted text) :
    FollowsLiteral text.toList := by
  intro c hc hquote
  exact h (hquote ▸ List.mem_of_mem_head? hc)

theorem FollowsLiteral.append {cs ds : List Char} (hcs : FollowsLiteral cs)
    (hds : FollowsLiteral ds) : FollowsLiteral (cs ++ ds) := by
  cases cs with
  | nil => exact hds
  | cons c cs => exact hcs

theorem FollowsLiteral.append_of_ne_nil {cs : List Char} (hcs : FollowsLiteral cs) (hne : cs ≠ [])
    (ds : List Char) : FollowsLiteral (cs ++ ds) := by
  obtain ⟨c, cs, rfl⟩ := List.exists_cons_of_ne_nil hne
  exact hcs

/-- What a literal has been read to is closed by what may follow it. -/
theorem scanFrom_closing {read rest : List Char} (h : FollowsLiteral rest) :
    scanFrom (.closing read) rest =
      (scanFrom .outside rest).map (.literal (String.ofList read) :: ·) := by
  cases rest with
  | nil => rfl
  | cons c rest =>
    have hc : c ≠ '\'' := h c rfl
    rw [scanFrom, scanFrom, if_neg hc, if_neg hc, Option.map_map]
    rfl

/-- The contents of a literal are read back from the doubled quotes in it. -/
theorem scanFrom_inside (read text rest : List Char) :
    scanFrom (.inside read) (Literal.doubleQuotes text ++ rest) =
      scanFrom (.inside (read ++ text)) rest := by
  induction text generalizing read with
  | nil => rw [Literal.doubleQuotes, List.nil_append, List.append_nil]
  | cons c text ih =>
    rw [Literal.doubleQuotes]
    split
    · rename_i hc
      subst hc
      show scanFrom (.inside (read ++ ['\''])) (Literal.doubleQuotes text ++ rest) = _
      rw [ih, List.append_assoc]
      rfl
    · rename_i hc
      rw [List.cons_append, scanFrom, if_neg hc, ih, List.append_assoc]
      rfl

theorem scanFrom_outside {cs rest : List Char} (h : '\'' ∉ cs) :
    scanFrom .outside (cs ++ rest) = (scanFrom .outside rest).map (cs.map Piece.code ++ ·) := by
  induction cs with
  | nil =>
    show scanFrom .outside rest = (scanFrom .outside rest).map id
    rw [Option.map_id, id]
  | cons c cs ih =>
    have hc : c ≠ '\'' := fun hc => h (hc ▸ List.mem_cons_self)
    rw [List.cons_append, scanFrom, if_neg hc, ih fun hcs => h (List.mem_cons_of_mem c hcs),
      Option.map_map]
    rfl

/-! ## Texts that are read as pieces -/

/-- Where no quote follows, the text is read as the pieces, and what follows it on its own. -/
def Reads (text : String) (ps : List Piece) : Prop :=
  ∀ rest, FollowsLiteral rest →
    scanFrom .outside (text.toList ++ rest) = (scanFrom .outside rest).map (ps ++ ·)

theorem Reads.scan {text : String} {ps : List Piece} (h : Reads text ps) :
    Sql.scan text = some ps := by
  have hread := h [] fun c hc => by cases hc
  rw [List.append_nil] at hread
  rw [Sql.scan, hread, scanFrom, Option.map_some, List.append_nil]

theorem reads_quote (text : String) : Reads (Literal.quote text) [.literal text] := by
  intro rest hrest
  rw [Literal.toList_quote, List.cons_append, List.cons_append, List.append_assoc]
  show scanFrom (.inside []) (Literal.doubleQuotes text.toList ++ '\'' :: rest) = _
  rw [scanFrom_inside]
  show scanFrom (.closing text.toList) rest = _
  rw [scanFrom_closing hrest, String.ofList_toList]
  rfl

theorem reads_codes {text : String} (h : Unquoted text) : Reads text (codes text) :=
  fun _ _ => scanFrom_outside h

theorem Reads.append {a b : String} {ps qs : List Piece} (ha : Reads a ps) (hb : Reads b qs)
    (hfollows : FollowsLiteral b.toList) : Reads (a ++ b) (ps ++ qs) := by
  intro rest hrest
  rw [String.toList_append, List.append_assoc, ha _ (hfollows.append hrest), hb rest hrest,
    Option.map_map]
  congr 1
  funext rs
  exact (List.append_assoc ps qs rs).symm

/-- After a text without quotes anything may follow. -/
theorem Reads.codes_append {a b : String} {qs : List Piece} (ha : Unquoted a) (hb : Reads b qs) :
    Reads (a ++ b) (codes a ++ qs) := by
  intro rest hrest
  rw [String.toList_append, List.append_assoc, scanFrom_outside ha, hb rest hrest, Option.map_map]
  congr 1
  funext rs
  exact (List.append_assoc (codes a) qs rs).symm

end SeedScript.Sql
