import Mathlib.Data.List.Basic
import SeedScript.Command.Options

/-!
# Leaving words out

The words of a command line are read one argument after the other, so options and flags can be left
out of it and the rest still is a command line, with the same other options. In particular the
options that amend a configuration can be left out (`Options.exists_words_withoutOverrides`).
-/

namespace SeedScript.Command

/-! ## Words that are read as one argument -/

/-- The first words of a command line are read as this argument, whatever follows them. -/
def ReadsAs (before : List String) (arg : Argument) : Prop :=
  ∀ words, arguments? (before ++ words) = (arguments? words).map (arg :: ·)

section ReadsAs

variable {word value name : String}

theorem readsAs_input (hlone : word ≠ "--") (hinput : (!isDashed word) = true) :
    ReadsAs [word] (.input word) := by
  intro words
  rw [List.singleton_append, arguments?, if_neg hlone, if_pos hinput]

theorem readsAs_assigned (hlone : word ≠ "--") (hdashed : ¬ (!isDashed word) = true)
    (hsplit : (afterDashes? word.toList).map splitEquals = some (name, some value))
    (hname : optionNames.contains name = true) : ReadsAs [word] (.option name value) := by
  intro words
  rw [List.singleton_append, arguments?, if_neg hlone, if_neg hdashed, hsplit]
  exact if_pos hname

theorem readsAs_flag (hlone : word ≠ "--") (hdashed : ¬ (!isDashed word) = true)
    (hsplit : (afterDashes? word.toList).map splitEquals = some (name, none))
    (hname : flagNames.contains name = true) : ReadsAs [word] (.flag name) := by
  intro words
  rw [List.singleton_append, arguments?, if_neg hlone, if_neg hdashed, hsplit]
  exact if_pos hname

theorem readsAs_option (hlone : word ≠ "--") (hdashed : ¬ (!isDashed word) = true)
    (hsplit : (afterDashes? word.toList).map splitEquals = some (name, none))
    (hflag : ¬ flagNames.contains name = true) (hname : optionNames.contains name = true)
    (hvalue : ¬ isDashed value = true) : ReadsAs [word, value] (.option name value) := by
  intro words
  rw [List.cons_append, List.singleton_append, arguments?, if_neg hlone, if_neg hdashed, hsplit]
  dsimp only
  rw [if_neg hflag, if_pos hname, if_neg hvalue]

end ReadsAs

/-! ## Arguments that are left out -/

section Filter

variable {p : Argument → Bool} {args : List Argument} {name : String}

/-- An argument stays with its words, or is left out with them. -/
theorem ReadsAs.exists_words_filter {before words : List String} {arg : Argument}
    (hreads : ReadsAs before arg) (h : (arguments? words).map (arg :: ·) = some args)
    (hrest : ∀ {args}, arguments? words = some args →
      ∃ words', arguments? words' = some (args.filter p)) :
    ∃ words', arguments? words' = some (args.filter p) := by
  obtain ⟨rest, hargs, rfl⟩ := Option.map_eq_some_iff.1 h
  obtain ⟨words', hwords'⟩ := hrest hargs
  rw [List.filter_cons]
  split
  · exact ⟨before ++ words', by rw [hreads, hwords']; rfl⟩
  · exact ⟨words', hwords'⟩

/-- Some arguments of words, with all inputs among them, are those of other words. -/
theorem exists_words_filter (hp : ∀ s, p (.input s) = true) {words : List String}
    (h : arguments? words = some args) : ∃ words', arguments? words' = some (args.filter p) := by
  fun_induction arguments? words generalizing args with
  | case1 =>
    cases h
    exact ⟨[], rfl⟩
  | case2 words =>
    cases h
    refine ⟨"--" :: words, ?_⟩
    rw [arguments?, if_pos rfl, List.filter_eq_self.2]
    intro arg harg
    obtain ⟨s, -, rfl⟩ := List.mem_map.1 harg
    exact hp s
  | case3 word words hlone hinput ih => exact (readsAs_input hlone hinput).exists_words_filter h ih
  | case5 word words hlone hdashed name value hsplit hname ih =>
    exact (readsAs_assigned hlone hdashed hsplit hname).exists_words_filter h ih
  | case7 word words hlone hdashed name hsplit hname ih =>
    exact (readsAs_flag hlone hdashed hsplit hname).exists_words_filter h ih
  | case10 word hlone hdashed name hsplit hflag hname value words hvalue ih =>
    exact (readsAs_option hlone hdashed hsplit hflag hname hvalue).exists_words_filter h ih
  -- the other words are no command line
  | case4 | case6 | case8 | case9 | case11 => cases h

theorem inputs_filter (hp : ∀ s, p (.input s) = true) : inputs (args.filter p) = inputs args := by
  unfold inputs
  rw [List.filterMap_filter]
  refine List.filterMap_congr fun arg _ => ?_
  cases arg with
  | input s => rw [if_pos (hp s)]
  | option name value => simp
  | flag name => simp

theorem values_filter_of_keep (hp : ∀ value, p (.option name value) = true) :
    values name (args.filter p) = values name args := by
  unfold values
  rw [List.filterMap_filter]
  refine List.filterMap_congr fun arg _ => ?_
  cases arg with
  | input s => simp
  | flag name => simp
  | option name' value =>
    by_cases hname : name' = name
    · rw [hname, if_pos (hp value)]
    · simp [hname]

theorem values_filter_of_drop (hp : ∀ value, p (.option name value) = false) :
    values name (args.filter p) = [] := by
  unfold values
  rw [List.filterMap_filter]
  refine List.filterMap_eq_nil_iff.2 fun arg _ => ?_
  cases arg with
  | input s => simp
  | flag name => simp
  | option name' value =>
    by_cases hname : name' = name
    · rw [hname, if_neg (by simp [hp])]
    · simp [hname]

theorem flag?_filter_of_keep (hp : p (.flag name) = true) :
    flag? name (args.filter p) = flag? name args := by
  rw [flag?, flag?, List.count_filter hp]

theorem flag?_filter_of_drop (hp : p (.flag name) = false) :
    flag? name (args.filter p) = some false := by
  have hcount : (args.filter p).count (.flag name) = 0 :=
    List.count_eq_zero.2 fun hmem => by
      rw [List.mem_filter, hp] at hmem
      cases hmem.2
  simp only [flag?, hcount]

end Filter

/-! ## The options that amend a configuration -/

/-- The options with values that amend a configuration. -/
def overrideNames : List String :=
  ["one-to-many-delimiter", "many-to-many-delimiter", "row-delimiter"]

/-- Whether an argument leaves a configuration as it is. -/
def Argument.isNeutral : Argument → Bool
  | .input _ => true
  | .option name _ => !overrideNames.contains name
  | .flag name => name != "strict"

section Neutral

variable {args : List Argument} {name : String}

theorem value?_neutral (hname : overrideNames.contains name = false) :
    value? name (args.filter Argument.isNeutral) = value? name args := by
  rw [value?, value?, values_filter_of_keep fun _ => by rw [Argument.isNeutral, hname]; rfl]

theorem value?_override (hname : overrideNames.contains name = true) :
    value? name (args.filter Argument.isNeutral) = some none := by
  rw [value?, values_filter_of_drop fun _ => by rw [Argument.isNeutral, hname]; rfl]

theorem path?_neutral (hname : overrideNames.contains name = false) :
    path? name (args.filter Argument.isNeutral) = path? name args := by
  rw [path?, path?, value?_neutral hname]

theorem flag?_neutral (hname : (name != "strict") = true) :
    flag? name (args.filter Argument.isNeutral) = flag? name args := flag?_filter_of_keep hname

theorem flag?_strict : flag? "strict" (args.filter Argument.isNeutral) = some false :=
  flag?_filter_of_drop rfl

end Neutral

namespace Options

/-- The options without those that amend a configuration. -/
def withoutOverrides (o : Options) : Options :=
  { o with oneToMany? := none, manyToMany? := none, rowItem? := none, strict := false }

theorem amend_withoutOverrides (o : Options) (c : Config) : o.withoutOverrides.amend c = c := rfl

/-- The options are those that arguments give. -/
structure ReadFrom (o : Options) (args : List Argument) : Prop where
  inputs_eq : inputs args = [o.input]
  input_ne : o.input ≠ ""
  target_eq : ∃ schema? table? function?, value? "schema" args = some schema? ∧
    value? "table" args = some table? ∧ value? "function" args = some function? ∧
    target? (schema?.getD "") table? function? = some o.target
  hash_eq : ∃ name? chosen?, value? "hash" args = some name? ∧
    choice? HashChoice.ofName? name? = some chosen? ∧ o.hash = chosen?.getD .off
  format_eq : ∃ name?, value? "format" args = some name? ∧
    choice? Format.ofName? name? = some o.format?
  config_eq : path? "config" args = some o.config?
  oneToMany_eq : value? "one-to-many-delimiter" args = some o.oneToMany?
  manyToMany_eq : value? "many-to-many-delimiter" args = some o.manyToMany?
  rowItem_eq : value? "row-delimiter" args = some o.rowItem?
  sheet_eq : value? "sheet" args = some o.sheet?
  columnMap_eq : path? "column-map" args = some o.columnMap?
  strict_eq : flag? "strict" args = some o.strict
  check_eq : flag? "check" args = some o.check
  output_eq : path? "output" args = some o.output?
  verbose_eq : flag? "verbose" args = some o.verbose

/-- The arguments of a command line give its options. -/
theorem exists_readFrom {words : List String} {o : Options} (h : parse? words = some o) :
    ∃ args, arguments? words = some args ∧ o.ReadFrom args := by
  unfold parse? at h
  obtain ⟨args, hargs, h⟩ := Option.bind_eq_some_iff.1 h
  refine ⟨args, hargs, ?_⟩
  split at h
  · rename_i input hinput
    split at h
    · cases h
    · rename_i hne
      obtain ⟨schema?, hschema, h⟩ := Option.bind_eq_some_iff.1 h
      obtain ⟨table?, htable, h⟩ := Option.bind_eq_some_iff.1 h
      obtain ⟨function?, hfunction, h⟩ := Option.bind_eq_some_iff.1 h
      obtain ⟨target, htarget, h⟩ := Option.bind_eq_some_iff.1 h
      obtain ⟨hash?, hhash, h⟩ := Option.bind_eq_some_iff.1 h
      obtain ⟨chosen?, hchosen, h⟩ := Option.bind_eq_some_iff.1 h
      obtain ⟨name?, hname, h⟩ := Option.bind_eq_some_iff.1 h
      obtain ⟨format?, hformat, h⟩ := Option.bind_eq_some_iff.1 h
      obtain ⟨config?, hconfig, h⟩ := Option.bind_eq_some_iff.1 h
      obtain ⟨oneToMany?, honeToMany, h⟩ := Option.bind_eq_some_iff.1 h
      obtain ⟨manyToMany?, hmanyToMany, h⟩ := Option.bind_eq_some_iff.1 h
      obtain ⟨rowItem?, hrowItem, h⟩ := Option.bind_eq_some_iff.1 h
      obtain ⟨sheet?, hsheet, h⟩ := Option.bind_eq_some_iff.1 h
      obtain ⟨columnMap?, hcolumnMap, h⟩ := Option.bind_eq_some_iff.1 h
      obtain ⟨strict, hstrict, h⟩ := Option.bind_eq_some_iff.1 h
      obtain ⟨check, hcheck, h⟩ := Option.bind_eq_some_iff.1 h
      obtain ⟨output?, houtput, h⟩ := Option.bind_eq_some_iff.1 h
      obtain ⟨verbose, hverbose, h⟩ := Option.bind_eq_some_iff.1 h
      cases h
      exact ⟨hinput, hne, ⟨_, _, _, hschema, htable, hfunction, htarget⟩,
        ⟨_, _, hhash, hchosen, rfl⟩, ⟨_, hname, hformat⟩, hconfig, honeToMany, hmanyToMany,
        hrowItem, hsheet, hcolumnMap, hstrict, hcheck, houtput, hverbose⟩
  · cases h

theorem ReadFrom.parse?_eq {words : List String} {args : List Argument} {o : Options}
    (h : o.ReadFrom args) (hargs : arguments? words = some args) : parse? words = some o := by
  obtain ⟨schema?, table?, function?, hschema, htable, hfunction, htarget⟩ := h.target_eq
  obtain ⟨name?, chosen?, hname, hchosen, hhash⟩ := h.hash_eq
  obtain ⟨formatName?, hformatName, hformat⟩ := h.format_eq
  unfold parse?
  rw [hargs, Option.bind_eq_bind, Option.bind_some, h.inputs_eq]
  dsimp only
  rw [if_neg h.input_ne]
  refine Option.bind_eq_some_iff.2 ⟨_, hschema, ?_⟩
  refine Option.bind_eq_some_iff.2 ⟨_, htable, ?_⟩
  refine Option.bind_eq_some_iff.2 ⟨_, hfunction, ?_⟩
  refine Option.bind_eq_some_iff.2 ⟨_, htarget, ?_⟩
  refine Option.bind_eq_some_iff.2 ⟨_, hname, ?_⟩
  refine Option.bind_eq_some_iff.2 ⟨_, hchosen, ?_⟩
  refine Option.bind_eq_some_iff.2 ⟨_, hformatName, ?_⟩
  refine Option.bind_eq_some_iff.2 ⟨_, hformat, ?_⟩
  refine Option.bind_eq_some_iff.2 ⟨_, h.config_eq, ?_⟩
  refine Option.bind_eq_some_iff.2 ⟨_, h.oneToMany_eq, ?_⟩
  refine Option.bind_eq_some_iff.2 ⟨_, h.manyToMany_eq, ?_⟩
  refine Option.bind_eq_some_iff.2 ⟨_, h.rowItem_eq, ?_⟩
  refine Option.bind_eq_some_iff.2 ⟨_, h.sheet_eq, ?_⟩
  refine Option.bind_eq_some_iff.2 ⟨_, h.columnMap_eq, ?_⟩
  refine Option.bind_eq_some_iff.2 ⟨_, h.strict_eq, ?_⟩
  refine Option.bind_eq_some_iff.2 ⟨_, h.check_eq, ?_⟩
  refine Option.bind_eq_some_iff.2 ⟨_, h.output_eq, ?_⟩
  refine Option.bind_eq_some_iff.2 ⟨_, h.verbose_eq, ?_⟩
  rw [← hhash]
  rfl

/-- The words for these options can be left out of a command line. -/
theorem exists_words_withoutOverrides {words : List String} {o : Options}
    (h : parse? words = some o) : ∃ words', parse? words' = some o.withoutOverrides := by
  obtain ⟨args, hargs, hread⟩ := exists_readFrom h
  obtain ⟨words', hwords'⟩ := exists_words_filter (p := Argument.isNeutral) (fun _ => rfl) hargs
  refine ⟨words', ReadFrom.parse?_eq ?_ hwords'⟩
  exact {
    inputs_eq := (inputs_filter fun _ => rfl).trans hread.inputs_eq
    input_ne := hread.input_ne
    target_eq := by
      rw [value?_neutral rfl, value?_neutral rfl, value?_neutral rfl]
      exact hread.target_eq
    hash_eq := by
      rw [value?_neutral rfl]
      exact hread.hash_eq
    format_eq := by
      rw [value?_neutral rfl]
      exact hread.format_eq
    config_eq := (path?_neutral rfl).trans hread.config_eq
    oneToMany_eq := value?_override rfl
    manyToMany_eq := value?_override rfl
    rowItem_eq := value?_override rfl
    sheet_eq := (value?_neutral rfl).trans hread.sheet_eq
    columnMap_eq := (path?_neutral rfl).trans hread.columnMap_eq
    strict_eq := flag?_strict
    check_eq := (flag?_neutral rfl).trans hread.check_eq
    output_eq := (path?_neutral rfl).trans hread.output_eq
    verbose_eq := (flag?_neutral rfl).trans hread.verbose_eq }

end Options

end SeedScript.Command
