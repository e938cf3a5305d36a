import SeedScript.Seeder

/-!
# Options of a command line

A word that begins with two dashes names an option or a flag; the value of an option follows an
equals sign or is the next word. Every other word is the input. After a lone pair of dashes all
words are inputs. There is exactly one input, and no option or flag is given twice.
-/

namespace SeedScript.Command

inductive Format where
  | json | csv | workbook
  deriving DecidableEq, Repr

inductive HashChoice where
  | off | blake3
  deriving DecidableEq, Repr

/-- A command line. -/
structure Options where
  input : String
  format? : Option Format
  target : Target
  config? : Option String
  oneToMany? : Option String
  manyToMany? : Option String
  rowItem? : Option String
  sheet? : Option String
  columnMap? : Option String
  strict : Bool
  hash : HashChoice
  check : Bool
  output? : Option String
  verbose : Bool
  deriving DecidableEq, Repr

/-! ## Words -/

/-- A word of a command line with its role. -/
inductive Argument where
  | input (s : String)
  | option (name value : String)
  | flag (name : String)
  deriving DecidableEq, Repr

/-- The options that take a value. -/
def optionNames : List String :=
  ["format", "schema", "table", "function", "config", "one-to-many-delimiter",
    "many-to-many-delimiter", "row-delimiter", "sheet", "column-map", "hash", "output"]

/-- The options that take none. -/
def flagNames : List String := ["strict", "check", "verbose"]

/-- Whether a word names an option; a lone dash is an input or a value. -/
def isDashed (word : String) : Bool := word.toList.head? == some '-' && word != "-"

/-- A word without two dashes in front. -/
def afterDashes? : List Char → Option (List Char)
  | '-' :: '-' :: cs => some cs
  | _ => none

/-- The name before the first equals sign, and the value after it. -/
def splitEquals (cs : List Char) : String × Option String :=
  (String.ofList (cs.takeWhile (· != '=')),
    match cs.dropWhile (· != '=') with
    | [] => none
    | _ :: value => some (String.ofList value))

/-- The words of a command line with their roles. -/
def arguments? : List String → Option (List Argument)
  | [] => some []
  | word :: words =>
    if word = "--" then some (words.map .input)
    else if !isDashed word then (arguments? words).map (.input word :: ·)
    else
      match (afterDashes? word.toList).map splitEquals with
      | none => none
      | some (name, some value) =>
        if optionNames.contains name then (arguments? words).map (.option name value :: ·) else none
      | some (name, none) =>
        if flagNames.contains name then (arguments? words).map (.flag name :: ·)
        else if optionNames.contains name then
          match words with
          | [] => none
          | value :: words =>
            if isDashed value then none else (arguments? words).map (.option name value :: ·)
        else none

/-! ## Values -/

def inputs (args : List Argument) : List String :=
  args.filterMap fun
    | .input s => some s
    | _ => none

def values (name : String) (args : List Argument) : List String :=
  args.filterMap fun
    | .option n value => if n = name then some value else none
    | _ => none

/-- The value of an option, which may be given once. -/
def value? (name : String) (args : List Argument) : Option (Option String) :=
  match values name args with
  | [] => some none
  | [value] => some (some value)
  | _ => none

/-- The value of an option that is a path, and so is not empty. -/
def path? (name : String) (args : List Argument) : Option (Option String) :=
  match value? name args with
  | some (some "") => none
  | r => r

/-- Whether a flag is given, which may be done once. -/
def flag? (name : String) (args : List Argument) : Option Bool :=
  match args.count (.flag name) with
  | 0 => some false
  | 1 => some true
  | _ => none

def Format.ofName? : String → Option Format
  | "json" => some .json
  | "csv" => some .csv
  | "xlsx" => some .workbook
  | _ => none

def HashChoice.ofName? : String → Option HashChoice
  | "none" => some .off
  | "blake3" => some .blake3
  | _ => none

/-- The choice that an option's value names, if the option is given. -/
def choice? (ofName? : String → Option α) : Option String → Option (Option α)
  | none => some none
  | some name => (ofName? name).map some

/-- What the rows are for: exactly one of a table and a function is given. -/
def target? (schema : String) : (table? function? : Option String) → Option Target
  | some table, none => some (.table schema table)
  | none, some name => some (.function name)
  | _, _ => none

/-- The options that words stand for, if they are a command line. -/
def Options.parse? (words : List String) : Option Options := do
  let args ← arguments? words
  let [input] := inputs args | none
  if input = "" then none
  let schema? ← value? "schema" args
  let target ← target? (schema?.getD "") (← value? "table" args) (← value? "function" args)
  let hash? ← choice? HashChoice.ofName? (← value? "hash" args)
  return {
    input
    format? := ← choice? Format.ofName? (← value? "format" args)
    target
    config? := ← path? "config" args
    oneToMany? := ← value? "one-to-many-delimiter" args
    manyToMany? := ← value? "many-to-many-delimiter" args
    rowItem? := ← value? "row-delimiter" args
    sheet? := ← value? "sheet" args
    columnMap? := ← path? "column-map" args
    strict := ← flag? "strict" args
    hash := hash?.getD .off
    check := ← flag? "check" args
    output? := ← path? "output" args
    verbose := ← flag? "verbose" args }

/-! ## Meaning of options -/

/-- The files that a command line names for reading. -/
def Options.readPaths (o : Options) : List String :=
  o.config?.toList ++ o.columnMap?.toList ++ [o.input]

/-- What follows the last point of a file name, unless the name begins with that point. -/
def extension? (path : String) : Option String :=
  let name := (path.toList.reverse.takeWhile (· != '/')).reverse
  let ending := (name.reverse.takeWhile (· != '.')).reverse
  if name.length ≤ ending.length + 1 then none else some (String.ofList ending)

def Format.ofPath (path : String) : Format :=
  match (extension? path).map fun e => e.map Char.toLower with
  | some "csv" => .csv
  | some "xlsx" => .workbook
  | _ => .json

def Options.format (o : Options) : Format := o.format?.getD (.ofPath o.input)

/-- A configuration with the delimiters and the mode that options give. -/
def Options.amend (o : Options) (c : Config) : Config where
  delimiters :=
    ⟨o.oneToMany?.getD c.delimiters.oneToMany, o.manyToMany?.getD c.delimiters.manyToMany⟩
  rowItemDelimiter := o.rowItem?.getD c.rowItemDelimiter
  mode := if o.strict then .strict else c.mode

end SeedScript.Command
