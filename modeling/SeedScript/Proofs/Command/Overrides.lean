import SeedScript.Proofs.Command.Stages
import SeedScript.Proofs.Command.Words
import SeedScript.Proofs.Seeder.Errors

/-!
# Options over a configuration file

What options give takes the place of what the configuration file holds. The file must be usable by
itself nevertheless: it is validated when it is read, and once more when the options have changed
it. So a run is refused for the first fault of the file, or else for that of the amended
configuration. Where the file is usable, the run is that of a file which holds the amended
configuration, without the options that amend it (`run_amended`).
-/

namespace SeedScript.Command

/-- The failure is not that a configuration cannot be used. -/
def Failure.SparesConfig : Failure → Prop
  | .seeding e => e.SparesConfig
  | _ => True

namespace Options

variable {read read' : ReadFile} {o : Options} {path text : String} {c : Config}

/-- The options name a configuration file, and it holds this configuration, usable or not. -/
structure HoldsConfig (read : ReadFile) (o : Options) (path text : String) (c : Config) : Prop where
  path_eq : o.config? = some path
  text_eq : (read path).bind Content.text? = some text
  document_eq : Json.document Config.read text = .ok c

/-! ## Which configurations are refused -/

theorem HoldsConfig.fileConfig_eq (h : HoldsConfig read o path text c) :
    o.fileConfig read = (c.validate.map fun () => c).mapError .seeding := by
  have htext : readText read path = .ok text := by rw [readText, h.text_eq]
  unfold fileConfig
  rw [h.path_eq]
  dsimp only
  rw [htext]
  show (Config.ofJson text).mapError Failure.seeding = _
  unfold Config.ofJson
  rw [h.document_eq]

theorem sparesConfig_readText : FailsOnly Failure.SparesConfig (readText read path) := by
  unfold readText
  split
  · exact .ok _
  · exact .error trivial

theorem sparesConfig_columnMapFault? {failure : Failure}
    (h : o.columnMapFault? read = some failure) : failure.SparesConfig := by
  obtain ⟨path, -, hpath⟩ := Option.bind_eq_some_iff.1 h
  split at hpath
  · rename_i hread
    cases hpath
    exact sparesConfig_readText _ hread
  · split at hpath
    · cases hpath
    · cases hpath
      trivial

theorem sparesConfig_inputFault? {failure : Failure} (h : o.inputFault? read = some failure) :
    failure.SparesConfig := by
  unfold inputFault? at h
  split at h
  · split at h
    · cases h
    · cases h
      trivial
  · exact sparesConfig_readText.of_faultOf? h

theorem sparesConfig_checkFault? {sql : String} {failure : Failure}
    (h : o.checkFault? sql = some failure) : failure.SparesConfig := by
  unfold checkFault? at h
  split at h
  · obtain ⟨e, he, rfl⟩ := Option.map_eq_some_iff.1 h
    exact (Sql.sparesConfig_check sql).of_faultOf? he
  · cases h

/-- No stage but the first two has a fault about a configuration. -/
theorem sparesConfig_stageFault? {stage : Stage} {failure : Failure} (hfile : stage ≠ .configFile)
    (hvalidation : stage ≠ .validation) (h : o.stageFault? read stage = some failure) :
    failure.SparesConfig := by
  cases stage with
  | configFile => exact absurd rfl hfile
  | validation => exact absurd rfl hvalidation
  | columnMap => exact sparesConfig_columnMapFault? h
  | input => exact sparesConfig_inputFault? h
  | rows =>
    obtain ⟨source, -, hsource⟩ := Option.bind_eq_some_iff.1 h
    obtain ⟨e, he, rfl⟩ := Option.map_eq_some_iff.1 hsource
    exact source.sparesConfig_rows.of_faultOf? he
  | seeding =>
    obtain ⟨seeder, -, hseeder⟩ := Option.bind_eq_some_iff.1 h
    obtain ⟨rows, -, hrows⟩ := Option.bind_eq_some_iff.1 hseeder
    obtain ⟨e, he, rfl⟩ := Option.map_eq_some_iff.1 hrows
    exact (seeder.sparesConfig_seed rows o.target).of_faultOf? he
  | check =>
    obtain ⟨sql, -, hsql⟩ := Option.bind_eq_some_iff.1 h
    exact sparesConfig_checkFault? hsql

theorem HoldsConfig.stageFault?_configFile (h : HoldsConfig read o path text c) :
    o.stageFault? read .configFile = c.fault?.map fun fault => .seeding (.invalidConfig fault) := by
  rw [stageFault?, h.fileConfig_eq, Config.validate]
  cases c.fault? <;> rfl

theorem HoldsConfig.stageFault?_validation (h : HoldsConfig read o path text c)
    (hvalid : c.fault? = none) : o.stageFault? read .validation =
      (o.amend c).fault?.map fun fault => .seeding (.invalidConfig fault) := by
  rw [stageFault?, h.fileConfig_eq, Config.validate, hvalid]
  rfl

theorem HoldsConfig.findSome?_stageFault?_eq_iff (h : HoldsConfig read o path text c)
    {fault : ConfigFault} :
    Stage.all.findSome? (o.stageFault? read) = some (.seeding (.invalidConfig fault)) ↔
      c.fault?.or (o.amend c).fault? = some fault := by
  have hlater : [Stage.columnMap, .input, .rows, .seeding, .check].findSome?
      (o.stageFault? read) ≠ some (.seeding (.invalidConfig fault)) := by
    intro hfault
    obtain ⟨stage, hstage, hfault⟩ := List.exists_of_findSome?_eq_some hfault
    refine sparesConfig_stageFault? ?_ ?_ hfault
    · rintro rfl
      simp at hstage
    · rintro rfl
      simp at hstage
  rw [Stage.all, findSome?_cons_eq_or, findSome?_cons_eq_or, h.stageFault?_configFile]
  cases hfile : c.fault? with
  | some fileFault => simp
  | none =>
    rw [h.stageFault?_validation hfile]
    cases (o.amend c).fault? with
    | some amendedFault => simp
    | none => simpa using hlater

/-! ## The run of the amended configuration -/

theorem source_congr
    (h : ∀ other ∈ o.columnMap?.toList ++ [o.input], read' other = read other) :
    o.source read' = o.source read := by
  have hinput : read' o.input = read o.input := h o.input (by simp)
  have hcolumnMap : o.columnMap read' = o.columnMap read := by
    unfold columnMap
    cases hpath : o.columnMap? with
    | none => rfl
    | some path =>
      have hpath : read' path = read path := h path (by simp [hpath])
      dsimp only
      rw [readText, readText, hpath]
  unfold source
  rw [hcolumnMap]
  simp only [readText, hinput]

theorem HoldsConfig.seeder_eq (h : HoldsConfig read o path text c) :
    o.seeder read = ((c.validate >>= fun () => Seeder.ofConfig (o.amend c)).mapError
      Failure.seeding).map fun s => { s with hash? := o.hashFunction? } := by
  unfold seeder
  rw [loadConfig_eq, h.fileConfig_eq]
  cases c.validate with
  | error e => rfl
  | ok u =>
    show ((Seeder.ofConfig (o.amend c)).mapError Failure.seeding >>= fun s => _) =
      ((Seeder.ofConfig (o.amend c)).mapError Failure.seeding).map _
    cases Seeder.ofConfig (o.amend c) <;> rfl

theorem validate_bind_ofConfig (c : Config) :
    (c.validate >>= fun () => Seeder.ofConfig c) = Seeder.ofConfig c := by
  unfold Config.validate Seeder.ofConfig
  split <;> split <;> simp_all [bind, Except.bind]

/-- A usable configuration and options that amend it make the seeder of the amended
configuration. -/
theorem HoldsConfig.seeder_eq_of_amended {path' text' : String}
    (h : HoldsConfig read o path text c)
    (h' : HoldsConfig read' o.withoutOverrides path' text' (o.amend c)) (hvalid : c.Valid) :
    o.withoutOverrides.seeder read' = o.seeder read := by
  rw [h.seeder_eq, h'.seeder_eq, (c.validate_eq_ok_iff).2 hvalid, amend_withoutOverrides,
    validate_bind_ofConfig]
  rfl

theorem HoldsConfig.sql_eq_of_amended {path' text' : String}
    (h : HoldsConfig read o path text c)
    (h' : HoldsConfig read' o.withoutOverrides path' text' (o.amend c)) (hvalid : c.Valid)
    (hothers : ∀ other ∈ o.columnMap?.toList ++ [o.input], read' other = read other) :
    o.withoutOverrides.sql read' = o.sql read := by
  have hsource : o.withoutOverrides.source read' = o.source read := source_congr hothers
  unfold sql
  rw [h.seeder_eq_of_amended h' hvalid, hsource]
  rfl

theorem deliver_of_differAt {p : Path} {fs fs' : Files} (hfiles : Files.DifferAt p fs fs')
    (sql : String) :
    (o.deliver fs' sql).1 = (o.deliver fs sql).1 ∧
      Files.DifferAt p (o.deliver fs sql).2 (o.deliver fs' sql).2 := by
  unfold deliver Output.save
  cases o.output? with
  | none => exact ⟨rfl, hfiles⟩
  | some path =>
    dsimp only
    cases hwrite : fs.write? path (.text (Output.textOf sql)) with
    | none =>
      rw [hfiles.write?_eq_none hwrite]
      exact ⟨rfl, hfiles⟩
    | some after =>
      obtain ⟨after', hwrite', hafter⟩ := hfiles.write? hwrite
      rw [hwrite']
      exact ⟨rfl, hafter⟩

end Options

theorem run_of_differAt {words words' : List String} {o o' : Options} {p : Path} {fs fs' : Files}
    (hwords : Options.parse? words = some o) (hwords' : Options.parse? words' = some o')
    (hfiles : Files.DifferAt p fs fs') (hsql : o'.sql fs'.read? = o.sql fs.read?)
    (houtput : o'.output? = o.output?) :
    (run words' fs').1 = (run words fs).1 ∧
      Files.DifferAt p (run words fs).2 (run words' fs').2 := by
  cases hresult : (o.sql fs.read?).2 with
  | error failure =>
    rw [run_eq_failed hwords hresult, run_eq_failed hwords' (hsql ▸ hresult)]
    exact ⟨rfl, hfiles⟩
  | ok sql =>
    have hdeliver : o'.deliver fs' sql = o.deliver fs' sql := by
      unfold Options.deliver
      rw [houtput]
    rw [run_eq_deliver hwords hresult, run_eq_deliver hwords' (hsql ▸ hresult), hdeliver]
    exact Options.deliver_of_differAt hfiles sql

/-- What is not a failure to write comes from the making of the SQL. -/
theorem fst_run_eq_failed_iff {words : List String} {o : Options} {fs : Files} {failure : Failure}
    (hwords : Options.parse? words = some o) (hfailure : failure ≠ .seeding .unwritable) :
    (run words fs).1 = .failed failure ↔ (o.sql fs.read?).2 = .error failure := by
  cases hresult : (o.sql fs.read?).2 with
  | error f =>
    rw [run_eq_failed hwords hresult]
    simp
  | ok sql =>
    rw [run_eq_deliver hwords hresult]
    refine iff_of_false (fun h => ?_) nofun
    unfold Options.deliver Output.save at h
    split at h
    · cases h
    · split at h
      · cases h
      · rename_i e he
        split at he
        · cases he
        · cases he
          exact hfailure (Outcome.failed.inj h).symm

/-- A run with a configuration file is refused for a configuration exactly when there is a fault in
that of the file, or else in what the options make of it. So it is refused exactly for the amended
configuration unless the file alone is at fault. Where the configuration of the file can be used,
the run gives what it gives for a file in its place that holds the amended configuration, without
the options that amend it: the same warnings and the same SQL or failure, the same exit code and
the same text printed, and files that differ in that place at most. -/
theorem run_amended {words : List String} {o : Options} {path text : String} {c : Config}
    {fs : Files} (hwords : Options.parse? words = some o)
    (hconfig : o.HoldsConfig fs.read? path text c) :
    (∀ fault, (run words fs).1 = .failed (.seeding (.invalidConfig fault)) ↔
      c.fault?.or (o.amend c).fault? = some fault) ∧
    (((∃ fault, (run words fs).1 = .failed (.seeding (.invalidConfig fault))) ↔
      ¬ (o.amend c).Valid) ↔ c.Valid ∨ ¬ (o.amend c).Valid) ∧
    (∃ words', Options.parse? words' = some o.withoutOverrides) ∧
    (c.Valid → ∀ (words' : List String) (place : Path) (text' : String),
      Options.parse? words' = some o.withoutOverrides →
      fs.walk [] (Files.names path) = some place →
      (∀ other ∈ o.columnMap?.toList ++ [o.input], fs.walk [] (Files.names other) ≠ some place) →
      Json.document Config.read text' = .ok (o.amend c) →
        o.withoutOverrides.sql (fs.setFile place (.text text')).read? = o.sql fs.read? ∧
        (run words' (fs.setFile place (.text text'))).1 = (run words fs).1 ∧
        Files.DifferAt place (run words fs).2 (run words' (fs.setFile place (.text text'))).2) := by
  have hrefused (fault : ConfigFault) :
      (run words fs).1 = .failed (.seeding (.invalidConfig fault)) ↔
        c.fault?.or (o.amend c).fault? = some fault := by
    have hne : Failure.seeding (.invalidConfig fault) ≠ .seeding .unwritable := by simp
    rw [fst_run_eq_failed_iff hwords hne, Options.failsWith_sql,
      hconfig.findSome?_stageFault?_eq_iff]
  have hinvalid : (∃ fault, (run words fs).1 = .failed (.seeding (.invalidConfig fault))) ↔
      ¬ (c.Valid ∧ (o.amend c).Valid) := by
    simp only [hrefused, Config.Valid]
    rw [← Option.or_eq_none_iff]
    exact Option.ne_none_iff_exists'.symm
  refine ⟨hrefused, ?_, Options.exists_words_withoutOverrides hwords, ?_⟩
  · rw [hinvalid]
    by_cases hvalid : c.Valid
    · simp [hvalid]
    · simp [hvalid]
  · intro hvalid words' place text' hwords' hplace hothers htext'
    obtain ⟨content, hread, -⟩ := Option.bind_eq_some_iff.1 hconfig.text_eq
    obtain ⟨hrelative, place', hplace', hfile⟩ := Files.of_read? hread
    obtain rfl : place' = place := Option.some.inj (hplace'.symm.trans hplace)
    have hamended : o.withoutOverrides.HoldsConfig (fs.setFile place' (.text text')).read? path
        text' (o.amend c) := by
      refine ⟨hconfig.path_eq, ?_, htext'⟩
      rw [Files.read?_setFile hrelative hplace]
      rfl
    have hsql := hconfig.sql_eq_of_amended hamended hvalid fun other hother =>
      Files.read?_setFile_of_ne (hothers other hother) _
    have hfiles : Files.DifferAt place' fs (fs.setFile place' (.text text')) :=
      Files.differAt_setFile (by rw [hfile]; rfl) _
    exact ⟨hsql, run_of_differAt hwords hwords' hfiles hsql rfl⟩

/-- A command line with a configuration file, and more words. -/
def configWords (more : List String) : List String :=
  ["in.json", "--table", "t", "--config", "c.json"] ++ more

def configOptions (oneToMany? rowItem? : Option String) (strict : Bool) : Options :=
  { tableOptions with config? := some "c.json", oneToMany?, rowItem?, strict }

/-- Files for such a command line. -/
def configFiles (input config : String) : Files :=
  ⟨[], [(["in.json"], .text input), (["c.json"], .text config)]⟩

/-- A text that compat mode takes for an expression. -/
def callRows : String := "[\x7b\"id\":\"f(1)\"\x7d]"

/-- A separator that is going to be replaced. -/
def semicolonConfig : String := "\x7b\"row_item_delimiter\":\";\"\x7d"

/-- The separator that replaces it, in strict mode. -/
def commaConfig : String := "\x7b\"row_item_delimiter\":\",\",\"strict\":true\x7d"

theorem run_amended_commaConfig :
    (∀ fault, (run (configWords ["--row-delimiter", ",", "--strict"])
        (configFiles callRows semicolonConfig)).1 ≠ .failed (.seeding (.invalidConfig fault))) ∧
    (run (configWords ["--row-delimiter", ",", "--strict"])
        (configFiles callRows semicolonConfig)).1 =
      .succeeded "INSERT INTO t (id) VALUES ('f(1)');\n" ∧
    (run (configWords [])
        ((configFiles callRows semicolonConfig).setFile ["c.json"] (.text commaConfig))).1 =
      .succeeded "INSERT INTO t (id) VALUES ('f(1)');\n" := by
  have hwords : Options.parse? (configWords ["--row-delimiter", ",", "--strict"]) =
      some (configOptions none (some ",") true) := by decide +kernel
  have hplain : Options.parse? (configWords []) =
      some (configOptions none (some ",") true).withoutOverrides := by decide +kernel
  have hconfig : (configOptions none (some ",") true).HoldsConfig
      (configFiles callRows semicolonConfig).read? "c.json" semicolonConfig
      ⟨.standard, ";", .compat⟩ := ⟨rfl, by decide +kernel, by decide +kernel⟩
  obtain ⟨hrefused, -, -, halike⟩ := run_amended hwords hconfig
  have hprinted : (run (configWords ["--row-delimiter", ",", "--strict"])
      (configFiles callRows semicolonConfig)).1 =
        .succeeded "INSERT INTO t (id) VALUES ('f(1)');\n" := by decide +kernel
  obtain ⟨-, houtcome, -⟩ := halike (by decide +kernel) _ ["c.json"] commaConfig hplain
    (by decide +kernel) (by decide +kernel) (by decide +kernel)
  refine ⟨fun fault h => ?_, hprinted, houtcome.trans hprinted⟩
  have hnone : (Config.fault? ⟨.standard, ";", .compat⟩).or
      ((configOptions none (some ",") true).amend ⟨.standard, ";", .compat⟩).fault? = none := by
    decide +kernel
  rw [hrefused, hnone] at h
  cases h

/-- The one-to-many delimiter of this file is not usable with the standard many-to-many
delimiter. -/
def starsConfig : String := "\x7b\"one_to_many_delimiter\":\"***\"\x7d"

/-- A usable delimiter that is given for it does not help. -/
theorem run_starsConfig_refused :
    Options.parse? (configWords ["--one-to-many-delimiter", "**"]) =
      some (configOptions (some "**") none false) ∧
    (configOptions (some "**") none false).HoldsConfig
      (configFiles "[\x7b\"id\":\"1\"\x7d]" starsConfig).read? "c.json" starsConfig
      ⟨⟨"***", "***"⟩, "|", .compat⟩ ∧
    ((configOptions (some "**") none false).amend ⟨⟨"***", "***"⟩, "|", .compat⟩).Valid ∧
    (run (configWords ["--one-to-many-delimiter", "**"])
        (configFiles "[\x7b\"id\":\"1\"\x7d]" starsConfig)).1 =
      .failed (.seeding (.invalidConfig (.overlapping ⟨"***", "***"⟩))) := by
  refine ⟨by decide +kernel, ⟨rfl, by decide +kernel, by decide +kernel⟩, by decide +kernel, ?_⟩
  decide +kernel

end SeedScript.Command
