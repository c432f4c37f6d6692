import TypedClient.Proofs.ImportedTypes
import TypedClient.Proofs.RunFaults

/-!
# Runs of the command line

What a run does to the files it finds, in any surroundings where reading changes nothing and a write
is done or not done. A fault ends the run before anything is written; only a run in which all stages
succeed writes, once and at its end. So every text that is read is that of a file as it was before
the run, also when the module replaces one of these files.

A stage that only reads is described by `Run.Looks`: it has one outcome, in all surroundings that
act alike on the files as they are, and it leaves the files alone.
-/

namespace TypedClient

namespace Run

variable {σ α β : Type} {world : Surroundings (StateM σ)} {files : σ} {a : Arguments}

/-! ## Stages that only read -/

/-- In all surroundings that act like `world` on the files, the stage ends in `r` and leaves
`after`. -/
def Ends (world : Surroundings (StateM σ)) (files : σ)
    (stage : Surroundings (StateM σ) → Step (StateM σ) α) (r : Except Failure α) (after : σ) :
    Prop :=
  ∀ w, w.ActsLike world files → Id.run ((stage w).run.run files) = (r, after)

/-- The stage ends in `r` and leaves the files alone. -/
abbrev Looks (world : Surroundings (StateM σ)) (files : σ)
    (stage : Surroundings (StateM σ) → Step (StateM σ) α) (r : Except Failure α) : Prop :=
  Ends world files stage r files

theorem looks_pure (x : α) : Looks world files (fun _ => pure x) (.ok x) :=
  fun _ _ => rfl

theorem looks_throw (failure : Failure) :
    Looks world files (fun _ => throw failure) (.error failure : Except Failure α) :=
  fun _ _ => rfl

theorem looks_check (failure : Error → Failure) (x : Except Error α) :
    Looks world files (fun _ => check failure x) (x.mapError failure) := by
  cases x with
  | error e => exact looks_throw (failure e)
  | ok b => exact looks_pure b

/-- One step of the surroundings. -/
theorem ends_lift {step : Surroundings (StateM σ) → StateM σ α} {b : α} {after : σ}
    (h : ∀ w, w.ActsLike world files → Id.run ((step w).run files) = (b, after)) :
    Ends world files (fun w => liftM (step w)) (.ok b) after := by
  intro w hw
  show Id.run ((Except.ok <$> step w).run files) = _
  rw [StateT.run_map, Id.run_map, h w hw]

theorem ends_put (world : Surroundings (StateM σ)) (files : σ) (path text : String) :
    Ends world files (fun w => liftM (w.write path text)) (.ok (world.put files path text).1)
      (world.put files path text).2 :=
  ends_lift fun _ hw => congrArg Id.run (hw.write path text)

theorem Ends.bind {x : Surroundings (StateM σ) → Step (StateM σ) α}
    {f : Surroundings (StateM σ) → α → Step (StateM σ) β} {b : α} {middle after : σ}
    {r : Except Failure β} (hx : Ends world files x (.ok b) middle)
    (hf : ∀ w, w.ActsLike world files → Id.run ((f w b).run.run middle) = (r, after)) :
    Ends world files (fun w => x w >>= f w) r after := by
  intro w hw
  rw [ExceptT.run_bind, StateT.run_bind, Id.run_bind, hx w hw]
  exact hf w hw

theorem Looks.bind {x : Surroundings (StateM σ) → Step (StateM σ) α}
    {f : Surroundings (StateM σ) → α → Step (StateM σ) β} {b : α} {after : σ}
    {r : Except Failure β} (hx : Looks world files x (.ok b))
    (hf : Ends world files (fun w => f w b) r after) :
    Ends world files (fun w => x w >>= f w) r after :=
  Ends.bind hx hf

theorem Looks.bind_error {x : Surroundings (StateM σ) → Step (StateM σ) α} {failure : Failure}
    (hx : Looks world files x (.error failure))
    (f : Surroundings (StateM σ) → α → Step (StateM σ) β) :
    Looks world files (fun w => x w >>= f w) (.error failure) := by
  intro w hw
  rw [ExceptT.run_bind, StateT.run_bind, Id.run_bind, hx w hw]
  rfl

theorem looks_readText (lawful : world.Lawful) (files : σ) (failure : FileFault → Failure)
    (path : String) :
    Looks world files (fun w => readText w failure path)
      ((world.textAt files path).mapError failure) := by
  have hread :
      Looks world files (fun w => liftM (w.read path)) (.ok (world.textAt files path)) := by
    refine ends_lift fun w hw => ?_
    rw [hw.read]
    exact Prod.ext rfl (lawful.read files path)
  refine hread.bind ?_
  cases world.textAt files path with
  | error fault => exact looks_throw (failure fault)
  | ok text => exact looks_pure text

/-! ## The settings -/

theorem baseSettings_cases (lawful : world.Lawful) (files : σ) (a : Arguments) :
    (∃ failure, RunFault (world.snapshot files) a .config failure ∧
        Looks world files (fun w => baseSettings w a) (.error failure)) ∨
      ∃ entries base, ConfigEntries (world.snapshot files) a entries ∧
        (∀ k, base.get? k = (entries.lookup k).or (({} : Settings).get? k)) ∧
          Looks world files (fun w => baseSettings w a) (.ok base) := by
  unfold baseSettings
  cases hconfig : a.config with
  | none => exact .inr ⟨[], {}, .absent hconfig, fun _ => rfl, looks_pure _⟩
  | some path =>
    dsimp only
    unfold fileSettings
    have hread := looks_readText lawful files (fun fault => .config (.file fault)) path
    cases htext : world.textAt files path with
    | error fault =>
      rw [htext] at hread
      exact .inl ⟨_, .unreadableConfig hconfig htext, hread.bind_error _⟩
    | ok text =>
      rw [htext] at hread
      cases hbase : Settings.ofToml text with
      | error e =>
        refine .inl ⟨_, .badConfig hconfig htext hbase, hread.bind ?_⟩
        rw [hbase]
        exact looks_check _ _
      | ok base =>
        obtain ⟨accepted, valid⟩ := ofToml_eq_ok_iff.1 hbase
        obtain ⟨entries, parses, hentries⟩ := Settings.get?_read accepted
        refine .inr ⟨entries, base, .file hconfig htext parses accepted valid, hentries,
          hread.bind ?_⟩
        rw [hbase]
        exact looks_check _ _

theorem settings_cases (lawful : world.Lawful) (files : σ) (a : Arguments) :
    (∃ failure, RunFault (world.snapshot files) a .config failure ∧
        Looks world files (fun w => settings w a) (.error failure)) ∨
      ∃ s, EffectiveSettings (world.snapshot files) a s ∧
        Looks world files (fun w => settings w a) (.ok s) := by
  unfold settings
  obtain ⟨failure, hfault, hbase⟩ | ⟨entries, base, config, hentries, hbase⟩ :=
    baseSettings_cases lawful files a
  · exact .inl ⟨failure, hfault, hbase.bind_error _⟩
  · have merged := merges_override hentries a
    cases hvalid : (override a base).validate with
    | error e =>
      refine .inl ⟨_, .invalidSettings config merged hvalid, hbase.bind ?_⟩
      dsimp only
      rw [hvalid]
      exact (looks_check _ _).bind_error _
    | ok u =>
      refine .inr ⟨override a base, ⟨⟨entries, config, merged⟩, hvalid⟩, hbase.bind ?_⟩
      dsimp only
      rw [hvalid]
      exact (looks_check _ _).bind (looks_pure _)

/-! ## The texts -/

/-- The texts are read in order, up to the first that cannot be read. -/
theorem sources_cases (lawful : world.Lawful) (files : σ) (failure : Error → Failure)
    (paths : List String) :
    (∃ path fault, FirstUnreadable (world.snapshot files) paths path fault ∧
        Looks world files (fun w => sources w failure paths)
          (.error (failure (.source path fault)))) ∨
      ∃ texts, ReadsAll (world.snapshot files) paths texts ∧
        Looks world files (fun w => sources w failure paths) (.ok texts) := by
  induction paths with
  | nil => exact .inr ⟨[], .nil, looks_pure []⟩
  | cons first paths ih =>
    have hread := looks_readText lawful files (fun fault => failure (.source first fault)) first
    cases hfirst : world.textAt files first with
    | error fault =>
      rw [hfirst] at hread
      exact .inl ⟨first, fault, FirstUnreadable.cons_iff.2 (.inl ⟨rfl, hfirst⟩),
        hread.bind_error _⟩
    | ok text =>
      rw [hfirst] at hread
      obtain ⟨path, fault, hfault, hrest⟩ | ⟨texts, htexts, hrest⟩ := ih
      · exact .inl ⟨path, fault, FirstUnreadable.cons_iff.2 (.inr ⟨⟨text, hfirst⟩, hfault⟩),
          hread.bind (hrest.bind_error _)⟩
      · exact .inr ⟨text :: texts, .cons hfirst htexts, hread.bind (hrest.bind (looks_pure _))⟩

theorem schemaTexts_cases (lawful : world.Lawful) (files : σ) {a : Arguments}
    (hurl : a.url = none) :
    (∃ failure, RunFault (world.snapshot files) a .schema failure ∧
        Looks world files (fun w => schemaTexts w a) (.error failure)) ∨
      ∃ texts, a.schema ≠ [] ∧ ReadsAll (world.snapshot files) a.schema texts ∧
        Looks world files (fun w => schemaTexts w a) (.ok texts) := by
  unfold schemaTexts
  rw [hurl]
  by_cases hnone : a.schema = []
  · refine .inl ⟨_, .noSchema hnone, ?_⟩
    simp only [hnone, List.isEmpty_nil, if_true]
    exact looks_throw _
  · have hsome : a.schema.isEmpty = false := by simpa using hnone
    simp only [hsome, Bool.false_eq_true, if_false]
    obtain ⟨path, fault, hfault, hlooks⟩ | ⟨texts, htexts, hlooks⟩ :=
      sources_cases lawful files .schema a.schema
    · exact .inl ⟨_, .unreadableSchema hfault, hlooks⟩
    · exact .inr ⟨texts, hnone, htexts, hlooks⟩

theorem documentTexts_cases (lawful : world.Lawful) (files : σ) (a : Arguments) :
    (∃ failure, RunFault (world.snapshot files) a .documents failure ∧
        Looks world files (fun w => sources w .documents a.documents) (.error failure)) ∨
      ∃ texts, ReadsAll (world.snapshot files) a.documents texts ∧
        Looks world files (fun w => sources w .documents a.documents) (.ok texts) := by
  obtain ⟨path, fault, hfault, hlooks⟩ | hreads :=
    sources_cases lawful files .documents a.documents
  · exact .inl ⟨_, .unreadableDocument hfault, hlooks⟩
  · exact .inr hreads

/-! ## The module -/

theorem module_cases {s : Settings} {schemaTexts documentTexts : List String}
    (settings : EffectiveSettings (world.snapshot files) a s)
    (schema : ReadsAll (world.snapshot files) a.schema schemaTexts)
    (documents : ReadsAll (world.snapshot files) a.documents documentTexts) :
    (∃ failure, RunFault (world.snapshot files) a .generation failure ∧
        Looks world files
          (fun _ => check .generation (ClientModule.ofTexts schemaTexts documentTexts s))
          (.error failure)) ∨
      ∃ m, Generates (world.snapshot files) a m ∧
        Looks world files
          (fun _ => check .generation (ClientModule.ofTexts schemaTexts documentTexts s))
          (.ok m) := by
  cases hmodule : ClientModule.ofTexts schemaTexts documentTexts s with
  | error e =>
    exact .inl ⟨_, .notGenerated settings schema documents hmodule, looks_check _ _⟩
  | ok m =>
    exact .inr ⟨m, ⟨s, schemaTexts, documentTexts, settings, schema, documents, hmodule⟩,
      looks_check _ _⟩

/-- The module goes to the output, or to the file named for it. -/
structure Delivers (world : Surroundings (StateM σ)) (files : σ) (a : Arguments)
    (m : ClientModule) (output : String) (after : σ) : Prop where
  toOutput : a.out = none → output = m.content ∧ after = files
  /-- One write is all that happens to the files. -/
  toFile : ∀ path, a.out = some path →
    output = "" ∧ world.put files path m.content = (.ok (), after)
  /-- If the path leads to a file that keeps its text, the module is read by all paths that lead to
  it, those of schema and documents too, and no other text changes. -/
  replaced : ∀ path, a.out = some path → ∀ same, world.Keeps files path same → ∀ q,
    (same q → world.textAt after q = .ok m.content) ∧
      (¬ same q → ∀ text, world.textAt after q = .ok text ↔ world.textAt files q = .ok text)

theorem deliver_cases (lawful : world.Lawful) {m : ClientModule}
    (hm : Generates (world.snapshot files) a m) :
    (∃ failure, RunFault (world.snapshot files) a .writing failure ∧
        Looks world files (fun w => deliver w a m.content) (.error failure)) ∨
      ∃ output after, Delivers world files a m output after ∧
        (∀ failure, ¬ RunFault (world.snapshot files) a .writing failure) ∧
          Ends world files (fun w => deliver w a m.content) (.ok output) after := by
  unfold deliver
  cases hout : a.out with
  | none =>
    have hdelivers : Delivers world files a m m.content files :=
      { toOutput := fun _ => ⟨rfl, rfl⟩
        toFile := fun path hpath => by cases hout.symm.trans hpath
        replaced := fun path hpath => by cases hout.symm.trans hpath }
    exact .inr ⟨m.content, files, hdelivers, no_writing_fault hout, looks_pure _⟩
  | some path =>
    have hends := ends_put world files path m.content
    cases hput : world.put files path m.content with
    | mk answer after =>
      rw [hput] at hends
      cases answer with
      | error fault =>
        have hfails : (world.put files path m.content).1 = .error fault := by rw [hput]
        have hkept : after = files := by
          have hlaw := lawful.write files path m.content fault hfails
          rwa [hput] at hlaw
        subst hkept
        exact .inl ⟨_, .unwritable hm hout hfails, Looks.bind hends (looks_throw _)⟩
      | ok u =>
        have hdelivers : Delivers world files a m "" after :=
          { toOutput := fun hnone => by cases hout.symm.trans hnone
            toFile := fun path' hpath => by
              cases hout.symm.trans hpath
              exact ⟨rfl, hput⟩
            replaced := fun path' hpath same hkeeps q => by
              cases hout.symm.trans hpath
              exact ⟨hkeeps.there _ _ hput q, hkeeps.elsewhere _ _ hput q⟩ }
        have hwritten : (world.snapshot files).write path m.content = .ok () := by
          show (world.put files path m.content).1 = _
          rw [hput]
        exact .inr ⟨"", after, hdelivers, hm.no_writing_fault hout hwritten,
          hends.bind fun _ _ => rfl⟩

/-! ## Whole runs -/

/-- A run ends with the first fault and leaves the files alone, or without a fault at any of the
five stages it gives away the module. -/
theorem produce_cases (lawful : world.Lawful) (files : σ) {a : Arguments} (hurl : a.url = none) :
    (∃ failure, FirstRunFault (world.snapshot files) a failure ∧
        Looks world files (fun w => produce w a) (.error failure)) ∨
      ∃ m output after, Generates (world.snapshot files) a m ∧
        Delivers world files a m output after ∧ Faultless (world.snapshot files) a 5 ∧
          Ends world files (fun w => produce w a) (.ok output) after := by
  unfold produce
  have hnone : Faultless (world.snapshot files) a RunStage.config.index :=
    fun _ h => absurd h (Nat.not_lt_zero _)
  obtain ⟨failure, hfault, hlooks⟩ | ⟨s, hs, hsettings⟩ := settings_cases lawful files a
  · exact .inl ⟨failure, ⟨.config, hfault, hnone⟩, hlooks.bind_error _⟩
  have hconfig : Faultless (world.snapshot files) a RunStage.schema.index :=
    hnone.succ hs.no_config_fault
  obtain ⟨failure, hfault, hlooks⟩ | ⟨schemaTexts, hsome, hreads, hschema⟩ :=
    schemaTexts_cases lawful files hurl
  · exact .inl ⟨failure, ⟨.schema, hfault, hconfig⟩, hsettings.bind (hlooks.bind_error _)⟩
  have hloaded : Faultless (world.snapshot files) a RunStage.documents.index :=
    hconfig.succ (hreads.no_schema_fault hsome)
  obtain ⟨failure, hfault, hlooks⟩ | ⟨documentTexts, hreads', hdocuments⟩ :=
    documentTexts_cases lawful files a
  · exact .inl ⟨failure, ⟨.documents, hfault, hloaded⟩,
      hsettings.bind (hschema.bind (hlooks.bind_error _))⟩
  have hfound : Faultless (world.snapshot files) a RunStage.generation.index :=
    hloaded.succ hreads'.no_document_fault
  obtain ⟨failure, hfault, hlooks⟩ | ⟨m, hm, hmodule⟩ := module_cases hs hreads hreads'
  · exact .inl ⟨failure, ⟨.generation, hfault, hfound⟩,
      hsettings.bind (hschema.bind (hdocuments.bind (hlooks.bind_error _)))⟩
  have hmade : Faultless (world.snapshot files) a RunStage.writing.index :=
    hfound.succ hm.no_generation_fault
  obtain ⟨failure, hfault, hlooks⟩ | ⟨output, after, hdelivers, hwritten, hends⟩ :=
    deliver_cases lawful hm
  · exact .inl ⟨failure, ⟨.writing, hfault, hmade⟩,
      hsettings.bind (hschema.bind (hdocuments.bind (hmodule.bind hlooks)))⟩
  · exact .inr ⟨m, output, after, hm, hdelivers, hmade.succ hwritten,
      hsettings.bind (hschema.bind (hdocuments.bind (hmodule.bind hends)))⟩

end Run

open Run

/-- The report of a run that ends in `r`. -/
def Report.of : Except Failure String → Report
  | .ok output => .done output
  | .error failure => .failed failure

section

variable {σ : Type} {world : Surroundings (StateM σ)}

theorem Command.run_of_ends {files after : σ} {args : List String} {a : Arguments}
    {r : Except Failure String} (hparse : Command.parse args = .generate a)
    (h : Ends world files (fun w => produce w a) r after) {w : Surroundings (StateM σ)}
    (hw : w.ActsLike world files) : Command.runIn w files args = (Report.of r, after) := by
  unfold Command.runIn Command.run
  rw [hparse, StateT.run_bind, Id.run_bind, h w hw]
  cases r <;> rfl

/-- What a run with the options `a` promises about its report and the files after it. -/
structure RunLaws (world : Surroundings (StateM σ)) (files : σ) (args : List String)
    (a : Arguments) (report : Report) (after : σ) : Prop where
  /-- The run depends on the files as they are at first, and on no later state of them. -/
  initial : ∀ w : Surroundings (StateM σ), w.ActsLike world files →
    Command.runIn w files args = (report, after)
  /-- The first fault, in the order of the stages, is the one that is reported. -/
  fault : ∀ failure, FirstRunFault (world.snapshot files) a failure → report = .failed failure
  failed : report.status = 1 → after = files ∧ report.output = "" ∧
    ∃ failure, FirstRunFault (world.snapshot files) a failure
  done : report.status = 0 → Faultless (world.snapshot files) a 5 ∧
    ∃ m, Generates (world.snapshot files) a m ∧ Delivers world files a m report.output after
  status : report.status = 0 ∨ report.status = 1

/-- A run without an address for the schema writes a complete module or nothing, whatever files
there are, whichever of them is to be replaced, and however paths lead to them. -/
theorem run_writes_module_or_nothing (lawful : world.Lawful) (files : σ) {args : List String}
    {a : Arguments} (hparse : Command.parse args = .generate a) (hurl : a.url = none) :
    RunLaws world files args a (Command.runIn world files args).1
      (Command.runIn world files args).2 := by
  have hself : world.ActsLike world files := ⟨fun _ => rfl, fun _ _ => rfl⟩
  obtain ⟨failure, hfirst, hends⟩ | ⟨m, output, after, hm, hdelivers, hfaultless, hends⟩ :=
    produce_cases lawful files hurl
  · have hrun := Command.run_of_ends hparse hends hself
    rw [hrun]
    exact {
      initial := fun w hw => Command.run_of_ends hparse hends hw
      fault := fun other hother => by
        rw [hother.eq hfirst]
        rfl
      failed := fun _ => ⟨rfl, rfl, failure, hfirst⟩
      done := nofun
      status := .inr rfl }
  · have hrun := Command.run_of_ends hparse hends hself
    rw [hrun]
    exact {
      initial := fun w hw => Command.run_of_ends hparse hends hw
      fault := fun other hother => absurd hother hfaultless.not_firstRunFault
      failed := nofun
      done := fun _ => ⟨hfaultless, m, hm, hdelivers⟩
      status := .inl rfl }

end

def teamSchema : String :=
  "type Query \x7b team: Team open: Boolean \x7d type Team \x7b name: String \x7d"

def teamQuery : String := "query Team \x7b team \x7b name \x7d open \x7d"

def teamConfig : String := "operation_result_suffix = \"Result\"\ntypes_path = \"./types\"\n"

/-- A schema, a document and settings, in a working directory that has a name. -/
def teamFiles : Files where
  entries :=
    [(Path.below ["schema.graphql"], some teamSchema),
      (Path.below ["team.graphql"], some teamQuery),
      (Path.below ["codegen.toml"], some teamConfig)]
  workingDirectory := some ["home", "team"]

/-- The module takes the place of the schema, under another path. -/
def ontoSchema : Arguments where
  schema := ["schema.graphql"]
  url := none
  token := none
  documents := ["team.graphql"]
  out := some "/home/team/schema.graphql"
  config := some "codegen.toml"
  runtimeModule := none
  typesPath := some "./teams"
  dedupeOperationSuffix := false
  omitOperationSuffix := false
  operationResultSuffix := none
  voidTypeName := none

def ontoSchemaWords : List String :=
  ["--schema", "schema.graphql", "--documents", "team.graphql", "--config", "codegen.toml",
    "--types-path", "./teams", "--out", "/home/team/schema.graphql"]

/-- The suffix is that of the file, and the path is that of the option. -/
def teamSettings : Settings where
  typesPath := "./teams"
  operationResultSuffix := "Result"

theorem effectiveSettings_ontoSchema :
    EffectiveSettings (Files.surroundings.snapshot teamFiles) ontoSchema teamSettings where
  merged := by
    have htext : teamFiles.read "codegen.toml" = .ok teamConfig := by decide +kernel
    have hread : Settings.read teamConfig =
        .ok { typesPath := "./types", operationResultSuffix := "Result" } := by decide +kernel
    have hparse : TomlValue.parse teamConfig = some
        [("operation_result_suffix", .string "Result"), ("types_path", .string "./types")] := by
      decide +kernel
    refine ⟨_, .file rfl htext hparse hread (by decide), ?_⟩
    constructor <;> decide
  valid := by decide

/-- What stands in the module comes from the file and from the option. -/
theorem imports_of_ontoSchema {m : ClientModule}
    (hm : Generates (Files.surroundings.snapshot teamFiles) ontoSchema m) :
    m.typeImports = ["TeamQueryResult", "TeamQueryVariables"] ∧ m.typesPath = "./teams" := by
  obtain ⟨s, schemaTexts, documentTexts, settings, schema, documents, hm⟩ := hm
  have hschema : ReadsAll (Files.surroundings.snapshot teamFiles) ontoSchema.schema [teamSchema] :=
    .cons (by decide +kernel) .nil
  have hdocuments :
      ReadsAll (Files.surroundings.snapshot teamFiles) ontoSchema.documents [teamQuery] :=
    .cons (by decide +kernel) .nil
  have himports : (ClientModule.ofTexts [teamSchema] [teamQuery] teamSettings).toOption.map
      (fun m => (m.typeImports, m.typesPath)) =
        some (["TeamQueryResult", "TeamQueryVariables"], "./teams") := by decide +kernel
  rw [← ofTexts_eq_of_found settings effectiveSettings_ontoSchema schema hschema documents
    hdocuments, hm] at himports
  exact Prod.mk.inj (Option.some.inj himports)

theorem run_writes_module_or_nothing_of_ontoSchema :
    Files.surroundings.Lawful ∧ Command.parse ontoSchemaWords = .generate ontoSchema ∧
      ontoSchema.url = none ∧ (Command.runOn teamFiles ontoSchemaWords).1.status = 0 ∧
      ∃ m, Generates (Files.surroundings.snapshot teamFiles) ontoSchema m ∧
        (∃ statement rest,
          ImportStatement "./teams" ["TeamQueryResult", "TeamQueryVariables"] statement ∧
            m.content = m.runtimeImport ++ statement ++ "\n" ++ ClientModule.apiBlock ++ rest) ∧
        (Command.runOn teamFiles ontoSchemaWords).2.read "schema.graphql" = .ok m.content ∧
        (Command.runOn teamFiles ontoSchemaWords).2.read "team.graphql" = .ok teamQuery := by
  have hparse : Command.parse ontoSchemaWords = .generate ontoSchema := by decide +kernel
  have hstatus : (Command.runOn teamFiles ontoSchemaWords).1.status = 0 := by decide +kernel
  have hlaws : RunLaws Files.surroundings teamFiles ontoSchemaWords ontoSchema
      (Command.runOn teamFiles ontoSchemaWords).1 (Command.runOn teamFiles ontoSchemaWords).2 :=
    run_writes_module_or_nothing Files.lawful_surroundings teamFiles hparse rfl
  generalize Command.runOn teamFiles ontoSchemaWords = run at hstatus hlaws ⊢
  obtain ⟨report, after⟩ := run
  obtain ⟨-, m, hm, hdelivers⟩ := hlaws.done hstatus
  -- Both paths lead to one place, and the document has another.
  have hout : teamFiles.resolve "/home/team/schema.graphql" =
      .ok (Path.below ["schema.graphql"]) := by decide +kernel
  have hschema : teamFiles.resolve "schema.graphql" = .ok (Path.below ["schema.graphql"]) := by
    decide +kernel
  have hdocument : teamFiles.resolve "team.graphql" ≠ .ok (Path.below ["schema.graphql"]) := by
    decide +kernel
  have htext : teamFiles.read "team.graphql" = .ok teamQuery := by decide +kernel
  have hreplaced := hdelivers.replaced _ rfl _ (Files.keeps_surroundings hout (by decide))
  simp only [Files.textAt_surroundings] at hreplaced
  obtain ⟨hnames, hpath⟩ := imports_of_ontoSchema hm
  have hcontent := m.content_eq
  rw [hnames, hpath] at hcontent
  exact ⟨Files.lawful_surroundings, hparse, rfl, hstatus, m, hm, hcontent,
    (hreplaced "schema.graphql").1 hschema, ((hreplaced "team.graphql").2 hdocument _).2 htext⟩

end TypedClient
