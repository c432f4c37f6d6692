import TypedClient.Proofs.Files
import TypedClient.Proofs.SettingsOrigin

/-!
# What a run finds

A run goes through five stages: settings, schema, documents, generation, writing. What each of them
finds, and what can go wrong with it, is said here in terms of the files before the run and the
options of the command line, without reference to how a run goes. All of it is determined by the
files and the options, and a stage has one fault at most.
-/

namespace TypedClient

/-! ## What a run finds -/

/-- The texts at the paths, in order. -/
def ReadsAll (files : Snapshot) (paths texts : List String) : Prop :=
  List.Forall₂ (fun path text => files.read path = .ok text) paths texts

/-- The path is the first one that cannot be read. -/
def FirstUnreadable (files : Snapshot) (paths : List String) (path : String) (fault : FileFault) :
    Prop :=
  ∃ before after, paths = before ++ path :: after ∧
    (∀ p ∈ before, ∃ text, files.read p = .ok text) ∧ files.read path = .error fault

/-- The entries of the settings file, whose settings have to be valid on their own. Without a file
there are none. -/
inductive ConfigEntries (files : Snapshot) (a : Arguments) : List (String × TomlValue) → Prop where
  | absent (h : a.config = none) : ConfigEntries files a []
  | file {path text entries base} (h : a.config = some path) (readable : files.read path = .ok text)
      (parses : TomlValue.parse text = some entries) (accepted : Settings.read text = .ok base)
      (valid : base.validate = .ok ()) : ConfigEntries files a entries

/-- The settings that a run works with. -/
structure EffectiveSettings (files : Snapshot) (a : Arguments) (s : Settings) : Prop where
  merged : ∃ entries, ConfigEntries files a entries ∧ Merges a entries s
  valid : s.validate = .ok ()

/-- The module that a run generates. -/
def Generates (files : Snapshot) (a : Arguments) (m : ClientModule) : Prop :=
  ∃ s schemaTexts documentTexts, EffectiveSettings files a s ∧
    ReadsAll files a.schema schemaTexts ∧ ReadsAll files a.documents documentTexts ∧
      ClientModule.ofTexts schemaTexts documentTexts s = .ok m

/-! ## What can go wrong -/

inductive RunStage where
  | config
  | schema
  | documents
  | generation
  | writing
deriving DecidableEq

/-- The place of a stage in a run. -/
def RunStage.index : RunStage → Nat
  | config => 0
  | schema => 1
  | documents => 2
  | generation => 3
  | writing => 4

/-- A fault of a stage, and the failure of a run that meets it. -/
inductive RunFault (files : Snapshot) (a : Arguments) : RunStage → Failure → Prop where
  | unreadableConfig {path fault} (h : a.config = some path)
      (unreadable : files.read path = .error fault) :
      RunFault files a .config (.config (.file fault))
  | badConfig {path text e} (h : a.config = some path) (readable : files.read path = .ok text)
      (bad : Settings.ofToml text = .error e) :
      RunFault files a .config (.config (.config (.inFile path e)))
  | invalidSettings {entries s e} (config : ConfigEntries files a entries)
      (merged : Merges a entries s) (invalid : s.validate = .error e) :
      RunFault files a .config (.config (.config (.invalid e)))
  | noSchema (h : a.schema = []) : RunFault files a .schema .noSchema
  | unreadableSchema {path fault} (h : FirstUnreadable files a.schema path fault) :
      RunFault files a .schema (.schema (.source path fault))
  | unreadableDocument {path fault} (h : FirstUnreadable files a.documents path fault) :
      RunFault files a .documents (.documents (.source path fault))
  | notGenerated {s schemaTexts documentTexts e} (settings : EffectiveSettings files a s)
      (schema : ReadsAll files a.schema schemaTexts)
      (documents : ReadsAll files a.documents documentTexts)
      (h : ClientModule.ofTexts schemaTexts documentTexts s = .error e) :
      RunFault files a .generation (.generation e)
  | unwritable {m path fault} (generated : Generates files a m) (h : a.out = some path)
      (fails : files.write path m.content = .error fault) :
      RunFault files a .writing (.writing path fault)

/-- The first `n` stages have no fault. -/
def Faultless (files : Snapshot) (a : Arguments) (n : Nat) : Prop :=
  ∀ stage : RunStage, stage.index < n → ∀ failure, ¬ RunFault files a stage failure

/-- The fault of the earliest stage that has one. -/
def FirstRunFault (files : Snapshot) (a : Arguments) (failure : Failure) : Prop :=
  ∃ stage, RunFault files a stage failure ∧ Faultless files a stage.index

variable {files : Snapshot} {a : Arguments}

/-! ## What is found is determined -/

theorem ReadsAll.eq {paths texts texts' : List String} (h : ReadsAll files paths texts)
    (h' : ReadsAll files paths texts') : texts = texts' := by
  induction h generalizing texts' with
  | nil =>
    cases h'
    rfl
  | cons hread _ ih =>
    obtain ⟨text', rest', hread', hrest', rfl⟩ := List.forall₂_cons_left_iff.1 h'
    rw [hread] at hread'
    cases hread'
    rw [ih hrest']

theorem FirstUnreadable.not_readsAll {paths texts : List String} {path : String}
    {fault : FileFault} (h : FirstUnreadable files paths path fault) :
    ¬ ReadsAll files paths texts := by
  obtain ⟨before, after, rfl, -, hread⟩ := h
  intro hall
  obtain ⟨text, -, htext⟩ := exists_mem_of_forall₂ hall.flip
    (show path ∈ before ++ path :: after by simp)
  rw [hread] at htext
  cases htext

theorem FirstUnreadable.cons_iff {first : String} {paths : List String} {path : String}
    {fault : FileFault} :
    FirstUnreadable files (first :: paths) path fault ↔
      first = path ∧ files.read first = .error fault ∨
        (∃ text, files.read first = .ok text) ∧ FirstUnreadable files paths path fault := by
  constructor
  · rintro ⟨before, after, hsplit, hbefore, hread⟩
    cases before with
    | nil =>
      cases hsplit
      exact .inl ⟨rfl, hread⟩
    | cons p before =>
      cases hsplit
      refine .inr ⟨hbefore first List.mem_cons_self, before, after, rfl, ?_, hread⟩
      exact fun p hp => hbefore p (List.mem_cons_of_mem first hp)
  · rintro (⟨rfl, hread⟩ | ⟨hfirst, before, after, rfl, hbefore, hread⟩)
    · exact ⟨[], paths, rfl, by simp, hread⟩
    · refine ⟨first :: before, after, rfl, fun p hp => ?_, hread⟩
      rcases List.mem_cons.1 hp with rfl | hp
      · exact hfirst
      · exact hbefore p hp

theorem FirstUnreadable.eq {paths : List String} {path path' : String} {fault fault' : FileFault}
    (h : FirstUnreadable files paths path fault) (h' : FirstUnreadable files paths path' fault') :
    path = path' ∧ fault = fault' := by
  induction paths with
  | nil =>
    obtain ⟨before, after, hsplit, -⟩ := h
    simp at hsplit
  | cons first paths ih =>
    rcases cons_iff.1 h with ⟨rfl, hread⟩ | ⟨⟨text, hread⟩, h⟩ <;>
      rcases cons_iff.1 h' with ⟨rfl, hread'⟩ | ⟨⟨text', hread'⟩, h'⟩
    · rw [hread] at hread'
      cases hread'
      exact ⟨rfl, rfl⟩
    · rw [hread] at hread'
      cases hread'
    · rw [hread] at hread'
      cases hread'
    · exact ih h h'

theorem ofToml_eq_ok_iff {text : String} {s : Settings} :
    Settings.ofToml text = .ok s ↔ Settings.read text = .ok s ∧ s.validate = .ok () := by
  unfold Settings.ofToml
  cases Settings.read text with
  | error e =>
    refine iff_of_false ?_ ?_
    · intro h
      cases h
    · rintro ⟨h, -⟩
      cases h
  | ok s' =>
    show (s'.validate.mapError ConfigError.invalid >>= fun _ => pure s') = .ok s ↔ _
    cases hvalid : s'.validate with
    | error e =>
      refine iff_of_false ?_ ?_
      · intro h
        cases h
      · rintro ⟨h, h'⟩
        cases h
        rw [hvalid] at h'
        cases h'
    | ok u =>
      constructor
      · intro h
        cases h
        exact ⟨rfl, hvalid⟩
      · rintro ⟨h, -⟩
        cases h
        rfl

theorem ConfigEntries.eq {entries entries' : List (String × TomlValue)}
    (h : ConfigEntries files a entries) (h' : ConfigEntries files a entries') :
    entries = entries' := by
  cases h with
  | absent h =>
    cases h' with
    | absent _ => rfl
    | file h' _ _ _ _ =>
      rw [h] at h'
      cases h'
  | file h readable parses _ _ =>
    cases h' with
    | absent h' =>
      rw [h] at h'
      cases h'
    | file h' readable' parses' _ _ =>
      rw [h] at h'
      cases h'
      rw [readable] at readable'
      cases readable'
      rw [parses] at parses'
      exact Option.some.inj parses'

theorem ConfigEntries.read_ne_error {entries : List (String × TomlValue)} {path : String}
    {fault : FileFault} (h : ConfigEntries files a entries) (hpath : a.config = some path) :
    files.read path ≠ .error fault := by
  intro unreadable
  cases h with
  | absent h =>
    rw [h] at hpath
    cases hpath
  | file h readable _ _ _ =>
    rw [h] at hpath
    cases hpath
    rw [readable] at unreadable
    cases unreadable

theorem ConfigEntries.ofToml_ne_error {entries : List (String × TomlValue)} {path text : String}
    {e : ConfigError} (h : ConfigEntries files a entries) (hpath : a.config = some path)
    (htext : files.read path = .ok text) : Settings.ofToml text ≠ .error e := by
  intro bad
  cases h with
  | absent h =>
    rw [h] at hpath
    cases hpath
  | file h readable _ accepted valid =>
    rw [h] at hpath
    cases hpath
    rw [readable] at htext
    cases htext
    rw [ofToml_eq_ok_iff.2 ⟨accepted, valid⟩] at bad
    cases bad

theorem EffectiveSettings.eq {s s' : Settings} (h : EffectiveSettings files a s)
    (h' : EffectiveSettings files a s') : s = s' := by
  obtain ⟨entries, hentries, hmerged⟩ := h.merged
  obtain ⟨entries', hentries', hmerged'⟩ := h'.merged
  cases hentries.eq hentries'
  exact hmerged.eq hmerged'

/-- Settings and texts are determined, so what is made from them is, too. -/
theorem ofTexts_eq_of_found {s s' : Settings}
    {schemaTexts schemaTexts' documentTexts documentTexts' : List String}
    (settings : EffectiveSettings files a s) (settings' : EffectiveSettings files a s')
    (schema : ReadsAll files a.schema schemaTexts) (schema' : ReadsAll files a.schema schemaTexts')
    (documents : ReadsAll files a.documents documentTexts)
    (documents' : ReadsAll files a.documents documentTexts') :
    ClientModule.ofTexts schemaTexts documentTexts s =
      ClientModule.ofTexts schemaTexts' documentTexts' s' := by
  rw [settings.eq settings', schema.eq schema', documents.eq documents']

theorem Generates.eq {m m' : ClientModule} (h : Generates files a m) (h' : Generates files a m') :
    m = m' := by
  obtain ⟨s, schemaTexts, documentTexts, settings, schema, documents, hm⟩ := h
  obtain ⟨s', schemaTexts', documentTexts', settings', schema', documents', hm'⟩ := h'
  rw [ofTexts_eq_of_found settings settings' schema schema' documents documents', hm'] at hm
  exact (Except.ok.inj hm).symm

/-- A module and an error do not come from the same files. -/
theorem Generates.not_error {m : ClientModule} {s : Settings}
    {schemaTexts documentTexts : List String} {e : Error} (h : Generates files a m)
    (settings : EffectiveSettings files a s) (schema : ReadsAll files a.schema schemaTexts)
    (documents : ReadsAll files a.documents documentTexts) :
    ClientModule.ofTexts schemaTexts documentTexts s ≠ .error e := by
  obtain ⟨s', schemaTexts', documentTexts', settings', schema', documents', hm⟩ := h
  rw [ofTexts_eq_of_found settings settings' schema schema' documents documents', hm]
  exact nofun

/-! ## Stages without a fault -/

theorem EffectiveSettings.no_config_fault {s : Settings} (h : EffectiveSettings files a s)
    (failure : Failure) : ¬ RunFault files a .config failure := by
  obtain ⟨entries, hentries, hmerged⟩ := h.merged
  intro hfault
  cases hfault with
  | unreadableConfig hpath unreadable => exact hentries.read_ne_error hpath unreadable
  | badConfig hpath readable bad => exact hentries.ofToml_ne_error hpath readable bad
  | invalidSettings config merged invalid =>
    cases hentries.eq config
    cases hmerged.eq merged
    rw [h.valid] at invalid
    cases invalid

theorem ReadsAll.no_schema_fault {texts : List String} (h : ReadsAll files a.schema texts)
    (hsome : a.schema ≠ []) (failure : Failure) : ¬ RunFault files a .schema failure := by
  intro hfault
  cases hfault with
  | noSchema hnone => exact hsome hnone
  | unreadableSchema hfirst => exact hfirst.not_readsAll h

theorem ReadsAll.no_document_fault {texts : List String} (h : ReadsAll files a.documents texts)
    (failure : Failure) : ¬ RunFault files a .documents failure := by
  intro hfault
  cases hfault with
  | unreadableDocument hfirst => exact hfirst.not_readsAll h

theorem Generates.no_generation_fault {m : ClientModule} (h : Generates files a m)
    (failure : Failure) : ¬ RunFault files a .generation failure := by
  intro hfault
  cases hfault with
  | notGenerated settings schema documents herror =>
    exact h.not_error settings schema documents herror

theorem no_writing_fault (hout : a.out = none) (failure : Failure) :
    ¬ RunFault files a .writing failure := by
  intro hfault
  cases hfault with
  | unwritable _ hpath _ => cases hout.symm.trans hpath

theorem Generates.no_writing_fault {m : ClientModule} {path : String}
    (h : Generates files a m) (hout : a.out = some path)
    (hwrite : files.write path m.content = .ok ()) (failure : Failure) :
    ¬ RunFault files a .writing failure := by
  intro hfault
  cases hfault with
  | unwritable generated hpath fails =>
    cases h.eq generated
    cases hout.symm.trans hpath
    cases hwrite.symm.trans fails

/-- A stage has one fault at most. -/
theorem RunFault.eq {stage : RunStage} {failure failure' : Failure}
    (h : RunFault files a stage failure) (h' : RunFault files a stage failure') :
    failure = failure' := by
  cases h with
  | unreadableConfig hpath unreadable =>
    cases h' with
    | unreadableConfig hpath' unreadable' =>
      cases hpath.symm.trans hpath'
      cases unreadable.symm.trans unreadable'
      rfl
    | badConfig hpath' readable _ =>
      cases hpath.symm.trans hpath'
      cases unreadable.symm.trans readable
    | invalidSettings config _ _ => exact absurd unreadable (config.read_ne_error hpath)
  | badConfig hpath readable bad =>
    cases h' with
    | unreadableConfig hpath' unreadable =>
      cases hpath.symm.trans hpath'
      cases readable.symm.trans unreadable
    | badConfig hpath' readable' bad' =>
      cases hpath.symm.trans hpath'
      cases readable.symm.trans readable'
      cases bad.symm.trans bad'
      rfl
    | invalidSettings config _ _ => exact absurd bad (config.ofToml_ne_error hpath readable)
  | invalidSettings config merged invalid =>
    cases h' with
    | unreadableConfig hpath unreadable => exact absurd unreadable (config.read_ne_error hpath)
    | badConfig hpath readable bad => exact absurd bad (config.ofToml_ne_error hpath readable)
    | invalidSettings config' merged' invalid' =>
      cases config.eq config'
      cases merged.eq merged'
      cases invalid.symm.trans invalid'
      rfl
  | noSchema hnone =>
    cases h' with
    | noSchema _ => rfl
    | unreadableSchema hfirst =>
      rw [hnone] at hfirst
      exact absurd .nil hfirst.not_readsAll
  | unreadableSchema hfirst =>
    cases h' with
    | noSchema hnone =>
      rw [hnone] at hfirst
      exact absurd .nil hfirst.not_readsAll
    | unreadableSchema hfirst' =>
      obtain ⟨rfl, rfl⟩ := hfirst.eq hfirst'
      rfl
  | unreadableDocument hfirst =>
    cases h' with
    | unreadableDocument hfirst' =>
      obtain ⟨rfl, rfl⟩ := hfirst.eq hfirst'
      rfl
  | notGenerated settings schema documents herror =>
    cases h' with
    | notGenerated settings' schema' documents' herror' =>
      rw [ofTexts_eq_of_found settings settings' schema schema' documents documents'] at herror
      cases herror.symm.trans herror'
      rfl
  | unwritable generated hout fails =>
    cases h' with
    | unwritable generated' hout' fails' =>
      cases generated.eq generated'
      cases hout.symm.trans hout'
      cases fails.symm.trans fails'
      rfl

theorem RunStage.index_injective {stage stage' : RunStage} (h : stage.index = stage'.index) :
    stage = stage' := by
  cases stage <;> cases stage' <;> simp_all [index]

theorem Faultless.succ {stage : RunStage} (h : Faultless files a stage.index)
    (hstage : ∀ failure, ¬ RunFault files a stage failure) :
    Faultless files a (stage.index + 1) := by
  intro other hlt
  rcases Nat.lt_succ_iff_lt_or_eq.1 hlt with hlt | heq
  · exact h other hlt
  · cases RunStage.index_injective heq
    exact hstage

theorem Faultless.not_firstRunFault {failure : Failure} (h : Faultless files a 5) :
    ¬ FirstRunFault files a failure := by
  rintro ⟨stage, hfault, -⟩
  have hlt : stage.index < 5 := by cases stage <;> decide
  exact h stage hlt failure hfault

theorem FirstRunFault.eq {failure failure' : Failure} (h : FirstRunFault files a failure)
    (h' : FirstRunFault files a failure') : failure = failure' := by
  obtain ⟨stage, hfault, hearlier⟩ := h
  obtain ⟨stage', hfault', hearlier'⟩ := h'
  rcases Nat.lt_trichotomy stage.index stage'.index with hlt | heq | hlt
  · exact absurd hfault (hearlier' stage hlt failure)
  · cases RunStage.index_injective heq
    exact hfault.eq hfault'
  · exact absurd hfault' (hearlier stage' hlt failure')

end TypedClient
