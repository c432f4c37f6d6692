import TypedClient.ClientModule
import TypedClient.Proofs.FirstFault
import TypedClient.Proofs.Recording

/-!
# Generation

`Project.generate` without its state: the settings are checked, then the input types, then each
definition on its own, and the imports are those of all definitions together.
-/

namespace TypedClient

open Recording (Gives gives_pure)

/-- A traversal gives the outcomes of its items; if all succeed, it records the names of all. -/
theorem Recording.gives_mapM {α β : Type} {f : α → Recording β} {g : α → Except Error β}
    {names : α → List String} (h : ∀ a, Gives (f a) (g a) (names a)) (items : List α) :
    ∃ recorded, Gives (items.mapM f) (items.mapM g) recorded ∧
      ∀ results, items.mapM g = .ok results → recorded = items.flatMap names := by
  induction items with
  | nil =>
    refine ⟨[], gives_pure [], ?_⟩
    intro results _
    rfl
  | cons item items ih =>
    obtain ⟨recorded, hrest, hall⟩ := ih
    have hitem := h item
    rw [List.mapM_cons, List.mapM_cons]
    cases hg : g item with
    | error e =>
      rw [hg] at hitem
      refine ⟨names item, hitem.bind_error _, ?_⟩
      intro results hresults
      cases hresults
    | ok b =>
      rw [hg] at hitem
      refine ⟨names item ++ recorded, hitem.bind ?_, ?_⟩
      · cases hm : items.mapM g with
        | error e =>
          rw [hm] at hrest
          exact hrest.bind_error _
        | ok bs =>
          rw [hm] at hrest
          exact hrest.bind_pure _
      · intro results hresults
        obtain ⟨_, -, hresults⟩ := bind_eq_ok_iff.1 hresults
        obtain ⟨bs, hbs, -⟩ := bind_eq_ok_iff.1 hresults
        rw [hall bs hbs, List.flatMap_cons]

namespace Project

/-- The entry of a definition. -/
def entryOf (p : Project) : Definition → Except Error ModuleEntry
  | .operation op => (p.functionOf op).map .function
  | .fragment f => .ok (.constant f)

/-- What the entry of a definition makes the module import. -/
def entryNames (p : Project) : Definition → List String
  | .operation op => p.functionNames op
  | .fragment _ => []

theorem entry_gives (p : Project) (definition : Definition) :
    Gives (p.entry definition) (p.entryOf definition) (p.entryNames definition) := by
  cases definition with
  | operation op => exact (p.function_gives op).bind_pure ModuleEntry.function
  | fragment f => exact gives_pure _

theorem generate_eq (p : Project) :
    p.generate = (do
      p.settings.validate.mapError fun e => Error.config (.invalid e)
      let inputShapes ← InputShapeMap.ofSchema p.schema
      let entries ← p.documents.definitions.mapM p.entryOf
      return {
        runtimeModule := p.settings.runtimeModule
        typesPath := p.settings.typesPath
        typeImports := importNames (p.documents.definitions.flatMap p.entryNames)
        inputShapes := inputShapes
        entries := entries }) := by
  obtain ⟨recorded, hgives, hall⟩ := Recording.gives_mapM p.entry_gives p.documents.definitions
  have hrun := hgives []
  rw [List.nil_append] at hrun
  unfold generate
  refine bind_congr fun _ => bind_congr fun inputShapes => ?_
  rw [hrun]
  cases hentries : p.documents.definitions.mapM p.entryOf with
  | error e => rfl
  | ok entries => rw [hall entries hentries]

theorem functionOf_eq_ok {p : Project} {op : Operation} {f : OperationFunction}
    (h : p.functionOf op = .ok f) :
    f.kind = op.kind ∧ f.gqlBlock = gqlBlock (fragmentClosure p.documents op.selections) op := by
  unfold functionOf at h
  split at h
  · cases h
  · obtain ⟨result, -, rfl⟩ := map_eq_ok_iff.1 h
    exact ⟨rfl, rfl⟩

/-- A module is generated when the settings are valid and when the input types and all definitions
have their parts of it. -/
theorem generate_eq_ok_iff {p : Project} {m : ClientModule} :
    p.generate = .ok m ↔
      p.settings.validate = .ok () ∧
        ∃ inputShapes, InputShapeMap.ofSchema p.schema = .ok inputShapes ∧
          ∃ entries, p.documents.definitions.mapM p.entryOf = .ok entries ∧
            m = {
              runtimeModule := p.settings.runtimeModule
              typesPath := p.settings.typesPath
              typeImports := importNames (p.documents.definitions.flatMap p.entryNames)
              inputShapes := inputShapes
              entries := entries } := by
  rw [generate_eq, bind_eq_ok_iff]
  constructor
  · rintro ⟨_, hvalid, h⟩
    obtain ⟨inputShapes, hshapes, h⟩ := bind_eq_ok_iff.1 h
    obtain ⟨entries, hentries, h⟩ := bind_eq_ok_iff.1 h
    refine ⟨mapError_eq_ok_iff.1 hvalid, inputShapes, hshapes, entries, hentries, ?_⟩
    exact (Except.ok.inj h).symm
  · rintro ⟨hvalid, inputShapes, hshapes, entries, hentries, rfl⟩
    refine ⟨_, mapError_eq_ok_iff.2 hvalid, bind_eq_ok_iff.2 ⟨inputShapes, hshapes, ?_⟩⟩
    exact bind_eq_ok_iff.2 ⟨entries, hentries, rfl⟩

/-- A module that was generated, part by part. -/
theorem eq_of_generate {p : Project} {m : ClientModule} (h : p.generate = .ok m) :
    ∃ inputShapes entries, p.documents.definitions.mapM p.entryOf = .ok entries ∧
      m = {
        runtimeModule := p.settings.runtimeModule
        typesPath := p.settings.typesPath
        typeImports := importNames (p.documents.definitions.flatMap p.entryNames)
        inputShapes := inputShapes
        entries := entries } := by
  obtain ⟨-, inputShapes, -, entries, hentries, rfl⟩ := generate_eq_ok_iff.1 h
  exact ⟨inputShapes, entries, hentries, rfl⟩

/-- The entries of a module stand in the order of the definitions, each made from its own
definition alone. -/
theorem entries_of_generate {p : Project} {m : ClientModule} (h : p.generate = .ok m) :
    List.Forall₂ (fun definition entry => p.entryOf definition = .ok entry)
      p.documents.definitions m.entries := by
  obtain ⟨inputShapes, entries, hentries, rfl⟩ := eq_of_generate h
  exact mapM_eq_ok_iff.1 hentries

/-- The constants of a module hold the fragments of the documents. -/
theorem constants_of_generate {p : Project} {m : ClientModule} (h : p.generate = .ok m) :
    m.constants = p.documents.fragments := by
  have hentries := entries_of_generate h
  unfold ClientModule.constants DocumentSet.fragments
  generalize p.documents.definitions = definitions at hentries
  generalize m.entries = entries at hentries
  induction hentries with
  | nil => rfl
  | @cons definition entry _ _ hentry _ ih =>
    rw [List.filterMap_cons, List.filterMap_cons, ih]
    cases definition with
    | operation op =>
      obtain ⟨f, -, rfl⟩ := map_eq_ok_iff.1 hentry
      rfl
    | fragment f =>
      obtain rfl := Except.ok.inj hentry
      rfl

/-- The functions of a module are those of the operations of the documents. -/
theorem functions_of_generate {p : Project} {m : ClientModule} (h : p.generate = .ok m) :
    List.Forall₂ (fun op f => p.functionOf op = .ok f) p.documents.operations m.functions := by
  have hentries := entries_of_generate h
  unfold ClientModule.functions DocumentSet.operations
  generalize p.documents.definitions = definitions at hentries
  generalize m.entries = entries at hentries
  induction hentries with
  | nil => exact .nil
  | @cons definition entry _ _ hentry _ ih =>
    cases definition with
    | operation op =>
      obtain ⟨f, hf, rfl⟩ := map_eq_ok_iff.1 hentry
      exact .cons hf ih
    | fragment f =>
      obtain rfl := Except.ok.inj hentry
      exact ih

theorem flatMap_entryNames (p : Project) :
    p.documents.definitions.flatMap p.entryNames =
      p.documents.operations.flatMap p.functionNames := by
  unfold DocumentSet.operations
  induction p.documents.definitions with
  | nil => rfl
  | cons definition definitions ih =>
    rw [List.flatMap_cons, ih]
    cases definition with
    | operation op => rfl
    | fragment f => rfl

end Project

end TypedClient
