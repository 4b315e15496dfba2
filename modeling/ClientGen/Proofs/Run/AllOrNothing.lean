import ClientGen.Proofs.Outcome
import ClientGen.Run.Generate

/-!
# Runs that render everything or change nothing

What can go wrong before a run touches the file tree is listed once, whatever the order in which
a run looks for it: obstacles of the settings, of the document, of the templates and of every
single fragment. A run that meets any of them ends with such an obstacle as its failure and leaves
the file tree as it found it. A run that meets none has rendered all of its fragments, and removes
and writes only then.
-/

namespace ClientGen

open Files

variable {around : Surroundings} {web : Web} {tree : Tree} {tools : Tools}

/-- What is wrong with a file of a folder of templates, and how it is reported. -/
inductive TemplateObstacle (around : Surroundings) (tree : Tree) (engine : TemplateEngine)
    (folder : TemplateFolder) (path : String) : Failure → Prop where
  | unreadable {cause : Files.Failure} (read : tree.read around.start path = .error cause) :
      TemplateObstacle around tree engine folder path (.files cause)
  | unparsable {text : String} (read : tree.read around.start path = .ok text)
      (parsed : engine.read? text = none) :
      TemplateObstacle around tree engine folder path (.template (.unreadable folder.path))

variable {engine : TemplateEngine}

theorem obstacle_of_readTemplates {folder : TemplateFolder} {paths : List String} {e : Failure}
    (h : readTemplates around tree folder paths engine = .error e) :
    ∃ path ∈ paths, TemplateObstacle around tree engine folder path e := by
  unfold readTemplates at h
  rcases bind_eq_error_iff.1 h with h | ⟨texts, htexts, h⟩
  · obtain ⟨path, hpath, h⟩ := exists_of_mapM_eq_error h
    split at h
    · cases h
    · cases h
      exact ⟨path, hpath, .unreadable ‹_›⟩
  · obtain ⟨⟨name, text⟩, htext, h⟩ := exists_of_mapM_eq_error h
    obtain ⟨path, hpath, hread⟩ := exists_left_of_mem (mapM_eq_ok_iff.1 htexts) htext
    split at hread
    · cases hread
      dsimp only at h
      split at h
      · cases h
      · cases h
        exact ⟨path, hpath, .unparsable ‹_› ‹_›⟩
    · cases hread

theorem no_obstacle_of_readTemplates {folder : TemplateFolder} {paths : List String}
    {templates : List (String × Rendering)}
    (h : readTemplates around tree folder paths engine = .ok templates) {path : String}
    (hpath : path ∈ paths) (e : Failure) : ¬TemplateObstacle around tree engine folder path e := by
  obtain ⟨texts, htexts, h⟩ := bind_eq_ok_iff.1 h
  obtain ⟨⟨name, text⟩, htext, hread⟩ := exists_right_of_mem (mapM_eq_ok_iff.1 htexts) hpath
  obtain ⟨template, -, hparsed⟩ := exists_right_of_mem (mapM_eq_ok_iff.1 h) htext
  rintro (hno | ⟨hno, hnone⟩)
  · simp only [hno] at hread
    cases hread
  · simp only [hno] at hread
    cases hread
    simp only [hnone] at hparsed
    cases hparsed

/-- What keeps a run from rendering a document, and how it is reported. -/
inductive Obstacle (around : Surroundings) (tree : Tree) (document : Json) (config : Config)
    (tools : Tools) : Failure → Prop where
  | settings {problem : ConfigProblem} (wrong : config.problem? tools.rule? = some problem) :
      Obstacle around tree document config tools (.config problem)
  | pattern {problem : ConfigProblem}
      (wrong : plan document config tools.rule? = .error problem) :
      Obstacle around tree document config tools (.config problem)
  | folder {cause : Files.Failure}
      (missing : findTemplateFolder around tree config.templateDir = .error cause) :
      Obstacle around tree document config tools (.files cause)
  | template {folder : TemplateFolder} {path : String} {e : Failure}
      (found : findTemplateFolder around tree config.templateDir = .ok (some folder))
      (listed : path ∈ templateFiles around tree folder.path)
      (wrong : TemplateObstacle around tree tools.engine folder path e) :
      Obstacle around tree document config tools e
  | fragment {planned : Plan} {library : TemplateLibrary} {fragment : Fragment} {e : Failure}
      (plans : plan document config tools.rule? = .ok planned)
      (loads : loadTemplates around tree config.templateDir tools.engine = .ok library)
      (emitted : fragment ∈ fragments planned config)
      (wrong : library.render fragment.template fragment.context.toJson = .error e) :
      Obstacle around tree document config tools e

/-- What keeps a run from having a document at all, and how it is reported. -/
inductive LoadObstacle (around : Surroundings) (web : Web) (tree : Tree) (config : Config)
    (tools : Tools) : Failure → Prop where
  | settings {problem : ConfigProblem} (wrong : config.problem? tools.rule? = some problem) :
      LoadObstacle around web tree config tools (.config problem)
  | unreadable {cause : Files.Failure} (path : isWebAddress config.specLocation = false)
      (wrong : tree.read around.start config.specLocation = .error cause) :
      LoadObstacle around web tree config tools (.files cause)
  | unparsable {text : String} (path : isWebAddress config.specLocation = false)
      (read : tree.read around.start config.specLocation = .ok text)
      (wrong : readDocument? text = none) :
      LoadObstacle around web tree config tools (.document (.unreadable config.specLocation))
  | unreachable {address : String} (remote : isWebAddress config.specLocation = true)
      (written : web.address config.specLocation = address)
      (wrong : web.answer address = .unreachable) :
      LoadObstacle around web tree config tools (.network address)
  | refused {address status : String} (remote : isWebAddress config.specLocation = true)
      (written : web.address config.specLocation = address)
      (wrong : web.answer address = .refused status) :
      LoadObstacle around web tree config tools (.document (.refused address status))
  | unparsableAnswer {address text : String} (remote : isWebAddress config.specLocation = true)
      (written : web.address config.specLocation = address)
      (answered : web.answer address = .content text) (wrong : readDocument? text = none) :
      LoadObstacle around web tree config tools (.document (.unreadableFrom address))

/-- All fragments of a document have been rendered: the files are those of the fragments, in
their order. -/
def Renders (around : Surroundings) (tree : Tree) (document : Json) (config : Config)
    (tools : Tools) (prepared : Prepared) : Prop :=
  ∃ planned library, plan document config tools.rule? = .ok planned ∧
    loadTemplates around tree config.templateDir tools.engine = .ok library ∧
    List.Forall₂
      (fun fragment file => file.1 = join config.outputDir fragment.target ∧
        library.render fragment.template fragment.context.toJson = .ok file.2)
      (fragments planned config) prepared.files ∧
    prepared.warnings = planned.warnings

/-- The rest of a run: it removes the output folder on request, writes and runs commands. -/
def publish (around : Surroundings) (config : Config) (tools : Tools) (prepared : Prepared) :
    Action Failure Report := do
  Action.mapFailure .files (writeFiles around.start config prepared.files)
  runHooks around config.outputDir config.postGenerate tools.shell
  return ⟨prepared.files.map (·.1), prepared.warnings⟩

theorem obstacle_of_loadTemplates {document : Json} {config : Config} {e : Failure}
    (h : loadTemplates around tree config.templateDir tools.engine = .error e) :
    Obstacle around tree document config tools e := by
  unfold loadTemplates at h
  split at h
  · cases h
    exact .folder ‹_›
  · cases h
  · rcases bind_eq_error_iff.1 h with h | ⟨_, -, h⟩
    · obtain ⟨path, hpath, hwrong⟩ := obstacle_of_readTemplates h
      exact .template ‹_› hpath hwrong
    · cases h

theorem renderFragment_eq_ok_iff {library : TemplateLibrary} {outputDir : String}
    {fragment : Fragment} {file : String × String} :
    renderFragment library outputDir fragment = .ok file ↔
      file.1 = join outputDir fragment.target ∧
        library.render fragment.template fragment.context.toJson = .ok file.2 := by
  unfold renderFragment
  obtain ⟨path, content⟩ := file
  cases library.render fragment.template fragment.context.toJson with
  | error e => simp [Except.map]
  | ok text => simp [Except.map, eq_comm]

theorem render_of_renderFragment {library : TemplateLibrary} {outputDir : String}
    {fragment : Fragment} {e : Failure} (h : renderFragment library outputDir fragment = .error e) :
    library.render fragment.template fragment.context.toJson = .error e := by
  unfold renderFragment at h
  cases hrender : library.render fragment.template fragment.context.toJson with
  | error _ =>
    rw [hrender] at h
    cases h
    rfl
  | ok _ =>
    rw [hrender] at h
    cases h

theorem prepare_of_problem {document : Json} {config : Config} {problem : ConfigProblem}
    (h : config.problem? tools.rule? = some problem) :
    prepare around tree document config tools = .error (.config problem) := by
  unfold prepare
  rw [h]
  rfl

theorem prepare_of_no_problem {document : Json} {config : Config}
    (h : config.problem? tools.rule? = none) :
    prepare around tree document config tools = do
      let planned ← (plan document config tools.rule?).mapError .config
      let library ← loadTemplates around tree config.templateDir tools.engine
      let files ← (fragments planned config).mapM (renderFragment library config.outputDir)
      return ⟨files, planned.warnings⟩ := by
  unfold prepare
  rw [h]

theorem obstacle_of_prepare {document : Json} {config : Config} {e : Failure}
    (h : prepare around tree document config tools = .error e) :
    Obstacle around tree document config tools e := by
  cases hproblem : config.problem? tools.rule? with
  | some problem =>
    rw [prepare_of_problem hproblem] at h
    cases h
    exact .settings hproblem
  | none =>
    rw [prepare_of_no_problem hproblem] at h
    rcases bind_eq_error_iff.1 h with h | ⟨planned, hplan, h⟩
    · cases hplan : plan document config tools.rule? with
      | error problem =>
        rw [hplan] at h
        cases h
        exact .pattern hplan
      | ok planned =>
        rw [hplan] at h
        cases h
    rw [mapError_eq_ok_iff] at hplan
    rcases bind_eq_error_iff.1 h with h | ⟨library, hlibrary, h⟩
    · exact obstacle_of_loadTemplates h
    rcases bind_eq_error_iff.1 h with h | ⟨files, -, h⟩
    · obtain ⟨fragment, hfragment, h⟩ := exists_of_mapM_eq_error h
      exact .fragment hplan hlibrary hfragment (render_of_renderFragment h)
    · cases h

theorem prepare_eq_ok_iff {document : Json} {config : Config} {prepared : Prepared} :
    prepare around tree document config tools = .ok prepared ↔
      config.problem? tools.rule? = none ∧ Renders around tree document config tools prepared := by
  cases hproblem : config.problem? tools.rule? with
  | some problem => simp [prepare_of_problem hproblem]
  | none =>
    rw [prepare_of_no_problem hproblem]
    simp only [bind_eq_ok_iff, mapError_eq_ok_iff, mapM_eq_ok_iff, renderFragment_eq_ok_iff,
      true_and, Renders]
    constructor
    · rintro ⟨planned, hplan, library, hlibrary, files, hfiles, h⟩
      cases h
      exact ⟨planned, library, hplan, hlibrary, hfiles, rfl⟩
    · rintro ⟨planned, library, hplan, hlibrary, hfiles, hwarnings⟩
      refine ⟨planned, hplan, library, hlibrary, prepared.files, hfiles, ?_⟩
      rw [← hwarnings]
      rfl

theorem no_obstacle_of_renders {document : Json} {config : Config} {prepared : Prepared}
    (hproblem : config.problem? tools.rule? = none)
    (h : Renders around tree document config tools prepared) (e : Failure) : ¬Obstacle around tree document config tools e := by
  obtain ⟨planned, library, hplan, hlibrary, hfiles, -⟩ := h
  intro obstacle
  cases obstacle with
  | settings wrong => simp [hproblem] at wrong
  | pattern wrong => simp [hplan] at wrong
  | folder missing => simp [loadTemplates, missing] at hlibrary
  | template found listed wrong =>
    simp only [loadTemplates, found] at hlibrary
    obtain ⟨own, hown, -⟩ := bind_eq_ok_iff.1 hlibrary
    exact no_obstacle_of_readTemplates hown listed _ wrong
  | fragment plans loads emitted wrong =>
    cases hplan.symm.trans plans
    cases hlibrary.symm.trans loads
    obtain ⟨file, -, -, hrender⟩ := exists_right_of_mem hfiles emitted
    simp [hrender] at wrong

theorem generate_of_problem {config : Config} {problem : ConfigProblem}
    (h : config.problem? tools.rule? = some problem) :
    (generate around config web tools).perform tree = (.error (.config problem), tree) := by
  unfold generate
  rw [h]
  rfl

theorem generate_of_no_problem {config : Config} (h : config.problem? tools.rule? = none) :
    generate around config web tools =
      (Action.look fun tree => loadDocument around web tree config.specLocation) >>=
        fun document => generateFrom around document config tools := by
  unfold generate
  rw [h]

theorem obstacle_of_openDocument {config : Config} {e : Failure}
    (hpath : isWebAddress config.specLocation = false)
    (h : openDocument around tree config.specLocation = .error e) :
    LoadObstacle around web tree config tools e := by
  unfold openDocument at h
  split at h
  · cases h
    exact .unreadable hpath ‹_›
  · split at h
    · cases h
    · cases h
      exact .unparsable hpath ‹_› ‹_›

theorem obstacle_of_fetchDocument {config : Config} {e : Failure}
    (hremote : isWebAddress config.specLocation = true)
    (h : fetchDocument web (web.address config.specLocation) = .error e) :
    LoadObstacle around web tree config tools e := by
  unfold fetchDocument at h
  split at h
  · cases h
    exact .unreachable hremote rfl ‹_›
  · cases h
    exact .refused hremote rfl ‹_›
  · split at h
    · cases h
    · cases h
      exact .unparsableAnswer hremote rfl ‹_› ‹_›

theorem obstacle_of_loadDocument {config : Config} {e : Failure}
    (h : loadDocument around web tree config.specLocation = .error e) :
    LoadObstacle around web tree config tools e := by
  unfold loadDocument at h
  split at h
  · exact obstacle_of_fetchDocument ‹_› h
  · exact obstacle_of_openDocument (Bool.of_not_eq_true ‹_›) h

theorem no_obstacle_of_loadDocument {config : Config} {document : Json}
    (hproblem : config.problem? tools.rule? = none)
    (h : loadDocument around web tree config.specLocation = .ok document) (e : Failure) :
    ¬LoadObstacle around web tree config tools e := by
  intro obstacle
  cases obstacle with
  | settings wrong => simp [hproblem] at wrong
  | unreadable path wrong => simp [loadDocument, openDocument, path, wrong] at h
  | unparsable path read wrong => simp [loadDocument, openDocument, path, read, wrong] at h
  | unreachable remote written wrong =>
    simp [loadDocument, fetchDocument, remote, written, wrong] at h
  | refused remote written wrong =>
    simp [loadDocument, fetchDocument, remote, written, wrong] at h
  | unparsableAnswer remote written answered wrong =>
    simp [loadDocument, fetchDocument, remote, written, answered, wrong] at h

theorem generateFrom_eq (document : Json) (config : Config) :
    generateFrom around document config tools =
      (Action.look fun tree => prepare around tree document config tools) >>=
        publish around config tools := rfl

/-- A run on a document either meets an obstacle, fails with one and changes nothing, or has
rendered all fragments before it goes on to remove and write. -/
theorem generateFrom_all_or_nothing (around : Surroundings) (document : Json) (config : Config)
    (tools : Tools) (tree : Tree) :
    (∃ e, Obstacle around tree document config tools e ∧
        (generateFrom around document config tools).perform tree = (.error e, tree)) ∨
      ((∀ e, ¬Obstacle around tree document config tools e) ∧
        ∃ prepared, Renders around tree document config tools prepared ∧
          (generateFrom around document config tools).perform tree =
            (publish around config tools prepared).perform tree) := by
  rw [generateFrom_eq]
  cases hprepare : prepare around tree document config tools with
  | error e =>
    refine .inl ⟨e, obstacle_of_prepare hprepare, ?_⟩
    exact Action.perform_look_bind_error hprepare
  | ok prepared =>
    obtain ⟨hproblem, hrenders⟩ := prepare_eq_ok_iff.1 hprepare
    refine .inr ⟨no_obstacle_of_renders hproblem hrenders, prepared, hrenders, ?_⟩
    exact Action.perform_look_bind_ok hprepare

/-- A run that has to load its document either has an obstacle to that, fails with one and changes
nothing, or is a run on the document. -/
theorem generate_eq_generateFrom (around : Surroundings) (web : Web) (config : Config)
    (tools : Tools) (tree : Tree) :
    (∃ e, LoadObstacle around web tree config tools e ∧
        (generate around config web tools).perform tree = (.error e, tree)) ∨
      ((∀ e, ¬LoadObstacle around web tree config tools e) ∧
        ∃ document, loadDocument around web tree config.specLocation = .ok document ∧
          (generate around config web tools).perform tree =
            (generateFrom around document config tools).perform tree) := by
  cases hproblem : config.problem? tools.rule? with
  | some problem => exact .inl ⟨_, .settings hproblem, generate_of_problem hproblem⟩
  | none =>
    rw [generate_of_no_problem hproblem]
    cases hload : loadDocument around web tree config.specLocation with
    | error e =>
      refine .inl ⟨e, obstacle_of_loadDocument hload, ?_⟩
      exact Action.perform_look_bind_error hload
    | ok document =>
      refine .inr ⟨no_obstacle_of_loadDocument hproblem hload, document, rfl, ?_⟩
      exact Action.perform_look_bind_ok hload

/-- A run on a document, and a run that loads its document, either meet an obstacle, fail with one
and leave the file tree as it was, or meet none and have rendered all fragments before they remove
or write anything. It is so whatever the tools are that read patterns, templates and commands. -/
theorem generation_all_or_nothing (around : Surroundings) (web : Web) (config : Config)
    (tools : Tools) (tree : Tree) :
    (∀ document,
      (∃ e, Obstacle around tree document config tools e ∧
          (generateFrom around document config tools).perform tree = (.error e, tree)) ∨
        ((∀ e, ¬Obstacle around tree document config tools e) ∧
          ∃ prepared, Renders around tree document config tools prepared ∧
            (generateFrom around document config tools).perform tree =
              (publish around config tools prepared).perform tree)) ∧
    ((∃ e, (LoadObstacle around web tree config tools e ∨
            ∃ document, loadDocument around web tree config.specLocation = .ok document ∧
              Obstacle around tree document config tools e) ∧
          (generate around config web tools).perform tree = (.error e, tree)) ∨
      ((∀ e, ¬LoadObstacle around web tree config tools e) ∧
        ∃ document prepared, loadDocument around web tree config.specLocation = .ok document ∧
          (∀ e, ¬Obstacle around tree document config tools e) ∧
          Renders around tree document config tools prepared ∧
          (generate around config web tools).perform tree =
            (publish around config tools prepared).perform tree)) := by
  refine ⟨fun document => generateFrom_all_or_nothing around document config tools tree, ?_⟩
  rcases generate_eq_generateFrom around web config tools tree with
    ⟨e, obstacle, hrun⟩ | ⟨hloads, document, hload, hrun⟩
  · exact .inl ⟨e, .inl obstacle, hrun⟩
  · rw [hrun]
    rcases generateFrom_all_or_nothing around document config tools tree with
      ⟨e, obstacle, hfrom⟩ | ⟨hnone, prepared, hrenders, hfrom⟩
    · exact .inl ⟨e, .inr ⟨document, hload, obstacle⟩, hfrom⟩
    · exact .inr ⟨hloads, document, prepared, hload, hnone, hrenders, hfrom⟩

end ClientGen
