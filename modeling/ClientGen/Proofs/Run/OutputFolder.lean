import ClientGen.Proofs.Artifact.Confined
import ClientGen.Proofs.Artifact.Exports
import ClientGen.Proofs.Files.Contents
import ClientGen.Proofs.Run.AllOrNothing
import Mathlib.Data.List.DropRight

/-!
# The output folder after a run

A run that goes well leaves a file at the target of every fragment, with what the last fragment of
that target renders to. Beyond that it changes no file, except that a run that is asked to clean
first takes what is below the place that the output path leads to when the run starts.
-/

namespace ClientGen

open Files

theorem pieces_injective {first second : String} (h : pieces first = pieces second) :
    first = second := by
  have hchars : first.toList.splitOn '/' = second.toList.splitOn '/' :=
    List.map_injective_iff.2 (fun a b hab => String.ofList_injective hab) h
  have hjoined := congrArg (List.intercalate ['/']) hchars
  rwa [List.intercalate_splitOn, List.intercalate_splitOn, String.toList_inj] at hjoined

theorem getLast?_ne_slash {path : String} (h : ∀ name ∈ pieces path, name ≠ "") :
    path.toList.getLast? ≠ some '/' := by
  intro hslash
  obtain ⟨base, rfl⟩ := exists_eq_append_slash hslash
  have hpieces : pieces (base ++ "/") = pieces base ++ [""] := by
    simpa [pieces_plain] using pieces_append_slash base ""
  rw [hpieces] at h
  exact h "" (by simp) rfl

theorem withoutEndSlashes_eq_self {path : String} (hne : path ≠ "")
    (hlast : path.toList.getLast? ≠ some '/') : Tree.withoutEndSlashes path = path := by
  have htrim : Text.trimEndSlashes path = path := by
    have hkept : path.toList.rdropWhile (· == '/') = path.toList := by
      rw [List.rdropWhile_eq_self_iff]
      intro hnonempty hslash
      rw [List.getLast?_eq_some_getLast hnonempty] at hlast
      exact hlast (congrArg some (by simpa using hslash))
    show String.ofList (path.toList.rdropWhile (· == '/')) = path
    rw [hkept, String.ofList_toList]
  rw [Tree.withoutEndSlashes, htrim, if_neg hne]

theorem withoutEndSlashes_join {base path : String} (hne : path ≠ "")
    (hlast : path.toList.getLast? ≠ some '/') :
    Tree.withoutEndSlashes (join base path) = join base path := by
  have hchars : path.toList ≠ [] := fun hnil => hne (String.toList_eq_nil_iff.1 hnil)
  have hback : ∀ front : String,
      (front ++ path).toList.getLast? ≠ some '/' ∧ front ++ path ≠ "" := by
    intro front
    rw [String.toList_append, List.getLast?_append_of_ne_nil _ hchars]
    refine ⟨hlast, fun hempty => hchars ?_⟩
    have hnil := congrArg String.toList hempty
    rw [String.toList_append] at hnil
    exact (List.append_eq_nil_iff.1 hnil).2
  obtain ⟨front, hjoin⟩ : ∃ front, join base path = front ++ path := by
    unfold join
    split
    · exact ⟨"", by simp⟩
    · split
      · exact ⟨base, rfl⟩
      · exact ⟨base ++ "/", rfl⟩
  rw [hjoin]
  exact withoutEndSlashes_eq_self (hback front).2 (hback front).1

def outputPlace (around : Surroundings) (config : Config) : Place :=
  placeOf around.start config.outputDir

def LeadsInto (around : Surroundings) (config : Config) (fragment : Fragment) : Prop :=
  ∀ (tree : Tree) (place : Place),
    tree.locate around.start
        (Tree.withoutEndSlashes (join config.outputDir fragment.target)) = .ok place →
      place = outputPlace around config ++ pieces fragment.target

theorem leadsInto_of_mem_fragments {document : Json} {config : Config} {planned : Plan}
    {rule? : DomainPattern → Option DomainRule} (hplan : plan document config rule? = .ok planned)
    (around : Surroundings) {fragment : Fragment}
    (h : fragment ∈ fragments planned config) : LeadsInto around config fragment := by
  obtain ⟨kind, -, h⟩ := mem_fragments.1 h
  have hbelow : LeadsBelow kind fragment.target :=
    leadsBelow_target (isTag_typeDomain hplan) (fun _ hg => plan_key_ne_empty hplan hg) h
  have hnames := hbelow.isTargetName
  have hlast := getLast?_ne_slash fun name hname => (hnames name hname).nonempty
  have hne : fragment.target ≠ "" := by
    intro hempty
    refine (hnames "" ?_).nonempty rfl
    rw [hempty]
    decide
  intro tree place hlocate
  rw [withoutEndSlashes_join hne hlast] at hlocate
  obtain ⟨output, houtput, rfl⟩ := Tree.locate_join hbelow.isAbsolute
    (fun name hname => ⟨(hnames name hname).nonempty, (hnames name hname).notHere,
      (hnames name hname).notUp⟩) hlocate
  congr 1
  rcases houtput with ⟨hempty, rfl⟩ | houtput
  · rw [outputPlace, hempty]
    rfl
  · exact Tree.placeOf_of_locate houtput

/-- After a run of fragments every target has what its last fragment renders to, and no other place
has changed. -/
structure Written (library : TemplateLibrary) (output : Place) (fragments : List Fragment)
    (before after : Tree) : Prop where
  targets : ∀ front fragment back, fragments = front ++ fragment :: back →
    (∀ later ∈ back, later.target ≠ fragment.target) →
      ∃ content, library.render fragment.template fragment.context.toJson = .ok content ∧
        after.content? (output ++ pieces fragment.target) = some content
  others : ∀ place, (∀ fragment ∈ fragments, place ≠ output ++ pieces fragment.target) →
    after.content? place = before.content? place

theorem paths_of_rendered {library : TemplateLibrary} {folder : String}
    {fragments : List Fragment} {files : List (String × String)}
    (h : List.Forall₂
      (fun fragment file => file.1 = join folder fragment.target ∧
        library.render fragment.template fragment.context.toJson = .ok file.2) fragments files) :
    files.map (·.1) = fragments.map fun fragment => join folder fragment.target := by
  induction h with
  | nil => rfl
  | cons hfirst _ ih => rw [List.map_cons, List.map_cons, ih, hfirst.1]

theorem written_of_forM {around : Surroundings} {config : Config} {library : TemplateLibrary}
    {fragments : List Fragment} {files : List (String × String)}
    (hfiles : List.Forall₂
      (fun fragment file => file.1 = join config.outputDir fragment.target ∧
        library.render fragment.template fragment.context.toJson = .ok file.2) fragments files)
    (hleads : ∀ fragment ∈ fragments, LeadsInto around config fragment) {before after : Tree}
    (h : (files.forM fun (path, content) => writeOutput around.start path content).perform before =
      (.ok (), after)) :
    Written library (outputPlace around config) fragments before after := by
  -- on the fragments: the first is written, and those behind it write over it or leave it
  induction hfiles generalizing before with
  | nil =>
    cases h
    exact ⟨fun front _ _ hnil => by simp at hnil, fun _ _ => rfl⟩
  | @cons fragment file rest files hfile _ ih =>
    obtain ⟨path, content⟩ := file
    obtain ⟨hpath, hrender⟩ := hfile
    rw [List.forM, Action.perform_bind] at h
    split at h
    · rename_i middle hfirst
      obtain ⟨tree, place, hlocate, hwrites⟩ := writes_of_writeOutput hfirst
      have hplace : place = outputPlace around config ++ pieces fragment.target := by
        simp only at hpath
        rw [hpath] at hlocate
        exact hleads fragment (List.mem_cons_self ..) tree place hlocate
      have hrest := ih (fun other hother => hleads other (List.mem_cons_of_mem _ hother)) h
      refine ⟨fun front last back hsplit hlast => ?_, fun other hother => ?_⟩
      · cases front with
        | nil =>
          obtain ⟨rfl, rfl⟩ := List.cons.inj hsplit
          refine ⟨content, hrender, ?_⟩
          rw [hrest.others, hwrites, hplace, if_pos rfl]
          intro later hlater hsame
          exact hlast later hlater (pieces_injective (List.append_cancel_left hsame).symm)
        | cons first front =>
          obtain ⟨rfl, rfl⟩ := List.cons.inj hsplit
          exact hrest.targets front last back rfl hlast
      · rw [hrest.others other fun later hlater => hother later (List.mem_cons_of_mem _ hlater),
          hwrites, hplace, if_neg (hother fragment (List.mem_cons_self ..))]
    · cases h

/-- What a run has done to the files before it writes its own: it has taken those of the output
folder if it is asked to and the output path leads somewhere, and nothing otherwise. -/
inductive Cleaned (around : Surroundings) (config : Config) (before after : Tree) : Prop where
  | kept (asked : config.clean = false) (same : before.KeepsFiles after)
  | missing (asked : config.clean = true)
      (there : before.isThere around.start config.outputDir = .ok false)
      (same : before.KeepsFiles after)
  | taken (asked : config.clean = true)
      (there : before.isThere around.start config.outputDir = .ok true)
      (removed : Removes (outputPlace around config) before after)

variable {around : Surroundings} {config : Config} {before after : Tree}

theorem Cleaned.outside (h : Cleaned around config before after) {place : Place}
    (hplace : ¬outputPlace around config <+: place) :
    after.content? place = before.content? place := by
  cases h with
  | kept _ same => exact same place
  | missing _ _ same => exact same place
  | taken _ _ removed => rw [removed place, if_neg hplace]

theorem Cleaned.then_keeps {last : Tree} (h : Cleaned around config before after)
    (hlast : after.KeepsFiles last) : Cleaned around config before last := by
  cases h with
  | kept asked same => exact .kept asked (same.trans hlast)
  | missing asked there same => exact .missing asked there (same.trans hlast)
  | taken asked there removed =>
    exact .taken asked there fun place => (hlast place).trans (removed place)

theorem Cleaned.keepsFiles (h : Cleaned around config before after)
    (hnothing : config.clean = false ∨ before.isThere around.start config.outputDir = .ok false) :
    before.KeepsFiles after := by
  cases h with
  | kept _ same => exact same
  | missing _ _ same => exact same
  | taken asked there =>
    rcases hnothing with hnot | hmissing
    · simp [asked] at hnot
    · simp [there] at hmissing

/-- Where nothing has been taken, the output path led nowhere, and there was nothing to take. -/
theorem Cleaned.content?_below (h : Cleaned around config before after) (hsound : before.Sound)
    (hne : config.outputDir ≠ "") (hasked : config.clean = true)
    (hpath : before.isThere around.start config.outputDir = .ok true ∨
      ".." ∉ pieces config.outputDir) (names : List String) :
    after.content? (outputPlace around config ++ names) = none := by
  cases h with
  | kept asked => simp [hasked] at asked
  | missing _ there same =>
    have hup : ".." ∉ pieces config.outputDir := by
      refine hpath.resolve_left fun hthere => ?_
      rw [hthere] at there
      cases there
    rw [same]
    exact Tree.content?_of_not_there hsound hne hup there names
  | taken _ _ removed => rw [removed, if_pos (List.prefix_append _ _)]

theorem cleaned_of_cleanOutput (hasked : config.clean = true)
    (h : (cleanOutput around.start config.outputDir).perform before = (.ok (), after)) :
    Cleaned around config before after := by
  unfold cleanOutput at h
  rw [Action.perform_bind, Action.perform_look] at h
  cases hthere : before.isThere around.start config.outputDir with
  | error e =>
    rw [hthere] at h
    cases h
  | ok there =>
    rw [hthere] at h
    cases there with
    | false =>
      cases h
      exact .missing hasked hthere fun _ => rfl
    | true =>
      obtain ⟨place, hlocate, hremoves⟩ := removes_of_removeFolder h
      rw [Tree.placeOf_of_locate hlocate] at hremoves
      exact .taken hasked hthere hremoves

theorem exists_cleaned_of_writeFiles {files : List (String × String)}
    (h : (writeFiles around.start config files).perform before = (.ok (), after)) :
    ∃ middle, Cleaned around config before middle ∧
      (files.forM fun (path, content) => writeOutput around.start path content).perform middle =
        (.ok (), after) := by
  have hrest : ∀ cleared, Cleaned around config before cleared →
      (do makeFolders around.start config.outputDir
          files.forM fun (path, content) => writeOutput around.start path content :
        Action Files.Failure Unit).perform cleared = (.ok (), after) →
      ∃ middle, Cleaned around config before middle ∧
        (files.forM fun (path, content) => writeOutput around.start path content).perform middle =
          (.ok (), after) := by
    intro cleared hcleared h
    rw [Action.perform_bind] at h
    split at h
    · rename_i middle hfolders
      exact ⟨middle, hcleared.then_keeps (keepsFiles_makeFolders hfolders), h⟩
    · cases h
  unfold writeFiles at h
  cases hasked : config.clean with
  | false =>
    rw [hasked] at h
    exact hrest before (.kept hasked fun _ => rfl) h
  | true =>
    rw [hasked] at h
    simp only [if_true] at h
    rw [Action.perform_bind] at h
    split at h
    · rename_i cleared hclean
      exact hrest cleared (cleaned_of_cleanOutput hasked hclean) h
    · cases h

variable {tools : Tools}

theorem outputDir_ne_empty (hasked : config.clean = true)
    (hproblem : config.problem? tools.rule? = none) : config.outputDir ≠ "" := by
  intro hempty
  have htrim : Text.trim "" = "" := by decide
  unfold Config.problem? at hproblem
  split at hproblem
  · cases hproblem
  · simp [hasked, hempty, htrim] at hproblem

theorem writeFiles_of_publish {prepared : Prepared} {report : Report}
    (hhooks : config.postGenerate = [])
    (h : (publish around config tools prepared).perform before = (.ok report, after)) :
    (writeFiles around.start config prepared.files).perform before = (.ok (), after) ∧
      report = ⟨prepared.files.map (·.1), prepared.warnings⟩ := by
  unfold publish at h
  rw [hhooks, Action.perform_bind, Action.perform_mapFailure] at h
  generalize (writeFiles around.start config prepared.files).perform before = outcome at h ⊢
  obtain ⟨result, middle⟩ := outcome
  cases result with
  | error e => cases h
  | ok _ =>
    cases h
    exact ⟨rfl, rfl⟩

/-- The files after a run. Below the output folder there is a file for every target, with what the
last fragment of the target renders to. -/
structure HoldsGenerated (around : Surroundings) (config : Config) (library : TemplateLibrary)
    (fragments : List Fragment) (before after : Tree) : Prop where
  targets : ∀ front fragment back, fragments = front ++ fragment :: back →
    (∀ later ∈ back, later.target ≠ fragment.target) →
      ∃ content, library.render fragment.template fragment.context.toJson = .ok content ∧
        after.content? (outputPlace around config ++ pieces fragment.target) = some content
  kept : config.clean = false ∨ before.isThere around.start config.outputDir = .ok false →
    ∀ names, (∀ fragment ∈ fragments, pieces fragment.target ≠ names) →
      after.content? (outputPlace around config ++ names) =
        before.content? (outputPlace around config ++ names)
  /-- With cleaning there is no other file, if the output path led somewhere or never goes up. -/
  cleaned : config.clean = true →
    before.isThere around.start config.outputDir = .ok true ∨ ".." ∉ pieces config.outputDir →
    ∀ names, (∀ fragment ∈ fragments, pieces fragment.target ≠ names) →
      after.content? (outputPlace around config ++ names) = none
  outside : ∀ place, ¬outputPlace around config <+: place →
    after.content? place = before.content? place

/-- Fragments are written over what is left of the files. -/
theorem Cleaned.then_written {library : TemplateLibrary} {fragments : List Fragment}
    {middle : Tree} (hcleaned : Cleaned around config before middle)
    (hwritten : Written library (outputPlace around config) fragments middle after)
    (hsound : before.Sound) (hproblem : config.problem? tools.rule? = none) :
    HoldsGenerated around config library fragments before after := by
  have hothers : ∀ names, (∀ fragment ∈ fragments, pieces fragment.target ≠ names) →
      after.content? (outputPlace around config ++ names) =
        middle.content? (outputPlace around config ++ names) := by
    intro names hnames
    refine hwritten.others _ fun fragment hfragment hsame => ?_
    exact hnames fragment hfragment (List.append_cancel_left hsame).symm
  constructor
  case targets => exact hwritten.targets
  case kept =>
    intro hnothing names hnames
    rw [hothers names hnames]
    exact hcleaned.keepsFiles hnothing _
  case cleaned =>
    intro hasked hpath names hnames
    rw [hothers names hnames]
    exact hcleaned.content?_below hsound (outputDir_ne_empty hasked hproblem) hasked hpath names
  case outside =>
    intro place hplace
    rw [hwritten.others place fun fragment _ hsame => hplace (hsame ▸ List.prefix_append _ _),
      hcleaned.outside hplace]

/-- A run without commands that ends well leaves the files of its fragments below the output folder
and touches nothing outside. It is so whatever the tools are that read patterns and templates. -/
theorem output_holds_generated {document : Json} {report : Report} (hsound : before.Sound)
    (hhooks : config.postGenerate = [])
    (hrun : (generateFrom around document config tools).perform before = (.ok report, after)) :
    ∃ planned library, plan document config tools.rule? = .ok planned ∧
      loadTemplates around before config.templateDir tools.engine = .ok library ∧
      report.written =
        (fragments planned config).map (fun fragment => join config.outputDir fragment.target) ∧
      HoldsGenerated around config library (fragments planned config) before after := by
  rw [generateFrom_eq] at hrun
  cases hprepare : prepare around before document config tools with
  | error e =>
    rw [Action.perform_look_bind_error hprepare] at hrun
    cases hrun
  | ok prepared =>
    rw [Action.perform_look_bind_ok hprepare] at hrun
    obtain ⟨hwrite, rfl⟩ := writeFiles_of_publish hhooks hrun
    obtain ⟨hproblem, planned, library, hplan, hlibrary, hfiles, -⟩ :=
      prepare_eq_ok_iff.1 hprepare
    obtain ⟨middle, hcleaned, hwrite⟩ := exists_cleaned_of_writeFiles hwrite
    have hleads : ∀ fragment ∈ fragments planned config, LeadsInto around config fragment :=
      fun _ => leadsInto_of_mem_fragments hplan around
    have hwritten := written_of_forM hfiles hleads hwrite
    exact ⟨planned, library, hplan, hlibrary, paths_of_rendered hfiles,
      hcleaned.then_written hwritten hsound hproblem⟩

def bareSurroundings : Surroundings := { start := [], home? := none, namedTemplates? := none }

def staleTree : Tree :=
  ⟨[(["out"], .folder), (["out", "stale.ts"], .file "old"), (["notes.txt"], .file "keep")]⟩

def tagsConfig : Config :=
  { domainPatterns := [], outputDir := "out", clean := true,
    exclude := [.models, .params, .services, .thunks, .hooks, .slices, .store] }

/-- The only file after a run for tags is theirs. The one that stood in the output folder is gone,
the one beside it is not. -/
theorem staleOutput_cleaned : ∃ report after,
    (generateFrom bareSurroundings (.obj []) tagsConfig).perform staleTree = (.ok report, after) ∧
      report.written = ["out/constants/tags.ts"] ∧
      (∃ content, after.content? ["out", "constants", "tags.ts"] = some content) ∧
      after.content? ["out", "stale.ts"] = none ∧
      after.content? ["notes.txt"] = some "keep" := by
  have hends : ((generateFrom bareSurroundings (.obj []) tagsConfig).perform
      staleTree).1.toOption.isSome := by decide +kernel
  have htargets : (plan (.obj []) tagsConfig).toOption.map
      (fun planned => (fragments planned tagsConfig).map (·.target)) =
        some ["constants/tags.ts"] := by decide +kernel
  have hsound : staleTree.Sound := Tree.sound_of_entries (by decide)
  have hplace : outputPlace bareSurroundings tagsConfig = ["out"] := by decide
  generalize hrun : (generateFrom bareSurroundings (.obj []) tagsConfig).perform staleTree =
    outcome at hends
  obtain ⟨result, after⟩ := outcome
  cases result with
  | error e => cases hends
  | ok report =>
    obtain ⟨planned, library, hplan, -, hwritten, hholds⟩ :=
      output_holds_generated hsound rfl hrun
    rw [hplan] at htargets
    obtain ⟨tags, hfragments, htarget⟩ := List.map_eq_singleton_iff.1 (Option.some.inj htargets)
    rw [hfragments] at hwritten hholds
    have htags : pieces tags.target = ["constants", "tags.ts"] := by
      rw [htarget]
      decide
    obtain ⟨content, -, hcontent⟩ := hholds.targets [] tags [] rfl (by simp)
    rw [hplace, htags] at hcontent
    refine ⟨report, after, rfl, ?_, ⟨content, hcontent⟩, ?_, ?_⟩
    · rw [hwritten, List.map_singleton, htarget]
      decide
    · have hstale := hholds.cleaned rfl (.inl (by decide)) ["stale.ts"] (by simp [htags])
      rwa [hplace] at hstale
    · rw [hholds.outside ["notes.txt"] (by rw [hplace]; decide)]
      decide

def upwardsConfig : Config :=
  { domainPatterns := [], outputDir := "new/../out", clean := true, exclude := ArtifactKind.all }

/-- An output path through a folder that is not there yet leads nowhere when the folder is to be
cleaned, and to a folder with a file in it when the run has ended. -/
theorem upwardsOutput_not_cleaned :
    ∃ report after,
      (generateFrom bareSurroundings (.obj []) upwardsConfig).perform staleTree =
          (.ok report, after) ∧
        upwardsConfig.clean = true ∧ upwardsConfig.postGenerate = [] ∧ report.written = [] ∧
        after.locate bareSurroundings.start upwardsConfig.outputDir = .ok ["out"] ∧
        after.content? ["out", "stale.ts"] = some "old" := by
  have hwritten : ((generateFrom bareSurroundings (.obj []) upwardsConfig).perform
      staleTree).1.toOption.map (·.written) = some [] := by decide +kernel
  have hplace : (((generateFrom bareSurroundings (.obj []) upwardsConfig).perform
      staleTree).2.locate bareSurroundings.start upwardsConfig.outputDir) = .ok ["out"] := by
    decide +kernel
  have hstale : ((generateFrom bareSurroundings (.obj []) upwardsConfig).perform
      staleTree).2.content? ["out", "stale.ts"] = some "old" := by decide +kernel
  generalize (generateFrom bareSurroundings (.obj []) upwardsConfig).perform staleTree =
    outcome at hwritten hplace hstale
  obtain ⟨result, after⟩ := outcome
  cases result with
  | error e => cases hwritten
  | ok report => exact ⟨report, after, rfl, rfl, rfl, Option.some.inj hwritten, hplace, hstale⟩

end ClientGen
