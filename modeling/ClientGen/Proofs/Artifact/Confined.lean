import ClientGen.Proofs.Artifact.Targets
import ClientGen.Proofs.Files.Following

/-!
# Targets stay below the output folder

Types, tags and paths have any names, but a target is made of what identifiers, file stems and
tags keep of them. So no target leads out of the folder of its kind: whatever the file tree looks
like, following a target goes one step down for each of its names.
-/

namespace ClientGen
open Text

def isTargetChar (c : Char) : Bool := c.isAlphanum || c == '_' || c == '-' || c == '.'

/-- A name that leads from a folder to something directly in it. -/
structure IsTargetName (name : String) : Prop where
  nonempty : name ≠ ""
  notHere : name ≠ "."
  notUp : name ≠ ".."
  chars : ∀ c ∈ name.toList, isTargetChar c = true

instance (name : String) : Decidable (IsTargetName name) :=
  decidable_of_iff
    (name ≠ "" ∧ name ≠ "." ∧ name ≠ ".." ∧ ∀ c ∈ name.toList, isTargetChar c = true)
    ⟨fun ⟨hempty, hhere, hup, hchars⟩ => ⟨hempty, hhere, hup, hchars⟩,
      fun h => ⟨h.nonempty, h.notHere, h.notUp, h.chars⟩⟩

theorem isTargetChar_of_isStemChar {c : Char} (h : isStemChar c = true) :
    isTargetChar c = true := by
  rw [isStemChar, isNameChar] at h
  rw [isTargetChar, h, Bool.true_or]

theorem slash_not_mem_of_isTargetChar {name : String}
    (h : ∀ c ∈ name.toList, isTargetChar c = true) : '/' ∉ name.toList := fun hslash =>
  absurd (h '/' hslash) (by decide)

theorem isTargetName_append {stem ending : String} (hne : stem ≠ "")
    (hstem : ∀ c ∈ stem.toList, isStemChar c = true)
    (hending : ∀ c ∈ ending.toList, isTargetChar c = true) : IsTargetName (stem ++ ending) := by
  have hplain : PlainName (stem ++ ending) :=
    (plainName_of_chars hne hstem).append (slash_not_mem_of_isTargetChar hending)
  refine ⟨hplain.nonempty, hplain.ne_here, hplain.ne_up, fun c hc => ?_⟩
  rw [String.toList_append, List.mem_append] at hc
  exact hc.elim (fun h => isTargetChar_of_isStemChar (hstem c h)) (hending c)

theorem isTargetName_stem {stem : String} (hne : stem ≠ "")
    (hstem : ∀ c ∈ stem.toList, isStemChar c = true) : IsTargetName stem := by
  have hname : IsTargetName (stem ++ "") :=
    isTargetName_append hne hstem (List.forall_mem_nil _)
  rwa [String.append_empty] at hname

theorem isStemChar_of_isNameChar {c : Char} (h : isNameChar c = true) : isStemChar c = true := by
  rw [isStemChar, h, Bool.true_or]

theorem isTargetName_identifier (name : String) {ending : String}
    (hending : ∀ c ∈ ending.toList, isTargetChar c = true) :
    IsTargetName (identifier name ++ ending) :=
  isTargetName_append (identifier_ne_empty name)
    (fun _ hc => isStemChar_of_isNameChar (isNameChar_of_mem_identifier hc)) hending

theorem isTargetName_fileStem {key : String} (hkey : key ≠ "") {ending : String}
    (hending : ∀ c ∈ ending.toList, isTargetChar c = true) :
    IsTargetName (fileStem key ++ ending) :=
  isTargetName_append (fileStem_ne_empty hkey)
    (fun _ hc => isStemChar_of_isNameChar (isNameChar_of_mem_fileStem hc)) hending

def LeadsBelow (kind : ArtifactKind) (path : String) : Prop :=
  ∃ names, Files.pieces path = kind.folder :: names ∧ names ≠ [] ∧
    ∀ name ∈ names, IsTargetName name

theorem leadsBelow_file {kind : ArtifactKind} {path : String} (name : String)
    (hpath : path = kind.folder ++ "/" ++ name) (hname : IsTargetName name) :
    LeadsBelow kind path := by
  refine ⟨[name], ?_, List.cons_ne_nil _ _, List.forall_mem_singleton.2 hname⟩
  rw [hpath, Files.pieces_below kind.slash_not_mem_folder,
    Files.pieces_plain (slash_not_mem_of_isTargetChar hname.chars)]

theorem leadsBelow_groupFile {kind : ArtifactKind} {path key ending : String} (hkey : key ≠ "")
    (hpath : path = kind.folder ++ "/" ++ (fileStem key ++ "/" ++ (fileStem key ++ ending)))
    (hending : ∀ c ∈ ending.toList, isTargetChar c = true) : LeadsBelow kind path := by
  refine ⟨[fileStem key, fileStem key ++ ending], ?_, List.cons_ne_nil _ _, ?_⟩
  · rw [hpath, pieces_groupFile kind.slash_not_mem_folder (slash_not_mem_fileStem key)
      (slash_not_mem_of_isTargetChar hending)]
  · rintro name (_ | ⟨_, _ | ⟨_, h⟩⟩)
    · exact isTargetName_stem (fileStem_ne_empty hkey) fun _ hc =>
        isStemChar_of_isNameChar (isNameChar_of_mem_fileStem hc)
    · exact isTargetName_fileStem hkey hending
    · exact absurd h List.not_mem_nil

theorem leadsBelow_modelFile {domain : String} (h : IsTag domain) (name : String) :
    LeadsBelow .models (modelFile domain name) := by
  refine ⟨_, pieces_modelFile h name, by simp, fun piece hpiece => ?_⟩
  rcases List.mem_append.1 hpiece with hpiece | hpiece
  · -- an empty domain is no folder of its own
    obtain ⟨hdomain, hne⟩ := List.mem_filter.1 hpiece
    rw [List.mem_singleton.1 hdomain] at hne ⊢
    exact isTargetName_stem (of_decide_eq_true hne) h
  · rw [List.mem_singleton.1 hpiece]
    exact isTargetName_identifier name (by decide)

theorem leadsBelow_target {planned : Plan} {config : Config} {kind : ArtifactKind} {f : Fragment}
    (hdomain : ∀ name, IsTag (planned.domains.typeDomain name))
    (hkey : ∀ group ∈ planned.groups, group.key ≠ "")
    (h : f ∈ fragmentsOf planned config kind) : LeadsBelow kind f.target := by
  cases kind with
  | models =>
    obtain ⟨type, _, rfl⟩ := List.mem_map.1 h
    rw [target_modelFragment]
    exact leadsBelow_modelFile (hdomain type.name) type.name
  | params =>
    obtain ⟨group, hgroup, rfl⟩ := List.mem_map.1 h
    refine leadsBelow_file (fileStem group.key ++ ".params.ts") ?_ ?_
    · simp [paramsFragment, paramsModule, PlannedGroup.fileStem, ArtifactKind.folder,
        ← String.toList_inj]
    · exact isTargetName_fileStem (hkey group (List.mem_of_mem_filter hgroup)) (by decide)
  | services =>
    obtain ⟨group, hgroup, rfl⟩ := List.mem_map.1 h
    exact leadsBelow_groupFile (hkey group hgroup) (servicesFile_eq group) (by decide)
  | thunks =>
    obtain ⟨group, hgroup, rfl⟩ := List.mem_map.1 h
    exact leadsBelow_groupFile (hkey group hgroup) (thunksFile_eq group) (by decide)
  | hooks =>
    obtain ⟨group, hgroup, rfl⟩ := List.mem_map.1 h
    refine leadsBelow_file (fileStem group.key ++ ".hooks.ts") ?_ ?_
    · simp [hooksFragment, PlannedGroup.fileStem, ArtifactKind.folder, ← String.toList_inj]
    · exact isTargetName_fileStem (hkey group hgroup) (by decide)
  | slices =>
    obtain ⟨slice, hslice, rfl⟩ := List.mem_map.1 h
    obtain ⟨type, _, _, rfl⟩ := exists_type_of_mem_slices hslice
    refine leadsBelow_file (identifier (formName type.name) ++ "Slice.ts") ?_ ?_
    · simp [sliceFragment, Slice.file, ArtifactKind.folder, ← String.toList_inj]
    · exact isTargetName_identifier _ (by decide)
  | store =>
    rcases List.mem_cons.1 h with rfl | h
    · exact leadsBelow_file "store.ts" rfl (by decide)
    · rw [List.mem_singleton.1 h]
      exact leadsBelow_file "hooks.ts" rfl (by decide)
  | tags =>
    rw [List.mem_singleton.1 h]
    exact leadsBelow_file "tags.ts" rfl (by decide)

theorem ArtifactKind.isTargetName_folder (kind : ArtifactKind) : IsTargetName kind.folder := by
  cases kind <;> decide

theorem LeadsBelow.isTargetName {kind : ArtifactKind} {path : String} (h : LeadsBelow kind path) :
    ∀ name ∈ Files.pieces path, IsTargetName name := by
  obtain ⟨names, hpieces, -, hnames⟩ := h
  rw [hpieces]
  exact List.forall_mem_cons.2 ⟨kind.isTargetName_folder, hnames⟩

theorem LeadsBelow.isAbsolute {kind : ArtifactKind} {path : String} (h : LeadsBelow kind path) :
    Files.isAbsolute path = false := by
  refine eq_false_of_ne_true fun habsolute => ?_
  have hempty := Files.head?_pieces_of_isAbsolute habsolute
  exact (h.isTargetName "" (List.mem_of_mem_head? hempty)).nonempty rfl

theorem kind_of_mem_fragmentsOf {planned : Plan} {config : Config} {kind : ArtifactKind}
    {f : Fragment} (h : f ∈ fragmentsOf planned config kind) : f.kind = kind := by
  cases kind with
  | store =>
    rcases List.mem_cons.1 h with rfl | h
    · rfl
    · rw [List.mem_singleton.1 h]
  | tags => rw [List.mem_singleton.1 h, tagsFragment]
  | _ =>
    obtain ⟨_, _, rfl⟩ := List.mem_map.1 h
    rfl

/-- Every target is a relative path into the folder of its kind whose names are made of ASCII
letters, digits, underscores, hyphens and points and lead neither nowhere nor upwards. In no file
tree does such a path lead out of the output folder. -/
theorem targets_confined {document : Json} {config : Config} {planned : Plan}
    (hplan : plan document config = .ok planned) (kind : ArtifactKind) {f : Fragment}
    (hf : f ∈ fragmentsOf planned config kind) :
    f.kind = kind ∧
    Files.isAbsolute f.target = false ∧
    (∃ names, Files.pieces f.target = kind.folder :: names ∧ names ≠ []) ∧
    (∀ name ∈ Files.pieces f.target, IsTargetName name) ∧
    ∀ (tree : Files.Tree) (start place : Files.Place),
      tree.locate start (Files.join config.outputDir f.target) = .ok place →
      ∃ output, (config.outputDir = "" ∧ output = start ∨
        tree.locate start config.outputDir = .ok output) ∧
        place = output ++ Files.pieces f.target := by
  have hbelow : LeadsBelow kind f.target :=
    leadsBelow_target (isTag_typeDomain hplan) (fun _ hg => plan_key_ne_empty hplan hg) hf
  have hnames := hbelow.isTargetName
  refine ⟨kind_of_mem_fragmentsOf hf, hbelow.isAbsolute, ?_, hnames, ?_⟩
  · obtain ⟨names, hpieces, hne, -⟩ := hbelow
    exact ⟨names, hpieces, hne⟩
  · intro tree start place hplace
    refine Files.Tree.locate_join hbelow.isAbsolute (fun name hname => ?_) hplace
    exact ⟨(hnames name hname).nonempty, (hnames name hname).notHere, (hnames name hname).notUp⟩

/-- Types, a tag and a path that are named after ways out of a folder. -/
def waysOut : Json :=
  .obj [
    ("definitions", .obj [
      ("../../etc/passwd", .obj [("type", .str "object"), ("properties", .obj [])]),
      ("..", .obj [("type", .str "string"), ("enum", .arr [.str "x"])])]),
    ("paths", .obj [
      ("/api/../{id}", .obj [("get", .obj [
        ("tags", .arr [.str "../.."]),
        ("parameters", .arr [.obj [("name", .str "id"), ("in", .str "path")]]),
        ("responses", .obj [("200", .obj [
          ("schema", .obj [("$ref", .str "#/definitions/..")])])])])])])]

/-- A run into a folder that has a folder of models already. -/
def waysOutConfig : Config := { domainPatterns := [], outputDir := "out" }

def modelFolders : Files.Tree := ⟨[(["out"], .folder), (["out", "models"], .folder)]⟩

/-- The second type, whose tag leaves nothing for a domain, has its file in the folder of models,
and the path to it leads there. -/
theorem waysOut_confined :
    plan waysOut waysOutConfig = .ok (planWith [] waysOut waysOutConfig) ∧
    ∃ f ∈ fragmentsOf (planWith [] waysOut waysOutConfig) waysOutConfig .models,
      f.target = "models/__.ts" ∧
      (∀ name ∈ Files.pieces f.target, IsTargetName name) ∧
      modelFolders.locate [] (Files.join "out" f.target) = .ok ["out", "models", "__.ts"] ∧
      ∃ output, (waysOutConfig.outputDir = "" ∧ output = [] ∨
        modelFolders.locate [] waysOutConfig.outputDir = .ok output) ∧
        ["out", "models", "__.ts"] = output ++ Files.pieces f.target := by
  have hplan : plan waysOut waysOutConfig = .ok (planWith [] waysOut waysOutConfig) := rfl
  have htargets : "models/__.ts" ∈
      (fragmentsOf (planWith [] waysOut waysOutConfig) waysOutConfig .models).map (·.target) := by
    decide +kernel
  obtain ⟨f, hf, htarget⟩ := List.mem_map.1 htargets
  have hlocate : modelFolders.locate [] (Files.join "out" f.target) =
      .ok ["out", "models", "__.ts"] := by
    rw [htarget]
    decide +kernel
  have hconfined := targets_confined hplan .models hf
  exact ⟨hplan, f, hf, htarget, hconfined.2.2.2.1, hlocate,
    hconfined.2.2.2.2 modelFolders [] _ hlocate⟩

end ClientGen
