import ClientGen.Artifact.Fragment
import ClientGen.Proofs.FirstOccurrence
import ClientGen.Proofs.Plan.Types
import Mathlib.Data.List.Dedup

/-!
# Targets of fragments

The first folder of a target tells the kind of its fragment, and slices have distinct names by
construction. What is left are the names that identifiers and file stems are made from: two
fragments share a target exactly if two models of one domain share an identifier, or two groups a
file stem.
-/

namespace ClientGen
open Text

def ArtifactKind.folder : ArtifactKind → String
  | .models => "models"
  | .params => "params"
  | .services => "services"
  | .thunks => "thunks"
  | .slices => "slices"
  | .tags => "constants"
  | .hooks => "hooks"
  | .store => "redux"

theorem ArtifactKind.folder_inj {a b : ArtifactKind} (h : a.folder = b.folder) : a = b := by
  cases a <;> cases b <;> simp_all [ArtifactKind.folder]

theorem ArtifactKind.slash_not_mem_folder (kind : ArtifactKind) : '/' ∉ kind.folder.toList := by
  cases kind <;> decide

theorem isAbsolute_of_noSlash {path : String} (h : '/' ∉ path.toList) :
    Files.isAbsolute path = false := by
  rw [Files.isAbsolute, decide_eq_false_iff_not]
  exact fun hhead => h (List.mem_of_mem_head? hhead)

theorem join_below {folder : String} (hne : folder ≠ "")
    (hend : folder.toList.getLast? ≠ some '/') {path : String} (hpath : '/' ∉ path.toList) :
    Files.join folder path = folder ++ "/" ++ path := by
  simp [Files.join, isAbsolute_of_noSlash hpath, hne, hend]

theorem modelFile_root (name : String) :
    modelFile "" name = "models" ++ "/" ++ (identifier name ++ ".ts") := by
  have hfile : '/' ∉ (identifier name ++ ".ts").toList :=
    ((plainName_identifier name).append (by decide)).noSlash
  have hfolder : Files.join "models" "" = "models/" := by decide
  have hend : "models/".toList.getLast? = some '/' := by decide
  unfold modelFile
  rw [hfolder]
  simp only [Files.join, isAbsolute_of_noSlash hfile, hend, decide_true, Bool.or_true,
    Bool.false_eq_true, if_false, if_true]
  rfl

theorem modelFile_domain {domain : String} (h : IsTag domain) (hne : domain ≠ "")
    (name : String) :
    modelFile domain name =
      "models" ++ "/" ++ (domain ++ "/" ++ (identifier name ++ ".ts")) := by
  have hfile : '/' ∉ (identifier name ++ ".ts").toList :=
    ((plainName_identifier name).append (by decide)).noSlash
  have hmodels : Files.join "models" domain = "models" ++ "/" ++ domain :=
    join_below (by decide) (by decide) h.noSlash
  have hchars : domain.toList ≠ [] := fun h => hne (String.toList_eq_nil_iff.1 h)
  unfold modelFile
  rw [hmodels, join_below (by simp) ?_ hfile]
  · simp only [String.append_assoc]
  · intro hlast
    rw [String.toList_append, List.getLast?_append_of_ne_nil _ hchars] at hlast
    exact h.noSlash (List.mem_of_getLast? hlast)

theorem target_modelFragment (planned : Plan) (links : Linking) (type : DeclaredType) :
    (modelFragment planned links type).target =
      modelFile (planned.domains.typeDomain type.name) type.name := by
  simp only [modelFragment]

theorem exists_modelFile_eq {domain : String} (h : IsTag domain) (name : String) :
    ∃ path, modelFile domain name = "models" ++ "/" ++ path := by
  by_cases hne : domain = ""
  · rw [hne, modelFile_root]
    exact ⟨_, rfl⟩
  · rw [modelFile_domain h hne]
    exact ⟨_, rfl⟩

theorem pieces_modelFile {domain : String} (h : IsTag domain) (name : String) :
    Files.pieces (modelFile domain name) =
      "models" :: ([domain].filter (· ≠ "") ++ [identifier name ++ ".ts"]) := by
  have hfile : '/' ∉ (identifier name ++ ".ts").toList :=
    ((plainName_identifier name).append (by decide)).noSlash
  by_cases hne : domain = ""
  · subst hne
    rw [modelFile_root, Files.pieces_below (by decide), Files.pieces_plain hfile]
    simp
  · rw [modelFile_domain h hne, Files.pieces_below (by decide), Files.pieces_below h.noSlash,
      Files.pieces_plain hfile]
    simp [hne]

theorem pieces_groupFile {folder stem ending : String} (hfolder : '/' ∉ folder.toList)
    (hstem : '/' ∉ stem.toList) (hending : '/' ∉ ending.toList) :
    Files.pieces (folder ++ "/" ++ (stem ++ "/" ++ (stem ++ ending))) =
      [folder, stem, stem ++ ending] := by
  have hfile : '/' ∉ (stem ++ ending).toList := by
    rw [String.toList_append, List.mem_append, not_or]
    exact ⟨hstem, hending⟩
  rw [Files.pieces_below hfolder, Files.pieces_below hstem, Files.pieces_plain hfile]

theorem servicesFile_eq (group : PlannedGroup) :
    servicesModule group ++ ".ts" =
      "services" ++ "/" ++ (group.fileStem ++ "/" ++ (group.fileStem ++ ".ts")) := by
  simp [servicesModule, ← String.toList_inj]

theorem thunksFile_eq (group : PlannedGroup) :
    thunksModule group ++ ".ts" =
      "thunks" ++ "/" ++ (group.fileStem ++ "/" ++ (group.fileStem ++ ".thunk.ts")) := by
  simp [thunksModule, ← String.toList_inj]

theorem exists_target_eq {planned : Plan} {config : Config} {kind : ArtifactKind} {f : Fragment}
    (hdomain : ∀ name, IsTag (planned.domains.typeDomain name))
    (h : f ∈ fragmentsOf planned config kind) : ∃ path, f.target = kind.folder ++ "/" ++ path := by
  cases kind with
  | models =>
    obtain ⟨type, _, rfl⟩ := List.mem_map.1 h
    rw [target_modelFragment]
    exact exists_modelFile_eq (hdomain type.name) type.name
  | params =>
    obtain ⟨group, _, rfl⟩ := List.mem_map.1 h
    exact ⟨group.fileStem ++ ".params.ts", by
      simp [paramsFragment, paramsModule, ArtifactKind.folder, ← String.toList_inj]⟩
  | services =>
    obtain ⟨group, _, rfl⟩ := List.mem_map.1 h
    exact ⟨_, servicesFile_eq group⟩
  | thunks =>
    obtain ⟨group, _, rfl⟩ := List.mem_map.1 h
    exact ⟨_, thunksFile_eq group⟩
  | hooks =>
    obtain ⟨group, _, rfl⟩ := List.mem_map.1 h
    exact ⟨group.fileStem ++ ".hooks.ts", by
      simp [hooksFragment, ArtifactKind.folder, ← String.toList_inj]⟩
  | slices =>
    obtain ⟨slice, _, rfl⟩ := List.mem_map.1 h
    exact ⟨slice.file ++ ".ts", by
      simp [sliceFragment, ArtifactKind.folder, ← String.toList_inj]⟩
  | store =>
    rcases List.mem_cons.1 h with rfl | h
    · exact ⟨"store.ts", rfl⟩
    · rw [List.mem_singleton.1 h]
      exact ⟨"hooks.ts", rfl⟩
  | tags =>
    rw [List.mem_singleton.1 h]
    exact ⟨"tags.ts", rfl⟩

theorem kind_eq_of_target_eq {planned : Plan} {config : Config} {kind kind' : ArtifactKind}
    {f f' : Fragment} (hdomain : ∀ name, IsTag (planned.domains.typeDomain name))
    (h : f ∈ fragmentsOf planned config kind) (h' : f' ∈ fragmentsOf planned config kind')
    (hsame : f.target = f'.target) : kind = kind' := by
  obtain ⟨path, hpath⟩ := exists_target_eq hdomain h
  obtain ⟨path', hpath'⟩ := exists_target_eq hdomain h'
  have hpieces := congrArg Files.pieces hsame
  rw [hpath, hpath', Files.pieces_below kind.slash_not_mem_folder,
    Files.pieces_below kind'.slash_not_mem_folder] at hpieces
  exact ArtifactKind.folder_inj (List.cons_eq_cons.1 hpieces).1

theorem modelFile_eq_iff {domain domain' : String} (h : IsTag domain) (h' : IsTag domain')
    (name name' : String) :
    modelFile domain name = modelFile domain' name' ↔
      (domain, identifier name) = (domain', identifier name') := by
  constructor
  · intro hsame
    have hpieces := congrArg Files.pieces hsame
    rw [pieces_modelFile h, pieces_modelFile h', List.cons_eq_cons] at hpieces
    obtain ⟨hdomains, hfiles⟩ := List.append_inj' hpieces.2 rfl
    have hname : identifier name = identifier name' :=
      (String.append_left_inj ".ts").1 (List.singleton_inj.1 hfiles)
    rw [hname]
    by_cases hne : domain = "" <;> by_cases hne' : domain' = "" <;> simp_all
  · intro hsame
    obtain ⟨hdomain, hname⟩ := Prod.mk.inj hsame
    rw [modelFile, modelFile, hdomain, hname]

theorem groupFile_eq_iff {folder stem stem' ending : String} (hfolder : '/' ∉ folder.toList)
    (hstem : '/' ∉ stem.toList) (hstem' : '/' ∉ stem'.toList) (hending : '/' ∉ ending.toList) :
    folder ++ "/" ++ (stem ++ "/" ++ (stem ++ ending)) =
        folder ++ "/" ++ (stem' ++ "/" ++ (stem' ++ ending)) ↔ stem = stem' := by
  constructor
  · intro hsame
    have hpieces := congrArg Files.pieces hsame
    rw [pieces_groupFile hfolder hstem hending, pieces_groupFile hfolder hstem' hending] at hpieces
    exact (List.cons_eq_cons.1 (List.cons_eq_cons.1 hpieces).2).1
  · rintro rfl
    rfl

theorem nodup_map_iff_of_eq_iff {α β γ : Type} {f : α → β} {g : α → γ} {xs : List α}
    (h : ∀ a ∈ xs, ∀ b ∈ xs, f a = f b ↔ g a = g b) : (xs.map f).Nodup ↔ (xs.map g).Nodup := by
  unfold List.Nodup
  rw [List.pairwise_map, List.pairwise_map]
  exact List.Pairwise.iff_of_mem fun {a b} ha hb => not_congr (h a ha b hb)

theorem slicesOf_eq (models : List String) :
    slicesOf models = firstOccurrences (·.name)
      (models.map fun model => ⟨identifier (formName model), model⟩) := by
  unfold slicesOf firstOccurrences
  rw [List.foldl_map]
  rfl

theorem names_nodup_slicesOf (models : List String) :
    ((slicesOf models).map (·.name)).Nodup := by
  rw [slicesOf_eq]
  exact firstOccurrences_nodup _ _

theorem exists_type_of_mem_slices {planned : Plan} {slice : Slice} (h : slice ∈ planned.slices) :
    ∃ type ∈ planned.types, type.isObject ∧
      slice = ⟨identifier (formName type.name), type.name⟩ := by
  rw [Plan.slices, slicesOf_eq] at h
  obtain ⟨name, hname, rfl⟩ := List.mem_map.1 (mem_of_mem_firstOccurrences h)
  obtain ⟨type, htype, rfl⟩ := List.mem_map.1 hname
  obtain ⟨htype, hobject⟩ := List.mem_filter.1 htype
  exact ⟨type, htype, hobject, rfl⟩

theorem slices_targets_nodup (planned : Plan) (config : Config) :
    ((fragmentsOf planned config .slices).map (·.target)).Nodup := by
  have hnames : (planned.slices.map (·.name)).Nodup := names_nodup_slicesOf _
  rw [fragmentsOf, List.map_map]
  refine (nodup_map_iff_of_eq_iff ?_).2 hnames
  intro a _ b _
  simp [sliceFragment, Slice.file, String.append_left_inj, String.append_right_inj]

/-- What tells the files of one kind apart. -/
def Plan.Apart (planned : Plan) : ArtifactKind → Prop
  | .models => (planned.types.map fun type =>
      (planned.domains.typeDomain type.name, identifier type.name)).Nodup
  | .params =>
    ((planned.groups.filter fun group => group.interfaces ≠ []).map (·.fileStem)).Nodup
  | .services => (planned.groups.map (·.fileStem)).Nodup
  | .thunks => (planned.groups.map (·.fileStem)).Nodup
  | .hooks => (planned.groups.map (·.fileStem)).Nodup
  | _ => True

theorem kind_targets_nodup_iff {planned : Plan} (config : Config) (kind : ArtifactKind)
    (hdomain : ∀ name, IsTag (planned.domains.typeDomain name)) :
    ((fragmentsOf planned config kind).map (·.target)).Nodup ↔ planned.Apart kind := by
  have hslash : ∀ group : PlannedGroup, '/' ∉ group.fileStem.toList := fun group =>
    slash_not_mem_fileStem group.key
  cases kind with
  | models =>
    rw [fragmentsOf, List.map_map]
    refine nodup_map_iff_of_eq_iff fun a _ b _ => ?_
    simp only [Function.comp_apply, target_modelFragment]
    exact modelFile_eq_iff (hdomain a.name) (hdomain b.name) a.name b.name
  | params =>
    rw [fragmentsOf, List.map_map]
    refine nodup_map_iff_of_eq_iff fun a _ b _ => ?_
    simp [paramsFragment, paramsModule, String.append_left_inj, String.append_right_inj]
  | services =>
    rw [fragmentsOf, List.map_map]
    refine nodup_map_iff_of_eq_iff fun a _ b _ => ?_
    simp only [Function.comp_apply, serviceFragment, servicesFile_eq]
    exact groupFile_eq_iff (by decide) (hslash a) (hslash b) (by decide)
  | thunks =>
    rw [fragmentsOf, List.map_map]
    refine nodup_map_iff_of_eq_iff fun a _ b _ => ?_
    simp only [Function.comp_apply, thunkFragment, thunksFile_eq]
    exact groupFile_eq_iff (by decide) (hslash a) (hslash b) (by decide)
  | hooks =>
    rw [fragmentsOf, List.map_map]
    refine nodup_map_iff_of_eq_iff fun a _ b _ => ?_
    simp [hooksFragment, String.append_left_inj, String.append_right_inj]
  | slices => exact iff_of_true (slices_targets_nodup planned config) trivial
  | store => exact iff_of_true (by simp [fragmentsOf, storeFragments]) trivial
  | tags => exact iff_of_true (by simp [fragmentsOf]) trivial

theorem enabled_nodup (config : Config) : config.enabled.Nodup := by
  have hall : ArtifactKind.all.Nodup := by decide
  exact hall.filter _

theorem mem_enabled {config : Config} {kind : ArtifactKind} :
    kind ∈ config.enabled ↔ config.isEnabled kind := by
  rw [Config.enabled, List.mem_filter]
  refine ⟨And.right, fun h => ⟨?_, h⟩⟩
  cases kind <;> decide

theorem mem_fragments {planned : Plan} {config : Config} {f : Fragment} :
    f ∈ fragments planned config ↔
      ∃ kind, config.isEnabled kind ∧ f ∈ fragmentsOf planned config kind := by
  rw [fragments, List.mem_flatMap]
  constructor
  · rintro ⟨kind, hkind, h⟩
    exact ⟨kind, mem_enabled.1 hkind, h⟩
  · rintro ⟨kind, hkind, h⟩
    exact ⟨kind, mem_enabled.2 hkind, h⟩

theorem fragments_targets_nodup_iff {document : Json} {config : Config} {planned : Plan}
    (hplan : plan document config = .ok planned) :
    ((fragments planned config).map (·.target)).Nodup ↔
      ∀ kind, config.isEnabled kind → planned.Apart kind := by
  have hdomain := isTag_typeDomain hplan
  rw [fragments, List.map_flatMap, List.nodup_flatMap]
  constructor
  · intro h kind hkind
    exact (kind_targets_nodup_iff config kind hdomain).1 (h.1 kind (mem_enabled.2 hkind))
  · intro h
    refine ⟨fun kind hkind => ?_, ?_⟩
    · exact (kind_targets_nodup_iff config kind hdomain).2 (h kind (mem_enabled.1 hkind))
    · -- two kinds have different folders
      refine (enabled_nodup config).imp fun {a b} hne target ha hb => ?_
      obtain ⟨f, hf, rfl⟩ := List.mem_map.1 ha
      obtain ⟨f', hf', hsame⟩ := List.mem_map.1 hb
      exact hne (kind_eq_of_target_eq hdomain hf hf' hsame.symm)

/-- No generated file takes the place of another exactly if the names that the files are made
from differ: the identifiers of the models of a domain, and the file stems of the groups. -/
theorem targets_distinct_iff {document : Json} {config : Config} {planned : Plan}
    (hplan : plan document config = .ok planned) :
    (((fragments planned config).map (·.target)).Nodup ↔
      ∀ kind, config.isEnabled kind → planned.Apart kind) ∧
    (((fragments planned config).map (·.target)).dedup.length =
        (fragments planned config).length ↔
      ∀ kind, config.isEnabled kind → planned.Apart kind) := by
  have hnodup := fragments_targets_nodup_iff hplan
  refine ⟨hnodup, ?_⟩
  have hlength : ((fragments planned config).map (·.target)).length =
      (fragments planned config).length := List.length_map _
  rw [← hnodup, ← List.dedup_eq_self, ← hlength]
  exact ⟨(List.dedup_sublist _).eq_of_length, congrArg List.length⟩

/-- Two types whose names differ in a point only. -/
def dottedNames : Json :=
  .obj [("definitions", .obj [
    ("A.B", .obj [("type", .str "object"), ("properties", .obj [])]),
    ("A_B", .obj [("type", .str "object"), ("properties", .obj [])])])]

theorem dottedNames_models_not_apart :
    ¬ (planWith [] dottedNames { domainPatterns := [] }).Apart .models := by
  show ¬ List.Nodup _
  decide +kernel

/-- The models of two types may be one file, of which the second text stays. -/
theorem dottedNames_share_target :
    plan dottedNames { domainPatterns := [] } =
      .ok (planWith [] dottedNames { domainPatterns := [] }) ∧
    ({ domainPatterns := [] } : Config).problem? = none ∧
    ¬ ((fragments (planWith [] dottedNames { domainPatterns := [] })
      { domainPatterns := [] }).map (·.target)).Nodup :=
  have hplan : plan dottedNames { domainPatterns := [] } =
      .ok (planWith [] dottedNames { domainPatterns := [] }) := rfl
  ⟨hplan, by decide, fun h => dottedNames_models_not_apart
    ((fragments_targets_nodup_iff hplan).1 h .models (by decide))⟩

theorem dottedNames_not_apart :
    plan dottedNames { domainPatterns := [] } =
      .ok (planWith [] dottedNames { domainPatterns := [] }) ∧
    ¬ (planWith [] dottedNames { domainPatterns := [] }).Apart .models ∧
    ((fragments (planWith [] dottedNames { domainPatterns := [] })
      { domainPatterns := [] }).map (·.target)).dedup.length ≠
      (fragments (planWith [] dottedNames { domainPatterns := [] })
        { domainPatterns := [] }).length := by
  have hiff := targets_distinct_iff
    (show plan dottedNames { domainPatterns := [] } = .ok _ from rfl)
  exact ⟨rfl, dottedNames_models_not_apart,
    fun h => dottedNames_models_not_apart (hiff.2.1 h .models (by decide))⟩

end ClientGen
