import ClientGen.Module.Path
import ClientGen.Proofs.Artifact.Targets

/-!
# Relative module paths

A relative module path is followed from the folder of the importing file, and names a file without
its ending. The paths that modules are given lead back to the targets of the files that they mean:
a module knows its depth, and climbs exactly that far before it names a folder.
-/

namespace ClientGen
open Text

namespace Files

/-- One step of a relative path from a folder below the output folder. No step leads out of the
output folder. -/
def step? (folder : List String) (piece : String) : Option (List String) :=
  if piece = "." then some folder
  else if piece = ".." then (if folder = [] then none else some folder.dropLast)
  else some (folder ++ [piece])

/-- The file that a relative module path leads to from an importing file. -/
def importedFile? (importer path : String) : Option String :=
  if (pieces path).head? = some "." ∨ (pieces path).head? = some ".." then
    ((pieces path).foldlM step? (pieces importer).dropLast).map fun names =>
      String.intercalate "/" names ++ ".ts"
  else none

theorem foldlM_step?_plain {names : List String} (h : ∀ name ∈ names, PlainName name)
    (folder : List String) : names.foldlM step? folder = some (folder ++ names) := by
  induction names generalizing folder with
  | nil => simp
  | cons name rest ih =>
    have hname := h name (List.mem_cons_self ..)
    have hstep : step? folder name = some (folder ++ [name]) := by
      rw [step?, if_neg hname.ne_here, if_neg hname.ne_up]
    rw [List.foldlM_cons, hstep]
    simp only [bind, Option.bind]
    rw [ih fun other hother => h other (List.mem_cons_of_mem _ hother)]
    simp

theorem foldlM_step?_up (folder : List String) :
    (List.replicate folder.length "..").foldlM step? folder = some [] := by
  induction hlength : folder.length generalizing folder with
  | zero => simp [List.length_eq_zero_iff.1 hlength]
  | succ n ih =>
    have hne : folder ≠ [] := List.ne_nil_of_length_eq_add_one hlength
    have hstep : step? folder ".." = some folder.dropLast := by
      simp [step?, hne]
    rw [List.replicate_succ, List.foldlM_cons, hstep]
    exact ih folder.dropLast (by simp [hlength])

theorem pieces_upwards {depth : Nat} (h : 0 < depth) (path : String) :
    pieces (upwards depth ++ path) = List.replicate depth ".." ++ pieces path := by
  have hup : ∀ n, pieces (String.join (List.replicate n "../") ++ path) =
      List.replicate n ".." ++ pieces path := by
    intro n
    induction n with
    | zero => simp
    | succ n ih =>
      have hjoin : String.join (List.replicate (n + 1) "../") ++ path =
          ".." ++ "/" ++ (String.join (List.replicate n "../") ++ path) := by
        rw [List.replicate_succ]
        simp [← String.toList_inj]
      rw [hjoin, pieces_below (by decide), ih, List.replicate_succ, List.cons_append]
  rw [upwards, if_neg (by omega), hup]

theorem head?_pieces_upwards {depth : Nat} (h : 0 < depth) (path : String) :
    (pieces (upwards depth ++ path)).head? = some ".." := by
  obtain ⟨n, rfl⟩ := Nat.exists_eq_add_of_lt h
  rw [pieces_upwards h, Nat.zero_add, List.replicate_succ, List.cons_append, List.head?_cons]

theorem importedFile?_upwards {importer target : String} {depth : Nat} (hdepth : 0 < depth)
    (himporter : (pieces importer).length = depth + 1)
    (htarget : ∀ piece ∈ pieces target, PlainName piece) :
    importedFile? importer (upwards depth ++ target) = some (target ++ ".ts") := by
  have hpieces := pieces_upwards hdepth target
  have hfolder : (pieces importer).dropLast.length = depth := by
    rw [List.length_dropLast, himporter, Nat.add_sub_cancel]
  have hup : (List.replicate depth "..").foldlM step? (pieces importer).dropLast = some [] := by
    rw [← hfolder]
    exact foldlM_step?_up _
  rw [importedFile?, if_pos (.inr (head?_pieces_upwards hdepth target)), hpieces,
    List.foldlM_append, hup]
  simp only [bind, Option.bind]
  rw [foldlM_step?_plain htarget, List.nil_append, Option.map_some, intercalate_pieces]

end Files

def Origin.Holds (importer : String) : Origin → Prop
  | .model own => ∃ file, Files.pieces importer = ["models", own, file]
  | .artifact depth => 0 < depth ∧ (Files.pieces importer).length = depth + 1

/-- How a relative path from an origin names a module below the output folder. -/
inductive Origin.Reaches : Origin → String → String → Prop
  | climbing {depth : Nat} {module : String}
      (hplain : ∀ piece ∈ Files.pieces module, PlainName piece) :
      Reaches (.artifact depth) module (upwards depth ++ module)
  /-- A model of the same domain is found in the folder of the origin. -/
  | sibling {own file : String} (hfile : PlainName file) :
      Reaches (.model own) ("models" ++ "/" ++ (own ++ "/" ++ file)) ("." ++ "/" ++ file)
  | cousin {own domain file : String} (hdomain : PlainName domain) (hfile : PlainName file) :
      Reaches (.model own) ("models" ++ "/" ++ (domain ++ "/" ++ file))
        (".." ++ "/" ++ (domain ++ "/" ++ file))

theorem pieces_modelPath {domain file : String} (hdomain : PlainName domain)
    (hfile : PlainName file) :
    Files.pieces ("models" ++ "/" ++ (domain ++ "/" ++ file)) = ["models", domain, file] := by
  rw [Files.pieces_below (by decide), Files.pieces_below hdomain.noSlash,
    Files.pieces_plain hfile.noSlash]

theorem dropLast_pieces_of_holds {own importer : String}
    (hplace : (Origin.model own).Holds importer) :
    (Files.pieces importer).dropLast = ["models", own] := by
  obtain ⟨file, hpieces⟩ := hplace
  rw [hpieces]
  rfl

/-- A path leads to the file of the module that it names. -/
theorem Origin.Reaches.importedFile? {origin : Origin} {importer module path : String}
    (h : origin.Reaches module path) (hplace : origin.Holds importer) :
    Files.importedFile? importer path = some (module ++ ".ts") := by
  cases h with
  | climbing hplain => exact Files.importedFile?_upwards hplace.1 hplace.2 hplain
  | @sibling own file hfile =>
    have hpieces : Files.pieces ("." ++ "/" ++ file) = [".", file] := by
      rw [Files.pieces_below (by decide), Files.pieces_plain hfile.noSlash]
    rw [Files.importedFile?, hpieces, dropLast_pieces_of_holds hplace, if_pos (.inl rfl)]
    simp [Files.step?, hfile.ne_here, hfile.ne_up]
  | @cousin own domain file hdomain hfile =>
    have hpieces : Files.pieces (".." ++ "/" ++ (domain ++ "/" ++ file)) =
        ["..", domain, file] := by
      rw [Files.pieces_below (by decide), Files.pieces_below hdomain.noSlash,
        Files.pieces_plain hfile.noSlash]
    rw [Files.importedFile?, hpieces, dropLast_pieces_of_holds hplace, if_pos (.inr rfl)]
    simp [Files.step?, hdomain.ne_here, hdomain.ne_up, hfile.ne_here, hfile.ne_up,
      ← String.toList_inj]

theorem modelModule_artifact (depth : Nat) (domain name : String) :
    modelModule (.artifact depth) domain name none =
      upwards depth ++ ("models" ++ "/" ++ (domain ++ "/" ++ identifier name)) := by
  simp [modelModule, ← String.toList_inj]

theorem modelModule_sibling (domain name : String) (aliasRoot? : Option String) :
    modelModule (.model domain) domain name aliasRoot? = "." ++ "/" ++ identifier name := by
  simp [modelModule]

theorem modelModule_cousin {own domain : String} (h : own ≠ domain) (name : String) :
    modelModule (.model own) domain name none =
      ".." ++ "/" ++ (domain ++ "/" ++ identifier name) := by
  simp [modelModule, h, ← String.toList_inj]

theorem reaches_modelModule (origin : Origin) {domain : String} (htag : IsTag domain)
    (hne : domain ≠ "") (name : String) :
    origin.Reaches ("models" ++ "/" ++ (domain ++ "/" ++ identifier name))
      (modelModule origin domain name none) := by
  have hdomain : PlainName domain := plainName_of_chars hne htag
  have hname : PlainName (identifier name) := plainName_identifier name
  cases origin with
  | artifact depth =>
    rw [modelModule_artifact]
    refine .climbing ?_
    have hfolder : PlainName "models" := by decide
    rw [pieces_modelPath hdomain hname]
    simp [hfolder, hdomain, hname]
  | model own =>
    by_cases hown : own = domain
    · rw [hown, modelModule_sibling]
      exact .sibling hname
    · rw [modelModule_cousin hown]
      exact .cousin hdomain hname

theorem importedFile?_modelModule {origin : Origin} {importer domain : String}
    (horigin : origin.Holds importer) (htag : IsTag domain) (hne : domain ≠ "") (name : String) :
    Files.importedFile? importer (modelModule origin domain name none) =
      some (modelFile domain name) := by
  rw [(reaches_modelModule origin htag hne name).importedFile? horigin, modelFile_domain htag hne]
  simp only [String.append_assoc]

end ClientGen
