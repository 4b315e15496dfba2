import ClientGen.Proofs.Artifact.Targets
import ClientGen.Proofs.Text.JoinedWords
import ClientGen.Proofs.Text.Leading

/-!
# The slices of the store

Every form of the object models has one slice, that of its first model. The store imports the
reducers of the slices under names in camel case and mounts them by constants in capitals. Both are
made from the names of the slices and may be the same for two of them, or for one and the root of
all reducers: then a name is declared twice, and one reducer takes the place of another.
-/

namespace ClientGen
open Api Text

/-- The name of a form is that of a model without its ending. A model that is nothing but an ending
keeps it. -/
inductive DropsEnding : String → String → Prop
  | upsert {stem : String} (h : stem ≠ "") : DropsEnding (stem ++ "Upsert") stem
  | getToAlter {stem : String} (h : stem ≠ "") : DropsEnding (stem ++ "GetToAlter") stem
  | whole {model : String} (hupsert : ∀ stem ≠ "", model ≠ stem ++ "Upsert")
    (hgetToAlter : ∀ stem ≠ "", model ≠ stem ++ "GetToAlter") : DropsEnding model model

theorem dropEnding?_eq_some_iff {ending name stem : String} :
    dropEnding? ending name = some stem ↔ name = stem ++ ending := by
  unfold dropEnding?
  dsimp only
  rw [Option.ite_none_right_eq_some, List.isSuffixOf_iff_suffix, Option.some.injEq]
  constructor
  · rintro ⟨⟨before, hname⟩, rfl⟩
    rw [← String.toList_inj, String.toList_append, String.toList_ofList, ← hname,
      ← String.length_toList, List.length_append, Nat.add_sub_cancel, List.take_left]
  · rintro rfl
    refine ⟨⟨stem.toList, (String.toList_append ..).symm⟩, ?_⟩
    rw [String.toList_append, ← String.length_toList, List.length_append, Nat.add_sub_cancel,
      List.take_left, String.ofList_toList]

theorem dropEnding?_eq_none_iff {ending name : String} :
    dropEnding? ending name = none ↔ ∀ stem, name ≠ stem ++ ending := by
  rw [Option.eq_none_iff_forall_ne_some]
  exact forall_congr' fun _ => not_congr dropEnding?_eq_some_iff

theorem dropsEnding_formName (model : String) : DropsEnding model (formName model) := by
  have hends : ∀ stem stem' : String, stem ++ "Upsert" ≠ stem' ++ "GetToAlter" := by
    intro stem stem' hsame
    have hlast := congrArg (fun text => text.toList.getLast?) hsame
    simp at hlast
  unfold formName
  cases hupsert : dropEnding? "Upsert" model with
  | some stem =>
    obtain rfl := dropEnding?_eq_some_iff.1 hupsert
    by_cases hstem : stem = ""
    · subst hstem
      refine .whole (fun stem hne hsame => hne ?_) fun stem _ => hends "" stem
      exact ((String.append_left_inj "Upsert").1 hsame).symm
    · have hstrip : (some stem).filter (· ≠ "") = some stem := by simp [hstem]
      dsimp only
      rw [hstrip, Option.getD_some]
      exact .upsert hstem
  | none =>
    have hnone := dropEnding?_eq_none_iff.1 hupsert
    cases halter : dropEnding? "GetToAlter" model with
    | some stem =>
      obtain rfl := dropEnding?_eq_some_iff.1 halter
      by_cases hstem : stem = ""
      · subst hstem
        refine .whole (fun stem _ => hnone stem) fun stem hne hsame => hne ?_
        exact ((String.append_left_inj "GetToAlter").1 hsame).symm
      · have hstrip : (some stem).filter (· ≠ "") = some stem := by simp [hstem]
        dsimp only
        rw [hstrip, Option.getD_some]
        exact .getToAlter hstem
    | none =>
      exact .whole (fun stem _ => hnone stem) fun stem _ => dropEnding?_eq_none_iff.1 halter stem

/-- The declared types that compile to objects, in their order. -/
def objectModels (declared : Dict Json) : List String :=
  (declared.entries.filter fun entry =>
    (compileDeclaration (Scope.of declared) entry.1 entry.2).1.isObject).map Prod.fst

def sliceName (model : String) : String := identifier (formName model)

/-- Each name of a slice has one slice, in the order of the models, and it is that of the first
model of the name. -/
structure OneForEach (models : List String) (slices : List Slice) : Prop where
  names : slices.map (·.name) = (models.map sliceName).eraseDups
  first : ∀ slice ∈ slices, models.find? (fun model => sliceName model = slice.name) =
    some slice.model

theorem slicesOf_eq_firstOccurrences (models : List String) :
    slicesOf models = firstOccurrences (·.name)
      (models.map fun model => ⟨sliceName model, model⟩) :=
  slicesOf_eq models

theorem oneForEach_slicesOf (models : List String) : OneForEach models (slicesOf models) where
  names := by
    rw [slicesOf_eq_firstOccurrences, map_firstOccurrences, List.map_map, Function.comp_def]
  first := by
    rw [slicesOf_eq_firstOccurrences]
    intro slice hslice
    have hfound := find?_of_mem_firstOccurrences hslice
    rw [find?_firstOccurrences, List.find?_map, Function.comp_def,
      Option.map_eq_some_iff] at hfound
    obtain ⟨model, hmodel, hslice⟩ := hfound
    rw [← hslice] at hmodel ⊢
    exact hmodel

theorem plan_slices {document : Json} {config : Config} {planned : Plan}
    (hplan : plan document config = .ok planned) :
    planned.slices = slicesOf (objectModels (sourceTypes document)) := by
  unfold Plan.slices Plan.types objectModels
  rw [plan_catalog hplan, values_types_compile, List.filter_map, List.map_map]
  rfl

theorem isAsciiText_of_mem_slicesOf {models : List String} {slice : Slice}
    (h : slice ∈ slicesOf models) : IsAsciiText slice.name := by
  rw [slicesOf_eq] at h
  obtain ⟨model, -, rfl⟩ := List.mem_map.1 (mem_of_mem_firstOccurrences h)
  exact fun c hc => isAscii_of_isNameChar (isNameChar_of_mem_identifier hc)

/-- A name without regard to capitals. -/
def caseless (name : String) : List Char := name.toList.map Char.toLower

namespace Slice

/-- The name under which the store imports the reducer of a slice. -/
def reducer (slice : Slice) : String := slice.ident ++ "Reducer"

theorem constant_eq_iff {a b : Slice} (ha : IsAsciiText a.name) (hb : IsAsciiText b.name) :
    a.constant = b.constant ↔ caseless a.name = caseless b.name := by
  have hchars {slice : Slice} (h : IsAsciiText slice.name) :
      slice.name.toList.flatMap Unicode.uppercase = slice.name.toList.map Char.toUpper := by
    have hupper : ∀ c ∈ slice.name.toList, Unicode.uppercase c = [c.toUpper] := fun c hc => by
      rw [Unicode.uppercase, if_pos (h c hc)]
    rw [List.flatMap_congr hupper]
    exact List.flatMap_pure_eq_map _ _
  rw [constant, constant, String.ofList_inj, hchars ha, hchars hb]
  exact map_toUpper_eq_iff ha hb

theorem reducer_eq_iff {a b : Slice} (ha : IsAsciiText a.name) (hb : IsAsciiText b.name) :
    a.reducer = b.reducer ↔ joinedWords a.name = joinedWords b.name := by
  rw [reducer, reducer, String.append_left_inj, ident, ident]
  exact camelCase_eq_iff ha hb

theorem isIdentifier_ident_iff {slice : Slice} (h : IsAsciiText slice.name) :
    isIdentifier slice.ident.toList = true ↔ ∃ c ∈ leading? slice.name, c.isDigit = false := by
  rw [ident, isIdentifier_iff (isAlphanum_of_mem_camelCase h)]
  exact exists_letter_iff (isDigit_head?_camelCase h)

end Slice

/-- The names that the store declares of itself. -/
def storeWords : List String :=
  ["combineReducers", "configureStore", "FORM_SLICE", "rootReducer", "store", "RootState",
    "AppDispatch"]

/-- All names that the store declares: the reducers that it imports and its own. -/
def storeNames (slices : List Slice) : List String := slices.map Slice.reducer ++ storeWords

theorem reducer_mem_storeWords_iff {slice : Slice} (h : IsAsciiText slice.name) :
    slice.reducer ∈ storeWords ↔ joinedWords slice.name = joinedWords "root" := by
  have hends : ∀ word ∈ storeWords, word.toList.getLast? = some 'r' → word = "rootReducer" := by
    decide
  have hlast : slice.reducer.toList.getLast? = some 'r' := by simp [Slice.reducer]
  have hroot : camelCase "root" = "root" := by decide
  have hword : "rootReducer" = "root" ++ "Reducer" := by decide
  have hreducer : slice.reducer = "rootReducer" ↔ slice.ident = "root" := by
    rw [Slice.reducer, hword, String.append_left_inj]
  rw [← camelCase_eq_iff h (by decide), hroot, ← Slice.ident, ← hreducer]
  constructor
  · exact fun hmem => hends _ hmem hlast
  · intro hsame
    rw [hsame]
    decide

theorem storeNames_nodup_iff {slices : List Slice}
    (hascii : ∀ slice ∈ slices, IsAsciiText slice.name) :
    (storeNames slices).Nodup ↔
      (slices.map fun slice => joinedWords slice.name).Nodup ∧
      ∀ slice ∈ slices, joinedWords slice.name ≠ joinedWords "root" := by
  have hreducers : (slices.map Slice.reducer).Nodup ↔
      (slices.map fun slice => joinedWords slice.name).Nodup :=
    nodup_map_iff_of_eq_iff fun a ha b hb => Slice.reducer_eq_iff (hascii a ha) (hascii b hb)
  have hwords : storeWords.Nodup := by decide
  rw [storeNames, List.nodup_append, hreducers]
  refine and_congr_right fun _ => ?_
  constructor
  · rintro ⟨-, hapart⟩ slice hslice hroot
    have hmem := (reducer_mem_storeWords_iff (hascii slice hslice)).2 hroot
    exact hapart _ (List.mem_map_of_mem hslice) _ hmem rfl
  · intro hroot
    refine ⟨hwords, fun name hname word hword hsame => ?_⟩
    obtain ⟨slice, hslice, rfl⟩ := List.mem_map.1 hname
    rw [← hsame] at hword
    exact hroot slice hslice ((reducer_mem_storeWords_iff (hascii slice hslice)).1 hword)

section
variable (slices : List Slice)

/-- The object of the keys: of two entries with one constant the later one counts. -/
def formKeys : Dict String :=
  Dict.ofList (slices.map fun slice => (slice.constant, slice.formKey))

def mountKey (slice : Slice) : String := ((formKeys slices).get? slice.constant).getD ""

/-- The reducers that the store combines, by the keys that it looks up. -/
def rootReducer : Dict String :=
  Dict.ofList (slices.map fun slice => (mountKey slices slice, slice.reducer))

end

section
variable {slices : List Slice}

theorem mountKey_eq (h : (slices.map Slice.constant).Nodup) {slice : Slice}
    (hslice : slice ∈ slices) : mountKey slices slice = slice.formKey := by
  have hkeys : ((slices.map fun slice => (slice.constant, slice.formKey)).map Prod.fst).Nodup := by
    simpa [List.map_map, Function.comp_def] using h
  have hentry : (slice.constant, slice.formKey) ∈ (formKeys slices).entries := by
    rw [formKeys, Dict.entries_ofList hkeys]
    exact List.mem_map_of_mem hslice
  rw [mountKey, Dict.get?_of_mem hentry, Option.getD_some]

/-- Every reducer is mounted by the key of its slice exactly if the constants are distinct. -/
theorem rootReducer_entries_iff (hnames : (slices.map Slice.formKey).Nodup) :
    (rootReducer slices).entries = slices.map (fun slice => (slice.formKey, slice.reducer)) ↔
      (slices.map Slice.constant).Nodup := by
  have hfst : (slices.map fun slice => (mountKey slices slice, slice.reducer)).map Prod.fst =
      (slices.map Slice.constant).map fun constant =>
        ((formKeys slices).get? constant).getD "" := by
    rw [List.map_map, List.map_map]
    rfl
  constructor
  · intro hentries
    have hlength : (rootReducer slices).entries.length =
        (slices.map fun slice => (mountKey slices slice, slice.reducer)).length := by
      rw [hentries, List.length_map, List.length_map]
    rw [rootReducer, Dict.length_ofList_iff, hfst] at hlength
    exact hlength.of_map _
  · intro hconstants
    have hmounted : (slices.map fun slice => (mountKey slices slice, slice.reducer)) =
        slices.map fun slice => (slice.formKey, slice.reducer) :=
      List.map_congr_left fun slice hslice => by rw [mountKey_eq hconstants hslice]
    rw [rootReducer, hmounted]
    exact Dict.entries_ofList (by simpa [List.map_map, Function.comp_def] using hnames)

/-- The store declares every name and every key once and mounts every reducer by the key of its
slice. -/
structure Wired (slices : List Slice) : Prop where
  constants : (slices.map Slice.constant).Nodup
  declared : (storeNames slices).Nodup
  idents : ∀ slice ∈ slices, isIdentifier slice.ident.toList = true
  mounted : (rootReducer slices).entries =
    slices.map fun slice => (slice.formKey, slice.reducer)

/-- The names of slices differ in more than capitals, and in their joined words, which are not
those of the root. The first letter or digit of each is a letter. -/
structure NamesToldApart (slices : List Slice) : Prop where
  names : (slices.map fun slice => caseless slice.name).Nodup
  words : (slices.map fun slice => joinedWords slice.name).Nodup
  root : ∀ slice ∈ slices, joinedWords slice.name ≠ joinedWords "root"
  letters : ∀ slice ∈ slices, ∃ c ∈ leading? slice.name, c.isDigit = false

instance (slices : List Slice) : Decidable (NamesToldApart slices) :=
  decidable_of_iff
    ((slices.map fun slice : Slice => caseless slice.name).Nodup ∧
      (slices.map fun slice : Slice => joinedWords slice.name).Nodup ∧
      (∀ slice ∈ slices, joinedWords slice.name ≠ joinedWords "root") ∧
      ∀ slice ∈ slices, ∃ c ∈ leading? slice.name, c.isDigit = false)
    ⟨fun h => ⟨h.1, h.2.1, h.2.2.1, h.2.2.2⟩, fun h => ⟨h.names, h.words, h.root, h.letters⟩⟩

theorem wired_iff (hascii : ∀ slice ∈ slices, IsAsciiText slice.name)
    (hkeys : (slices.map Slice.formKey).Nodup) : Wired slices ↔ NamesToldApart slices := by
  have hconstants : (slices.map Slice.constant).Nodup ↔
      (slices.map fun slice => caseless slice.name).Nodup :=
    nodup_map_iff_of_eq_iff fun a ha b hb => Slice.constant_eq_iff (hascii a ha) (hascii b hb)
  have hdeclared := storeNames_nodup_iff hascii
  constructor
  · intro h
    obtain ⟨hwords, hroot⟩ := hdeclared.1 h.declared
    exact ⟨hconstants.1 h.constants, hwords, hroot, fun slice hslice =>
      (Slice.isIdentifier_ident_iff (hascii slice hslice)).1 (h.idents slice hslice)⟩
  · intro h
    have hdistinct := hconstants.2 h.names
    exact ⟨hdistinct, hdeclared.2 ⟨h.words, h.root⟩, fun slice hslice =>
      (Slice.isIdentifier_ident_iff (hascii slice hslice)).2 (h.letters slice hslice),
      (rootReducer_entries_iff hkeys).2 hdistinct⟩

end

/-- Each form of the object models of a document has one slice, that of its first model in their
order, and the files and keys of the slices are distinct. The store declares every name and every
key once, under names that are identifiers, and mounts every reducer exactly if the names of the
slices are told apart. -/
theorem store_wired_iff {document : Json} {config : Config} {planned : Plan}
    (hplan : plan document config = .ok planned) :
    (∀ model ∈ objectModels (sourceTypes document), DropsEnding model (formName model)) ∧
    OneForEach (objectModels (sourceTypes document)) planned.slices ∧
    (planned.slices.map Slice.file).Nodup ∧
    (planned.slices.map Slice.formKey).Nodup ∧
    (Wired planned.slices ↔ NamesToldApart planned.slices) := by
  rw [plan_slices hplan]
  have hnames := names_nodup_slicesOf (objectModels (sourceTypes document))
  have hfiles : ((slicesOf (objectModels (sourceTypes document))).map Slice.file).Nodup :=
    (nodup_map_iff_of_eq_iff fun a _ b _ => String.append_left_inj "Slice").2 hnames
  have hkeys : ((slicesOf (objectModels (sourceTypes document))).map Slice.formKey).Nodup :=
    (nodup_map_iff_of_eq_iff fun a _ b _ => String.append_left_inj "-form-slice").2 hnames
  exact ⟨fun model _ => dropsEnding_formName model, oneForEach_slicesOf _, hfiles, hkeys,
    wired_iff (fun _ => isAsciiText_of_mem_slicesOf) hkeys⟩

/-- Object models that differ in capitals, in an underscore where a word starts, one that starts
with a digit, one without a word, and one that is named like the root. -/
def alikeModels : Json :=
  .obj [("definitions", .obj (["Lead", "LEAD", "a_b", "aB", "1Thing", "_", "Root"].map fun name =>
    (name, .obj [("type", .str "object"), ("properties", .obj [])])))]

/-- One reducer takes the place of another, and names are declared twice or are none. -/
theorem alikeModels_not_wired :
    plan alikeModels { domainPatterns := [] } =
      .ok (planWith [] alikeModels { domainPatterns := [] }) ∧
    (planWith [] alikeModels { domainPatterns := [] }).slices.map (fun slice =>
      (slice.name, slice.constant, slice.ident)) =
        [("Lead", "LEAD", "lead"), ("LEAD", "LEAD", "lead"), ("a_b", "A_B", "aB"),
          ("aB", "AB", "aB"), ("_1Thing", "_1THING", "1Thing"), ("_", "_", ""),
          ("Root", "ROOT", "root")] ∧
    (rootReducer (planWith [] alikeModels { domainPatterns := [] }).slices).entries =
      [("LEAD-form-slice", "leadReducer"), ("a_b-form-slice", "aBReducer"),
        ("aB-form-slice", "aBReducer"), ("_1Thing-form-slice", "1ThingReducer"),
        ("_-form-slice", "Reducer"), ("Root-form-slice", "rootReducer")] ∧
    ¬ Wired (planWith [] alikeModels { domainPatterns := [] }).slices := by
  have hslices : (planWith [] alikeModels { domainPatterns := [] }).slices =
      [⟨"Lead", "Lead"⟩, ⟨"LEAD", "LEAD"⟩, ⟨"a_b", "a_b"⟩, ⟨"aB", "aB"⟩, ⟨"_1Thing", "1Thing"⟩,
        ⟨"_", "_"⟩, ⟨"Root", "Root"⟩] := by
    decide +kernel
  rw [hslices]
  exact ⟨rfl, by decide +kernel, by decide +kernel, fun h => absurd h.constants (by decide)⟩

/-- Two models of one form, one that is nothing but an ending, and one with a number. -/
def formModels : Json :=
  .obj [("definitions", .obj (["Lead", "LeadUpsert", "Upsert", "Note2GetToAlter"].map fun name =>
    (name, .obj [("type", .str "object"), ("properties", .obj [])])))]

theorem formModels_wired :
    plan formModels { domainPatterns := [] } =
      .ok (planWith [] formModels { domainPatterns := [] }) ∧
    (planWith [] formModels { domainPatterns := [] }).slices =
      [⟨"Lead", "Lead"⟩, ⟨"Upsert", "Upsert"⟩, ⟨"Note2", "Note2GetToAlter"⟩] ∧
    Wired (planWith [] formModels { domainPatterns := [] }).slices := by
  have hslices : (planWith [] formModels { domainPatterns := [] }).slices =
      [⟨"Lead", "Lead"⟩, ⟨"Upsert", "Upsert"⟩, ⟨"Note2", "Note2GetToAlter"⟩] := by
    decide +kernel
  have hwired := (store_wired_iff
    (show plan formModels { domainPatterns := [] } =
      .ok (planWith [] formModels { domainPatterns := [] }) from rfl)).2.2.2.2
  refine ⟨rfl, hslices, hwired.2 ?_⟩
  rw [hslices]
  decide +kernel

end ClientGen
