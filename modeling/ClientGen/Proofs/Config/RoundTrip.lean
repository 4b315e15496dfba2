import ClientGen.Proofs.Yaml.Presented
import ClientGen.Yaml.Settings
import Mathlib.Data.List.Nodup

/-!
# Written configurations are read back

A configuration is written as one value with all its members. Whatever format presents that value,
the configuration is read back from it, as long as the format's reader takes a presented value for
what it is: nothing that was written is replaced by a default, an empty list stays empty, and a list
of one command is not told from one command alone.
-/

namespace ClientGen

theorem ArtifactKind.ofName?_name (kind : ArtifactKind) : ofName? kind.name = some kind := by
  cases kind <;> decide

namespace SettingsReader

variable {ν α : Type} {reader : SettingsReader ν} {presents : ν → Json → Prop}

/-- The given members present the members of a value, in their order. -/
def Gives (presents : ν → Json → Prop) (given : List (String × ν))
    (members : List (String × Json)) : Prop :=
  List.Forall₂ (fun entry member => entry.1 = member.1 ∧ presents entry.2 member.2) given members

/-- Settings are read from the values that present them. -/
structure Reads (reader : SettingsReader ν) (presents : ν → Json → Prop) : Prop where
  text {v : ν} {s : String} (h : presents v (.str s)) : reader.text? v = some s
  switch {v : ν} {b : Bool} (h : presents v (.bool b)) : reader.switch? v = some b
  optionalText {v : ν} {text? : Option String} (h : presents v (.ofText? text?)) :
    reader.optionalText? v = some text?
  items {v : ν} {values : List Json} (h : presents v (.arr values)) :
    ∃ items, reader.items? v = some items ∧ List.Forall₂ presents items values
  kind {v : ν} {kind : ArtifactKind} (h : presents v (.str kind.name)) :
    reader.kind? v = some kind
  commands {v : ν} {commands : List String} (h : presents v (.ofTexts commands)) :
    reader.commands? v = some commands
  members {v : ν} {members : List (String × Json)} (h : presents v (.obj members))
    (hdistinct : (members.map Prod.fst).Nodup) (names : List String) :
    ∃ given, reader.members? names v = some given ∧ Gives presents given members

theorem Gives.names_eq {given : List (String × ν)} {members : List (String × Json)}
    (h : Gives presents given members) : given.map Prod.fst = members.map Prod.fst := by
  induction h with
  | nil => rfl
  | cons hentry _ ih => rw [List.map_cons, List.map_cons, hentry.1, ih]

theorem Gives.exists_lookup_eq {given : List (String × ν)} {members : List (String × Json)}
    (h : Gives presents given members) (name : String) {value : Json}
    (hmember : members.lookup name = some value) :
    ∃ v, given.lookup name = some v ∧ presents v value := by
  induction h with
  | nil => cases hmember
  | @cons entry member _ _ hentry _ ih =>
    rw [List.lookup_cons] at hmember
    rw [List.lookup_cons, hentry.1]
    cases hname : name == member.1 with
    | true =>
      rw [hname] at hmember
      rw [← Option.some.inj hmember]
      exact ⟨entry.2, rfl, hentry.2⟩
    | false =>
      rw [hname] at hmember
      exact ih hmember

theorem Gives.memberOr_eq {given : List (String × ν)} {members : List (String × Json)}
    (h : Gives presents given members) {name : String} {value : Json} {default a : α}
    {read : ν → Option α} (hmember : members.lookup name = some value)
    (hread : ∀ {v}, presents v value → read v = some a) :
    memberOr given name default read = some a := by
  obtain ⟨v, hlookup, hv⟩ := h.exists_lookup_eq name hmember
  rw [memberOr, hlookup]
  exact hread hv

namespace Reads

variable (h : reader.Reads presents)
include h

theorem list {read : ν → Option α} {write : α → Json} {v : ν} {as : List α}
    (hread : ∀ {v a}, presents v (write a) → read v = some a)
    (hv : presents v (.arr (as.map write))) : reader.list? read v = some as := by
  obtain ⟨items, hitems, hpresents⟩ := h.items hv
  rw [List.forall₂_map_right_iff] at hpresents
  rw [list?, hitems]
  exact mapM_eq_pure hpresents fun _ _ _ => hread

theorem pattern {v : ν} {p : DomainPattern} (hv : presents v (Config.patternJson p)) :
    reader.pattern? v = some p := by
  have hdistinct : DomainPattern.memberNames.Nodup := by decide
  obtain ⟨given, hgiven, hmembers⟩ := h.members hv hdistinct DomainPattern.memberNames
  obtain ⟨pattern, hpattern, hpatternText⟩ := hmembers.exists_lookup_eq "pattern" rfl
  obtain ⟨domain, hdomain, hdomainText⟩ := hmembers.exists_lookup_eq "domain" rfl
  simp [pattern?, hgiven, hpattern, hdomain, h.text hpatternText, h.text hdomainText]

theorem config {v : ν} {config : Config} (hv : presents v config.toJson) :
    reader.config? v = some config := by
  have hdistinct : Config.memberNames.Nodup := by decide
  obtain ⟨given, hgiven, hmembers⟩ := h.members hv hdistinct Config.memberNames
  rw [config?, hgiven, Option.bind_some, ofMembers?,
    -- the members in the order of their declaration
    hmembers.memberOr_eq rfl h.text, hmembers.memberOr_eq rfl h.text,
    hmembers.memberOr_eq rfl h.text, hmembers.memberOr_eq rfl h.switch,
    hmembers.memberOr_eq rfl h.text,
    hmembers.memberOr_eq rfl (h.list h.kind), hmembers.memberOr_eq rfl h.switch,
    hmembers.memberOr_eq rfl h.optionalText, hmembers.memberOr_eq rfl (h.list h.pattern),
    hmembers.memberOr_eq rfl h.commands]
  rfl

end Reads

end SettingsReader

theorem Json.reads_settings : Json.settingsReader.Reads Eq where
  text := by
    rintro _ s rfl
    rfl
  switch := by
    rintro _ b rfl
    rfl
  optionalText := by
    rintro _ (_ | s) rfl <;> rfl
  items := by
    rintro _ values rfl
    exact ⟨values, rfl, List.forall₂_refl values⟩
  kind := by
    rintro _ kind rfl
    exact kind.ofName?_name
  commands := by
    rintro _ commands rfl
    have hitems : List.Forall₂ (fun item text => item = Json.str text) (commands.map .str)
        commands :=
      List.forall₂_map_left_iff.2 (List.forall₂_same.2 fun _ _ => rfl)
    refine mapM_eq_pure hitems ?_
    rintro _ text - rfl
    rfl
  members := by
    rintro _ members rfl - names
    exact ⟨members, rfl, List.forall₂_same.2 fun _ _ => ⟨rfl, rfl⟩⟩

namespace Yaml.Document

variable (document : Document)

theorem plainText?_of_presents {node : Node} {s : String} (h : node.Presents (.str s)) :
    document.plainText? node = some s := by
  obtain ⟨style, rfl, hvalue, -⟩ := h.of_text
  have hnode : document.resolved? (.scalar none style s) = some (.scalar none style s) := rfl
  rw [plainText?, hnode]
  simp only [hvalue]
  rfl

theorem exists_members_eq {entries : List (Node × Node)} {members : List (String × Json)}
    (hentries : List.Forall₂ (fun entry member =>
      (∃ style, entry.1 = .scalar none style member.1) ∧ entry.2.Presents member.2)
        entries members) :
    ∃ given, (entries.mapM fun (key, value) => do
        return (← document.settingText? key, value)) = some given ∧
      SettingsReader.Gives Node.Presents given members := by
  induction hentries with
  | nil => exact ⟨[], List.mapM_nil, .nil⟩
  | @cons entry member entries members hentry _ ih =>
    obtain ⟨given, hgiven, hmembers⟩ := ih
    obtain ⟨key, node⟩ := entry
    obtain ⟨⟨style, rfl⟩, hnode⟩ := hentry
    have hkey : document.settingText? (.scalar none style member.1) = some member.1 := rfl
    refine ⟨(member.1, node) :: given, ?_, .cons ⟨rfl, hnode⟩ hmembers⟩
    rw [List.mapM_cons, hgiven]
    simp only [hkey]
    rfl

theorem settings?_of_presents {entries : List (Node × Node)} {members : List (String × Json)}
    (hentries : List.Forall₂ (fun entry member =>
      (∃ style, entry.1 = .scalar none style member.1) ∧ entry.2.Presents member.2) entries members)
    (hdistinct : (members.map Prod.fst).Nodup) (names : List String) :
    ∃ given, document.settings? names (.mapping none entries) = some given ∧
      SettingsReader.Gives Node.Presents given members := by
  have hnode : document.resolved? (.mapping none entries) = some (.mapping none entries) := rfl
  obtain ⟨given, hgiven, hmembers⟩ := document.exists_members_eq hentries
  have honce : (names.all fun name => (given.map (·.1)).count name ≤ 1) = true := by
    rw [List.all_eq_true]
    intro name _
    rw [hmembers.names_eq, decide_eq_true_eq]
    exact List.nodup_iff_count_le_one.1 hdistinct name
  refine ⟨given, ?_, hmembers⟩
  rw [settings?, hnode]
  simp only [hgiven]
  exact if_pos honce

theorem reads_settings : document.settingsReader.Reads Node.Presents where
  text := by
    intro _ s h
    obtain ⟨style, rfl, -, -⟩ := h.of_text
    rfl
  switch := by
    intro _ b h
    obtain ⟨text, rfl, htruth⟩ := h.of_bool
    exact htruth
  optionalText := by
    rintro _ (_ | s) h
    · obtain ⟨text, rfl, habsent⟩ := h.of_null
      exact congrArg some (if_pos habsent)
    · obtain ⟨style, rfl, -, hs⟩ := h.of_text
      cases style with
      | plain => exact congrArg some (if_neg (Bool.eq_false_iff.1 (hs rfl)))
      | _ => rfl
  items := by
    intro _ values h
    obtain ⟨items, rfl, hitems⟩ := h.of_array
    exact ⟨items, rfl, hitems⟩
  kind := by
    intro _ kind h
    obtain ⟨style, rfl, -, -⟩ := h.of_text
    exact kind.ofName?_name
  commands := by
    intro _ commands h
    obtain ⟨items, rfl, hitems⟩ := h.of_array
    rw [List.forall₂_map_right_iff] at hitems
    exact mapM_eq_pure hitems fun _ _ _ => document.plainText?_of_presents
  members := by
    intro _ members h hdistinct names
    obtain ⟨entries, rfl, hentries⟩ := h.of_object
    exact document.settings?_of_presents hentries hdistinct names

end Yaml.Document

theorem Config.nestsWithin_toJson (config : Config) (depth : Nat) :
    config.toJson.NestsWithin (depth + 3) := by
  have hfolder : (Json.ofText? config.templateDir).NestsWithin (depth + 2) := by
    cases config.templateDir <;> simp [Json.NestsWithin, Json.ofText?]
  simp [toJson, patternJson, Json.ofTexts, Json.NestsWithin, hfolder]

theorem Config.ofYaml?_of_presents {config : Config} {text : String} {document : Yaml.Document}
    (hread : Yaml.Document.read? text = some document)
    (h : document.root.Presents config.toJson) : ofYaml? text = some config := by
  rw [ofYaml?, hread]
  exact document.reads_settings.config h

/-- What is written for a configuration is read back as it: from the value itself, from every
document that presents the value, and from every text that is read as such a document. A document
that presents the value denotes it too. -/
theorem config_reads_back (config : Config) :
    Config.ofJson? config.toJson = some config ∧
    (∀ document : Yaml.Document, document.root.Presents config.toJson →
      document.value? = some config.toJson ∧
        document.settingsReader.config? document.root = some config) ∧
    ∀ text document, Yaml.Document.read? text = some document →
      document.root.Presents config.toJson → Config.ofYaml? text = some config :=
  ⟨Json.reads_settings.config rfl, fun document h =>
      ⟨document.value?_of_presents h (config.nestsWithin_toJson _),
        document.reads_settings.config h⟩,
    fun _ _ => Config.ofYaml?_of_presents⟩

/-- A configuration with a repeated exclusion, without patterns, and with a command that looks like
a number. -/
def savedConfig : Config where
  specLocation := "api.json"
  outputDir := ""
  aliasImports := true
  exclude := [.store, .hooks, .store]
  domainPatterns := []
  postGenerate := ["123"]

/-- How that configuration may stand in a document. -/
def savedDocument : Yaml.Document where
  root := .mapping none [
    (.scalar none .plain "spec_location", .scalar none .plain "api.json"),
    (.scalar none .plain "output_dir", .scalar none .quoted ""),
    (.scalar none .plain "api_base_path", .scalar none .plain "api"),
    (.scalar none .plain "alias_imports", .scalar none .plain "true"),
    (.scalar none .plain "alias_root", .scalar none .quoted "@/api"),
    (.scalar none .plain "exclude", .sequence none
      [.scalar none .plain "store", .scalar none .plain "hooks", .scalar none .plain "store"]),
    (.scalar none .plain "clean", .scalar none .plain "false"),
    (.scalar none .plain "template_dir", .scalar none .plain "null"),
    (.scalar none .plain "domain_patterns", .sequence none []),
    (.scalar none .plain "post_generate", .sequence none [.scalar none .quoted "123"])]
  anchored := []
  size := 29

def savedText : String :=
  "spec_location: api.json\noutput_dir: ''\napi_base_path: api\nalias_imports: true\n" ++
  "alias_root: '@/api'\nexclude:\n- store\n- hooks\n- store\nclean: false\n" ++
  "template_dir: null\ndomain_patterns: []\npost_generate:\n- '123'\n"

def savedTokens : List Yaml.Token :=
  [.mappingStart,
    .key, .scalar .plain "spec_location", .value, .scalar .plain "api.json",
    .key, .scalar .plain "output_dir", .value, .scalar .quoted "",
    .key, .scalar .plain "api_base_path", .value, .scalar .plain "api",
    .key, .scalar .plain "alias_imports", .value, .scalar .plain "true",
    .key, .scalar .plain "alias_root", .value, .scalar .quoted "@/api",
    .key, .scalar .plain "exclude", .value, .item, .scalar .plain "store",
      .item, .scalar .plain "hooks", .item, .scalar .plain "store",
    .key, .scalar .plain "clean", .value, .scalar .plain "false",
    .key, .scalar .plain "template_dir", .value, .scalar .plain "null",
    .key, .scalar .plain "domain_patterns", .value, .bracketOpen, .bracketClose,
    .key, .scalar .plain "post_generate", .value, .item, .scalar .quoted "123",
    .blockEnd]

theorem read?_savedText : Yaml.Document.read? savedText = some savedDocument := by
  have htokens : Yaml.readTokens? savedText = some savedTokens := by decide +kernel
  rw [Yaml.Document.read?, htokens]
  rfl

theorem savedConfig_reads_back :
    savedDocument.root.Presents savedConfig.toJson ∧
      savedDocument.settingsReader.config? savedDocument.root = some savedConfig ∧
      Config.ofYaml? savedText = some savedConfig := by
  have hkinds : List.Forall₂ Yaml.Node.Presents
      [.scalar none .plain "store", .scalar none .plain "hooks", .scalar none .plain "store"]
      [.str "store", .str "hooks", .str "store"] :=
    .cons (.plain rfl rfl) (.cons (.plain rfl rfl) (.cons (.plain rfl rfl) .nil))
  have hpresents : savedDocument.root.Presents savedConfig.toJson := by
    refine .mapping ?_ (show Config.memberNames.Nodup by decide) ?_
    · repeat' constructor
    · exact .cons (.plain rfl rfl) <| .cons (.quoted (by decide)) <| .cons (.plain rfl rfl) <|
        .cons (.plain rfl rfl) <| .cons (.quoted (by decide)) <| .cons (.sequence hkinds) <|
        .cons (.plain rfl rfl) <| .cons (.plain rfl rfl) <| .cons (.sequence .nil) <|
        .cons (.sequence (.cons (.quoted (by decide)) .nil)) .nil
  have hback := config_reads_back savedConfig
  exact ⟨hpresents, (hback.2.1 savedDocument hpresents).2,
    hback.2.2 savedText savedDocument read?_savedText hpresents⟩

end ClientGen
