import ClientGen.Plan.Basic
import ClientGen.Proofs.Api.Placeholders
import ClientGen.Proofs.Artifact.Address
import ClientGen.Proofs.Text.Access

/-!
# Which placeholders an address fills

The address of a call is made from the path piece by piece, and a piece is filled only where it is a
placeholder as a whole. A placeholder may stand anywhere in a path, though, so to fill every one of
them and keep all other text is more. The two differ as soon as a brace does not open a placeholder
that is a piece by itself.
-/

namespace ClientGen
open Api Text

def filledValue (name : String) : List Char := (TemplatePart.value (encodingCode name)).written

def Api.PathPart.filled : PathPart → List Char
  | .char c => [c]
  | .placeholder name => filledValue name

/-- A path with every placeholder filled. -/
def fillPath (path : List Char) : List Char := (pathParts path).flatMap PathPart.filled

/-- The parts of a URL template with every placeholder filled. The dollar sign before a placeholder
is part of what is filled. -/
def fillParts : List PathPart → List Char
  | [] => []
  | .char '$' :: .placeholder name :: rest => filledValue name ++ fillParts rest
  | part :: rest => part.text ++ fillParts rest

/-- A URL template with every placeholder filled. -/
def fillTemplate (template : List Char) : List Char := fillParts (pathParts template)

/-- The address is the URL template with every placeholder filled, which is the path with every
placeholder filled and all other text kept. -/
structure Endpoint.FillsPlaceholders (endpoint : Endpoint) : Prop where
  template : endpoint.address.toList = fillTemplate (urlTemplate endpoint.path).toList
  text : endpoint.address.toList = fillPath endpoint.path.toList

/-- A piece of a path that is a placeholder or has no opening brace. -/
def Api.WholePiece (piece : String) : Prop :=
  '\x7b' ∈ piece.toList →
    ∃ name, IsPlaceholderName name ∧ piece.toList = '\x7b' :: (name ++ ['\x7d'])

/-- Every brace that is opened in a path opens a placeholder that is a piece by itself. -/
def Api.BracesWhole (path : String) : Prop := ∀ piece ∈ pieces path, WholePiece piece

def Api.PathPart.inTemplate : PathPart → List Char
  | .char c => templateChar c
  | .placeholder name => filledValue name

theorem fillParts_char {c : Char} {rest : List PathPart}
    (h : c = '$' → ∀ name, rest.head? ≠ some (.placeholder name)) :
    fillParts (.char c :: rest) = c :: fillParts rest := by
  rw [fillParts]
  · rfl
  · rintro name more ⟨rfl⟩ rfl
    exact h rfl name rfl

theorem head?_templated (parts : List PathPart) (name : String) :
    (parts.flatMap PathPart.templated).head? ≠ some (.placeholder name) := by
  cases parts with
  | nil => exact nofun
  | cons part rest =>
    rw [List.flatMap_cons]
    cases part with
    | char c =>
      rw [PathPart.templated, templateChar]
      split <;> simp
    | placeholder name' => simp [PathPart.templated]

theorem fillParts_templated (parts : List PathPart) :
    fillParts (parts.flatMap PathPart.templated) = parts.flatMap PathPart.inTemplate := by
  induction parts with
  | nil => rfl
  | cons part rest ih =>
    have hhead := head?_templated rest
    rw [List.flatMap_cons, List.flatMap_cons, ← ih]
    cases part with
    | placeholder name => rfl
    | char c =>
      rw [PathPart.templated, PathPart.inTemplate, templateChar]
      split
      · rw [List.map_cons, List.map_singleton, List.cons_append, List.singleton_append,
          fillParts_char (by simp), fillParts_char fun _ => hhead]
        rfl
      · rw [List.map_singleton, List.singleton_append, fillParts_char fun _ => hhead]
        rfl

theorem fillTemplate_urlTemplate (path : String) :
    fillTemplate (urlTemplate path).toList =
      (pathParts path.toList).flatMap PathPart.inTemplate := by
  rw [fillTemplate, urlTemplate_eq, pathParts_template, fillParts_templated]

theorem inTemplate_eq_filled_iff {parts : List PathPart} :
    parts.flatMap PathPart.inTemplate = parts.flatMap PathPart.filled ↔ .char '\x7b' ∉ parts := by
  induction parts with
  | nil => simp
  | cons part rest ih =>
    rw [List.flatMap_cons, List.flatMap_cons, List.mem_cons, not_or, ← ih]
    cases part with
    | placeholder name =>
      rw [PathPart.inTemplate, PathPart.filled, List.append_right_inj]
      exact (and_iff_right nofun).symm
    | char c =>
      by_cases hc : c = '\x7b'
      · subst hc
        refine iff_of_false (fun h => ?_) fun h => h.1 rfl
        cases (List.cons_eq_cons.1 h).1
      · rw [PathPart.inTemplate, PathPart.filled, templateChar_of_ne hc, List.append_right_inj]
        exact (and_iff_right fun h => hc (PathPart.char.inj h).symm).symm

def wholeParts (piece : String) : List PathPart :=
  match placeholder? piece with
  | some name => [.placeholder name]
  | none => piece.toList.map .char

def addressedParts (path : String) : List PathPart :=
  List.intercalate [.char '/'] ((pieces path).map wholeParts)

theorem text_wholeParts (piece : String) :
    (wholeParts piece).flatMap PathPart.text = piece.toList := by
  unfold wholeParts
  split
  · rename_i name hname
    rw [(placeholder?_eq_some_iff.1 hname).2, List.flatMap_singleton, PathPart.text]
  · rw [List.flatMap_map]
    exact List.flatMap_singleton' _

theorem filled_wholeParts (piece : String) :
    (wholeParts piece).flatMap PathPart.filled = (addressPiece piece).toList := by
  rw [← written_pieceParts, pieceParts, wholeParts]
  cases placeholder? piece with
  | some name => rfl
  | none => simp [List.flatMap_map, written, PathPart.filled, TemplatePart.written]

theorem text_addressedParts (path : String) :
    (addressedParts path).flatMap PathPart.text = path.toList := by
  have htexts : (pieces path).map (List.flatMap PathPart.text ∘ wholeParts) =
      (pieces path).map String.toList :=
    List.map_congr_left fun piece _ => text_wholeParts piece
  rw [addressedParts, flatMap_intercalate, List.map_map, htexts]
  exact intercalate_pieces path

theorem filled_addressedParts (endpoint : Endpoint) :
    (addressedParts endpoint.path).flatMap PathPart.filled = endpoint.address.toList := by
  have hslash : ("/".toList : List Char) = ['/'] := rfl
  have hfilled : (pieces endpoint.path).map (List.flatMap PathPart.filled ∘ wholeParts) =
      (pieces endpoint.path).map (String.toList ∘ addressPiece) :=
    List.map_congr_left fun piece _ => filled_wholeParts piece
  rw [addressedParts, flatMap_intercalate, List.map_map, hfilled, Endpoint.address,
    String.toList_intercalate, hslash, List.map_map]
  rfl

theorem filledValue_append_inj {first second : String} {rest rest' : List Char}
    (h : filledValue first ++ rest = filledValue second ++ rest') : first = second := by
  obtain ⟨opening, hopening⟩ : ∃ opening, ∀ name, encodingCode name =
      opening ++ paramAccess name ++ "))" := ⟨_, fun _ => rfl⟩
  have hending : "))".toList = [')', ')'] := rfl
  simp only [filledValue, TemplatePart.written, hopening, hending, String.toList_append,
    List.append_assoc, List.cons_append, List.nil_append, List.cons.injEq, true_and,
    List.append_cancel_left_eq] at h
  exact paramAccess_append_inj (endsWord_cons (by decide)) (endsWord_cons (by decide)) h

theorem eq_of_text_of_filled {first second : List PathPart}
    (htext : first.flatMap PathPart.text = second.flatMap PathPart.text)
    (hfilled : first.flatMap PathPart.filled = second.flatMap PathPart.filled) :
    first = second := by
  -- a filled placeholder has a dollar sign where the path has the brace
  induction first generalizing second with
  | nil =>
    cases second with
    | nil => rfl
    | cons part rest => cases part <;> cases htext
  | cons part rest ih =>
    cases second with
    | nil => cases part <;> cases htext
    | cons part' rest' =>
      rw [List.flatMap_cons, List.flatMap_cons] at htext hfilled
      cases part with
      | char c =>
        cases part' with
        | char d =>
          obtain ⟨rfl, hrest⟩ := List.cons_eq_cons.1 htext
          rw [ih hrest (List.cons_eq_cons.1 hfilled).2]
        | placeholder name =>
          have hbrace := (List.cons_eq_cons.1 htext).1
          have hdollar := (List.cons_eq_cons.1 hfilled).1
          exact absurd (hbrace.symm.trans hdollar) (by decide)
      | placeholder name =>
        cases part' with
        | char d =>
          have hbrace := (List.cons_eq_cons.1 htext).1
          have hdollar := (List.cons_eq_cons.1 hfilled).1
          exact absurd (hbrace.trans hdollar.symm) (by decide)
        | placeholder name' =>
          obtain rfl := filledValue_append_inj hfilled
          rw [ih (List.append_cancel_left htext) (List.append_cancel_left hfilled)]

theorem address_eq_fillPath_iff (endpoint : Endpoint) :
    endpoint.address.toList = fillPath endpoint.path.toList ↔
      addressedParts endpoint.path = pathParts endpoint.path.toList := by
  rw [← filled_addressedParts, fillPath]
  constructor
  · refine eq_of_text_of_filled ?_
    rw [text_addressedParts, text_pathParts]
  · exact congrArg _

def Api.PathPart.Proper : PathPart → Prop
  | .char c => c ≠ '\x7b'
  | .placeholder name => IsPlaceholderName name.toList

theorem wholePiece_iff {piece : String} :
    WholePiece piece ↔ ∀ part ∈ wholeParts piece, part.Proper := by
  unfold wholeParts
  split
  · rename_i name hname
    obtain ⟨hne, hpiece⟩ := placeholder?_eq_some_iff.1 hname
    rw [List.forall_mem_singleton, WholePiece, hpiece]
    constructor
    · intro h
      obtain ⟨chars, hchars, hsame⟩ := h (List.mem_cons_self ..)
      rwa [PathPart.Proper, List.append_cancel_right (List.cons_eq_cons.1 hsame).2]
    · exact fun h _ => ⟨name.toList, h, rfl⟩
  · rename_i hnone
    rw [List.forall_mem_map]
    constructor
    · rintro h c hc rfl
      obtain ⟨name, hname, hpiece⟩ := h hc
      have hsome := placeholder?_of_isPlaceholderName hname hpiece
      rw [hnone] at hsome
      cases hsome
    · exact fun h hbrace => absurd rfl (h _ hbrace)

theorem bracesWhole_iff {path : String} :
    BracesWhole path ↔ ∀ part ∈ addressedParts path, part.Proper := by
  have hslash : ∀ part ∈ [PathPart.char '/'], part.Proper := by
    rw [List.forall_mem_singleton, PathPart.Proper]
    decide
  rw [addressedParts, forall_mem_intercalate hslash, List.forall_mem_map]
  exact forall₂_congr fun piece _ => wholePiece_iff

theorem pathParts_wholePiece {piece : String} (h : WholePiece piece) (rest : List Char) :
    pathParts (piece.toList ++ rest) = wholeParts piece ++ pathParts rest := by
  by_cases hbrace : '\x7b' ∈ piece.toList
  · obtain ⟨name, hname, hpiece⟩ := h hbrace
    rw [wholeParts, placeholder?_of_isPlaceholderName hname hpiece, hpiece, List.cons_append,
      List.append_assoc, List.singleton_append, pathParts_placeholder hname]
    rfl
  · have hnone : placeholder? piece = none := by
      refine Option.eq_none_iff_forall_ne_some.2 fun name hname => hbrace ?_
      rw [(placeholder?_eq_some_iff.1 hname).2]
      exact List.mem_cons_self ..
    rw [wholeParts, hnone, pathParts_append_of_not_mem hbrace]

theorem pathParts_intercalate {texts : List String} (h : ∀ text ∈ texts, WholePiece text) :
    pathParts (['/'].intercalate (texts.map String.toList)) =
      [PathPart.char '/'].intercalate (texts.map wholeParts) := by
  induction texts with
  | nil => exact pathParts_nil
  | cons first rest ih =>
    rw [List.forall_mem_cons] at h
    cases rest with
    | nil =>
      have hfirst := pathParts_wholePiece h.1 []
      rw [pathParts_nil, List.append_nil, List.append_nil] at hfirst
      simpa using hfirst
    | cons second rest =>
      have hslash (rest : List Char) : pathParts ('/' :: rest) = .char '/' :: pathParts rest :=
        pathParts_char (startPlaceholder?_of_ne (by decide) rest)
      have hrest := ih h.2
      rw [List.map_cons, List.map_cons] at hrest ⊢
      rw [List.map_cons, List.map_cons, List.intercalate_cons_cons, List.intercalate_cons_cons,
        List.append_assoc, List.append_assoc, List.singleton_append, List.singleton_append,
        pathParts_wholePiece h.1, hslash, hrest]

/-- The address of a call fills every placeholder of its path and keeps all other text exactly where
every brace that is opened in the path opens a placeholder that is a piece by itself. -/
theorem placeholders_filled_iff (endpoint : Endpoint) :
    endpoint.FillsPlaceholders ↔ BracesWhole endpoint.path := by
  have htemplate (hparts : addressedParts endpoint.path = pathParts endpoint.path.toList) :
      endpoint.address.toList = fillTemplate (urlTemplate endpoint.path).toList ↔
        .char '\x7b' ∉ pathParts endpoint.path.toList := by
    rw [← filled_addressedParts, hparts, fillTemplate_urlTemplate, eq_comm,
      inTemplate_eq_filled_iff]
  constructor
  · rintro ⟨htemplated, htext⟩
    have hparts := (address_eq_fillPath_iff endpoint).1 htext
    have hbrace := (htemplate hparts).1 htemplated
    rw [bracesWhole_iff, hparts]
    intro part hpart
    cases part with
    | char c =>
      rintro rfl
      exact hbrace hpart
    | placeholder name => exact name_of_mem_pathParts hpart
  · intro hwhole
    have hparts : addressedParts endpoint.path = pathParts endpoint.path.toList := by
      rw [← intercalate_pieces, pathParts_intercalate hwhole]
      rfl
    refine ⟨(htemplate hparts).2 fun hbrace => ?_, (address_eq_fillPath_iff endpoint).2 hparts⟩
    rw [← hparts] at hbrace
    exact bracesWhole_iff.1 hwhole _ hbrace rfl

/-- A file name that is a parameter up to its extension. -/
def fileCalls : Json :=
  .obj [("paths", .obj [("/api/files/{name}.json", .obj [("get", .obj [
    ("parameters", .arr [
      .obj [("name", .str "name"), ("in", .str "path"), ("type", .str "string")]]),
    ("responses", .obj [("204", .obj [])])])])])]

/-- The parameter has to be given, and the braces are sent. -/
theorem fileCalls_not_filled :
    plan fileCalls { domainPatterns := [] } =
      .ok (planWith [] fileCalls { domainPatterns := [] }) ∧
    (planWith [] fileCalls { domainPatterns := [] }).endpoints.map (fun endpoint =>
        (urlTemplate endpoint.path, endpoint.address,
          (endpoint.interface.bind (·.field? "name")).map fun field =>
            (field.location, field.required))) =
      [("/api/files/${name}.json", "/api/files/{name}.json", some (.path, true))] ∧
    ¬ ∀ endpoint ∈ (planWith [] fileCalls { domainPatterns := [] }).endpoints,
      endpoint.FillsPlaceholders := by
  refine ⟨rfl, by decide +kernel, fun h => ?_⟩
  have hsent : (planWith [] fileCalls { domainPatterns := [] }).endpoints.any fun endpoint =>
      endpoint.address.toList ≠ fillPath endpoint.path.toList := by decide +kernel
  obtain ⟨endpoint, hendpoint, hne⟩ := List.any_eq_true.1 hsent
  exact of_decide_eq_true hne (h endpoint hendpoint).text

end ClientGen
