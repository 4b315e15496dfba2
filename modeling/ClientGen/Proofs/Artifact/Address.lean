import ClientGen.Artifact.ServiceCall
import ClientGen.Proofs.Text.Literals
import ClientGen.Proofs.Text.Pieces

/-!
# Addresses as template literals

The address of a service call is written between backticks. It is meant as the path of the
endpoint, with the encoded parameter in the place of every placeholder. It is read so just where
the rest of the path has nothing that template literals read in another way.
-/

namespace ClientGen
open Api Text

def encodingCode (name : String) : String :=
  "encodeURIComponent(String(" ++ paramAccess name ++ "))"

/-- What a piece of a path is meant as: a substitution, or the piece as it is. -/
def pieceParts (piece : String) : List TemplatePart :=
  match placeholder? piece with
  | some name => [.value (encodingCode name)]
  | none => piece.toList.map .char

/-- What the address of a path is meant as. -/
def addressParts (path : String) : List TemplatePart :=
  List.intercalate [.char '/'] ((pieces path).map pieceParts)

theorem addressPiece_of_placeholder {piece name : String} (h : placeholder? piece = some name) :
    (addressPiece piece).toList = '$' :: '\x7b' :: ((encodingCode name).toList ++ ['\x7d']) := by
  have hcut : "$\x7bencodeURIComponent(String(" =
      "$\x7b" ++ "encodeURIComponent(String(" := by decide
  have hcut' : "))\x7d" = "))" ++ "\x7d" := by decide
  have hopening : "$\x7b".toList = ['$', '\x7b'] := rfl
  have hending : "\x7d".toList = ['\x7d'] := rfl
  unfold addressPiece encodingCode
  rw [h]
  dsimp only
  rw [hcut, hcut']
  simp only [String.toList_append, hopening, hending, List.append_assoc, List.cons_append,
    List.nil_append]

theorem addressPiece_of_none {piece : String} (h : placeholder? piece = none) :
    addressPiece piece = piece := by
  rw [addressPiece, h]

theorem written_pieceParts (piece : String) :
    written (pieceParts piece) = (addressPiece piece).toList := by
  unfold pieceParts
  split
  · rename_i name hname
    rw [addressPiece_of_placeholder hname, written_value, written_nil]
  · rename_i hnone
    rw [addressPiece_of_none hnone, written_chars]

theorem written_addressParts (endpoint : Endpoint) :
    written (addressParts endpoint.path) = endpoint.address.toList := by
  have hslash : ("/".toList : List Char) = ['/'] := rfl
  rw [addressParts, written, flatMap_intercalate, Endpoint.address, String.toList_intercalate,
    hslash, List.map_map, List.map_map]
  congr 1
  exact List.map_congr_left fun piece _ => written_pieceParts piece

theorem contained_encodingCode (name : String) : Contained (encodingCode name) := by
  have hopening : Passes [] [')', ')'] "encodeURIComponent(String(" := ⟨fun _ => rfl, by decide⟩
  exact ((neutral_paramAccess name).between hopening ⟨fun _ => rfl, by decide⟩).contained

/-- A text that a template literal takes over as it is. -/
def Verbatim (text : String) : Prop :=
  (∀ c ∈ text.toList, isTemplateChar c = true) ∧ ¬['$', '\x7b'] <:+: text.toList

instance (text : String) : Decidable (Verbatim text) :=
  inferInstanceAs (Decidable ((∀ c ∈ text.toList, isTemplateChar c = true) ∧
    ¬['$', '\x7b'] <:+: text.toList))

theorem plainParts_chars {chars : List Char} :
    PlainParts (chars.map .char) ↔
      (∀ c ∈ chars, isTemplateChar c = true) ∧ ¬['$', '\x7b'] <:+: chars := by
  induction chars with
  | nil => simp [PlainParts]
  | cons c rest ih =>
    have hnext : (rest.map TemplatePart.char).head? ≠ some (.char '\x7b') ↔
        rest.head? ≠ some '\x7b' := by
      cases rest <;> simp
    have hstart : ['$', '\x7b'] <+: c :: rest ↔ c = '$' ∧ rest.head? = some '\x7b' := by
      cases rest <;> simp [eq_comm]
    rw [List.map_cons, PlainParts, ih, hnext, List.forall_mem_cons, List.infix_cons_iff, hstart]
    tauto

theorem plainParts_append_slash {first rest : List TemplatePart} :
    PlainParts (first ++ .char '/' :: rest) ↔ PlainParts first ∧ PlainParts rest := by
  induction first with
  | nil => simp [PlainParts, isTemplateChar]
  | cons part more ih =>
    cases part with
    | char c =>
      have hnext : (more ++ .char '/' :: rest).head? ≠ some (.char '\x7b') ↔
          more.head? ≠ some (.char '\x7b') := by
        cases more <;> simp
      rw [List.cons_append, PlainParts, PlainParts, ih, hnext, ← and_assoc]
    | value code => rw [List.cons_append, PlainParts, PlainParts, ih, and_assoc]

theorem plainParts_intercalate_slash {texts : List (List TemplatePart)} :
    PlainParts (List.intercalate [.char '/'] texts) ↔ ∀ parts ∈ texts, PlainParts parts := by
  induction texts with
  | nil => simp [PlainParts, List.intercalate_nil]
  | cons first rest ih =>
    cases rest with
    | nil => simp
    | cons second rest =>
      rw [List.intercalate_cons_cons, List.append_assoc, List.singleton_append,
        plainParts_append_slash, ih, ← List.forall_mem_cons]

theorem plainParts_pieceParts {piece : String} :
    PlainParts (pieceParts piece) ↔ (placeholder? piece = none → Verbatim piece) := by
  unfold pieceParts
  cases placeholder? piece with
  | some name => simp [PlainParts, contained_encodingCode]
  | none => simpa [Verbatim] using plainParts_chars

/-- A path whose address is read as it is meant: everything but its placeholders is taken over as
it is. -/
def VerbatimPath (path : String) : Prop :=
  ∀ piece ∈ pieces path, placeholder? piece = none → Verbatim piece

instance (path : String) : Decidable (VerbatimPath path) :=
  inferInstanceAs (Decidable (∀ piece ∈ pieces path, placeholder? piece = none → Verbatim piece))

theorem readsParts_addressParts_iff (path : String) :
    ReadsParts (written (addressParts path)) (addressParts path) ↔ VerbatimPath path := by
  rw [readsParts_written_iff, addressParts, plainParts_intercalate_slash, List.forall_mem_map]
  exact forall₂_congr fun piece _ => plainParts_pieceParts

theorem readsParts_address_iff (endpoint : Endpoint) :
    ReadsParts endpoint.address.toList (addressParts endpoint.path) ↔
      VerbatimPath endpoint.path := by
  rw [← written_addressParts, readsParts_addressParts_iff]

end ClientGen
