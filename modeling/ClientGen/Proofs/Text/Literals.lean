import ClientGen.Json.Token
import ClientGen.Proofs.Schema.TypeToken
import ClientGen.Proofs.Text.Brackets

/-!
# What literals of generated code stand for

A text between single quotes or between backticks is read piece by piece: most characters stand for
themselves, escapes for one character or none, and a template literal has substitutions besides.
An escape is always longer than what it stands for. So a text that is put into a literal as it is
stands for itself only where it has no escape, and nothing else that is read in another way.
-/

namespace ClientGen.Text

def hexNumber? (digits : List Char) : Option Nat :=
  digits.foldlM (fun n c => (Json.hexValue? c).map (16 * n + ·)) 0

/-- What the characters behind a backslash stand for, with the text that follows them. Half of a
surrogate pair stands for no character. -/
inductive Escape (after : List Char) : List Char → List Char → Prop where
  | letter {c d : Char} (h : unescape? c = some d) : Escape after [c] [d]
  | zero (h : ∀ c ∈ after.head?, c.isDigit = false) : Escape after ['0'] [Char.ofNat 0]
  | lineEnd {c : Char} (h : c = '\n' ∨ c = '\u2028' ∨ c = '\u2029') : Escape after [c] []
  | carriage (h : after.head? ≠ some '\n') : Escape after ['\r'] []
  | carriageLine : Escape after ['\r', '\n'] []
  | byte {digits : List Char} {n : Nat} (hlength : digits.length = 2)
      (hnumber : hexNumber? digits = some n) : Escape after ('x' :: digits) [Char.ofNat n]
  | unit {digits : List Char} {n : Nat} (hlength : digits.length = 4)
      (hnumber : hexNumber? digits = some n) (hvalid : n.isValidChar) :
      Escape after ('u' :: digits) [Char.ofNat n]
  | pair {high low : List Char} {h l : Nat} (hhigh : hexNumber? high = some (0xD800 + h))
      (hlow : hexNumber? low = some (0xDC00 + l)) (hlengths : high.length = 4 ∧ low.length = 4)
      (hvalid : h < 0x400 ∧ l < 0x400) :
      Escape after ('u' :: (high ++ '\\' :: 'u' :: low)) [Char.ofNat (0x10000 + h * 0x400 + l)]
  | point {digits : List Char} {n : Nat} (hnonempty : digits ≠ [])
      (hnumber : hexNumber? digits = some n) (hvalid : n.isValidChar) :
      Escape after ('u' :: '\x7b' :: (digits ++ ['\x7d'])) [Char.ofNat n]

theorem Escape.length_le {after body value : List Char} (h : Escape after body value) :
    value.length ≤ body.length := by
  cases h <;> simp

/-- A character that stands for itself between single quotes. -/
def isLiteralChar (c : Char) : Bool := c != '\x27' && c != '\\' && c != '\n' && c != '\r'

/-- A text between single quotes stands for a value. -/
inductive Denotes : List Char → List Char → Prop where
  | nil : Denotes [] []
  | char {c : Char} {rest value : List Char} (hc : isLiteralChar c = true)
      (hrest : Denotes rest value) : Denotes (c :: rest) (c :: value)
  | escape {body chars rest value : List Char} (hbody : Escape rest body chars)
      (hrest : Denotes rest value) : Denotes ('\\' :: (body ++ rest)) (chars ++ value)

theorem Denotes.length_le {source value : List Char} (h : Denotes source value) :
    value.length ≤ source.length := by
  induction h with
  | nil => exact Nat.le_refl _
  | char _ _ ih => simpa using ih
  | escape hbody _ ih =>
    have hle := hbody.length_le
    simp only [List.length_append, List.length_cons]
    omega

theorem Denotes.isLiteralChar {source value : List Char} (h : Denotes source value)
    (hsame : source = value) : ∀ c ∈ source, isLiteralChar c = true := by
  induction h with
  | nil => exact List.forall_mem_nil _
  | char hc _ ih =>
    rw [List.forall_mem_cons]
    exact ⟨hc, ih (List.cons_eq_cons.1 hsame).2⟩
  | escape hbody hrest _ =>
    -- the backslash makes the source longer than the value
    have hlength := congrArg List.length hsame
    have hbody := hbody.length_le
    have hrest := hrest.length_le
    simp only [List.length_append, List.length_cons] at hlength
    omega

/-- A text stands for itself between single quotes just where each of its characters does. -/
theorem denotes_self_iff {text : List Char} :
    Denotes text text ↔ ∀ c ∈ text, isLiteralChar c = true := by
  constructor
  · exact fun h => h.isLiteralChar rfl
  · intro h
    induction text with
    | nil => exact .nil
    | cons c rest ih =>
      rw [List.forall_mem_cons] at h
      exact .char h.1 (ih h.2)

/-- A part of a template literal: a character, or the code of a substitution. -/
inductive TemplatePart where
  | char (c : Char)
  | value (code : String)
deriving DecidableEq, Repr

/-- A character that stands for itself between backticks, unless it starts a substitution. -/
def isTemplateChar (c : Char) : Bool := c != '\x60' && c != '\\' && c != '\r'

/-- A text between backticks is read as some parts. A substitution goes up to the brace that
closes it. -/
inductive ReadsParts : List Char → List TemplatePart → Prop where
  | nil : ReadsParts [] []
  | char {c : Char} {rest : List Char} {parts : List TemplatePart} (hc : isTemplateChar c = true)
      (hdollar : c = '$' → rest.head? ≠ some '\x7b') (hrest : ReadsParts rest parts) :
      ReadsParts (c :: rest) (.char c :: parts)
  | carriage {rest : List Char} {parts : List TemplatePart} (hline : rest.head? ≠ some '\n')
      (hrest : ReadsParts rest parts) : ReadsParts ('\r' :: rest) (.char '\n' :: parts)
  | carriageLine {rest : List Char} {parts : List TemplatePart} (hrest : ReadsParts rest parts) :
      ReadsParts ('\r' :: '\n' :: rest) (.char '\n' :: parts)
  | escape {body chars rest : List Char} {parts : List TemplatePart}
      (hbody : Escape rest body chars) (hrest : ReadsParts rest parts) :
      ReadsParts ('\\' :: (body ++ rest)) (chars.map .char ++ parts)
  | value {code : String} {rest : List Char} {parts : List TemplatePart} (hcode : Contained code)
      (hrest : ReadsParts rest parts) :
      ReadsParts ('$' :: '\x7b' :: (code.toList ++ '\x7d' :: rest)) (.value code :: parts)

def TemplatePart.written : TemplatePart → List Char
  | .char c => [c]
  | .value code => '$' :: '\x7b' :: (code.toList ++ ['\x7d'])

/-- Some parts as they are written, without escapes. -/
def written (parts : List TemplatePart) : List Char := parts.flatMap TemplatePart.written

@[simp] theorem written_nil : written [] = [] := rfl

@[simp] theorem written_char (c : Char) (parts : List TemplatePart) :
    written (.char c :: parts) = c :: written parts := rfl

@[simp] theorem written_value (code : String) (parts : List TemplatePart) :
    written (.value code :: parts) = '$' :: '\x7b' :: (code.toList ++ '\x7d' :: written parts) := by
  simp [written, TemplatePart.written]

@[simp] theorem written_append (first second : List TemplatePart) :
    written (first ++ second) = written first ++ written second := List.flatMap_append

@[simp] theorem written_chars (chars : List Char) : written (chars.map .char) = chars := by
  induction chars with
  | nil => rfl
  | cons c rest ih => rw [List.map_cons, written_char, ih]

def PlainParts : List TemplatePart → Prop
  | [] => True
  | .char c :: rest =>
    (isTemplateChar c = true ∧ (c = '$' → rest.head? ≠ some (.char '\x7b'))) ∧ PlainParts rest
  | .value code :: rest => Contained code ∧ PlainParts rest

theorem head?_written (parts : List TemplatePart) :
    (written parts).head? = some '\x7b' ↔ parts.head? = some (.char '\x7b') := by
  cases parts with
  | nil => simp
  | cons part rest =>
    cases part with
    | char c => simp
    | value code => simp

theorem ReadsParts.length_le {source : List Char} {parts : List TemplatePart}
    (h : ReadsParts source parts) : (written parts).length ≤ source.length := by
  induction h with
  | nil => exact Nat.le_refl _
  | char _ _ _ ih => simpa using ih
  | carriage _ _ ih => simpa using ih
  | carriageLine _ ih =>
    simp only [written_char, List.length_cons]
    omega
  | escape hbody _ ih =>
    have hle := hbody.length_le
    simp only [written_append, written_chars, List.length_append, List.length_cons]
    omega
  | value _ _ ih =>
    simp only [written_value, List.length_append, List.length_cons]
    omega

theorem ReadsParts.plain {source : List Char} {parts : List TemplatePart}
    (h : ReadsParts source parts) (hsame : source = written parts) : PlainParts parts := by
  induction h with
  | nil => trivial
  | @char c rest parts hc hdollar hrest ih =>
    rw [written_char] at hsame
    have hrest := (List.cons_eq_cons.1 hsame).2
    refine ⟨⟨hc, fun hc => ?_⟩, ih hrest⟩
    rw [ne_eq, ← head?_written, ← hrest]
    exact hdollar hc
  | carriage _ _ _ => cases (List.cons_eq_cons.1 hsame).1
  | carriageLine _ _ => cases (List.cons_eq_cons.1 hsame).1
  | escape hbody hrest _ =>
    -- as between single quotes, the source is too long
    have hlength := congrArg List.length hsame
    have hbody := hbody.length_le
    have hrest := hrest.length_le
    simp only [written_append, written_chars, List.length_append, List.length_cons] at hlength
    omega
  | value hcode _ ih =>
    refine ⟨hcode, ih ?_⟩
    simpa using hsame

/-- Parts are read back from what is written of them just where no character of theirs ends the
literal, starts an escape or a substitution, or is a carriage return. -/
theorem readsParts_written_iff {parts : List TemplatePart} :
    ReadsParts (written parts) parts ↔ PlainParts parts := by
  constructor
  · exact fun h => h.plain rfl
  · intro h
    induction parts with
    | nil => exact .nil
    | cons part rest ih =>
      cases part with
      | char c =>
        rw [written_char]
        refine .char h.1.1 (fun hc => ?_) (ih h.2)
        rw [ne_eq, head?_written]
        exact h.1.2 hc
      | value code =>
        rw [written_value]
        exact .value h.1 (ih h.2)

/-- What is written of such parts is read as nothing else. -/
theorem ReadsParts.eq_of_plain {parts other : List TemplatePart} (h : PlainParts parts)
    (hread : ReadsParts (written parts) other) : other = parts := by
  induction parts generalizing other with
  | nil =>
    generalize hsource : written [] = source at hread
    cases hread <;> first | rfl | cases hsource
  | cons part rest ih =>
    generalize hsource : written (part :: rest) = source at hread
    cases part with
    | char c =>
      obtain ⟨⟨hc, hdollar⟩, hrest⟩ := h
      rw [written_char] at hsource
      cases hread with
      | nil => cases hsource
      | char _ _ hread =>
        obtain ⟨rfl, rfl⟩ := List.cons_eq_cons.1 hsource
        rw [ih hrest hread]
      | carriage | carriageLine | escape =>
        obtain ⟨rfl, -⟩ := List.cons_eq_cons.1 hsource
        cases hc
      | value =>
        obtain ⟨rfl, hnext⟩ := List.cons_eq_cons.1 hsource
        refine absurd ((head?_written rest).1 ?_) (hdollar rfl)
        rw [hnext]
        rfl
    | value code =>
      obtain ⟨hcode, hrest⟩ := h
      rw [written_value] at hsource
      cases hread with
      | nil => cases hsource
      | char _ hdollar _ =>
        obtain ⟨rfl, rfl⟩ := List.cons_eq_cons.1 hsource
        exact absurd rfl (hdollar rfl)
      | carriage | carriageLine | escape => cases (List.cons_eq_cons.1 hsource).1
      | value hother hread =>
        obtain ⟨rfl, hafter⟩ := hcode.unique hother
          (List.cons_eq_cons.1 (List.cons_eq_cons.1 hsource).2).2
        rw [← hafter] at hread
        rw [ih hrest hread]

end ClientGen.Text
