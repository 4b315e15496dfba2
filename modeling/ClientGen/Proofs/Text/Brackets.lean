import ClientGen.Proofs.Text.Numeral
import ClientGen.Proofs.Text.PlainName
import ClientGen.Text.Quoted

/-!
# Brackets outside literals

Generated code is read from left to right with single-quoted literals skipped: a backslash in a
literal takes the next character with it. A text that leaves no literal and no bracket open, closes
no bracket that is not the innermost open one, and has no line break, can stand where an
expression is expected without touching what is around it.
-/

namespace ClientGen.Text

def closing? (c : Char) : Option Char :=
  if c = '(' then some ')'
  else if c = '[' then some ']'
  else if c = '\x7b' then some '\x7d'
  else none

def isClosing (c : Char) : Bool := c == ')' || c == ']' || c == '\x7d'

/-- Where a reader stands: in code, in a literal, or behind a backslash in a literal, with the
brackets that are due, the innermost first; or behind a bracket that closes nothing. -/
inductive Nesting where
  | code (due : List Char)
  | literal (due : List Char)
  | escape (due : List Char)
  | broken
deriving DecidableEq, Repr, Inhabited

namespace Nesting

def close : List Char → Char → Nesting
  | expected :: outer, c => if c = expected then .code outer else .broken
  | [], _ => .broken

def step : Nesting → Char → Nesting
  | .code due, c =>
    if c = '\x27' then .literal due
    else match closing? c with
      | some bracket => .code (bracket :: due)
      | none => if isClosing c then close due c else .code due
  | .literal due, c =>
    if c = '\\' then .escape due else if c = '\x27' then .code due else .literal due
  | .escape due, _ => .literal due
  | .broken, _ => .broken

def run (state : Nesting) (text : List Char) : Nesting := text.foldl step state

theorem run_cons (state : Nesting) (c : Char) (rest : List Char) :
    state.run (c :: rest) = (state.step c).run rest := rfl

theorem run_append (state : Nesting) (first second : List Char) :
    state.run (first ++ second) = (state.run first).run second := List.foldl_append

end Nesting

/-- A text on one line in which every literal is closed and the brackets outside of literals are
nested properly. -/
structure Contained (text : String) : Prop where
  closed : (Nesting.code []).run text.toList = .code []
  oneLine : ∀ c ∈ text.toList, c ≠ '\n' ∧ c ≠ '\r'

instance (text : String) : Decidable (Contained text) :=
  decidable_of_iff ((Nesting.code []).run text.toList = .code [] ∧
      ∀ c ∈ text.toList, c ≠ '\n' ∧ c ≠ '\r')
    ⟨fun h => ⟨h.1, h.2⟩, fun h => ⟨h.closed, h.oneLine⟩⟩

theorem Nesting.run_broken (text : List Char) : broken.run text = broken := by
  induction text with
  | nil => rfl
  | cons c rest ih => exact ih

theorem Contained.ne_append_brace {code other : String} (h : Contained code)
    (hother : Contained other) (more : List Char) :
    other.toList ≠ code.toList ++ '\x7d' :: more := by
  intro hcut
  have hbroken : (Nesting.code []).step '\x7d' = .broken := by decide
  have hclosed := hother.closed
  rw [hcut, Nesting.run_append, h.closed, Nesting.run_cons, hbroken, Nesting.run_broken] at hclosed
  cases hclosed

/-- Code ends at the brace that closes what is around it. -/
theorem Contained.unique {code other : String} {rest after : List Char} (h : Contained code)
    (hother : Contained other)
    (hsame : code.toList ++ '\x7d' :: rest = other.toList ++ '\x7d' :: after) :
    code = other ∧ rest = after := by
  rcases List.append_eq_append_iff.1 hsame with ⟨more, hcut, hback⟩ | ⟨more, hcut, hback⟩
  · cases more with
    | nil =>
      rw [List.append_nil] at hcut
      exact ⟨(String.toList_inj.1 hcut).symm, (List.cons_eq_cons.1 hback).2⟩
    | cons c more =>
      obtain ⟨rfl, -⟩ := List.cons_eq_cons.1 hback
      exact absurd hcut (h.ne_append_brace hother more)
  · cases more with
    | nil =>
      rw [List.append_nil] at hcut
      exact ⟨String.toList_inj.1 hcut, (List.cons_eq_cons.1 hback).2.symm⟩
    | cons c more =>
      obtain ⟨rfl, -⟩ := List.cons_eq_cons.1 hback
      exact absurd hcut (hother.ne_append_brace h more)

/-- Code on one line that takes the brackets `before`, innermost first, to the brackets `after`,
whatever else is open around it. -/
structure Passes (before after : List Char) (text : String) : Prop where
  run : ∀ due, (Nesting.code (before ++ due)).run text.toList = .code (after ++ due)
  oneLine : ∀ c ∈ text.toList, c ≠ '\n' ∧ c ≠ '\r'

abbrev Neutral (text : String) : Prop := Passes [] [] text

theorem Neutral.contained {text : String} (h : Neutral text) : Contained text :=
  ⟨h.run [], h.oneLine⟩

section
variable {a b c : List Char} {s t : String}

theorem Passes.append (hs : Passes a b s) (ht : Passes b c t) : Passes a c (s ++ t) := by
  constructor
  · intro due
    rw [String.toList_append, Nesting.run_append, hs.run, ht.run]
  · intro d hd
    rw [String.toList_append, List.mem_append] at hd
    exact hd.elim (hs.oneLine d) (ht.oneLine d)

/-- Other brackets may be open around a piece of code. -/
theorem Passes.within (h : Passes a b s) (c : List Char) : Passes (a ++ c) (b ++ c) s := by
  constructor
  · intro due
    rw [List.append_assoc, List.append_assoc, h.run]
  · exact h.oneLine

theorem Neutral.between {opening ending : String} (hopening : Passes [] a opening)
    (h : Neutral s) (hending : Passes a [] ending) : Neutral (opening ++ s ++ ending) :=
  (hopening.append (h.within a)).append hending

theorem neutral_empty : Neutral "" := ⟨fun _ => rfl, by decide⟩

theorem neutral_comma : Neutral ", " := ⟨fun _ => rfl, by decide⟩

theorem neutral_colon : Neutral ": " := ⟨fun _ => rfl, by decide⟩

theorem neutral_intercalate {separator : String} (hseparator : Neutral separator)
    {texts : List String} (h : ∀ text ∈ texts, Neutral text) :
    Neutral (String.intercalate separator texts) := by
  induction texts with
  | nil => exact neutral_empty
  | cons first rest ih =>
    have hfirst := h first (List.mem_cons_self ..)
    cases rest with
    | nil => simpa using hfirst
    | cons second rest =>
      rw [String.intercalate_cons_cons]
      exact (hfirst.append hseparator).append (ih fun text ht => h text (List.mem_cons_of_mem _ ht))

end

theorem isAlphanum_of_isDigit {c : Char} (h : c.isDigit = true) : c.isAlphanum = true := by
  rw [Char.isAlphanum, h, Bool.or_true]

theorem ne_of_isAlphanum {c d : Char} (hc : c.isAlphanum = true) (hd : d.isAlphanum = false) :
    c ≠ d := by
  rintro rfl
  rw [hc] at hd
  cases hd

/-- A character that is neither a quote, nor a bracket, nor a line break. -/
def isInert (c : Char) : Bool :=
  c != '\x27' && (closing? c).isNone && !isClosing c && c != '\n' && c != '\r'

theorem step_inert {c : Char} (h : isInert c = true) (due : List Char) :
    (Nesting.code due).step c = .code due := by
  simp only [isInert, Bool.and_eq_true, bne_iff_ne, Bool.not_eq_true', Option.isNone_iff_eq_none]
    at h
  obtain ⟨⟨⟨⟨hquote, hopening⟩, hclosing⟩, -⟩, -⟩ := h
  simp only [Nesting.step, if_neg hquote, hopening, hclosing, Bool.false_eq_true, if_false]

theorem run_inert {text : List Char} (h : ∀ c ∈ text, isInert c = true) (due : List Char) :
    (Nesting.code due).run text = .code due := by
  induction text with
  | nil => rfl
  | cons c rest ih =>
    rw [Nesting.run_cons, step_inert (h c (List.mem_cons_self ..))]
    exact ih fun d hd => h d (List.mem_cons_of_mem _ hd)

theorem ne_break_of_isInert {c : Char} (h : isInert c = true) : c ≠ '\n' ∧ c ≠ '\r' := by
  simp only [isInert, Bool.and_eq_true, bne_iff_ne] at h
  exact ⟨h.1.2, h.2⟩

theorem neutral_of_inert {text : String} (h : ∀ c ∈ text.toList, isInert c = true) :
    Neutral text :=
  ⟨run_inert h, fun c hc => ne_break_of_isInert (h c hc)⟩

theorem isInert_of_isAlphanum {c : Char} (h : c.isAlphanum = true) : isInert c = true := by
  have hne (d : Char) (hd : d.isAlphanum = false) : c ≠ d := ne_of_isAlphanum h hd
  simp [isInert, closing?, isClosing, hne '\x27' (by decide), hne '(' (by decide),
    hne '[' (by decide), hne '\x7b' (by decide), hne ')' (by decide), hne ']' (by decide),
    hne '\x7d' (by decide), hne '\n' (by decide), hne '\r' (by decide)]

theorem isInert_of_isDigit {c : Char} (h : c.isDigit = true) : isInert c = true :=
  isInert_of_isAlphanum (isAlphanum_of_isDigit h)

theorem isInert_of_isNameChar {c : Char} (h : isNameChar c = true) : isInert c = true := by
  rw [isNameChar, Bool.or_eq_true, beq_iff_eq] at h
  rcases h with h | rfl
  · exact isInert_of_isAlphanum h
  · decide

theorem isInert_of_isKeyChar {c : Char} (h : isKeyChar c = true) : isInert c = true := by
  simp only [isKeyChar, Bool.or_eq_true, beq_iff_eq] at h
  rcases h with (h | rfl) | rfl
  · exact isInert_of_isAlphanum h
  · decide
  · decide

theorem neutral_numeral (n : Nat) : Neutral (toString n) :=
  neutral_of_inert fun _ hc => isInert_of_isDigit (isDigit_of_mem_numeral hc)

theorem run_escapeChar (c : Char) (due : List Char) :
    (Nesting.literal due).run (escapeChar c) = .literal due := by
  -- an escape is a backslash and the character that it takes with it
  unfold escapeChar
  split
  · rfl
  · rename_i hslash
    split
    · rfl
    · rename_i hquote
      split
      · rfl
      · split
        · rfl
        · rw [beq_iff_eq] at hslash hquote
          simp only [Nesting.run, List.foldl_cons, List.foldl_nil, Nesting.step, if_neg hslash,
            if_neg hquote]

theorem run_escapeChars (text : List Char) (due : List Char) :
    (Nesting.literal due).run (text.flatMap escapeChar) = .literal due := by
  induction text with
  | nil => rfl
  | cons c rest ih => rw [List.flatMap_cons, Nesting.run_append, run_escapeChar, ih]

theorem ne_break_of_mem_escapeChar {c d : Char} (h : d ∈ escapeChar c) : d ≠ '\n' ∧ d ≠ '\r' := by
  unfold escapeChar at h
  split at h
  · revert d; decide
  · split at h
    · revert d; decide
    · split at h
      · revert d; decide
      · rename_i hline
        split at h
        · revert d; decide
        · rename_i hreturn
          rw [List.mem_singleton.1 h]
          rw [beq_iff_eq] at hline hreturn
          exact ⟨hline, hreturn⟩

theorem neutral_quoted (text : String) : Neutral (quoted text) := by
  constructor
  · intro due
    rw [quoted, String.toList_ofList, quoteChars, Nesting.run_cons, Nesting.run_append]
    change ((Nesting.literal due).run _).run _ = _
    rw [run_escapeChars]
    rfl
  · intro c hc
    rw [quoted, String.toList_ofList, quoteChars, List.mem_cons, List.mem_append,
      List.mem_flatMap, List.mem_singleton] at hc
    rcases hc with rfl | ⟨d, -, hc⟩ | rfl
    · decide
    · exact ne_break_of_mem_escapeChar hc
    · decide

theorem neutral_of_isPlainKey {name : String} (h : isPlainKey name.toList = true) :
    Neutral name := by
  refine neutral_of_inert fun c hc => isInert_of_isKeyChar ?_
  unfold isPlainKey at h
  split at h
  · cases h
  · rw [Bool.and_eq_true, List.all_eq_true] at h
    exact h.2 c hc

theorem neutral_propertyKey (name : String) : Neutral (propertyKey name) := by
  unfold propertyKey
  split
  · exact neutral_of_isPlainKey ‹_›
  · exact neutral_quoted name

theorem neutral_paramAccess (name : String) : Neutral (paramAccess name) := by
  unfold paramAccess
  split
  · have hparams : Neutral "params." := ⟨fun _ => rfl, by decide⟩
    exact hparams.append (neutral_of_isPlainKey ‹_›)
  · have hopening : Passes [] [']'] "params[" := ⟨fun _ => rfl, by decide⟩
    exact (neutral_quoted name).between hopening ⟨fun _ => rfl, by decide⟩

end ClientGen.Text
