import ClientGen.Text.Quoted

/-!
# Tokens of type expressions

A type expression is words, string literals and single marks, with blanks between some of them. A
word goes on for as long as it can, so it is only known to be at its end where something else
follows. A literal is read up to its closing quote, and what is read of a quoted text is the text
itself.
-/

namespace ClientGen
open Text

/-- A word, the text of a string literal, or any other character. -/
inductive TypeToken where
  | word (text : String)
  | literal (text : String)
  | mark (c : Char)
deriving DecidableEq, Repr

/-- The token that is being read, with what there is of it. -/
inductive OpenToken where
  | none
  | word (text : List Char)
  | literal (text : List Char)
  | escape (text : List Char)
deriving DecidableEq, Repr

/-- The character that an escape stands for. The escapes by number and the continued line are not
among them. -/
def unescape? (c : Char) : Option Char :=
  if c = 'n' then some '\n'
  else if c = 'r' then some '\r'
  else if c = 't' then some '\t'
  else if c = 'b' then some '\x08'
  else if c = 'v' then some '\x0b'
  else if c = 'f' then some '\x0c'
  else if c.isDigit || c = 'x' || c = 'u' then none
  else if c = '\n' || c = '\r' || c = '\u2028' || c = '\u2029' then none
  else some c

def startToken (c : Char) : List TypeToken × OpenToken :=
  if c = ' ' then ([], .none)
  else if c = '\x27' then ([], .literal [])
  else if isKeyStart c then ([], .word [c])
  else ([.mark c], .none)

/-- The tokens of a text behind an open token. Where a literal is not closed or has an escape that
stands for nothing, a quote or a backslash is left as a mark. -/
def tokensFrom : OpenToken → List Char → List TypeToken
  | .none, [] => []
  | .word text, [] => [.word (String.ofList text)]
  | .literal _, [] => [.mark '\x27']
  | .escape _, [] => [.mark '\\']
  | .none, c :: rest => (startToken c).1 ++ tokensFrom (startToken c).2 rest
  | .word text, c :: rest =>
    if isKeyChar c then tokensFrom (.word (text ++ [c])) rest
    else .word (String.ofList text) :: ((startToken c).1 ++ tokensFrom (startToken c).2 rest)
  | .literal text, c :: rest =>
    if c = '\x27' then .literal (String.ofList text) :: tokensFrom .none rest
    else if c = '\\' then tokensFrom (.escape text) rest
    else if c = '\n' || c = '\r' then .mark '\x27' :: tokensFrom .none rest
    else tokensFrom (.literal (text ++ [c])) rest
  | .escape text, c :: rest =>
    match unescape? c with
    | some d => tokensFrom (.literal (text ++ [d])) rest
    | none => .mark '\\' :: tokensFrom .none rest

def typeTokens (text : List Char) : List TypeToken := tokensFrom .none text

theorem typeTokens_blank (rest : List Char) : typeTokens (' ' :: rest) = typeTokens rest := rfl

/-- Whether a character is a token by itself wherever it does not stand in a literal. -/
def isMark (c : Char) : Bool := c != ' ' && c != '\x27' && !isKeyChar c

theorem not_isKeyStart_of_isMark {c : Char} (hc : isMark c = true) : isKeyStart c = false := by
  simp only [isMark, isKeyChar, Char.isAlphanum, Bool.and_eq_true, Bool.not_eq_true',
    Bool.or_eq_false_iff] at hc
  obtain ⟨_, ⟨⟨halpha, _⟩, hunder⟩, hdollar⟩ := hc
  simp only [isKeyStart, halpha, hunder, hdollar, Bool.or_self]

theorem typeTokens_mark {c : Char} (hc : isMark c = true) (rest : List Char) :
    typeTokens (c :: rest) = .mark c :: typeTokens rest := by
  have hstart := not_isKeyStart_of_isMark hc
  simp only [isMark, Bool.and_eq_true, bne_iff_ne] at hc
  obtain ⟨⟨hblank, hquote⟩, _⟩ := hc
  unfold typeTokens
  rw [tokensFrom, startToken, if_neg hblank, if_neg hquote, if_neg (by simp [hstart])]
  rfl

def EndsWord (rest : List Char) : Prop := ∀ c ∈ rest.head?, isKeyChar c = false

theorem endsWord_nil : EndsWord [] := fun _ h => absurd h (Option.not_mem_none _)

theorem endsWord_cons {c : Char} {rest : List Char} (hc : isKeyChar c = false) :
    EndsWord (c :: rest) := by
  intro d hd
  rw [← Option.mem_some.1 hd]
  exact hc

theorem tokensFrom_word {rest : List Char} (hrest : EndsWord rest) (text : List Char) :
    tokensFrom (.word text) rest = .word (String.ofList text) :: typeTokens rest := by
  cases rest with
  | nil => rfl
  | cons c rest =>
    have hc : isKeyChar c = false := hrest c rfl
    rw [tokensFrom, if_neg (by simp [hc])]
    rfl

theorem tokensFrom_word_append {more : List Char} (hmore : ∀ c ∈ more, isKeyChar c = true)
    (text rest : List Char) :
    tokensFrom (.word text) (more ++ rest) = tokensFrom (.word (text ++ more)) rest := by
  induction more generalizing text with
  | nil => simp
  | cons c more ih =>
    rw [List.cons_append, tokensFrom, if_pos (hmore c (List.mem_cons_self ..)),
      ih fun d hd => hmore d (List.mem_cons_of_mem _ hd)]
    simp

theorem typeTokens_word {word : String} {rest : List Char}
    (hword : isPlainKey word.toList = true) (hrest : EndsWord rest) :
    typeTokens (word.toList ++ rest) = .word word :: typeTokens rest := by
  cases hchars : word.toList with
  | nil =>
    rw [hchars] at hword
    cases hword
  | cons c more =>
    rw [hchars] at hword
    simp only [isPlainKey, Bool.and_eq_true, List.all_eq_true] at hword
    obtain ⟨hstart, hall⟩ := hword
    have hblank : c ≠ ' ' := by
      rintro rfl
      exact absurd hstart (by decide)
    have hquote : c ≠ '\x27' := by
      rintro rfl
      exact absurd hstart (by decide)
    unfold typeTokens
    rw [List.cons_append, tokensFrom, startToken, if_neg hblank, if_neg hquote, if_pos hstart,
      List.nil_append, tokensFrom_word_append fun d hd => hall d (List.mem_cons_of_mem _ hd),
      tokensFrom_word hrest, List.singleton_append, ← hchars, String.ofList_toList]
    rfl

theorem tokensFrom_escapeChar (text rest : List Char) (c : Char) :
    tokensFrom (.literal text) (escapeChar c ++ rest) =
      tokensFrom (.literal (text ++ [c])) rest := by
  unfold escapeChar
  by_cases hslash : c = '\\'
  · subst hslash
    rfl
  by_cases hquote : c = '\x27'
  · subst hquote
    rfl
  by_cases hline : c = '\n'
  · subst hline
    rfl
  by_cases hreturn : c = '\r'
  · subst hreturn
    rfl
  simp only [beq_iff_eq, hslash, hquote, hline, hreturn, if_false, List.singleton_append]
  rw [tokensFrom, if_neg hquote, if_neg hslash, if_neg (by simp [hline, hreturn])]

theorem tokensFrom_escaped (chars text rest : List Char) :
    tokensFrom (.literal text) (chars.flatMap escapeChar ++ '\x27' :: rest) =
      .literal (String.ofList (text ++ chars)) :: typeTokens rest := by
  induction chars generalizing text with
  | nil =>
    rw [List.append_nil]
    rfl
  | cons c chars ih =>
    rw [List.flatMap_cons, List.append_assoc, tokensFrom_escapeChar, ih, List.append_assoc,
      List.singleton_append]

theorem typeTokens_quoted (text : String) (rest : List Char) :
    typeTokens ((quoted text).toList ++ rest) = .literal text :: typeTokens rest := by
  have hquote : typeTokens ((quoted text).toList ++ rest) =
      tokensFrom (.literal []) (text.toList.flatMap escapeChar ++ '\x27' :: rest) := by
    rw [quoted, String.toList_ofList, quoteChars, List.cons_append, List.append_assoc]
    rfl
  rw [hquote, tokensFrom_escaped, List.nil_append, String.ofList_toList]

def keyToken (name : String) : TypeToken :=
  if isPlainKey name.toList then .word name else .literal name

theorem typeTokens_propertyKey (name : String) {rest : List Char} (hrest : EndsWord rest) :
    typeTokens ((propertyKey name).toList ++ rest) = keyToken name :: typeTokens rest := by
  unfold propertyKey keyToken
  split
  · rename_i hplain
    exact typeTokens_word hplain hrest
  · exact typeTokens_quoted name rest

end ClientGen
