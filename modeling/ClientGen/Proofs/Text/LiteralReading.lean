import ClientGen.Proofs.Text.Access
import ClientGen.Proofs.Text.Leading
import ClientGen.Proofs.Text.Literals

/-!
# What is written for a text is read as that text

Readers of generated code know every escape there is, and words that go on for as long as they can.
What is written for a text, as a literal, as a property name or as an access, has one reading only:
the text itself, and nothing of the code behind it is taken along.
-/

namespace ClientGen.Text
open ClientGen.Unicode

/-- A text starts with a single-quoted literal that stands for a value, and goes on behind it. -/
def ReadsLiteral (text value rest : List Char) : Prop :=
  ∃ source, text = '\x27' :: (source ++ '\x27' :: rest) ∧ Denotes source value

theorem escapeChar_cases (c : Char) :
    (isLiteralChar c = true ∧ escapeChar c = [c]) ∨
      ∃ d, unescape? d = some c ∧ escapeChar c = ['\\', d] := by
  by_cases hslash : c = '\\'
  · exact .inr ⟨'\\', by rw [hslash]; rfl, by rw [hslash]; rfl⟩
  by_cases hquote : c = '\x27'
  · exact .inr ⟨'\x27', by rw [hquote]; rfl, by rw [hquote]; rfl⟩
  by_cases hline : c = '\n'
  · exact .inr ⟨'n', by rw [hline]; rfl, by rw [hline]; rfl⟩
  by_cases hreturn : c = '\r'
  · exact .inr ⟨'r', by rw [hreturn]; rfl, by rw [hreturn]; rfl⟩
  · left
    simp [isLiteralChar, escapeChar, hslash, hquote, hline, hreturn]

theorem denotes_escaped (chars : List Char) : Denotes (chars.flatMap escapeChar) chars := by
  induction chars with
  | nil => exact .nil
  | cons c rest ih =>
    rw [List.flatMap_cons]
    rcases escapeChar_cases c with ⟨hc, hwritten⟩ | ⟨d, hd, hwritten⟩
    · rw [hwritten]
      exact .char hc ih
    · rw [hwritten]
      exact .escape (.letter hd) ih

theorem Escape.eq_of_unescape? {after body chars tail text : List Char} {c d : Char}
    (h : Escape after body chars) (hd : unescape? d = some c) (htext : body ++ tail = d :: text) :
    chars = [c] ∧ tail = text := by
  cases h with
  | letter hletter =>
    obtain ⟨rfl, htail⟩ := List.cons_eq_cons.1 htext
    rw [hletter] at hd
    exact ⟨by rw [Option.some.inj hd], htail⟩
  | lineEnd hline =>
    -- the other escapes start with characters that no letter stands for
    obtain ⟨rfl, -⟩ := List.cons_eq_cons.1 htext
    rcases hline with rfl | rfl | rfl <;> cases hd
  | _ =>
    obtain ⟨rfl, -⟩ := List.cons_eq_cons.1 htext
    cases hd

theorem eq_of_denotes_escaped {chars source value rest more : List Char} (h : Denotes source value)
    (htext : source ++ '\x27' :: rest = chars.flatMap escapeChar ++ '\x27' :: more) :
    value = chars ∧ rest = more := by
  induction chars generalizing source value with
  | nil =>
    cases h with
    | nil => exact ⟨rfl, (List.cons_eq_cons.1 htext).2⟩
    | char hc _ =>
      obtain ⟨rfl, -⟩ := List.cons_eq_cons.1 htext
      cases hc
    | escape _ _ => cases (List.cons_eq_cons.1 htext).1
  | cons c chars ih =>
    rw [List.flatMap_cons, List.append_assoc] at htext
    rcases escapeChar_cases c with ⟨hc, hwritten⟩ | ⟨d, hd, hwritten⟩
    · rw [hwritten, List.singleton_append] at htext
      cases h with
      | nil =>
        obtain ⟨rfl, -⟩ := List.cons_eq_cons.1 htext
        cases hc
      | char _ hrest =>
        rw [List.cons_append] at htext
        obtain ⟨rfl, htail⟩ := List.cons_eq_cons.1 htext
        obtain ⟨rfl, hmore⟩ := ih hrest htail
        exact ⟨rfl, hmore⟩
      | escape _ _ =>
        obtain ⟨rfl, -⟩ := List.cons_eq_cons.1 htext
        cases hc
    · rw [hwritten, List.cons_append, List.singleton_append] at htext
      cases h with
      | nil => cases (List.cons_eq_cons.1 htext).1
      | char hc _ =>
        obtain ⟨rfl, -⟩ := List.cons_eq_cons.1 htext
        cases hc
      | escape hbody hrest =>
        rw [List.cons_append, List.append_assoc] at htext
        obtain ⟨rfl, htail⟩ := hbody.eq_of_unescape? hd (List.cons_eq_cons.1 htext).2
        obtain ⟨rfl, hmore⟩ := ih hrest htail
        exact ⟨rfl, hmore⟩

theorem readsLiteral_quoted_iff {text : String} {more value rest : List Char} :
    ReadsLiteral ((quoted text).toList ++ more) value rest ↔ value = text.toList ∧ rest = more := by
  have hwritten : (quoted text).toList ++ more =
      '\x27' :: (text.toList.flatMap escapeChar ++ '\x27' :: more) := by
    rw [quoted, String.toList_ofList, quoteChars, List.cons_append, List.append_assoc,
      List.singleton_append]
  constructor
  · rintro ⟨source, htext, hdenotes⟩
    rw [hwritten] at htext
    exact eq_of_denotes_escaped hdenotes (List.cons_eq_cons.1 htext).2.symm
  · rintro ⟨rfl, rfl⟩
    exact ⟨_, hwritten, denotes_escaped _⟩

theorem exists_quoted_eq (text : String) (more : List Char) :
    ∃ tail, (quoted text).toList ++ more = '\x27' :: tail := by
  rw [quoted, String.toList_ofList, quoteChars]
  exact ⟨_, rfl⟩

theorem isAscii_of_isKeyChar {c : Char} (h : isKeyChar c = true) : isAscii c = true := by
  rw [isKeyChar, Bool.or_eq_true, Bool.or_eq_true, beq_iff_eq, beq_iff_eq] at h
  rcases h with (halphanum | rfl) | rfl
  · exact isAscii_of_isAlphanum halphanum
  · decide
  · decide

theorem isKeyChar_of_isKeyStart {c : Char} (h : isKeyStart c = true) : isKeyChar c = true := by
  rw [isKeyStart, Bool.or_assoc, Bool.or_eq_true] at h
  rw [isKeyChar, Bool.or_assoc, Char.isAlphanum, Bool.or_eq_true, Bool.or_eq_true]
  exact h.imp_left .inl

/-- The characters that words start with and go on with. In ASCII they are the letters, the
underscore, the dollar sign and, behind the start, the digits. -/
structure WordClass where
  starts : Char → Bool
  goesOn : Char → Bool
  starts_ascii : ∀ c, isAscii c → starts c = (c.isAlpha || c == '_' || c == '$')
  goesOn_ascii : ∀ c, isAscii c → goesOn c = (c.isAlphanum || c == '_' || c == '$')

def asciiWords : WordClass where
  starts := isKeyStart
  goesOn := isKeyChar
  starts_ascii _ _ := rfl
  goesOn_ascii _ _ := rfl

namespace WordClass

variable (w : WordClass)

/-- Whether a word that stands before a text ends there. A backslash would go on with it by an
escape. -/
def EndsBefore (rest : List Char) : Prop := ∀ c ∈ rest.head?, w.goesOn c = false ∧ c ≠ '\\'

/-- A text starts with a word without escapes, which goes on for as long as it can. -/
structure ReadsWord (text word rest : List Char) : Prop where
  text_eq : text = word ++ rest
  starts : ∃ c ∈ word.head?, w.starts c = true
  goesOn : ∀ c ∈ word, w.goesOn c = true
  ends : w.EndsBefore rest

/-- A text starts with the name of a property, a word or a literal. -/
inductive ReadsKey (text name rest : List Char) : Prop where
  | word (h : w.ReadsWord text name rest)
  | literal (h : ReadsLiteral text name rest)

/-- A text starts with the access of a property of a named object, behind a dot or in brackets. -/
inductive ReadsMember (text object name rest : List Char) : Prop where
  | dot {after : List Char} (hobject : w.ReadsWord text object ('.' :: after))
      (hname : w.ReadsWord after name rest)
  | brackets {after : List Char} (hobject : w.ReadsWord text object ('[' :: after))
      (hname : ReadsLiteral after name (']' :: rest))

variable {w}

theorem ReadsWord.takeWhile_eq {text word rest : List Char} (h : w.ReadsWord text word rest) :
    text.takeWhile w.goesOn = word := by
  have hrest : rest.takeWhile w.goesOn = [] := by
    cases rest with
    | nil => rfl
    | cons c rest => rw [List.takeWhile_cons, (h.ends c rfl).1]; rfl
  rw [h.text_eq, List.takeWhile_append_of_pos h.goesOn, hrest, List.append_nil]

theorem ReadsWord.unique {text word word' rest rest' : List Char} (h : w.ReadsWord text word rest)
    (h' : w.ReadsWord text word' rest') : word' = word ∧ rest' = rest := by
  have hword : word' = word := h'.takeWhile_eq.symm.trans h.takeWhile_eq
  refine ⟨hword, ?_⟩
  have htext := h'.text_eq
  rw [h.text_eq, hword, List.append_cancel_left_eq] at htext
  exact htext.symm

theorem readsWord_plainKey {name rest : List Char} (hname : isPlainKey name = true)
    (hrest : w.EndsBefore rest) : w.ReadsWord (name ++ rest) name rest := by
  cases name with
  | nil => cases hname
  | cons c more =>
    rw [isPlainKey, Bool.and_eq_true, List.all_eq_true] at hname
    obtain ⟨hstart, hall⟩ := hname
    have hascii := isAscii_of_isKeyChar (isKeyChar_of_isKeyStart hstart)
    exact ⟨rfl, ⟨c, rfl, (w.starts_ascii c hascii).trans hstart⟩,
      fun d hd => (w.goesOn_ascii d (isAscii_of_isKeyChar (hall d hd))).trans (hall d hd), hrest⟩

theorem endsBefore_nil : w.EndsBefore [] := nofun

theorem endsBefore_cons {c : Char} {rest : List Char} (hascii : isAscii c = true)
    (hc : isKeyChar c = false) (hslash : c ≠ '\\') : w.EndsBefore (c :: rest) := by
  intro d hd
  rw [← Option.mem_some.1 hd]
  exact ⟨(w.goesOn_ascii c hascii).trans hc, hslash⟩

theorem not_readsWord_quote {text word rest : List Char} :
    ¬w.ReadsWord ('\x27' :: text) word rest := by
  rintro ⟨htext, ⟨c, hc, hstarts⟩, -, -⟩
  cases word with
  | nil => cases hc
  | cons d word =>
    obtain ⟨rfl, -⟩ := List.cons_eq_cons.1 htext
    cases hc
    rw [w.starts_ascii _ (by decide)] at hstarts
    cases hstarts

theorem not_readsLiteral_word {text word rest value rest' : List Char}
    (h : w.ReadsWord text word rest) : ¬ReadsLiteral text value rest' := by
  rintro ⟨source, rfl, -⟩
  exact not_readsWord_quote h

theorem readsKey_propertyKey_iff {key : String} {more name rest : List Char}
    (hmore : w.EndsBefore more) :
    w.ReadsKey ((propertyKey key).toList ++ more) name rest ↔ name = key.toList ∧ rest = more := by
  unfold propertyKey
  split
  · rename_i hplain
    have hword := readsWord_plainKey hplain hmore
    constructor
    · rintro (h | h)
      · exact hword.unique h
      · exact absurd h (not_readsLiteral_word hword)
    · rintro ⟨rfl, rfl⟩
      exact .word hword
  · constructor
    · rintro (h | h)
      · obtain ⟨tail, htail⟩ := exists_quoted_eq key more
        rw [htail] at h
        exact absurd h not_readsWord_quote
      · exact readsLiteral_quoted_iff.1 h
    · exact fun h => .literal (readsLiteral_quoted_iff.2 h)

theorem readsWord_params_iff {c d : Char} {text object after : List Char}
    (hascii : isAscii c = true) (hc : isKeyChar c = false) (hslash : c ≠ '\\') :
    w.ReadsWord ("params".toList ++ c :: text) object (d :: after) ↔
      object = "params".toList ∧ d = c ∧ after = text := by
  have hparams : w.ReadsWord ("params".toList ++ c :: text) "params".toList (c :: text) :=
    readsWord_plainKey (by decide) (endsBefore_cons hascii hc hslash)
  rw [← List.cons_eq_cons]
  constructor
  · exact hparams.unique
  · rintro ⟨rfl, hafter⟩
    rw [hafter]
    exact hparams

theorem readsMember_dot_iff {text object name rest : List Char} :
    w.ReadsMember ("params".toList ++ '.' :: text) object name rest ↔
      object = "params".toList ∧ w.ReadsWord text name rest := by
  constructor
  · rintro (⟨hobject, hname⟩ | ⟨hobject, -⟩) <;>
      rw [readsWord_params_iff (by decide) (by decide) (by decide)] at hobject
    · obtain ⟨rfl, -, rfl⟩ := hobject
      exact ⟨rfl, hname⟩
    · cases hobject.2.1
  · rintro ⟨rfl, hname⟩
    refine .dot ?_ hname
    rw [readsWord_params_iff (by decide) (by decide) (by decide)]
    exact ⟨rfl, rfl, rfl⟩

theorem readsMember_brackets_iff {text object name rest : List Char} :
    w.ReadsMember ("params".toList ++ '[' :: text) object name rest ↔
      object = "params".toList ∧ ReadsLiteral text name (']' :: rest) := by
  constructor
  · rintro (⟨hobject, -⟩ | ⟨hobject, hname⟩) <;>
      rw [readsWord_params_iff (by decide) (by decide) (by decide)] at hobject
    · cases hobject.2.1
    · obtain ⟨rfl, -, rfl⟩ := hobject
      exact ⟨rfl, hname⟩
  · rintro ⟨rfl, hname⟩
    refine .brackets ?_ hname
    rw [readsWord_params_iff (by decide) (by decide) (by decide)]
    exact ⟨rfl, rfl, rfl⟩

theorem readsMember_paramAccess_iff {key : String} {more object name rest : List Char}
    (hmore : w.EndsBefore more) :
    w.ReadsMember ((paramAccess key).toList ++ more) object name rest ↔
      object = "params".toList ∧ name = key.toList ∧ rest = more := by
  rw [toList_paramAccess, List.append_assoc]
  by_cases hplain : isPlainKey key.toList = true
  · have hkey : w.ReadsWord (key.toList ++ more) key.toList more := readsWord_plainKey hplain hmore
    rw [if_pos hplain, List.cons_append, readsMember_dot_iff]
    refine and_congr_right fun _ => ⟨hkey.unique, ?_⟩
    rintro ⟨rfl, rfl⟩
    exact hkey
  · rw [if_neg hplain, List.cons_append, List.append_assoc, List.singleton_append,
      readsMember_brackets_iff, readsLiteral_quoted_iff, List.cons_eq_cons]
    simp only [true_and]

end WordClass

theorem propertyKey_injective : Function.Injective propertyKey := by
  intro first second hsame
  have hkey : asciiWords.ReadsKey ((propertyKey first).toList ++ []) first.toList [] :=
    (WordClass.readsKey_propertyKey_iff WordClass.endsBefore_nil).2 ⟨rfl, rfl⟩
  rw [hsame, WordClass.readsKey_propertyKey_iff WordClass.endsBefore_nil] at hkey
  exact String.toList_inj.1 hkey.1

/-- A literal is read as the text that it was written for, up to its last quote. A property name
and an access of a property are read as the name that they were written for wherever no word goes
on behind them, whichever other characters words may have. -/
theorem written_read_back (w : WordClass) :
    (∀ (text : String) (more value rest : List Char),
      ReadsLiteral ((quoted text).toList ++ more) value rest ↔
        value = text.toList ∧ rest = more) ∧
    Function.Injective propertyKey ∧
    ∀ (key : String) (more : List Char), w.EndsBefore more →
      (∀ name rest, w.ReadsKey ((propertyKey key).toList ++ more) name rest ↔
        name = key.toList ∧ rest = more) ∧
      ∀ object name rest, w.ReadsMember ((paramAccess key).toList ++ more) object name rest ↔
        object = "params".toList ∧ name = key.toList ∧ rest = more :=
  ⟨fun _ _ _ _ => readsLiteral_quoted_iff, propertyKey_injective, fun _ _ hmore =>
    ⟨fun _ _ => WordClass.readsKey_propertyKey_iff hmore,
      fun _ _ _ => WordClass.readsMember_paramAccess_iff hmore⟩⟩

/-- A name with a quote and a backslash at its end, before the colon of an object type. -/
theorem quotedKey_read_back :
    asciiWords.EndsBefore [':', ' '] ∧
      asciiWords.ReadsKey ("'it\\'s\\\\'".toList ++ [':', ' ']) "it's\\".toList [':', ' '] ∧
      asciiWords.ReadsMember ("params['it\\'s\\\\']".toList ++ [':', ' ']) "params".toList
        "it's\\".toList [':', ' '] := by
  have hmore : asciiWords.EndsBefore [':', ' '] :=
    WordClass.endsBefore_cons (by decide) (by decide) (by decide)
  have hkey : propertyKey "it's\\" = "'it\\'s\\\\'" := by decide
  have haccess : paramAccess "it's\\" = "params['it\\'s\\\\']" := by decide
  obtain ⟨hreads, hmember⟩ := (written_read_back asciiWords).2.2 "it's\\" [':', ' '] hmore
  rw [hkey] at hreads
  rw [haccess] at hmember
  exact ⟨hmore, (hreads _ _).2 ⟨rfl, rfl⟩, (hmember _ _ _).2 ⟨rfl, rfl, rfl⟩⟩

end ClientGen.Text
