import ClientGen.Proofs.Schema.TypeToken

/-!
# Accesses of parameters in code

Generated code reads a parameter as a property of the object `params`, by a word behind a dot or by
a literal in brackets. Which properties a piece of code reads is told by its tokens, and the access
of a name reads that name and nothing else. So accesses of different names are different texts, also
with other code behind them.
-/

namespace ClientGen.Text

def accessedIn : List TypeToken → List String
  | .word "params" :: .mark '.' :: .word name :: rest => name :: accessedIn rest
  | .word "params" :: .mark '[' :: .literal name :: .mark ']' :: rest => name :: accessedIn rest
  | _ :: rest => accessedIn rest
  | [] => []

/-- The properties of `params` that a piece of code accesses. -/
def accessedNames (code : String) : List String := accessedIn (typeTokens code.toList)

theorem accessedIn_mark (c : Char) (rest : List TypeToken) :
    accessedIn (.mark c :: rest) = accessedIn rest := by
  rw [accessedIn]
  all_goals simp

theorem accessedIn_key (key : TypeToken) (rest : List TypeToken) :
    accessedIn (key :: .mark ':' :: rest) = accessedIn rest := by
  rw [accessedIn, accessedIn_mark]
  all_goals simp

def accessTokens (name : String) : List TypeToken :=
  if isPlainKey name.toList then [.word "params", .mark '.', .word name]
  else [.word "params", .mark '[', .literal name, .mark ']']

theorem accessedIn_accessTokens (name : String) (rest : List TypeToken) :
    accessedIn (accessTokens name ++ rest) = name :: accessedIn rest := by
  unfold accessTokens
  split <;> simp only [List.cons_append, List.nil_append, accessedIn]

theorem accessTokens_append_inj {first second : String} {rest rest' : List TypeToken}
    (h : accessTokens first ++ rest = accessTokens second ++ rest') : first = second := by
  have hnames := congrArg accessedIn h
  rw [accessedIn_accessTokens, accessedIn_accessTokens] at hnames
  exact (List.cons_eq_cons.1 hnames).1

theorem toList_paramAccess (name : String) :
    (paramAccess name).toList = "params".toList ++
      if isPlainKey name.toList then '.' :: name.toList
      else '[' :: ((quoted name).toList ++ [']']) := by
  have hdot : "params.".toList = "params".toList ++ ['.'] := rfl
  have hopening : "params[".toList = "params".toList ++ ['['] := rfl
  have hending : "]".toList = [']'] := rfl
  unfold paramAccess
  split
  · rw [String.toList_append, hdot, List.append_assoc, List.singleton_append]
  · rw [String.toList_append, String.toList_append, hopening, hending, List.append_assoc,
      List.append_assoc, List.singleton_append]

theorem typeTokens_paramAccess (name : String) {rest : List Char} (hrest : EndsWord rest) :
    typeTokens ((paramAccess name).toList ++ rest) = accessTokens name ++ typeTokens rest := by
  have hparams : isPlainKey "params".toList = true := by decide
  rw [toList_paramAccess, accessTokens, List.append_assoc]
  by_cases hplain : isPlainKey name.toList = true
  · rw [if_pos hplain, if_pos hplain, List.cons_append,
      typeTokens_word hparams (endsWord_cons (by decide)), typeTokens_mark (by decide),
      typeTokens_word hplain hrest]
    rfl
  · rw [if_neg hplain, if_neg hplain, List.cons_append, List.append_assoc,
      typeTokens_word hparams (endsWord_cons (by decide)), typeTokens_mark (by decide),
      typeTokens_quoted, List.singleton_append, typeTokens_mark (by decide)]
    rfl

theorem accessedNames_paramAccess (name : String) : accessedNames (paramAccess name) = [name] := by
  have htokens := typeTokens_paramAccess name endsWord_nil
  rw [List.append_nil] at htokens
  rw [accessedNames, htokens, accessedIn_accessTokens]
  rfl

theorem accessedIn_call {function : String} (hfunction : isPlainKey function.toList = true)
    (rest : List Char) :
    accessedIn (typeTokens (function.toList ++ '(' :: rest)) = accessedIn (typeTokens rest) := by
  rw [typeTokens_word hfunction (endsWord_cons (by decide)), typeTokens_mark (by decide),
    accessedIn, accessedIn_mark]
  all_goals simp

/-- The name of an access can be told where no other word goes on behind it. -/
theorem paramAccess_append_inj {first second : String} {rest rest' : List Char}
    (hrest : EndsWord rest) (hrest' : EndsWord rest')
    (h : (paramAccess first).toList ++ rest = (paramAccess second).toList ++ rest') :
    first = second := by
  have htokens := congrArg typeTokens h
  rw [typeTokens_paramAccess first hrest, typeTokens_paramAccess second hrest'] at htokens
  exact accessTokens_append_inj htokens

end ClientGen.Text
