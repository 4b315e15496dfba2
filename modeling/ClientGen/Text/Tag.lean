import ClientGen.Unicode.Character

/-!
# Normalized tags

A normalized tag has the ASCII letters and digits of a text in lower case, with one hyphen
where something else stands between two of them.
-/

namespace ClientGen.Text

/-- The normalized form of the rest of a tag. `started` says that some letter or digit has been
written, `gap` that something else has been seen since. -/
def normalizeFrom (started gap : Bool) : List Char → List Char
  | [] => []
  | c :: rest =>
    if c.isAlphanum then
      (if started && gap then ['-', c.toLower] else [c.toLower]) ++ normalizeFrom true false rest
    else normalizeFrom started true rest

/-- The normalized form of a tag, such as `lead-management` for `Lead Management`. -/
def normalizeTag (tag : String) : String := String.ofList (normalizeFrom false false tag.toList)

end ClientGen.Text
