import ClientGen.Unicode.Character

namespace ClientGen.Text
open ClientGen.Unicode

def dropEndWhile {α : Type} (p : α → Bool) (xs : List α) : List α :=
  (xs.reverse.dropWhile p).reverse

def trimWhile {α : Type} (p : α → Bool) (xs : List α) : List α := dropEndWhile p (xs.dropWhile p)

def trim (s : String) : String := String.ofList (trimWhile isBlank s.toList)

/-- The text without slashes at both ends. -/
def trimSlashes (s : String) : String := String.ofList (trimWhile (· == '/') s.toList)

def trimEndSlashes (s : String) : String := String.ofList (dropEndWhile (· == '/') s.toList)

end ClientGen.Text
