namespace ClientGen

structure Filter where
  name : String
  arguments : List (String × String) := []
deriving DecidableEq, Repr, Inhabited

/-- A value of the context, named by a path of member names, behind some filters. -/
structure Expression where
  path : List String
  filters : List Filter := []
deriving DecidableEq, Repr, Inhabited

inductive TemplateNode where
  | text (text : String)
  | insert (value : Expression)
  /-- A loop over the items of a list, or over the members of an object if a name for their keys
  is given. The second list of nodes is for a container without items. -/
  | loop (key? : Option String) (item : String) (container : Expression)
      (body otherwise : List TemplateNode)
  | branch (condition : Expression) (body otherwise : List TemplateNode)
deriving Repr, Inhabited

abbrev Template := List TemplateNode

end ClientGen
