namespace ClientGen.Files

inductive Failure where
  | notFound
  | exists
  | notFolder
  | isFolder
  | invalid
  | notEmpty
  | nameTooLong
  | zeroInName
  | zeroInCommand
  | noParent (path : String)
  | noTemplateFolder (path : String)
  | hook (command : String) (cause : Failure)
deriving DecidableEq, Repr, Inhabited

namespace Failure

def number? : Failure → Option Nat
  | .notFound => some 2
  | .exists => some 17
  | .notFolder => some 20
  | .isFolder => some 21
  | .invalid => some 22
  | .nameTooLong => some 36
  | .notEmpty => some 39
  | _ => none

def words : Failure → String
  | .notFound => "No such file or directory"
  | .exists => "File exists"
  | .notFolder => "Not a directory"
  | .isFolder => "Is a directory"
  | .invalid => "Invalid argument"
  | .notEmpty => "Directory not empty"
  | .nameTooLong => "File name too long"
  | .zeroInName => "file name contained an unexpected NUL byte"
  | .zeroInCommand => "nul byte found in provided data"
  | .noParent path => "Invalid output path: " ++ path
  | .noTemplateFolder path => "Template directory not found: " ++ path
  | .hook command _ => "Failed to execute post-generation hook '" ++ command ++ "'"

def message : Failure → String
  | .hook command cause => (hook command cause).words ++ ": " ++ cause.message
  | failure =>
    failure.words ++ match failure.number? with
      | some n => " (os error " ++ toString n ++ ")"
      | none => ""

end Failure

end ClientGen.Files
