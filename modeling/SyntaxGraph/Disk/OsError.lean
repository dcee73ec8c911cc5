/-!
# Errors of the file system
-/

set_option autoImplicit false
namespace SyntaxGraph

/-- Why an operation on files failed. -/
inductive OsError where
  | notFound
  | notADirectory
  | isADirectory
  | alreadyExists
  | tooManyLinks
  | nameTooLong
  /-- A path holds a zero byte. -/
  | zeroByte
deriving DecidableEq, Repr

/-- The wording of an error. -/
def OsError.message : OsError → String
  | notFound => "No such file or directory (os error 2)"
  | notADirectory => "Not a directory (os error 20)"
  | isADirectory => "Is a directory (os error 21)"
  | alreadyExists => "File exists (os error 17)"
  | tooManyLinks => "Too many levels of symbolic links (os error 40)"
  | nameTooLong => "File name too long (os error 36)"
  | zeroByte => "file name contained an unexpected NUL byte"

end SyntaxGraph
