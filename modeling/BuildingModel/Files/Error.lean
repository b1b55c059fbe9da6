/-!
# File errors

Why a file cannot be read or written, in the words of the operating system.
-/

namespace BuildingModel

/-- Why a file cannot be read or written. -/
inductive FileError where
  /-- There is no such file. -/
  | notFound
  /-- The file may not be used in this way. -/
  | permissionDenied
  /-- A file stands where a directory is needed. -/
  | notADirectory
  /-- A directory stands where a file is needed. -/
  | isADirectory
  /-- The path has a part that is too long. -/
  | nameTooLong
  /-- The file is no program. -/
  | notAProgram
  /-- The path has a null character in it. -/
  | nullInPath
  /-- The program or an argument has a null character in it. -/
  | nullInArgument
  /-- An argument is too long. -/
  | argumentTooLong
  /-- Too many files lead to each other. -/
  | tooManyLinks
  /-- The contents are not UTF-8. -/
  | notText
  /-- Any other cause, in the words of the operating system. -/
  | other (message : String)
deriving DecidableEq, Repr

namespace FileError

/-- What a file error is in words. -/
def words : FileError → String
  | .notFound => "No such file or directory"
  | .permissionDenied => "Permission denied"
  | .notADirectory => "Not a directory"
  | .isADirectory => "Is a directory"
  | .nameTooLong => "File name too long"
  | .notAProgram => "Exec format error"
  | .nullInPath => "file name contained an unexpected NUL byte"
  | .nullInArgument => "nul byte found in provided data"
  | .argumentTooLong => "Argument list too long"
  | .tooManyLinks => "Too many levels of symbolic links"
  | .notText => "stream did not contain valid UTF-8"
  | .other message => message

/-- The number that the operating system has for a file error; none if it does not come from
there. -/
def number? : FileError → Option Nat
  | .notFound => some 2
  | .argumentTooLong => some 7
  | .notAProgram => some 8
  | .permissionDenied => some 13
  | .notADirectory => some 20
  | .isADirectory => some 21
  | .nameTooLong => some 36
  | .tooManyLinks => some 40
  | .nullInPath | .nullInArgument | .notText | .other _ => none

/-- The text of a file error. -/
def message (e : FileError) : String :=
  match e.number? with
  | some n => e.words ++ " (os error " ++ toString n ++ ")"
  | none => e.words

end FileError

end BuildingModel
