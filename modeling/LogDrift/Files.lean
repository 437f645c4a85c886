import LogDrift.Error

/-!
# Files

What the files hold that a command reads, and why one of them cannot be read or written.
-/

namespace LogDrift

/-- Why a file cannot be read or written. -/
inductive FileRefusal
  | missing
  /-- A file stands where a folder should. -/
  | notFolder
  /-- A folder stands where a file should. -/
  | notFile
  | nameTooLong
  /-- The path holds the character NUL. -/
  | nulInPath
  /-- The file does not hold text. -/
  | notText
  deriving DecidableEq, Repr

/-- What the system says about a refusal. -/
def FileRefusal.message : FileRefusal → String
  | missing => "No such file or directory (os error 2)"
  | notFolder => "Not a directory (os error 20)"
  | notFile => "Is a directory (os error 21)"
  | nameTooLong => "File name too long (os error 36)"
  | nulInPath => "file name contained an unexpected NUL byte"
  | notText => "stream did not contain valid UTF-8"

/-- The files that can be read. -/
structure Files where
  /-- The text of a file, or what the system says instead. -/
  text : String → Except String String

namespace Files

/-- The text of a file. -/
def read (files : Files) (path : String) : Except Error String :=
  (files.text path).mapError .io

/-- The files whose texts, or what the system says instead, are listed. -/
def ofList (texts : List (String × Except String String)) : Files where
  text path := (texts.lookup path).getD (.error FileRefusal.missing.message)

end Files

end LogDrift
