/-!
# Errors of files

Why a file cannot be read or written, in the words of the operating system.
-/

namespace LineBasic

/-- Why a file cannot be read or written. -/
inductive FileError where
  | notFound
  | isDirectory
  | notDirectory
  /-- The content is no text. -/
  | invalidText
  /-- No file has a name with a null character. -/
  | nullInName
  | nameTooLong
  | other (message : String)
deriving DecidableEq, Repr

/-- The wording of an error. -/
def FileError.message : FileError → String
  | notFound => "No such file or directory (os error 2)"
  | isDirectory => "Is a directory (os error 21)"
  | notDirectory => "Not a directory (os error 20)"
  | invalidText => "stream did not contain valid UTF-8"
  | nullInName => "file name contained an unexpected NUL byte"
  | nameTooLong => "File name too long (os error 36)"
  | other message => message

/-- Why a JSON document cannot be had from a file. -/
inductive DocumentError where
  | file (e : FileError)
  | invalid
deriving DecidableEq, Repr

/-- The wording of an error. -/
def DocumentError.message : DocumentError → String
  | file e => "I/O error: " ++ e.message
  | invalid => "invalid JSON"

/-- The value of a document, from what reading its file gave. -/
def DocumentError.read {α : Type} (parse : String → Option α) :
    Except FileError String → Except DocumentError α
  | .error e => .error (.file e)
  | .ok text =>
      match parse text with
      | some a => .ok a
      | none => .error .invalid

end LineBasic
