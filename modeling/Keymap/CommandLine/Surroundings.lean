/-!
# Surroundings

What the program reads, apart from its arguments.

- `ReadFault`: why a reading gives no text, with the wording of the system.
- `Reading`: what a reading gives.
- `Surroundings`: how the program reads, in any monad that can do it.
-/

namespace Keymap.CommandLine

/-- Why a reading gives no text. -/
inductive ReadFault where
  | notFound
  | denied
  /-- The path goes on behind something that is no directory. -/
  | notDirectory
  | isDirectory
  | nameTooLong
  /-- The bytes are no UTF-8. -/
  | notText
  | other (reason : String)
  deriving DecidableEq

/-- What the system says of a fault. -/
def ReadFault.message : ReadFault → String
  | notFound => "No such file or directory (os error 2)"
  | denied => "Permission denied (os error 13)"
  | notDirectory => "Not a directory (os error 20)"
  | isDirectory => "Is a directory (os error 21)"
  | nameTooLong => "File name too long (os error 36)"
  | notText => "stream did not contain valid UTF-8"
  | other reason => reason

/-- What a reading gives: a text, or what stopped it. -/
abbrev Reading := Except ReadFault String

/-- How the program reads, and where it says what it is doing. -/
structure Surroundings (m : Type → Type) where
  /-- Reads the file at a path. -/
  file : String → m Reading
  /-- Reads the user's own settings file, if there is one. -/
  own : m (Option Reading)
  /-- Reads what is typed in. -/
  input : m Reading
  /-- Says something beside the answer. -/
  note : String → m Unit

end Keymap.CommandLine
