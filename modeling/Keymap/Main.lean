import Keymap.CommandLine.Session

/-!
# The program

Answers the arguments with what the system lets it read, prints the answer and
exits with its code.
-/

namespace Keymap.CommandLine

/-- The fault that an error of the system stands for. -/
def ReadFault.ofSystem : IO.Error → ReadFault
  | .noFileOrDirectory .. => .notFound
  | .permissionDenied .. => .denied
  | .inappropriateType _ 21 _ => .isDirectory
  | .inappropriateType .. => .notDirectory
  | .invalidArgument .. => .nameTooLong
  | .userError _ => .notText
  | error => .other (toString error)

/-- A reading, with what stops it if it fails. -/
def attempt (read : IO String) : IO Reading := do
  try return .ok (← read)
  catch error => return .error (.ofSystem error)

/-- Where the user's own settings are: in the directory for configurations, or
else below the home directory. -/
def ownPath : IO (Option String) := do
  let below (directory : String) := s!"{directory}/imprint/config.toml"
  match ← IO.getEnv "XDG_CONFIG_HOME" with
  | some directory =>
    if directory.startsWith "/" then return some (below directory)
  | none => pure ()
  return (← IO.getEnv "HOME").map fun home => below s!"{home}/.config"

/-- The user's own settings, if there are any. -/
def readOwn : IO (Option Reading) := do
  let some path ← ownPath | return none
  match ← attempt (IO.FS.readFile path) with
  | .error .notFound | .error .notDirectory | .error .nameTooLong => return none
  | reading => return some reading

/-- What the system lets the program read. -/
def system : Surroundings IO where
  file path := attempt (IO.FS.readFile path)
  own := readOwn
  input := attempt do (← IO.getStdin).readToEnd
  note text := IO.eprintln text

/-- Answers arguments and gives the exit code. -/
def run (arguments : List String) : IO UInt32 := do
  let outcome ← answer system arguments
  IO.print outcome.stdout
  IO.eprint outcome.stderr
  return outcome.code

end Keymap.CommandLine

/-- The program. -/
def main (arguments : List String) : IO UInt32 :=
  Keymap.CommandLine.run arguments
