import Keymap.CommandLine.Listing
import Keymap.CommandLine.Options
import Keymap.CommandLine.Surroundings
import Keymap.Editor
import Keymap.Replay
import Keymap.Settings.File
import Keymap.Text.Split

/-!
# Sessions

What the program answers, given its arguments and what it reads.

- `Outcome`: the exit code and the texts.
- `Failure`: why a replay gives no report, with its wording.
- `Options.settings`, `Options.report`: what a replay reads and what it reports.
- `answer`: what arguments lead to.
-/

namespace Keymap.CommandLine

/-- What the program leaves behind. -/
structure Outcome where
  code : UInt32
  stdout : String
  stderr : String
  deriving DecidableEq

/-! ## Failures -/

/-- Why there is no report: what was attempted and what stopped it, the cause
before its own cause. -/
structure Failure where
  attempt : String
  causes : List String
  deriving DecidableEq

namespace Failure

/-- A cause under its number, or on its own. Further lines are indented like the
first one. -/
def causeLine (number : Option Nat) (cause : String) : String :=
  let head := match number with
    | some n => s!"    {n}: "
    | none => "    "
  let indent := "\n" ++ String.ofList (List.replicate head.length ' ')
  head ++ indent.intercalate ((Text.splitOn '\n' cause.toList).map String.ofList)

/-- The causes, one a line, numbered if there are several. -/
def causeLines (causes : List String) : List String :=
  match causes with
  | [cause] => [causeLine none cause]
  | causes => causes.mapIdx fun n cause => causeLine (some n) cause

/-- The wording of a failure. -/
def message (failure : Failure) : String :=
  s!"Error: {failure.attempt}\n\nCaused by:\n" ++
    "\n".intercalate (causeLines failure.causes) ++ "\n"

end Failure

/-! ## Replays -/

namespace Options

/-- The settings in a text that was read in an attempt. -/
def settingsIn (attempt : String) : Reading → Except Failure Settings
  | .ok text => (Settings.parse text).mapError fun fault => ⟨attempt, [fault.message]⟩
  | .error fault => .error ⟨attempt, [s!"IO error: {fault.message}", fault.message]⟩

variable {m : Type → Type} [Monad m]

/-- Says which settings are read, if that is asked for. -/
def noteSource (options : Options) (around : Surroundings m) (source : String) :
    ExceptT Failure m Unit := do
  if options.verbose then around.note s!"settings: {source}"

/-- The settings of a replay: from the file that the arguments name, else from
the user's own, else the defaults. -/
def settings (options : Options) (around : Surroundings m) : ExceptT Failure m Settings := do
  match options.config with
  | some path =>
    options.noteSource around path
    settingsIn s!"failed to load config {path}" (← around.file path)
  | none =>
    match ← around.own with
    | some reading =>
      options.noteSource around "own"
      settingsIn "failed to load default config" reading
    | none =>
      options.noteSource around "default"
      return {}

/-- The text of the script: the tokens among the arguments, else what is typed
in. -/
def scriptText (options : Options) (around : Surroundings m) : ExceptT Failure m String := do
  if options.script.isEmpty then
    match ← around.input with
    | .ok text => return text
    | .error fault => throw ⟨"failed to read key script from stdin", [fault.message]⟩
  else return " ".intercalate options.script

/-- The lines that a replay prints: each output, if that is asked for, then the
line as typed, the colour schemes that were shown, and whether caps word is
still on. -/
def replayLines (options : Options) (settings : Settings) (steps : List Script.Step) :
    List String :=
  let fresh := Engine.new settings.toEngineSettings
  let (engine, start) := match options.layer with
    | some layer => fresh.setLayer layer
    | none => (fresh, ∅)
  let replay := engine.replay steps
  let outputs := replay.response.outputs
  let editor := ({} : Editor).emitAll (Output.throttle settings.sendDelay outputs)
  let schemes := fresh.onAttach ++ start.schemes ++ replay.response.schemes
  (if options.outputs then outputs.map Output.describe else []) ++
    [editor.display, "leds: " ++ " -> ".intercalate (schemes.map LedScheme.name)] ++
    if replay.engine.typist.capsWord.active then ["caps word: on"] else []

/-- What a replay prints. -/
def report (options : Options) (around : Surroundings m) : ExceptT Failure m (List String) := do
  let settings ← options.settings around
  if options.checkConfig then return ["Configuration is valid"]
  if options.listTables then return listing
  let text ← options.scriptText around
  match Script.parse text with
  | .ok steps => return options.replayLines settings steps
  | .error error => throw ⟨"invalid key script", [error.message]⟩

end Options

/-! ## Answers -/

/-- The version of the program. -/
def versionLine : String := "imprint 0.3.0"

/-- How the program is used. -/
def helpLines : List String :=
  ["Replay key scripts through the keymap", "",
    "Usage: imprint [OPTIONS] [SCRIPT]...", "",
    "  [SCRIPT]...            Key script tokens; read from stdin when empty",
    "  -c, --config <CONFIG>  Settings file instead of the user's own",
    "  -v, --verbose          Say which settings are read",
    "      --check-config     Check the settings and exit",
    "      --list-tables      Print the magic, alternate repeat and word macro tables",
    "      --layer <LAYER>    Layer active when the script starts, by name or index",
    "      --outputs          Print every output",
    "  -h, --help             Print help",
    "  -V, --version          Print version"]

/-- Lines as a text; each of them ends. -/
def unlines (lines : List String) : String :=
  String.join (lines.map (· ++ "\n"))

/-- What arguments lead to. -/
def answer {m : Type → Type} [Monad m] (around : Surroundings m) (arguments : List String) :
    m Outcome := do
  match Request.ofArguments arguments with
  | .error error => return ⟨2, "", s!"error: {error.message}\n"⟩
  | .ok .version => return ⟨0, unlines [versionLine], ""⟩
  | .ok .help => return ⟨0, unlines helpLines, ""⟩
  | .ok (.replay options) =>
    match ← (options.report around).run with
    | .ok lines => return ⟨0, unlines lines, ""⟩
    | .error failure => return ⟨1, "", failure.message⟩

end Keymap.CommandLine
