import Keymap.Layer
import Keymap.Text.DecimalDigit

/-!
# Options

The arguments of the command line, read from left to right. An argument that
starts with `--` names an option, one that starts with `-` holds options of one
letter, and everything else, like everything after `--`, is a token of the
script. The first argument that asks for help or for the version, or that is
wrong, decides.

- `Options`: what a replay is told.
- `Request`: what the arguments ask for.
- `UsageError`: what can be wrong with them.
- `Mark`: what one argument says; `marks` reads it.
- `Request.ofArguments`: reads all of them.
-/

namespace Keymap.CommandLine

/-- What a replay is told. -/
structure Options where
  /-- The settings file, if it is not the user's own. -/
  config : Option String := none
  verbose : Bool := false
  /-- Only check the settings. -/
  checkConfig : Bool := false
  /-- Only list the tables. -/
  listTables : Bool := false
  /-- The layer that is active at the start. -/
  layer : Option Layer := none
  /-- Print each output. -/
  outputs : Bool := false
  /-- The tokens of the script. -/
  script : List String := []

/-- What the arguments ask for. -/
inductive Request where
  | replay (options : Options)
  | help
  | version

/-! ## Names -/

/-- Options without a value. -/
inductive Switch where
  | verbose | checkConfig | listTables | outputs | help | version
  deriving DecidableEq

/-- Options with a value. -/
inductive Setting where
  | config | layer
  deriving DecidableEq

/-- The options without a value, by name. -/
def Switch.ofName? : String → Option Switch
  | "verbose" => some verbose
  | "check-config" => some checkConfig
  | "list-tables" => some listTables
  | "outputs" => some outputs
  | "help" => some help
  | "version" => some version
  | _ => none

/-- The options without a value, by letter. -/
def Switch.ofLetter? : Char → Option Switch
  | 'v' => some verbose
  | 'h' => some help
  | 'V' => some version
  | _ => none

/-- The options with a value, by name. -/
def Setting.ofName? : String → Option Setting
  | "config" => some config
  | "layer" => some layer
  | _ => none

/-- The options with a value, by letter. -/
def Setting.ofLetter? : Char → Option Setting
  | 'c' => some config
  | _ => none

/-- The name of an option. -/
def Setting.name : Setting → String
  | config => "--config"
  | layer => "--layer"

/-! ## Arguments -/

/-- What can be wrong with the arguments. -/
inductive UsageError where
  | unknownOption (text : String)
  | unexpectedValue (option : String)
  | missingValue (setting : Setting)
  | badValue (setting : Setting) (value : String)
  | repeatedOption
  deriving DecidableEq

/-- The wording of an error. -/
def UsageError.message : UsageError → String
  | unknownOption text => s!"unexpected argument '{text}'"
  | unexpectedValue option => s!"unexpected value for '{option}'"
  | missingValue setting => s!"a value is required for '{setting.name}'"
  | badValue setting value => s!"invalid value '{value}' for '{setting.name}'"
  | repeatedOption => "an option cannot be used multiple times"

/-- What an argument says. -/
inductive Mark where
  | switch (switch : Switch)
  /-- An option whose value is attached, or else is the next argument. -/
  | setting (setting : Setting) (value : Option String)
  | wrong (error : UsageError)

/-- What letters after a single `-` say. Once a letter takes a value, the rest is
that value, after `=` if there is one. -/
def letterMarks : List Char → List Mark
  | [] => []
  | c :: rest =>
    match Switch.ofLetter? c, Setting.ofLetter? c with
    | some s, _ => .switch s :: letterMarks rest
    | none, some s =>
      match rest with
      | [] => [.setting s none]
      | '=' :: value => [.setting s (some (String.ofList value))]
      | value => [.setting s (some (String.ofList value))]
    | none, none => [.wrong (.unknownOption s!"-{c}")]

/-- What a name after `--` says, with a value after `=` if there is one. -/
def nameMark (text : List Char) : Mark :=
  let name := String.ofList (text.takeWhile (· ≠ '='))
  let value := match text.dropWhile (· ≠ '=') with
    | _ :: value => some (String.ofList value)
    | [] => none
  match Switch.ofName? name, Setting.ofName? name with
  | some s, _ => if value.isSome then .wrong (.unexpectedValue s!"--{name}") else .switch s
  | none, some s => .setting s value
  | none, none => .wrong (.unknownOption s!"--{name}")

/-- What an argument says, if it is no token of the script. A lone `-` is one. -/
def marks? (argument : String) : Option (List Mark) :=
  match argument.toList with
  | '-' :: '-' :: text => some [nameMark text]
  | '-' :: c :: text => some (letterMarks (c :: text))
  | _ => none

/-! ## Reading -/

/-- The layer that a text gives, by index or by name. -/
def layerOfText? (text : String) : Option Layer :=
  let digits := match text.toList with
    | '+' :: digits => digits
    | digits => digits
  match Text.decimal? digits with
  | some index => Layer.ofIndex? index
  | none => Layer.ofName? text

/-- The options with a value set. An option can be set once. -/
def Options.set (options : Options) (setting : Setting) (value : String) :
    Except UsageError Options :=
  match setting with
  | .config =>
    if value.isEmpty then .error (.missingValue .config)
    else if options.config.isSome then .error .repeatedOption
    else .ok { options with config := some value }
  | .layer =>
    match layerOfText? value with
    | none => .error (.badValue .layer value)
    | some layer =>
      if options.layer.isSome then .error .repeatedOption
      else .ok { options with layer := some layer }

/-- How far the arguments have been read. -/
inductive Progress where
  | reading (options : Options)
  /-- The next argument is the value of an option. -/
  | awaiting (options : Options) (setting : Setting)
  /-- Only tokens of the script follow. -/
  | tokens (options : Options)
  | decided (request : Request)

/-- Turns an option on, once. -/
def turnOn (on : Bool) (options : Options) : Except UsageError Progress :=
  if on then .error .repeatedOption else .ok (.reading options)

/-- What an option without a value does. -/
def Options.apply (options : Options) : Switch → Except UsageError Progress
  | .verbose => turnOn options.verbose { options with verbose := true }
  | .checkConfig => turnOn options.checkConfig { options with checkConfig := true }
  | .listTables => turnOn options.listTables { options with listTables := true }
  | .outputs => turnOn options.outputs { options with outputs := true }
  | .help => .ok (.decided .help)
  | .version => .ok (.decided .version)

/-- Takes in one thing that an argument says. -/
def Progress.take : Progress → Mark → Except UsageError Progress
  | reading options, .switch switch => options.apply switch
  | reading options, .setting setting none => .ok (awaiting options setting)
  | reading options, .setting setting (some value) => reading <$> options.set setting value
  | reading _, .wrong error => .error error
  | progress, _ => .ok progress

/-- The options with one more token. -/
def Options.addToken (options : Options) (token : String) : Options :=
  { options with script := options.script ++ [token] }

/-- Takes in one argument. -/
def Progress.read : Progress → String → Except UsageError Progress
  | reading options, argument =>
    if argument = "--" then .ok (tokens options)
    else match marks? argument with
      | some marks => marks.foldlM take (reading options)
      | none => .ok (reading (options.addToken argument))
  | awaiting options setting, argument =>
    if (marks? argument).isSome then .error (.missingValue setting)
    else reading <$> options.set setting argument
  | tokens options, argument => .ok (tokens (options.addToken argument))
  | decided request, _ => .ok (decided request)

/-- What all the arguments ask for. -/
def Progress.finish : Progress → Except UsageError Request
  | reading options | tokens options => .ok (.replay options)
  | awaiting _ setting => .error (.missingValue setting)
  | decided request => .ok request

/-- What arguments ask for. -/
def Request.ofArguments (arguments : List String) : Except UsageError Request := do
  (← arguments.foldlM Progress.read (.reading {})).finish

end Keymap.CommandLine
