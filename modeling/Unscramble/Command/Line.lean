import Unscramble.Command.Options
import Unscramble.Store

/-!
# The command line

A command line is read word by word. Options with a value take it from their own word, behind `=`,
or from the next word; options without one may also be given by letters, several of them in one
word. All other words, and every word after `--`, are inputs, wherever they stand.

An option whose value is a word of its own is *pending* until the next word that is no value of it:
only then is it looked at whether it has a value, was given before, and has a value that can be
read. A fault of an earlier word wins over those of later ones, up to an option that does not exist,
which is noticed at once.

## Main definitions

* `Setting`, `Switch`: the options with a value and those without one.
* `Word.of`: what a word looks like.
* `Line.read`: the options of a command line, or why there are none.
-/

namespace Unscramble.Command

open Unscramble.Text

/-! ### Options -/

/-- An option with a value. -/
inductive Setting
  | script
  | playerUrl
  | video
  | info
  | timeout
  | baseUrl
  | userAgent
  deriving DecidableEq

namespace Setting

/-- All options with a value. -/
def all : List Setting :=
  [script, playerUrl, video, info, timeout, baseUrl, userAgent]

/-- The options that say where the script is to come from. -/
def sources : List Setting :=
  [script, playerUrl, video]

/-- The name of an option, which follows two dashes. -/
def name : Setting → String
  | script => "script"
  | playerUrl => "player-url"
  | video => "video"
  | info => "info"
  | timeout => "timeout"
  | baseUrl => "base-url"
  | userAgent => "user-agent"

/-- The option with a name. -/
def named? (s : List Char) : Option Setting :=
  all.find? (·.name.toList = s)

/-- What stands for the value where the option is described. -/
def placeholder : Setting → String
  | script | info => "PATH"
  | playerUrl | baseUrl => "URL"
  | video => "ID|URL"
  | timeout => "DURATION"
  | userAgent => "USER_AGENT"

/-- How the option is written. -/
def usage (s : Setting) : String :=
  s!"--{s.name} <{s.placeholder}>"

end Setting

/-- An option without a value. -/
inductive Switch
  | trace
  | verbose
  | quiet
  | help
  | version
  deriving DecidableEq

namespace Switch

/-- All options without a value. -/
def all : List Switch :=
  [trace, verbose, quiet, help, version]

/-- The name of an option, which follows two dashes. -/
def name : Switch → String
  | trace => "trace"
  | verbose => "verbose"
  | quiet => "quiet"
  | help => "help"
  | version => "version"

/-- The letter of an option, which follows one dash. -/
def letter? : Switch → Option Char
  | trace => none
  | verbose => some 'v'
  | quiet => some 'q'
  | help => some 'h'
  | version => some 'V'

/-- The option with a name. -/
def named? (s : List Char) : Option Switch :=
  all.find? (·.name.toList = s)

/-- The option with a letter. -/
def lettered? (c : Char) : Option Switch :=
  all.find? (·.letter? = some c)

end Switch

/-! ### Refusals -/

/-- Why a command line is refused. -/
inductive Refusal
  /-- There is no such option. -/
  | unknown (text : List Char)
  /-- An option lacks its value. -/
  | noValue (option : Setting)
  /-- The path of a file is empty. -/
  | emptyPath (option : Setting)
  /-- A value is no timespan. -/
  | notTimespan (text : List Char)
  /-- An option that has no value is given one. -/
  | needlessValue (option : Switch) (value : List Char)
  /-- An option with a value is given twice. -/
  | settingRepeated (option : Setting)
  /-- An option without a value is given twice. -/
  | switchRepeated (option : Switch)
  /-- There is more than one place that the script is to come from. -/
  | manyOrigins
  /-- There is no place that the script is to come from. -/
  | noOrigin
  deriving DecidableEq

/-- The wording of a refusal. -/
def Refusal.message : Refusal → String
  | unknown text => s!"unexpected argument '{String.ofList text}' found"
  | noValue option | emptyPath option =>
    s!"a value is required for '{option.usage}' but none was supplied"
  | notTimespan text =>
    s!"invalid value '{String.ofList text}' for '{Setting.usage .timeout}': not a duration"
  | needlessValue option value =>
    s!"unexpected value '{String.ofList value}' for '--{option.name}' found; no more were expected"
  | settingRepeated option => s!"the argument '{option.usage}' cannot be used multiple times"
  | switchRepeated option => s!"the argument '--{option.name}' cannot be used multiple times"
  | manyOrigins => "only one of --script, --player-url and --video can be used"
  | noOrigin => "one of --script, --player-url and --video is required"

/-- Why the reading of a command line ends without options. -/
inductive Stop
  /-- Help is wanted. -/
  | help
  /-- The version is wanted. -/
  | version
  /-- The command line is refused. -/
  | refused (refusal : Refusal)
  deriving DecidableEq

/-! ### Words -/

/-- What a word of the command line looks like. -/
inductive Word
  /-- Two dashes. -/
  | separator
  /-- Two dashes and a name, with a value behind `=` if there is one. -/
  | long (name : List Char) (value : Option (List Char))
  /-- A dash and letters. -/
  | short (letters : List Char)
  /-- Anything else, also a lone dash. -/
  | plain (text : List Char)
  deriving DecidableEq

/-- What a word looks like. -/
def Word.of : List Char → Word
  | ['-', '-'] => separator
  | '-' :: '-' :: r =>
    match splitFirst? '=' r with
    | some (name, value) => long name (some value)
    | none => long r none
  | '-' :: c :: r => short (c :: r)
  | s => plain s

/-! ### Reading -/

/-- What has been read of a command line. -/
structure Line where
  values : Store Setting (List Char)
  switches : List Switch
  inputs : List (List Char)
  /-- The last option, if its value is a word of its own, with the value if it has come. -/
  pending : Option (Setting × Option (List Char))
  /-- Whether all further words are inputs. -/
  onlyInputs : Bool

namespace Line

/-- A command line of which nothing has been read. -/
def start : Line :=
  ⟨.empty, [], [], none, false⟩

/-- The timespan that a text stands for. -/
def readTimeout (s : List Char) : Except Stop Timespan :=
  match Timespan.read? s with
  | some t => .ok t
  | none => .error (.refused (.notTimespan s))

/-- Whether an option can have a value. -/
def check (option : Setting) (value : List Char) : Except Stop Unit :=
  match option with
  | .script | .info =>
    if value.isEmpty then .error (.refused (.emptyPath option)) else .ok ()
  | .timeout => (readTimeout value).map fun _ ↦ ()
  | .playerUrl | .video | .baseUrl | .userAgent => .ok ()

/-- Give an option a value. It must not have one. -/
def settle (l : Line) (option : Setting) (value : List Char) : Except Stop Line := do
  if (l.values.get? option).isSome then .error (.refused (.settingRepeated option))
  else
    check option value
    return { l with values := l.values.insert option value }

/-- Give the pending option its value. -/
def resolve (l : Line) : Except Stop Line :=
  match l.pending with
  | none => .ok l
  | some (option, none) => .error (.refused (.noValue option))
  | some (option, some value) => settle { l with pending := none } option value

/-- Turn on an option without a value. -/
def turnOn (l : Line) (option : Switch) : Except Stop Line := do
  let l ← l.resolve
  match option with
  | .help => .error .help
  | .version => .error .version
  | .trace | .verbose | .quiet =>
    if option ∈ l.switches then .error (.refused (.switchRepeated option))
    else return { l with switches := option :: l.switches }

/-- Turn on the options with the given letters. -/
def turnOnAll (l : Line) (letters : List Char) : Except Stop Line :=
  letters.foldlM (fun l c ↦ match Switch.lettered? c with
    | some option => l.turnOn option
    | none => .error (.refused (.unknown ['-', c]))) l

/-- Add an input. -/
def addInput (l : Line) (input : List Char) : Except Stop Line := do
  let l ← l.resolve
  return { l with inputs := l.inputs ++ [input] }

/-- Read an option that is named. -/
def readOption (l : Line) (name : List Char) (value : Option (List Char)) : Except Stop Line :=
  match Setting.named? name, Switch.named? name, value with
  | some option, _, some value => do (← l.resolve).settle option value
  | some option, _, none => do return { ← l.resolve with pending := some (option, none) }
  | none, some option, none => l.turnOn option
  | none, some option, some value => .error (.refused (.needlessValue option value))
  | none, none, _ => .error (.refused (.unknown ('-' :: '-' :: name)))

/-- Read one more word. -/
def readWord (l : Line) (word : List Char) : Except Stop Line :=
  if l.onlyInputs then l.addInput word
  else
    match Word.of word with
    | .separator => .ok { l with onlyInputs := true }
    | .long name value => l.readOption name value
    | .short letters => l.turnOnAll letters
    | .plain text =>
      match l.pending with
      | some (option, none) => .ok { l with pending := some (option, some text) }
      | _ => l.addInput text

/-- The options with a value that say where the script is to come from. -/
def sources (l : Line) : List Setting :=
  Setting.sources.filter fun s ↦ (l.values.get? s).isSome

/-- Just one option must say where the script is to come from. -/
def checkSources (l : Line) : Except Stop Unit :=
  match l.sources with
  | [] => .error (.refused .noOrigin)
  | [_] => .ok ()
  | _ => .error (.refused .manyOrigins)

/-- The place that the script is to come from: a file goes before a URL, and a URL before a
video. -/
def origin? (l : Line) : Option Origin :=
  match l.values.get? .script with
  | some path => some (.file path)
  | none =>
    match l.values.get? .playerUrl with
    | some url => some (.url url)
    | none => (l.values.get? .video).map .video

/-- The options of a command line that has been read. -/
def options (l : Line) : Except Stop Options := do
  l.checkSources
  let some origin := l.origin? | .error (.refused .noOrigin)
  let usual := Player.Settings.usual
  let timeout ← ((l.values.get? .timeout).map readTimeout).getD (.ok usual.timeout)
  return {
    origin
    inputs := l.inputs.map .of
    info := l.values.get? .info
    trace := .trace ∈ l.switches
    timeout
    baseUrl := (l.values.get? .baseUrl).getD usual.baseUrl
    userAgent := l.values.get? .userAgent
    verbose := .verbose ∈ l.switches
    quiet := .quiet ∈ l.switches }

/-- The options of a command line. -/
def read (words : List (List Char)) : Except Stop Options := do
  let l ← words.foldlM readWord start
  (← l.resolve).options

end Line

end Unscramble.Command
