import ApiBundle.CommandLine.Basic
import ApiBundle.Text.Split

/-!
# Reading command lines

A command line is options of the program, the name of a command, and then options and words of that
command. An option is written `--name`, or `-n` if it has a short name; several short ones can share
a hyphen. A value follows as the next word, or in the same one. After `--` everything is a word.

Arguments are taken one by one. An option and its value are only recorded when the next argument has
been understood, so of two mistakes the one in the later argument can be the one that is reported.
-/

namespace ApiBundle

/-- The options of the program and its commands. -/
inductive Flag where
  /-- The file with options. -/
  | config
  /-- The dialect. -/
  | dialect
  /-- A component to inline. -/
  | inlined
  /-- Inline everything. -/
  | inlineAll
  /-- A further document. -/
  | additional
  /-- Leave bare names. -/
  | noSimpleRefs
  /-- The format of the result. -/
  | format
  /-- The file for the result. -/
  | output
  /-- Say more; without effect on what is answered. -/
  | verbose
  /-- Ask for help. -/
  | help
  /-- Ask for the version. -/
  | version
  deriving DecidableEq, Repr

namespace Flag

/-- The name after two hyphens. -/
def long : Flag → String
  | .config => "config"
  | .dialect => "dialect"
  | .inlined => "inline"
  | .inlineAll => "inline-all"
  | .additional => "additional"
  | .noSimpleRefs => "no-simple-refs"
  | .format => "format"
  | .output => "output"
  | .verbose => "verbose"
  | .help => "help"
  | .version => "version"

/-- The name after one hyphen. -/
def short? : Flag → Option Char
  | .output => some 'o'
  | .verbose => some 'v'
  | .help => some 'h'
  | .version => some 'V'
  | _ => none

/-- Whether a value follows. -/
def takesValue : Flag → Bool
  | .config | .dialect | .inlined | .additional | .format | .output => true
  | _ => false

/-- The options before the name of a command. -/
def ofProgram : List Flag := [.verbose, .help, .version]

/-- The options that both commands have. -/
def ofTask : List Flag :=
  [.config, .dialect, .inlined, .inlineAll, .additional, .noSimpleRefs, .verbose, .help]

end Flag

namespace CommandLine

/-! ## Arguments -/

/-- What an argument says. -/
inductive Item where
  /-- A word: the value of an option that waits for one, or the input. -/
  | word (text : String)
  /-- A word that cannot be a value. -/
  | rest (text : String)
  /-- An option, with a value if it is in the same argument. -/
  | flag (f : Flag) (value : Option String)
  /-- An option that does not exist. -/
  | unknown
  deriving DecidableEq, Repr

/-- The value that follows a short name in the same argument. -/
def attached : List Char → Option String
  | [] => none
  | '=' :: value => some (String.ofList value)
  | value => some (String.ofList value)

/-- Short names behind one hyphen. What follows one that takes a value is its value. -/
def cluster (table : List Flag) : List Char → List Item
  | [] => []
  | c :: cs =>
    match table.find? fun f => f.short? = some c with
    | none => [.unknown]
    | some f => if f.takesValue then [.flag f (attached cs)] else .flag f none :: cluster table cs

/-- A long name, with a value if there is an equals sign. -/
def longOption (table : List Flag) (cs : List Char) : Item :=
  let (name, value) := Text.cut '=' cs
  match table.find? fun f => f.long.toList = name with
  | some f => .flag f (value.map String.ofList)
  | none => .unknown

/-- What an argument says where some options exist. -/
def classify (table : List Flag) (arg : String) : List Item :=
  match arg.toList with
  | '-' :: '-' :: cs => [longOption table cs]
  | '-' :: c :: cs => cluster table (c :: cs)
  | _ => [.word arg]

/-- What arguments say. -/
def classifyAll (table : List Flag) : List String → List Item
  | [] => []
  | arg :: rest =>
    if arg = "--" then rest.map .rest else classify table arg ++ classifyAll table rest

/-! ## Recording -/

/-- What has been recorded. -/
structure Settings where
  /-- The root document. -/
  input : Option String
  /-- The file with options. -/
  config : Option String
  /-- The dialect. -/
  dialect : Option DialectChoice
  /-- Components to inline. -/
  inlined : List String
  /-- Whether to inline everything. -/
  inlineAll : Bool
  /-- Further documents. -/
  additional : List String
  /-- Whether bare names stay. -/
  noSimpleRefs : Bool
  /-- The format of the result. -/
  format : Option Format
  /-- The file for the result. -/
  output : Option String
  deriving DecidableEq, Repr

namespace Settings

/-- Nothing recorded. -/
def none : Settings := ⟨.none, .none, .none, [], false, [], false, .none, .none⟩

/-- A value for an option that is given once. -/
def once {α : Type} (present value : Option α) : Except Usage (Option α) :=
  if present.isSome then .error .repeatedOption
  else if value.isNone then .error .unsuitableValue
  else .ok value

/-- A path, which cannot be empty. -/
def path? (text : String) : Option String := if text.isEmpty then .none else some text

/-- Records an option with its value. -/
def record (s : Settings) (f : Flag) (value : String) : Except Usage Settings :=
  match f with
  | .config => do return { s with config := ← once s.config (path? value) }
  | .dialect => do return { s with dialect := ← once s.dialect (DialectChoice.ofName? value) }
  | .format => do return { s with format := ← once s.format (Format.ofName? value) }
  | .output => do return { s with output := ← once s.output (path? value) }
  | .inlined => .ok { s with inlined := s.inlined ++ [value] }
  | .additional => .ok { s with additional := s.additional ++ [value] }
  | _ => .error .unwantedValue

/-- Records an option without a value. -/
def raise (s : Settings) (f : Flag) : Except Usage Settings :=
  match f with
  | .help => .error .help
  | .version => .error .version
  | .inlineAll =>
    if s.inlineAll then .error .repeatedOption else .ok { s with inlineAll := true }
  | .noSimpleRefs =>
    if s.noSimpleRefs then .error .repeatedOption else .ok { s with noSimpleRefs := true }
  | .verbose => .ok s
  | _ => .error .unsuitableValue

/-- The task that has been recorded. -/
def task (s : Settings) : Except Usage Task :=
  match s.input with
  | some input =>
    .ok ⟨input, s.config, s.dialect, s.inlined, s.inlineAll, s.additional, s.noSimpleRefs⟩
  | .none => .error .missingInput

end Settings

/-- Between two arguments: what has been recorded, and an option that has not been yet. -/
structure Reading where
  /-- What has been recorded. -/
  settings : Settings
  /-- The option before, with its value if that has come. -/
  pending : Option (Flag × Option String)
  deriving DecidableEq, Repr

namespace Reading

/-- Nothing read. -/
def start : Reading := ⟨.none, none⟩

/-- Records what is pending. -/
def settle (r : Reading) : Except Usage Settings :=
  match r.pending with
  | none => .ok r.settings
  | some (_, none) => .error .unsuitableValue
  | some (f, some value) => r.settings.record f value

/-- Takes a word as the input. There is one only. -/
def takeInput (r : Reading) (text : String) : Except Usage Reading :=
  if r.settings.input.isSome then .error .unknownArgument
  else do return ⟨{ ← r.settle with input := some text }, none⟩

/-- Takes one item in. -/
def step (r : Reading) : Item → Except Usage Reading
  | .unknown => .error .unknownArgument
  | .rest text => r.takeInput text
  | .word text =>
    match r.pending with
    | some (f, none) => .ok { r with pending := some (f, some text) }
    | _ => r.takeInput text
  | .flag f value =>
    match f.takesValue, value with
    | true, some value => do return ⟨← (← r.settle).record f value, none⟩
    | true, none => do return ⟨← r.settle, some (f, none)⟩
    | false, some _ => .error .unwantedValue
    | false, none => do return ⟨← (← r.settle).raise f, none⟩

end Reading

/-- Reads items to their end. -/
def readItems (items : List Item) : Except Usage Settings := do
  (← items.foldlM Reading.step .start).settle

/-! ## Commands -/

/-- The words that name a command. -/
def commandNames : List String := ["normalize", "check", "help"]

/-- Reads what follows the name of a command. Help is given for one command at most. -/
def readCommand (name : String) (args : List String) : Except Usage Command :=
  match name with
  | "normalize" => do
    let s ← readItems (classifyAll (Flag.ofTask ++ [.format, .output]) args)
    return .normalize (← s.task) (s.format.getD .json) s.output
  | "check" => do return .check (← (← readItems (classifyAll Flag.ofTask args)).task)
  | "help" =>
    match args with
    | [] => .error .help
    | [name] => .error (if commandNames.contains name then .help else .unknownCommand)
    | _ => .error .unknownCommand
  | _ => .error .unknownCommand

/-- Reads the options of the program and the command behind them. -/
def readFrom (given : Bool) : List String → Except Usage Command
  | [] => .error (if given then .missingCommand else .nothingGiven)
  | arg :: rest =>
    if arg = "--" then
      match rest with
      | [] => .error (if given then .missingCommand else .nothingGiven)
      | name :: _ =>
        .error (if commandNames.contains name then .unknownArgument else .unknownCommand)
    else
      match classify Flag.ofProgram arg with
      | [.word name] => readCommand name rest
      | items => do
        discard (items.foldlM Reading.step .start)
        readFrom true rest

end CommandLine

/-- Reads a command line. -/
def Command.parse (args : List String) : Except Usage Command := CommandLine.readFrom false args

end ApiBundle
