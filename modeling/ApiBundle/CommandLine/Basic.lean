import ApiBundle.Json.Printer
import ApiBundle.Options
import ApiBundle.Yaml.Printer

/-!
# Commands

What the program can be told to do: bundle a document and write the result, or bundle it and list
the references that lead nowhere.
-/

namespace ApiBundle

/-- How a bundled document is written. -/
inductive Format where
  /-- As indented JSON. -/
  | json
  /-- As YAML. -/
  | yaml
  deriving DecidableEq, Repr

namespace Format

/-- The format of a name. -/
def ofName? (name : String) : Option Format :=
  match name with
  | "json" => some .json
  | "yaml" => some .yaml
  | _ => none

/-- The text of a document in a format; it ends with a line break. -/
def render : Format → Json → String
  | .json, tree => tree.indented ++ "\n"
  | .yaml, tree => tree.yamlText

end Format

/-- What to bundle, and how. -/
structure Task where
  /-- The root document: a URL or a path. -/
  input : String
  /-- The path of a file with options. -/
  config : Option String
  /-- A dialect that goes before the one of the file. -/
  dialect : Option DialectChoice
  /-- Components to inline besides those of the file. -/
  inlined : List String
  /-- Whether to inline every component. -/
  inlineAll : Bool
  /-- Further documents besides those of the file. -/
  additional : List String
  /-- Whether bare names stay as they are. -/
  noSimpleRefs : Bool
  deriving DecidableEq, Repr

/-- The options of a task on top of those of its file. -/
def Task.override (t : Task) (o : Options) : Options where
  dialect := t.dialect.getD o.dialect
  inlined := o.inlined ++ t.inlined ++ if t.inlineAll then [Options.everyComponent] else []
  additionalFiles := o.additionalFiles ++ t.additional
  expandNames := o.expandNames && !t.noSimpleRefs

/-- What the program is told to do. -/
inductive Command where
  /-- Write the bundled document, to a file if one is given. -/
  | normalize (task : Task) (format : Format) (output : Option String)
  /-- List the references that lead nowhere. -/
  | check (task : Task)
  deriving DecidableEq, Repr

/-- The task of a command. -/
def Command.task : Command → Task
  | .normalize task _ _ => task
  | .check task => task

/-- Why a command line gives no command. -/
inductive Usage where
  /-- It asks for help. -/
  | help
  /-- It asks for the version. -/
  | version
  /-- It is empty. -/
  | nothingGiven
  /-- It names no command. -/
  | missingCommand
  /-- It names a command that does not exist. -/
  | unknownCommand
  /-- It names no root document. -/
  | missingInput
  /-- It has a word or an option too many. -/
  | unknownArgument
  /-- An option has no value or one that it cannot have. -/
  | unsuitableValue
  /-- An option that is given once is given again. -/
  | repeatedOption
  /-- An option that takes no value has one. -/
  | unwantedValue
  deriving DecidableEq, Repr

/-- The exit code of a command line that gives no command: asking for something is no mistake. -/
def Usage.exitCode : Usage → Nat
  | .help | .version => 0
  | _ => 2

end ApiBundle
