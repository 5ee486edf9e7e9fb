import ApiBundle.Options
import ApiBundle.Text.Classes
import ApiBundle.Yaml.Reader

/-!
# Reading options

Options are written as a YAML mapping; what it leaves out has its default, and what it says about
anything else is passed over. Any scalar can stand for a text, whatever its tag.
-/

namespace ApiBundle.Options

open Yaml

/-- An empty scalar without quotes, which stands for an empty collection. -/
def isBlankNode : Node Nat → Bool
  | .scalar _ .plain text => text.isEmpty
  | _ => false

/-- A scalar as a text. -/
def readText (d : Document) (n : Node Nat) : Except Yaml.Error String :=
  match d.target? n with
  | some (.scalar _ _ text) => .ok text
  | _ => .error (.unexpected "a string")

/-- A sequence of scalars as texts. -/
def readTexts (d : Document) (n : Node Nat) : Except Yaml.Error (List String) :=
  match d.target? n with
  | some (.sequence _ items) => items.mapM (readText d)
  | some n => if isBlankNode n then .ok [] else .error (.unexpected "a sequence")
  | none => .error (.unexpected "a sequence")

/-- Whether a scalar may write a truth value: a plain one, or a block that is tagged so. -/
def mayBeBool (p : Properties Nat) (style : ScalarStyle) : Bool :=
  style = .plain || (style = .literal && p.tag = some (coreTag "bool"))

/-- A scalar as a truth value. -/
def readBool (d : Document) (n : Node Nat) : Except Yaml.Error Bool :=
  match d.target? n with
  | some (.scalar p style text) =>
    match if mayBeBool p style then boolOf? text else none with
    | some b => .ok b
    | none => .error (.unsuitable text)
  | _ => .error (.unexpected "a boolean")

/-- A choice by its name. -/
def choiceOfName (name : String) : Except Yaml.Error DialectChoice :=
  match DialectChoice.ofName? name with
  | some choice => .ok choice
  | none => .error (.unsuitable name)

/-- A choice of a dialect: its name, or its name as the tag of an absent value. -/
def readChoice (d : Document) (n : Node Nat) : Except Yaml.Error DialectChoice :=
  match d.target? n with
  | some (.scalar p style text) =>
    match ownTag? p.tag with
    | some name =>
      if style = .plain && (text.isEmpty || isNullText text) then choiceOfName name
      else .error (.unsuitable text)
    | none => choiceOfName text
  | _ => .error (.unexpected "a dialect")

/-- Options while they are read, with the names that have been seen. -/
structure Partial where
  /-- The options so far. -/
  options : Options
  /-- The names of the options given. -/
  given : List String

/-- Takes in one entry. An option may be given once. -/
def readEntry (d : Document) (p : Partial) (entry : Node Nat × Node Nat) :
    Except Yaml.Error Partial := do
  let name ← readText d entry.1
  let known := ["dialect", "inline", "additional_files", "rewrite_simple_refs"].contains name
  if !known then return p
  if p.given.contains name then throw .duplicateKey
  let o := p.options
  let options ← match name with
    | "dialect" => do pure { o with dialect := ← readChoice d entry.2 }
    | "inline" => do pure { o with inlined := ← readTexts d entry.2 }
    | "additional_files" => do pure { o with additionalFiles := ← readTexts d entry.2 }
    | _ => do pure { o with expandNames := ← readBool d entry.2 }
  return ⟨options, name :: p.given⟩

/-- The options that a document gives. -/
def ofDocument (d : Document) : Except Yaml.Error Options :=
  match d.target? d.root with
  | some (.mapping _ entries) => do
    return (← entries.foldlM (readEntry d) ⟨.default, []⟩).options
  | some n => if isBlankNode n then .ok .default else .error (.unexpected "options")
  | none => .error (.unexpected "options")

/-- Reads options; a blank text gives the defaults. -/
def parse (text : String) : Except Yaml.Error Options := do
  if (Text.trim text.toList).isEmpty then return .default
  match ← document? text with
  | some d => ofDocument d
  | none => return .default

end ApiBundle.Options
