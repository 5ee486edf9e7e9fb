import ApiBundle.Bundle
import ApiBundle.CommandLine.Basic
import ApiBundle.FileTree.Change
import ApiBundle.Options.Reader
import ApiBundle.Source.Files

/-!
# Carrying out commands

A command reads from a file tree and gives a report; handing the report over prints it or writes it
to a file. A report is the same whatever becomes of it, so nothing is written before bundling is
done.
-/

namespace ApiBundle

/-- Why a command fails. -/
inductive Failure where
  /-- Bundling failed. -/
  | bundle (cause : BundleError)
  /-- The root document is not there. -/
  | cannotOpen (input : String) (cause : FileError)
  /-- References that lead nowhere. -/
  | unresolved (count : Nat)
  deriving DecidableEq, Repr

namespace Failure

/-- A refused file operation. -/
def ofFile (e : FileError) : Failure := .bundle (.io e.message)

/-- The wording of a failure. -/
def message : Failure → String
  | .bundle e => e.message
  | .cannotOpen input e => "Operation failed: Cannot open " ++ input ++ ": " ++ e.message
  | .unresolved count => toString count ++ " unresolved reference(s)"

end Failure

/-- What has been tried, with the documents that were asked for. -/
structure Attempt (α : Type) where
  /-- What came of it. -/
  result : Except Failure α
  /-- The documents asked for. -/
  requests : List Uri

/-- Goes on with the result of an attempt. -/
def Attempt.map {α β : Type} (f : α → β) (a : Attempt α) : Attempt β :=
  ⟨a.result.map f, a.requests⟩

/-- The octets of a path. -/
def pathOctets (path : String) : Octets := Utf8.encode path.toList

namespace Task

/-- A scheme that is one letter long is the letter of a drive. -/
def isDriveLetter (url : Uri) : Bool := url.scheme.length ≤ 1

/-- The URL of the root document. A path has to lead to something. -/
def rootUrl (t : FileTree) (task : Task) : Except Failure Uri :=
  let ofPath : Except Failure Uri :=
    match t.place (pathOctets task.input) with
    | .ok place => .ok (.ofFilePath (displayPath place.path))
    | .error e => .error (.cannotOpen task.input e)
  match Uri.parse task.input with
  | .ok url => if isDriveLetter url then ofPath else .ok url
  | .error _ => ofPath

/-- Reads the file with options. -/
def readOptions (t : FileTree) (path : String) : Except Failure Options := do
  let text ← (t.readText (pathOctets path)).mapError .ofFile
  (Options.parse text).mapError fun e =>
    .bundle (.config (path ++ ": " ++ (BundleError.config e.message).message))

/-- The options of a task. -/
def options (t : FileTree) (task : Task) : Except Failure Options := do
  let base ← match task.config with
    | some path => readOptions t path
    | none => pure .default
  return task.override base

/-- Bundles the root document of a task. -/
def bundle (bound : Nat) (t : FileTree) (task : Task) : Option (Attempt Json) :=
  let prepared : Except Failure (Uri × Options) := do
    return (← task.rootUrl t, ← task.options t)
  match prepared with
  | .error e => some ⟨.error e, []⟩
  | .ok (root, o) => do
    let outcome ← Bundle.ofUrl bound (.withoutWeb t) o root
    return ⟨outcome.result.mapError .bundle, outcome.requests⟩

end Task

/-- What a command has to say. -/
structure Report where
  /-- The text to hand over. -/
  text : String
  /-- The file it goes to; standard output if there is none. -/
  target : Option String
  /-- What is wrong nevertheless. -/
  failure : Option Failure
  deriving DecidableEq, Repr

namespace Report

/-- The report of a bundled document. -/
def ofDocument (format : Format) (output : Option String) (tree : Json) : Report :=
  ⟨format.render tree, output, none⟩

/-- The line of a reference that leads nowhere. -/
def unresolvedLine (r : Pointer × String) : String := r.1.text ++ "\t" ++ r.2 ++ "\n"

/-- The report of a document's references. -/
def ofReferences (tree : Json) : Report :=
  match tree.unresolved with
  | [] => ⟨"All references resolve\n", none, none⟩
  | unresolved =>
    ⟨String.join (unresolved.map unresolvedLine), none, some (.unresolved unresolved.length)⟩

/-- What has been printed, what the files are afterwards, and what failed. -/
structure Delivery where
  /-- What has been printed. -/
  printed : String
  /-- The files afterwards. -/
  files : FileTree
  /-- What failed. -/
  failure : Option Failure

/-- The exit code of a command. -/
def Delivery.exitCode (d : Delivery) : Nat := if d.failure.isSome then 1 else 0

/-- Hands a report over. -/
def deliver (t : FileTree) (r : Report) : Delivery :=
  match r.target with
  | none => ⟨r.text, t, r.failure⟩
  | some path =>
    match (FileTree.save (pathOctets path) (Utf8.encode r.text.toList)).run t with
    | (.ok (), t) => ⟨"", t, r.failure⟩
    | (.error e, t) => ⟨"", t, some (.ofFile e)⟩

end Report

namespace Command

/-- What a command says about a bundled document. -/
def report : Command → Json → Report
  | .normalize _ format output, tree => .ofDocument format output tree
  | .check _, tree => .ofReferences tree

/-- Carries a command out, up to handing its report over. -/
def attempt (bound : Nat) (t : FileTree) (c : Command) : Option (Attempt Report) :=
  (c.task.bundle bound t).map (·.map c.report)

/-- Carries a command out. -/
def run (bound : Nat) (t : FileTree) (c : Command) : Option Report.Delivery := do
  match (← c.attempt bound t).result with
  | .ok report => return report.deliver t
  | .error e => return ⟨"", t, some e⟩

end Command

end ApiBundle
