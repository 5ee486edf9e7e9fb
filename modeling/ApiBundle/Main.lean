import ApiBundle.CommandLine.Parser
import ApiBundle.CommandLine.Run

/-!
# The program

Runs a command on the files of this system. A command sees a file tree, so what it looks at is read
into one beforehand; the documents that references lead to are read once they have been asked for.
-/

open ApiBundle

namespace Program

/-- What is said about the command line. -/
def helpText : String :=
  "Usage: [OPTIONS] <COMMAND>\n\n" ++
  "Commands:\n" ++
  "  normalize  Bundle a description into a single document\n" ++
  "  check      List references that lead nowhere afterwards\n" ++
  "  help       Print this message\n\n" ++
  "Options:\n" ++
  "  -v, --verbose  Say more\n" ++
  "  -h, --help     Print help\n" ++
  "  -V, --version  Print version\n\n" ++
  "Both commands take INPUT, a path or a URL, and\n" ++
  "  --config <FILE>           Options file\n" ++
  "  --dialect <auto|v2|v3>    Dialect of the root document\n" ++
  "  --inline <COMPONENT>      Component to inline\n" ++
  "  --inline-all              Inline every component\n" ++
  "  --additional <FILE>       Extra document whose definitions join the result\n" ++
  "  --no-simple-refs          Do not expand bare names\n\n" ++
  "The command normalize takes\n" ++
  "  --format <json|yaml>      How the result is written\n" ++
  "  -o, --output <FILE>       Where it is written\n"

/-- What is said of a command line that gives no command. -/
def usageText : Usage → String
  | .help | .nothingGiven => helpText
  | .version => "1.0.0\n"
  | .missingCommand => "error: a command is needed\n"
  | .unknownCommand => "error: there is no such command\n"
  | .missingInput => "error: INPUT is needed\n"
  | .unknownArgument => "error: an argument was not expected\n"
  | .unsuitableValue => "error: an option has no suitable value\n"
  | .repeatedOption => "error: an option cannot be given again\n"
  | .unwantedValue => "error: an option takes no value\n"

/-- How deep references may nest; no run comes near. -/
def depthBound : Nat := Nat.pow 2 40

/-- What stands at a place of this system. -/
def look (p : Place) : IO (Option FileKind) := do
  try
    let content ← IO.FS.readBinFile (displayPath p.path)
    return some (.file (content.toList.map UInt8.toNat))
  catch e =>
    -- a directory can be opened, and reading it is what is refused
    return if ((toString e).splitOn "error code: 21").length > 1 then some .directory else none

/-- Takes the places into a tree that following a path looks at. -/
def take (t : FileTree) (path : Octets) : IO FileTree :=
  (t.passed path).foldlM
    (fun t place => do
      match ← look place with
      | some kind => return if place.isEmpty then t else t.put place kind
      | none => return t) t

/-- The directory that the program runs in. -/
def workingDirectory : IO Place := do
  let path := toString (← IO.currentDir)
  return (Text.splitAt 47 (pathOctets path)).filter fun name => !name.isEmpty

/-- What a command can look at before a document has been read. -/
def start (c : Command) : IO FileTree := do
  let bare : FileTree := ⟨[], ← workingDirectory⟩
  let output := match c with
    | .normalize _ _ (some path) => [path]
    | _ => []
  let paths := [".", c.task.input] ++ c.task.config.toList ++ output
  paths.foldlM (fun t path => take t (pathOctets path)) bare

/-- Tries a command, reading the documents it asks for until there are no more. -/
partial def gather (c : Command) (t : FileTree) (read : List Uri) :
    IO (Option (Attempt Report) × FileTree) := do
  let attempt := c.attempt depthBound t
  let asked := (attempt.map Attempt.requests).getD []
  let unread := asked.filter fun url => !read.contains url
  if unread.isEmpty then return (attempt, t)
  let t ← (unread.filterMap Uri.filePath?).foldlM take t
  gather c t (read ++ unread)

/-- Hands a report over for good, once it is known that nothing stands in the way. -/
def deliver (t : FileTree) (r : Report) : IO Report.Delivery := do
  let delivery := r.deliver t
  for (place, content) in t.changes delivery.files do
    IO.FS.createDirAll (displayPath (Place.path place.dropLast))
    IO.FS.writeBinFile (displayPath place.path) ⟨(content.map UInt8.ofNat).toArray⟩
  return delivery

/-- Runs a command. -/
def run (c : Command) : IO UInt32 := do
  let (attempt, t) ← gather c (← start c) []
  let delivery ← match attempt with
    | none => return 1
    | some ⟨.error e, _⟩ => pure ⟨"", t, some e⟩
    | some ⟨.ok report, _⟩ => deliver t report
  IO.print delivery.printed
  if let some e := delivery.failure then IO.eprintln ("Error: " ++ e.message)
  return delivery.exitCode.toUInt32

end Program

/-- Reads the command line and runs the command. -/
def main (args : List String) : IO UInt32 := do
  match Command.parse args with
  | .ok c => Program.run c
  | .error e =>
    if e.exitCode = 0 then IO.print (Program.usageText e)
    else IO.eprint (Program.usageText e)
    return e.exitCode.toUInt32
