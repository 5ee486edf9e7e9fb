import ApiBundle.OrderedMap
import ApiBundle.Text.Split
import ApiBundle.Text.Utf8

/-!
# File trees

A file system as a value: what stands at which place, and the directory that relative paths start
at. A path is followed piece by piece. Every piece, also an empty one or a dot, is looked up in the
place before it, which has to be a directory; so the path of a file cannot end in a slash. There are
no links.
-/

namespace ApiBundle

/-- Octets, as file names and files hold them. -/
abbrev Octets : Type := List Nat

/-- Why a file operation is refused. -/
inductive FileError where
  /-- Nothing at the place. -/
  | notFound
  /-- Something there already. -/
  | alreadyExists
  /-- A file where a directory is needed. -/
  | notDirectory
  /-- A directory where a file is needed. -/
  | isDirectory
  /-- A name or path beyond the limit. -/
  | nameTooLong
  /-- A zero octet in a path. -/
  | zeroInPath
  /-- A file that holds no text. -/
  | notText
  deriving DecidableEq, Repr

/-- The wording of a refusal. -/
def FileError.message : FileError → String
  | .notFound => "No such file or directory (os error 2)"
  | .alreadyExists => "File exists (os error 17)"
  | .notDirectory => "Not a directory (os error 20)"
  | .isDirectory => "Is a directory (os error 21)"
  | .nameTooLong => "File name too long (os error 36)"
  | .zeroInPath => "file name contained an unexpected NUL byte"
  | .notText => "stream did not contain valid UTF-8"

/-- What stands at a place. -/
inductive FileKind where
  /-- A directory. -/
  | directory
  /-- A file with its content. -/
  | file (content : Octets)
  deriving DecidableEq, Repr

/-- The names on the way from the root. -/
abbrev Place : Type := List Octets

/-- The path of a place. -/
def Place.path (p : Place) : Octets := if p.isEmpty then [47] else p.flatMap fun name => 47 :: name

/-- A file system and the directory that relative paths start at. -/
structure FileTree where
  /-- What stands where; the root is not among them. -/
  items : OrderedMap Place FileKind
  /-- Where relative paths start. -/
  workingDirectory : Place
  deriving DecidableEq, Repr

/-- A path as it is written. -/
structure WrittenPath where
  /-- Whether it starts at the root. -/
  isAbsolute : Bool
  /-- What stands between its slashes. -/
  pieces : List Octets
  deriving DecidableEq, Repr

namespace WrittenPath

/-- The name that means the directory itself. -/
def dot : Octets := [46]

/-- The name that means the directory above. -/
def dotDot : Octets := [46, 46]

/-- How many octets a name can have. -/
def nameLimit : Nat := 255

/-- How many octets a path can have that is followed at once. -/
def pathLimit : Nat := 4095

/-- Takes a path of any length apart. The empty path leads nowhere. -/
def ofAnyLength (path : Octets) : Except FileError WrittenPath :=
  if path.contains 0 then .error .zeroInPath
  else
    match path with
    | [] => .error .notFound
    | 47 :: rest => .ok ⟨true, Text.splitAt 47 rest⟩
    | path => .ok ⟨false, Text.splitAt 47 path⟩

/-- Takes a path apart that is to be followed at once. -/
def ofOctets (path : Octets) : Except FileError WrittenPath := do
  let p ← ofAnyLength path
  if pathLimit < path.length then throw .nameTooLong else return p

/-- The pieces that lead to another place. -/
def steps (p : WrittenPath) : List Octets := p.pieces.filter fun piece => piece ≠ [] && piece ≠ dot

end WrittenPath

namespace FileTree

open WrittenPath

/-- What stands at a place. -/
def kind? (t : FileTree) (p : Place) : Option FileKind :=
  if p.isEmpty then some .directory else OrderedMap.find? t.items p

/-- Where a path starts. -/
def start (t : FileTree) (p : WrittenPath) : Place :=
  if p.isAbsolute then [] else t.workingDirectory

/-- The place that a name means next to a place. -/
def beside (here : Place) (piece : Octets) : Place :=
  if piece = [] || piece = dot then here
  else if piece = dotDot then here.dropLast
  else here ++ [piece]

/-- Looks a piece up in a place, which has to be a directory. -/
def enter (t : FileTree) (here : Place) (piece : Octets) : Except FileError Place :=
  match t.kind? here with
  | none => .error .notFound
  | some (.file _) => .error .notDirectory
  | some .directory =>
    if nameLimit < piece.length then .error .nameTooLong else .ok (beside here piece)

/-- Follows pieces from a place on. The last place need not exist. -/
def follow (t : FileTree) (here : Place) (pieces : List Octets) : Except FileError Place :=
  pieces.foldlM t.enter here

/-- Follows pieces to something that exists. -/
def locate (t : FileTree) (here : Place) (pieces : List Octets) :
    Except FileError (Place × FileKind) := do
  let place ← t.follow here pieces
  match t.kind? place with
  | some kind => return (place, kind)
  | none => throw .notFound

/-- What a path leads to. -/
def find (t : FileTree) (path : Octets) : Except FileError (Place × FileKind) := do
  let p ← ofOctets path
  t.locate (t.start p) p.pieces

/-- Looks a piece up, unless the path of what it leads to is too long. -/
def enterBounded (t : FileTree) (here : Place) (piece : Octets) : Except FileError Place := do
  let next ← t.enter here piece
  if pathLimit < next.path.length then throw .nameTooLong else return next

/--
The place that a path leads to. It is followed piece by piece, so the length of what is written does
not matter.
-/
def place (t : FileTree) (path : Octets) : Except FileError Place := do
  let p ← ofAnyLength path
  let place ← p.pieces.foldlM t.enterBounded (t.start p)
  if (t.kind? place).isSome then return place else throw .notFound

/-- The content of the file that a path leads to. -/
def read (t : FileTree) (path : Octets) : Except FileError Octets := do
  match (← t.find path).2 with
  | .file content => return content
  | .directory => throw .isDirectory

/-- The text of the file that a path leads to. -/
def readText (t : FileTree) (path : Octets) : Except FileError String := do
  match Utf8.decode? (← t.read path) with
  | some cs => return String.ofList cs
  | none => throw .notText

/-- The places on the way along pieces, both ends among them. -/
def passedFrom (here : Place) : List Octets → List Place
  | [] => [here]
  | piece :: rest => here :: passedFrom (beside here piece) rest

/-- The places that following a path looks at. -/
def passed (t : FileTree) (path : Octets) : List Place :=
  match ofOctets path with
  | .ok p => passedFrom (t.start p) p.pieces
  | .error _ => []

end FileTree

end ApiBundle
