import ApiBundle.FileTree.Basic

/-!
# Changes to file trees

Making directories and writing files. A change that fails half-way leaves what it has done.
-/

namespace ApiBundle.FileTree

open WrittenPath

/-- A change to a file tree, which may be refused. -/
abbrev Change (α : Type) : Type := ExceptT FileError (StateM FileTree) α

/-- Gives the tree something at a place. -/
def put (t : FileTree) (p : Place) (kind : FileKind) : FileTree :=
  { t with items := OrderedMap.put t.items p kind }

/-- Takes in a file together with the directories above it. -/
def install (t : FileTree) (p : Place) (content : Octets) : FileTree :=
  let above := (passedFrom [] p.dropLast).filter fun place => !place.isEmpty
  (above.foldl (fun t place => t.put place .directory) t).put p (.file content)

/-- The files of a later tree that an earlier one has not, or not with this content. -/
def changes (earlier later : FileTree) : List (Place × Octets) :=
  later.items.filterMap fun (place, kind) =>
    match kind with
    | .file content => if earlier.kind? place = some kind then none else some (place, content)
    | .directory => none

/-- Makes the directory at the end of steps. -/
def makeDirectory (here : Place) (steps : List Octets) : Change Unit := do
  let t ← get
  match steps.getLast? with
  | none => throw .alreadyExists
  | some name =>
    let place ← MonadExcept.ofExcept do t.enter (← t.follow here steps.dropLast) name
    if name = dotDot || (t.kind? place).isSome then throw .alreadyExists
    set (t.put place .directory)

/-- Whether steps lead to a directory. -/
def leadsToDirectory (t : FileTree) (here : Place) (steps : List Octets) : Bool :=
  match t.locate here steps with
  | .ok (_, .directory) => true
  | _ => false

/-- Makes the directory at the end of steps unless it is there. -/
def needDirectory (here : Place) (steps : List Octets) : Change Unit :=
  tryCatch (makeDirectory here steps) fun e => do
    if !(← get).leadsToDirectory here steps then throw e

/-- Makes the directory at the end of steps, given backwards, and those above it that are missing.
Only a failure to find the directory above sends it there. -/
def makeDirectories (here : Place) : List Octets → Change Unit
  | [] => return
  | name :: before =>
    let steps := (name :: before).reverse
    tryCatch (makeDirectory here steps) fun e => do
      if e = .notFound then
        makeDirectories here before
        needDirectory here steps
      else if !(← get).leadsToDirectory here steps then throw e

/-- Writes a file into a directory that exists. -/
def write (path content : Octets) : Change Unit := do
  let t ← get
  let p ← MonadExcept.ofExcept (ofOctets path)
  match p.pieces.reverse.dropWhile List.isEmpty with
  | [] => throw .isDirectory
  | name :: before =>
    let place ← MonadExcept.ofExcept do t.enter (← t.follow (t.start p) before.reverse) name
    let endsInName := p.pieces.getLast? = some name && name ≠ dot && name ≠ dotDot
    if !endsInName || t.kind? place = some .directory then throw .isDirectory
    set (t.put place (.file content))

/-- Writes a file, making the directories above it that are missing. -/
def save (path content : Octets) : Change Unit := do
  match ofOctets path with
  | .ok p => makeDirectories ((← get).start p) p.steps.reverse.tail
  | .error _ => pure ()
  write path content

end ApiBundle.FileTree
