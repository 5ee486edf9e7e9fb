import ApiBundle.Yaml.Token.Lexer
import ApiBundle.OrderedMap

/-!
# YAML nodes

A document as a tree of nodes: scalars with their style, collections, and aliases, which mention
other nodes. The first part builds the tree from tokens, where nodes and aliases carry names. The
second part gives every anchored node a number, which its aliases then mention
(`Document.ofNode?`).

A name may be given again; aliases mean the last node so named before them. A node gets as its
number how many names there are so far, so naming a node anew does not use up a number, and a number
means the last node that got it.
-/

namespace ApiBundle.Yaml

/-- What may stand before a node. -/
structure Properties (α : Type) where
  /-- What aliases mention the node by. -/
  anchor : Option α
  /-- The complete tag. -/
  tag : Option Tag
  deriving DecidableEq, Repr

/-- A node of a document, mentioned by an `α`. -/
inductive Node (α : Type) where
  /-- A scalar. -/
  | scalar (properties : Properties α) (style : ScalarStyle) (text : String)
  /-- Items in order. -/
  | sequence (properties : Properties α) (items : List (Node α))
  /-- Values under keys. -/
  | mapping (properties : Properties α) (entries : List (Node α × Node α))
  /-- A mention of another node. -/
  | alias (target : α)
  deriving Repr, Inhabited

namespace Node

/-- No properties. -/
def bare {α : Type} : Properties α := ⟨none, none⟩

/-- The scalar that stands where there is nothing. -/
def absent {α : Type} : Node α := .scalar bare .plain ""

/-! ## From tokens -/

/-- The handles of a document, each with what it stands for. -/
abbrev Handles : Type := OrderedMap String Tag

/-- The handles that need no declaration. -/
def defaultHandles : Handles := [("!", Tag.mark), ("!!", Tag.ofText "tag:yaml.org,2002:")]

/-- The complete tag. -/
def completeTag (handles : Handles) (handle : String) (suffix : Tag) : Except Error Tag :=
  if handle.isEmpty then .ok suffix
  else
    match OrderedMap.find? handles handle with
    | some start => .ok (start ++ suffix)
    | none => .error (.unstructured "tag handle")

/-- Reads the properties of a node. -/
def readProperties (handles : Handles) :
    List Token → Except Error (Properties String × List Token)
  | .anchor name :: .tag handle suffix :: rest | .tag handle suffix :: .anchor name :: rest => do
    return (⟨some name, some (← completeTag handles handle suffix)⟩, rest)
  | .anchor name :: rest => .ok (⟨some name, none⟩, rest)
  | .tag handle suffix :: rest => do
    return (⟨none, some (← completeTag handles handle suffix)⟩, rest)
  | rest => .ok (bare, rest)

/-- Whether an item of a block sequence, or a key or value of a block mapping, is left out. -/
def leftOut (indentless : Bool) : List Token → Bool
  | .blockEnd :: _ => true
  | .blockEntry :: _ => indentless
  | .key :: _ | .value :: _ => !indentless
  | _ => false

/-- Whether an item of a sequence at its mapping's own indentation is left out. -/
def itemLeftOut : List Token → Bool
  | .blockEntry :: _ | .key :: _ | .value :: _ | .blockEnd :: _ => true
  | _ => false

mutual

/--
Reads a node. Only in a block may it be a block collection, and only as a key or value of a block
mapping may it be a sequence without an indentation of its own.
-/
def read (handles : Handles) (inBlock indentless : Bool) (fuel : Nat) (ts : List Token) :
    Except Error (Node String × List Token) :=
  match fuel, ts with
  | 0, _ => .error .tooDeep
  | _ + 1, .alias name :: rest => .ok (.alias name, rest)
  | fuel + 1, ts => do
    let (p, rest) ← readProperties handles ts
    match rest with
    | .scalar style text :: rest => return (.scalar p style text, rest)
    | .flowSequenceStart :: rest =>
      let (items, rest) ← flowItems handles true fuel rest
      return (.sequence p items, rest)
    | .flowMappingStart :: rest =>
      let (entries, rest) ← flowEntries handles true fuel rest
      return (.mapping p entries, rest)
    | rest => blockCollection handles p inBlock indentless fuel rest

/-- Reads a block collection, or nothing where properties stand alone. -/
def blockCollection (handles : Handles) (p : Properties String) (inBlock indentless : Bool)
    (fuel : Nat) (ts : List Token) : Except Error (Node String × List Token) :=
  match fuel with
  | 0 => .error .tooDeep
  | fuel + 1 =>
    let nothing : Except Error (Node String × List Token) :=
      if p.anchor.isSome || p.tag.isSome then .ok (.scalar p .plain "", ts)
      else .error (.unstructured "node content")
    match ts with
    | .blockEntry :: _ =>
      if indentless then do
        let (items, rest) ← indentlessItems handles fuel ts
        return (.sequence p items, rest)
      else nothing
    | .blockSequenceStart :: rest =>
      if inBlock then do
        let (items, rest) ← blockItems handles fuel rest
        return (.sequence p items, rest)
      else nothing
    | .blockMappingStart :: rest =>
      if inBlock then do
        let (entries, rest) ← blockEntries handles fuel rest
        return (.mapping p entries, rest)
      else nothing
    | _ => nothing

/-- Reads the items of a block sequence and its end. -/
def blockItems (handles : Handles) (fuel : Nat) (ts : List Token) :
    Except Error (List (Node String) × List Token) :=
  match fuel, ts with
  | 0, _ => .error .tooDeep
  | _ + 1, .blockEnd :: rest => .ok ([], rest)
  | fuel + 1, .blockEntry :: rest => do
    let (item, rest) ← if leftOut true rest then pure (absent, rest)
      else read handles true false fuel rest
    let (items, rest) ← blockItems handles fuel rest
    return (item :: items, rest)
  | _ + 1, _ => .error (.unstructured "'-' indicator")

/-- Reads the items of a sequence without an indentation of its own. -/
def indentlessItems (handles : Handles) (fuel : Nat) (ts : List Token) :
    Except Error (List (Node String) × List Token) :=
  match fuel, ts with
  | 0, _ => .error .tooDeep
  | fuel + 1, .blockEntry :: rest => do
    let (item, rest) ← if itemLeftOut rest then pure (absent, rest)
      else read handles true false fuel rest
    let (items, rest) ← indentlessItems handles fuel rest
    return (item :: items, rest)
  | _ + 1, ts => .ok ([], ts)

/-- Reads the entries of a block mapping and its end. -/
def blockEntries (handles : Handles) (fuel : Nat) (ts : List Token) :
    Except Error (List (Node String × Node String) × List Token) :=
  match fuel, ts with
  | 0, _ => .error .tooDeep
  | _ + 1, .blockEnd :: rest => .ok ([], rest)
  | fuel + 1, .key :: rest => do
    let (key, rest) ← if leftOut false rest then pure (absent, rest)
      else read handles true true fuel rest
    let (value, rest) ← match rest with
      | .value :: rest =>
        if leftOut false rest then pure (absent, rest) else read handles true true fuel rest
      | rest => pure (absent, rest)
    let (entries, rest) ← blockEntries handles fuel rest
    return ((key, value) :: entries, rest)
  | _ + 1, _ => .error (.unstructured "key")

/-- Reads the items between brackets. An entry with a key is a mapping of its own. -/
def flowItems (handles : Handles) (isFirst : Bool) (fuel : Nat) (ts : List Token) :
    Except Error (List (Node String) × List Token) :=
  match fuel, ts with
  | 0, _ => .error .tooDeep
  | _ + 1, .flowSequenceEnd :: rest => .ok ([], rest)
  | fuel + 1, ts => do
    let ts ← match isFirst, ts with
      | true, ts => pure ts
      | false, .flowEntry :: rest => pure rest
      | false, _ => throw (.unstructured "',' or ']'")
    match ts with
    | .flowSequenceEnd :: rest => return ([], rest)
    | .key :: rest =>
      -- a key that is left out takes the token behind it along, so its value is left out as well
      let (key, rest) ← match rest with
        | .value :: rest | .flowEntry :: rest | .flowSequenceEnd :: rest => pure (absent, rest)
        | rest => read handles false false fuel rest
      let (value, rest) ← match rest with
        | .value :: .flowEntry :: rest => pure (absent, .flowEntry :: rest)
        | .value :: .flowSequenceEnd :: rest => pure (absent, .flowSequenceEnd :: rest)
        | .value :: rest => read handles false false fuel rest
        | rest => pure (absent, rest)
      let (items, rest) ← flowItems handles false fuel rest
      return (.mapping bare [(key, value)] :: items, rest)
    | ts =>
      let (item, rest) ← read handles false false fuel ts
      let (items, rest) ← flowItems handles false fuel rest
      return (item :: items, rest)

/-- Reads the entries between braces. -/
def flowEntries (handles : Handles) (isFirst : Bool) (fuel : Nat) (ts : List Token) :
    Except Error (List (Node String × Node String) × List Token) :=
  match fuel, ts with
  | 0, _ => .error .tooDeep
  | _ + 1, .flowMappingEnd :: rest => .ok ([], rest)
  | fuel + 1, ts => do
    let ts ← match isFirst, ts with
      | true, ts => pure ts
      | false, .flowEntry :: rest => pure rest
      | false, _ => throw (.unstructured "',' or '\x7d'")
    match ts with
    | .flowMappingEnd :: rest => return ([], rest)
    | .key :: rest =>
      let (key, rest) ← match rest with
        | .value :: rest => pure (absent, .value :: rest)
        | .flowEntry :: rest => pure (absent, .flowEntry :: rest)
        | .flowMappingEnd :: rest => pure (absent, .flowMappingEnd :: rest)
        | rest => read handles false false fuel rest
      let (value, rest) ← match rest with
        | .value :: .flowEntry :: rest => pure (absent, .flowEntry :: rest)
        | .value :: .flowMappingEnd :: rest => pure (absent, .flowMappingEnd :: rest)
        | .value :: rest => read handles false false fuel rest
        | rest => pure (absent, rest)
      let (entries, rest) ← flowEntries handles false fuel rest
      return ((key, value) :: entries, rest)
    | ts =>
      let (key, rest) ← read handles false false fuel ts
      let (entries, rest) ← flowEntries handles false fuel rest
      return ((key, absent) :: entries, rest)

end

/-! ## Documents -/

/-- Declarations before a document: whether a version is declared, and the handles. -/
structure Declarations where
  /-- Whether a version is declared. -/
  versioned : Bool
  /-- The handles. -/
  handles : Handles

/-- Reads declarations up to the mark of the document's start. -/
def declarations (d : Declarations) : List Token → Except Error (Declarations × List Token)
  | .version major minor :: rest =>
    if d.versioned || major ≠ 1 || (minor ≠ 1 && minor ≠ 2) then
      .error (.unstructured "version 1.1 or 1.2, once")
    else declarations { d with versioned := true } rest
  | .handle handle tag :: rest =>
    if OrderedMap.contains d.handles handle then .error (.unstructured "new handle")
    else declarations { d with handles := d.handles ++ [(handle, tag)] } rest
  | .documentStart :: rest => .ok (d, rest)
  | _ => .error (.unstructured "<document start>")

/-- Whether a document begins with declarations or a mark. -/
def isExplicit : List Token → Bool
  | .version .. :: _ | .handle .. :: _ | .documentStart :: _ => true
  | _ => false

/-- Whether a document ends before any content. -/
def hasEnded : List Token → Bool
  | [] | .documentEnd :: _ => true
  | ts => isExplicit ts

/-- Reads a document: its node, and what follows. -/
def readDocument (ts : List Token) : Except Error (Node String × List Token) := do
  let fuel := 2 * ts.length + 4
  if isExplicit ts then
    let (d, rest) ← declarations ⟨false, []⟩ ts
    if hasEnded rest then return (absent, rest)
    else read (OrderedMap.overlay defaultHandles d.handles) true false fuel rest
  else read defaultHandles true false fuel ts

/-- Reads a stream of one document at most; `none` if there is none. -/
def ofTokens? (ts : List Token) : Except Error (Option (Node String)) :=
  if ts.isEmpty then .ok none
  else do
    let (node, rest) ← readDocument ts
    match rest.dropWhile (· = .documentEnd) with
    | [] => return some node
    | _ => throw .severalDocuments

/-! ## Numbers for names -/

/-- Gives an anchored node its number. -/
def numberProperties (p : Properties String) :
    StateT (OrderedMap String Nat) (Except Error) (Properties Nat) := do
  match p.anchor with
  | none => return ⟨none, p.tag⟩
  | some name =>
    let names ← get
    set (OrderedMap.put names name names.length)
    return ⟨some names.length, p.tag⟩

mutual

/-- Gives every anchored node its number, and aliases the numbers that they mention. -/
def numbered : Node String → StateT (OrderedMap String Nat) (Except Error) (Node Nat)
  | .scalar p style text => do return .scalar (← numberProperties p) style text
  | .sequence p items => do
    let p ← numberProperties p
    return .sequence p (← numberedItems items)
  | .mapping p entries => do
    let p ← numberProperties p
    return .mapping p (← numberedEntries entries)
  | .alias name => do
    match OrderedMap.find? (← get) name with
    | some n => return .alias n
    | none => throw (.unknownAnchor name)

/-- Numbers items in order. -/
def numberedItems :
    List (Node String) → StateT (OrderedMap String Nat) (Except Error) (List (Node Nat))
  | [] => return []
  | x :: xs => do
    let x ← numbered x
    return x :: (← numberedItems xs)

/-- Numbers entries in order. -/
def numberedEntries : List (Node String × Node String) →
    StateT (OrderedMap String Nat) (Except Error) (List (Node Nat × Node Nat))
  | [] => return []
  | (k, x) :: xs => do
    let k ← numbered k
    let x ← numbered x
    return (k, x) :: (← numberedEntries xs)

end

/-- The properties of a node. -/
def properties {α : Type} : Node α → Properties α
  | .scalar p _ _ | .sequence p _ | .mapping p _ => p
  | .alias _ => bare

/-- A node under its anchor, if it has one. -/
def selfAnchored {α : Type} (n : Node α) : List (α × Node α) :=
  match n.properties.anchor with
  | some a => [(a, n)]
  | none => []

mutual

/-- The anchored nodes of a tree, in the order of their starts. -/
def anchored {α : Type} : Node α → List (α × Node α)
  | .sequence p items => selfAnchored (.sequence p items) ++ anchoredItems items
  | .mapping p entries => selfAnchored (.mapping p entries) ++ anchoredEntries entries
  | .scalar p style text => selfAnchored (.scalar p style text)
  | .alias _ => []

/-- The anchored nodes of items. -/
def anchoredItems {α : Type} : List (Node α) → List (α × Node α)
  | [] => []
  | x :: xs => anchored x ++ anchoredItems xs

/-- The anchored nodes of entries. -/
def anchoredEntries {α : Type} : List (Node α × Node α) → List (α × Node α)
  | [] => []
  | (k, x) :: xs => anchored k ++ anchored x ++ anchoredEntries xs

end

mutual

/-- How many parts a tree has, when a collection counts for its start and its end. -/
def partCount {α : Type} : Node α → Nat
  | .sequence _ items => 2 + partCountItems items
  | .mapping _ entries => 2 + partCountEntries entries
  | .scalar .. | .alias _ => 1

/-- How many parts items have. -/
def partCountItems {α : Type} : List (Node α) → Nat
  | [] => 0
  | x :: xs => partCount x + partCountItems xs

/-- How many parts entries have. -/
def partCountEntries {α : Type} : List (Node α × Node α) → Nat
  | [] => 0
  | (k, x) :: xs => partCount k + partCount x + partCountEntries xs

end

end Node

/-- A document: its tree, and the nodes that aliases may mention. -/
structure Document where
  /-- The tree. -/
  root : Node Nat
  /-- The anchored nodes, latest first. -/
  anchors : List (Nat × Node Nat)
  /-- How many parts the tree has. -/
  size : Nat

namespace Document

/-- The document of a tree with names. -/
def ofNode? (n : Node String) : Except Error Document := do
  let (root, _) ← n.numbered.run []
  return ⟨root, root.anchored.reverse, root.partCount⟩

/-- The node that a number means. -/
def anchor? (d : Document) (n : Nat) : Option (Node Nat) := OrderedMap.find? d.anchors n

/-- The node itself, or the one that an alias mentions. -/
def target? (d : Document) : Node Nat → Option (Node Nat)
  | .alias n => d.anchor? n
  | node => some node

end Document

/-- Reads a text with one document at most; `none` if there is none. -/
def document? (text : String) : Except Error (Option Document) := do
  match ← Node.ofTokens? (← tokens text) with
  | some n => return some (← Document.ofNode? n)
  | none => return none

end ApiBundle.Yaml
