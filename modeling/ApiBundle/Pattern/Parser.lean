import ApiBundle.Pattern.Expression

/-!
# Reading patterns

The text of a pattern: alternatives of rows of repeated items. An item is a literal character, a set
in brackets, a class escape, a boundary, a dot or a group; a group may be named or set flags. Sets
may be nested and combined by `&&`, `--` and `~~`. Back references and look-around do not exist.
-/

namespace ApiBundle

/-- Why a text is no pattern. -/
inductive PatternError where
  /-- A group that is not closed. -/
  | unclosedGroup
  /-- A closing parenthesis without a group. -/
  | unopenedGroup
  /-- A set that is not closed. -/
  | unclosedSet
  /-- A range whose ends are in the wrong order or are no characters. -/
  | badRange
  /-- A repetition of nothing. -/
  | nothingToRepeat
  /-- Repetition counts that cannot be read. -/
  | badCount
  /-- A backslash sequence without meaning. -/
  | badEscape
  /-- A group head that cannot be read. -/
  | badGroup
  /-- A group name that is empty, malformed or used twice. -/
  | badName
  /-- A set that would match parts of characters. -/
  | notText
  /-- A pattern that is nested too deeply. -/
  | tooDeep
  /-- A pattern too large to be used. -/
  | tooLarge
  deriving DecidableEq, Repr

/-- The wording of a failure. -/
def PatternError.message : PatternError → String
  | .unclosedGroup => "unclosed group"
  | .unopenedGroup => "unopened group"
  | .unclosedSet => "unclosed character class"
  | .badRange => "invalid character class range"
  | .nothingToRepeat => "repetition operator missing expression"
  | .badCount => "invalid repetition count"
  | .badEscape => "unrecognized escape sequence"
  | .badGroup => "unrecognized group"
  | .badName => "invalid capture group name"
  | .notText => "pattern can match invalid UTF-8"
  | .tooDeep => "pattern nested too deeply"
  | .tooLarge => "pattern too large"

namespace Pattern

/-! ## Flags -/

/-- What flags say about the items that follow. -/
structure Flags where
  /-- Letters match in either case. -/
  anyCase : Bool
  /-- The anchors match at lines. -/
  lines : Bool
  /-- The dot matches line breaks. -/
  dotAll : Bool
  /-- Carriage returns end lines as well. -/
  returns : Bool
  /-- Repetitions prefer few rounds unless they are marked. -/
  swapped : Bool
  /-- Classes are of ASCII characters only. -/
  ascii : Bool
  /-- Blanks and comments between items are skipped. -/
  spaced : Bool
  deriving DecidableEq, Repr

namespace Flags

/-- No flags. -/
def none : Flags := ⟨false, false, false, false, false, false, false⟩

/-- Sets the flag of a letter. -/
def set? (flags : Flags) (letter : Char) (value : Bool) : Option Flags :=
  match letter with
  | 'i' => some { flags with anyCase := value }
  | 'm' => some { flags with lines := value }
  | 's' => some { flags with dotAll := value }
  | 'R' => some { flags with returns := value }
  | 'U' => some { flags with swapped := value }
  | 'u' => some { flags with ascii := !value }
  | 'x' => some { flags with spaced := value }
  | _ => .none

/-- Skips blanks and comments where the flags say so. -/
def skip (flags : Flags) (cs : List Char) : List Char :=
  if flags.spaced then go cs.length cs else cs
where
  /-- Skips runs of blanks and comments in turn. -/
  go (fuel : Nat) (cs : List Char) : List Char :=
    match fuel, Text.trimStart cs with
    | fuel + 1, '#' :: rest => go fuel (rest.dropWhile (· ≠ '\n'))
    | _, cs => cs

/-- A set in all cases, if the flags say so. -/
def fold (flags : Flags) (s : CharSet) : CharSet :=
  if !flags.anyCase then s
  else if flags.ascii then s.union s.ascii.anyCase.ascii
  else s.anyCase

/-- All characters that are not in a set; among octets where only ASCII counts. -/
def complement (flags : Flags) (s : CharSet) : CharSet :=
  if flags.ascii then (CharSet.range '\x00' '\u00ff').without s else s.complement

/-- A set, unless it would match octets that are no characters. -/
def checked (flags : Flags) (s : CharSet) : Except PatternError CharSet :=
  if flags.ascii && !s.isAscii then .error .notText else .ok s

/-- A class, which may be the class of all others. -/
def perhapsNot (flags : Flags) (negated : Bool) (s : CharSet) : CharSet :=
  if negated then flags.complement s else s

/-- A class that an escape names: digits, words or blanks. -/
def escaped (flags : Flags) (negated : Bool) (s : CharSet) : Except PatternError CharSet :=
  flags.checked (flags.perhapsNot negated (if flags.ascii then s.ascii else s))

/-- The set that a dot means. -/
def dot (flags : Flags) : Except PatternError CharSet :=
  flags.checked (flags.complement (
    if flags.dotAll then .none
    else if flags.returns then .union (.one '\r') (.one '\n')
    else .one '\n'))

/-- The place that `^` means. -/
def start (flags : Flags) : Boundary :=
  if flags.lines then .lineStart flags.returns else .textStart

/-- The place that `$` means. -/
def stop (flags : Flags) : Boundary := if flags.lines then .lineEnd flags.returns else .textEnd

/-- A literal character. -/
def literal (flags : Flags) (c : Char) : Expression :=
  let s := if flags.ascii && 127 < c.toNat then .one c else flags.fold (.one c)
  if s = .one c then .literal c else .set s 0

end Flags

/-! ## Escapes -/

/-- The value of a hexadecimal digit. -/
def hexValue? (c : Char) : Option Nat :=
  if '0' ≤ c ∧ c ≤ '9' then some (c.toNat - 48)
  else if 'a' ≤ c ∧ c ≤ 'f' then some (c.toNat - 87)
  else if 'A' ≤ c ∧ c ≤ 'F' then some (c.toNat - 55)
  else none

/-- The character of a number. -/
def charOf (n : Nat) : Except PatternError Char :=
  if n.isValidChar then .ok (Char.ofNat n) else .error .badEscape

/-- Reads exactly `width` hexadecimal digits. -/
def readHexDigits (flags : Flags) (n : Nat) (cs : List Char) (width : Nat) :
    Except PatternError (Nat × List Char) :=
  match width, cs with
  | 0, cs => .ok (n, cs)
  | _ + 1, [] => .error .badEscape
  | width + 1, c :: rest =>
    match hexValue? c with
    | some d => readHexDigits flags (n * 16 + d) (flags.skip rest) width
    | none => .error .badEscape

/-- Reads hexadecimal digits up to a closing brace; there must be one at least. -/
def readHexBraces (flags : Flags) (n : Option Nat) (cs : List Char) (fuel : Nat) :
    Except PatternError (Nat × List Char) :=
  match fuel, flags.skip cs with
  | _ + 1, '\x7d' :: rest =>
    match n with
    | some n => .ok (n, flags.skip rest)
    | none => .error .badEscape
  | fuel + 1, c :: rest =>
    match hexValue? c with
    | some d => readHexBraces flags (some (n.getD 0 * 16 + d)) rest fuel
    | none => .error .badEscape
  | _, _ => .error .badEscape

/-- Reads a character written in hexadecimal: in braces, or with exactly `width` digits. -/
def readHex (flags : Flags) (width : Nat) (cs : List Char) :
    Except PatternError (Char × List Char) := do
  let (n, rest) ← match flags.skip cs with
    | '\x7b' :: rest => readHexBraces flags none rest (rest.length + 1)
    | cs => do
      let (n, rest) ← readHexDigits flags 0 cs width
      if flags.ascii && width = 2 && 127 < n then throw .notText
      pure (n, rest)
  return (← charOf n, rest)

/-- What an escape stands for. -/
inductive Escape where
  /-- A character. -/
  | char (c : Char)
  /-- A class of characters. -/
  | set (s : CharSet)
  /-- A boundary. -/
  | boundary (b : Boundary)

/-- A letter or hyphen of the name of a word's edge. -/
def isEdgeChar (c : Char) : Bool := c.isAlpha || c = '-'

/-- The edge of a word that has a name. -/
def namedEdge? (name : List Char) : Option WordEdge :=
  if name = "start".toList then some .start
  else if name = "end".toList then some .stop
  else if name = "start-half".toList then some .startHalf
  else if name = "end-half".toList then some .stopHalf
  else none

/-- Reads a name in letters and hyphens up to a closing brace. -/
def readEdgeName (flags : Flags) (name : List Char) (cs : List Char) (fuel : Nat) :
    Except PatternError (List Char × List Char) :=
  match fuel, flags.skip cs with
  | _ + 1, '\x7d' :: rest => .ok (name.reverse, rest)
  | fuel + 1, c :: rest =>
    if isEdgeChar c then readEdgeName flags (c :: name) rest fuel else .error .badEscape
  | _, _ => .error .badEscape

/-- Reads which edge of a word is meant, where it is named in braces. -/
def readEdge (flags : Flags) (cs : List Char) : Except PatternError (WordEdge × List Char) :=
  match cs with
  | '\x7b' :: rest =>
    match (flags.skip rest).head? with
    | none => .error .badEscape
    | some c =>
      if isEdgeChar c then do
        let (name, rest) ← readEdgeName flags [] rest (rest.length + 1)
        match namedEdge? name with
        | some edge => return (edge, rest)
        | none => throw .badEscape
      else .ok (.any, cs)
  | cs => .ok (.any, cs)

/-- Reads an escape after its backslash. -/
def readEscape (flags : Flags) (cs : List Char) : Except PatternError (Escape × List Char) :=
  match cs with
  | [] => .error .badEscape
  | c :: rest =>
    let class_ (negated : Bool) (s : CharSet) : Except PatternError (Escape × List Char) := do
      return (.set (← flags.escaped negated s), rest)
    let hex (width : Nat) : Except PatternError (Escape × List Char) := do
      let (c, rest) ← readHex flags width rest
      return (.char c, rest)
    match c with
    | 'd' => class_ false .digits
    | 'D' => class_ true .digits
    | 'w' => class_ false .word
    | 'W' => class_ true .word
    | 's' => class_ false .blanks
    | 'S' => class_ true .blanks
    | 'b' => do
      let (edge, rest) ← readEdge flags rest
      return (.boundary (.word edge flags.ascii), rest)
    | 'B' => .ok (.boundary (.word .notAny flags.ascii), rest)
    | '<' => .ok (.boundary (.word .start flags.ascii), rest)
    | '>' => .ok (.boundary (.word .stop flags.ascii), rest)
    | 'A' => .ok (.boundary .textStart, rest)
    | 'z' => .ok (.boundary .textEnd, rest)
    | 'a' => .ok (.char '\x07', rest)
    | 'f' => .ok (.char '\x0c', rest)
    | 'v' => .ok (.char '\x0b', rest)
    | 't' => .ok (.char '\t', rest)
    | 'n' => .ok (.char '\n', rest)
    | 'r' => .ok (.char '\r', rest)
    | 'x' => hex 2
    | 'u' => hex 4
    | 'U' => hex 8
    | c => if c.toNat < 128 && !c.isAlphanum then .ok (.char c, rest) else .error .badEscape

/-! ## Sets -/

/-- A set, and how deep the brackets in its text are nested. -/
structure NestedSet where
  /-- The set. -/
  set : CharSet
  /-- How deep the brackets are nested. -/
  nesting : Nat

namespace NestedSet

/-- The set without brackets in its text. -/
def flat (s : CharSet) : NestedSet := ⟨s, 0⟩

/-- The set of several items. -/
def ofItems : List NestedSet → NestedSet
  | [] => flat .none
  | [s] => s
  | items => ⟨.unions (items.map set), (items.map nesting).foldl max 0 + 1⟩

end NestedSet

/-- How two sets are combined. -/
inductive SetOperator where
  /-- In both. -/
  | both
  /-- In the first only. -/
  | without
  /-- In exactly one. -/
  | either

/-- The combination of two sets. -/
def SetOperator.apply : SetOperator → CharSet → CharSet → CharSet
  | both, s, t => s.inter t
  | without, s, t => s.without t
  | either, s, t => s.either t

/-- Combines what stands before an operator with the items after it. -/
def combine (flags : Flags) (pending : Option (SetOperator × NestedSet))
    (items : List NestedSet) : NestedSet :=
  let right := NestedSet.ofItems items
  match pending with
  | none => right
  | some (op, left) =>
    ⟨op.apply (flags.fold left.set) (flags.fold right.set), max left.nesting right.nesting + 1⟩

/-- Reads a named class after its opening bracket and colon, if it is one. -/
def readNamed? (flags : Flags) (cs : List Char) : Option (CharSet × List Char) :=
  let (negated, cs) := match cs with
    | '^' :: cs => (true, cs)
    | cs => (false, cs)
  match cs.dropWhile (· ≠ ':') with
  | ':' :: ']' :: rest =>
    (CharSet.named? (String.ofList (cs.takeWhile (· ≠ ':')))).map fun s =>
      (flags.perhapsNot negated s, rest)
  | _ => none

/-- Reads one end of a range, or a class. -/
def readSetItem (flags : Flags) (cs : List Char) : Except PatternError (Escape × List Char) :=
  let literal (c : Char) (rest : List Char) : Except PatternError (Escape × List Char) :=
    if flags.ascii && 127 < c.toNat then .error .notText else .ok (.char c, rest)
  match cs with
  | '\\' :: rest => do
    match ← readEscape flags rest with
    | (.boundary _, _) => throw .badEscape
    | (.char c, rest) => literal c rest
    | item => return item
  | c :: rest => literal c rest
  | [] => .error .unclosedSet

/-- What follows the hyphen of a range; a hyphen before a bracket or another hyphen makes none. -/
def afterRangeHyphen? (flags : Flags) (cs : List Char) : Option (List Char) :=
  match cs with
  | '-' :: rest =>
    let rest := flags.skip rest
    if rest.head? = some ']' || rest.head? = some '-' then none else some rest
  | _ => none

/-- Reads a character, a class or a range. -/
def readSetRange (flags : Flags) (cs : List Char) : Except PatternError (CharSet × List Char) := do
  let (item, rest) ← readSetItem flags cs
  let rest := flags.skip rest
  match item, afterRangeHyphen? flags rest with
  | .char low, some rest =>
    match ← readSetItem flags rest with
    | (.char high, rest) => if low ≤ high then return (.range low high, rest) else throw .badRange
    | _ => throw .badRange
  | .char c, none => return (.one c, rest)
  | .set s, none => return (s, rest)
  | _, _ => throw .badRange

/-- Reads the hyphens that a set may start with. -/
def leadingHyphens (flags : Flags) (cs : List Char) (fuel : Nat) : List NestedSet × List Char :=
  match fuel, cs with
  | fuel + 1, '-' :: rest =>
    let (items, rest) := leadingHyphens flags (flags.skip rest) fuel
    (.flat (.one '-') :: items, rest)
  | _, cs => ([], cs)

/-- Reads a set after its opening bracket. -/
def readSet (flags : Flags) (fuel : Nat) (cs : List Char) :
    Except PatternError (NestedSet × List Char) :=
  match fuel with
  | 0 => .error .unclosedSet
  | fuel + 1 => do
    let (negated, cs) := match flags.skip cs with
      | '^' :: cs => (true, flags.skip cs)
      | cs => (false, cs)
    let (first, cs) := match leadingHyphens flags cs cs.length with
      | ([], ']' :: rest) => ([.flat (.one ']')], rest)
      | (hyphens, rest) => (hyphens, rest)
    let (s, rest) ← readSetItems flags fuel first none cs
    let whole ← flags.checked (flags.perhapsNot negated (flags.fold s.set))
    return (⟨whole, s.nesting + 1⟩, rest)
where
  /-- Reads items up to the closing bracket; `items` are those since the last operator. -/
  readSetItems (flags : Flags) (fuel : Nat) (items : List NestedSet)
      (pending : Option (SetOperator × NestedSet)) (cs : List Char) :
      Except PatternError (NestedSet × List Char) :=
    match fuel with
    | 0 => .error .unclosedSet
    | fuel + 1 =>
      let operator (op : SetOperator) (rest : List Char) :=
        readSetItems flags fuel [] (some (op, combine flags pending items)) rest
      match flags.skip cs with
      | [] => .error .unclosedSet
      | ']' :: rest => .ok (combine flags pending items, rest)
      | '&' :: '&' :: rest => operator .both rest
      | '-' :: '-' :: rest => operator .without rest
      | '~' :: '~' :: rest => operator .either rest
      | '[' :: rest => do
        let named := match rest with
          | ':' :: rest => readNamed? flags rest
          | _ => none
        match named with
        | some (s, rest) => readSetItems flags fuel (.flat s :: items) pending rest
        | none =>
          let (s, rest) ← readSet flags fuel rest
          readSetItems flags fuel (s :: items) pending rest
      | cs => do
        let (s, rest) ← readSetRange flags cs
        readSetItems flags fuel (.flat s :: items) pending rest

/-! ## Counts -/

/-- Reads decimal digits; `none` without any. -/
def readDigits (flags : Flags) (n : Option Nat) (cs : List Char) (fuel : Nat) :
    Option Nat × List Char :=
  match fuel, cs with
  | fuel + 1, c :: rest =>
    if c.isDigit then
      readDigits flags (some (n.getD 0 * 10 + (c.toNat - 48))) (flags.skip rest) fuel
    else (n, cs)
  | _, cs => (n, cs)

/-- Reads a count of 32 bits, with blanks around it. -/
def readCount (flags : Flags) (cs : List Char) : Except PatternError (Nat × List Char) :=
  let cs := Text.trimStart cs
  match readDigits flags none cs cs.length with
  | (some n, rest) => if n < Nat.pow 2 32 then .ok (n, Text.trimStart rest) else .error .badCount
  | (none, _) => .error .badCount

/-- Reads the least and greatest count after an opening brace. -/
def readCounts (flags : Flags) (cs : List Char) :
    Except PatternError ((Nat × Option Nat) × List Char) := do
  let (low, rest) ← readCount flags (flags.skip cs)
  match rest with
  | '\x7d' :: rest => return ((low, some low), flags.skip rest)
  | ',' :: rest =>
    match flags.skip rest with
    | '\x7d' :: rest => return ((low, none), flags.skip rest)
    | rest =>
      let (high, rest) ← readCount flags rest
      match rest with
      | '\x7d' :: rest =>
        if low ≤ high then return ((low, some high), flags.skip rest) else throw .badCount
      | _ => throw .badCount
  | _ => throw .badCount

/-! ## Groups -/

/-- What is known between two items. -/
structure Context where
  /-- The flags in force. -/
  flags : Flags
  /-- The group names used so far. -/
  names : List String
  /-- How many groups there are so far. -/
  groups : Nat

/-- No flags, names and groups. -/
def Context.start : Context := ⟨.none, [], 0⟩

/-- Reads flag letters up to a colon or a closing parenthesis; tells which of the two it was. -/
def readFlags (flags : Flags) (value : Bool) (seen : List Char) (cs : List Char) :
    Except PatternError (Flags × Bool × List Char) :=
  match cs with
  | [] => .error .badGroup
  | ':' :: rest => if seen.head? = some '-' then .error .badGroup else .ok (flags, true, rest)
  | ')' :: rest =>
    if seen.isEmpty || seen.head? = some '-' then .error .badGroup else .ok (flags, false, rest)
  | c :: rest =>
    if seen.contains c then .error .badGroup
    else if c = '-' then readFlags flags false (c :: seen) rest
    else
      match flags.set? c value with
      | some flags => readFlags flags value (c :: seen) rest
      | none => .error .badGroup

/-- Whether a text can name a group. -/
def isName (cs : List Char) : Bool :=
  match cs with
  | [] => false
  | c :: cs =>
    (c = '_' || Text.isAlphabetic c) &&
      cs.all fun c => "_.[]".toList.contains c || Text.isAlphanumeric c

/-- What a group head says. -/
inductive GroupHead where
  /-- A group under a context, with its number if it captures. -/
  | group (number : Option Nat) (context : Context)
  /-- Flags for the rest of the enclosing group. -/
  | flags (flags : Flags)

/-- Reads the head of a group after its opening parenthesis. -/
def readGroupHead (context : Context) (cs : List Char) :
    Except PatternError (GroupHead × List Char) :=
  let number := context.groups + 1
  let named (cs : List Char) : Except PatternError (GroupHead × List Char) :=
    let name := cs.takeWhile (· ≠ '>')
    let text := String.ofList name
    match cs.dropWhile (· ≠ '>') with
    | _ :: rest =>
      if isName name && !context.names.contains text then
        let names := text :: context.names
        .ok (.group (some number) { context with names := names, groups := number }, rest)
      else .error .badName
    | [] => .error .badName
  match context.flags.skip cs with
  | '?' :: '<' :: '=' :: _ | '?' :: '<' :: '!' :: _ => .error .badGroup
  | '?' :: 'P' :: '<' :: cs | '?' :: '<' :: cs => named cs
  | '?' :: cs => do
    let (flags, opens, rest) ← readFlags context.flags true [] cs
    if opens then return (.group none { context with flags := flags }, rest)
    else return (.flags flags, rest)
  | cs => .ok (.group (some number) { context with groups := number }, cs)

/-! ## The whole text -/

/-- Whether an item can be repeated. -/
def isRepeatable : Expression → Bool
  | .flags => false
  | _ => true

/-- Adds a row to the alternatives before it; both have the last part first. -/
def closeRow (done items : List Expression) : List Expression :=
  Expression.ofRow items.reverse :: done

/-- Reads the mark that swaps the preference of a repetition. -/
def cutLazy : List Char → Bool × List Char
  | '?' :: rest => (true, rest)
  | cs => (false, cs)

/--
Reads alternatives up to a closing parenthesis or the end. `done` are the alternatives before and
`items` the items of the current one, last one first.
-/
def readAlternatives (fuel : Nat) (context : Context) (done items : List Expression)
    (cs : List Char) : Except PatternError (Expression × Context × List Char) :=
  match fuel with
  | 0 => .error .tooDeep
  | fuel + 1 =>
    let flags := context.flags
    let item (e : Expression) (rest : List Char) :=
      readAlternatives fuel context done (e :: items) rest
    let again (low : Nat) (high : Option Nat) (rest : List Char) :=
      match items with
      | e :: before =>
        if isRepeatable e then
          let (isLazy, rest) := cutLazy rest
          let e := Expression.repeated e low high (isLazy == flags.swapped)
          readAlternatives fuel context done (e :: before) rest
        else .error .nothingToRepeat
      | [] => .error .nothingToRepeat
    match flags.skip cs with
    | [] => .ok (.ofAlternatives (closeRow done items).reverse, context, [])
    | ')' :: rest =>
      .ok (.ofAlternatives (closeRow done items).reverse, context, ')' :: rest)
    | '|' :: rest => readAlternatives fuel context (closeRow done items) [] rest
    | '?' :: rest => again 0 (some 1) rest
    | '*' :: rest => again 0 none rest
    | '+' :: rest => again 1 none rest
    | '\x7b' :: rest => do
      let ((low, high), rest) ← readCounts flags rest
      again low high rest
    | '(' :: rest => do
      match ← readGroupHead context rest with
      | (.flags flags, rest) =>
        readAlternatives fuel { context with flags := flags } done (.flags :: items) rest
      | (.group number inner, rest) =>
        let (e, inner, rest) ← readAlternatives fuel inner [] [] rest
        match rest with
        | ')' :: rest =>
          let context := { inner with flags := flags }
          readAlternatives fuel context done (.group number e :: items) rest
        | _ => throw .unclosedGroup
    | '[' :: rest => do
      let (s, rest) ← readSet flags (2 * rest.length + 2) rest
      item (.set s.set s.nesting) rest
    | '.' :: rest => do item (.set (← flags.dot) 0) rest
    | '^' :: rest => item (.boundary flags.start) rest
    | '$' :: rest => item (.boundary flags.stop) rest
    | '\\' :: rest => do
      match ← readEscape flags rest with
      | (.char c, rest) => item (flags.literal c) rest
      | (.set s, rest) => item (.set s 0) rest
      | (.boundary b, rest) => item (.boundary b) rest
    | c :: rest => item (flags.literal c) rest

/-- Reads the text of a pattern. -/
def Expression.parse (text : String) : Except PatternError Expression := do
  let cs := text.toList
  let (e, _, rest) ← readAlternatives (2 * cs.length + 2) .start [] [] cs
  match rest with
  | [] => if nestingLimit < e.nesting then throw .tooDeep else return e
  | _ => throw .unopenedGroup

end Pattern

end ApiBundle
