import ApiBundle.Yaml.Token

/-!
# YAML scalars as tokens

Reading the text of a scalar in each of its styles. A reader starts behind the mark that opens the
scalar and gives its text, what follows it, and the place reached.

In quoted and plain scalars a run of spacing between other characters is folded (`Gap.text`): blanks
without a break are kept; one line feed becomes a space; of more breaks all but the first are kept.
-/

namespace ApiBundle.Yaml

/-- A scalar that has been read: its text, and where reading goes on. -/
structure ScalarEnd where
  /-- The text. -/
  text : List Char
  /-- What follows. -/
  rest : List Char
  /-- The place of what follows. -/
  place : Place

/-! ## Folding -/

/-- Spacing read since the last other character. -/
structure Gap where
  /-- The blanks before any break. -/
  blanks : List Char
  /-- The first break; an escaped one leaves none. -/
  first : Option Char
  /-- The further breaks. -/
  further : List Char
  /-- Whether there was a break. -/
  broken : Bool
  deriving DecidableEq, Repr

namespace Gap

/-- No spacing. -/
def none : Gap := ⟨[], .none, [], false⟩

/-- An escaped break. -/
def escaped : Gap := ⟨[], .none, [], true⟩

/-- Whether there is no spacing. -/
def isNone (g : Gap) : Bool := g.blanks.isEmpty && !g.broken

/-- One more character of spacing. -/
def add (g : Gap) (c : Char) : Gap :=
  if isBreak c then
    if g.broken then { g with further := g.further ++ [c] } else ⟨[], some c, [], true⟩
  else if g.broken then g
  else { g with blanks := g.blanks ++ [c] }

/-- What the spacing contributes to the scalar. -/
def text (g : Gap) : List Char :=
  if !g.broken then g.blanks
  else
    match g.first with
    | some '\n' => if g.further.isEmpty then [' '] else g.further
    | first => first.toList ++ g.further

end Gap

/-! ## Quoted scalars -/

/-- Reads a scalar between single quotes. `read` is the text so far, last character first. -/
def singleQuoted (read : List Char) (gap : Gap) (at_ : Place) :
    List Char → Except Error ScalarEnd
  | [] => .error (.malformed "quoted scalar" at_)
  | c :: rest =>
    if at_.column = 0 && atDocumentMark (c :: rest) then .error (.malformed "quoted scalar" at_)
    else if isSpacing c then singleQuoted read (gap.add c) (at_.after c) rest
    else
      let read := gap.text.reverse ++ read
      match c, rest with
      | '\'', '\'' :: rest =>
        singleQuoted ('\'' :: read) .none ((at_.after '\'').after '\'') rest
      | '\'', rest => .ok ⟨read.reverse, rest, at_.after '\''⟩
      | c, rest => singleQuoted (c :: read) .none (at_.after c) rest

/-- What an escape of one character means. -/
def simpleEscape? (c : Char) : Option Char :=
  match c with
  | '0' => some '\x00'
  | 'a' => some '\x07'
  | 'b' => some '\x08'
  | 't' | '\t' => some '\t'
  | 'n' => some '\n'
  | 'v' => some '\x0b'
  | 'f' => some '\x0c'
  | 'r' => some '\r'
  | 'e' => some '\x1b'
  | ' ' => some ' '
  | '"' => some '"'
  | '/' => some '/'
  | '\\' => some '\\'
  | 'N' => some '\u0085'
  | '_' => some '\u00a0'
  | 'L' => some '\u2028'
  | 'P' => some '\u2029'
  | _ => none

/-- How many hexadecimal digits an escape takes. -/
def escapeLength? (c : Char) : Option Nat :=
  match c with
  | 'x' => some 2
  | 'u' => some 4
  | 'U' => some 8
  | _ => none

/-- The value of a hexadecimal digit. -/
def hexValue? (c : Char) : Option Nat :=
  if '0' ≤ c ∧ c ≤ '9' then some (c.toNat - 48)
  else if 'a' ≤ c ∧ c ≤ 'f' then some (c.toNat - 87)
  else if 'A' ≤ c ∧ c ≤ 'F' then some (c.toNat - 55)
  else none

/-- The number written by hexadecimal digits. -/
def hexNumber? (digits : List Char) : Option Nat :=
  digits.foldl (fun n d => do return (← n) * 16 + (← hexValue? d)) (some 0)

/-- The character of a code point; half a surrogate pair is none. -/
def charOf? (n : Nat) : Option Char :=
  if (0xD800 ≤ n && n ≤ 0xDFFF) || 0x10FFFF < n then none else some (Char.ofNat n)

/--
Reads an escape behind its backslash, other than an escaped break: the character, and how many
characters the escape takes.
-/
def escape? (cs : List Char) : Option (Char × Nat) :=
  match cs with
  | [] => none
  | c :: rest =>
    match simpleEscape? c, escapeLength? c with
    | some x, _ => some (x, 1)
    | none, some n =>
      if (rest.take n).length = n then
        ((hexNumber? (rest.take n)).bind charOf?).map fun x => (x, n + 1)
      else none
    | none, none => none

/--
Reads a scalar between double quotes. `skip` counts the characters of an escape that are still to be
passed over.
-/
def doubleQuoted (read : List Char) (gap : Gap) (skip : Nat) (at_ : Place) :
    List Char → Except Error ScalarEnd
  | [] => .error (.malformed "quoted scalar" at_)
  | c :: rest =>
    match skip with
    | skip + 1 => doubleQuoted read gap skip (at_.after c) rest
    | 0 =>
      if at_.column = 0 && atDocumentMark (c :: rest) then
        .error (.malformed "quoted scalar" at_)
      else if isSpacing c then doubleQuoted read (gap.add c) 0 (at_.after c) rest
      else
        let read := gap.text.reverse ++ read
        if c = '"' then .ok ⟨read.reverse, rest, at_.after c⟩
        else if c ≠ '\\' then doubleQuoted (c :: read) .none 0 (at_.after c) rest
        else if rest.head?.any isBreak then doubleQuoted read .escaped 1 (at_.after c) rest
        else
          match escape? rest with
          | some (x, length) => doubleQuoted (x :: read) .none length (at_.after c) rest
          | none => .error (.malformed "escape" at_)

/-! ## Plain scalars -/

/-- Where a plain scalar stands. -/
structure PlainContext where
  /-- Whether it is inside brackets or braces. -/
  inFlow : Bool
  /-- The column that its further lines must reach. -/
  indent : Nat

/-- A plain scalar that has been read: also whether a break follows it. -/
structure PlainEnd extends ScalarEnd where
  /-- Whether the spacing behind it holds a break. -/
  broken : Bool

/-- Whether a plain scalar stops before a character that follows spacing. -/
def plainStopsAfterGap (k : PlainContext) (at_ : Place) (cs : List Char) : Bool :=
  (!k.inFlow && at_.column < k.indent) || cs.head? = some '#'

/-- Whether a plain scalar stops before a colon or indicator. -/
def plainStops (k : PlainContext) (c : Char) (rest : List Char) : Bool :=
  (c = ':' && atSpacing rest) || (k.inFlow && isFlowIndicator c)

/-- A colon that is no good inside brackets and braces. -/
def badColon (k : PlainContext) (c : Char) (rest : List Char) : Bool :=
  k.inFlow && c = ':' && rest.head?.any fun d => isFlowIndicator d || d = '?'

/-- Reads a plain scalar. -/
def plain (k : PlainContext) (read : List Char) (gap : Gap) (at_ : Place) :
    List Char → Except Error PlainEnd
  | [] => .ok ⟨⟨read.reverse, [], at_⟩, gap.broken⟩
  | c :: rest =>
    let stop : PlainEnd := ⟨⟨read.reverse, c :: rest, at_⟩, gap.broken⟩
    if isSpacing c then
      if gap.broken && at_.column < k.indent && c = '\t' then .error (.misplaced "a tab" at_)
      else plain k read (gap.add c) (at_.after c) rest
    else if !gap.isNone && plainStopsAfterGap k at_ (c :: rest) then .ok stop
    else if at_.column = 0 && atDocumentMark (c :: rest) then .ok stop
    else if badColon k c rest then .error (.misplaced "a colon" at_)
    else if plainStops k c rest then .ok stop
    else plain k (c :: (gap.text.reverse ++ read)) .none (at_.after c) rest

/-! ## Block scalars -/

/-- What becomes of the breaks at the end of a block scalar. -/
inductive Chomping where
  /-- The first is kept. -/
  | clip
  /-- None is kept. -/
  | strip
  /-- All are kept. -/
  | keep
  deriving DecidableEq, Repr

/-- The header of a block scalar. -/
structure BlockHeader where
  /-- Whether lines are joined. -/
  folds : Bool
  /-- What becomes of the last breaks. -/
  chomping : Chomping
  /-- The indentation beyond the surrounding block, if it is given. -/
  increment : Option Nat

/-- The chomping that a mark stands for. -/
def chomping? (c : Char) : Option Chomping :=
  if c = '+' then some .keep else if c = '-' then some .strip else none

/-- Reads the marks behind the bar or angle: chomping and indentation in either order. -/
def blockMarks (folds : Bool) (cs : List Char) : Option (BlockHeader × List Char) :=
  let digit? (cs : List Char) : Option (Option Nat × List Char) :=
    match cs with
    | '0' :: _ => none
    | d :: rest => if d.isDigit then some (some (d.toNat - 48), rest) else some (none, d :: rest)
    | [] => some (none, [])
  match cs.head?.bind chomping? with
  | some chomping => (digit? cs.tail).map fun (n, rest) => (⟨folds, chomping, n⟩, rest)
  | none =>
    match digit? cs with
    | none => none
    | some (none, rest) => some (⟨folds, .clip, none⟩, rest)
    | some (some n, rest) =>
      match rest.head?.bind chomping? with
      | some chomping => some (⟨folds, chomping, some n⟩, rest.tail)
      | none => some (⟨folds, .clip, some n⟩, rest)

/-- A block scalar that is being read. -/
structure BlockState where
  /-- The indentation, once it is known. -/
  indent : Option Nat
  /-- The widest indentation before the first line that is not empty. -/
  widest : Nat
  /-- The text so far, last character first. -/
  read : List Char
  /-- The break after the last line that is not empty. -/
  ending : List Char
  /-- The breaks of empty lines after it. -/
  further : List Char
  /-- Whether the last line that is not empty starts with a blank. -/
  indented : Bool
  /-- Whether a line is under way. -/
  inLine : Bool

/-- Whether a space still belongs to the indentation. -/
def BlockState.inMargin (s : BlockState) (column : Nat) : Bool := s.indent.all (column < ·)

/-- The indentation of a block scalar in a block of the given indentation. -/
def BlockState.settled (s : BlockState) (least : Nat) : Nat := s.indent.getD (max s.widest least)

/-- Begins a line that starts with the character `c`. -/
def BlockState.beginLine (s : BlockState) (folds : Bool) (indent : Nat) (c : Char) : BlockState :=
  let blank := isBlank c
  let joined :=
    if folds && s.ending.head? = some '\n' && !s.indented && !blank then
      if s.further.isEmpty then [' '] else []
    else s.ending
  let read := c :: (s.further.reverse ++ (joined.reverse ++ s.read))
  ⟨some indent, s.widest, read, [], [], blank, true⟩

/-- The text of a block scalar at its end. -/
def BlockState.finish (s : BlockState) (chomping : Chomping) : List Char :=
  let tail := match chomping with
    | .strip => []
    | .clip => s.ending
    | .keep => s.ending ++ s.further
  s.read.reverse ++ tail

/-- Reads the lines of a block scalar; `least` is the least indentation that they may have. -/
def blockLines (h : BlockHeader) (least : Nat) (s : BlockState) (at_ : Place) :
    List Char → Except Error ScalarEnd
  | [] => .ok ⟨s.finish h.chomping, [], at_⟩
  | c :: rest =>
    if s.inLine then
      if isBreak c then
        blockLines h least { s with ending := [c], inLine := false } (at_.after c) rest
      else blockLines h least { s with read := c :: s.read } (at_.after c) rest
    else if c = ' ' && s.inMargin at_.column then blockLines h least s (at_.after c) rest
    else
      let s := { s with widest := max s.widest at_.column }
      if c = '\t' && s.inMargin at_.column then .error (.misplaced "a tab" at_)
      else if isBreak c then
        blockLines h least { s with further := s.further ++ [c] } (at_.after c) rest
      else
        let indent := s.settled least
        if at_.column = indent then
          blockLines h least (s.beginLine h.folds indent c) (at_.after c) rest
        else .ok ⟨s.finish h.chomping, c :: rest, at_⟩

/-- Skips blanks. -/
def skipBlanks (at_ : Place) : List Char → List Char × Place
  | [] => ([], at_)
  | c :: rest => if isBlank c then skipBlanks (at_.after c) rest else (c :: rest, at_)

/-- Skips a comment, if there is one: everything up to the break. -/
def skipComment (at_ : Place) (cs : List Char) : List Char × Place :=
  if cs.head? = some '#' then
    (cs.dropWhile (!isBreak ·), at_.afterAll (cs.takeWhile (!isBreak ·)))
  else (cs, at_)

/-- Skips what may follow on a line: blanks and a comment, then the break. -/
def skipLineEnd? (at_ : Place) (cs : List Char) : Option (List Char × Place) :=
  let (cs, at_) := skipBlanks at_ cs
  let (cs, at_) := skipComment at_ cs
  match cs with
  | [] => some ([], at_)
  | c :: rest => if isBreak c then some (rest, at_.after c) else none

/--
Reads a block scalar behind its bar or angle. `parent` is the indentation of the block around it, if
there is one.
-/
def block (folds : Bool) (parent : Option Nat) (at_ : Place) (cs : List Char) :
    Except Error ScalarEnd :=
  match blockMarks folds cs with
  | none => .error (.malformed "block scalar" at_)
  | some (header, rest) =>
    let at_ := at_.afterAll (cs.take (cs.length - rest.length))
    match skipLineEnd? at_ rest with
    | none => .error (.malformed "block scalar" at_)
    | some (rest, at_) =>
      let least := match parent with
        | some n => n + 1
        | none => 1
      let indent := header.increment.map (parent.getD 0 + ·)
      blockLines header least ⟨indent, 0, [], [], [], false, false⟩ at_ rest

end ApiBundle.Yaml
