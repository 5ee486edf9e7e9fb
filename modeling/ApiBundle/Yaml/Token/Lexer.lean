import ApiBundle.Yaml.Token.Scalar
import ApiBundle.Text.Utf8

/-!
# Reading YAML tokens

The tokens of a text. Outside brackets and braces the indentation of lines opens and closes
collections. A mapping key is known as one only when its colon is found: wherever a key might start
the reader takes a note (`KeyNote`), and the colon puts the token `key` back at that place. A note
is dropped once the line or 1024 octets have passed; it is an error to drop one where the
indentation leaves nothing but a key.
-/

namespace ApiBundle.Yaml

/-- A place where a key may have started. -/
structure KeyNote where
  /-- Whether nothing but a key can stand here. -/
  required : Bool
  /-- How many tokens come before it. -/
  before : Nat
  /-- Where it starts. -/
  place : Place

/-- A text whose tokens are being read. -/
structure Lexer where
  /-- What has not been read. -/
  rest : List Char
  /-- The place of what has not been read. -/
  place : Place
  /-- The tokens, last one first. -/
  tokens : List Token
  /-- How many tokens there are. -/
  count : Nat
  /-- The columns of the open blocks, innermost first. -/
  indents : List Nat
  /-- The notes of the open brackets and braces, innermost first. -/
  notes : List (Option KeyNote)
  /-- The note outside the innermost bracket or brace. -/
  note : Option KeyNote
  /-- Whether a key may start here. -/
  keyAllowed : Bool

namespace Lexer

/-- The start of a text. -/
def start (cs : List Char) : Lexer := ⟨cs, ⟨0, 0, 0⟩, [], 0, [], [], none, true⟩

/-- Whether a bracket or brace is open. -/
def inFlow (s : Lexer) : Bool := !s.notes.isEmpty

/-- The column of the innermost block. -/
def indent? (s : Lexer) : Option Nat := s.indents.head?

/-- Adds a token. -/
def emit (s : Lexer) (t : Token) : Lexer := { s with tokens := t :: s.tokens, count := s.count + 1 }

/-- Passes over `n` characters. -/
def pass (s : Lexer) (n : Nat) : Lexer :=
  { s with rest := s.rest.drop n, place := s.place.afterAll (s.rest.take n) }

/-- Goes on behind a scalar. -/
def resume (s : Lexer) (e : ScalarEnd) : Lexer := { s with rest := e.rest, place := e.place }

/-- Sets whether a key may start. -/
def allowKey (s : Lexer) (allowed : Bool) : Lexer := { s with keyAllowed := allowed }

/-! ## Notes of keys -/

/-- Drops the innermost note. -/
def dropNote (s : Lexer) : Except Error Lexer :=
  match s.note with
  | some ⟨true, _, place⟩ => .error (.malformed "key" place)
  | _ => .ok { s with note := none }

/-- Notes that a key may start here. -/
def takeNote (s : Lexer) : Except Error Lexer := do
  if s.keyAllowed then
    let required := !s.inFlow && s.indent? = some s.place.column
    return { ← s.dropNote with note := some ⟨required, s.count, s.place⟩ }
  else return s

/-- How many octets may lie between the start of a key and its colon. -/
def keyReach : Nat := 1024

/-- Drops a note that lies too far back. -/
def expire (at_ : Place) (note : Option KeyNote) : Except Error (Option KeyNote) :=
  match note with
  | none => .ok none
  | some n =>
    if n.place.line < at_.line || n.place.offset + keyReach < at_.offset then
      if n.required then .error (.malformed "key" n.place) else .ok none
    else .ok note

/-- Drops all notes that lie too far back. -/
def expireAll (s : Lexer) : Except Error Lexer := do
  return { s with note := ← expire s.place s.note, notes := ← s.notes.mapM (expire s.place) }

/-! ## Indentation -/

/-- Closes the blocks that start right of a column. -/
def closeBlocks (column : Nat) (s : Lexer) : List Nat → Lexer
  | [] => { s with indents := [] }
  | n :: outer => if column < n then closeBlocks column (s.emit .blockEnd) outer
    else { s with indents := n :: outer }

/-- Closes blocks as the place demands. -/
def unindent (s : Lexer) : Lexer :=
  if s.inFlow then s else closeBlocks s.place.column s s.indents

/-- Closes all blocks. -/
def unindentAll (s : Lexer) : Lexer :=
  if s.inFlow then s
  else { s.indents.foldl (fun s _ => s.emit .blockEnd) s with indents := [] }

/-- Puts a token `back` tokens before the end. -/
def insertBack (t : Token) (back : Nat) (tokens : List Token) : List Token :=
  match back, tokens with
  | back + 1, x :: xs => x :: insertBack t back xs
  | _, xs => t :: xs

/-- Puts a token behind the first `before` tokens. -/
def insertAfter (s : Lexer) (before : Nat) (t : Token) : Lexer :=
  { s with tokens := insertBack t (s.count - before) s.tokens, count := s.count + 1 }

/-- Opens a block that starts at a column, behind the first `before` tokens, unless one is open. -/
def openBlock (s : Lexer) (column before : Nat) (t : Token) : Lexer :=
  if s.inFlow || s.indent?.any (column ≤ ·) then s
  else { s.insertAfter before t with indents := column :: s.indents }

/-! ## Between tokens -/

/--
Skips spacing and comments. A mark of byte order may start a line. Tabs may not stand where a key
may start.
-/
def skipSpacing (inFlow keyAllowed inComment : Bool) (at_ : Place) :
    List Char → List Char × Place × Bool
  | [] => ([], at_, keyAllowed)
  | c :: rest =>
    if isBreak c then skipSpacing inFlow (keyAllowed || !inFlow) false (at_.after c) rest
    else if inComment then skipSpacing inFlow keyAllowed true (at_.after c) rest
    else if c = ' ' || (c = '\t' && (inFlow || !keyAllowed)) ||
        (c = '\uFEFF' && at_.column = 0) then
      skipSpacing inFlow keyAllowed false (at_.after c) rest
    else if c = '#' then skipSpacing inFlow keyAllowed true (at_.after c) rest
    else (c :: rest, at_, keyAllowed)

/-- Goes to the next token. -/
def advance (s : Lexer) : Lexer :=
  let (rest, place, keyAllowed) := skipSpacing s.inFlow s.keyAllowed false s.place s.rest
  { s with rest := rest, place := place, keyAllowed := keyAllowed }

/-! ## Collections -/

/-- Reads an opening bracket or brace. -/
def openFlow (s : Lexer) (t : Token) : Except Error Lexer := do
  let s ← s.takeNote
  return ({ s with notes := s.note :: s.notes, note := none, keyAllowed := true }.emit t).pass 1

/-- Reads a closing bracket or brace. -/
def closeFlow (s : Lexer) (t : Token) : Except Error Lexer := do
  let s ← s.dropNote
  let s := match s.notes with
    | outer :: notes => { s with note := outer, notes := notes }
    | [] => s
  return ((s.allowKey false).emit t).pass 1

/-- Reads a comma. -/
def comma (s : Lexer) : Except Error Lexer := do
  return (((← s.dropNote).allowKey true).emit .flowEntry).pass 1

/-- Reads a hyphen before an item. -/
def hyphen (s : Lexer) : Except Error Lexer := do
  if !s.inFlow && !s.keyAllowed then throw (.misplaced "a sequence entry" s.place)
  let s := s.openBlock s.place.column s.count .blockSequenceStart
  return (((← s.dropNote).allowKey true).emit .blockEntry).pass 1

/-- Reads a question mark before a key. -/
def question (s : Lexer) : Except Error Lexer := do
  if !s.inFlow && !s.keyAllowed then throw (.misplaced "a mapping key" s.place)
  let s := s.openBlock s.place.column s.count .blockMappingStart
  return (((← s.dropNote).allowKey !s.inFlow).emit .key).pass 1

/-- Reads a colon before a value. The key before it is known as one now, if there is a note. -/
def colon (s : Lexer) : Except Error Lexer :=
  match s.note with
  | some n =>
    let s := (s.insertAfter n.before .key).openBlock n.place.column n.before .blockMappingStart
    .ok ((({ s with note := none }.allowKey false).emit .value).pass 1)
  | none =>
    if !s.inFlow && !s.keyAllowed then .error (.misplaced "a mapping value" s.place)
    else
      let s := s.openBlock s.place.column s.count .blockMappingStart
      .ok (((s.allowKey !s.inFlow).emit .value).pass 1)

/-! ## Documents -/

/-- Reads the three marks of a document's start or end. -/
def documentMark (s : Lexer) (t : Token) : Except Error Lexer := do
  return (((← s.unindentAll.dropNote).allowKey false).emit t).pass 3

/-- A character of a tag. -/
def isTagChar (verbatim : Bool) (c : Char) : Bool :=
  isWordChar c || ";/?:@&=+$.%!~*'()".toList.contains c || (verbatim && ",[]".toList.contains c)

/-- Reads an octet written as an escape. -/
def escapedOctet? : List Char → Option (Nat × List Char)
  | '%' :: a :: b :: rest => do return ((← hexValue? a) * 16 + (← hexValue? b), rest)
  | _ => none

/-- How many octets a character has that starts with the given one. -/
def octetCount? (b : Nat) : Option Nat :=
  if b < 0x80 then some 1
  else if b < 0xC0 then none
  else if b < 0xE0 then some 2
  else if b < 0xF0 then some 3
  else if b < 0xF8 then some 4
  else none

/-- Reads further octets of a character. -/
def furtherOctets? (cs : List Char) : Nat → Option (List Nat × List Char)
  | 0 => some ([], cs)
  | n + 1 => do
    let (b, cs) ← escapedOctet? cs
    if b < 0x80 || 0xC0 ≤ b then none
    else
      let (bs, cs) ← furtherOctets? cs n
      return (b :: bs, cs)

/-- Reads an escaped character of a tag. -/
def escapedChar? (cs : List Char) : Option (List Nat × List Char) := do
  let (b, rest) ← escapedOctet? cs
  let (bs, rest) ← furtherOctets? rest ((← octetCount? b) - 1)
  return (b :: bs, rest)

/-- Reads the characters of a tag: its octets and what follows. -/
def tagOctets? (verbatim : Bool) (cs : List Char) (fuel : Nat) : Option (List Nat × List Char) :=
  match fuel, cs with
  | fuel + 1, '%' :: rest => do
    let (octets, rest) ← escapedChar? ('%' :: rest)
    let (more, rest) ← tagOctets? verbatim rest fuel
    return (octets ++ more, rest)
  | fuel + 1, c :: rest =>
    if isTagChar verbatim c then do
      let (more, rest) ← tagOctets? verbatim rest fuel
      return (Utf8.encodeChar c ++ more, rest)
    else some ([], c :: rest)
  | _, cs => some ([], cs)

/-- Reads a handle: an exclamation mark, a word, and perhaps another mark. -/
def handleText? (cs : List Char) : Option (List Char × List Char) :=
  match cs with
  | '!' :: rest =>
    let word := rest.takeWhile isWordChar
    match rest.drop word.length with
    | '!' :: after => some ('!' :: word ++ ['!'], after)
    | after => some ('!' :: word, after)
  | _ => none

/-- Whether a handle has two marks. -/
def isFullHandle (h : List Char) : Bool := 1 < h.length && h.getLast? = some '!'

/-- Reads decimal digits, nine at most. -/
def shortNumber? (cs : List Char) : Option (Nat × List Char) :=
  let digits := cs.takeWhile Char.isDigit
  if digits.isEmpty || 9 < digits.length then none
  else some (digits.foldl (fun n d => n * 10 + (d.toNat - 48)) 0, cs.drop digits.length)

/-- Reads what a version declaration declares. -/
def versionValue? (cs : List Char) : Option (Token × List Char) := do
  let (major, rest) ← shortNumber? (cs.dropWhile isBlank)
  let '.' :: rest := rest | none
  let (minor, rest) ← shortNumber? rest
  return (.version major minor, rest)

/-- Reads what a handle declaration declares. -/
def handleValue? (cs : List Char) : Option (Token × List Char) := do
  let (handle, rest) ← handleText? (cs.dropWhile isBlank)
  if !isFullHandle handle && handle ≠ ['!'] then none
  else if !rest.head?.any isBlank then none
  else
    let (octets, rest) ← tagOctets? true (rest.dropWhile isBlank) rest.length
    if octets.isEmpty || !atSpacing rest then none
    else return (.handle (String.ofList handle) (.ofOctets octets), rest)

/-- Reads a declaration behind its percent sign. -/
def directive? (cs : List Char) : Option (Token × List Char) :=
  let name := cs.takeWhile isWordChar
  let rest := cs.drop name.length
  if !atSpacing rest then none
  else if name = "YAML".toList then versionValue? rest
  else if name = "TAG".toList then handleValue? rest
  else none

/-- Reads a declaration and the rest of its line. -/
def directive (s : Lexer) : Except Error Lexer := do
  let s := (← s.unindentAll.dropNote).allowKey false
  match directive? s.rest.tail with
  | none => throw (.malformed "directive" s.place)
  | some (t, rest) =>
    let s := (s.emit t).pass (s.rest.length - rest.length)
    match skipLineEnd? s.place s.rest with
    | some (rest, place) => return { s with rest := rest, place := place }
    | none => throw (.malformed "directive" s.place)

/-! ## Properties -/

/-- What may follow a name of an anchor. -/
def endsAnchor (cs : List Char) : Bool :=
  atSpacing cs || cs.head?.any fun c => "?:,]\x7d%@`".toList.contains c

/-- Reads the name of an anchor or alias behind its mark. -/
def anchorName (s : Lexer) (token : String → Token) : Except Error Lexer := do
  let s := (← s.takeNote).allowKey false
  let name := s.rest.tail.takeWhile isWordChar
  if name.isEmpty || !endsAnchor (s.rest.drop (name.length + 1)) then
    throw (.malformed "anchor" s.place)
  return (s.emit (token (String.ofList name))).pass (name.length + 1)

/-- Reads a tag that starts with its exclamation mark. -/
def tag? (cs : List Char) : Option (Token × List Char) :=
  match cs with
  | '!' :: '<' :: rest => do
    let (octets, rest) ← tagOctets? true rest rest.length
    let '>' :: rest := rest | none
    if octets.isEmpty then none else return (.tag "" (.ofOctets octets), rest)
  | cs => do
    let (handle, rest) ← handleText? cs
    let (octets, rest) ← tagOctets? false rest rest.length
    if isFullHandle handle then
      if octets.isEmpty then none
      else return (.tag (String.ofList handle) (.ofOctets octets), rest)
    else
      let suffix := Tag.ofOctets (Utf8.encode handle.tail ++ octets)
      return (if suffix.isEmpty then .tag "" Tag.mark else .tag "!" suffix, rest)

/-- Reads a tag. -/
def tag (s : Lexer) : Except Error Lexer := do
  let s := (← s.takeNote).allowKey false
  match tag? s.rest with
  | none => throw (.malformed "tag" s.place)
  | some (t, rest) =>
    if atSpacing rest || (s.inFlow && rest.head? = some ',') then
      return (s.emit t).pass (s.rest.length - rest.length)
    else throw (.malformed "tag" s.place)

/-! ## Scalars -/

/-- Reads a block scalar. -/
def blockScalar (s : Lexer) (style : ScalarStyle) : Except Error Lexer := do
  let s := ((← s.dropNote).allowKey true).pass 1
  let e ← block (style = .folded) s.indent? s.place s.rest
  return (s.emit (.scalar style (String.ofList e.text))).resume e

/-- Reads a quoted scalar. -/
def quotedScalar (s : Lexer) (double : Bool) : Except Error Lexer := do
  let s := ((← s.takeNote).allowKey false).pass 1
  let e ← if double then doubleQuoted [] .none 0 s.place s.rest
    else singleQuoted [] .none s.place s.rest
  return (s.emit (.scalar .quoted (String.ofList e.text))).resume e

/-- Reads a plain scalar. -/
def plainScalar (s : Lexer) : Except Error Lexer := do
  let s := (← s.takeNote).allowKey false
  let indent := match s.indent? with
    | some n => n + 1
    | none => 0
  let e ← plain ⟨s.inFlow, indent⟩ [] .none s.place s.rest
  let s := (s.emit (.scalar .plain (String.ofList e.text))).resume e.toScalarEnd
  return if e.broken then s.allowKey true else s

/-- Whether a plain scalar may start with a character. -/
def startsPlain (inFlow : Bool) (c : Char) (rest : List Char) : Bool :=
  !(isSpacing c || "-?:,[]\x7b\x7d#&*!|>'\"%@`".toList.contains c) ||
    (c = '-' && !rest.head?.any isBlank) ||
    (!inFlow && (c = '?' || c = ':') && !atSpacing rest)

/-! ## The whole text -/

/-- Reads the token that starts with the character `c`. -/
def token (s : Lexer) (c : Char) (rest : List Char) : Except Error Lexer :=
  if s.place.column = 0 && c = '%' then s.directive
  else if s.place.column = 0 && atDocumentMark (c :: rest) then
    s.documentMark (if c = '-' then .documentStart else .documentEnd)
  else if c = '[' then s.openFlow .flowSequenceStart
  else if c = '\x7b' then s.openFlow .flowMappingStart
  else if c = ']' then s.closeFlow .flowSequenceEnd
  else if c = '\x7d' then s.closeFlow .flowMappingEnd
  else if c = ',' then s.comma
  else if c = '-' && atSpacing rest then s.hyphen
  else if c = '?' && (s.inFlow || atSpacing rest) then s.question
  else if c = ':' && (s.inFlow || atSpacing rest) then s.colon
  else if c = '*' then s.anchorName .alias
  else if c = '&' then s.anchorName .anchor
  else if c = '!' then s.tag
  else if c = '|' && !s.inFlow then s.blockScalar .literal
  else if c = '>' && !s.inFlow then s.blockScalar .folded
  else if c = '\'' then s.quotedScalar false
  else if c = '"' then s.quotedScalar true
  else if startsPlain s.inFlow c rest then s.plainScalar
  else .error (.misplaced (String.singleton c) s.place)

/-- Reads tokens until the text ends; every one takes at least one character. -/
def run (s : Lexer) (fuel : Nat) : Except Error Lexer :=
  match fuel with
  | 0 => .ok s
  | fuel + 1 => do
    let s := (← s.advance.expireAll)
    match s.rest with
    | [] => s.unindentAll.dropNote
    | c :: rest => run (← s.unindent.token c rest) fuel

end Lexer

/-- The tokens of a text. -/
def tokens (text : String) : Except Error (List Token) :=
  let cs := text.toList
  match cs.find? (!isAllowed ·) with
  | some c => .error (.forbidden c)
  | none => do
    let s ← (Lexer.start (unifyBreaks cs)).run (cs.length + 1)
    return s.tokens.reverse

end ApiBundle.Yaml
