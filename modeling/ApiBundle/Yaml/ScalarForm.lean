import ApiBundle.Text.Utf8
import ApiBundle.Yaml.Scalar

/-!
# Forms of YAML scalars

How a text is written as a scalar. Texts with line feeds are blocks with their breaks; texts that
would read back as anything else than themselves are between single quotes; all others are plain. A
form that cannot hold the text gives way to the next stronger one, and double quotes can hold
everything.
-/

namespace ApiBundle.Yaml

/-- The form of a written scalar. -/
inductive ScalarForm where
  /-- Without marks. -/
  | plain
  /-- Between single quotes. -/
  | single
  /-- Between double quotes, with escapes. -/
  | double
  /-- As a block with its line breaks. -/
  | literal
  deriving DecidableEq, Repr

namespace ScalarForm

/-- A line break of any kind. -/
def isAnyBreak (c : Char) : Bool := isBreak c || c = '\r' || c = '\u0085'

/-- A character that can be written as it is. -/
def isPrintable (c : Char) : Bool :=
  let n := c.toNat
  n = 10 || (0x20 ≤ n && n ≤ 0x7E) || (0xA0 ≤ n && n ≤ 0xFFFD && n ≠ 0xFEFF) || 0x10000 ≤ n

/-- Spacing, or nothing at all. -/
def isSpacingOrEnd : Option Char → Bool
  | none => true
  | some c => isBlank c || isAnyBreak c || c = '\x00'

/-- The characters that start something else at the start of a scalar. -/
def isLeadingIndicator (c : Char) : Bool := "#,[]\x7b\x7d&*!|>'\"%@`".toList.contains c

/-- Whether a character with its neighbours would mean something else in a plain scalar. -/
def isIndicator (before : Option Char) (c : Char) (after : Option Char) : Bool :=
  match before with
  | none => isLeadingIndicator c || ((c = '?' || c = ':' || c = '-') && isSpacingOrEnd after)
  | some b => (c = ':' && isSpacingOrEnd after) || (c = '#' && isSpacingOrEnd (some b))

/-- Whether a condition holds for some character with its neighbours. -/
def anyInContext (p : Option Char → Char → Option Char → Bool) (before : Option Char) :
    List Char → Bool
  | [] => false
  | c :: rest => p before c rest.head? || anyInContext p (some c) rest

/-- Whether a text starts with the three marks of a document's start or end. -/
def startsWithMark (cs : List Char) : Bool :=
  ['-', '-', '-'].isPrefixOf cs || ['.', '.', '.'].isPrefixOf cs

/-- Whether some character would mean something else in a plain scalar. -/
def hasIndicator (cs : List Char) : Bool := startsWithMark cs || anyInContext isIndicator none cs

/-- Whether some character needs an escape. -/
def hasSpecial (cs : List Char) : Bool := cs.any (!isPrintable ·)

/-- Whether there is a line break. -/
def isMultiline (cs : List Char) : Bool := cs.any isAnyBreak

/-- Whether there is a space before a break. -/
def hasSpaceBreak (cs : List Char) : Bool :=
  anyInContext (fun before c _ => before = some ' ' && isAnyBreak c) none cs

/-- Whether there is a space after a break. -/
def hasBreakSpace (cs : List Char) : Bool :=
  anyInContext (fun before c _ => before.any isAnyBreak && c = ' ') none cs

/-- Whether spacing stands at one of the ends. -/
def hasOuterSpacing (cs : List Char) : Bool :=
  let spacing (c : Char) : Bool := c = ' ' || isAnyBreak c
  cs.head?.any spacing || cs.getLast?.any spacing

/-- Whether only double quotes can hold a text. -/
def needsEscapes (cs : List Char) : Bool := hasSpecial cs || hasSpaceBreak cs

/-- Whether a text can be plain. -/
def allowsPlain (cs : List Char) : Bool :=
  !(needsEscapes cs || hasOuterSpacing cs || isMultiline cs || hasIndicator cs)

/-- Whether a text can stand between single quotes. -/
def allowsSingle (cs : List Char) : Bool := !(needsEscapes cs || hasBreakSpace cs)

/-- Whether a text can be a block. -/
def allowsBlock (cs : List Char) : Bool :=
  !(cs.isEmpty || needsEscapes cs || cs.getLast? = some ' ')

/-- Whether a plain scalar reads back as the text that it writes. -/
def readsBack (text : String) : Bool :=
  match plainValue text with
  | .ok (.string _) => !hasLeadingZero (cutSign text.toList).2
  | _ => false

/-- The form that a text is written in. -/
def ofText (text : String) : ScalarForm :=
  let cs := text.toList
  if cs.contains '\n' then
    if allowsBlock cs then .literal else .double
  else if readsBack text && allowsPlain cs then .plain
  else if allowsSingle cs then .single
  else .double

/-- How many octets a key may have that is not marked as one. -/
def keyLimit : Nat := 128

/-- Whether a text can be a key without a mark. -/
def isSimpleKey (text : String) : Bool :=
  !isMultiline text.toList && (Utf8.encode text.toList).length ≤ keyLimit

end ScalarForm

end ApiBundle.Yaml
