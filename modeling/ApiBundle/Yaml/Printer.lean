import ApiBundle.Json.Printer
import ApiBundle.Yaml.ScalarForm

/-!
# Writing trees as YAML text

Block style throughout: members and items on lines of their own, two columns deeper than what holds
them, except that the items of a sequence stand in the column of the member that holds it. Empty
collections are `[]` and `{}`. Lines are never folded.
-/

namespace ApiBundle.Yaml

/-- A text that is being written. -/
structure Writer where
  /-- The text, last character first. -/
  out : List Char
  /-- The column reached. -/
  column : Nat
  /-- Whether the last thing written was spacing. -/
  spaced : Bool
  /-- Whether the line holds nothing but indentation and marks yet. -/
  fresh : Bool

namespace Writer

/-- The start of a text. -/
def start : Writer := ⟨[], 0, true, true⟩

/-- Writes a character that is no break. -/
def put (w : Writer) (c : Char) : Writer := { w with out := c :: w.out, column := w.column + 1 }

/-- Writes characters that are no breaks. -/
def puts (w : Writer) (cs : List Char) : Writer := cs.foldl put w

/-- Writes a break. -/
def breakLine (w : Writer) (c : Char) : Writer := { w with out := c :: w.out, column := 0 }

/-- Goes to a column, on a new line unless this one has room before it. -/
def indentTo (w : Writer) (column : Nat) : Writer :=
  let w :=
    if !w.fresh || column < w.column || (w.column = column && !w.spaced) then w.breakLine '\n'
    else w
  { w.puts (List.replicate (column - w.column) ' ') with spaced := true, fresh := true }

/-- Puts a space after what is not spacing. -/
def space (w : Writer) : Writer := if w.spaced then w else w.put ' '

/-- Writes the mark of an item or a key: the line stays fresh. -/
def mark (w : Writer) (c : Char) : Writer := { w.space.put c with spaced := false }

/-- Writes characters that end the freshness of a line. -/
def word (w : Writer) (cs : List Char) : Writer :=
  { w.puts cs with spaced := false, fresh := false }

/-! ## Scalars -/

/--
Writes the characters of a scalar on lines that start at a column. Between single quotes such a
quote is written twice, and a last break is followed by indentation.
-/
def lines (w : Writer) (column : Nat) (inQuotes afterBreak : Bool) : List Char → Writer
  | [] => if afterBreak && inQuotes then w.indentTo column else w
  | c :: rest =>
    if isBreak c then lines { w.breakLine c with fresh := true } column inQuotes true rest
    else
      let w := if afterBreak then w.indentTo column else w
      let w := if inQuotes && c = '\'' then w.put c else w
      lines { w.put c with fresh := false } column inQuotes false rest

/-- A hexadecimal number in capitals, filled up with zeros. -/
def hexText (width n : Nat) : List Char :=
  let digits := (Nat.toDigits 16 n).map Char.toUpper
  List.replicate (width - digits.length) '0' ++ digits

/-- The letter of an escape that has one. -/
def escapeLetter? (n : Nat) : Option Char :=
  match n with
  | 0x00 => some '0'
  | 0x07 => some 'a'
  | 0x08 => some 'b'
  | 0x09 => some 't'
  | 0x0A => some 'n'
  | 0x0B => some 'v'
  | 0x0C => some 'f'
  | 0x0D => some 'r'
  | 0x1B => some 'e'
  | 0x22 => some '"'
  | 0x5C => some '\\'
  | 0x85 => some 'N'
  | 0xA0 => some '_'
  | 0x2028 => some 'L'
  | 0x2029 => some 'P'
  | _ => none

/-- A character between double quotes. -/
def escaped (c : Char) : List Char :=
  let n := c.toNat
  if ScalarForm.isPrintable c && !isBreak c && c ≠ '"' && c ≠ '\\' then [c]
  else
    match escapeLetter? n with
    | some letter => ['\\', letter]
    | none =>
      if n ≤ 0xFF then '\\' :: 'x' :: hexText 2 n
      else if n ≤ 0xFFFF then '\\' :: 'u' :: hexText 4 n
      else '\\' :: 'U' :: hexText 8 n

/-- The marks of a block: the indentation where it cannot be told, and the fate of last breaks. -/
def blockMarks (cs : List Char) : List Char :=
  let indent := if cs.head?.any fun c => c = ' ' || isBreak c then ['2'] else []
  let chomp := match cs.reverse with
    | a :: b :: _ => if !isBreak a then ['-'] else if isBreak b then ['+'] else []
    | [a] => if isBreak a then ['+'] else ['-']
    | [] => ['-']
  indent ++ chomp

/-- Writes a scalar whose further lines start at a column. -/
def scalar (w : Writer) (column : Nat) (text : String) : Writer :=
  let cs := text.toList
  match ScalarForm.ofText text with
  | .plain => w.space.word cs
  | .single => ((w.space.word ['\'']).lines column true false cs).word ['\'']
  | .double => w.space.word ('"' :: cs.flatMap escaped ++ ['"'])
  | .literal =>
    let head := (w.space.word ('|' :: blockMarks cs)).breakLine '\n'
    { head with spaced := true, fresh := true }.lines column false true cs

/-! ## Trees -/

/-- The column of what stands inside something at a column; nothing stands around the top. -/
def inside : Option Nat → Nat
  | none => 0
  | some n => n + 2

/-- The column of further lines of a scalar. -/
def scalarColumn : Option Nat → Nat
  | none => 2
  | some n => n + 2

/-- The column of the items of a sequence, which may be that of the member that holds it. -/
def itemColumn (w : Writer) (outer : Option Nat) (inMapping : Bool) : Nat :=
  match outer with
  | none => 0
  | some n => if inMapping && !w.fresh then n else n + 2

/-- Writes a key and what sets it off from its value. -/
def key (w : Writer) (column : Nat) (name : String) : Writer :=
  let w := w.indentTo column
  if ScalarForm.isSimpleKey name then (w.scalar (column + 2) name).word [':']
  else (((w.mark '?').scalar (column + 2) name).indentTo column).mark ':'

mutual

/-- Writes a tree inside something at a column, which may be a mapping. -/
def tree (w : Writer) (outer : Option Nat) (inMapping : Bool) : Json → Writer
  | .null => w.space.word "null".toList
  | .bool true => w.space.word "true".toList
  | .bool false => w.space.word "false".toList
  | .number (.integer n) => w.space.word (toString n).toList
  | .number (.float x) => w.space.word (x.text YamlNumber.floats).toList
  | .string s => w.scalar (scalarColumn outer) s
  | .array [] => w.space.word ['[', ']']
  | .array xs => items w (w.itemColumn outer inMapping) xs
  | .object [] => w.space.word ['\x7b', '\x7d']
  | .object ms => members w (inside outer) ms

/-- Writes items at a column. -/
def items (w : Writer) (column : Nat) : List Json → Writer
  | [] => w
  | x :: rest => items (tree ((w.indentTo column).mark '-') (some column) false x) column rest

/-- Writes members at a column. -/
def members (w : Writer) (column : Nat) : List (String × Json) → Writer
  | [] => w
  | (name, x) :: rest =>
    members (tree (w.key column name) (some column) true x) column rest

end

/-- The text, after its last line has been ended. -/
def finish (w : Writer) : String := String.ofList (w.indentTo 0).out.reverse

end Writer

end ApiBundle.Yaml

namespace ApiBundle

/-- The YAML text of a tree. -/
def Json.yamlText (tree : Json) : String := (Yaml.Writer.start.tree none false tree).finish

end ApiBundle
