import ApiBundle.Text.Ranges
import ApiBundle.Text.Split
import Std.Data.TreeMap

/-!
# Tables of code points

Some properties of characters are no sets: a character goes to a number, or to other characters.
Such a table is written as rows in hexadecimal, parted by blanks. `300-314:E6` takes each code point
of the range to `E6`, `BC:31.2044.34` takes one code point to three, and `100-12E/2>101` takes every
second code point of the range to one that moves along with it, the first one to `101`.
-/

namespace ApiBundle

/-- A row of a table. -/
structure TableRow where
  /-- The first code point. -/
  low : Nat
  /-- The last code point. -/
  high : Nat
  /-- The step between two code points. -/
  step : Nat
  /-- Whether the target moves along with the code point. -/
  moves : Bool
  /-- What the first code point goes to. -/
  target : List Nat

namespace TableRow

/-- A number in hexadecimal. -/
def number (cs : List Char) : Nat := cs.foldl (fun n c => n * 16 + Ranges.digit c) 0

/-- Reads a row. -/
def ofText (cs : List Char) : TableRow :=
  let source := cs.takeWhile fun c => c != ':' && c != '>'
  let target := cs.drop source.length
  let (range, step) := Text.cut '/' source
  let (low, high) := Text.cut '-' range
  { low := number low
    high := number (high.getD low)
    step := (step.map number).getD 1
    moves := target.head? = some '>'
    target := (Text.splitAt '.' target.tail).map number }

/-- The code points of a row with what each goes to. -/
def entries (row : TableRow) : List (Nat × List Nat) :=
  (List.range ((row.high - row.low) / row.step + 1)).map fun i =>
    let distance := i * row.step
    (row.low + distance, if row.moves then row.target.map (· + distance) else row.target)

end TableRow

/-- What code points go to. -/
abbrev Table : Type := Std.TreeMap Nat (List Nat)

namespace Table

/-- The entries of a table in lines of rows. -/
def entries (lines : List String) : List (Nat × List Nat) :=
  lines.flatMap fun line => (Text.splitAt ' ' line.toList).flatMap fun cs =>
    (TableRow.ofText cs).entries

/-- Reads a table. -/
def ofLines (lines : List String) : Table :=
  (entries lines).foldl (fun table (n, target) => table.insert n target) {}

end Table

end ApiBundle
