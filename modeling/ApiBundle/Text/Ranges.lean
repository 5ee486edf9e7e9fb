/-!
# Ranges of code points

Sets of code points as ranges in rising order, none of which touches the next. In this form a set
has one list of ranges only, so equal sets are equal lists. `normalize` brings any ranges into it,
and the set operations keep it.
-/

namespace ApiBundle

/-- Ranges of code points, ends included, in rising order and apart from each other. -/
abbrev Ranges : Type := List (Nat × Nat)

namespace Ranges

/-- The greatest code point. -/
def last : Nat := 0x10FFFF

/-- Whether a code point lies in one of the ranges. -/
def contains (n : Nat) : Ranges → Bool
  | [] => false
  | (low, high) :: rest => if n < low then false else if n ≤ high then true else contains n rest

/-- Joins ranges that touch or overlap; they come in the order of their starts. -/
def join (low high : Nat) : Ranges → Ranges
  | [] => [(low, high)]
  | (a, b) :: rest =>
    if a ≤ high + 1 then join low (max high b) rest else (low, high) :: join a b rest

/-- Puts a range before the first one that does not start below it. -/
def insert (range : Nat × Nat) : Ranges → Ranges
  | [] => [range]
  | next :: rest => if range.1 ≤ next.1 then range :: next :: rest else next :: insert range rest

/-- The ranges of all code points that lie in one of the given ranges. -/
def normalize (ranges : Ranges) : Ranges :=
  match ranges.foldr insert [] with
  | [] => []
  | (a, b) :: rest => join a b rest

/-- The code points of either set. -/
def union (s t : Ranges) : Ranges := normalize (s ++ t)

/-- What lies between ranges and after them, from a code point on. -/
def gaps (start : Nat) : Ranges → Ranges
  | [] => if start ≤ last then [(start, last)] else []
  | (low, high) :: rest =>
    if start < low then (start, low - 1) :: gaps (high + 1) rest else gaps (high + 1) rest

/-- All other code points. -/
def complement (s : Ranges) : Ranges := gaps 0 s

/-- The code points of both sets. -/
def inter (s t : Ranges) : Ranges := complement (union (complement s) (complement t))

/-! ## Text -/

/-- The value of a hexadecimal digit in capitals. -/
def digit (c : Char) : Nat := if c.isDigit then c.toNat - 48 else c.toNat - 55

/-- Ranges that are being read. -/
structure Reading where
  /-- The ranges read, last one first. -/
  done : Ranges
  /-- The start of a range whose end is under way. -/
  low : Option Nat
  /-- The number under way. -/
  number : Nat

/-- All ranges read, together with the one under way. -/
def Reading.close (r : Reading) : Ranges := (r.low.getD r.number, r.number) :: r.done

/-- Takes one more character. -/
def Reading.step (r : Reading) (c : Char) : Reading :=
  if c = ' ' then ⟨r.close, none, 0⟩
  else if c = '-' then { r with low := some r.number, number := 0 }
  else { r with number := r.number * 16 + digit c }

/-- Reads ranges written in hexadecimal, such as `41-5A 5F`. -/
def ofText (text : String) : Ranges :=
  (text.toList.foldl Reading.step ⟨[], none, 0⟩).close.reverse

/-- Reads lines of ranges. -/
def ofLines (lines : List String) : Ranges := lines.flatMap ofText

end Ranges

end ApiBundle
