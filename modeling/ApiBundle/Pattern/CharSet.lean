import ApiBundle.Text.Classes
import ApiBundle.Text.CaseFold

/-!
# Sets of characters

The sets that patterns are made of, each given by its ranges in their only form, so that equal sets
are equal values.
-/

namespace ApiBundle

/-- A set of characters. -/
structure CharSet where
  /-- The ranges of their code points. -/
  ranges : Ranges
  deriving DecidableEq, Repr

namespace CharSet

/-- Whether a character is in the set. -/
def mem (s : CharSet) (c : Char) : Bool := s.ranges.contains c.toNat

/-- No character. -/
def none : CharSet := ⟨[]⟩

/-- The characters between two, ends included. -/
def range (low high : Char) : CharSet := ⟨[(low.toNat, high.toNat)]⟩

/-- The set of one character. -/
def one (c : Char) : CharSet := range c c

/-- The characters of either set. -/
def union (s t : CharSet) : CharSet := ⟨s.ranges.union t.ranges⟩

/-- The characters of any of the sets. -/
def unions (sets : List CharSet) : CharSet := ⟨Ranges.normalize (sets.flatMap ranges)⟩

/-- All other characters. -/
def complement (s : CharSet) : CharSet := ⟨s.ranges.complement⟩

/-- The characters of both sets. -/
def inter (s t : CharSet) : CharSet := ⟨s.ranges.inter t.ranges⟩

/-- The characters that are in the first set only. -/
def without (s t : CharSet) : CharSet := s.inter t.complement

/-- The characters that are in exactly one set. -/
def either (s t : CharSet) : CharSet := (s.without t).union (t.without s)

/-- All characters that are in the set in some case. -/
def anyCase (s : CharSet) : CharSet := ⟨Text.closeUnderCase s.ranges⟩

/-- All characters. -/
def all : CharSet := complement none

/-- Whether the set has ASCII characters only. -/
def isAscii (s : CharSet) : Bool := s.ranges.all fun r => r.2 < 128

/-- The ASCII characters of a set. -/
def ascii (s : CharSet) : CharSet := s.inter (range '\x00' '\x7f')

/-- The only character of the set, if it has just one. -/
def single? (s : CharSet) : Option Char :=
  match s.ranges with
  | [(low, high)] => if low = high then some (Char.ofNat low) else Option.none
  | _ => Option.none

/-! ## Named sets -/

/-- The decimal digits. -/
def digits : CharSet := ⟨(0x30, 0x39) :: Text.digitRanges⟩

/-- The characters of words. -/
def word : CharSet :=
  ⟨(0x30, 0x39) :: (0x41, 0x5A) :: (0x5F, 0x5F) :: (0x61, 0x7A) :: Text.wordRanges⟩

/-- The blanks and line breaks. -/
def blanks : CharSet := ⟨(0x9, 0xD) :: (0x20, 0x20) :: Text.blankRanges⟩

/-- The ASCII sets that patterns may name. -/
def named? (name : String) : Option CharSet :=
  let lower := range 'a' 'z'
  let upper := range 'A' 'Z'
  let digit := range '0' '9'
  let graph := range '!' '~'
  match name with
  | "alnum" => some (unions [digit, lower, upper])
  | "alpha" => some (union lower upper)
  | "ascii" => some (range '\x00' '\x7f')
  | "blank" => some (union (one ' ') (one '\t'))
  | "cntrl" => some (union (range '\x00' '\x1f') (one '\x7f'))
  | "digit" => some digit
  | "graph" => some graph
  | "lower" => some lower
  | "print" => some (range ' ' '~')
  | "punct" => some (without graph (unions [digit, lower, upper]))
  | "space" => some (union (range '\t' '\r') (one ' '))
  | "upper" => some upper
  | "word" => some (unions [one '_', digit, lower, upper])
  | "xdigit" => some (unions [digit, range 'a' 'f', range 'A' 'F'])
  | _ => Option.none

end CharSet

end ApiBundle
