import ApiBundle.Text.Ranges
import ApiBundle.Text.Utf8

/-!
# Ranges of octets

The characters of a range, in UTF-8, as sequences of octet ranges: whatever is chosen from each
range of a sequence, the octets are those of one character, and every character of the range comes
from one sequence. A range is cut until both ends have the same number of octets and, from the first
octet that differs on, the low end has the least octets and the high end the greatest.
-/

namespace ApiBundle.Utf8

/-- A range of octets for each octet of a character. -/
abbrev OctetRanges : Type := List (Nat × Nat)

/-- Where to cut a range: the last code point of the lower part. -/
def cutRange? (low high : Nat) : Option Nat :=
  [0x7F, 0x7FF, 0xFFFF].find? (fun n => low ≤ n && n < high) <|> [64, 4096, 262144].findSome? cut?
where
  /-- Where to cut between blocks of code points that share their first octets. -/
  cut? (block : Nat) : Option Nat :=
    if high ≤ 0x7F || low / block = high / block then none
    else if low % block ≠ 0 then some (low / block * block + (block - 1))
    else if high % block ≠ block - 1 then some (high / block * block - 1)
    else none

/-- The sequences for a range without surrogates; a few cuts are enough. -/
def octetRangesWithin (fuel low high : Nat) : List OctetRanges :=
  if high < low then []
  else
    match fuel, cutRange? low high with
    | fuel + 1, some cut =>
      octetRangesWithin fuel low cut ++ octetRangesWithin fuel (cut + 1) high
    | _, _ => [(encodeChar (Char.ofNat low)).zip (encodeChar (Char.ofNat high))]

/-- The sequences for a range of code points, in rising order. -/
def octetRangesOf (low high : Nat) : List OctetRanges :=
  if low < 0xE000 && 0xD7FF < high then
    octetRangesWithin 32 low 0xD7FF ++ octetRangesWithin 32 0xE000 high
  else octetRangesWithin 32 low high

/-- The sequences for ranges of code points, in rising order. -/
def octetRanges (ranges : Ranges) : List OctetRanges :=
  ranges.flatMap fun r => octetRangesOf r.1 r.2

end ApiBundle.Utf8
