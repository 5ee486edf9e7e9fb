/-!
# Punycode

Any text can be written in ASCII letters, digits and hyphens. Its ASCII characters come first, then
a hyphen, then one number for each other character, in the order of their code points; the number
says how far to go on, through all places of the text and all code points, from the last insertion
to this one. A number is written in digits of base 36 of variable length, whose thresholds adapt to
the numbers before. `encode` writes a text in this way and `decode?` reads it back.
-/

namespace ApiBundle.Punycode

/-! ## Numbers -/

/-- The digit of a value below 36. -/
def digit (n : Nat) : Char := if n < 26 then Char.ofNat (97 + n) else Char.ofNat (22 + n)

/-- The value of a digit; letters count in either case. -/
def digitValue? (c : Char) : Option Nat :=
  if 'a' ≤ c ∧ c ≤ 'z' then some (c.toNat - 97)
  else if 'A' ≤ c ∧ c ≤ 'Z' then some (c.toNat - 65)
  else if '0' ≤ c ∧ c ≤ '9' then some (c.toNat - 22)
  else none

/-- The digit at a place (36 for the first, 72 for the second) ends a number if it is below this. -/
def threshold (bias place : Nat) : Nat := if place ≤ bias then 1 else min (place - bias) 26

theorem threshold_pos (bias place : Nat) : 1 ≤ threshold bias place := by
  unfold threshold
  split <;> omega

/-- Divides a number until it is small; every division adds a place to the bias. -/
def settle (n bias : Nat) : Nat :=
  if 455 < n then settle (n / 35) (bias + 36) else bias + 36 * n / (n + 38)
termination_by n
decreasing_by exact Nat.div_lt_self (by omega) (by omega)

/-- The bias after a number, for a text that has grown to `size` characters. -/
def adapt (n size : Nat) (first : Bool) : Nat :=
  let n := if first then n / 700 else n / 2
  settle (n + n / size) 0

/-- The digits of a number from a place on. -/
def digits (bias place n : Nat) : List Char :=
  let t := threshold bias place
  if n < t then [digit n]
  else digit (t + (n - t) % (36 - t)) :: digits bias (place + 36) ((n - t) / (36 - t))
termination_by n
decreasing_by
  have h := threshold_pos bias place
  calc (n - threshold bias place) / (36 - threshold bias place)
      ≤ n - threshold bias place := Nat.div_le_self _ _
    _ < n := by omega

/-- The bias before the first number. -/
def firstBias : Nat := 72

/-- The first code point that is not ASCII. -/
def firstCodePoint : Nat := 128

/-! ## Writing -/

/-- A text that is being written. -/
structure Encoder where
  /-- How far the next insertion is from the last one, as far as it is known. -/
  delta : Nat
  /-- The bias of the next number. -/
  bias : Nat
  /-- How many characters are in. -/
  size : Nat
  /-- The digits so far. -/
  out : List Char

/-- Passes a character while those of one code point are put in. -/
def Encoder.pass (basic codePoint : Nat) (e : Encoder) (n : Nat) : Encoder :=
  if n < codePoint then { e with delta := e.delta + 1 }
  else if n = codePoint then
    { delta := 0
      bias := adapt e.delta (e.size + 1) (e.size = basic)
      size := e.size + 1
      out := e.out ++ digits e.bias 36 e.delta }
  else e

/-- Puts in the characters of the given code points, which rise, each time from the left. -/
def encodeFrom (cs : List Nat) (basic : Nat) : List Nat → Nat → Encoder → List Char
  | [], _, e => e.out
  | m :: rest, next, e =>
    let e := cs.foldl (Encoder.pass basic m)
      { e with delta := e.delta + (m - next) * (e.size + 1) }
    encodeFrom cs basic rest (m + 1) { e with delta := e.delta + 1 }

/-- The form of a text in ASCII. -/
def encode (cs : List Nat) : List Char :=
  let basic := cs.filter (· < firstCodePoint)
  let others := ((cs.filter (firstCodePoint ≤ ·)).mergeSort).eraseReps
  let start := basic.map Char.ofNat ++ if basic.isEmpty then [] else ['-']
  start ++ encodeFrom cs basic.length others firstCodePoint ⟨0, firstBias, basic.length, []⟩

/-! ## Reading -/

/-- The least number that is too large for the arithmetic of the format. -/
def limit : Nat := Nat.pow 2 32

/-- A text that is being read. -/
structure Decoder where
  /-- The characters so far. -/
  out : List Nat
  /-- The code point of the last insertion. -/
  codePoint : Nat
  /-- Where the next insertion is, with what the number under way has brought so far. -/
  position : Nat
  /-- The position before that number. -/
  start : Nat
  /-- The bias of that number. -/
  bias : Nat
  /-- The place of its next digit. -/
  place : Nat
  /-- What its next digit counts. -/
  weight : Nat

namespace Decoder

/-- Puts in the character that a finished number stands for. -/
def insert? (d : Decoder) : Option Decoder :=
  let size := d.out.length + 1
  let codePoint := d.codePoint + d.position / size
  let position := d.position % size
  if codePoint.isValidChar then
    some
      { out := d.out.insertIdx position codePoint
        codePoint := codePoint
        position := position + 1
        start := position + 1
        bias := adapt (d.position - d.start) size (d.start = 0)
        place := 36
        weight := 1 }
  else none

/-- Takes the next digit. -/
def step? (d : Decoder) (c : Char) : Option Decoder := do
  let value ← digitValue? c
  let position := d.position + value * d.weight
  let t := threshold d.bias d.place
  if limit ≤ position then none
  else if value < t then insert? { d with position := position }
  else
    let weight := d.weight * (36 - t)
    if limit ≤ weight then none
    else some { d with position := position, place := d.place + 36, weight := weight }

/-- Whether no number is under way. -/
def isComplete (d : Decoder) : Bool := d.place = 36

end Decoder

/-- The ASCII characters before the last hyphen, if there are any, and the digits after it. -/
def parts (cs : List Char) : List Char × List Char :=
  let digits := (cs.reverse.takeWhile (· ≠ '-')).reverse
  let basic := cs.take (cs.length - digits.length - 1)
  if basic.isEmpty then ([], cs) else (basic, digits)

/-- Reads a text from its form in ASCII. -/
def decode? (cs : List Char) : Option (List Nat) := do
  let (basic, digits) := parts cs
  let start : Decoder :=
    { out := basic.map Char.toNat, codePoint := firstCodePoint, position := 0, start := 0,
      bias := firstBias, place := 36, weight := 1 }
  let d ← digits.foldlM Decoder.step? start
  if d.isComplete then return d.out else none

end ApiBundle.Punycode
