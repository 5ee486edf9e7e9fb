/-!
# UTF-8 with replacement

Turning a text into its octets, and octets into a text. The reader accepts any octets: the longest
start of a character that no continuation completes becomes one U+FFFD, and so does every octet that
starts no character. It works one octet at a time, with a record of what the next octet may be.
-/

namespace ApiBundle.Utf8

/-- The octets of a character. -/
def encodeChar (c : Char) : List Nat :=
  let n := c.toNat
  if n < 0x80 then [n]
  else if n < 0x800 then [0xC0 + n / 64, 0x80 + n % 64]
  else if n < 0x10000 then [0xE0 + n / 4096, 0x80 + n / 64 % 64, 0x80 + n % 64]
  else [0xF0 + n / 262144, 0x80 + n / 4096 % 64, 0x80 + n / 64 % 64, 0x80 + n % 64]

/-- The octets of a text. -/
def encode (cs : List Char) : List Nat := cs.flatMap encodeChar

/-- Between two octets: how many are still owed, the bits so far, and the range of the next one. -/
structure Pending where
  /-- How many octets the character still needs; none between characters. -/
  owed : Nat
  /-- The bits of the octets read so far. -/
  bits : Nat
  /-- The least octet that may come next. -/
  least : Nat
  /-- The greatest octet that may come next. -/
  greatest : Nat
  deriving DecidableEq, Repr

/-- Between characters. -/
def Pending.none : Pending := ⟨0, 0, 0, 0⟩

/-- The character that stands for what could not be read. -/
def replacement : Char := '\uFFFD'

/-- The first octet of a character. -/
def first (b : Nat) : List Char × Pending :=
  if b < 0x80 then ([Char.ofNat b], .none)
  else if 0xC2 ≤ b ∧ b ≤ 0xDF then ([], ⟨1, b % 32, 0x80, 0xBF⟩)
  else if b = 0xE0 then ([], ⟨2, 0, 0xA0, 0xBF⟩)
  else if b = 0xED then ([], ⟨2, 13, 0x80, 0x9F⟩)
  else if 0xE1 ≤ b ∧ b ≤ 0xEF then ([], ⟨2, b % 16, 0x80, 0xBF⟩)
  else if b = 0xF0 then ([], ⟨3, 0, 0x90, 0xBF⟩)
  else if 0xF1 ≤ b ∧ b ≤ 0xF3 then ([], ⟨3, b % 8, 0x80, 0xBF⟩)
  else if b = 0xF4 then ([], ⟨3, 4, 0x80, 0x8F⟩)
  else ([replacement], .none)

/-- The next octet of a character, or the first of one if none is under way. -/
def step (p : Pending) (b : Nat) : List Char × Pending :=
  if p.owed = 0 then first b
  else if p.least ≤ b ∧ b ≤ p.greatest then
    let bits := p.bits * 64 + b % 64
    if p.owed = 1 then ([Char.ofNat bits], .none) else ([], ⟨p.owed - 1, bits, 0x80, 0xBF⟩)
  else
    let (out, next) := first b
    (replacement :: out, next)

/-- Reads octets from the middle of a text on. -/
def decodeFrom (p : Pending) : List Nat → List Char
  | [] => if p.owed = 0 then [] else [replacement]
  | b :: rest =>
    let (out, next) := step p b
    out ++ decodeFrom next rest

/-- Reads octets, replacing what is no character. -/
def decode (octets : List Nat) : List Char := decodeFrom .none octets

/-- Reads octets that are a text: what needs replacing does not come back as it was. -/
def decode? (octets : List Nat) : Option (List Char) :=
  let cs := decode octets
  if encode cs = octets then some cs else none

end ApiBundle.Utf8
