import ApiBundle.Text.Utf8

/-!
# Percent escapes

`%` and two hexadecimal digits stand for an octet. Decoding leaves every other `%` as it is and
reads the octets as UTF-8 with replacement. Encoding escapes the octets of a chosen class and all
octets beyond ASCII.
-/

namespace ApiBundle.Percent

/-- The value of a hexadecimal digit given as an octet. -/
def hexOctet? (b : Nat) : Option Nat :=
  if 48 ≤ b ∧ b ≤ 57 then some (b - 48)
  else if 65 ≤ b ∧ b ≤ 70 then some (b - 55)
  else if 97 ≤ b ∧ b ≤ 102 then some (b - 87)
  else none

/-- Replaces every escape by its octet. -/
def decodeOctets : List Nat → List Nat
  | [] => []
  | 37 :: x :: y :: rest =>
    match hexOctet? x, hexOctet? y with
    | some h, some l => (h * 16 + l) :: decodeOctets rest
    | _, _ => 37 :: decodeOctets (x :: y :: rest)
  | b :: rest => b :: decodeOctets rest

/-- Decodes the escapes of a text. -/
def decode (cs : List Char) : List Char := Utf8.decode (decodeOctets (Utf8.encode cs))

/-- A hexadecimal digit in upper case. -/
def upperHexDigit (n : Nat) : Char :=
  if n < 10 then Char.ofNat (48 + n) else Char.ofNat (55 + n)

/-- The escape of an octet. -/
def escape (b : Nat) : List Char := ['%', upperHexDigit (b / 16), upperHexDigit (b % 16)]

/-- Escapes the octets of a character if it is beyond ASCII or of the class. -/
def encodeChar (escapes : Char → Bool) (c : Char) : List Char :=
  if c.toNat < 0x80 && !escapes c then [c] else (Utf8.encodeChar c).flatMap escape

/-- Escapes a text. -/
def encode (escapes : Char → Bool) (cs : List Char) : List Char := cs.flatMap (encodeChar escapes)

/-- The control characters. -/
def isControl (c : Char) : Bool := c.toNat < 32 || c.toNat = 127

end ApiBundle.Percent
