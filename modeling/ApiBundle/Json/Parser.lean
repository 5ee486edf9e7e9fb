import ApiBundle.Json.Basic

/-!
# Reading JSON text

A reader for one JSON value that fills the text. Containers nest at most 127 deep. A repeated member
name keeps its first place and takes its last value.

Numbers without fraction and exponent that fit 64 bits, signed or not, are integers. All others are
binary64 values, read with a significand of 64 bits: digits that would overflow it are dropped
(before the point they count in the exponent), and the significand is multiplied or divided once by
a power of ten that is itself rounded. The result may differ from the nearest double in its last
place; that is the format's own rule here, not an accident to be mended.
-/

namespace ApiBundle

/-- Why a text is not JSON. -/
inductive JsonError where
  /-- The text ends inside a value. -/
  | unexpectedEnd
  /-- A character that cannot stand where it does. -/
  | unexpected (c : Char)
  /-- A number without digits where there must be some, or with a leading zero. -/
  | badNumber
  /-- A number beyond the largest double. -/
  | numberTooLarge
  /-- A backslash sequence that means no character. -/
  | badEscape
  /-- A control character inside a string. -/
  | controlCharacter
  /-- Containers nested too deeply. -/
  | tooDeep
  /-- Something after the value. -/
  | trailing
  deriving DecidableEq, Repr

/-- The wording of a failure. -/
def JsonError.message : JsonError → String
  | .unexpectedEnd => "unexpected end of text"
  | .unexpected c => "unexpected character " ++ String.singleton c
  | .badNumber => "malformed number"
  | .numberTooLarge => "number out of range"
  | .badEscape => "invalid escape"
  | .controlCharacter => "control character in a string"
  | .tooDeep => "nested too deeply"
  | .trailing => "trailing characters"

namespace Json

/-- The blanks between tokens. -/
def isBlank (c : Char) : Bool := c = ' ' || c = '\n' || c = '\t' || c = '\r'

/-- Skips blanks. -/
def skipBlanks (cs : List Char) : List Char := cs.dropWhile isBlank

/-- The value of a decimal digit. -/
def digitValue (c : Char) : Nat := c.toNat - 48

/-- The value of a hexadecimal digit of either case. -/
def hexValue? (c : Char) : Option Nat :=
  if '0' ≤ c ∧ c ≤ '9' then some (c.toNat - 48)
  else if 'a' ≤ c ∧ c ≤ 'f' then some (c.toNat - 87)
  else if 'A' ≤ c ∧ c ≤ 'F' then some (c.toNat - 55)
  else none

/-- One more than the greatest significand. -/
def significandLimit : Nat := Nat.pow 2 64

/-- The largest power of ten in the table of exact scalings. -/
def scaleLimit : Nat := 308

/-- The double nearest to `10 ^ n`, for `n` up to the table's end. -/
def powerOfTen (n : Nat) : Double := (Double.ofDecimal false 1 n).getD (Double.zero false)

/-- Divides by powers of ten until the exponent is in the table. -/
def scaleDown (x : Double) (down fuel : Nat) : Double :=
  match fuel with
  | 0 => x
  | fuel + 1 =>
    if down ≤ scaleLimit then (x.div (powerOfTen down)).getD x
    else if x.isZero then x
    else scaleDown ((x.div (powerOfTen scaleLimit)).getD x) (down - scaleLimit) fuel

/-- `significand * 10 ^ exponent` in one multiplication, or in as many divisions as are needed. -/
def scaled (negative : Bool) (significand : Nat) (exponent : Int) : Except JsonError Double := do
  let some x := Double.ofNat significand | throw .numberTooLarge
  let signed (x : Double) : Double := if negative then x.neg else x
  if exponent < 0 then
    let down := (-exponent).toNat
    -- four divisions by the largest power take any significand to zero
    return signed (scaleDown x (min down (5 * scaleLimit)) 6)
  else if exponent.toNat ≤ scaleLimit then
    match x.mul (powerOfTen exponent.toNat) with
    | some y => return signed y
    | none => throw .numberTooLarge
  else if x.isZero then return signed x
  else throw .numberTooLarge

/-- Reads digits into the significand as long as it does not overflow, counting them. -/
def readDigits (significand count : Nat) : List Char → Nat × Nat × List Char
  | [] => (significand, count, [])
  | c :: cs =>
    if c.isDigit && significand * 10 + digitValue c < significandLimit then
      readDigits (significand * 10 + digitValue c) (count + 1) cs
    else (significand, count, c :: cs)

/-- The exponent part after its letter. -/
def readExponent (negative : Bool) (significand : Nat) (start : Int) (cs : List Char) :
    Except JsonError (Double × List Char) := do
  let (down, cs) := match cs with
    | '+' :: cs => (false, cs)
    | '-' :: cs => (true, cs)
    | cs => (false, cs)
  match cs with
  | [] => throw .unexpectedEnd
  | c :: _ => unless c.isDigit do throw .badNumber
  let digits := cs.takeWhile Char.isDigit
  let rest := cs.dropWhile Char.isDigit
  let size := digits.foldl (fun n c => min (n * 10 + digitValue c) (Nat.pow 2 31)) 0
  if size = Nat.pow 2 31 then
    if significand ≠ 0 && !down then throw .numberTooLarge
    return (Double.zero negative, rest)
  let x ← scaled negative significand (if down then start - size else start + size)
  return (x, rest)

/-- What may follow the digits of a fraction: an exponent or nothing. -/
def readAfterFraction (negative : Bool) (significand : Nat) (exponent : Int) (cs : List Char) :
    Except JsonError (Double × List Char) :=
  match cs with
  | 'e' :: cs | 'E' :: cs => readExponent negative significand exponent cs
  | cs => do return (← scaled negative significand exponent, cs)

/-- The fraction after its point. -/
def readFraction (negative : Bool) (significand : Nat) (dropped : Nat) (cs : List Char) :
    Except JsonError (Double × List Char) :=
  let (significand', count, rest) := readDigits significand 0 cs
  let exponent : Int := (dropped : Int) - (count : Int)
  match rest with
  | [] =>
    if count = 0 then throw .unexpectedEnd
    else readAfterFraction negative significand' exponent []
  | c :: _ =>
    if c.isDigit then
      readAfterFraction negative significand' exponent (rest.dropWhile Char.isDigit)
    else if count = 0 then throw .badNumber
    else readAfterFraction negative significand' exponent rest

/-- What may follow the integer part. -/
def readAfterInteger (negative : Bool) (significand dropped : Nat) (cs : List Char) :
    Except JsonError (Number × List Char) := do
  match cs with
  | '.' :: cs =>
    let (x, rest) ← readFraction negative significand dropped cs
    return (.float x, rest)
  | 'e' :: cs | 'E' :: cs =>
    let (x, rest) ← readExponent negative significand dropped cs
    return (.float x, rest)
  | cs =>
    if dropped ≠ 0 then return (.float (← scaled negative significand dropped), cs)
    else if !negative then return (.integer significand, cs)
    else if significand = 0 ∨ Nat.pow 2 63 < significand then
      return (.float (← scaled true significand 0), cs)
    else return (.integer (-(significand : Int)), cs)

/-- A number after its sign. -/
def readNumber (negative : Bool) (cs : List Char) : Except JsonError (Number × List Char) :=
  match cs with
  | [] => throw .unexpectedEnd
  | '0' :: rest =>
    match rest with
    | c :: _ => if c.isDigit then throw .badNumber else readAfterInteger negative 0 0 rest
    | [] => readAfterInteger negative 0 0 rest
  | c :: rest =>
    if c.isDigit then
      let (significand, _, rest) := readDigits (digitValue c) 0 rest
      let dropped := (rest.takeWhile Char.isDigit).length
      readAfterInteger negative significand dropped (rest.dropWhile Char.isDigit)
    else throw .badNumber

/-- Four hexadecimal digits. -/
def readHexFour : List Char → Except JsonError (Nat × List Char)
  | a :: b :: c :: d :: rest =>
    match hexValue? a, hexValue? b, hexValue? c, hexValue? d with
    | some a, some b, some c, some d => .ok (a * 4096 + b * 256 + c * 16 + d, rest)
    | _, _, _, _ => throw .badEscape
  | _ => throw .unexpectedEnd

/-- The character of an escape, after the letter `u`: one unit, or a pair of surrogates. -/
def readUnicodeEscape (cs : List Char) : Except JsonError (Char × List Char) := do
  let (unit, rest) ← readHexFour cs
  if 0xDC00 ≤ unit ∧ unit ≤ 0xDFFF then throw .badEscape
  else if 0xD800 ≤ unit ∧ unit ≤ 0xDBFF then
    match rest with
    | '\\' :: 'u' :: rest =>
      let (low, rest) ← readHexFour rest
      if 0xDC00 ≤ low ∧ low ≤ 0xDFFF then
        return (Char.ofNat (0x10000 + (unit - 0xD800) * 1024 + (low - 0xDC00)), rest)
      else throw .badEscape
    | _ => throw .badEscape
  else return (Char.ofNat unit, rest)

/-- The rest of a string after its opening quote; `read` holds the characters so far, last first. -/
def readString (fuel : Nat) (read : List Char) (cs : List Char) :
    Except JsonError (String × List Char) :=
  match fuel, cs with
  | 0, _ | _, [] => throw .unexpectedEnd
  | _ + 1, '"' :: rest => .ok (String.ofList read.reverse, rest)
  | fuel + 1, '\\' :: rest =>
    match rest with
    | '"' :: rest => readString fuel ('"' :: read) rest
    | '\\' :: rest => readString fuel ('\\' :: read) rest
    | '/' :: rest => readString fuel ('/' :: read) rest
    | 'b' :: rest => readString fuel ('\x08' :: read) rest
    | 'f' :: rest => readString fuel ('\x0c' :: read) rest
    | 'n' :: rest => readString fuel ('\n' :: read) rest
    | 'r' :: rest => readString fuel ('\r' :: read) rest
    | 't' :: rest => readString fuel ('\t' :: read) rest
    | 'u' :: rest => do
      let (c, rest) ← readUnicodeEscape rest
      readString fuel (c :: read) rest
    | _ => throw .badEscape
  | fuel + 1, c :: rest =>
    if c.toNat < 32 then throw .controlCharacter else readString fuel (c :: read) rest

/-- Reads the word `word` and gives `value` for it. -/
def readWord (word : List Char) (value : Json) (cs : List Char) :
    Except JsonError (Json × List Char) :=
  match word, cs with
  | [], cs => .ok (value, cs)
  | _ :: _, [] => throw .unexpectedEnd
  | w :: ws, c :: cs => if w = c then readWord ws value cs else throw (.unexpected c)

mutual

/-- Reads a value; `depth` is the number of containers that may still be opened. -/
def readValue (fuel depth : Nat) (cs : List Char) : Except JsonError (Json × List Char) :=
  match fuel with
  | 0 => throw .unexpectedEnd
  | fuel + 1 =>
    match skipBlanks cs with
    | [] => throw .unexpectedEnd
    | 'n' :: rest => readWord ['u', 'l', 'l'] .null rest
    | 't' :: rest => readWord ['r', 'u', 'e'] (.bool true) rest
    | 'f' :: rest => readWord ['a', 'l', 's', 'e'] (.bool false) rest
    | '-' :: rest => do
      let (n, rest) ← readNumber true rest
      return (.number n, rest)
    | '"' :: rest => do
      let (s, rest) ← readString fuel [] rest
      return (.string s, rest)
    | '[' :: rest =>
      match depth with
      | 0 => throw .tooDeep
      | depth + 1 =>
        match skipBlanks rest with
        | ']' :: rest => .ok (.array [], rest)
        | rest => do
          let (items, rest) ← readItems fuel depth [] rest
          return (.array items, rest)
    | '\x7b' :: rest =>
      match depth with
      | 0 => throw .tooDeep
      | depth + 1 =>
        match skipBlanks rest with
        | '\x7d' :: rest => .ok (.object [], rest)
        | rest => do
          let (members, rest) ← readMembers fuel depth [] rest
          return (.object members, rest)
    | c :: rest =>
      if c.isDigit then do
        let (n, rest) ← readNumber false (c :: rest)
        return (.number n, rest)
      else throw (.unexpected c)

/-- Reads items up to the closing bracket; `read` holds those so far, last first. -/
def readItems (fuel depth : Nat) (read : List Json) (cs : List Char) :
    Except JsonError (List Json × List Char) :=
  match fuel with
  | 0 => throw .unexpectedEnd
  | fuel + 1 => do
    let (x, rest) ← readValue fuel depth cs
    match skipBlanks rest with
    | ',' :: rest => readItems fuel depth (x :: read) rest
    | ']' :: rest => return ((x :: read).reverse, rest)
    | [] => throw .unexpectedEnd
    | c :: _ => throw (.unexpected c)

/-- Reads members up to the closing brace. -/
def readMembers (fuel depth : Nat) (read : OrderedMap String Json) (cs : List Char) :
    Except JsonError (OrderedMap String Json × List Char) :=
  match fuel with
  | 0 => throw .unexpectedEnd
  | fuel + 1 =>
    match skipBlanks cs with
    | '"' :: rest => do
      let (key, rest) ← readString fuel [] rest
      match skipBlanks rest with
      | ':' :: rest =>
        let (x, rest) ← readValue fuel depth rest
        let read := OrderedMap.put read key x
        match skipBlanks rest with
        | ',' :: rest => readMembers fuel depth read rest
        | '\x7d' :: rest => return (read, rest)
        | [] => throw .unexpectedEnd
        | c :: _ => throw (.unexpected c)
      | [] => throw .unexpectedEnd
      | c :: _ => throw (.unexpected c)
    | [] => throw .unexpectedEnd
    | c :: _ => throw (.unexpected c)

end

/-- How deep containers may nest. -/
def depthLimit : Nat := 127

/-- Reads a text that is one JSON value and blanks around it. -/
def parse (text : String) : Except JsonError Json := do
  let cs := text.toList
  -- every two steps of the reader take at least one character
  let (value, rest) ← readValue (2 * cs.length + 2) depthLimit cs
  match skipBlanks rest with
  | [] => return value
  | _ => throw .trailing

end Json

end ApiBundle
