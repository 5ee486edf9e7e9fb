import ApiBundle.Text.Percent
import ApiBundle.Text.Split
import ApiBundle.Uri.Domain

/-!
# Hosts

The host of a URL: a name, or an address of 32 or 128 bits. Hosts of the well-known schemes are read
as domains: percent escapes are decoded, the name is written in ASCII, and a last label that is a
number makes the whole an address. Hosts of other schemes are kept as written.
-/

namespace ApiBundle

/-- Why a text is no URL. -/
inductive UriError where
  /-- A scheme that needs a host has none. -/
  | emptyHost
  /-- A name that cannot be written as a domain. -/
  | badDomainName
  /-- A port that is no number below 65536. -/
  | badPort
  /-- A 32-bit address that cannot be read. -/
  | badIpv4
  /-- A 128-bit address that cannot be read. -/
  | badIpv6
  /-- A character that no host may hold. -/
  | badHostCharacter
  /-- A relative text without a base. -/
  | relativeWithoutBase
  /-- A relative text against a base whose path is opaque. -/
  | relativeToOpaque
  deriving DecidableEq, Repr

/-- The wording of a failure. -/
def UriError.message : UriError → String
  | .emptyHost => "empty host"
  | .badDomainName => "invalid international domain name"
  | .badPort => "invalid port number"
  | .badIpv4 => "invalid IPv4 address"
  | .badIpv6 => "invalid IPv6 address"
  | .badHostCharacter => "invalid domain character"
  | .relativeWithoutBase => "relative URL without a base"
  | .relativeToOpaque => "relative URL with a cannot-be-a-base base"

/-- A host. -/
inductive Host where
  /-- A name. -/
  | name (text : String)
  /-- An address of four octets. -/
  | ipv4 (address : Nat)
  /-- An address of eight 16-bit pieces. -/
  | ipv6 (pieces : List Nat)
  deriving DecidableEq, Repr

namespace Host

/-! ## Numbers in hosts -/

/-- The digits of a number in a base. -/
def digitsIn? (base : Nat) (cs : List Char) : Option Nat :=
  let value (c : Char) : Option Nat :=
    let d := if '0' ≤ c ∧ c ≤ '9' then c.toNat - 48
      else if 'a' ≤ c ∧ c ≤ 'f' then c.toNat - 87
      else if 'A' ≤ c ∧ c ≤ 'F' then c.toNat - 55
      else 99
    if d < base then some d else none
  (cs.mapM value).map fun ds => ds.foldl (fun n d => n * base + d) 0

/-- A number of a 32-bit address: decimal, octal after `0`, hexadecimal after `0x`. -/
def ipv4Number? (cs : List Char) : Option Nat :=
  match cs with
  | [] => none
  | '0' :: 'x' :: rest | '0' :: 'X' :: rest => digitsIn? 16 rest
  | '0' :: c :: rest => digitsIn? 8 (c :: rest)
  | cs => digitsIn? 10 cs

/-- The labels of a name without the empty one after a final dot. -/
def labels (cs : List Char) : List (List Char) :=
  let parts := Text.splitAt '.' cs
  if parts.getLast? = some [] then parts.dropLast else parts

/-- Whether the last label of a name is a number. -/
def endsInNumber (cs : List Char) : Bool :=
  match (labels cs).getLast? with
  | none => false
  | some last => (!last.isEmpty && last.all Char.isDigit) || (ipv4Number? last).isSome

/-- Reads a 32-bit address of one to four numbers, the last of which fills what is left. -/
def ipv4? (cs : List Char) : Option Nat :=
  let parts := labels cs
  if 4 < parts.length then none
  else
    match parts.mapM ipv4Number? with
    | none => none
    | some numbers =>
      match numbers.getLast? with
      | none => none
      | some last =>
        let firsts := numbers.dropLast
        if Nat.pow 2 (32 - 8 * firsts.length) ≤ last || firsts.any (255 < ·) then none
        else
          let shifted := firsts.zipIdx.map fun (n, i) => n * Nat.pow 2 (8 * (3 - i))
          some (shifted.foldl (· + ·) last)

/-! ## Addresses of 128 bits -/

/-- One to four hexadecimal digits. -/
def ipv6Piece? (cs : List Char) : Option Nat :=
  if cs.isEmpty || 4 < cs.length then none else digitsIn? 16 cs

/-- A decimal octet without leading zeros. -/
def octet? (cs : List Char) : Option Nat :=
  if cs.isEmpty || 3 < cs.length || (cs.head? = some '0' && 1 < cs.length) then none
  else (digitsIn? 10 cs).filter (· < 256)

/-- The two pieces of four decimal octets. -/
def dotted? (cs : List Char) : Option (List Nat) :=
  match (Text.splitAt '.' cs).mapM octet? with
  | some [a, b, c, d] => some [a * 256 + b, c * 256 + d]
  | _ => none

/-- Pieces between colons; the last one may be four decimal octets if `dottedLast`. -/
def pieces? (dottedLast : Bool) (cs : List Char) : Option (List Nat) :=
  if cs.isEmpty then some []
  else
    let parts := Text.splitAt ':' cs
    match parts.getLast? with
    | none => some []
    | some last =>
      if dottedLast && last.contains '.' then do
        let firsts ← parts.dropLast.mapM ipv6Piece?
        return firsts ++ (← dotted? last)
      else parts.mapM ipv6Piece?

/-- What stands before and after the first double colon, if there is one. -/
def cutDoubleColon : List Char → List Char × Option (List Char)
  | ':' :: ':' :: rest => ([], some rest)
  | c :: rest =>
    let (before, after) := cutDoubleColon rest
    (c :: before, after)
  | [] => ([], none)

/-- Reads a 128-bit address. -/
def ipv6? (cs : List Char) : Option (List Nat) :=
  match cutDoubleColon cs with
  | (all, none) => (pieces? true all).filter (·.length = 8)
  | (left, some right) => do
    let firsts ← pieces? false left
    let lasts ← pieces? true right
    if 7 < firsts.length + lasts.length then none
    else return firsts ++ List.replicate (8 - firsts.length - lasts.length) 0 ++ lasts

/-- The longest run of zero pieces, the first of equals: where it starts and how long it is. -/
def zeroRun (pieces : List Nat) : Nat × Nat :=
  let runs := (List.range 8).map fun i => (i, ((pieces.drop i).takeWhile (· = 0)).length)
  runs.foldl (fun best run => if best.2 < run.2 then run else best) (0, 0)

/-- A piece in hexadecimal. -/
def pieceText (n : Nat) : String := String.ofList (Nat.toDigits 16 n)

/-- The text of a 128-bit address: the longest run of at least two zeros is left out. -/
def ipv6Text (pieces : List Nat) : String :=
  let (start, length) := zeroRun pieces
  let join (ps : List Nat) : String := ":".intercalate (ps.map pieceText)
  if length < 2 then join pieces
  else join (pieces.take start) ++ "::" ++ join (pieces.drop (start + length))

/-- The text of a host. -/
def text : Host → String
  | name t => t
  | ipv4 n =>
    ".".intercalate
      [toString (n / Nat.pow 2 24), toString (n / Nat.pow 2 16 % 256),
        toString (n / Nat.pow 2 8 % 256),
        toString (n % 256)]
  | ipv6 pieces => "[" ++ ipv6Text pieces ++ "]"

/-! ## Reading -/

/-- The characters that a domain may not hold. -/
def forbiddenInDomain (c : Char) : Bool :=
  c.toNat ≤ 32 || c.toNat = 127 || "%#/:<>?@[\\]^|".toList.contains c

/-- The characters that the host of any other scheme may not hold. -/
def forbiddenInOpaque (c : Char) : Bool :=
  c.toNat = 0 || "\t\n\r #/:<>?@[\\]^|".toList.contains c

/-- The ASCII form of a domain. -/
def domain (cs : List Char) : Except UriError (List Char) :=
  match Domain.toAscii? (Percent.decode cs) with
  | some ascii => if ascii.any forbiddenInDomain then .error .badDomainName else .ok ascii
  | none => .error .badDomainName

/-- An address in brackets, after the opening one. -/
def bracketed (cs : List Char) : Except UriError Host :=
  match cs.getLast? with
  | some ']' =>
    match ipv6? cs.dropLast with
    | some pieces => .ok (ipv6 pieces)
    | none => .error .badIpv6
  | _ => .error .badIpv6

/-- Reads the host of a well-known scheme. -/
def parse (cs : List Char) : Except UriError Host :=
  match cs with
  | '[' :: rest => bracketed rest
  | cs => do
    let ascii ← domain cs
    if ascii.isEmpty then throw .emptyHost
    else if endsInNumber ascii then
      match ipv4? ascii with
      | some n => return ipv4 n
      | none => throw .badIpv4
    else return name (String.ofList ascii)

/-- Reads the host of any other scheme. -/
def parseOpaque (cs : List Char) : Except UriError Host :=
  match cs with
  | '[' :: rest => bracketed rest
  | cs =>
    if cs.any forbiddenInOpaque then .error .badHostCharacter
    else .ok (name (String.ofList (Percent.encode Percent.isControl cs)))

end Host

end ApiBundle
