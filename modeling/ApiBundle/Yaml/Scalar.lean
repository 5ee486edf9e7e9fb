import ApiBundle.Yaml.Basic

/-!
# The values of YAML scalars

What the text of a plain scalar means: absent values, truth values, integers in four bases, floats,
and texts for all the rest. A tag can demand one of these kinds.
-/

namespace ApiBundle.Yaml

/-- Whether a text writes the absent value. -/
def isNullText (text : String) : Bool := ["null", "Null", "NULL", "~"].contains text

/-- The truth value that a text writes. -/
def boolOf? (text : String) : Option Bool :=
  if ["true", "True", "TRUE"].contains text then some true
  else if ["false", "False", "FALSE"].contains text then some false
  else none

/-- The value of a digit in bases up to sixteen. -/
def digitIn? (base : Nat) (c : Char) : Option Nat :=
  let n :=
    if '0' ≤ c ∧ c ≤ '9' then some (c.toNat - 48)
    else if 'a' ≤ c ∧ c ≤ 'f' then some (c.toNat - 87)
    else if 'A' ≤ c ∧ c ≤ 'F' then some (c.toNat - 55)
    else none
  n.filter (· < base)

/-- The number that digits write in a base. -/
def digitsIn? (base : Nat) (cs : List Char) : Option Nat :=
  if cs.isEmpty then none
  else cs.foldl (fun n c => do return (← n) * base + (← digitIn? base c)) (some 0)

/-- Takes the sign off a text; true is minus. -/
def cutSign : List Char → Bool × List Char
  | '-' :: cs => (true, cs)
  | '+' :: cs => (false, cs)
  | cs => (false, cs)

/-- Whether a text without its sign is digits with a leading zero, which is no number. -/
def hasLeadingZero : List Char → Bool
  | '0' :: c :: cs => (c :: cs).all Char.isDigit
  | _ => false

/-- The integer that a text writes, of any size. -/
def integerOf? (cs : List Char) : Option Int :=
  let (negative, body) := cutSign cs
  let magnitude := match body with
    | '0' :: 'x' :: ds => digitsIn? 16 ds
    | '0' :: 'o' :: ds => digitsIn? 8 ds
    | '0' :: 'b' :: ds => digitsIn? 2 ds
    | ds => if hasLeadingZero ds then none else digitsIn? 10 ds
  magnitude.map fun n => if negative then -(n : Int) else n

/-- How an integer fits into the sizes of machine integers. -/
inductive IntegerSize where
  /-- Into 64 bits, signed or not. -/
  | small
  /-- Into 128 bits only. -/
  | wide
  /-- Into neither. -/
  | huge
  deriving DecidableEq, Repr

/-- The size of an integer. -/
def integerSize (n : Int) : IntegerSize :=
  if -Int.pow 2 63 ≤ n ∧ n < Int.pow 2 64 then .small
  else if -Int.pow 2 127 ≤ n ∧ n < Int.pow 2 128 then .wide
  else .huge

/-- The exponent behind its letter; nothing at all is exponent zero. -/
def exponentOf? (cs : List Char) : Option Int :=
  match cs with
  | [] => some 0
  | c :: rest =>
    if c = 'e' || c = 'E' then
      let (negative, digits) := cutSign rest
      (digitsIn? 10 digits).map fun n => if negative then -(n : Int) else n
    else none

/-- The finite double nearest to a decimal fraction with an optional exponent. -/
def decimalOf? (negative : Bool) (cs : List Char) : Option Double := do
  let whole := cs.takeWhile Char.isDigit
  let rest := cs.drop whole.length
  let fraction := match rest with
    | '.' :: ds => ds.takeWhile Char.isDigit
    | _ => []
  let rest := match rest with
    | '.' :: ds => ds.drop fraction.length
    | ds => ds
  let exponent ← exponentOf? rest
  let digits ← digitsIn? 10 (whole ++ fraction)
  Double.ofDecimal negative digits (exponent - fraction.length)

/-- The float that a text writes; what is too large is none. -/
def floatOf? (text : String) : Option YamlNumber :=
  let (negative, body) := cutSign text.toList
  if [".inf", ".Inf", ".INF"].contains (String.ofList body) then some (.infinite negative)
  else if [".nan", ".NaN", ".NAN"].contains text then some .undefined
  else (decimalOf? negative body).map .float

/-- The integer that a text writes; `none` where it writes none. -/
def readInteger (text : String) : Except Error (Option Yaml) :=
  match integerOf? text.toList with
  | none => .ok none
  | some n =>
    match integerSize n with
    | .small => .ok (some (.number (.integer n)))
    | .wide => .error (.unsuitable text)
    | .huge => .ok none

/-- The value of a plain scalar without a tag. -/
def plainValue (text : String) : Except Error Yaml := do
  if text.isEmpty || isNullText text then return .null
  match boolOf? text with
  | some b => return .bool b
  | none =>
    match ← readInteger text with
    | some v => return v
    | none =>
      if hasLeadingZero (cutSign text.toList).2 then return .string text
      match floatOf? text with
      | some x => return .number x
      | none => return .string text

/-- What the tags of the format itself start with. -/
def coreTag (name : String) : Tag := Tag.ofText ("tag:yaml.org,2002:" ++ name)

/-- The value of a scalar with a tag that is not the document's own, or is no text. -/
def taggedScalar (tag : Tag) (style : ScalarStyle) (text : String) : Except Error Yaml :=
  if tag = coreTag "bool" then
    match boolOf? text with
    | some b => .ok (.bool b)
    | none => .error (.unsuitable text)
  else if tag = coreTag "int" then do
    match ← readInteger text with
    | some v => return v
    | none => throw (.unsuitable text)
  else if tag = coreTag "float" then
    match floatOf? text with
    | some x => .ok (.number x)
    | none => .error (.unsuitable text)
  else if tag = coreTag "null" then
    if isNullText text then .ok .null else .error (.unsuitable text)
  else if Tag.mark.isPrefixOf tag && style = .plain then plainValue text
  else .ok (.string text)

/-- The value of a scalar whose tag, if any, is not the document's own. -/
def scalarValue (tag : Option Tag) (style : ScalarStyle) (text : String) : Except Error Yaml :=
  match tag with
  | some tag => taggedScalar tag style text
  | none => if style = .plain then plainValue text else .ok (.string text)

end ApiBundle.Yaml
