/-!
# Binary64 values

A finite double is a sign and an exact dyadic magnitude `mantissa * 2 ^ exponent`, kept in the one
form that a 53-bit format has for it. Every operation goes through `Double.round`, which takes an
exact ratio to the nearest value of the format, ties to the even mantissa, and answers `none` where
the magnitude is too large. All of it is arithmetic on natural numbers.
-/

namespace ApiBundle

/-- A finite value of the 64-bit binary format. -/
structure Double where
  /-- The sign; both zeros exist. -/
  negative : Bool
  /-- Below `2 ^ 53`, and at least `2 ^ 52` unless the exponent is the least one. -/
  mantissa : Nat
  /-- From -1074 to 971. -/
  exponent : Int
  deriving DecidableEq, Repr, Inhabited

namespace Double

/-- Zero of either sign. -/
def zero (negative : Bool) : Double := ⟨negative, 0, -1074⟩

/-- Whether this is one of the two zeros. -/
def isZero (x : Double) : Bool := x.mantissa == 0

/-- Numeric equality: the two zeros are equal. -/
def sameValue (x y : Double) : Bool :=
  x.mantissa == y.mantissa && x.exponent == y.exponent && (x.negative == y.negative || x.isZero)

/-- `num / den` to the nearest natural number, a half to the even one. -/
def divideToEven (num den : Nat) : Nat :=
  let q := num / den
  let r := num % den
  if 2 * r < den then q
  else if den < 2 * r then q + 1
  else if q % 2 = 0 then q else q + 1

/-- The fraction `num * 2 ^ up / den` with a possibly negative shift, as a pair. -/
def shifted (num den : Nat) (up : Int) : Nat × Nat :=
  if 0 ≤ up then (num * Nat.pow 2 up.toNat, den) else (num, den * Nat.pow 2 (-up).toNat)

/-- The greatest `e` with `2 ^ e ≤ num / den`, for positive arguments. -/
def binaryMagnitude (num den : Nat) : Int :=
  let guess : Int := (num.log2 : Int) - (den.log2 : Int)
  let (n, d) := shifted num den (-guess)
  if n < d then guess - 1 else guess

/-- The value nearest to `num / den`; `none` beyond the largest finite value. -/
def round (negative : Bool) (num den : Nat) : Option Double :=
  if num = 0 ∨ den = 0 then some (zero negative)
  else
    let exponent := max (binaryMagnitude num den - 52) (-1074)
    let (n, d) := shifted num den (-exponent)
    let m := divideToEven n d
    let (m, exponent) := if m = Nat.pow 2 53 then (Nat.pow 2 52, exponent + 1) else (m, exponent)
    if 971 < exponent then none else some ⟨negative, m, exponent⟩

/-- The magnitude as an exact ratio. -/
def ratio (x : Double) : Nat × Nat := shifted x.mantissa 1 x.exponent

/-- The value nearest to a natural number. -/
def ofNat (n : Nat) : Option Double := round false n 1

/-- The nearest value to the product; `none` on overflow. -/
def mul (x y : Double) : Option Double :=
  let (a, b) := x.ratio
  let (c, d) := y.ratio
  round (x.negative != y.negative) (a * c) (b * d)

/-- The nearest value to the quotient by a value that is not zero; `none` on overflow. -/
def div (x y : Double) : Option Double :=
  let (a, b) := x.ratio
  let (c, d) := y.ratio
  round (x.negative != y.negative) (a * d) (b * c)

/-- The value of the opposite sign. -/
def neg (x : Double) : Double := { x with negative := !x.negative }

/--
The value nearest to `digits * 10 ^ power`. Powers so far out that the answer is decided by the
number of digits alone are not computed.
-/
def ofDecimal (negative : Bool) (digits : Nat) (power : Int) : Option Double :=
  let size : Int := (Nat.log2 digits / 3 : Nat)
  if digits = 0 then some (zero negative)
  else if 400 < power then none
  else if power < -400 - size - 1 then some (zero negative)
  else if 0 ≤ power then round negative (digits * Nat.pow 10 power.toNat) 1
  else round negative digits (Nat.pow 10 (-power).toNat)

end Double

end ApiBundle
