import ApiBundle.Decimal.Double

/-!
# Shortest decimal text

The decimal with the fewest digits that rounds back to a given double, and among those the nearest
to it. The reals that round to a double form an interval around it, ends included when the mantissa
is even; a grid of decimals meets the interval if and only if one of the two grid points next to the
double lies in it, so it is enough to try those two on ever finer grids.
-/

namespace ApiBundle

/-- The positive decimal `digits * 10 ^ power`. -/
structure Decimal where
  /-- The significant digits as one number. -/
  digits : Nat
  /-- The power of ten of the last digit. -/
  power : Int
  deriving DecidableEq, Repr

namespace Decimal

/-- The least number of decimal digits of a natural number; one for zero. -/
def digitCount (n : Nat) : Nat := (Nat.toDigits 10 n).length

/-- Takes trailing zeros off the digits. -/
def trimmed (d : Decimal) : Decimal :=
  go d.digits d.power d.digits
where
  /-- Divides by ten while that is exact, at most `fuel` times. -/
  go (digits : Nat) (power : Int) (fuel : Nat) : Decimal :=
    match fuel with
    | 0 => ⟨digits, power⟩
    | fuel + 1 =>
      if digits ≠ 0 ∧ digits % 10 = 0 then go (digits / 10) (power + 1) fuel else ⟨digits, power⟩

/-- Whether `a / b ≤ c / d`, or `<` when `strict`. -/
def ratioBelow (strict : Bool) (a b c d : Nat) : Bool :=
  if strict then a * d < c * b else a * d ≤ c * b

end Decimal

namespace Double

/--
The interval of reals that round to a nonzero magnitude, as numerators over one denominator:
the lower end, the value, the upper end, and the denominator.
-/
def interval (x : Double) : Nat × Nat × Nat × Nat :=
  let narrowBelow := x.mantissa = Nat.pow 2 52 ∧ -1074 < x.exponent
  let low := 4 * x.mantissa - (if narrowBelow then 1 else 2)
  let mid := 4 * x.mantissa
  let high := 4 * x.mantissa + 2
  let (scale, den) := shifted 1 4 x.exponent
  (low * scale, mid * scale, high * scale, den)

/-- The decimal nearest to the value on the grid of spacing `10 ^ power`, if it reads back. -/
def onGrid? (x : Double) (power : Int) : Option Decimal :=
  let (low, mid, high, den) := x.interval
  let strict := x.mantissa % 2 = 1
  let (num, den, low, high) :=
    if 0 ≤ power then (mid, den * Nat.pow 10 power.toNat, low, high)
    else
      let up := Nat.pow 10 (-power).toNat
      (mid * up, den, low * up, high * up)
  let below := num / den
  let above := below + 1
  let fits (n : Nat) : Bool :=
    n ≠ 0 && Decimal.ratioBelow strict low den n 1 && Decimal.ratioBelow strict n 1 high den
  let nearer := if 2 * (num % den) < den then below
    else if den < 2 * (num % den) then above
    else if below % 2 = 0 then below else above
  if fits nearer then some ⟨nearer, power⟩
  else if fits below then some ⟨below, power⟩
  else if fits above then some ⟨above, power⟩
  else none

/-- The power of ten of the leading digit of the value. -/
def decimalMagnitude (x : Double) : Int :=
  let (_, mid, _, den) := x.interval
  if den ≤ mid then (Decimal.digitCount (mid / den) : Int) - 1
  else
    -- one more than the number of digits of `den / mid` is always enough room
    let guess : Nat := Decimal.digitCount (den / mid)
    if den ≤ mid * Nat.pow 10 (guess - 1) then -((guess - 1 : Nat) : Int) else -(guess : Int)

/-- The shortest decimal that reads back as the magnitude of a nonzero value. -/
def shortest (x : Double) : Decimal :=
  let top := x.decimalMagnitude
  match (List.range 17).findSome? fun (n : Nat) => x.onGrid? (top - (n : Int)) with
  | some d => d.trimmed
  | none => ⟨x.mantissa, x.exponent⟩

/-- How a format writes a double. -/
structure TextStyle where
  /-- The least decimal exponent written positionally. -/
  leastPositional : Int
  /-- The first decimal exponent too large to be written positionally. -/
  mostPositional : Int
  /-- What stands before an exponent that is not negative. -/
  positiveMark : String

/-- Zeros, `count` of them. -/
def zeros (count : Nat) : String := String.ofList (List.replicate count '0')

/-- Writes a double in a style; a whole number keeps one zero after the point. -/
def text (style : TextStyle) (x : Double) : String :=
  let sign := if x.negative then "-" else ""
  if x.isZero then sign ++ "0.0"
  else
    let d := x.shortest
    let digits := Nat.toDigits 10 d.digits
    let count := digits.length
    let e : Int := d.power + count - 1
    let body :=
      if style.leastPositional ≤ e ∧ e < style.mostPositional then
        if 0 ≤ d.power then String.ofList digits ++ zeros d.power.toNat ++ ".0"
        else if 0 ≤ e then
          String.ofList (digits.take (e.toNat + 1)) ++ "." ++
            String.ofList (digits.drop (e.toNat + 1))
        else "0." ++ zeros ((-e).toNat - 1) ++ String.ofList digits
      else
        let mantissa := match digits with
          | [] => ""
          | [c] => String.singleton c
          | c :: rest => String.singleton c ++ "." ++ String.ofList rest
        mantissa ++ "e" ++ (if 0 ≤ e then style.positiveMark else "") ++ toString e
    sign ++ body

end Double

end ApiBundle
