/-!
Floating-point numbers with fifty-three binary digits, in exact arithmetic on natural numbers. A
number is a sign and a magnitude `significand · 2 ^ exponent`; quotients of naturals are rounded to
the nearest magnitude, ties going to the even one. Decimal notation is read with one rounded product
or quotient, and written with the fewest digits that lie nearer to the number than to any other.
-/

namespace Flowsmith

/-- A finite number that is not negative: `significand · 2 ^ exponent`, with a significand below `2
    ^ 53` and an exponent from `-1074` on. Zero has the exponent `-1074`. -/
structure Magnitude where
  significand : Nat
  exponent : Int
deriving DecidableEq, Repr

namespace Magnitude

def zero : Magnitude := ⟨0, -1074⟩

/-- The least significand of fifty-three binary digits, `2 ^ 52`. -/
def leastFull : Nat := 4503599627370496

/-- Whether the magnitude is zero. -/
def isZero (m : Magnitude) : Bool :=
  m.significand == 0

/-- The quotient rounded to the nearest natural, ties to even. -/
def roundedQuotient (num den : Nat) : Nat :=
  let q := num / den
  let r := num % den
  if 2 * r < den then q
  else if 2 * r = den then q + q % 2
  else q + 1

/-- `num · 2 ^ shift / den` as a pair of naturals. -/
def scaledRatio (num den : Nat) (shift : Int) : Nat × Nat :=
  if 0 ≤ shift then (num * Nat.pow 2 shift.toNat, den)
  else (num, den * Nat.pow 2 (-shift).toNat)

/-- The exponent at which the quotient, divided by that power of two, has fifty-three binary digits,
    or the least exponent there is. -/
def exponentFor (num den : Nat) : Int :=
  let guess : Int := (Nat.log2 num : Int) - (Nat.log2 den : Int) - 52
  let (n, d) := scaledRatio num den (-guess)
  max (if n < d * leastFull then guess - 1 else guess) (-1074)

/-- The magnitude nearest to `num / den`; `none` when it is too large. -/
def nearest (num den : Nat) : Option Magnitude :=
  if num = 0 ∨ den = 0 then some zero
  else
    let e := exponentFor num den
    let (n, d) := scaledRatio num den (-e)
    let s := roundedQuotient n d
    let m : Magnitude := if s = 2 * leastFull then ⟨leastFull, e + 1⟩ else ⟨s, e⟩
    if m.exponent > 971 then none else some m

/-- The product, rounded. -/
def mul (a b : Magnitude) : Option Magnitude :=
  let (n, d) := scaledRatio (a.significand * b.significand) 1 (a.exponent + b.exponent)
  nearest n d

/-- The quotient, rounded. -/
def div (a b : Magnitude) : Option Magnitude :=
  let (n, d) := scaledRatio a.significand b.significand (a.exponent - b.exponent)
  nearest n d

/-- The magnitude nearest to a power of ten. -/
def tenPower (k : Nat) : Option Magnitude :=
  nearest (Nat.pow 10 k) 1

/-- The largest power of ten that has a magnitude. -/
def greatestTenPower : Nat := 308

/-- Divide by `10 ^ k`, in steps of the greatest power of ten while it is smaller. -/
def divideByTenPower (m : Magnitude) (k : Nat) : Option Magnitude :=
  if m.isZero then some m
  else if _ : greatestTenPower < k then do
    let step ← m.div (← tenPower greatestTenPower)
    divideByTenPower step (k - greatestTenPower)
  else do m.div (← tenPower k)
termination_by k
decreasing_by simp only [greatestTenPower] at *; omega

/-- The magnitude of `digits · 10 ^ exponent`: the digits are rounded, then their product with, or
    quotient by, the rounded power of ten. `none` when it is too large. -/
def ofDecimal (digits : Nat) (exponent : Int) : Option Magnitude := do
  let m ← nearest digits 1
  if m.isZero then some m
  else if 0 ≤ exponent then
    if exponent.toNat ≤ greatestTenPower then m.mul (← tenPower exponent.toNat) else none
  else m.divideByTenPower (-exponent).toNat

/-- Decimal digits and the power of ten of the first one: `d₁.d₂d₃… · 10 ^ exponent`. -/
structure Decimal where
  digits : List Char
  exponent : Int
deriving DecidableEq, Repr

/-- Steps down from `start` until `10 ^ e ≤ num / den`. -/
def tenExponentFrom (num den : Nat) : Nat → Int → Int
  | 0, e => e
  | fuel + 1, e =>
      let reached := if 0 ≤ e then den * Nat.pow 10 e.toNat ≤ num
        else den ≤ num * Nat.pow 10 (-e).toNat
      if reached then e else tenExponentFrom num den fuel (e - 1)

/-- The exponent of the first decimal digit of `num / den`. -/
def tenExponent (num den : Nat) : Int :=
  tenExponentFrom num den 700 309

/-- The bounds of the numbers that round to a magnitude, in quarters of its last place, and whether
    the bounds themselves do. -/
structure Rounding where
  low : Nat
  value : Nat
  high : Nat
  closed : Bool

/-- Below a power of two the neighbour is nearer. -/
def rounding (m : Magnitude) : Rounding :=
  let mid := 4 * m.significand
  let low := if m.significand = leastFull ∧ m.exponent > -1074 then mid - 1 else mid - 2
  ⟨low, mid, mid + 2, m.significand % 2 = 0⟩

/-- Whether a number lies in the bounds. -/
def Rounding.admits (r : Rounding) (num den : Nat) : Bool :=
  if r.closed then r.low * den ≤ num && num ≤ r.high * den
  else r.low * den < num && num < r.high * den

/-- The decimal of `count` digits that is nearest to the magnitude among those that round to it. -/
def decimalOf? (m : Magnitude) (count : Nat) : Option Decimal :=
  let r := m.rounding
  let (unitNum, unitDen) := scaledRatio 1 1 (m.exponent - 2)
  let e := tenExponent (r.value * unitNum) unitDen
  -- one unit of the last decimal place, measured in quarters of the last binary place
  let place := e - (count : Int) + 1
  let (stepNum, stepDen) :=
    if 0 ≤ place then (unitDen * Nat.pow 10 place.toNat, unitNum)
    else (unitDen, unitNum * Nat.pow 10 (-place).toNat)
  let below := r.value * stepDen / stepNum
  let above := below + 1
  let belowFits := r.admits (below * stepNum) stepDen
  let aboveFits := r.admits (above * stepNum) stepDen
  let belowGap := r.value * stepDen - below * stepNum
  let aboveGap := above * stepNum - r.value * stepDen
  let chosen :=
    if belowFits && aboveFits then
      some (if belowGap < aboveGap ∨ (belowGap = aboveGap ∧ below % 2 = 0) then below else above)
    else if belowFits then some below
    else if aboveFits then some above
    else none
  chosen.map fun n =>
    let digits := Nat.toDigits 10 n
    ⟨(digits.reverse.dropWhile (· == '0')).reverse, place + (digits.length : Int) - 1⟩

/-- The fewest digits that stand for the magnitude. -/
def shortest (m : Magnitude) : Decimal :=
  ((List.range 17).findSome? (fun i => m.decimalOf? (i + 1))).getD ⟨['0'], 0⟩

end Magnitude

/-- A finite floating-point number; zero has a sign too. -/
structure Binary64 where
  negative : Bool
  magnitude : Magnitude
deriving DecidableEq, Repr

namespace Binary64

/-- How the text of a number is written. -/
structure DecimalStyle where
  /-- The least exponent of the first digit that is written positionally. -/
  leastPositional : Int
  /-- The first exponent beyond the positional ones. -/
  endPositional : Int

/-- Numbers from `10 ^ -5` up to `10 ^ 16` are written positionally. -/
def jsonStyle : DecimalStyle := ⟨-5, 16⟩

/-- Digits with a point in them; at least one digit stands on either side. -/
def positional (d : Magnitude.Decimal) : List Char :=
  if d.exponent < 0 then
    ['0', '.'] ++ List.replicate (-d.exponent - 1).toNat '0' ++ d.digits
  else
    let whole := d.exponent.toNat + 1
    let padded := d.digits ++ List.replicate (whole - d.digits.length) '0'
    let fraction := padded.drop whole
    padded.take whole ++ '.' :: (if fraction.isEmpty then ['0'] else fraction)

/-- One digit, the others after a point, and the exponent with its sign. -/
def scientific (d : Magnitude.Decimal) : List Char :=
  let fraction := d.digits.drop 1
  d.digits.take 1 ++ (if fraction.isEmpty then [] else '.' :: fraction) ++ ['e'] ++
    (if d.exponent < 0 then ['-'] else ['+']) ++ Nat.toDigits 10 d.exponent.natAbs

/-- The text of a number: the fewest digits that read back. -/
def text (x : Binary64) : String :=
  let unsigned :=
    if x.magnitude.isZero then ['0', '.', '0']
    else
      let d := x.magnitude.shortest
      if jsonStyle.leastPositional ≤ d.exponent ∧ d.exponent < jsonStyle.endPositional then
        positional d
      else scientific d
  String.ofList (if x.negative then '-' :: unsigned else unsigned)

end Binary64

end Flowsmith
