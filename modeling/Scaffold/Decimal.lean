/-!
# Numbers in double precision

A `Double` is a mantissa of at most 53 bits times a power of two.  `Double.ofRatio` rounds a
quotient to the nearest one, a half to the even mantissa; products and quotients of doubles round
once.  `Double.ofDecimal` reads decimal digits: as many leading digits as fit 64 bits are scaled by
a power of ten, with one rounding for each step.
-/

set_option autoImplicit false

namespace Scaffold.Decimal

/-- A number that is not negative, as `mantissa` times two to the `exponent`. -/
structure Double where
  mantissa : Nat
  exponent : Int
  deriving DecidableEq, Repr, Inhabited

/-- The quotient to the nearest whole number, a half to the even one. -/
def roundHalfEven (num den : Nat) : Nat :=
  let floor := num / den
  let rest := 2 * (num % den)
  if rest < den then floor
  else if rest = den then floor + floor % 2
  else floor + 1

/-- `num / den` divided by two to the `exponent`, as a quotient. -/
def scaledRatio (num den : Nat) (exponent : Int) : Nat × Nat :=
  (num * Nat.pow 2 (-exponent).toNat, den * Nat.pow 2 exponent.toNat)

namespace Double

def zero : Double := ⟨0, -1074⟩

def leastExponent : Int := -1074

/-- The double nearest to a quotient, a half to the even mantissa; large exponents are not
bounded. -/
def ofRatio (num den : Nat) : Double :=
  if num = 0 then zero
  else
    let near : Int := max ((num.log2 : Int) - den.log2 - 53) leastExponent
    let (n, d) := scaledRatio num den near
    let exponent := if n / d < Nat.pow 2 53 then near else near + 1
    let (n, d) := scaledRatio num den exponent
    let mantissa := roundHalfEven n d
    if mantissa = Nat.pow 2 53 then ⟨Nat.pow 2 52, exponent + 1⟩ else ⟨mantissa, exponent⟩

def ratio (x : Double) : Nat × Nat := scaledRatio x.mantissa 1 (-x.exponent)

def mul (x y : Double) : Double :=
  let (a, b) := x.ratio
  let (c, d) := y.ratio
  ofRatio (a * c) (b * d)

def div (x y : Double) : Double :=
  let (a, b) := x.ratio
  let (c, d) := y.ratio
  ofRatio (a * d) (b * c)

def powerOfTen (n : Nat) : Double := ofRatio (Nat.pow 10 n) 1

/-- Scales by a power of ten; powers beyond the range of doubles in steps. -/
def scale (x : Double) (exponent : Int) : Double :=
  if 0 ≤ exponent then
    if x.mantissa = 0 then x else x.mul (powerOfTen exponent.toNat)
  else if -308 ≤ exponent then x.div (powerOfTen exponent.natAbs)
  else if x.mantissa = 0 then x
  else scale (x.div (powerOfTen 308)) (exponent + 308)
  termination_by exponent.natAbs
  decreasing_by omega

/-- The leading digits that fit 64 bits, and how many digits are left out. -/
def leading (digits : Nat) (dropped : Nat) : Nat × Nat :=
  if h : digits < Nat.pow 2 64 then (digits, dropped) else leading (digits / 10) (dropped + 1)
  termination_by digits
  decreasing_by
    have : 0 < Nat.pow 2 64 := by decide
    omega

/-- The double that `digits` times ten to the `exponent` is read as. -/
def ofDecimal (digits : Nat) (exponent : Int) : Double :=
  let (kept, dropped) := leading digits 0
  (ofRatio kept 1).scale (exponent + dropped)

end Double

end Scaffold.Decimal
