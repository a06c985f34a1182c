import Scaffold.Decimal

/-!
# The shortest decimal of a double

Of the decimals that round to a double, those with the fewest digits are short, and of the short
ones the nearest is taken, the larger one when two are equally near.  `Shortest.text` writes it
without an exponent.
-/

set_option autoImplicit false

namespace Scaffold.Decimal.Shortest

/-- `digits` times ten to the `exponent`. -/
structure Digits where
  digits : Nat
  exponent : Int
  deriving DecidableEq, Repr, Inhabited

def Digits.ratio (d : Digits) : Nat × Nat :=
  (d.digits * Nat.pow 10 d.exponent.toNat, Nat.pow 10 (-d.exponent).toNat)

def compareRatio (x y : Nat × Nat) : Ordering := compare (x.1 * y.2) (y.1 * x.2)

def quarters (x : Double) (count : Nat) : Nat × Nat := Double.ratio ⟨count, x.exponent - 2⟩

/-- The decimal rounds to the double: it lies between the halves of the gaps on both sides, and on
an end only when the mantissa is even.  The gap below a power of two is half as wide. -/
def readsBack (x : Double) (d : Digits) : Bool :=
  let narrow := x.mantissa = Nat.pow 2 52 ∧ Double.leastExponent < x.exponent
  let low := quarters x (4 * x.mantissa - if narrow then 1 else 2)
  let high := quarters x (4 * x.mantissa + 2)
  let even := x.mantissa % 2 = 0
  let above := compareRatio d.ratio low
  let below := compareRatio d.ratio high
  (above = .gt ∨ (even ∧ above = .eq)) ∧ (below = .lt ∨ (even ∧ below = .eq))

/-- The least power of ten above a quotient, searched upwards from `start`. -/
def magnitudeFrom (x : Nat × Nat) : Nat → Int → Int
  | 0, start => start
  | fuel + 1, start =>
    if compareRatio x (Digits.ratio ⟨1, start⟩) = .lt then start
      else magnitudeFrom x fuel (start + 1)

def magnitude (x : Double) : Int :=
  let bits : Int := (x.mantissa.log2 : Int) + x.exponent
  magnitudeFrom x.ratio 4 (bits * 30103 / 100000 - 1)

/-- The nearest decimal with a given last place that rounds to the double. -/
def onGrid? (x : Double) (exponent : Int) : Option Digits :=
  let (num, den) := x.ratio
  let (gridNum, gridDen) := Digits.ratio ⟨1, exponent⟩
  let floor := num * gridDen / (den * gridNum)
  let lower : Digits := ⟨floor, exponent⟩
  let upper : Digits := ⟨floor + 1, exponent⟩
  let (middleNum, middleDen) := Digits.ratio ⟨2 * floor + 1, exponent⟩
  let nearerUpper := compareRatio x.ratio (middleNum, 2 * middleDen) ≠ .lt
  if nearerUpper then
    if readsBack x upper then some upper else if readsBack x lower then some lower else none
  else if readsBack x lower then some lower else if readsBack x upper then some upper else none

def stripZeros : Nat → Digits → Digits
  | 0, d => d
  | fuel + 1, d =>
    if d.digits ≠ 0 ∧ d.digits % 10 = 0 then stripZeros fuel ⟨d.digits / 10, d.exponent + 1⟩ else d

/-- The shortest decimal of a double; at most seventeen digits are tried. -/
def digits (x : Double) : Digits :=
  if x.mantissa = 0 then ⟨0, 0⟩
  else
    let top := magnitude x
    match (List.range 17).findSome? fun n => onGrid? x (top - (n + 1 : Nat)) with
    | some d => stripZeros 17 d
    | none => ⟨x.mantissa, 0⟩

/-- Positional notation, with a point only in front of further digits. -/
def Digits.text (d : Digits) : String :=
  let shown := Nat.toDigits 10 d.digits
  let places := (-d.exponent).toNat
  let padded := List.replicate (places + 1 - shown.length) '0' ++ shown
    ++ List.replicate d.exponent.toNat '0'
  let whole := padded.take (padded.length - places)
  String.ofList
    (if places = 0 then padded else whole ++ '.' :: padded.drop (padded.length - places))

def text (x : Double) : String := (digits x).text

end Scaffold.Decimal.Shortest
