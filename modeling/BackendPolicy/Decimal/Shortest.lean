import BackendPolicy.Decimal.Binary

/-!
This module contains the shortest decimal that reads back as a given binary number, and the ways to
write it. A decimal reads back if it lies between the midpoints to the two neighbouring binary numbers.
Of the decimals with the fewest digits the nearest one is taken.
-/

namespace BackendPolicy

/--
The decimal `digits * 10 ^ exponent`.
-/
structure Decimal where
  digits : Nat
  exponent : Int
deriving DecidableEq, Repr

namespace Decimal

/--
The decimals that read back as one binary number: those between `low` and `high`, in units of
`2 ^ exponent`. The binary number itself is `value` units. The ends belong to it if `closed`.
-/
structure Interval where
  low : Nat
  value : Nat
  high : Nat
  exponent : Int
  closed : Bool

/--
Turn a binary number into the interval of the decimals that read back as it. Below a power of two the
neighbour is only half as far away.
-/
def Interval.ofBinary (b : Binary) : Interval :=
  let value := 4 * b.mantissa
  let low := if b.mantissa = 0x10000000000000 ∧ b.exponent ≠ -1074 then value - 1 else value - 2
  ⟨low, value, value + 2, b.exponent - 2, b.mantissa % 2 = 0⟩

/--
A comparison of units of an interval with steps of `10 ^ exponent`: `x` units are `x * unit`, and `d`
steps are `d * step`.
-/
structure Scale where
  unit : Nat
  step : Nat

def Interval.scale (i : Interval) (exponent : Int) : Scale :=
  ⟨Nat.pow 2 i.exponent.toNat * Nat.pow 10 (-exponent).toNat,
    Nat.pow 2 (-i.exponent).toNat * Nat.pow 10 exponent.toNat⟩

def Interval.contains (i : Interval) (s : Scale) (d : Nat) : Bool :=
  if i.closed then
    i.low * s.unit ≤ d * s.step ∧ d * s.step ≤ i.high * s.unit
  else
    i.low * s.unit < d * s.step ∧ d * s.step < i.high * s.unit

/--
The decimal of the interval on the grid of `10 ^ exponent` that is nearest to the value, if there is one.
Of two that are equally near it is the one with an even last digit.
-/
def Interval.nearest? (i : Interval) (exponent : Int) : Option Decimal :=
  let s := i.scale exponent
  let below := i.value * s.unit / s.step
  let above := below + 1
  let belowDistance := i.value * s.unit - below * s.step
  let aboveDistance := above * s.step - i.value * s.unit
  let belowIsNearest : Bool :=
    belowDistance < aboveDistance || (belowDistance = aboveDistance && below % 2 = 0)
  if i.contains s below ∧ (belowIsNearest ∨ ¬ i.contains s above) then
    some ⟨below, exponent⟩
  else if i.contains s above then
    some ⟨above, exponent⟩
  else
    none

/--
The number of digits before the decimal point of the value. It is negative if zeros follow the point.
-/
def Interval.point (i : Interval) : Int :=
  -- The factor is the decimal logarithm of two, rounded. The exact place is found next to the estimate.
  let estimate := ((Nat.log2 i.value : Int) + i.exponent) * 30103 / 100000
  let reaches (k : Int) : Bool :=
    let s := i.scale k
    s.step ≤ i.value * s.unit
  (([estimate + 2, estimate + 1, estimate].find? reaches).getD (estimate - 1)) + 1

def trim (d : Decimal) : Decimal :=
  go d.digits d
where
  go : Nat → Decimal → Decimal
    | 0, d => d
    | fuel + 1, d =>
      if d.digits ≠ 0 ∧ d.digits % 10 = 0 then go fuel ⟨d.digits / 10, d.exponent + 1⟩ else d

def shortest (b : Binary) : Decimal :=
  if b.mantissa = 0 then
    ⟨0, 0⟩
  else
    let i := Interval.ofBinary b
    let point := i.point
    let hit := (List.range 17).findSome? fun (n : Nat) => i.nearest? (point - (n + 1))
    (hit.getD ⟨i.value * Nat.pow 2 i.exponent.toNat, 0⟩).trim

structure Layout where
  isPositional : Int → Bool
  keepsPoint : Bool

/--
Sixteen digits before the point and four zeros after it are written out; beyond that an exponent is
written.
-/
def Layout.compact : Layout := ⟨fun point => -5 < point ∧ point ≤ 16, false⟩

def Layout.compactPointed : Layout := { Layout.compact with keepsPoint := true }

def Layout.expanded : Layout := ⟨fun _ => true, true⟩

def text (layout : Layout) (d : Decimal) : String :=
  let digits := (Nat.toDigits 10 d.digits)
  let point := (digits.length : Int) + d.exponent
  if d.digits = 0 then
    if layout.keepsPoint then "0.0" else "0"
  else if layout.isPositional point then
    if 0 ≤ d.exponent then
      let whole := digits ++ List.replicate d.exponent.toNat '0'
      String.ofList (if layout.keepsPoint then whole ++ ['.', '0'] else whole)
    else if 0 < point then
      String.ofList (digits.take point.toNat ++ '.' :: digits.drop point.toNat)
    else
      String.ofList ('0' :: '.' :: (List.replicate (-point).toNat '0' ++ digits))
  else
    let fraction := digits.drop 1
    let mantissa := if fraction.isEmpty then digits else digits.take 1 ++ '.' :: fraction
    String.ofList mantissa ++ "e" ++ toString (point - 1)

end Decimal

def floatText (layout : Decimal.Layout) (f : Float) : String :=
  match Binary.ofFloat? f with
  | some b => (if b.negative then "-" else "") ++ (Decimal.shortest b).text layout
  | none => if f.isNaN then "NaN" else if f < 0 then "-inf" else "inf"

end BackendPolicy
