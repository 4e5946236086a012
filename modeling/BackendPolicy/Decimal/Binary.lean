/-!
This module contains the exact reading of a finite binary floating point number as `m * 2 ^ q`.
-/

namespace BackendPolicy

/--
A finite binary number: the value is `mantissa * 2 ^ exponent`, negated if `negative`.
-/
structure Binary where
  negative : Bool
  mantissa : Nat
  exponent : Int
deriving DecidableEq, Repr

namespace Binary

/--
Turn a 64 bit floating point number into its sign, mantissa and exponent. Infinities and NaN have none.
-/
def ofFloat? (f : Float) : Option Binary :=
  let bits : Nat := f.toBits.toNat
  let negative : Bool := bits / 0x8000000000000000 = 1
  let biased : Nat := bits / 0x10000000000000 % 0x800
  let fraction : Nat := bits % 0x10000000000000
  if biased = 2047 then
    none
  else if biased = 0 then
    some ⟨negative, fraction, -1074⟩
  else
    some ⟨negative, fraction + 0x10000000000000, (biased : Int) - 1075⟩

def toFloat (b : Binary) : Float :=
  let magnitude := (Float.ofNat b.mantissa).scaleB b.exponent
  if b.negative then -magnitude else magnitude

def toInt? (b : Binary) : Option Int :=
  let magnitude : Option Nat :=
    if 0 ≤ b.exponent then
      some (b.mantissa * Nat.pow 2 b.exponent.toNat)
    else
      let scale := Nat.pow 2 (-b.exponent).toNat
      if b.mantissa % scale = 0 then some (b.mantissa / scale) else none
  magnitude.map fun n => if b.negative then -(n : Int) else n

/--
The remainder of a division that is rounded toward zero. It is exact and has the sign of the dividend.
-/
def rem (a b : Binary) : Binary :=
  let exponent := min a.exponent b.exponent
  let dividend := a.mantissa * Nat.pow 2 (a.exponent - exponent).toNat
  let divisor := b.mantissa * Nat.pow 2 (b.exponent - exponent).toNat
  ⟨a.negative, dividend % divisor, exponent⟩

end Binary

end BackendPolicy
