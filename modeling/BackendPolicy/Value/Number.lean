import BackendPolicy.Decimal.Shortest

/-!
This module contains the numbers of the expression language and their arithmetic. Integers of one sign
are computed as integers of 64 bits, everything else goes through floating point.
-/

namespace BackendPolicy

/--
A number: an integer between `-2 ^ 63` and `2 ^ 64 - 1`, or a floating point number.
-/
inductive Number where
  | int (value : Int)
  | float (value : Float)
deriving Repr, Inhabited

namespace Number

def fits (i : Int) : Bool :=
  -0x8000000000000000 ≤ i ∧ i < 0x10000000000000000

def floatOfInt (i : Int) : Float :=
  if i < 0 then -(Float.ofNat i.natAbs) else Float.ofNat i.natAbs

def toFloat : Number → Float
  | int i => floatOfInt i
  | float f => f

/--
Turn a floating point number into a number. A whole number of 64 bits becomes an integer.
-/
def ofFloat (f : Float) : Number :=
  match (Binary.ofFloat? f).bind Binary.toInt? with
  | some i => if fits i then int i else float f
  | none => float f

def ofDecimal? (digits : Nat) (exponent : Int) : Option Number :=
  let size := (Nat.toDigits 10 digits).length
  let f : Float :=
    if digits = 0 then 0
    else if 400 < (size : Int) + exponent then 1 / 0
    else if (size : Int) + exponent < -400 then 0
    else if exponent < 0 then Float.ofScientific digits true exponent.natAbs
    else Float.ofScientific digits false exponent.natAbs
  if f.isFinite then some (ofFloat f) else none

def toNat? : Number → Option Nat
  | int (.ofNat n) => some n
  | _ => none

def text : Number → String
  | int i => toString i
  | float f => floatText .compact f

def sameSign (i j : Int) : Bool :=
  (0 ≤ i) = (0 ≤ j)

/--
Keep the last 64 bits of a result: as a signed integer if both operands are negative, as an unsigned one
otherwise.
-/
def wrap (i j result : Int) : Int :=
  if i < 0 ∧ j < 0 then result.bmod 0x10000000000000000 else result % 0x10000000000000000

/--
Combine two numbers: integers of one sign as integers, everything else in floating point.
-/
def combine (exact : Int → Int → Int) (rounded : Float → Float → Float) : Number → Number → Number
  | int i, int j =>
    if sameSign i j then
      int (exact i j)
    else
      ofFloat (rounded (floatOfInt i) (floatOfInt j))
  | a, b => ofFloat (rounded a.toFloat b.toFloat)

def floatRem (f g : Float) : Float :=
  match Binary.ofFloat? f, Binary.ofFloat? g with
  | some a, some b => if b.mantissa = 0 then 0 / 0 else (a.rem b).toFloat
  | some _, none => if g.isNaN then g else f
  | none, _ => 0 / 0

def add : Number → Number → Number := combine (fun i j => wrap i j (i + j)) (· + ·)

/--
Subtraction. A negative difference keeps its last 64 bits as a signed integer.
-/
def sub : Number → Number → Number :=
  combine (fun i j => if i < j then (i - j).bmod 0x10000000000000000 else i - j) (· - ·)

/--
Multiplication. A product keeps its last 64 bits as an unsigned integer.
-/
def mul : Number → Number → Number :=
  combine (fun i j => i * j % 0x10000000000000000) (· * ·)

def div (a b : Number) : Number :=
  ofFloat (a.toFloat / b.toFloat)

def rem (a b : Number) : Number :=
  match b with
  | int 0 => ofFloat (floatRem a.toFloat 0)
  | b => combine Int.tmod floatRem a b

/--
Negate a number. The negation of an integer that has no 64 bits stays a floating point number.
-/
def neg : Number → Number
  | int i => if fits (-i) then int (-i) else float (floatOfInt (-i))
  | float f => float (-f)

def beq : Number → Number → Bool
  | int i, int j => i = j
  | a, b => a.toFloat == b.toFloat

instance : BEq Number := ⟨beq⟩

def blt : Number → Number → Bool
  | int i, int j => i < j
  | a, b => a.toFloat < b.toFloat

def ble : Number → Number → Bool
  | int i, int j => i ≤ j
  | a, b => a.toFloat ≤ b.toFloat

end Number

end BackendPolicy
