/-!
# Binary64 numbers

A number with a fraction or an exponent is a binary64 number.  `Double` holds its bits, so that two
numbers are equal exactly when nothing can tell them apart: the two zeros differ, and a NaN is equal
to itself.
-/

namespace LayeredMarks

/-- A binary64 number, by its bits. -/
structure Double where
  /-- Sign, eleven bits of exponent and 52 bits of fraction. -/
  bits : UInt64
deriving DecidableEq, Repr, Inhabited

namespace Double

/-- The exponent field. -/
def exponentField (x : Double) : Nat := ((x.bits >>> 52) &&& 0x7FF).toNat

/-- The fraction field. -/
def fractionField (x : Double) : Nat := (x.bits &&& 0xFFFFFFFFFFFFF).toNat

/-- Whether the sign bit is set. -/
def isNegative (x : Double) : Bool := x.bits >>> 63 == 1

/-- Whether the value is one of the two zeros. -/
def isZero (x : Double) : Bool := x.bits &&& 0x7FFFFFFFFFFFFFFF == 0

/-- Whether the value is neither an infinity nor NaN. -/
def isFinite (x : Double) : Bool := x.exponentField != 0x7FF

/-- Whether the value is not a number. -/
def isNaN (x : Double) : Bool := x.exponentField == 0x7FF && x.fractionField != 0

/-- The value that is not a number. -/
def nan : Double := ⟨0x7FF8000000000000⟩

/-- The infinity of a sign. -/
def infinity (negative : Bool) : Double :=
  ⟨if negative then 0xFFF0000000000000 else 0x7FF0000000000000⟩

/-- The number with the given sign bit and magnitude bits. -/
def withSign (negative : Bool) (magnitude : UInt64) : Double :=
  ⟨if negative then magnitude ||| 0x8000000000000000 else magnitude⟩

/-- The nearest number to `± digits * 10 ^ exponent`, ties to even; infinity where that is out of
range.  Powers of ten that put the value far outside the range are never computed. -/
def ofDecimal (negative : Bool) (digits : Nat) (exponent : Int) : Double :=
  let magnitude : Int := (Nat.toDigits 10 digits).length + exponent
  if digits = 0 || magnitude < -330 then withSign negative 0
  else if magnitude > 310 then infinity negative
  else withSign negative (Float.ofScientific digits (exponent < 0) exponent.natAbs).toBits

/-- The nearest number to an integer, if it is in range. -/
def ofInt? (n : Int) : Option Double :=
  let x := ofDecimal (n < 0) n.natAbs 0
  if x.isFinite then some x else none

/-- The value as `m * 2 ^ q` without its sign. -/
def mantissa (x : Double) : Nat :=
  if x.exponentField = 0 then x.fractionField else 0x10000000000000 + x.fractionField

/-- The exponent of two that goes with `mantissa`. -/
def binaryExponent (x : Double) : Int :=
  if x.exponentField = 0 then -1074 else (x.exponentField : Int) - 1075

/-- The value as an integer, if it is one. -/
def toInt? (x : Double) : Option Int :=
  let scaled : Option Nat :=
    if !x.isFinite then none
    else if 0 ≤ x.binaryExponent then some (x.mantissa * Nat.pow 2 x.binaryExponent.toNat)
    else
      let unit := Nat.pow 2 (-x.binaryExponent).toNat
      if x.mantissa % unit = 0 then some (x.mantissa / unit) else none
  scaled.map fun n => if x.isNegative then -(n : Int) else n

end Double

end LayeredMarks
