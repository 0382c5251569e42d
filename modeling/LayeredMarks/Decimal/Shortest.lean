import LayeredMarks.Decimal.Double

/-!
# The shortest decimal that reads back

Of the decimals that a reader would round to a given binary64 number, `Double.shortest` selects one
with the fewest digits, and of those the nearest.  The reals that round to `m * 2 ^ q` form an
interval from halfway to the lower neighbour to halfway to the upper one, ends included exactly when
`m` is even; below a power of two the lower neighbour is only half as far away.  Every comparison is
made on natural numbers, by cross-multiplication.
-/

namespace LayeredMarks

/-- The decimal number `digits * 10 ^ exponent`. -/
structure Decimal where
  digits : Nat
  exponent : Int
deriving DecidableEq, Repr

namespace Decimal

/-- Compares `a * 10 ^ i` with `b * 2 ^ j`. -/
def compareScaled (a : Nat) (i : Int) (b : Nat) (j : Int) : Ordering :=
  compare (a * Nat.pow 10 i.toNat * Nat.pow 2 (-j).toNat)
    (b * Nat.pow 2 j.toNat * Nat.pow 10 (-i).toNat)

/-- The greatest multiple of `10 ^ grid` that is at most `m * 2 ^ q`, in units of the grid. -/
def floorOnGrid (m : Nat) (q grid : Int) : Nat :=
  (m * Nat.pow 2 q.toNat * Nat.pow 10 (-grid).toNat) /
    (Nat.pow 2 (-q).toNat * Nat.pow 10 grid.toNat)

/-- Drops the zeros that end the digits, at most `fuel` of them. -/
def stripZeros (fuel : Nat) (d : Decimal) : Decimal :=
  match fuel with
  | 0 => d
  | fuel + 1 => if d.digits % 10 = 0 then stripZeros fuel ⟨d.digits / 10, d.exponent + 1⟩ else d

end Decimal

namespace Double

/-- Whether the lower neighbour is only half as far away as the upper one. -/
def isNarrowBelow (x : Double) : Bool := x.fractionField == 0 && 1 < x.exponentField

/-- Whether a decimal lies among the reals that round to the magnitude of `x`. -/
def readsBack (x : Double) (d : Decimal) : Bool :=
  let lower := if x.isNarrowBelow then 4 * x.mantissa - 1 else 4 * x.mantissa - 2
  let upper := 4 * x.mantissa + 2
  let endsIncluded := x.mantissa % 2 == 0
  let fromLower := Decimal.compareScaled d.digits d.exponent lower (x.binaryExponent - 2)
  let fromUpper := Decimal.compareScaled d.digits d.exponent upper (x.binaryExponent - 2)
  (fromLower == .gt || (endsIncluded && fromLower == .eq)) &&
    (fromUpper == .lt || (endsIncluded && fromUpper == .eq))

/-- The least `k` with the magnitude of `x` below `10 ^ k`, from its binary logarithm and a
correction by one step at most. -/
def decimalScale (x : Double) : Int :=
  let estimate := Int.fdiv ((x.mantissa.log2 + x.binaryExponent) * 30103) 100000 + 1
  let isBelow (k : Int) : Bool := Decimal.compareScaled 1 k x.mantissa x.binaryExponent == .gt
  if isBelow (estimate - 1) then estimate - 1
  else if isBelow estimate then estimate
  else estimate + 1

/-- The nearer of the two neighbours of `x` on a grid, among those that read back; on a tie the one
with an even last digit. -/
def nearestOnGrid? (x : Double) (grid : Int) : Option Decimal :=
  let below := Decimal.floorOnGrid x.mantissa x.binaryExponent grid
  let low : Decimal := ⟨below, grid⟩
  let high : Decimal := ⟨below + 1, grid⟩
  match x.readsBack low, x.readsBack high with
  | false, false => none
  | true, false => some low
  | false, true => some high
  | true, true =>
    match Decimal.compareScaled (2 * below + 1) grid (2 * x.mantissa) x.binaryExponent with
    | .gt => some low
    | .lt => some high
    | .eq => if below % 2 = 0 then some low else some high

/-- The shortest decimal that reads back to the magnitude of `x`.  Grids of one to seventeen digits
are tried in turn; the exact value stands in where none of them has a hit. -/
def shortest (x : Double) : Decimal :=
  if x.mantissa = 0 then ⟨0, 0⟩
  else
    let scale := x.decimalScale
    match (List.range 17).findSome? fun (n : Nat) => x.nearestOnGrid? (scale - (n + 1)) with
    | some d => d.stripZeros 20
    | none =>
      if 0 ≤ x.binaryExponent then ⟨x.mantissa * Nat.pow 2 x.binaryExponent.toNat, 0⟩
      else ⟨x.mantissa * Nat.pow 5 (-x.binaryExponent).toNat, x.binaryExponent⟩

end Double

end LayeredMarks
