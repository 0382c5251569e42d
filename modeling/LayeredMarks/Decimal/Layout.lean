import LayeredMarks.Decimal.Shortest

/-!
# How numbers are written

A number is written with its shortest digits: positionally while the exponent of its leading digit
is at least -4 and below 16, and always with a fraction; otherwise with one digit before the point
and a signed exponent of at least two digits.  The texts of the values that are no finite number
depend on where the number stands, and make up a `Spelling`.
-/

namespace LayeredMarks

/-- The texts of the values that are not finite. -/
structure Decimal.Spelling where
  notANumber : String
  infinite : String

namespace Decimal

/-- A run of zeros. -/
def zeros (n : Nat) : String := String.ofList (List.replicate n '0')

/-- The exponent part: a mark, a sign, and at least two digits. -/
def exponentPart (e : Int) : String :=
  let digits := toString e.natAbs
  "e" ++ (if e < 0 then "-" else "+") ++ (if digits.length < 2 then "0" else "") ++ digits

/-- The text of a decimal number without sign. -/
def layout (d : Decimal) : String :=
  let digits := toString d.digits
  let leading : Int := d.exponent + digits.length - 1
  if -4 ≤ leading && leading < 16 then
    if 0 ≤ d.exponent then digits ++ zeros d.exponent.toNat ++ ".0"
    else if 0 ≤ leading then
      String.ofList (digits.toList.take (leading.toNat + 1)) ++ "." ++
        String.ofList (digits.toList.drop (leading.toNat + 1))
    else "0." ++ zeros (-leading - 1).toNat ++ digits
  else
    match digits.toList with
    | [] => exponentPart leading
    | [c] => String.singleton c ++ exponentPart leading
    | c :: rest => String.singleton c ++ "." ++ String.ofList rest ++ exponentPart leading

end Decimal

/-- The text of a number in a spelling. -/
def Double.render (spelling : Decimal.Spelling) (x : Double) : String :=
  if x.isNaN then spelling.notANumber
  else
    (if x.isNegative then "-" else "") ++
      (if x.isFinite then x.shortest.layout else spelling.infinite)

end LayeredMarks
