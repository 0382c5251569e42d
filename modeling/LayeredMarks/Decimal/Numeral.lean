import LayeredMarks.Decimal.Double
import LayeredMarks.Text.DecimalDigit

/-!
# Reading numerals

Numerals are read from the front of a list of characters.  A decimal numeral is a whole part, a
fraction and an exponent, any of which may be missing where the format that holds it says so.
-/

namespace LayeredMarks.Numeral

/-- The value of a run of ASCII digits. -/
def natValue (digits : List Char) : Nat :=
  digits.foldl (fun n c => 10 * n + (c.toNat - '0'.toNat)) 0

/-- The value of a hexadecimal digit. -/
def hexDigit? (c : Char) : Option Nat :=
  if c.isDigit then some (c.toNat - '0'.toNat)
  else if 'a' ≤ c && c ≤ 'f' then some (c.toNat - 'a'.toNat + 10)
  else if 'A' ≤ c && c ≤ 'F' then some (c.toNat - 'A'.toNat + 10)
  else none

/-- Splits off the longest run of ASCII digits at the front. -/
def spanDigits (text : List Char) : List Char × List Char :=
  (text.takeWhile Char.isDigit, text.dropWhile Char.isDigit)

theorem spanDigits_length (text : List Char) :
    (spanDigits text).1.length + (spanDigits text).2.length = text.length := by
  rw [spanDigits, ← List.length_append, List.takeWhile_append_dropWhile]

/-- Splits off a sign at the front: whether it is a minus, and what follows. -/
def spanSign : List Char → Bool × List Char
  | '-' :: rest => (true, rest)
  | '+' :: rest => (false, rest)
  | rest => (false, rest)

theorem spanSign_shorter (text : List Char) : (spanSign text).2.length ≤ text.length := by
  unfold spanSign
  split <;> simp

/-- Splits off an exponent at the front: a mark in either case, an optional sign, at least one
digit. Text that does not begin with one is left alone. -/
def spanExponent (text : List Char) : Option Int × List Char :=
  match text with
  | mark :: rest =>
    if mark = 'e' || mark = 'E' then
      let (negative, afterSign) := spanSign rest
      match spanDigits afterSign with
      | ([], _) => (none, text)
      | (digits, rest') =>
        let n : Int := natValue digits
        (some (if negative then -n else n), rest')
    else (none, text)
  | [] => (none, text)

theorem spanExponent_shorter (text : List Char) : (spanExponent text).2.length ≤ text.length := by
  unfold spanExponent
  split
  · next mark rest =>
    split
    · have hsign := spanSign_shorter rest
      have hdigits := spanDigits_length (spanSign rest).2
      simp only
      split
      · simp
      · next hspan => simp only [hspan, List.length_cons] at *; omega
    · simp
  · simp

/-- Splits off a fraction at the front: a point and at least one digit. -/
def spanFraction (text : List Char) : Option (List Char) × List Char :=
  match text with
  | '.' :: rest =>
    match spanDigits rest with
    | ([], _) => (none, text)
    | (digits, rest') => (some digits, rest')
  | _ => (none, text)

theorem spanFraction_shorter (text : List Char) : (spanFraction text).2.length ≤ text.length := by
  unfold spanFraction
  split
  · next rest =>
    have hdigits := spanDigits_length rest
    split
    · simp
    · next hspan => simp only [hspan, List.length_cons] at *; omega
  · simp

/-- The number with the given whole digits, fraction digits and exponent. -/
def toDouble (negative : Bool) (whole fraction : List Char) (exponent : Int) : Double :=
  Double.ofDecimal negative (natValue (whole ++ fraction)) (exponent - fraction.length)

/-- Reads a whole text as a binary64 number: an optional sign, then either `inf`, `infinity` or
`nan` in any case, or a numeral with digits on at least one side of the point. -/
def double? (text : List Char) : Option Double :=
  let (negative, unsigned) := spanSign text
  let word := String.ofList (unsigned.map Char.toLower)
  if word = "inf" || word = "infinity" then some (Double.infinity negative)
  else if word = "nan" then some Double.nan
  else
    let (whole, afterWhole) := spanDigits unsigned
    let (fraction, afterFraction) :=
      match afterWhole with
      | '.' :: rest => spanDigits rest
      | rest => ([], rest)
    if whole.isEmpty && fraction.isEmpty then none
    else
      match afterFraction with
      | [] => some (toDouble negative whole fraction 0)
      | _ =>
        match spanExponent afterFraction with
        | (some exponent, []) => some (toDouble negative whole fraction exponent)
        | _ => none

/-- The greatest number of digits of an integer that is read or written. -/
def maxIntegerDigits : Nat := 4300

/-- Whether a number has more than so many digits. -/
def hasMoreDigits : (digits : Nat) → Nat → Bool
  | 0, _ => true
  | digits + 1, n => if 10 ≤ n then hasMoreDigits digits (n / 10) else false

theorem hasMoreDigits_iff {digits : Nat} (pos : 0 < digits) (n : Nat) :
    hasMoreDigits digits n = true ↔ Nat.pow 10 digits ≤ n := by
  induction digits generalizing n with
  | zero => omega
  | succ digits ih =>
    have hsucc : Nat.pow 10 (digits + 1) = Nat.pow 10 digits * 10 := rfl
    rw [hasMoreDigits, hsucc]
    rcases Nat.eq_zero_or_pos digits with rfl | hdigits
    · simp [hasMoreDigits]
    · have hpow : 1 ≤ Nat.pow 10 digits := Nat.one_le_pow _ _ (by decide)
      split
      · rw [ih hdigits, Nat.le_div_iff_mul_le (by decide)]
      · simp only [Bool.false_eq_true, false_iff]
        omega

/-- Whether an integer has more digits than are read or written. -/
def isTooLong (n : Int) : Bool := hasMoreDigits maxIntegerDigits n.natAbs

/-- The complaint about an integer with more digits than are read. -/
def tooManyDigits (digits : Nat) : String :=
  "Exceeds the limit (" ++ toString maxIntegerDigits ++
    " digits) for integer string conversion: value has " ++ toString digits ++
    " digits; use sys.set_int_max_str_digits() to increase the limit"

/-- The value of digits of any script that may be grouped by single underscores. -/
def groupedValue? : List Char → Option Nat
  | [] => none
  | c :: rest => do
    let first ← Text.digitValue? c
    go first rest
where
  /-- Reads on behind a digit. -/
  go (value : Nat) : List Char → Option Nat
    | [] => some value
    | '_' :: c :: rest => do
      let digit ← Text.digitValue? c
      go (10 * value + digit) rest
    | c :: rest => do
      let digit ← Text.digitValue? c
      go (10 * value + digit) rest

/-- Reads a whole text as an integer: an optional sign, then digits of any script, grouped by single
underscores or not, and not more of them than are read. -/
def int? (text : List Char) : Option Int :=
  let (negative, unsigned) := spanSign text
  if maxIntegerDigits < (unsigned.filter (· ≠ '_')).length then none
  else (groupedValue? unsigned).map fun n => if negative then -(n : Int) else n

end LayeredMarks.Numeral
