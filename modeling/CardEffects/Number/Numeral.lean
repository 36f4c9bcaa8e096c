import CardEffects.Number.Shortest
import CardEffects.Text.Blank

/-!
# Numerals

How a number is shown to players, and how a numeral in a script is read. A number is shown in full,
without an exponent; a numeral may carry a sign, a fraction and an exponent, or name an infinity.
-/

namespace CardEffects.Number

def Decimal.positional (d : Decimal) : List Char :=
  let digits := Nat.toDigits 10 d.digits
  if 0 ≤ d.exponent then digits ++ List.replicate d.exponent.toNat '0'
  else
    let places := (-d.exponent).toNat
    if places < digits.length then
      digits.take (digits.length - places) ++ '.' :: digits.drop (digits.length - places)
    else '0' :: '.' :: List.replicate (places - digits.length) '0' ++ digits

/-- An integer below a thousand million million is shown as one, zero without a sign; any other
number with the fewest digits that read back. -/
def Dyadic.numeral (d : Dyadic) : String :=
  if d.isInteger ∧ d.whole < 1000000000000000 then toString d.truncate
  else (if d.negative then "-" else "") ++ String.ofList d.shortest.positional

def numeral (x : Float) : String :=
  match decode x with
  | .nan => "NaN"
  | .infinite negative => if negative then "-inf" else "inf"
  | .finite d => d.numeral

def digitValue (c : Char) : Nat := c.toNat - '0'.toNat

def ofDigits (ds : List Char) : Nat := ds.foldl (fun n c => 10 * n + digitValue c) 0

/-- The double nearest to `mantissa · 10 ^ exponent`. Beyond the range of doubles the answer is an
infinity or zero whatever the digits. -/
def ofDecimal (mantissa : Nat) (exponent : Int) : Float :=
  let magnitude := (digitCount mantissa : Int) + exponent
  if mantissa = 0 ∨ magnitude < -330 then 0
  else if 320 < magnitude then 1 / 0
  else if 0 ≤ exponent then Float.ofScientific mantissa false exponent.toNat
  else Float.ofScientific mantissa true (-exponent).toNat

def takeSign : List Char → Bool × List Char
  | '-' :: rest => (true, rest)
  | '+' :: rest => (false, rest)
  | cs => (false, cs)

def takeExponent? : List Char → Option (Option Int × List Char)
  | [] => some (none, [])
  | c :: rest =>
    if c.toLower = 'e' then
      let (negative, rest) := takeSign rest
      let digits := rest.takeWhile Char.isDigit
      let n : Int := ofDigits digits
      if digits.isEmpty then none
      else some (some (if negative then -n else n), rest.dropWhile Char.isDigit)
    else some (none, c :: rest)

def readUnsigned? (cs : List Char) : Option Float :=
  let whole := cs.takeWhile Char.isDigit
  let (fraction, rest) := match cs.dropWhile Char.isDigit with
    | '.' :: rest => (rest.takeWhile Char.isDigit, rest.dropWhile Char.isDigit)
    | rest => ([], rest)
  match takeExponent? rest with
  | some (exponent, []) =>
    if whole.isEmpty && fraction.isEmpty then none
    else some (ofDecimal (ofDigits (whole ++ fraction)) (exponent.getD 0 - fraction.length))
  | _ => none

def read? (cs : List Char) : Option Float :=
  let (negative, rest) := takeSign cs
  let magnitude :=
    if ["inf", "infinity"].any fun word => Text.sameIgnoringCase rest word.toList then some (1 / 0)
    else if Text.sameIgnoringCase rest "nan".toList then some (0 / 0)
    else readUnsigned? rest
  magnitude.map fun x => if negative then -x else x

end CardEffects.Number
