import CardEffects.Number.Dyadic

/-!
# Shortest decimals

The decimal with the fewest digits that reads back as a given double. Every step is exact: the
numbers compared are integers over the common denominator of a power of two and a power of ten.
-/

namespace CardEffects.Number

structure Decimal where
  digits : Nat
  exponent : Int
  deriving DecidableEq, Repr

/-- The decimals that read back as one double: those from `low` to `high`, in units of
`2 ^ exponent`, the ends among them if the interval is `closed`. -/
structure Rounding where
  low : Nat
  value : Nat
  high : Nat
  exponent : Int
  closed : Bool
  deriving DecidableEq, Repr

/-- Halfway to the neighbours on both sides. Below a power of two the neighbour is only half as
far; the ends round to an even mantissa. -/
def Dyadic.rounding (d : Dyadic) : Rounding where
  low :=
    if d.mantissa = leadingBit ∧ d.exponent ≠ -1074 then 4 * d.mantissa - 1 else 4 * d.mantissa - 2
  value := 4 * d.mantissa
  high := 4 * d.mantissa + 2
  exponent := d.exponent - 2
  closed := d.mantissa % 2 == 0

def digitCount (n : Nat) : Nat := (Nat.toDigits 10 n).length

namespace Rounding

def scale (r : Rounding) (k : Int) (w : Nat) : Nat :=
  (w <<< r.exponent.toNat) * Nat.pow 10 (-k).toNat

def denominator (r : Rounding) (k : Int) : Nat :=
  (1 <<< (-r.exponent).toNat) * Nat.pow 10 k.toNat

def holds (r : Rounding) (k : Int) (c : Nat) : Bool :=
  let point := c * r.denominator k
  let low := r.scale k r.low
  let high := r.scale k r.high
  if r.closed then low ≤ point && point ≤ high else low < point && point < high

/-- The nearer of the value's two neighbours on the grid of multiples of `10 ^ k`, of those that
read back; the upper one if both are as near. -/
def onGrid? (r : Rounding) (k : Int) : Option Nat :=
  let value := r.scale k r.value
  let unit := r.denominator k
  let below := value / unit
  match r.holds k below, r.holds k (below + 1) with
  | true, true => some (if unit ≤ 2 * (value % unit) then below + 1 else below)
  | true, false => some below
  | false, true => some (below + 1)
  | false, false => none

/-- The first grid with a point that reads back, from `10 ^ k` down to finer ones; a double needs
at most seventeen digits, and `steps` bounds the number of grids tried. -/
def search (r : Rounding) : Nat → Int → Decimal
  | 0, k => ⟨r.scale k r.value / r.denominator k, k⟩
  | steps + 1, k =>
    match r.onGrid? k with
    | some c => ⟨c, k⟩
    | none => r.search steps (k - 1)

/-- The power of ten just above the value: no double but zero is below `10 ^ -340`. -/
def magnitude (r : Rounding) : Int :=
  digitCount (r.scale (-340) r.value / r.denominator (-340)) - 340

end Rounding

def Dyadic.shortest (d : Dyadic) : Decimal := d.rounding.search 20 d.rounding.magnitude

end CardEffects.Number
