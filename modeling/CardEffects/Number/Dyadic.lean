/-!
# Doubles as dyadic numbers

A finite double is `± mantissa · 2 ^ exponent`. Read off its bits, it can be cut to an integer and
compared with decimals in exact integer arithmetic.
-/

namespace CardEffects.Number

structure Dyadic where
  negative : Bool
  mantissa : Nat
  exponent : Int
  deriving DecidableEq, Repr

inductive Decoded where
  | nan
  | infinite (negative : Bool)
  | finite (d : Dyadic)
  deriving DecidableEq, Repr

def leadingBit : Nat := 0x10000000000000

/-- The fields of the 64 bits: sign, eleven bits of exponent, fifty-two of fraction. -/
def decodeBits (bits : Nat) : Decoded :=
  let negative := (bits >>> 63) % 2 == 1
  let biased : Nat := (bits >>> 52) % 0x800
  let fraction : Nat := bits % leadingBit
  if biased = 2047 then
    if fraction = 0 then .infinite negative else .nan
  else if biased = 0 then .finite ⟨negative, fraction, -1074⟩
  else .finite ⟨negative, leadingBit + fraction, (biased : Int) - 1075⟩

def decode (x : Float) : Decoded := decodeBits x.toBits.toNat

def Dyadic.whole (d : Dyadic) : Nat :=
  (d.mantissa <<< d.exponent.toNat) >>> (-d.exponent).toNat

def Dyadic.truncate (d : Dyadic) : Int := if d.negative then -(d.whole : Int) else d.whole

def Dyadic.isInteger (d : Dyadic) : Bool :=
  d.whole <<< (-d.exponent).toNat == d.mantissa <<< d.exponent.toNat

def least64 : Int := -0x8000000000000000

def greatest64 : Int := 0x7fffffffffffffff

def clamp64 (n : Int) : Int := max least64 (min n greatest64)

/-- A double cut toward zero to a signed word; the ends of the range stand for all that lies
beyond them, and zero for what is no number. -/
def toInt64 (x : Float) : Int :=
  match decode x with
  | .nan => 0
  | .infinite negative => if negative then least64 else greatest64
  | .finite d => clamp64 d.truncate

end CardEffects.Number
