import Introspection.Decimal

/-!
# Doubles

A double is a 64 bit pattern: a sign, eleven bits of exponent and 52 bits of fraction. A finite
one is written with the shortest decimal that reads back as the same double, always in positional
notation.
-/

namespace Introspection

structure Double where
  bits : UInt64
  deriving DecidableEq

namespace Double

def zero : Double := ⟨0⟩

def isNegative (x : Double) : Bool :=
  0x8000000000000000 ≤ x.bits.toNat

def exponentField (x : Double) : Nat :=
  x.bits.toNat / 0x10000000000000 % 0x800

def fractionField (x : Double) : Nat :=
  x.bits.toNat % 0x10000000000000

/-- Infinities and everything that is not a number have all bits of the exponent set. -/
def isFinite (x : Double) : Bool :=
  x.exponentField != 0x7ff

/-- A finite double is its significand times two to its exponent, up to the sign. -/
def significand (x : Double) : Nat :=
  if x.exponentField = 0 then x.fractionField else 0x10000000000000 + x.fractionField

def exponent (x : Double) : Int :=
  (max x.exponentField 1 : Nat) - 1075

/-- The numbers that round to a double, in quarters of the distance to the next one. The numbers
halfway to a neighbour round to the even significand. Below the least significand of an exponent
the doubles stand half as far apart. -/
def interval (x : Double) : Decimal.Interval where
  lower := 4 * x.significand - (if x.fractionField = 0 && 1 < x.exponentField then 1 else 2)
  centre := 4 * x.significand
  upper := 4 * x.significand + 2
  scale := x.exponent - 2
  closed := x.significand % 2 == 0

/-- The absolute value of a finite double in decimal notation. No finite double reaches
`10 ^ 309`. -/
def magnitude (x : Double) : String :=
  if x.significand = 0 then "0.0" else (x.interval.shortest 309).positional

end Double

end Introspection
