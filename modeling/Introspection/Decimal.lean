/-!
# Decimals

A decimal is a natural number times a power of ten. Of the decimals in an interval around a
binary number `n · 2 ^ p`, the shortest one lies on the coarsest decimal grid that meets the
interval; if both neighbours of the number on that grid lie in the interval, the nearer one is
taken, and the upper one of two equally near ones.
-/

namespace Introspection

structure Decimal where
  digits : Nat
  exponent : Int
  deriving DecidableEq

namespace Decimal

/-- A decimal in positional notation, with at least one digit on either side of the point. -/
def positional (d : Decimal) : String :=
  match d.exponent with
  | .ofNat n => toString (d.digits * Nat.pow 10 n) ++ ".0"
  | .negSucc n =>
    let fraction := toString (d.digits % Nat.pow 10 (n + 1))
    toString (d.digits / Nat.pow 10 (n + 1)) ++ "." ++
      "".pushn '0' (n + 1 - fraction.length) ++ fraction

/-- The binary numbers `lower · 2 ^ scale` to `upper · 2 ^ scale`, with their ends if `closed`,
around the number `centre · 2 ^ scale`. -/
structure Interval where
  lower : Nat
  centre : Nat
  upper : Nat
  scale : Int
  closed : Bool
  deriving DecidableEq

namespace Interval

/-- The number `n · 2 ^ scale`, in the unit in which `Interval.measure` gives a decimal. -/
def units (i : Interval) (exponent : Int) (n : Nat) : Nat :=
  n * Nat.pow 2 i.scale.toNat * Nat.pow 10 (-exponent).toNat

/-- The unit of a decimal grid. -/
def gridUnit (i : Interval) (exponent : Int) : Nat :=
  Nat.pow 10 exponent.toNat * Nat.pow 2 (-i.scale).toNat

def measure (i : Interval) (d : Decimal) : Nat :=
  d.digits * i.gridUnit d.exponent

def contains (i : Interval) (d : Decimal) : Bool :=
  if i.closed then
    i.units d.exponent i.lower ≤ i.measure d && i.measure d ≤ i.units d.exponent i.upper
  else
    i.units d.exponent i.lower < i.measure d && i.measure d < i.units d.exponent i.upper

/-- The decimal of a grid that lies in the interval nearest to its centre. -/
def onGrid? (i : Interval) (exponent : Int) : Option Decimal :=
  let centre := i.units exponent i.centre
  let below : Decimal := ⟨centre / i.gridUnit exponent, exponent⟩
  let above : Decimal := ⟨below.digits + 1, exponent⟩
  if i.contains below && i.contains above then
    if centre - i.measure below < i.measure above - centre then some below else some above
  else if i.contains below then some below
  else if i.contains above then some above
  else none

/-- The centre itself. -/
def exact (i : Interval) : Decimal :=
  ⟨i.centre * Nat.pow 2 i.scale.toNat * Nat.pow 5 (-i.scale).toNat, -(-i.scale).toNat⟩

/-- Looks through finer and finer grids, and settles for the centre when none is left. -/
def search (i : Interval) (exponent : Int) : Nat → Decimal
  | 0 => i.exact
  | n + 1 =>
    match i.onGrid? exponent with
    | some d => d
    | none => i.search (exponent - 1) n

/-- The shortest decimal of an interval that ends below `10 ^ top`. -/
def shortest (i : Interval) (top : Nat) : Decimal :=
  i.search top (top + (-i.scale).toNat)

end Interval

end Decimal

end Introspection
