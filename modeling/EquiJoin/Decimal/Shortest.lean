/-!
# Shortest decimals

The decimal of fewest digits that reads back as a given floating-point number.  The reals that
round to a number form an interval around it.  `Surroundings` holds the number and the ends of its
interval as fractions over one denominator, so that all arithmetic is exact; measuring them in
units of a power of ten turns the search for a short decimal into a search for a whole number
between two fractions. -/

set_option autoImplicit false

namespace EquiJoin

/-- A decimal, `digits * 10 ^ place`. -/
structure Decimal where
  digits : Nat
  place : Int

namespace Decimal

/-- A positive number and the ends of the interval of reals that round to it, as numerators over
one denominator. -/
structure Surroundings where
  low : Nat
  value : Nat
  high : Nat
  denominator : Nat
  /-- Whether the ends themselves round to the number. -/
  closed : Bool

/-- The surroundings of `mantissa * 2 ^ exponent`.  The ends lie halfway to the neighbours, and the
neighbour below the least mantissa of a binade is only half as far away as the one above. -/
def Surroundings.ofBinary (mantissa : Nat) (exponent : Int) (narrowBelow : Bool) : Surroundings :=
  let factor := Nat.pow 2 (exponent - 2).toNat
  { low := (4 * mantissa - if narrowBelow then 1 else 2) * factor
    value := 4 * mantissa * factor
    high := (4 * mantissa + 2) * factor
    denominator := Nat.pow 2 (2 - exponent).toNat
    closed := mantissa % 2 = 0 }

def Surroundings.ofBits (bits : UInt64) : Surroundings :=
  let fraction := bits.toNat % Nat.pow 2 52
  match bits.toNat / Nat.pow 2 52 % Nat.pow 2 11 with
  | 0 => ofBinary fraction (-1074) false
  | 1 => ofBinary (Nat.pow 2 52 + fraction) (-1074) false
  | binade => ofBinary (Nat.pow 2 52 + fraction) (binade - 1075) (fraction = 0)

def Surroundings.inUnits (around : Surroundings) (place : Int) : Surroundings :=
  let factor := Nat.pow 10 (-place).toNat
  { around with
    low := around.low * factor
    value := around.value * factor
    high := around.high * factor
    denominator := around.denominator * Nat.pow 10 place.toNat }

def Surroundings.contains (around : Surroundings) (units : Nat) : Bool :=
  let point := units * around.denominator
  if around.closed then around.low ≤ point && point ≤ around.high
  else around.low < point && point < around.high

/-- The whole number of units in the interval that is nearest to the value, if there is one next
to it.  At equal distance the even one is taken. -/
def Surroundings.nearest? (around : Surroundings) : Option Nat :=
  let below := around.value / around.denominator
  let above := below + 1
  match around.contains below, around.contains above with
  | false, false => none
  | true, false => some below
  | false, true => some above
  | true, true =>
      let halfway := (2 * below + 1) * around.denominator
      if 2 * around.value < halfway ∨ (2 * around.value = halfway ∧ below % 2 = 0) then some below
      else some above

def Surroundings.magnitude (around : Surroundings) : Int :=
  let powers : List Int := (List.range 640).map fun step : Nat => (step : Int) - 325
  (powers.find? fun power =>
    let measured := around.inUnits power
    measured.value < measured.denominator).getD 310

/-- The decimal of fewest digits in the interval; seventeen digits always suffice. -/
def Surroundings.shortest (around : Surroundings) : Decimal :=
  let places : List Int := (List.range 17).map fun step : Nat => around.magnitude - (step + 1)
  (places.findSome? fun place =>
    (around.inUnits place).nearest?.map fun digits => Decimal.mk digits place).getD
      ⟨around.value / around.denominator, 0⟩

end Decimal

end EquiJoin
