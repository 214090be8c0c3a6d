import EquiJoin.Decimal.Shortest

/-!
# The text of a floating-point number

The shortest digits of a number, written positionally while its size is moderate and with a signed
exponent otherwise. -/

set_option autoImplicit false

namespace EquiJoin.Decimal

/-- Where positional writing begins and ends, by the exponent of the leading digit. -/
structure PositionalRange where
  least : Int
  greatest : Int

/-- Numbers from `0.00001` up to, but not including, `10 ^ 16` are written positionally. -/
def moderate : PositionalRange := ⟨-5, 15⟩

private def zeros (count : Nat) : String :=
  String.ofList (List.replicate count '0')

/-- Digits with the point behind the first `whole` of them; at least one digit on either side. -/
def positional (digits : List Char) (whole : Int) : String :=
  if whole ≤ 0 then "0." ++ zeros (-whole).toNat ++ String.ofList digits
  else
    let fraction := digits.drop whole.toNat
    String.ofList (digits.take whole.toNat) ++ zeros (whole.toNat - digits.length) ++ "." ++
      (if fraction.isEmpty then "0" else String.ofList fraction)

def scientific (digits : List Char) (exponent : Int) : String :=
  let fraction := digits.drop 1
  String.ofList (digits.take 1) ++
    (if fraction.isEmpty then "" else "." ++ String.ofList fraction) ++
    (if exponent < 0 then "e-" else "e+") ++ toString exponent.natAbs

def significantDigits (number : Nat) : List Char :=
  ((Nat.toDigits 10 number).reverse.dropWhile (· == '0')).reverse

def floatText (number : Float) : String :=
  let bits := number.toBits
  let sign := if bits.toNat < Nat.pow 2 63 then "" else "-"
  let around := Surroundings.ofBits bits
  if around.value = 0 then sign ++ "0.0"
  else
    let decimal := around.shortest
    let leading := decimal.place + ((Nat.toDigits 10 decimal.digits).length : Int) - 1
    let digits := significantDigits decimal.digits
    sign ++
      (if moderate.least ≤ leading ∧ leading ≤ moderate.greatest then
        positional digits (leading + 1)
      else scientific digits leading)

end EquiJoin.Decimal
