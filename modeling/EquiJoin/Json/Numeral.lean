import EquiJoin.Json.Fault

/-!
# Numerals

A numeral is first taken apart by its digits alone (`Numeral.scan`) and then given a value
(`Numeral.value`).  Parts of a document that nobody asks for are held to the first step only.

A significand of sixty-four bits is gathered from the front.  The first integer digit that does not
fit and all integer digits behind it only raise the power of ten; a decimal that does not fit is
dropped with all behind it. -/

set_option autoImplicit false

namespace EquiJoin.Json

def isDigit (byte : UInt8) : Bool :=
  0x30 ≤ byte && byte ≤ 0x39

def digitValue (byte : UInt8) : Nat :=
  byte.toNat - 0x30

structure Exponent where
  negative : Bool
  digits : List UInt8

/-- A number as it is written.  There is a point exactly if there are decimals. -/
structure Numeral where
  negative : Bool
  whole : List UInt8
  decimals : List UInt8
  exponent : Option Exponent

/-- The integer digits.  A zero in front stands alone. -/
def scanWhole : List UInt8 → Except Fault (List UInt8 × List UInt8)
  | [] => .error (.before .endOfValue [])
  | byte :: rest =>
      if byte = 0x30 then
        if rest.head?.any isDigit then .error (.behind .invalidNumber rest)
        else .ok ([byte], rest)
      else if isDigit byte then .ok (byte :: rest.takeWhile isDigit, rest.dropWhile isDigit)
      else .error (.before .invalidNumber rest)

def scanDecimals : List UInt8 → Except Fault (List UInt8 × List UInt8)
  | 0x2E :: rest =>
      if rest.head?.any isDigit then .ok (rest.takeWhile isDigit, rest.dropWhile isDigit)
      else .error (.behind (if rest.isEmpty then .endOfValue else .invalidNumber) rest)
  | bytes => .ok ([], bytes)

def scanSign : List UInt8 → Bool × List UInt8
  | 0x2B :: rest => (false, rest)
  | 0x2D :: rest => (true, rest)
  | bytes => (false, bytes)

def scanExponent : List UInt8 → Except Fault (Option Exponent × List UInt8)
  | [] => .ok (none, [])
  | letter :: rest =>
      if letter = 0x65 ∨ letter = 0x45 then
        let (negative, digits) := scanSign rest
        if digits.head?.any isDigit then
          .ok (some ⟨negative, digits.takeWhile isDigit⟩, digits.dropWhile isDigit)
        else .error (.behind (if digits.isEmpty then .endOfValue else .invalidNumber) digits)
      else .ok (none, letter :: rest)

def Numeral.scanUnsigned (negative : Bool) (bytes : List UInt8) :
    Except Fault (Numeral × List UInt8) := do
  let (whole, rest) ← scanWhole bytes
  let (decimals, rest) ← scanDecimals rest
  let (exponent, rest) ← scanExponent rest
  return (⟨negative, whole, decimals, exponent⟩, rest)

def Numeral.scan : List UInt8 → Except Fault (Numeral × List UInt8)
  | 0x2D :: rest => scanUnsigned true rest
  | bytes => scanUnsigned false bytes

theorem length_dropWhile_isDigit (bytes : List UInt8) :
    (bytes.dropWhile isDigit).length ≤ bytes.length :=
  (List.dropWhile_sublist isDigit).length_le

theorem scanWhole_length {bytes digits rest : List UInt8}
    (run : scanWhole bytes = .ok (digits, rest)) : rest.length < bytes.length := by
  cases bytes with
  | nil => cases run
  | cons byte tail =>
      have shorter := length_dropWhile_isDigit tail
      simp only [scanWhole] at run
      split at run
      · split at run
        · cases run
        · cases run
          exact Nat.lt_succ_self _
      · split at run
        · cases run
          exact Nat.lt_succ_of_le shorter
        · cases run

theorem scanDecimals_length {bytes digits rest : List UInt8}
    (run : scanDecimals bytes = .ok (digits, rest)) : rest.length ≤ bytes.length := by
  unfold scanDecimals at run
  split at run
  · next tail =>
      have shorter := length_dropWhile_isDigit tail
      split at run
      · cases run
        exact Nat.le_succ_of_le shorter
      · cases run
  · cases run
    exact Nat.le_refl _

theorem scanSign_length (bytes : List UInt8) : (scanSign bytes).2.length ≤ bytes.length := by
  unfold scanSign
  split
  · exact Nat.le_succ _
  · exact Nat.le_succ _
  · exact Nat.le_refl _

theorem scanExponent_length {bytes rest : List UInt8} {exponent : Option Exponent}
    (run : scanExponent bytes = .ok (exponent, rest)) : rest.length ≤ bytes.length := by
  cases bytes with
  | nil => cases run; exact Nat.le_refl _
  | cons letter tail =>
      have signShorter := scanSign_length tail
      have shorter := length_dropWhile_isDigit (scanSign tail).2
      simp only [scanExponent] at run
      split at run
      · split at run
        · cases run
          exact Nat.le_succ_of_le (Nat.le_trans shorter signShorter)
        · cases run
      · cases run
        exact Nat.le_refl _

theorem Numeral.scanUnsigned_length {negative : Bool} {bytes rest : List UInt8}
    {numeral : Numeral} (run : scanUnsigned negative bytes = .ok (numeral, rest)) :
    rest.length < bytes.length := by
  obtain ⟨⟨whole, afterWhole⟩, wholeRun, run⟩ := bind_eq_ok run
  obtain ⟨⟨decimals, afterDecimals⟩, decimalsRun, run⟩ := bind_eq_ok run
  obtain ⟨⟨exponent, afterExponent⟩, exponentRun, run⟩ := bind_eq_ok run
  cases run
  exact Nat.lt_of_le_of_lt
    (Nat.le_trans (scanExponent_length exponentRun) (scanDecimals_length decimalsRun))
    (scanWhole_length wholeRun)

theorem Numeral.scan_length {bytes rest : List UInt8} {numeral : Numeral}
    (run : scan bytes = .ok (numeral, rest)) : rest.length < bytes.length := by
  unfold scan at run
  split at run
  · exact Nat.lt_succ_of_lt (scanUnsigned_length run)
  · exact scanUnsigned_length run

/-! ## The value of a numeral -/

/-- Appends digits to a number as long as it stays below the limit, and gives the digits left. -/
def gather (limit : Nat) : Nat → List UInt8 → Nat × List UInt8
  | number, [] => (number, [])
  | number, digit :: rest =>
      let longer := 10 * number + digitValue digit
      if longer < limit then gather limit longer rest else (number, digit :: rest)

/-- A power of ten, rounded to the nearest number. -/
def tenTo (power : Nat) : Float :=
  OfScientific.ofScientific 1 false power

/-- The number times a power of ten, by one operation if the power is a number itself.  Smaller
powers are approached in steps of `10 ^ 308`; there is no result beyond the greatest number. -/
def scale (number : Float) (power : Int) : Option Float :=
  if power.natAbs ≤ 308 then
    if 0 ≤ power then
      let product := number * tenTo power.natAbs
      if product.isInf then none else some product
    else some (number / tenTo power.natAbs)
  else if number == 0 then some number
  else if 0 ≤ power then none
  else scale (number / tenTo 308) (power + 308)
termination_by (-power).toNat

def Number.scaled (negative : Bool) (significand : Nat) (power : Int) : Option Number :=
  (scale (Float.ofNat significand) power).map fun size =>
    .floating (if negative then -size else size)

/-- A number without decimals and exponent.  There is no integer for a negative zero, nor for
anything below the least integer of sixty-four bits. -/
def Number.ofWhole (negative : Bool) (significand : Nat) : Number :=
  if negative then
    if significand = 0 ∨ Nat.pow 2 63 < significand then .floating (-Float.ofNat significand)
    else .integer (-significand)
  else .integer significand

/-- The value of a numeral in front of `rest`.  A positive exponent of more than thirty-one bits is
refused as soon as it shows, unless the significand is zero. -/
def Numeral.value (numeral : Numeral) (rest : List UInt8) : Except Fault Number :=
  let (front, dropped) := gather UInt64.size 0 numeral.whole
  if numeral.decimals.isEmpty && numeral.exponent.isNone && dropped.isEmpty then
    .ok (.ofWhole numeral.negative front)
  else
    let (significand, left) := gather UInt64.size front numeral.decimals
    let power : Int := dropped.length + left.length - numeral.decimals.length
    let scaled (power : Int) : Except Fault Number :=
      match Number.scaled numeral.negative significand power with
      | none => .error (.before .numberOutOfRange rest)
      | some number => .ok number
    match numeral.exponent with
    | none => scaled power
    | some exponent =>
        match gather (Nat.pow 2 31) 0 exponent.digits with
        | (size, []) => scaled (if exponent.negative then power - size else power + size)
        | (_, _ :: later) =>
            if significand ≠ 0 ∧ !exponent.negative then
              .error (.before .numberOutOfRange (later ++ rest))
            else .ok (.floating (if numeral.negative then -0 else 0))

def readNumber (bytes : List UInt8) : Except Fault (Number × List UInt8) := do
  let (numeral, rest) ← Numeral.scan bytes
  let number ← numeral.value rest
  return (number, rest)

/-- The bytes behind a numeral whose value does not matter.  It has only one fault. -/
def skipNumber (bytes : List UInt8) : Except Fault (List UInt8) :=
  match Numeral.scan bytes with
  | .ok (_, rest) => .ok rest
  | .error fault => .error { fault with cause := .invalidNumber }

theorem readNumber_length {bytes rest : List UInt8} {number : Number}
    (run : readNumber bytes = .ok (number, rest)) : rest.length < bytes.length := by
  obtain ⟨⟨numeral, after⟩, scanRun, run⟩ := bind_eq_ok run
  obtain ⟨value, valueRun, run⟩ := bind_eq_ok run
  cases run
  exact Numeral.scan_length scanRun

theorem skipNumber_length {bytes rest : List UInt8} (run : skipNumber bytes = .ok rest) :
    rest.length < bytes.length := by
  unfold skipNumber at run
  split at run
  · next numeral after scanRun =>
      cases run
      exact Numeral.scan_length scanRun
  · cases run

end EquiJoin.Json
