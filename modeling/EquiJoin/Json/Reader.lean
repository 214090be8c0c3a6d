import EquiJoin.Json.Token

/-!
# Readers

A reader takes one value of a type off the front of a payload.  It reads every value to its end and
nothing behind it, so a reader always leaves fewer bytes than it was given; that is part of its
type, and it is why reading a list of values comes to an end. -/

set_option autoImplicit false

namespace EquiJoin.Json

structure Reader (α : Type) where
  read : List UInt8 → Except Fault (α × List UInt8)
  shortens : ∀ {bytes rest : List UInt8} {value : α},
    read bytes = .ok (value, rest) → rest.length < bytes.length

def readText (bytes : List UInt8) : Except Fault (String × List UInt8) :=
  match skipBlanks bytes with
  | 0x22 :: rest => readLiteral rest
  | rest => .error (misfit .text rest)

def Reader.text : Reader String where
  read := readText
  shortens := by
    intro bytes rest value run
    have blanks := skipBlanks_length bytes
    unfold readText at run
    split at run
    · next tail found =>
        rw [found] at blanks
        exact Nat.lt_trans (readLiteral_length run) blanks
    · cases run

def readFlag (bytes : List UInt8) : Except Fault (Bool × List UInt8) :=
  match skipBlanks bytes with
  | 0x74 :: rest => return (true, ← readLetters trueTail rest)
  | 0x66 :: rest => return (false, ← readLetters falseTail rest)
  | rest => .error (misfit .flag rest)

def Reader.flag : Reader Bool where
  read := readFlag
  shortens := by
    intro bytes rest value run
    have blanks := skipBlanks_length bytes
    unfold readFlag at run
    split at run
    · next tail found =>
        rw [found] at blanks
        obtain ⟨after, lettersRun, run⟩ := bind_eq_ok run
        cases run
        exact Nat.lt_of_le_of_lt (readLetters_length lettersRun) blanks
    · next tail found =>
        rw [found] at blanks
        obtain ⟨after, lettersRun, run⟩ := bind_eq_ok run
        cases run
        exact Nat.lt_of_le_of_lt (readLetters_length lettersRun) blanks
    · cases run

/-- The ordinal that a number stands for.  Only an integer of at most thirty-two bits stands for
one; a floating-point number never does, whatever its size. -/
def ordinalOf (number : Number) (rest : List UInt8) : Except Fault (UInt32 × List UInt8) :=
  match number with
  | .integer value =>
      if 0 ≤ value ∧ value < UInt32.size then .ok (UInt32.ofNat value.toNat, rest)
      else .error (.before (.wrongValue number .ordinal) rest)
  | .floating _ => .error (.before (.wrongKind (.number number) .ordinal) rest)

def readOrdinal (bytes : List UInt8) : Except Fault (UInt32 × List UInt8) :=
  let rest := skipBlanks bytes
  if rest.head?.any startsNumber then do
    let (number, rest) ← readNumber rest
    ordinalOf number rest
  else .error (misfit .ordinal rest)

def Reader.ordinal : Reader UInt32 where
  read := readOrdinal
  shortens := by
    intro bytes rest value run
    have blanks := skipBlanks_length bytes
    unfold readOrdinal at run
    dsimp only at run
    split at run
    · obtain ⟨⟨number, after⟩, numberRun, run⟩ := bind_eq_ok run
      have shorter := readNumber_length numberRun
      dsimp only [ordinalOf] at run
      split at run
      · split at run
        · cases run
          exact Nat.lt_of_lt_of_le shorter blanks
        · cases run
      · cases run
    · cases run

def readNull (bytes : List UInt8) : Except Fault (List UInt8) :=
  match skipBlanks bytes with
  | 0x6E :: rest => readLetters nullTail rest
  | rest => .error (misfit .null rest)

theorem readNull_length {bytes rest : List UInt8} (run : readNull bytes = .ok rest) :
    rest.length < bytes.length := by
  have blanks := skipBlanks_length bytes
  unfold readNull at run
  split at run
  · next tail found =>
      rw [found] at blanks
      exact Nat.lt_of_le_of_lt (readLetters_length run) blanks
  · cases run

def readItems {α : Type} (item : Reader α) (first : Bool) (bytes : List UInt8) :
    Except Fault (List α × List UInt8) :=
  match _turn : listTurn first bytes with
  | .error fault => .error fault
  | .ok (.closed rest) => .ok ([], rest)
  | .ok (.entry entry) =>
      match _run : item.read entry with
      | .error fault => .error fault
      | .ok (value, rest) => do
          let (values, rest) ← readItems item false rest
          return (value :: values, rest)
termination_by bytes.length
decreasing_by
  exact Nat.lt_of_lt_of_le (item.shortens _run) (listTurn_length _turn)

theorem readItems_length {α : Type} {item : Reader α} {first : Bool} {bytes rest : List UInt8}
    {values : List α} (run : readItems item first bytes = .ok (values, rest)) :
    rest.length ≤ bytes.length := by
  fun_induction readItems item first bytes generalizing values with
  | case1 => cases run
  | case2 first bytes rest turn =>
      cases run
      exact listTurn_length turn
  | case3 => cases run
  | case4 first bytes entry turn value after itemRun ih =>
      obtain ⟨⟨others, behind⟩, othersRun, run⟩ := bind_eq_ok run
      cases run
      exact Nat.le_trans (ih othersRun)
        (Nat.le_of_lt (Nat.lt_of_lt_of_le (item.shortens itemRun) (listTurn_length turn)))

def readList {α : Type} (item : Reader α) (bytes : List UInt8) :
    Except Fault (List α × List UInt8) :=
  match skipBlanks bytes with
  | 0x5B :: rest => readItems item true rest
  | rest => .error (misfit .list rest)

def Reader.list {α : Type} (item : Reader α) : Reader (List α) where
  read := readList item
  shortens := by
    intro bytes rest values run
    have blanks := skipBlanks_length bytes
    unfold readList at run
    split at run
    · next tail found =>
        rw [found] at blanks
        exact Nat.lt_of_le_of_lt (readItems_length run) blanks
    · cases run

end EquiJoin.Json
