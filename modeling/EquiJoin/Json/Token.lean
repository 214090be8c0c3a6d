import EquiJoin.Json.Literal
import EquiJoin.Json.Numeral

/-!
# Tokens between values

What stands between the values of a document: blanks, keywords, colons, commas and brackets.  The
next step inside a list or an object is decided in one place (`listTurn`, `objectTurn`): it closes,
or another item or key follows. -/

set_option autoImplicit false

namespace EquiJoin.Json

def isBlank (byte : UInt8) : Bool :=
  byte == 0x20 || byte == 0x0A || byte == 0x09 || byte == 0x0D

def skipBlanks (bytes : List UInt8) : List UInt8 :=
  bytes.dropWhile isBlank

theorem skipBlanks_length (bytes : List UInt8) : (skipBlanks bytes).length ≤ bytes.length :=
  (List.dropWhile_sublist isBlank).length_le

def readLetters : List UInt8 → List UInt8 → Except Fault (List UInt8)
  | [], bytes => .ok bytes
  | _ :: _, [] => .error (.before .endOfValue [])
  | letter :: letters, byte :: rest =>
      if byte = letter then readLetters letters rest else .error (.before .expectedKeyword rest)

theorem readLetters_length {letters bytes rest : List UInt8}
    (run : readLetters letters bytes = .ok rest) : rest.length ≤ bytes.length := by
  induction letters generalizing bytes with
  | nil => cases run; exact Nat.le_refl _
  | cons letter letters ih =>
      cases bytes with
      | nil => cases run
      | cons byte tail =>
          simp only [readLetters] at run
          split at run
          · have shorter := ih run
            simp only [List.length_cons]
            omega
          · cases run

def nullTail : List UInt8 := [0x75, 0x6C, 0x6C]

def trueTail : List UInt8 := [0x72, 0x75, 0x65]

def falseTail : List UInt8 := [0x61, 0x6C, 0x73, 0x65]

def startsNumber (byte : UInt8) : Bool :=
  byte == 0x2D || isDigit byte

/-- The fault of a place where something else than the expected kind of value begins.  The value
found there is read first, as far as it is needed for the message, and a fault in it counts for
more. -/
def misfit (expected : Expected) (bytes : List UInt8) : Fault :=
  let wrong (found : Found) (rest : List UInt8) : Fault := .before (.wrongKind found expected) rest
  let outcome : Except Fault Fault :=
    match bytes with
    | [] => throw (.behind .endOfValue [])
    | 0x6E :: rest => (readLetters nullTail rest).map (wrong .null)
    | 0x74 :: rest => (readLetters trueTail rest).map (wrong (.flag true))
    | 0x66 :: rest => (readLetters falseTail rest).map (wrong (.flag false))
    | 0x22 :: rest => (readLiteral rest).map fun (text, rest) => wrong (.text text) rest
    | 0x5B :: _ => return wrong .list bytes
    | 0x7B :: _ => return wrong .object bytes
    | byte :: _ =>
        if startsNumber byte then
          (readNumber bytes).map fun (number, rest) => wrong (.number number) rest
        else throw (.behind .expectedValue bytes)
  match outcome with
  | .ok fault => fault
  | .error fault => fault

/-! ## Colons, commas and brackets -/

def readColon (bytes : List UInt8) : Except Fault (List UInt8) :=
  match skipBlanks bytes with
  | [] => .error (.behind .endOfObject [])
  | 0x3A :: rest => .ok rest
  | rest => .error (.behind .expectedColon rest)

theorem readColon_length {bytes rest : List UInt8} (run : readColon bytes = .ok rest) :
    rest.length < bytes.length := by
  have blanks := skipBlanks_length bytes
  unfold readColon at run
  split at run
  · cases run
  · next tail found =>
      cases run
      rw [found] at blanks
      exact blanks
  · cases run

inductive Turn where
  | closed (rest : List UInt8)
  | entry (rest : List UInt8)

def listTurn (first : Bool) (bytes : List UInt8) : Except Fault Turn :=
  match skipBlanks bytes with
  | [] => .error (.behind .endOfList [])
  | 0x5D :: rest => .ok (.closed rest)
  | byte :: rest =>
      if first then .ok (.entry (byte :: rest))
      else if byte = 0x2C then
        match skipBlanks rest with
        | [] => .error (.behind .endOfValue [])
        | 0x5D :: rest => .error (.before .trailingComma rest)
        | rest => .ok (.entry rest)
      else .error (.before .expectedCommaInList rest)

def Turn.rest : Turn → List UInt8
  | .closed rest | .entry rest => rest

theorem listTurn_length {first : Bool} {bytes : List UInt8} {turn : Turn}
    (run : listTurn first bytes = .ok turn) : turn.rest.length ≤ bytes.length := by
  have blanks := skipBlanks_length bytes
  unfold listTurn at run
  split at run
  · cases run
  · next rest found =>
      cases run
      rw [found] at blanks
      exact Nat.le_of_succ_le blanks
  · next byte rest _ found =>
      rw [found] at blanks
      have moreBlanks := skipBlanks_length rest
      have shorter : rest.length ≤ bytes.length := Nat.le_of_succ_le blanks
      split at run
      · cases run
        exact blanks
      · split at run
        · split at run
          · cases run
          · cases run
          · cases run
            exact Nat.le_trans moreBlanks shorter
        · cases run

/-- How an object goes on in front of its first member or behind a member.  The bytes of a further
entry begin behind the opening quote of its key. -/
def objectTurn (first : Bool) (bytes : List UInt8) : Except Fault Turn :=
  match skipBlanks bytes with
  | [] => .error (.behind .endOfObject [])
  | 0x7D :: rest => .ok (.closed rest)
  | byte :: rest =>
      if first then
        if byte = 0x22 then .ok (.entry rest) else .error (.before .keyNotText rest)
      else if byte = 0x2C then
        match skipBlanks rest with
        | [] => .error (.behind .endOfValue [])
        | 0x7D :: rest => .error (.before .trailingComma rest)
        | 0x22 :: rest => .ok (.entry rest)
        | rest => .error (.behind .keyNotText rest)
      else .error (.before .expectedCommaInObject rest)

theorem objectTurn_length {first : Bool} {bytes : List UInt8} {turn : Turn}
    (run : objectTurn first bytes = .ok turn) : turn.rest.length < bytes.length := by
  have blanks := skipBlanks_length bytes
  unfold objectTurn at run
  split at run
  · cases run
  · next rest found =>
      cases run
      rw [found] at blanks
      exact blanks
  · next byte rest _ found =>
      rw [found] at blanks
      have moreBlanks := skipBlanks_length rest
      have shorter : rest.length < bytes.length := blanks
      split at run
      · split at run
        · cases run
          exact shorter
        · cases run
      · split at run
        · split at run
          · cases run
          · cases run
          · next tail behind =>
              cases run
              rw [behind] at moreBlanks
              exact Nat.lt_of_lt_of_le moreBlanks (Nat.le_of_lt shorter)
          · cases run
        · cases run

def closeList (bytes : List UInt8) : Except Fault (List UInt8) :=
  match skipBlanks bytes with
  | [] => .error (.behind .endOfList [])
  | 0x5D :: rest => .ok rest
  | 0x2C :: rest =>
      match skipBlanks rest with
      | 0x5D :: rest => .error (.before .trailingComma rest)
      | rest => .error (.behind .trailingCharacters rest)
  | rest => .error (.behind .trailingCharacters rest)

theorem closeList_length {bytes rest : List UInt8} (run : closeList bytes = .ok rest) :
    rest.length < bytes.length := by
  have blanks := skipBlanks_length bytes
  unfold closeList at run
  split at run
  · cases run
  · next tail found =>
      cases run
      rw [found] at blanks
      exact blanks
  · split at run <;> cases run
  · cases run

end EquiJoin.Json
