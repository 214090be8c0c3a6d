import EquiJoin.Json.Fault
import EquiJoin.Utf8

/-!
# Text literals

How a text is written between quotes, and how the bytes between quotes are read back.  Writing uses
one spelling for each character.  Reading accepts every spelling: a character may stand for itself,
behind a backslash or by its number, and characters above U+FFFF may be written as a pair of
surrogates.  A literal that nobody asks for is only checked for where it ends (`skipLiteral`). -/

set_option autoImplicit false

namespace EquiJoin.Json

/-- The spelling of a character: quotes, backslashes and controls are escaped. -/
def spelled (character : Char) : List Char :=
  match character with
  | '"' => ['\\', '"']
  | '\\' => ['\\', '\\']
  | '\x08' => ['\\', 'b']
  | '\x0c' => ['\\', 'f']
  | '\n' => ['\\', 'n']
  | '\r' => ['\\', 'r']
  | '\t' => ['\\', 't']
  | other =>
      if other.toNat < 0x20 then
        ['\\', 'u', '0', '0', (other.toNat / 16).digitChar, (other.toNat % 16).digitChar]
      else [other]

def literal (text : String) : List Char :=
  '"' :: text.toList.flatMap spelled ++ ['"']

/-! ## Reading -/

def hexValue? (byte : UInt8) : Option Nat :=
  if 0x30 ≤ byte ∧ byte ≤ 0x39 then some (byte.toNat - 0x30)
  else if 0x41 ≤ byte ∧ byte ≤ 0x46 then some (byte.toNat - 0x41 + 10)
  else if 0x61 ≤ byte ∧ byte ≤ 0x66 then some (byte.toNat - 0x61 + 10)
  else none

def hexUnit? (digits : List UInt8) : Option Nat :=
  digits.foldlM (fun number digit => (hexValue? digit).map (16 * number + ·)) 0

def readHexUnit (bytes : List UInt8) : Except Fault (Nat × List UInt8) :=
  if bytes.length < 4 then .error (.before .endOfText [])
  else
    match hexUnit? (bytes.take 4) with
    | none => .error (.before .invalidEscape (bytes.drop 4))
    | some unit => .ok (unit, bytes.drop 4)

def isHighSurrogate (unit : Nat) : Bool :=
  0xD800 ≤ unit && unit ≤ 0xDBFF

def isLowSurrogate (unit : Nat) : Bool :=
  0xDC00 ≤ unit && unit ≤ 0xDFFF

def fromSurrogates (high low : Nat) : Char :=
  Char.ofNat (0x10000 + 0x400 * (high - 0xD800) + (low - 0xDC00))

def readLowSurrogate (bytes : List UInt8) : Except Fault (Nat × List UInt8) :=
  match bytes with
  | 0x5C :: 0x75 :: rest => do
      let (unit, rest) ← readHexUnit rest
      if isLowSurrogate unit then return (unit, rest)
      else throw (.before .loneSurrogate rest)
  | [] | [0x5C] => .error (.before .endOfText [])
  | 0x5C :: rest => .error (.behind .halfSurrogatePair rest)
  | _ :: rest => .error (.before .halfSurrogatePair rest)

def readNumbered (bytes : List UInt8) : Except Fault (Char × List UInt8) := do
  let (unit, rest) ← readHexUnit bytes
  if isLowSurrogate unit then throw (.before .loneSurrogate rest)
  else if isHighSurrogate unit then
    let (low, rest) ← readLowSurrogate rest
    return (fromSurrogates unit low, rest)
  else return (Char.ofNat unit, rest)

def escaped? (letter : UInt8) : Option Char :=
  match letter with
  | 0x22 => some '"'
  | 0x5C => some '\\'
  | 0x2F => some '/'
  | 0x62 => some '\x08'
  | 0x66 => some '\x0c'
  | 0x6E => some '\n'
  | 0x72 => some '\r'
  | 0x74 => some '\t'
  | _ => none

def numberLetter : UInt8 := 0x75

def readEscape : List UInt8 → Except Fault (Char × List UInt8)
  | [] => .error (.before .endOfText [])
  | letter :: rest =>
      match escaped? letter with
      | some character => .ok (character, rest)
      | none =>
          if letter = numberLetter then readNumbered rest
          else .error (.before .invalidEscape rest)

theorem readHexUnit_length {bytes rest : List UInt8} {unit : Nat}
    (run : readHexUnit bytes = .ok (unit, rest)) : rest.length < bytes.length := by
  simp only [readHexUnit] at run
  split at run
  · cases run
  · split at run
    · cases run
    · obtain ⟨-, rfl⟩ := Prod.mk.inj (Except.ok.inj run)
      simp only [List.length_drop]
      omega

theorem readLowSurrogate_length {bytes rest : List UInt8} {unit : Nat}
    (run : readLowSurrogate bytes = .ok (unit, rest)) : rest.length < bytes.length := by
  unfold readLowSurrogate at run
  split at run
  · obtain ⟨⟨low, after⟩, unitRun, run⟩ := bind_eq_ok run
    have shorter := readHexUnit_length unitRun
    dsimp only at run
    split at run
    · cases run
      simp only [List.length_cons]
      omega
    · cases run
  all_goals cases run

theorem readNumbered_length {bytes rest : List UInt8} {character : Char}
    (run : readNumbered bytes = .ok (character, rest)) : rest.length < bytes.length := by
  obtain ⟨⟨unit, after⟩, unitRun, run⟩ := bind_eq_ok run
  have shorter := readHexUnit_length unitRun
  dsimp only at run
  split at run
  · cases run
  · split at run
    · obtain ⟨⟨low, behind⟩, lowRun, run⟩ := bind_eq_ok run
      have lowShorter := readLowSurrogate_length lowRun
      obtain ⟨-, rfl⟩ := Prod.mk.inj (Except.ok.inj run)
      exact Nat.lt_trans lowShorter shorter
    · obtain ⟨-, rfl⟩ := Prod.mk.inj (Except.ok.inj run)
      exact shorter

theorem readEscape_length {bytes rest : List UInt8} {character : Char}
    (run : readEscape bytes = .ok (character, rest)) : rest.length < bytes.length := by
  cases bytes with
  | nil => cases run
  | cons letter tail =>
      simp only [readEscape] at run
      split at run
      · cases run
        simp
      · split at run
        · have shorter := readNumbered_length run
          simp only [List.length_cons]
          omega
        · cases run

/-- The content of a literal as bytes, behind its opening quote, and the bytes behind its closing
quote.  Bytes that are not escaped are taken as they are. -/
def readContent (bytes : List UInt8) : Except Fault (List UInt8 × List UInt8) :=
  match bytes with
  | [] => .error (.before .endOfText [])
  | 0x22 :: rest => .ok ([], rest)
  | 0x5C :: rest =>
      match _run : readEscape rest with
      | .error fault => .error fault
      | .ok (character, rest) => do
          let (content, rest) ← readContent rest
          return (String.utf8EncodeChar character ++ content, rest)
  | byte :: rest =>
      if byte < 0x20 then .error (.before .controlInText rest)
      else do
        let (content, rest) ← readContent rest
        return (byte :: content, rest)
termination_by bytes.length
decreasing_by
  · have shorter := readEscape_length _run
    simp only [List.length_cons]
    omega
  · simp

theorem readContent_length {bytes content rest : List UInt8}
    (run : readContent bytes = .ok (content, rest)) : rest.length < bytes.length := by
  fun_induction readContent bytes generalizing content with
  | case1 => cases run
  | case2 rest => cases run; simp
  | case3 rest fault escapeRun => cases run
  | case4 tail character after escapeRun ih =>
      obtain ⟨⟨content, behind⟩, contentRun, run⟩ := bind_eq_ok run
      cases run
      have shorter := ih contentRun
      have escapeShorter := readEscape_length escapeRun
      simp only [List.length_cons]
      omega
  | case5 byte tail _ _ control => cases run
  | case6 byte tail _ _ _ ih =>
      obtain ⟨⟨content, behind⟩, contentRun, run⟩ := bind_eq_ok run
      cases run
      have shorter := ih contentRun
      simp only [List.length_cons]
      omega

/-- The text of a literal, behind its opening quote.  If the content is not UTF-8, the fault is
reported as many bytes in front of the end as the content has behind its well-formed part. -/
def readLiteral (bytes : List UInt8) : Except Fault (String × List UInt8) := do
  let (content, rest) ← readContent bytes
  match Utf8.split content with
  | (characters, []) => return (String.ofList characters, rest)
  | (_, malformed) => throw ⟨.invalidCharacter, rest.length + malformed.length⟩

theorem readLiteral_length {bytes rest : List UInt8} {text : String}
    (run : readLiteral bytes = .ok (text, rest)) : rest.length < bytes.length := by
  obtain ⟨⟨content, after⟩, contentRun, run⟩ := bind_eq_ok run
  have shorter := readContent_length contentRun
  dsimp only at run
  split at run
  · cases run
    exact shorter
  · cases run

/-! ## Skipping -/

def skipEscape : List UInt8 → Except Fault (List UInt8)
  | [] => .error (.before .endOfText [])
  | letter :: rest =>
      if (escaped? letter).isSome then .ok rest
      else if letter = numberLetter then do
        let (_, rest) ← readHexUnit rest
        return rest
      else .error (.before .invalidEscape rest)

theorem skipEscape_length {bytes rest : List UInt8} (run : skipEscape bytes = .ok rest) :
    rest.length < bytes.length := by
  cases bytes with
  | nil => cases run
  | cons letter tail =>
      simp only [skipEscape] at run
      split at run
      · cases run
        simp
      · split at run
        · obtain ⟨⟨unit, after⟩, unitRun, run⟩ := bind_eq_ok run
          have shorter := readHexUnit_length unitRun
          cases run
          simp only [List.length_cons]
          omega
        · cases run

def skipLiteral (bytes : List UInt8) : Except Fault (List UInt8) :=
  match bytes with
  | [] => .error (.before .endOfText [])
  | 0x22 :: rest => .ok rest
  | 0x5C :: rest =>
      match _run : skipEscape rest with
      | .error fault => .error fault
      | .ok rest => skipLiteral rest
  | byte :: rest =>
      if byte < 0x20 then .error (.before .controlInText (byte :: rest))
      else skipLiteral rest
termination_by bytes.length
decreasing_by
  · have shorter := skipEscape_length _run
    simp only [List.length_cons]
    omega
  · simp

theorem skipLiteral_length {bytes rest : List UInt8} (run : skipLiteral bytes = .ok rest) :
    rest.length < bytes.length := by
  fun_induction skipLiteral bytes with
  | case1 => cases run
  | case2 rest => cases run; simp
  | case3 tail fault escapeRun => cases run
  | case4 tail after escapeRun ih =>
      have shorter := ih run
      have escapeShorter := skipEscape_length escapeRun
      simp only [List.length_cons]
      omega
  | case5 byte tail _ _ control => cases run
  | case6 byte tail _ _ _ ih =>
      have shorter := ih run
      simp only [List.length_cons]
      omega

end EquiJoin.Json
