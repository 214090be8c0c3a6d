import EquiJoin.Json.Wire

/-!
# Named alternatives

A type with finitely many values travels as the name of a value.  A value may be read under more
than one name, but it is written under one only.  Reading also accepts an object whose single key
is the name and whose value is null. -/

set_option autoImplicit false

namespace EquiJoin.Json

class Named (α : Type) where
  /-- Every name that is read, in the order in which messages list them. -/
  names : List (String × α)
  name : α → String
  lookup_name : ∀ value : α, names.lookup (name value) = some value

def readName (α : Type) [Named α] (bytes : List UInt8) : Except Fault (α × List UInt8) := do
  let (name, rest) ← readLiteral bytes
  match Named.names.lookup name with
  | some value => return (value, rest)
  | none => throw (.before (.unknownName name ((Named.names (α := α)).map Prod.fst)) rest)

theorem readName_length {α : Type} [Named α] {bytes rest : List UInt8} {value : α}
    (run : readName α bytes = .ok (value, rest)) : rest.length < bytes.length := by
  obtain ⟨⟨name, after⟩, literalRun, run⟩ := bind_eq_ok run
  have shorter := readLiteral_length literalRun
  dsimp only at run
  split at run
  · cases run
    exact shorter
  · cases run

/-- The value of the only key of an object, behind the opening bracket. -/
def readOnlyKey (α : Type) [Named α] (bytes : List UInt8) : Except Fault (α × List UInt8) :=
  match skipBlanks bytes with
  | [] => .error (.behind .endOfObject [])
  | 0x7D :: rest => .error (.before .expectedValue rest)
  | 0x22 :: rest => do
      let (value, rest) ← readName α rest
      let rest ← readNull (← readColon rest)
      match skipBlanks rest with
      | [] => throw (.before .endOfObject [])
      | 0x7D :: rest => return (value, rest)
      | rest => throw (.before .expectedValue rest)
  | _ :: rest => .error (.before .keyNotText rest)

theorem readOnlyKey_length {α : Type} [Named α] {bytes rest : List UInt8} {value : α}
    (run : readOnlyKey α bytes = .ok (value, rest)) : rest.length < bytes.length := by
  have blanks := skipBlanks_length bytes
  unfold readOnlyKey at run
  split at run
  · cases run
  · cases run
  · next tail found =>
      rw [found] at blanks
      obtain ⟨⟨read, afterName⟩, nameRun, run⟩ := bind_eq_ok run
      obtain ⟨afterColon, colonRun, run⟩ := bind_eq_ok run
      obtain ⟨afterNull, nullRun, run⟩ := bind_eq_ok run
      have moreBlanks := skipBlanks_length afterNull
      have nameShorter := readName_length nameRun
      have colonShorter := readColon_length colonRun
      have nullShorter := readNull_length nullRun
      split at run
      · cases run
      · next behind foundClosing =>
          cases run
          rw [foundClosing] at moreBlanks
          simp only [List.length_cons] at blanks moreBlanks
          omega
      · cases run
  · cases run

def readNamed (α : Type) [Named α] (bytes : List UInt8) : Except Fault (α × List UInt8) :=
  match skipBlanks bytes with
  | 0x22 :: rest => readName α rest
  | 0x7B :: rest => readOnlyKey α rest
  | [] => .error (.behind .endOfValue [])
  | _ :: rest => .error (.before .expectedValue rest)

/-- A value is written as its name and read from either form. -/
abbrev Named.wire (α : Type) [Named α] : Wire α where
  document value := .text (Named.name value)
  reader.read := readNamed α
  reader.shortens := by
    intro bytes rest value run
    have blanks := skipBlanks_length bytes
    unfold readNamed at run
    split at run
    · next tail found =>
        rw [found] at blanks
        exact Nat.lt_trans (readName_length run) blanks
    · next tail found =>
        rw [found] at blanks
        exact Nat.lt_trans (readOnlyKey_length run) blanks
    · cases run
    · cases run

end EquiJoin.Json
