import EquiJoin.Draft
import EquiJoin.Json.Skip
import EquiJoin.Json.Wire

/-!
# Records

A record has named members with values of different types.  `RecordFormat` says which members there
are, in which order, and how each of them travels.  A record is written as an object with all
members in order.  It is read from an object with the members in any order, other members being
skipped, or from a list with the values of all members in order. -/

set_option autoImplicit false

namespace EquiJoin.Json

/-- The members of a record type `ρ` and their values. -/
structure RecordFormat {Member : Type} (Value : Member → Type) (ρ : Type) where
  name : String
  members : List Member
  members_all : ∀ member, member ∈ members
  members_nodup : members.Nodup
  label : Member → String
  label_injective : ∀ first second, label first = label second → first = second
  wire : (member : Member) → Wire (Value member)
  assemble : ((member : Member) → Value member) → ρ
  part : ρ → (member : Member) → Value member
  assemble_part : ∀ record, assemble (part record) = record
  part_assemble : ∀ values, part (assemble values) = values

namespace RecordFormat

variable {Member : Type} {Value : Member → Type} {ρ : Type}

def member? (format : RecordFormat Value ρ) (key : String) : Option Member :=
  format.members.find? fun member => format.label member == key

def document (format : RecordFormat Value ρ) (record : ρ) : Document :=
  .object (format.members.map fun member =>
    (format.label member, (format.wire member).document (format.part record member)))

/-- The bytes behind an object that is given up here: its closing bracket is looked for, but not
insisted on. -/
def abandonObject (bytes : List UInt8) : List UInt8 :=
  match skipBlanks bytes with
  | 0x7D :: rest => rest
  | rest => rest

/-- A member, behind the opening quote of its key.  A key that came before is refused at once. -/
def readMember [DecidableEq Member] (format : RecordFormat Value ρ) (draft : Draft Value)
    (bytes : List UInt8) : Except Fault (Draft Value × List UInt8) := do
  let (key, rest) ← readLiteral bytes
  match format.member? key with
  | none =>
      let rest ← skipValue [] (← readColon rest)
      return (draft, rest)
  | some member =>
      if (draft.value? member).isSome then
        throw (.before (.repeatedMember (format.label member)) (abandonObject rest))
      else
        let rest ← readColon rest
        let (value, rest) ← (format.wire member).reader.read rest
        return (draft.set member value, rest)

theorem readMember_length [DecidableEq Member] {format : RecordFormat Value ρ}
    {draft next : Draft Value} {bytes rest : List UInt8}
    (run : format.readMember draft bytes = .ok (next, rest)) : rest.length < bytes.length := by
  obtain ⟨⟨key, afterKey⟩, keyRun, run⟩ := bind_eq_ok run
  have keyShorter := readLiteral_length keyRun
  dsimp only at run
  split at run
  · obtain ⟨afterColon, colonRun, run⟩ := bind_eq_ok run
    obtain ⟨afterValue, valueRun, run⟩ := bind_eq_ok run
    have colonShorter := readColon_length colonRun
    have valueShorter := skipValue_length valueRun
    cases run
    omega
  · split at run
    · cases run
    · obtain ⟨afterColon, colonRun, run⟩ := bind_eq_ok run
      obtain ⟨⟨value, afterValue⟩, valueRun, run⟩ := bind_eq_ok run
      have colonShorter := readColon_length colonRun
      have valueShorter := (format.wire _).reader.shortens valueRun
      cases run
      exact Nat.lt_trans valueShorter (Nat.lt_trans colonShorter keyShorter)

def readMembers [DecidableEq Member] (format : RecordFormat Value ρ) (draft : Draft Value)
    (first : Bool) (bytes : List UInt8) : Except Fault (Draft Value × List UInt8) :=
  match _turn : objectTurn first bytes with
  | .error fault => .error fault
  | .ok (.closed rest) => .ok (draft, rest)
  | .ok (.entry entry) =>
      match _run : format.readMember draft entry with
      | .error fault => .error fault
      | .ok (draft, rest) => format.readMembers draft false rest
termination_by bytes.length
decreasing_by
  exact Nat.lt_trans (readMember_length _run) (objectTurn_length _turn)

theorem readMembers_length [DecidableEq Member] {format : RecordFormat Value ρ}
    {draft final : Draft Value} {first : Bool} {bytes rest : List UInt8}
    (run : format.readMembers draft first bytes = .ok (final, rest)) :
    rest.length < bytes.length := by
  fun_induction readMembers format draft first bytes with
  | case1 => cases run
  | case2 draft first bytes after turn =>
      cases run
      exact objectTurn_length turn
  | case3 => cases run
  | case4 draft first bytes entry turn next after memberRun ih =>
      exact Nat.lt_trans (ih run) (Nat.lt_trans (readMember_length memberRun)
        (objectTurn_length turn))

def readObject [DecidableEq Member] (format : RecordFormat Value ρ) (bytes : List UInt8) :
    Except Fault (ρ × List UInt8) := do
  let (draft, rest) ← format.readMembers .empty true bytes
  match draft.complete format.members format.members_all with
  | .error member => throw (.before (.missingMember (format.label member)) rest)
  | .ok values => return (format.assemble values, rest)

theorem readObject_length [DecidableEq Member] {format : RecordFormat Value ρ} {record : ρ}
    {bytes rest : List UInt8} (run : format.readObject bytes = .ok (record, rest)) :
    rest.length < bytes.length := by
  obtain ⟨⟨draft, after⟩, membersRun, run⟩ := bind_eq_ok run
  have shorter := readMembers_length membersRun
  dsimp only at run
  split at run
  · cases run
  · cases run
    exact shorter

/-- The values of the given members, the first `count` members having been read before. -/
def readValues [DecidableEq Member] (format : RecordFormat Value ρ) :
    (members : List Member) → (count : Nat) → List UInt8 →
      Except Fault (((member : Member) → member ∈ members → Value member) × List UInt8)
  | [], _, bytes => .ok (fun _ absent => absurd absent List.not_mem_nil, bytes)
  | member :: members, count, bytes => do
      match ← listTurn (count == 0) bytes with
      | .closed rest =>
          throw (.before (.tooFewItems count format.name format.members.length) rest)
      | .entry entry =>
          let (value, rest) ← (format.wire member).reader.read entry
          let (values, rest) ← format.readValues members (count + 1) rest
          return (fun other present =>
            if same : member = other then same ▸ value
            else values other ((List.mem_cons.mp present).resolve_left (Ne.symm same)), rest)

theorem readValues_length [DecidableEq Member] {format : RecordFormat Value ρ}
    {members : List Member} {count : Nat} {bytes rest : List UInt8}
    {values : (member : Member) → member ∈ members → Value member}
    (run : format.readValues members count bytes = .ok (values, rest)) :
    rest.length ≤ bytes.length := by
  induction members generalizing count bytes with
  | nil => cases run; exact Nat.le_refl _
  | cons member members ih =>
      obtain ⟨turn, turnRun, run⟩ := bind_eq_ok run
      have turnShorter := listTurn_length turnRun
      cases turn with
      | closed after => cases run
      | entry entry =>
          obtain ⟨⟨value, afterValue⟩, valueRun, run⟩ := bind_eq_ok run
          obtain ⟨⟨others, afterOthers⟩, othersRun, run⟩ := bind_eq_ok run
          have valueShorter := (format.wire member).reader.shortens valueRun
          obtain ⟨-, rfl⟩ := Prod.mk.inj (Except.ok.inj run)
          have othersShorter := ih othersRun
          exact Nat.le_trans othersShorter (Nat.le_trans (Nat.le_of_lt valueShorter) turnShorter)

def readPositional [DecidableEq Member] (format : RecordFormat Value ρ) (bytes : List UInt8) :
    Except Fault (ρ × List UInt8) := do
  let (values, rest) ← format.readValues format.members 0 bytes
  let rest ← closeList rest
  return (format.assemble fun member => values member (format.members_all member), rest)

theorem readPositional_length [DecidableEq Member] {format : RecordFormat Value ρ} {record : ρ}
    {bytes rest : List UInt8} (run : format.readPositional bytes = .ok (record, rest)) :
    rest.length < bytes.length := by
  obtain ⟨⟨values, afterValues⟩, valuesRun, run⟩ := bind_eq_ok run
  obtain ⟨afterClosing, closeRun, run⟩ := bind_eq_ok run
  obtain ⟨-, rfl⟩ := Prod.mk.inj (Except.ok.inj run)
  exact Nat.lt_of_lt_of_le (closeList_length closeRun) (readValues_length valuesRun)

def read [DecidableEq Member] (format : RecordFormat Value ρ) (bytes : List UInt8) :
    Except Fault (ρ × List UInt8) :=
  match skipBlanks bytes with
  | 0x7B :: rest => format.readObject rest
  | 0x5B :: rest => format.readPositional rest
  | rest => .error (misfit (.record format.name) rest)

abbrev toWire [DecidableEq Member] (format : RecordFormat Value ρ) : Wire ρ where
  document := format.document
  reader.read := format.read
  reader.shortens := by
    intro bytes rest record run
    have blanks := skipBlanks_length bytes
    unfold read at run
    split at run
    · next tail found =>
        rw [found] at blanks
        exact Nat.lt_trans (readObject_length run) blanks
    · next tail found =>
        rw [found] at blanks
        exact Nat.lt_trans (readPositional_length run) blanks
    · cases run

end RecordFormat

end EquiJoin.Json
