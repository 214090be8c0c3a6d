import EquiJoin.Json.Number
import EquiJoin.Text.Quoted

/-!
# Faults of a payload

Why a payload is refused, and where.  While a payload is read only the bytes that are still unread
are at hand, so a fault counts those; the line and the column follow from the payload as a whole
(`Fault.place`).  A column counts bytes, not characters. -/

set_option autoImplicit false

namespace EquiJoin.Json

inductive Found where
  | null
  | flag (value : Bool)
  | number (value : Number)
  | text (value : String)
  | list
  | object
  deriving DecidableEq

def Found.described : Found → String
  | .null => "null"
  | .flag value => s!"boolean `{value}`"
  | .number value => value.described
  | .text value => "string " ++ Text.quoted value
  | .list => "sequence"
  | .object => "map"

inductive Expected where
  | text
  | flag
  | list
  | ordinal
  | null
  | record (name : String)
  deriving DecidableEq

def Expected.described : Expected → String
  | .text => "a string"
  | .flag => "a boolean"
  | .list => "a sequence"
  | .ordinal => "u32"
  | .null => "unit"
  | .record name => "struct " ++ name

inductive Cause where
  | endOfList
  | endOfObject
  | endOfText
  | endOfValue
  | expectedColon
  | expectedCommaInList
  | expectedCommaInObject
  | expectedKeyword
  | expectedValue
  | keyNotText
  | trailingComma
  | trailingCharacters
  | invalidEscape
  | invalidNumber
  | invalidCharacter
  | controlInText
  | loneSurrogate
  | halfSurrogatePair
  | numberOutOfRange
  | wrongKind (found : Found) (expected : Expected)
  | wrongValue (found : Number) (expected : Expected)
  | unknownName (given : String) (known : List String)
  | repeatedMember (label : String)
  | missingMember (label : String)
  | tooFewItems (count : Nat) (record : String) (size : Nat)
  deriving DecidableEq

def choices (known : List String) : String :=
  ", ".intercalate (known.map fun name => s!"`{name}`")

def Cause.message : Cause → String
  | .endOfList => "EOF while parsing a list"
  | .endOfObject => "EOF while parsing an object"
  | .endOfText => "EOF while parsing a string"
  | .endOfValue => "EOF while parsing a value"
  | .expectedColon => "expected `:`"
  | .expectedCommaInList => "expected `,` or `]`"
  | .expectedCommaInObject => "expected `,` or `\x7d`"
  | .expectedKeyword => "expected ident"
  | .expectedValue => "expected value"
  | .keyNotText => "key must be a string"
  | .trailingComma => "trailing comma"
  | .trailingCharacters => "trailing characters"
  | .invalidEscape => "invalid escape"
  | .invalidNumber => "invalid number"
  | .invalidCharacter => "invalid unicode code point"
  | .controlInText => "control character (\\u0000-\\u001F) found while parsing a string"
  | .loneSurrogate => "lone leading surrogate in hex escape"
  | .halfSurrogatePair => "unexpected end of hex escape"
  | .numberOutOfRange => "number out of range"
  | .wrongKind found expected =>
      s!"invalid type: {found.described}, expected {expected.described}"
  | .wrongValue found expected =>
      s!"invalid value: {found.described}, expected {expected.described}"
  | .unknownName given known => s!"unknown variant `{given}`, expected one of {choices known}"
  | .repeatedMember label => s!"duplicate field `{label}`"
  | .missingMember label => s!"missing field `{label}`"
  | .tooFewItems count record size =>
      s!"invalid length {count}, expected struct {record} with {size} elements"

/-- A cause and the number of bytes behind the place that it is reported at. -/
structure Fault where
  cause : Cause
  unread : Nat
  deriving DecidableEq

def Fault.before (cause : Cause) (rest : List UInt8) : Fault := ⟨cause, rest.length⟩

/-- A fault reported just behind the first of the bytes `rest`, or at the end if there is none. -/
def Fault.behind (cause : Cause) (rest : List UInt8) : Fault := ⟨cause, rest.tail.length⟩

/-- A line, counted from one, and the number of bytes on it so far. -/
structure Place where
  line : Nat
  column : Nat
  deriving DecidableEq

def Place.behind (bytes : List UInt8) : Place where
  line := 1 + bytes.count 0x0A
  column := (bytes.reverse.takeWhile (· != 0x0A)).length

def Fault.place (payload : List UInt8) (fault : Fault) : Place :=
  Place.behind (payload.take (payload.length - fault.unread))

theorem bind_eq_ok {ε α β : Type} {first : Except ε α} {next : α → Except ε β} {result : β}
    (run : (first >>= next) = .ok result) : ∃ value, first = .ok value ∧ next value = .ok result := by
  cases first with
  | error fault => cases run
  | ok value => exact ⟨value, rfl, run⟩

end EquiJoin.Json
