import EquiJoin.Json.Document
import EquiJoin.Json.Reader

/-!
# Values on the wire

A type travels as a document in one direction and is read in the other.  `Wire` ties the two
together; texts, truth values, ordinals and lists have their form here. -/

set_option autoImplicit false

namespace EquiJoin.Json

class Wire (α : Type) where
  document : α → Document
  reader : Reader α

instance : Wire String := ⟨.text, .text⟩

instance : Wire Bool := ⟨.flag, .flag⟩

instance : Wire UInt32 := ⟨fun ordinal => .number ordinal.toNat, .ordinal⟩

instance {α : Type} [Wire α] : Wire (List α) :=
  ⟨fun values => .list (values.map Wire.document), .list Wire.reader⟩

structure Malformed where
  cause : Cause
  place : Place
  deriving DecidableEq

def Malformed.message (malformed : Malformed) : String :=
  s!"{malformed.cause.message} at line {malformed.place.line} column {malformed.place.column}"

def readWhole {α : Type} (reader : Reader α) (payload : List UInt8) : Except Fault α := do
  let (value, rest) ← reader.read payload
  match skipBlanks rest with
  | [] => return value
  | rest => throw (.behind .trailingCharacters rest)

def decode {α : Type} [Wire α] (payload : List UInt8) : Except Malformed α :=
  match readWhole Wire.reader payload with
  | .ok value => .ok value
  | .error fault => .error ⟨fault.cause, fault.place payload⟩

def encode {α : Type} [Wire α] (layout : Layout) (value : α) : String :=
  String.ofList ((Wire.document value).write layout 0)

end EquiJoin.Json
