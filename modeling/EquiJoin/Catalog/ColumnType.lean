import EquiJoin.Fingerprint
import EquiJoin.Inspection
import EquiJoin.Json.Names

/-!
# Column types -/

set_option autoImplicit false

namespace EquiJoin

inductive ColumnType where
  | bool
  | int
  | long
  | double
  | decimal
  | utf8String
  | date
  | timestamp
  deriving DecidableEq

namespace ColumnType

def shown : ColumnType → String
  | .bool => "Bool"
  | .int => "Int"
  | .long => "Long"
  | .double => "Double"
  | .decimal => "Decimal"
  | .utf8String => "Utf8String"
  | .date => "Date"
  | .timestamp => "Timestamp"

instance : Inspect ColumnType := ⟨fun columnType => .atom columnType.shown⟩

def position : ColumnType → Nat
  | .bool => 0
  | .int => 1
  | .long => 2
  | .double => 3
  | .decimal => 4
  | .utf8String => 5
  | .date => 6
  | .timestamp => 7

instance : Fingerprint ColumnType := ⟨fun columnType => word columnType.position⟩

instance : Json.Named ColumnType where
  names :=
    [("BOOL", .bool), ("INT", .int), ("LONG", .long), ("DOUBLE", .double), ("DECIMAL", .decimal),
      ("UTF8_STRING", .utf8String), ("DATE", .date), ("TIMESTAMP", .timestamp)]
  name
    | .bool => "BOOL"
    | .int => "INT"
    | .long => "LONG"
    | .double => "DOUBLE"
    | .decimal => "DECIMAL"
    | .utf8String => "UTF8_STRING"
    | .date => "DATE"
    | .timestamp => "TIMESTAMP"
  lookup_name := by intro value; cases value <;> rfl

instance : Json.Wire ColumnType := Json.Named.wire ColumnType

end ColumnType

end EquiJoin
