import EquiJoin.Catalog.ColumnType
import EquiJoin.Json.Record
import EquiJoin.Reference

/-!
# Column handles

A column as the catalog names it: where it comes from, its table, its name, its type and its
position in the table. -/

set_option autoImplicit false

namespace EquiJoin

structure ColumnHandle where
  connectorId : String
  tableName : String
  columnName : String
  columnType : ColumnType
  logicalOrdinal : UInt32
  deriving DecidableEq

namespace ColumnHandle

inductive Member where
  | connectorId
  | tableName
  | columnName
  | columnType
  | logicalOrdinal
  deriving DecidableEq

abbrev Value : Member → Type
  | .connectorId | .tableName | .columnName => String
  | .columnType => ColumnType
  | .logicalOrdinal => UInt32

def format : Json.RecordFormat Value ColumnHandle where
  name := "ColumnHandle"
  members := [.connectorId, .tableName, .columnName, .columnType, .logicalOrdinal]
  members_all := by intro member; cases member <;> decide
  members_nodup := by decide
  label
    | .connectorId => "connectorId"
    | .tableName => "tableName"
    | .columnName => "columnName"
    | .columnType => "columnType"
    | .logicalOrdinal => "logicalOrdinal"
  label_injective := by intro first second; cases first <;> cases second <;> simp
  wire
    | .connectorId | .tableName | .columnName => inferInstanceAs (Json.Wire String)
    | .columnType => inferInstanceAs (Json.Wire ColumnType)
    | .logicalOrdinal => inferInstanceAs (Json.Wire UInt32)
  assemble values :=
    ⟨values .connectorId, values .tableName, values .columnName, values .columnType,
      values .logicalOrdinal⟩
  part column
    | .connectorId => column.connectorId
    | .tableName => column.tableName
    | .columnName => column.columnName
    | .columnType => column.columnType
    | .logicalOrdinal => column.logicalOrdinal
  assemble_part _ := rfl
  part_assemble values := by funext member; cases member <;> rfl

instance : Display ColumnHandle :=
  ⟨fun column => column.tableName ++ "." ++ column.columnName⟩

instance : Inspect ColumnHandle where
  inspect column := .record "ColumnHandle"
    [("connector_id", inspect column.connectorId), ("table_name", inspect column.tableName),
      ("column_name", inspect column.columnName), ("column_type", inspect column.columnType),
      ("logical_ordinal", inspect column.logicalOrdinal)]

instance : Fingerprint ColumnHandle where
  fingerprint column :=
    fingerprint column.connectorId ++ fingerprint column.tableName ++
      fingerprint column.columnName ++ fingerprint column.columnType ++
      fingerprint column.logicalOrdinal

instance : Json.Wire ColumnHandle := format.toWire

instance : Reference ColumnHandle where

end ColumnHandle

end EquiJoin
