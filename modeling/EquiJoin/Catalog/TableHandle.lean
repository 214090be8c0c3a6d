import EquiJoin.Json.Record
import EquiJoin.Reference

/-!
# Table handles

A table as the catalog names it: where it comes from, its schema and its name. -/

set_option autoImplicit false

namespace EquiJoin

structure TableHandle where
  connectorId : String
  schemaName : String
  tableName : String
  deriving DecidableEq

namespace TableHandle

inductive Member where
  | connectorId
  | schemaName
  | tableName
  deriving DecidableEq

def format : Json.RecordFormat (fun _ : Member => String) TableHandle where
  name := "TableHandle"
  members := [.connectorId, .schemaName, .tableName]
  members_all := by intro member; cases member <;> decide
  members_nodup := by decide
  label
    | .connectorId => "connectorId"
    | .schemaName => "schemaName"
    | .tableName => "tableName"
  label_injective := by intro first second; cases first <;> cases second <;> simp
  wire _ := inferInstance
  assemble values := ⟨values .connectorId, values .schemaName, values .tableName⟩
  part table
    | .connectorId => table.connectorId
    | .schemaName => table.schemaName
    | .tableName => table.tableName
  assemble_part _ := rfl
  part_assemble values := by funext member; cases member <;> rfl

instance : Display TableHandle :=
  ⟨fun table => table.schemaName ++ "." ++ table.tableName⟩

instance : Inspect TableHandle where
  inspect table := .record "TableHandle"
    [("connector_id", inspect table.connectorId), ("schema_name", inspect table.schemaName),
      ("table_name", inspect table.tableName)]

instance : Fingerprint TableHandle where
  fingerprint table :=
    fingerprint table.connectorId ++ fingerprint table.schemaName ++ fingerprint table.tableName

instance : Json.Wire TableHandle := format.toWire

instance : Reference TableHandle where

end TableHandle

end EquiJoin
