import EquiJoin.Descriptor.Basic
import EquiJoin.Json.Record

/-!
# The members of a descriptor

A descriptor as a record of nine members: how it travels, and how it is put together from parts
that come one by one.  The tables and the key columns are required; every other member has a value
that stands in for it. -/

set_option autoImplicit false

namespace EquiJoin.Descriptor

inductive Member where
  | leftTable
  | leftKeyColumn
  | leftJoinedColumns
  | rightTable
  | rightKeyColumn
  | rightJoinedColumns
  | includeKeyColumns
  | buildSide
  | joinType
  deriving DecidableEq

namespace Member

abbrev Value (T C : Type) : Member → Type
  | .leftTable | .rightTable => T
  | .leftKeyColumn | .rightKeyColumn => C
  | .leftJoinedColumns | .rightJoinedColumns => List C
  | .includeKeyColumns => Bool
  | .buildSide => BuildSide
  | .joinType => JoinType

def all : List Member :=
  [.leftTable, .leftKeyColumn, .leftJoinedColumns, .rightTable, .rightKeyColumn,
    .rightJoinedColumns, .includeKeyColumns, .buildSide, .joinType]

theorem mem_all (member : Member) : member ∈ all := by
  cases member <;> decide

def label : Member → String
  | .leftTable => "leftTable"
  | .leftKeyColumn => "leftKeyColumn"
  | .leftJoinedColumns => "leftJoinedColumns"
  | .rightTable => "rightTable"
  | .rightKeyColumn => "rightKeyColumn"
  | .rightJoinedColumns => "rightJoinedColumns"
  | .includeKeyColumns => "includeKeyColumns"
  | .buildSide => "joinEndian"
  | .joinType => "joinType"

def fieldName : Member → String
  | .leftTable => "left_table"
  | .leftKeyColumn => "left_key_column"
  | .leftJoinedColumns => "left_joined_columns"
  | .rightTable => "right_table"
  | .rightKeyColumn => "right_key_column"
  | .rightJoinedColumns => "right_joined_columns"
  | .includeKeyColumns => "include_key_columns"
  | .buildSide => "build_side"
  | .joinType => "join_type"

end Member

variable {T C : Type}

def part (descriptor : Descriptor T C) : (member : Member) → member.Value T C
  | .leftTable => descriptor.left.table
  | .leftKeyColumn => descriptor.left.keyColumn
  | .leftJoinedColumns => descriptor.left.joinedColumns
  | .rightTable => descriptor.right.table
  | .rightKeyColumn => descriptor.right.keyColumn
  | .rightJoinedColumns => descriptor.right.joinedColumns
  | .includeKeyColumns => descriptor.includeKeyColumns
  | .buildSide => descriptor.buildSide
  | .joinType => descriptor.joinType

def assemble (values : (member : Member) → member.Value T C) : Descriptor T C :=
  ofInputs ⟨values .leftTable, values .leftKeyColumn, values .leftJoinedColumns⟩
    ⟨values .rightTable, values .rightKeyColumn, values .rightJoinedColumns⟩
    (values .includeKeyColumns) (values .buildSide) (values .joinType)

def format (T C : Type) [Reference T] [Reference C] :
    Json.RecordFormat (Member.Value T C) (Descriptor T C) where
  name := "JoinPlanDescriptor"
  members := Member.all
  members_all := Member.mem_all
  members_nodup := by decide
  label := Member.label
  label_injective := by
    intro first second same
    cases first <;> cases second <;> first | rfl | exact absurd same (by decide)
  wire
    | .leftTable | .rightTable => inferInstanceAs (Json.Wire T)
    | .leftKeyColumn | .rightKeyColumn => inferInstanceAs (Json.Wire C)
    | .leftJoinedColumns | .rightJoinedColumns => inferInstanceAs (Json.Wire (List C))
    | .includeKeyColumns => inferInstanceAs (Json.Wire Bool)
    | .buildSide => inferInstanceAs (Json.Wire BuildSide)
    | .joinType => inferInstanceAs (Json.Wire JoinType)
  assemble := assemble
  part := part
  assemble_part _ := rfl
  part_assemble values := by funext member; cases member <;> rfl

instance [Reference T] [Reference C] : Json.Wire (Descriptor T C) := (format T C).toWire

/-! ## From parts -/

/-- What stands in for members that are not given.  Tables and key columns have no stand-in. -/
def defaults : Draft (Member.Value T C) where
  value?
    | .leftTable | .leftKeyColumn | .rightTable | .rightKeyColumn => none
    | .leftJoinedColumns | .rightJoinedColumns => some []
    | .includeKeyColumns => some false
    | .buildSide => some default
    | .joinType => some default

def build (draft : Draft (Member.Value T C)) : Except Member (Descriptor T C) :=
  match (draft.orElse defaults).complete Member.all Member.mem_all with
  | .error member => .error member
  | .ok values => .ok (assemble values)

section Setters

variable (draft : Draft (Member.Value T C))

def setLeftTable (table : T) : Draft (Member.Value T C) := draft.set .leftTable table

def setLeftKeyColumn (column : C) : Draft (Member.Value T C) := draft.set .leftKeyColumn column

def setLeftJoinedColumns (columns : List C) : Draft (Member.Value T C) :=
  draft.set .leftJoinedColumns columns

def setRightTable (table : T) : Draft (Member.Value T C) := draft.set .rightTable table

def setRightKeyColumn (column : C) : Draft (Member.Value T C) := draft.set .rightKeyColumn column

def setRightJoinedColumns (columns : List C) : Draft (Member.Value T C) :=
  draft.set .rightJoinedColumns columns

def setIncludeKeyColumns (included : Bool) : Draft (Member.Value T C) :=
  draft.set .includeKeyColumns included

def setBuildSide (side : BuildSide) : Draft (Member.Value T C) := draft.set .buildSide side

def setJoinType (joinType : JoinType) : Draft (Member.Value T C) := draft.set .joinType joinType

end Setters

structure Setting (T C : Type) where
  member : Member
  value : member.Value T C

namespace Setting

def apply (draft : Draft (Member.Value T C)) : Setting T C → Draft (Member.Value T C)
  | ⟨.leftTable, table⟩ => setLeftTable draft table
  | ⟨.leftKeyColumn, column⟩ => setLeftKeyColumn draft column
  | ⟨.leftJoinedColumns, columns⟩ => setLeftJoinedColumns draft columns
  | ⟨.rightTable, table⟩ => setRightTable draft table
  | ⟨.rightKeyColumn, column⟩ => setRightKeyColumn draft column
  | ⟨.rightJoinedColumns, columns⟩ => setRightJoinedColumns draft columns
  | ⟨.includeKeyColumns, included⟩ => setIncludeKeyColumns draft included
  | ⟨.buildSide, side⟩ => setBuildSide draft side
  | ⟨.joinType, joinType⟩ => setJoinType draft joinType

/-- The setters differ in their members only. -/
theorem apply_eq (draft : Draft (Member.Value T C)) (setting : Setting T C) :
    setting.apply draft = draft.set setting.member setting.value := by
  obtain ⟨member, value⟩ := setting
  cases member <;> rfl

end Setting

def draftOf (settings : List (Setting T C)) : Draft (Member.Value T C) :=
  settings.foldl Setting.apply .empty

end EquiJoin.Descriptor
