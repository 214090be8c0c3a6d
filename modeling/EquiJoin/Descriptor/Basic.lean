import EquiJoin.BuildSide
import EquiJoin.JoinType
import EquiJoin.Reference

/-!
# Join descriptors

A descriptor says everything that an executor needs to set up the equi-join of two tables.  Its
inputs and its join type are the plan; the build side and the key columns in the projection are
hints on how to carry the plan out.  Equality compares plans, and the hints are compared by
`identical`. -/

set_option autoImplicit false

namespace EquiJoin

/-- One input of a join: a table, the column that it is matched on, and the columns of it that are
projected into the output, in output order. -/
structure JoinInput (T C : Type) where
  table : T
  keyColumn : C
  joinedColumns : List C
  deriving DecidableEq

structure Descriptor (T C : Type) where
  left : JoinInput T C
  right : JoinInput T C
  joinType : JoinType
  buildSide : BuildSide
  includeKeyColumns : Bool

variable {T C : Type}

instance [Fingerprint T] [Fingerprint C] : Fingerprint (JoinInput T C) where
  fingerprint input :=
    fingerprint input.table ++ fingerprint input.keyColumn ++ fingerprint input.joinedColumns

namespace Descriptor

def ofInputs (left right : JoinInput T C) (includeKeyColumns : Bool) (buildSide : BuildSide)
    (joinType : JoinType) : Descriptor T C :=
  { left, right, joinType, buildSide, includeKeyColumns }

/-- Two descriptors are equal if they describe the same plan, whatever their hints. -/
instance [DecidableEq T] [DecidableEq C] : BEq (Descriptor T C) where
  beq first second :=
    decide (first.left = second.left) && decide (first.right = second.right) &&
      decide (first.joinType = second.joinType)

instance [Fingerprint T] [Fingerprint C] : Fingerprint (Descriptor T C) where
  fingerprint descriptor :=
    fingerprint descriptor.left ++ fingerprint descriptor.right ++ fingerprint descriptor.joinType

instance [Fingerprint T] [Fingerprint C] : Hashable (Descriptor T C) where
  hash descriptor := hash (fingerprint descriptor)

theorem beq_iff [DecidableEq T] [DecidableEq C] {first second : Descriptor T C} :
    first == second ↔ first.left = second.left ∧ first.right = second.right ∧
      first.joinType = second.joinType := by
  simp [BEq.beq, and_assoc]

instance [DecidableEq T] [DecidableEq C] : EquivBEq (Descriptor T C) where
  rfl := beq_iff.mpr ⟨rfl, rfl, rfl⟩
  symm := by
    intro first second same
    obtain ⟨left, right, joinType⟩ := beq_iff.mp same
    exact beq_iff.mpr ⟨left.symm, right.symm, joinType.symm⟩
  trans := by
    intro first second third same next
    obtain ⟨left, right, joinType⟩ := beq_iff.mp same
    obtain ⟨nextLeft, nextRight, nextJoinType⟩ := beq_iff.mp next
    exact beq_iff.mpr ⟨left.trans nextLeft, right.trans nextRight, joinType.trans nextJoinType⟩

instance [DecidableEq T] [DecidableEq C] [Fingerprint T] [Fingerprint C] :
    LawfulHashable (Descriptor T C) where
  hash_eq := by
    intro first second same
    obtain ⟨left, right, joinType⟩ := beq_iff.mp same
    simp only [hash, fingerprint, left, right, joinType]

/-- The comparison that includes the hints. -/
def identical [DecidableEq T] [DecidableEq C] (first second : Descriptor T C) : Bool :=
  first == second && first.includeKeyColumns == second.includeKeyColumns &&
    decide (first.buildSide = second.buildSide)

def input (descriptor : Descriptor T C) : BuildSide → JoinInput T C
  | .left => descriptor.left
  | .right => descriptor.right

/-- The input that the executor holds in a table indexed by key. -/
def buildInput (descriptor : Descriptor T C) : JoinInput T C :=
  descriptor.input descriptor.buildSide

def probeInput (descriptor : Descriptor T C) : JoinInput T C :=
  descriptor.input descriptor.buildSide.other

def outputColumns (descriptor : Descriptor T C) : List C :=
  descriptor.left.joinedColumns ++ descriptor.right.joinedColumns

def outputWidth (descriptor : Descriptor T C) : Nat :=
  descriptor.left.joinedColumns.length + descriptor.right.joinedColumns.length

def withBuildSide (descriptor : Descriptor T C) (side : BuildSide) : Descriptor T C :=
  { descriptor with buildSide := side }

theorem withBuildSide_beq [DecidableEq T] [DecidableEq C] (descriptor : Descriptor T C)
    (side : BuildSide) : descriptor.withBuildSide side == descriptor :=
  beq_iff.mpr ⟨rfl, rfl, rfl⟩

/-- The same join with its inputs swapped; the same relation stays on the build side.  The output
columns of the right input come first then.  There is none if the join type has none. -/
def commute (descriptor : Descriptor T C) : Option (Descriptor T C) :=
  descriptor.joinType.commute.map fun joinType =>
    ofInputs descriptor.right descriptor.left descriptor.includeKeyColumns
      descriptor.buildSide.other joinType

end Descriptor

end EquiJoin
