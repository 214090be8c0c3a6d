import EquiJoin.Descriptor.Payload
import EquiJoin.Proofs.Descriptor.Form

/-!
# Payloads

A payload is accepted as a descriptor exactly if it has the form of one, and whatever is sent comes
back as it was, hints included.  Both hold over any references that travel lawfully; the names and
the handles of the catalog do.
-/

set_option autoImplicit false

namespace EquiJoin.Descriptor

open Json

variable {T C : Type}

theorem identical_iff [DecidableEq T] [DecidableEq C] {first second : Descriptor T C} :
    first.identical second = true ↔ first = second := by
  constructor
  · intro same
    simp only [identical, Bool.and_eq_true, beq_iff, beq_iff_eq, decide_eq_true_eq] at same
    obtain ⟨⟨⟨left, right, joinType⟩, includeKeyColumns⟩, buildSide⟩ := same
    cases first
    cases second
    simp_all
  · rintro rfl
    simp [identical]

section Accepted

variable [table : Reference T] [column : Reference C] {TableText : List UInt8 → T → Prop}
  {ColumnText : List UInt8 → C → Prop}

theorem ofJsonBytes_eq_ok_iff (tableLawful : table.toWire.Lawful TableText)
    (columnLawful : column.toWire.Lawful ColumnText) {payload : List UInt8}
    {descriptor : Descriptor T C} : ofJsonBytes payload = .ok descriptor ↔
      Holds (Text TableText ColumnText) payload descriptor :=
  decode_eq_ok_iff (lawful tableLawful columnLawful)

end Accepted

/-- Over bare names as over handles, a payload is accepted as a descriptor exactly if it holds a
text of the form of that descriptor. -/
theorem accepted_iff :
    (∀ payload (descriptor : Descriptor String String), ofJsonBytes payload = .ok descriptor ↔
      Holds (Text TextLiteral TextLiteral) payload descriptor) ∧
    (∀ payload (descriptor : Descriptor TableHandle ColumnHandle),
      ofJsonBytes payload = .ok descriptor ↔
        Holds (Text TableHandle.Text ColumnHandle.Text) payload descriptor) := by
  constructor
  · intro payload descriptor
    exact ofJsonBytes_eq_ok_iff text_lawful text_lawful
  · intro payload descriptor
    exact ofJsonBytes_eq_ok_iff TableHandle.lawful ColumnHandle.lawful

/-- Descriptors over these references come back from every way of sending them, and what is sent
tells them apart, hints included. -/
structure RoundTrips (T C : Type) [Reference T] [Reference C] [DecidableEq T] [DecidableEq C] :
    Prop where
  ofJson_toJson (descriptor : Descriptor T C) : ofJson descriptor.toJson = .ok descriptor
  ofJson_toPrettyJson (descriptor : Descriptor T C) :
    ofJson descriptor.toPrettyJson = .ok descriptor
  ofJsonBytes_toJsonBytes (descriptor : Descriptor T C) :
    ofJsonBytes descriptor.toJsonBytes = .ok descriptor
  toJson_eq_iff (first second : Descriptor T C) :
    first.toJson = second.toJson ↔ first.identical second = true

theorem roundTrips_of_lawful [table : Reference T] [column : Reference C] [DecidableEq T]
    [DecidableEq C] {TableText : List UInt8 → T → Prop} {ColumnText : List UInt8 → C → Prop}
    (tableLawful : table.toWire.Lawful TableText)
    (columnLawful : column.toWire.Lawful ColumnText) : RoundTrips T C := by
  have back : ∀ {layout : Layout} (_ : layout.Blank) (descriptor : Descriptor T C),
      ofJson (encode layout descriptor) = .ok descriptor :=
    fun blank descriptor => decode_encode (lawful tableLawful columnLawful) blank descriptor
  refine ⟨back blank_compact, back blank_pretty, back blank_compact, ?_⟩
  intro first second
  rw [identical_iff]
  constructor
  · intro same
    have found := back blank_compact first
    rw [← toJson, same, toJson, back blank_compact second] at found
    cases found
    rfl
  · intro same
    rw [same]

/-- Whatever is sent comes back as it was. -/
theorem roundTrips : RoundTrips String String ∧ RoundTrips TableHandle ColumnHandle := by
  constructor
  · exact roundTrips_of_lawful text_lawful text_lawful
  · exact roundTrips_of_lawful TableHandle.lawful ColumnHandle.lawful

end EquiJoin.Descriptor
