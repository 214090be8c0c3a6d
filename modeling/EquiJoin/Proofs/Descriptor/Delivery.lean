import EquiJoin.Proofs.Descriptor.Payload
import EquiJoin.Step

/-!
# Deliveries

What is sent whole comes back as it was, and of what is cut short nothing comes back: a descriptor
ends in a bracket, so its reader can tell from the bytes alone where it ends.
-/

set_option autoImplicit false

namespace EquiJoin

open Json

variable {T C : Type}

namespace Descriptor

section Cut

variable [table : Reference T] [column : Reference C] {TableText : List UInt8 → T → Prop}
  {ColumnText : List UInt8 → C → Prop}

/-- No payload holds a descriptor if it can be continued to the text of a descriptor. -/
theorem eq_nil_of_ofJsonBytes_prefix (tableLawful : table.toWire.Lawful TableText)
    (columnLawful : column.toWire.Lawful ColumnText) {sent found : Descriptor T C}
    {front back : List UInt8} (shape : sent.toJsonBytes = front ++ back)
    (success : ofJsonBytes front = .ok found) : back = [] := by
  have form := (lawful tableLawful columnLawful).written blank_compact 0 sent
  have whole := read_of_text tableLawful columnLawful blanks_nil form []
  rw [List.nil_append, List.append_nil] at whole
  obtain ⟨before, text, behind, blank, cutForm, _, rfl⟩ :=
    (ofJsonBytes_eq_ok_iff tableLawful columnLawful).mp success
  have again := read_of_text tableLawful columnLawful blank cutForm (behind ++ back)
  have bytes : sent.toJsonBytes = Utf8.ofChars ((Wire.document sent).write Layout.compact 0) :=
    bytes_encode Layout.compact sent
  rw [← bytes, shape, List.append_assoc, List.append_assoc, again] at whole
  -- Both readings are of the same bytes, so they leave the same rest.
  have rest := (Prod.mk.inj (Except.ok.inj whole)).2
  exact (List.append_eq_nil_iff.mp rest).2

theorem ofJsonBytes_take (tableLawful : table.toWire.Lawful TableText)
    (columnLawful : column.toWire.Lawful ColumnText) (sent : Descriptor T C) {length : Nat}
    (short : length < sent.toJsonBytes.length) :
    ∃ report, (ofJsonBytes (sent.toJsonBytes.take length) :
      Except Malformed (Descriptor T C)) = .error report := by
  cases outcome : (ofJsonBytes (sent.toJsonBytes.take length) :
      Except Malformed (Descriptor T C)) with
  | error report => exact ⟨report, rfl⟩
  | ok found =>
      have shape := (List.take_append_drop length sent.toJsonBytes).symm
      have nothing := eq_nil_of_ofJsonBytes_prefix tableLawful columnLawful shape outcome
      rw [List.drop_eq_nil_iff] at nothing
      omega

end Cut

end Descriptor

def Delivery.Arrives [Reference T] [Reference C] (descriptor : Descriptor T C) :
    Delivery → Prop
  | .json | .prettyJson | .jsonBytes => True
  | .truncated length => descriptor.toJsonBytes.length ≤ length

/-- Over these references a delivery is faithful: what arrives is what was sent, and anything less
is refused. -/
structure Faithful (T C : Type) [Reference T] [Reference C] : Prop where
  arrived {descriptor : Descriptor T C} {delivery : Delivery} :
    delivery.Arrives descriptor → (Step.deliver delivery).apply descriptor = .descriptor descriptor
  cut {descriptor : Descriptor T C} {delivery : Delivery} :
    ¬ delivery.Arrives descriptor →
      ∃ report, (Step.deliver delivery).apply descriptor = .malformed report

theorem Outcome.ofOption_eq_descriptor_iff {found : Option (Descriptor T C)}
    {result : Descriptor T C} : ofOption found = .descriptor result ↔ found = some result := by
  cases found <;> simp [ofOption]

/-- A step that yields a descriptor swaps the inputs, sets the build side or changes nothing. -/
theorem Faithful.yielded_cases [Reference T] [Reference C] (faithful : Faithful T C)
    {step : Step} {descriptor result : Descriptor T C}
    (yielded : step.apply descriptor = .descriptor result) :
    descriptor.commute = some result ∨ (∃ side, result = descriptor.withBuildSide side) ∨
      result = descriptor := by
  cases step with
  | commute => exact .inl (Outcome.ofOption_eq_descriptor_iff.mp yielded)
  | withBuildSide side =>
      cases yielded
      exact .inr (.inl ⟨side, rfl⟩)
  | deliver delivery =>
      by_cases arrives : delivery.Arrives descriptor
      · rw [faithful.arrived arrives] at yielded
        cases yielded
        exact .inr (.inr rfl)
      · obtain ⟨report, refused⟩ := faithful.cut arrives
        rw [refused] at yielded
        cases yielded

theorem faithful_of_lawful [table : Reference T] [column : Reference C] [DecidableEq T]
    [DecidableEq C] {TableText : List UInt8 → T → Prop} {ColumnText : List UInt8 → C → Prop}
    (tableLawful : table.toWire.Lawful TableText)
    (columnLawful : column.toWire.Lawful ColumnText) : Faithful T C where
  arrived := by
    intro descriptor delivery arrives
    have back := Descriptor.roundTrips_of_lawful tableLawful columnLawful
    have whole : Descriptor.ofJsonBytes (delivery.payload descriptor) = .ok descriptor := by
      cases delivery with
      | json => exact back.ofJson_toJson descriptor
      | prettyJson => exact back.ofJson_toPrettyJson descriptor
      | jsonBytes => exact back.ofJsonBytes_toJsonBytes descriptor
      | truncated length =>
          rw [Delivery.payload, List.take_of_length_le arrives]
          exact back.ofJsonBytes_toJsonBytes descriptor
    rw [Step.apply, whole, Outcome.ofDecoded]
  cut := by
    intro descriptor delivery missing
    cases delivery with
    | json | prettyJson | jsonBytes => exact absurd trivial missing
    | truncated length =>
        obtain ⟨report, refused⟩ := Descriptor.ofJsonBytes_take tableLawful columnLawful
          descriptor (Nat.lt_of_not_le missing)
        rw [Step.apply, Delivery.payload, refused]
        exact ⟨report, rfl⟩

theorem faithful_names : Faithful String String :=
  faithful_of_lawful text_lawful text_lawful

theorem faithful_handles : Faithful TableHandle ColumnHandle :=
  faithful_of_lawful TableHandle.lawful ColumnHandle.lawful

end EquiJoin
