import EquiJoin.Descriptor.Payload
import EquiJoin.Proofs.Descriptor.Places
import EquiJoin.Proofs.Json.Ordinal

/-!
# Ordinals of columns

A number in the place of a column's ordinal is never rounded or cut: it is accepted if it is the
decimal text of a number of thirty-two bits, for which the column then has exactly that ordinal, and
refused otherwise.  That holds for a column by itself and for all columns of a descriptor
(`ordinals_exact`).
-/

set_option autoImplicit false

namespace EquiJoin

open Json
open Utf8 (ofChars)

def ColumnHandle.changeOrdinal (change : UInt32 → UInt32) (column : ColumnHandle) : ColumnHandle :=
  { column with logicalOrdinal := change column.logicalOrdinal }

theorem ColumnHandle.embeds_ordinal {front : List UInt8}
    (leads : format.LeadsTo MemberText front .logicalOrdinal) :
    format.toWire.reader.Embeds front Reader.ordinal changeOrdinal :=
  RecordFormat.embeds_record (fun member => (member_lawful member).toExact) leads

namespace Descriptor

/-- The ordinals of columns are taken as they are written. -/
structure OrdinalsExact : Prop where
  column {blanks front : List UInt8} : Blanks blanks →
    ColumnHandle.format.LeadsTo ColumnHandle.MemberText front .logicalOrdinal →
      TakesOrdinals (blanks ++ front) ColumnHandle.changeOrdinal
        (decode : List UInt8 → Except Malformed ColumnHandle)
  descriptor {blanks ahead front : List UInt8}
      {carry : (ColumnHandle → ColumnHandle) →
        Descriptor TableHandle ColumnHandle → Descriptor TableHandle ColumnHandle} :
    Blanks blanks → ColumnPlace TableHandle.Text ColumnHandle.Text ahead carry →
      ColumnHandle.format.LeadsTo ColumnHandle.MemberText front .logicalOrdinal →
        TakesOrdinals (blanks ++ (ahead ++ front)) (fun change => carry (.changeOrdinal change))
          (ofJsonBytes : List UInt8 → Except Malformed (Descriptor TableHandle ColumnHandle))
  /-- The text that an ordinal is written with is the only one that it is read from. -/
  written {text : List UInt8} (value : UInt32) (layout : Layout) (depth : Nat) :
    Whole text ∧ decimal text = value.toNat ↔
      text = ofChars ((Wire.document value).write layout depth)

theorem ordinals_exact : OrdinalsExact where
  column blank leads := takesOrdinals_of_embeds blank (ColumnHandle.embeds_ordinal leads)
  descriptor blank place leads := takesOrdinals_of_embeds blank
    ((place.embeds TableHandle.lawful ColumnHandle.lawful).trans
      (ColumnHandle.embeds_ordinal leads))
  written _ layout depth := ordinalText_iff_written layout depth

/-- A column in a list, of which the ordinal may be anything up to the greatest one. -/
theorem ordinals_exact_greatest :
    let name := ofChars (literal "")
    let type := ofChars (literal "BOOL")
    let front := 0x5B :: (name ++ (0x2C :: (name ++ (0x2C :: (name ++ (0x2C :: (type ++ [0x2C])))))))
    let greatest : List UInt8 := [0x34, 0x32, 0x39, 0x34, 0x39, 0x36, 0x37, 0x32, 0x39, 0x35]
    let beyond : List UInt8 := [0x34, 0x32, 0x39, 0x34, 0x39, 0x36, 0x37, 0x32, 0x39, 0x36]
    (∃ found : ColumnHandle, decode (front ++ (greatest ++ [0x5D])) = .ok found) ∧
      ¬ ∃ found : ColumnHandle, decode (front ++ (beyond ++ [0x5D])) = .ok found := by
  intro name type front greatest beyond
  have empty : TextLiteral name "" := textLiteral_literal ""
  have bool : ColumnType.Text type .bool := .plain (by decide) (textLiteral_literal "BOOL")
  have zero : OrdinalText [0x30] 0 := ⟨.zero, rfl⟩
  have placed : ColumnHandle.format.LeadsTo ColumnHandle.MemberText front .logicalOrdinal := by
    have part (member : ColumnHandle.Member) {text : List UInt8} {value : ColumnHandle.Value member}
        (form : ColumnHandle.MemberText member text value) :
        RecordFormat.PlacedText ColumnHandle.MemberText text ⟨member, value⟩ := form
    exact .list (.entry (.first blanks_nil) (part .connectorId empty)
      (.entry (.next blanks_nil blanks_nil) (part .tableName empty)
        (.entry (.next blanks_nil blanks_nil) (part .columnName empty)
          (.entry (.next blanks_nil blanks_nil) (part .columnType bool)
            (.last (.next blanks_nil blanks_nil)))))) (List.prefix_refl _)
  have accepted : decode (front ++ ([0x30] ++ [0x5D])) =
      .ok (⟨"", "", "", .bool, 0⟩ : ColumnHandle) := by
    have entries : Entries 0x5D (fun text (field : Json.Field ColumnHandle) =>
        field.Form text ⟨"", "", "", .bool, 0⟩) true _
        (ColumnHandle.format.fields ColumnHandle.MemberText) :=
      .entry (.first blanks_nil) empty (.entry (.next blanks_nil blanks_nil) empty
        (.entry (.next blanks_nil blanks_nil) empty (.entry (.next blanks_nil blanks_nil) bool
          (.entry (.next blanks_nil blanks_nil) zero (.close blanks_nil)))))
    exact (decode_eq_ok_iff ColumnHandle.lawful).mpr
      ⟨[], _, [], blanks_nil, .list entries, blanks_nil, rfl⟩
  have takes {text : List UInt8} (whole : Whole text) :=
    (ordinals_exact.column blanks_nil placed).succeeds_iff zero (ends_cons (by decide) [])
      accepted whole.number
  have wholeGreatest : Whole greatest :=
    .other (by decide) (by decide) (by simp [Digits, isDigit])
  have wholeBeyond : Whole beyond := .other (by decide) (by decide) (by simp [Digits, isDigit])
  constructor
  · exact (takes wholeGreatest).mpr ⟨wholeGreatest, by decide⟩
  · exact fun found => absurd ((takes wholeBeyond).mp found).2 (by decide)

end Descriptor

end EquiJoin
