import EquiJoin.Catalog.ColumnHandle
import EquiJoin.Catalog.TableHandle
import EquiJoin.Log.Journal
import EquiJoin.Proofs.Json.Place

/-!
# How a refused payload is reported

Every payload that holds no descriptor is refused at a place that lies in it, and the journal says
so once, in the words of the error.  That there is always such a place rests on every reader
reporting its faults among the bytes that it was given (`Reader.Locates`).
-/

set_option autoImplicit false

namespace EquiJoin

open Json

theorem TableHandle.locates : (inferInstance : Wire TableHandle).reader.Locates :=
  RecordFormat.locates_record fun _ => locates_text

theorem ColumnHandle.locates : (inferInstance : Wire ColumnHandle).reader.Locates := by
  refine RecordFormat.locates_record fun member => ?_
  cases member with
  | connectorId | tableName | columnName => exact locates_text
  | columnType => exact locates_named ColumnType
  | logicalOrdinal => exact locates_ordinal

namespace Descriptor

variable {T C : Type} [table : Reference T] [column : Reference C]

theorem locates (tableLocates : table.toWire.reader.Locates)
    (columnLocates : column.toWire.reader.Locates) :
    (format T C).toWire.reader.Locates := by
  refine RecordFormat.locates_record fun member => ?_
  cases member with
  | leftTable | rightTable => exact tableLocates
  | leftKeyColumn | rightKeyColumn => exact columnLocates
  | leftJoinedColumns | rightJoinedColumns => exact locates_list columnLocates
  | includeKeyColumns => exact locates_flag
  | buildSide => exact locates_named BuildSide
  | joinType => exact locates_named JoinType

/-- Every payload with descriptors over these references is answered in the journal: one that is
accepted by a single event, and one that is refused by that event and the message of the error,
which ends in the place of the fault. -/
structure Diagnosed (T C : Type) [Reference T] [Reference C] : Prop where
  value_eq (payload : List UInt8) :
    (Journal.decode payload : Logged (Except Malformed (Descriptor T C))).value =
      ofJsonBytes payload
  accepted {payload : List UInt8} {descriptor : Descriptor T C} :
    ofJsonBytes payload = .ok descriptor →
      (Journal.decode payload : Logged (Except Malformed (Descriptor T C))).events =
        [.decodeDescriptor payload.length]
  refused {payload : List UInt8} {report : Malformed} :
    (ofJsonBytes payload : Except Malformed (Descriptor T C)) = .error report →
      ∃ fault offset text,
        readWhole (format T C).toWire.reader payload = .error fault ∧
        report.cause = fault.cause ∧
        offset + fault.unread = payload.length ∧
        report.place.LiesAt payload offset ∧
        text = fault.cause.message ++ " at line " ++ toString report.place.line ++ " column " ++
          toString report.place.column ∧
        (DescriptorError.malformed report).message = "malformed join plan payload: " ++ text ∧
        (Journal.decode payload : Logged (Except Malformed (Descriptor T C))).events =
          [.decodeDescriptor payload.length, .decodeFailed text]

theorem diagnosed_of_locates (tableLocates : table.toWire.reader.Locates)
    (columnLocates : column.toWire.reader.Locates) : Diagnosed T C where
  value_eq payload := by
    rw [Journal.decode]
    split
    · next run => exact run.symm
    · next run => exact run.symm
  accepted run := by
    rw [Journal.decode, run]
  refused {payload report} run := by
    have events : (Journal.decode payload : Logged (Except Malformed (Descriptor T C))).events =
        [.decodeDescriptor payload.length, .decodeFailed report.message] := by
      rw [Journal.decode, run]
    have located := located_readWhole (locates tableLocates columnLocates) payload
    rw [ofJsonBytes, decode] at run
    split at run
    · cases run
    · next fault failed =>
        cases run
        change readWhole (format T C).toWire.reader payload = .error fault at failed
        rw [failed] at located
        obtain ⟨offset, offset_eq, place⟩ := located.exists_offset
        exact ⟨fault, offset, _, failed, rfl, offset_eq, place, rfl, rfl, events⟩

/-- Over bare names as over handles, a payload is either accepted or refused at a place in it, and
the journal says which. -/
theorem diagnosed : Diagnosed String String ∧ Diagnosed TableHandle ColumnHandle := by
  constructor
  · exact diagnosed_of_locates locates_text locates_text
  · exact diagnosed_of_locates TableHandle.locates ColumnHandle.locates

/-- A list that begins with a truth value is refused where that ends, on its second line. -/
theorem diagnosed_misplaced_flag :
    let payload : List UInt8 := [0x0A, 0x5B, 0x74, 0x72, 0x75, 0x65]
    let report : Malformed := ⟨.wrongKind (.flag true) .text, ⟨2, 5⟩⟩
    let text := "invalid type: boolean `true`, expected a string at line 2 column 5"
    (Journal.decode payload : Logged (Except Malformed (Descriptor String String))).events =
        [.decodeDescriptor 6, .decodeFailed text] ∧
      (DescriptorError.malformed report).message = "malformed join plan payload: " ++ text ∧
      ∃ offset, report.place.LiesAt payload offset := by
  intro payload report text
  have run : (ofJsonBytes payload : Except Malformed (Descriptor String String)) =
      .error report := by
    rfl
  obtain ⟨fault, offset, reported, -, cause, -, lies, shape, message, events⟩ :=
    diagnosed.1.refused run
  rw [← cause] at shape
  have same : reported = text := shape.trans (by decide)
  rw [same] at events message
  exact ⟨events, message, offset, lies⟩

end Descriptor

end EquiJoin
