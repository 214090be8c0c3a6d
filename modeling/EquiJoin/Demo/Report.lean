import EquiJoin.Catalog.ColumnHandle
import EquiJoin.Catalog.TableHandle
import EquiJoin.Descriptor.Explain
import EquiJoin.Log.Journal
import EquiJoin.Log.Line

/-!
# The demonstration

One join, from the planner to the worker: it is put together, explained, sent, received and
registered, each step being logged.  The explanation and the payload are printed between the log
lines. -/

set_option autoImplicit false

namespace EquiJoin.Demo

def column (table name : String) (columnType : ColumnType) (ordinal : UInt32) : ColumnHandle :=
  ⟨"pixels", table, name, columnType, ordinal⟩

def orders : JoinInput TableHandle ColumnHandle where
  table := ⟨"pixels", "tpch", "orders"⟩
  keyColumn := column "orders" "cust_id" .long 1
  joinedColumns := [column "orders" "id" .long 0, column "orders" "total" .decimal 2]

def customers : JoinInput TableHandle ColumnHandle where
  table := ⟨"pixels", "tpch", "customers"⟩
  keyColumn := column "customers" "id" .long 0
  joinedColumns := [column "customers" "name" .utf8String 1]

def join : Descriptor TableHandle ColumnHandle :=
  .ofInputs orders customers false .right .inner

inductive Piece where
  | printed (text : String)
  | logged (event : Event)

def pieces {α : Type} (operation : Logged α) : List Piece :=
  operation.events.map .logged

def received (descriptor : Descriptor TableHandle ColumnHandle) : Event :=
  .received (display descriptor.buildInput.table) (display descriptor.probeInput.table)
    (", ".intercalate (descriptor.outputColumns.map display))

def registrations (receivedJoin : Descriptor TableHandle ColumnHandle) : List Piece :=
  let first := Journal.add .empty join
  let (registration, memo) := first.value
  let second := Journal.add memo (receivedJoin.withBuildSide .left)
  let (again, memo) := second.value
  let commuted := Journal.commute join
  let third : Logged (Memo TableHandle ColumnHandle) :=
    match commuted.value with
    | some descriptor => do return (← Journal.add memo descriptor).2
    | none => return memo
  pieces first ++ pieces second ++
    [.logged (.dedup registration.id again.id again.added)] ++
    pieces commuted ++ pieces third ++ pieces (Journal.dump third.value)

def script : Except DescriptorError (List Piece) :=
  let created := Journal.create join
  let payload := join.toPrettyJson
  let decoded := Journal.decode (T := TableHandle) (C := ColumnHandle) (Utf8.encode payload)
  match decoded.value with
  | .error report => .error (.malformed report)
  | .ok receivedJoin => .ok
      (pieces created ++ [.printed join.explain, .printed payload] ++ pieces decoded ++
        [.logged (received receivedJoin)] ++ registrations receivedJoin)

def Piece.lines (level : Level) : Piece → List String
  | .printed text => [text]
  | .logged event => if level.shows event then [event.line] else []

structure Transcript where
  exitCode : Nat
  output : String
  errors : String

def failure (message cause : String) : Transcript :=
  ⟨1, "", s!"Error: {message}\n\nCaused by:\n    {cause}\n"⟩

def defaultLevel : Level := .debug

def levelExpected : String :=
  "error parsing level: expected one of " ++
    ", ".intercalate (Level.all.map fun level => Text.quoted level.name.toLower) ++
    ", or a number 1-5"

def runAt (level : Level) : Transcript :=
  match script with
  | .error error => failure "worker failed to decode the join" error.message
  | .ok pieces => ⟨0, String.join ((pieces.flatMap (Piece.lines level)).map (· ++ "\n")), ""⟩

def run : Option String → Transcript
  | none => runAt defaultLevel
  | some text =>
      match Level.parse? text with
      | some level => runAt level
      | none => failure s!"invalid JOINPLAN_LOG level `{text}`" levelExpected

end EquiJoin.Demo
