import EquiJoin.BuildSide
import EquiJoin.JoinType
import EquiJoin.Log.Level
import EquiJoin.Memo.PlanId

/-!
# Events

What the operations report while they work.  An event has a level of detail and named fields, the
first of which is its name. -/

set_option autoImplicit false

namespace EquiJoin

inductive FieldValue where
  | quoted (text : String)
  | plain (text : String)
  | count (number : Nat)
  | flag (value : Bool)

inductive Event where
  | descriptorBuilt (left right : String) (joinType : JoinType) (buildSide : BuildSide)
  | descriptorRejected (missing : String)
  | decodeDescriptor (bytes : Nat)
  | decodeFailed (error : String)
  | memoHit (id : PlanId)
  | memoInsert (id : PlanId)
  | memoEntry (id : PlanId) (joinType : JoinType) (left right : String) (buildSide : BuildSide)
  | received (build probe output : String)
  | dedup (id again : PlanId) (added : Bool)

namespace Event

def level : Event → Level
  | .descriptorBuilt .. | .decodeDescriptor _ | .memoHit _ | .memoInsert _ => .trace
  | .descriptorRejected _ | .decodeFailed _ | .memoEntry .. => .debug
  | .received .. | .dedup .. => .info

def name : Event → String
  | .descriptorBuilt .. => "descriptor_built"
  | .descriptorRejected _ => "descriptor_rejected"
  | .decodeDescriptor _ => "decode_descriptor"
  | .decodeFailed _ => "decode_failed"
  | .memoHit _ => "memo_hit"
  | .memoInsert _ => "memo_insert"
  | .memoEntry .. => "memo_entry"
  | .received .. => "received"
  | .dedup .. => "dedup"

def details : Event → List (String × FieldValue)
  | .descriptorBuilt left right joinType buildSide =>
      [("left", .plain left), ("right", .plain right), ("join_type", .plain (display joinType)),
        ("build_side", .plain (display buildSide))]
  | .descriptorRejected missing => [("missing", .quoted missing)]
  | .decodeDescriptor bytes => [("bytes", .count bytes)]
  | .decodeFailed error => [("error", .plain error)]
  | .memoHit id | .memoInsert id => [("plan_id", .plain (display id))]
  | .memoEntry id joinType left right buildSide =>
      [("plan_id", .plain (display id)), ("join_type", .plain (display joinType)),
        ("left", .plain left), ("right", .plain right),
        ("build_side", .plain (display buildSide))]
  | .received build probe output =>
      [("build", .plain build), ("probe", .plain probe), ("output", .plain output)]
  | .dedup id again added =>
      [("plan_id", .plain (display id)), ("again", .plain (display again)),
        ("added", .flag added)]

def fields (event : Event) : List (String × FieldValue) :=
  ("event", .quoted event.name) :: event.details

end Event

end EquiJoin
