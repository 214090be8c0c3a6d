import EquiJoin.Log.Logged
import EquiJoin.Memo.Basic
import EquiJoin.Step

/-!
# The journal

The operations of the library together with what they report.  Each of them has the result of the
operation of the same name; the journal only adds the events. -/

set_option autoImplicit false

namespace EquiJoin.Journal

variable {T C : Type}

def built [Reference T] [Reference C] (descriptor : Descriptor T C) : Event :=
  .descriptorBuilt (display descriptor.left.table) (display descriptor.right.table)
    descriptor.joinType descriptor.buildSide

def create [Reference T] [Reference C] (descriptor : Descriptor T C) : Logged (Descriptor T C) :=
  ⟨descriptor, [built descriptor]⟩

def build [Reference T] [Reference C] (draft : Draft (Descriptor.Member.Value T C)) :
    Logged (Except Descriptor.Member (Descriptor T C)) :=
  match Descriptor.build draft with
  | .ok descriptor => ⟨.ok descriptor, [built descriptor]⟩
  | .error missing => ⟨.error missing, [.descriptorRejected missing.label]⟩

def commute [Reference T] [Reference C] (descriptor : Descriptor T C) :
    Logged (Option (Descriptor T C)) :=
  ⟨descriptor.commute, descriptor.commute.toList.map built⟩

def decode [Reference T] [Reference C] (payload : List UInt8) :
    Logged (Except Json.Malformed (Descriptor T C)) :=
  match Descriptor.ofJsonBytes payload with
  | .ok descriptor => ⟨.ok descriptor, [.decodeDescriptor payload.length]⟩
  | .error report =>
      ⟨.error report, [.decodeDescriptor payload.length, .decodeFailed report.message]⟩

def step [Reference T] [Reference C] (descriptor : Descriptor T C) :
    Step → Logged (Outcome T C)
  | .commute => return .ofOption (← commute descriptor)
  | .withBuildSide side => return .descriptor (descriptor.withBuildSide side)
  | .deliver delivery => return .ofDecoded (← decode (delivery.payload descriptor))

variable [DecidableEq T] [DecidableEq C]

def add [Fingerprint T] [Fingerprint C] (memo : Memo T C) (descriptor : Descriptor T C) :
    Logged (Registration × Memo T C) :=
  let (registration, memo) := memo.add descriptor
  let event := if registration.added then Event.memoInsert else Event.memoHit
  ⟨(registration, memo), [event registration.id]⟩

def entry [Reference T] [Reference C] (id : PlanId) (descriptor : Descriptor T C) : Event :=
  .memoEntry id descriptor.joinType (display descriptor.left.table)
    (display descriptor.right.table) descriptor.buildSide

def dump [Reference T] [Reference C] (memo : Memo T C) : Logged Unit :=
  ⟨(), memo.toList.map fun (id, descriptor) => entry id descriptor⟩

end EquiJoin.Journal
