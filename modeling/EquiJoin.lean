import EquiJoin.Descriptor.Inspect
import EquiJoin.Memo.Session
import EquiJoin.Main
import EquiJoin.Proofs.Json.Literal
import EquiJoin.Proofs.Json.Token
import EquiJoin.Proofs.Json.Numeral
import EquiJoin.Proofs.Json.Skip
import EquiJoin.Proofs.Json.Value
import EquiJoin.Proofs.Draft
import EquiJoin.Proofs.Json.Record
import EquiJoin.Proofs.Json.Document
import EquiJoin.Proofs.Json.Layout
import EquiJoin.Proofs.Json.Truncation
import EquiJoin.Proofs.Json.RecordTruncation
import EquiJoin.Proofs.Json.Place
import EquiJoin.Proofs.Descriptor.Form
import EquiJoin.Proofs.Descriptor.Payload
import EquiJoin.Proofs.Memo.Basic
import EquiJoin.Proofs.Memo.Session
import EquiJoin.Proofs.Descriptor.Fingerprint
import EquiJoin.Proofs.Descriptor.Commute
import EquiJoin.Proofs.Descriptor.Exchange
import EquiJoin.Proofs.Descriptor.Rows
import EquiJoin.Proofs.Descriptor.Delivery
import EquiJoin.Proofs.Descriptor.Layout
import EquiJoin.Proofs.Descriptor.Delimitation
import EquiJoin.Proofs.Descriptor.Truncation
import EquiJoin.Proofs.Descriptor.Diagnosis
import EquiJoin.Proofs.Step
import EquiJoin.Proofs.Memo.Operation
import EquiJoin.Proofs.Memo.History
import EquiJoin.Proofs.Memo.Derivation
import EquiJoin.Proofs.Memo.Correspondence
import EquiJoin.Proofs.Memo.Planners
import EquiJoin.Proofs.Memo.Hints
import EquiJoin.Proofs.Memo.Chronicle
import EquiJoin.Proofs.Json.Passage
import EquiJoin.Proofs.Json.Ordinal
import EquiJoin.Proofs.Json.Spelling
import EquiJoin.Proofs.Json.Respelling
import EquiJoin.Proofs.Json.RecordFaults
import EquiJoin.Proofs.Descriptor.Faults
import EquiJoin.Proofs.Descriptor.Assembly
import EquiJoin.Proofs.Descriptor.Places
import EquiJoin.Proofs.Descriptor.Ordinal
import EquiJoin.Proofs.Descriptor.Spelling
import EquiJoin.Proofs.Outline
import EquiJoin.Proofs.Descriptor.Explain
import EquiJoin.Proofs.Text.Quoted
import EquiJoin.Proofs.Inspection
import EquiJoin.Proofs.Descriptor.Inspection
