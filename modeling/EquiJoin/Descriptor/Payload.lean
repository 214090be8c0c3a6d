import EquiJoin.Descriptor.Member

/-!
# Sending descriptors

A descriptor is sent as text in one of two layouts or as the bytes of the compact layout, and read
back from bytes. -/

set_option autoImplicit false

namespace EquiJoin

inductive DescriptorError where
  | incomplete (missing : Descriptor.Member)
  | malformed (report : Json.Malformed)

def DescriptorError.message : DescriptorError → String
  | .incomplete missing => s!"invalid join plan descriptor: `{missing.label}` is required"
  | .malformed report => s!"malformed join plan payload: {report.message}"

namespace Descriptor

variable {T C : Type} [Reference T] [Reference C]

def toJson (descriptor : Descriptor T C) : String :=
  Json.encode .compact descriptor

def toPrettyJson (descriptor : Descriptor T C) : String :=
  Json.encode .pretty descriptor

def toJsonBytes (descriptor : Descriptor T C) : List UInt8 :=
  Utf8.encode descriptor.toJson

def ofJsonBytes (payload : List UInt8) : Except Json.Malformed (Descriptor T C) :=
  Json.decode payload

def ofJson (payload : String) : Except Json.Malformed (Descriptor T C) :=
  ofJsonBytes (Utf8.encode payload)

end Descriptor

end EquiJoin
