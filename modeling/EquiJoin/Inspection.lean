import EquiJoin.Text.Quoted

/-!
# Inspection

The structure of a value as developers see it, and its text on one line or with one part on each
line. -/

set_option autoImplicit false

namespace EquiJoin

inductive Inspection where
  | atom (text : String)
  | list (items : List Inspection)
  | record (name : String) (parts : List (String × Inspection))
  | wrapped (name : String) (inner : Inspection)

namespace Inspection

mutual

def plain : Inspection → List Char
  | .atom text => text.toList
  | .list items => '[' :: plainItems items ++ [']']
  | .record name parts => name.toList ++ [' ', '\x7b', ' '] ++ plainParts parts ++ [' ', '\x7d']
  | .wrapped name inner => name.toList ++ '(' :: plain inner ++ [')']

def plainItems : List Inspection → List Char
  | [] => []
  | [item] => plain item
  | item :: others => plain item ++ [',', ' '] ++ plainItems others

def plainParts : List (String × Inspection) → List Char
  | [] => []
  | [(label, value)] => label.toList ++ [':', ' '] ++ plain value
  | (label, value) :: others =>
      label.toList ++ [':', ' '] ++ plain value ++ [',', ' '] ++ plainParts others

end

def newLine (depth : Nat) : List Char :=
  '\n' :: List.replicate (4 * depth) ' '

mutual

def indented (depth : Nat) : Inspection → List Char
  | .atom text => text.toList
  | .list [] => ['[', ']']
  | .list items => '[' :: indentedItems (depth + 1) items ++ newLine depth ++ [']']
  | .record name parts =>
      name.toList ++ [' ', '\x7b'] ++ indentedParts (depth + 1) parts ++ newLine depth ++ ['\x7d']
  | .wrapped name inner =>
      name.toList ++ '(' :: newLine (depth + 1) ++ indented (depth + 1) inner ++ ',' ::
        newLine depth ++ [')']

def indentedItems (depth : Nat) : List Inspection → List Char
  | [] => []
  | item :: others => newLine depth ++ indented depth item ++ ',' :: indentedItems depth others

def indentedParts (depth : Nat) : List (String × Inspection) → List Char
  | [] => []
  | (label, value) :: others =>
      newLine depth ++ label.toList ++ [':', ' '] ++ indented depth value ++ ',' ::
        indentedParts depth others

end

/-- The text of an inspection, on one line unless `spread` is set. -/
def render (spread : Bool) (inspection : Inspection) : String :=
  String.ofList (if spread then indented 0 inspection else plain inspection)

end Inspection

class Inspect (α : Type) where
  inspect : α → Inspection

export Inspect (inspect)

instance : Inspect String := ⟨fun text => .atom (Text.quoted text)⟩

instance : Inspect Bool := ⟨fun flag => .atom (if flag then "true" else "false")⟩

instance : Inspect UInt32 := ⟨fun number => .atom (toString number.toNat)⟩

instance {α : Type} [Inspect α] : Inspect (List α) := ⟨fun items => .list (items.map inspect)⟩

end EquiJoin
