import EquiJoin.Json.Literal

/-!
# Documents

The values that are written to a payload, and the one printer for them.  Two layouts tell it what
to put between the tokens: nothing at all, or every entry on a line of its own. -/

set_option autoImplicit false

namespace EquiJoin.Json

inductive Document where
  | text (value : String)
  | number (value : Nat)
  | flag (value : Bool)
  | list (items : List Document)
  | object (members : List (String × Document))

/-- What is written between tokens. -/
structure Layout where
  /-- In front of an entry, or of the bracket behind the last entry, at a depth. -/
  line : Nat → List Char
  gap : List Char

def Layout.compact : Layout := ⟨fun _ => [], []⟩

def Layout.pretty : Layout := ⟨fun depth => '\n' :: List.replicate (2 * depth) ' ', [' ']⟩

/-- Entries between brackets.  An empty pair of brackets is written without any layout. -/
def Layout.enclose (layout : Layout) (depth : Nat) (opening closing : Char) :
    List (List Char) → List Char
  | [] => [opening, closing]
  | first :: others =>
      opening :: layout.line (depth + 1) ++ first ++
        others.flatMap (fun entry => ',' :: layout.line (depth + 1) ++ entry) ++
        layout.line depth ++ [closing]

mutual

def Document.write (layout : Layout) (depth : Nat) : Document → List Char
  | .text value => literal value
  | .number value => Nat.toDigits 10 value
  | .flag true => ['t', 'r', 'u', 'e']
  | .flag false => ['f', 'a', 'l', 's', 'e']
  | .list items => layout.enclose depth '[' ']' (writeItems layout (depth + 1) items)
  | .object members =>
      layout.enclose depth '\x7b' '\x7d' (writeMembers layout (depth + 1) members)

def Document.writeItems (layout : Layout) (depth : Nat) : List Document → List (List Char)
  | [] => []
  | item :: others => write layout depth item :: writeItems layout depth others

def Document.writeMembers (layout : Layout) (depth : Nat) :
    List (String × Document) → List (List Char)
  | [] => []
  | (label, value) :: others =>
      (literal label ++ ':' :: layout.gap ++ write layout depth value) ::
        writeMembers layout depth others

end

end EquiJoin.Json
