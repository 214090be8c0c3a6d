/-!
# Outlines

A tree of texts, lists and records that is to be shown to a reader.  Any part of it can be written
on one line; the parts of a record that stand below it are left out there. -/

set_option autoImplicit false

namespace EquiJoin

inductive Outline where
  | text (content : List Char)
  | list (items : List Outline)
  /-- A record with fields, and with further parts below it.  The mark says that the fields are to
  stand on one line with the name. -/
  | record (inLine : Bool) (name : List Char) (fields : List (List Char × Outline))
      (children : List Outline)
  | line (content : Outline)

namespace Outline

mutual

def oneLine : Outline → List Char
  | .text content => content
  | .list [] => ['[', ']']
  | .list items => ['[', ' '] ++ oneLineItems items ++ [' ', ']']
  | .record _ name fields _ =>
      name ++ [' ', '\x7b', ' '] ++ oneLineFields fields ++ [' ', '\x7d']
  | .line content => oneLine content

def oneLineItems : List Outline → List Char
  | [] => []
  | [item] => oneLine item
  | item :: others => oneLine item ++ [',', ' '] ++ oneLineItems others

def oneLineFields : List (List Char × Outline) → List Char
  | [] => []
  | [(label, value)] => label ++ [':', ' '] ++ oneLine value
  | (label, value) :: others =>
      label ++ [':', ' '] ++ oneLine value ++ [',', ' '] ++ oneLineFields others

end

mutual

def hasChildren : Outline → Bool
  | .text _ => false
  | .list items => anyHasChildren items
  | .record _ _ fields children => !children.isEmpty || anyFieldHasChildren fields
  | .line content => hasChildren content

def anyHasChildren : List Outline → Bool
  | [] => false
  | item :: others => hasChildren item || anyHasChildren others

def anyFieldHasChildren : List (List Char × Outline) → Bool
  | [] => false
  | (_, value) :: others => hasChildren value || anyFieldHasChildren others

end

end Outline

end EquiJoin
