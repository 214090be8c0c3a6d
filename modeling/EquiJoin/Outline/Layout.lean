import EquiJoin.Outline.Basic

/-!
# Layout of outlines

Which parts of an outline stand on one line.  A part does if nothing stands below it and the line
is not longer than a limit (`fit`).  Laying an outline out also tells how wide it gets.  That width
is the limit of a second pass, in which shorter parts are broken if the first pass stayed narrow,
or longer ones are joined if something could not be broken (`arrange`). -/

set_option autoImplicit false

namespace EquiJoin.Outline

def indentation : Nat := 4

def width (outline : Outline) : Nat := outline.oneLine.length

def fitsIn (limit before : Nat) (outline : Outline) : Bool :=
  !outline.hasChildren && outline.width + before ≤ limit

mutual

/-- An outline laid out within a limit, and its width.  It stands behind `base` columns and behind
`label` more on its first line. -/
def fit (limit base label : Nat) : Outline → Outline × Nat
  | .text content =>
      let here := Outline.text content
      let before := base + label
      (if fitsIn limit before here then .line here else here, here.width + before)
  | .line content =>
      let here := Outline.line content
      let before := base + label
      if fitsIn limit before here then (.line here, here.width + before) else (here, here.width)
  | .list [item] =>
      let here := Outline.list [item]
      let before := base + label
      if fitsIn limit before here then (.line here, here.width + before)
      else fit limit base label item
  | .list items =>
      let here := Outline.list items
      let before := base + label
      if fitsIn limit before here then (.line here, here.width + before)
      else
        let (items, widest) := fitItems limit (base + indentation) items
        (.list items, if items.isEmpty then before + 2 else widest)
  | .record inLine name fields children =>
      let here := Outline.record inLine name fields children
      let before := base + label
      if fitsIn limit before here then (.line here, here.width + before)
      else
        let inLine := inLine || (here.width + before < limit && !anyFieldHasChildren fields)
        let (laidFields, widestField) := fitFields limit (base + indentation) fields
        let (laidChildren, widestChild) := fitItems limit (base + indentation) children
        (.record inLine name laidFields laidChildren,
          max widestChild (max (if inLine then here.width + before else widestField)
            (name.length + before)))

def fitItems (limit base : Nat) : List Outline → List Outline × Nat
  | [] => ([], 0)
  | item :: others =>
      let (laid, width) := fit limit base 0 item
      let (laidOthers, widest) := fitItems limit base others
      (laid :: laidOthers, max width widest)

def fitFields (limit base : Nat) :
    List (List Char × Outline) → List (List Char × Outline) × Nat
  | [] => ([], 0)
  | (label, value) :: others =>
      let (laid, width) := fit limit base (label.length + 2) value
      let (laidOthers, widest) := fitFields limit base others
      ((label, laid) :: laidOthers, max width widest)

end

def pageWidth : Nat := 120

/-- An outline laid out in two passes, the second within the width of the first. -/
def arrange (outline : Outline) : Outline :=
  let (laid, width) := fit pageWidth 0 0 outline
  (fit width 0 0 laid).1

end EquiJoin.Outline
