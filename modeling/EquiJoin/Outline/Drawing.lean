import EquiJoin.Outline.Layout

/-!
# Drawing outlines

An outline that has been laid out becomes text.  The parts of a list or a record stand below each
other and are joined by branches. -/

set_option autoImplicit false

namespace EquiJoin.Outline

/-- The branch to a part: the one that its own line begins with, and the one that goes on along the
lines below it. -/
structure Branch where
  first : List Char
  below : List Char

def Branch.top : Branch := ⟨['┌', '─', '─', ' '], ['│', ' ', ' ', ' ']⟩

def Branch.middle : Branch := ⟨['├', '─', '─', ' '], ['│', ' ', ' ', ' ']⟩

def Branch.last : Branch := ⟨['└', '─', '─', ' '], [' ', ' ', ' ', ' ']⟩

def Branch.before {α : Type} (others : List α) : Branch :=
  if others.isEmpty then .last else .middle

/-- What stands between a label and its value: the items of a list begin on the next line. -/
def gapBefore : Outline → List Char
  | .list _ => []
  | _ => [' ']

mutual

/-- The text of an outline whose lines, the first apart, begin with `lead`. -/
def draw (lead : List Char) : Outline → List Char
  | .text content => content
  | .line content => oneLine content
  | .list [] => ['[', ']']
  | .list (item :: others) =>
      '\n' :: lead ++ Branch.top.first ++ draw (lead ++ Branch.top.below) item ++
        (if others.isEmpty then [] else ['\n']) ++ drawItems lead others
  | .record true name fields children =>
      oneLine (.record true name fields children) ++ '\n' :: drawItems lead children
  | .record false name fields children =>
      name ++ '\n' :: drawFields lead children.isEmpty fields ++ drawItems lead children

def drawItems (lead : List Char) : List Outline → List Char
  | [] => []
  | item :: others =>
      lead ++ (Branch.before others).first ++
        draw (lead ++ (Branch.before others).below) item ++
        (if others.isEmpty then [] else ['\n']) ++ drawItems lead others

/-- Fields below each other.  The last of them ends the drawing if `final` is set. -/
def drawFields (lead : List Char) (final : Bool) : List (List Char × Outline) → List Char
  | [] => []
  | (label, value) :: others =>
      let ends := final && others.isEmpty
      let branch := if ends then Branch.last else Branch.middle
      lead ++ branch.first ++ label ++ ':' :: gapBefore value ++
        draw (lead ++ branch.below) value ++
        (if ends then [] else ['\n']) ++ drawFields lead final others

end

def render (outline : Outline) : String :=
  String.ofList (draw [] outline.arrange)

end EquiJoin.Outline
