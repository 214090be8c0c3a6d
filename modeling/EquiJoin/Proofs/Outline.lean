import EquiJoin.Outline.Drawing

/-!
# What a drawing shows

Laying an outline out decides which of its parts stand on one line, and drawing it puts branches in
front of the others.  Neither drops a text, splits one or moves it before another: the drawing of
an outline shows every name, label and text of it in reading order (`shows_render`).

Only a part with something below it could be lost, since one line leaves that out.  No such part is
ever marked for one line (`Whole`), and laying out keeps it so (`Kept`).
-/

set_option autoImplicit false

namespace EquiJoin

/-- The pieces stand in the text, each as a whole and behind the one before it. -/
inductive Shows : List (List Char) → List Char → Prop where
  | nil {text : List Char} : Shows [] text
  | cons {piece : List Char} {pieces : List (List Char)} {front rest : List Char} :
      Shows pieces rest → Shows (piece :: pieces) (front ++ (piece ++ rest))

namespace Shows

variable {pieces others : List (List Char)} {text more : List Char}

theorem behind (shown : Shows pieces text) (front : List Char) : Shows pieces (front ++ text) := by
  cases shown with
  | nil => exact .nil
  | cons rest =>
      rw [← List.append_assoc]
      exact .cons rest

theorem append (first : Shows pieces text) (second : Shows others more) :
    Shows (pieces ++ others) (text ++ more) := by
  induction first with
  | nil => exact second.behind _
  | cons _ ih =>
      rw [List.append_assoc, List.append_assoc]
      exact .cons ih

theorem before (shown : Shows pieces text) (rest : List Char) : Shows pieces (text ++ rest) := by
  have nothing : Shows [] rest := .nil
  simpa using shown.append nothing

theorem single (piece : List Char) : Shows [piece] piece := by
  have nothing : Shows [] [] := .nil
  have shown : Shows [piece] ([] ++ (piece ++ [])) := .cons nothing
  simpa using shown

theorem sublist (shown : Shows pieces text) (fewer : others.Sublist pieces) :
    Shows others text := by
  induction shown generalizing others with
  | nil =>
      rw [List.sublist_nil.mp fewer]
      exact .nil
  | cons _ ih =>
      cases fewer with
      | cons _ fewer => exact ((ih fewer).behind _).behind _
      | cons_cons _ fewer => exact .cons (ih fewer)

end Shows

namespace Outline

mutual

def texts : Outline → List (List Char)
  | .text content => [content]
  | .list items => itemTexts items
  | .record _ name fields children => name :: (fieldTexts fields ++ itemTexts children)
  | .line content => texts content

def itemTexts : List Outline → List (List Char)
  | [] => []
  | item :: others => texts item ++ itemTexts others

def fieldTexts : List (List Char × Outline) → List (List Char)
  | [] => []
  | (label, value) :: others => label :: (texts value ++ fieldTexts others)

end

theorem values_sublist (fields : List (List Char × Outline)) :
    (fields.flatMap fun field => field.2.texts).Sublist (fieldTexts fields) := by
  induction fields with
  | nil => simp
  | cons field others ih =>
      rw [List.flatMap_cons, fieldTexts]
      exact .cons _ ((List.Sublist.refl _).append ih)

mutual

theorem shows_oneLine : (outline : Outline) → outline.hasChildren = false →
    Shows outline.texts outline.oneLine
  | .text content, _ => by
      simp only [texts, oneLine]
      exact .single content
  | .line content, bare => by
      simp only [hasChildren] at bare
      simp only [texts, oneLine]
      exact shows_oneLine content bare
  | .list [], _ => by
      simp only [texts, itemTexts]
      exact .nil
  | .list (item :: others), bare => by
      simp only [hasChildren] at bare
      simp only [texts, oneLine]
      exact ((shows_oneLineItems (item :: others) bare).behind _).before _
  | .record inLine name fields [], bare => by
      simp only [hasChildren, List.isEmpty_nil, Bool.not_true, Bool.false_or] at bare
      have heading := shows_heading name fields bare inLine []
      simpa only [texts, itemTexts, List.append_nil] using heading
  | .record _ _ _ (_ :: _), bare => by
      simp [hasChildren] at bare

theorem shows_heading (name : List Char) (fields : List (List Char × Outline))
    (bare : anyFieldHasChildren fields = false) (inLine : Bool) (children : List Outline) :
    Shows (name :: fieldTexts fields) (oneLine (.record inLine name fields children)) := by
  simp only [oneLine]
  have named := (Shows.single name).before [' ', '\x7b', ' ']
  exact (named.append (shows_oneLineFields fields bare)).before _

theorem shows_oneLineItems : (items : List Outline) → anyHasChildren items = false →
    Shows (itemTexts items) (oneLineItems items)
  | [], _ => .nil
  | [item], bare => by
      simp only [anyHasChildren, Bool.or_false] at bare
      simpa only [itemTexts, oneLineItems, List.append_nil] using shows_oneLine item bare
  | item :: second :: others, bare => by
      rw [anyHasChildren, Bool.or_eq_false_iff] at bare
      have first := (shows_oneLine item bare.1).before [',', ' ']
      exact first.append (shows_oneLineItems (second :: others) bare.2)

theorem shows_oneLineFields : (fields : List (List Char × Outline)) →
    anyFieldHasChildren fields = false → Shows (fieldTexts fields) (oneLineFields fields)
  | [], _ => .nil
  | [(label, value)], bare => by
      simp only [anyFieldHasChildren, Bool.or_false] at bare
      have labelled := (Shows.single label).before [':', ' ']
      simpa only [fieldTexts, oneLineFields, List.append_nil, List.singleton_append]
        using labelled.append (shows_oneLine value bare)
  | (label, value) :: second :: others, bare => by
      rw [anyFieldHasChildren, Bool.or_eq_false_iff] at bare
      have labelled := (Shows.single label).before [':', ' ']
      have first := (labelled.append (shows_oneLine value bare.1)).before [',', ' ']
      exact first.append (shows_oneLineFields (second :: others) bare.2)

end

/-! ## Drawings -/

mutual

/-- No part that is to stand on one line has anything below it. -/
def Whole : Outline → Prop
  | .text _ => True
  | .list items => AllWhole items
  | .record inLine _ fields children =>
      (inLine = true → anyFieldHasChildren fields = false) ∧ AllFieldsWhole fields ∧
        AllWhole children
  | .line content => content.hasChildren = false

def AllWhole : List Outline → Prop
  | [] => True
  | item :: others => Whole item ∧ AllWhole others

def AllFieldsWhole : List (List Char × Outline) → Prop
  | [] => True
  | (_, value) :: others => Whole value ∧ AllFieldsWhole others

end

mutual

theorem shows_draw : (outline : Outline) → outline.Whole → (lead : List Char) →
    Shows outline.texts (draw lead outline)
  | .text content, _, _ => by
      simp only [texts, draw]
      exact .single content
  | .line content, whole, _ => by
      simp only [Whole] at whole
      simp only [texts, draw]
      exact shows_oneLine content whole
  | .list [], _, _ => by
      simp only [texts, itemTexts]
      exact .nil
  | .list (item :: others), whole, lead => by
      simp only [Whole, AllWhole] at whole
      simp only [texts, itemTexts, draw]
      have first := (shows_draw item whole.1 (lead ++ Branch.top.below)).behind
        ('\n' :: lead ++ Branch.top.first)
      exact (first.before _).append (shows_drawItems others whole.2 lead)
  | .record true name fields children, whole, lead => by
      -- The line holds the name and the fields only; the children are drawn below it.
      obtain ⟨bare, _, below⟩ := whole
      simp only [texts, draw]
      have heading := shows_heading name fields (bare rfl) true children
      exact heading.append ((shows_drawItems children below lead).behind ['\n'])
  | .record false name fields children, whole, lead => by
      obtain ⟨_, fieldsWhole, below⟩ := whole
      simp only [texts, draw]
      have named := (Shows.single name).append
        ((shows_drawFields fields fieldsWhole lead children.isEmpty).behind ['\n'])
      simpa using named.append (shows_drawItems children below lead)

theorem shows_drawItems : (items : List Outline) → AllWhole items → (lead : List Char) →
    Shows (itemTexts items) (drawItems lead items)
  | [], _, _ => .nil
  | item :: others, whole, lead => by
      simp only [AllWhole] at whole
      simp only [itemTexts, drawItems]
      have first := (shows_draw item whole.1 (lead ++ (Branch.before others).below)).behind
        (lead ++ (Branch.before others).first)
      exact (first.before _).append (shows_drawItems others whole.2 lead)

theorem shows_drawFields : (fields : List (List Char × Outline)) → AllFieldsWhole fields →
    (lead : List Char) → (final : Bool) → Shows (fieldTexts fields) (drawFields lead final fields)
  | [], _, _, _ => .nil
  | (label, value) :: others, whole, lead, final => by
      simp only [AllFieldsWhole] at whole
      simp only [fieldTexts, drawFields]
      generalize (if final && others.isEmpty then Branch.last else Branch.middle) = branch
      have labelled := ((Shows.single label).behind (lead ++ branch.first)).before
        (':' :: gapBefore value)
      have first := labelled.append (shows_draw value whole.1 (lead ++ branch.below))
      exact (first.before _).append (shows_drawFields others whole.2 lead final)

end

/-! ## Laying out -/

/-- One outline shows what another one does, and is as fit for drawing. -/
structure Kept (before after : Outline) : Prop where
  texts : after.texts = before.texts
  hasChildren : after.hasChildren = before.hasChildren
  whole : before.Whole → after.Whole

structure ItemsKept (before after : List Outline) : Prop where
  texts : itemTexts after = itemTexts before
  hasChildren : anyHasChildren after = anyHasChildren before
  isEmpty : after.isEmpty = before.isEmpty
  whole : AllWhole before → AllWhole after

structure FieldsKept (before after : List (List Char × Outline)) : Prop where
  texts : fieldTexts after = fieldTexts before
  hasChildren : anyFieldHasChildren after = anyFieldHasChildren before
  whole : AllFieldsWhole before → AllFieldsWhole after

theorem ItemsKept.cons {item laid : Outline} {others laidOthers : List Outline}
    (rest : ItemsKept others laidOthers) (first : Kept item laid) :
    ItemsKept (item :: others) (laid :: laidOthers) where
  texts := by simp only [itemTexts, first.texts, rest.texts]
  hasChildren := by simp only [anyHasChildren, first.hasChildren, rest.hasChildren]
  isEmpty := rfl
  whole := by
    simp only [AllWhole]
    exact And.imp first.whole rest.whole

theorem FieldsKept.cons {value laid : Outline} {others laidOthers : List (List Char × Outline)}
    (rest : FieldsKept others laidOthers) (label : List Char) (first : Kept value laid) :
    FieldsKept ((label, value) :: others) ((label, laid) :: laidOthers) where
  texts := by simp only [fieldTexts, first.texts, rest.texts]
  hasChildren := by simp only [anyFieldHasChildren, first.hasChildren, rest.hasChildren]
  whole := by
    simp only [AllFieldsWhole]
    exact And.imp first.whole rest.whole

theorem Kept.refl (outline : Outline) : Kept outline outline := ⟨rfl, rfl, id⟩

theorem Kept.trans {before between after : Outline} (first : Kept before between)
    (second : Kept between after) : Kept before after where
  texts := second.texts.trans first.texts
  hasChildren := second.hasChildren.trans first.hasChildren
  whole := second.whole ∘ first.whole

theorem kept_line {limit before : Nat} {outline : Outline}
    (fits : fitsIn limit before outline = true) : Kept outline (.line outline) where
  texts := by simp only [Outline.texts]
  hasChildren := by simp only [Outline.hasChildren]
  whole _ := by
    simp only [fitsIn, Bool.and_eq_true, Bool.not_eq_true'] at fits
    simpa only [Whole] using fits.1

theorem Kept.of_item {item laid : Outline} (kept : Kept item laid) : Kept (.list [item]) laid where
  texts := by simp only [Outline.texts, itemTexts, List.append_nil, kept.texts]
  hasChildren := by
    simp only [Outline.hasChildren, anyHasChildren, Bool.or_false, kept.hasChildren]
  whole := by
    simp only [Whole, AllWhole, and_true]
    exact kept.whole

theorem Kept.list {items laid : List Outline} (kept : ItemsKept items laid) :
    Kept (.list items) (.list laid) where
  texts := by simp only [Outline.texts, kept.texts]
  hasChildren := by simp only [Outline.hasChildren, kept.hasChildren]
  whole := by simpa only [Whole] using kept.whole

theorem Kept.record {inLine marked : Bool} {name : List Char}
    {fields laidFields : List (List Char × Outline)} {children laidChildren : List Outline}
    (keptFields : FieldsKept fields laidFields) (keptChildren : ItemsKept children laidChildren)
    (bare : marked = true → inLine = true ∨ anyFieldHasChildren fields = false) :
    Kept (.record inLine name fields children) (.record marked name laidFields laidChildren) where
  texts := by simp only [Outline.texts, keptFields.texts, keptChildren.texts]
  hasChildren := by
    simp only [Outline.hasChildren, keptFields.hasChildren, keptChildren.isEmpty]
  whole := by
    simp only [Whole]
    rintro ⟨before, fieldsWhole, below⟩
    refine ⟨fun mark => ?_, keptFields.whole fieldsWhole, keptChildren.whole below⟩
    rw [keptFields.hasChildren]
    exact (bare mark).elim before id

mutual

theorem kept_fit (limit base label : Nat) :
    (outline : Outline) → Kept outline (fit limit base label outline).1
  | .text content => by
      simp only [fit]
      split
      next fits => exact kept_line fits
      next => exact .refl _
  | .line content => by
      simp only [fit]
      split
      next fits => exact kept_line fits
      next => exact .refl _
  | .list [] => by
      simp only [fit]
      split
      next fits => exact kept_line fits
      next => exact .list (kept_fitItems limit (base + indentation) [])
  | .list [item] => by
      rw [fit]
      split
      next fits => exact kept_line fits
      -- The list is gone, and its only item is laid out in its place.
      next => exact (kept_fit limit base label item).of_item
  | .list (first :: second :: others) => by
      simp only [fit]
      split
      next fits => exact kept_line fits
      next => exact .list (kept_fitItems limit (base + indentation) (first :: second :: others))
  | .record inLine name fields children => by
      simp only [fit]
      split
      next fits => exact kept_line fits
      next =>
        apply Kept.record (kept_fitFields limit (base + indentation) fields)
          (kept_fitItems limit (base + indentation) children)
        simp only [Bool.or_eq_true, Bool.and_eq_true, Bool.not_eq_true']
        exact Or.imp_right And.right

theorem kept_fitItems (limit base : Nat) :
    (items : List Outline) → ItemsKept items (fitItems limit base items).1
  | [] => ⟨rfl, rfl, rfl, id⟩
  | item :: others => by
      simp only [fitItems]
      exact (kept_fitItems limit base others).cons (kept_fit limit base 0 item)

theorem kept_fitFields (limit base : Nat) :
    (fields : List (List Char × Outline)) → FieldsKept fields (fitFields limit base fields).1
  | [] => ⟨rfl, rfl, id⟩
  | (label, value) :: others => by
      simp only [fitFields]
      exact (kept_fitFields limit base others).cons label
        (kept_fit limit base (label.length + 2) value)

end

theorem kept_arrange (outline : Outline) : outline.Kept outline.arrange := by
  have first := kept_fit pageWidth 0 0 outline
  have second := kept_fit (fit pageWidth 0 0 outline).2 0 0 (fit pageWidth 0 0 outline).1
  exact first.trans second

/-- The drawing of an outline shows all of its names, labels and texts in reading order. -/
theorem shows_render {outline : Outline} (whole : outline.Whole) :
    Shows outline.texts outline.render.toList := by
  have kept := kept_arrange outline
  rw [render, String.toList_ofList, ← kept.texts]
  exact shows_draw outline.arrange (kept.whole whole) []

end Outline

end EquiJoin
