import EquiJoin.Inspection
import EquiJoin.Proofs.Text.Quoted

/-!
# Inspections can be read back

The text of an inspection, on one line or with one part on each line, belongs to one inspection only
(`render_inj`).  Names, labels and numbers are words and all other atoms are quoted (`Legible`), so
the beginning of a text tells what kind of inspection it is of, and the text also shows where it
ends as long as the end of a part follows (`Legible.toldApart`).  Both layouts are read in the same
way: they differ only in what stands in front of the first part, between two and behind the last.
-/

set_option autoImplicit false

namespace EquiJoin

namespace Inspection

/-- The text of an inspection on one line, or at a depth of indentation. -/
def write : Option Nat → Inspection → List Char
  | none => plain
  | some depth => indented depth

def inner (layout : Option Nat) : Option Nat := layout.map (· + 1)

def opening (gap : List Char) : Option Nat → List Char
  | none => gap
  | some depth => newLine (depth + 1)

def between : Option Nat → List Char
  | none => [',', ' ']
  | some depth => ',' :: newLine (depth + 1)

def closing (gap : List Char) (bracket : Char) : Option Nat → List Char
  | none => gap ++ [bracket]
  | some depth => ',' :: newLine depth ++ [bracket]

def joined {α : Type} (layout : Option Nat) (written : α → List Char) : List α → List Char
  | [] => []
  | first :: others => written first ++ others.flatMap (between layout ++ written ·)

def writePart (layout : Option Nat) (part : String × Inspection) : List Char :=
  part.1.toList ++ ':' :: ' ' :: write layout part.2

theorem plainItems_eq (item : Inspection) (others : List Inspection) :
    plainItems (item :: others) = joined none (write none) (item :: others) := by
  induction others generalizing item with
  | nil => simp [plainItems, joined, write]
  | cons second others ih =>
      have step : plainItems (item :: second :: others) =
          plain item ++ [',', ' '] ++ plainItems (second :: others) := by simp [plainItems]
      rw [step, ih second]
      simp [joined, between, write]

theorem plainParts_eq (part : String × Inspection) (others : List (String × Inspection)) :
    plainParts (part :: others) = joined none (writePart none) (part :: others) := by
  induction others generalizing part with
  | nil => simp [plainParts, joined, writePart, write]
  | cons second others ih =>
      have step : plainParts (part :: second :: others) = part.1.toList ++ [':', ' '] ++
          plain part.2 ++ [',', ' '] ++ plainParts (second :: others) := by simp [plainParts]
      rw [step, ih second]
      simp [joined, between, writePart, write]

theorem indentedItems_eq (depth : Nat) (item : Inspection) (others : List Inspection) :
    indentedItems (depth + 1) (item :: others) =
      newLine (depth + 1) ++ joined (some depth) (write (some (depth + 1))) (item :: others) ++
        [','] := by
  induction others generalizing item with
  | nil => simp [indentedItems, joined, write]
  | cons second others ih =>
      rw [indentedItems, ih second]
      simp [joined, between, write]

theorem indentedParts_eq (depth : Nat) (part : String × Inspection)
    (others : List (String × Inspection)) :
    indentedParts (depth + 1) (part :: others) =
      newLine (depth + 1) ++ joined (some depth) (writePart (some (depth + 1))) (part :: others) ++
        [','] := by
  induction others generalizing part with
  | nil => simp [indentedParts, joined, writePart, write]
  | cons second others ih =>
      rw [indentedParts, ih second]
      simp [joined, between, writePart, write]

theorem write_atom (layout : Option Nat) (text : String) :
    write layout (.atom text) = text.toList := by
  cases layout with
  | none => rw [write, plain]
  | some depth => rw [write, indented]

theorem write_list_nil (layout : Option Nat) : write layout (.list []) = ['[', ']'] := by
  cases layout with
  | none => simp [write, plain, plainItems]
  | some depth => rw [write, indented]

theorem write_list_cons (layout : Option Nat) (item : Inspection) (others : List Inspection) :
    write layout (.list (item :: others)) =
      '[' :: (opening [] layout ++ (joined layout (write (inner layout)) (item :: others) ++
        closing [] ']' layout)) := by
  cases layout with
  | none => simp [write, plain, plainItems_eq, opening, closing, inner]
  | some depth => simp [write, indented, indentedItems_eq, opening, closing, inner]

theorem write_record (layout : Option Nat) (name : String) (part : String × Inspection)
    (others : List (String × Inspection)) :
    write layout (.record name (part :: others)) =
      name.toList ++ ' ' :: '\x7b' :: (opening [' '] layout ++
        (joined layout (writePart (inner layout)) (part :: others) ++
          closing [' '] '\x7d' layout)) := by
  cases layout with
  | none => simp [write, plain, plainParts_eq, opening, closing, inner]
  | some depth => simp [write, indented, indentedParts_eq, opening, closing, inner]

theorem write_wrapped (layout : Option Nat) (name : String) (inside : Inspection) :
    write layout (.wrapped name inside) =
      name.toList ++ '(' :: (opening [] layout ++ (write (inner layout) inside ++
        closing [] ')' layout)) := by
  cases layout with
  | none => simp [write, plain, opening, closing, inner]
  | some depth => simp [write, indented, opening, closing, inner]

/-- What may stand behind a part: another part, the end of what holds it, or nothing. -/
inductive Ends : List Char → Prop where
  | nothing : Ends []
  | part (rest : List Char) : Ends (',' :: rest)
  | list (rest : List Char) : Ends (']' :: rest)
  | wrapped (rest : List Char) : Ends (')' :: rest)
  | record (rest : List Char) : Ends (' ' :: '\x7d' :: rest)

theorem ends_between (layout : Option Nat) (rest : List Char) : Ends (between layout ++ rest) := by
  cases layout with
  | none => exact .part _
  | some depth => exact .part _

/-- The end of the last part is not taken for another part. -/
structure Closes (layout : Option Nat) (closer : List Char) : Prop where
  ends (rest : List Char) : Ends (closer ++ rest)
  ne_between (front back : List Char) : between layout ++ front ≠ closer ++ back

theorem newLine_succ (depth : Nat) :
    newLine (depth + 1) = newLine depth ++ [' ', ' ', ' ', ' '] := by
  change _ = '\n' :: (List.replicate (4 * depth) ' ' ++ List.replicate 4 ' ')
  rw [List.replicate_append_replicate]
  rfl

theorem closes {gap : List Char} {bracket : Char} (notBlank : ' ' ≠ bracket)
    (ends : ∀ rest, Ends (gap ++ bracket :: rest))
    (notPart : ∀ front back, ',' :: front ≠ gap ++ bracket :: back) (layout : Option Nat) :
    Closes layout (closing gap bracket layout) where
  ends rest := by
    cases layout with
    | none => simpa [closing] using ends rest
    | some depth => exact .part _
  ne_between front back same := by
    cases layout with
    | none => exact notPart (' ' :: front) back (by simpa [between, closing] using same)
    | some depth =>
        -- Behind the same indentation, a further part has a blank where the end has its bracket.
        simp only [between, closing, newLine_succ, List.cons_append, List.append_assoc,
          List.cons.injEq, true_and, List.append_cancel_left_eq] at same
        exact notBlank same.1

theorem closes_list (layout : Option Nat) : Closes layout (closing [] ']' layout) :=
  closes (by decide) .list (by simp) layout

theorem closes_record (layout : Option Nat) : Closes layout (closing [' '] '\x7d' layout) :=
  closes (by decide) .record (by simp) layout

theorem ends_wrapped (layout : Option Nat) (rest : List Char) :
    Ends (closing [] ')' layout ++ rest) := by
  cases layout with
  | none => exact .wrapped rest
  | some depth => exact .part _

/-- As long as the end of a part follows, two values are told from each other and from what
follows. -/
def ToldApart {α : Type} (written : α → List Char) (first second : α) : Prop :=
  ∀ {front back : List Char}, Ends front → Ends back →
    written first ++ front = written second ++ back → first = second ∧ front = back

section Parts

variable {α : Type} {layout : Option Nat} {closer : List Char} {written : α → List Char}

theorem Closes.ends_behind (closes : Closes layout closer) (others : List α) (rest : List Char) :
    Ends (others.flatMap (between layout ++ written ·) ++ (closer ++ rest)) := by
  cases others with
  | nil => exact closes.ends rest
  | cons other others =>
      rw [List.flatMap_cons, List.append_assoc, List.append_assoc]
      exact ends_between layout _

theorem Closes.split_behind (closes : Closes layout closer) {first second : List α}
    (told : ∀ here ∈ first, ∀ there ∈ second, ToldApart written here there)
    {front back : List Char}
    (same : first.flatMap (between layout ++ written ·) ++ (closer ++ front) =
      second.flatMap (between layout ++ written ·) ++ (closer ++ back)) :
    first = second ∧ front = back := by
  induction first generalizing second with
  | nil =>
      cases second with
      | nil => exact ⟨rfl, List.append_cancel_left same⟩
      | cons other second =>
          rw [List.flatMap_cons, List.append_assoc, List.append_assoc] at same
          exact absurd same.symm (closes.ne_between _ front)
  | cons item first ih =>
      cases second with
      | nil =>
          rw [List.flatMap_cons, List.append_assoc, List.append_assoc] at same
          exact absurd same (closes.ne_between _ back)
      | cons other second =>
          simp only [List.flatMap_cons, List.append_assoc] at same
          obtain ⟨rfl, behind⟩ := told item List.mem_cons_self other List.mem_cons_self
            (closes.ends_behind first front) (closes.ends_behind second back)
            (List.append_cancel_left same)
          obtain ⟨rfl, rest⟩ := ih (fun here member there listed =>
            told here (List.mem_cons_of_mem _ member) there (List.mem_cons_of_mem _ listed)) behind
          exact ⟨rfl, rest⟩

theorem Closes.split (closes : Closes layout closer) {item other : α} {first second : List α}
    (told : ∀ here ∈ item :: first, ∀ there ∈ other :: second, ToldApart written here there)
    {front back : List Char}
    (same : joined layout written (item :: first) ++ (closer ++ front) =
      joined layout written (other :: second) ++ (closer ++ back)) :
    item :: first = other :: second ∧ front = back := by
  simp only [joined, List.append_assoc] at same
  obtain ⟨rfl, behind⟩ := told item List.mem_cons_self other List.mem_cons_self
    (closes.ends_behind first front) (closes.ends_behind second back) same
  obtain ⟨rfl, rest⟩ := closes.split_behind (fun here member there listed =>
    told here (List.mem_cons_of_mem _ member) there (List.mem_cons_of_mem _ listed)) behind
  exact ⟨rfl, rest⟩

end Parts

/-! ## Words and kinds -/

def inWord (character : Char) : Bool :=
  character.isAlphanum || character == '_'

def Word (characters : List Char) : Prop :=
  characters ≠ [] ∧ ∀ character ∈ characters, inWord character = true

theorem Ends.takeWhile {rest : List Char} (ends : Ends rest) : rest.takeWhile inWord = [] := by
  cases ends <;> rfl

theorem Word.split {first second front back : List Char} (word : Word first) (other : Word second)
    (frontStops : front.takeWhile inWord = []) (backStops : back.takeWhile inWord = [])
    (same : first ++ front = second ++ back) : first = second ∧ front = back :=
  Text.run_split word.2 other.2 frontStops backStops same

theorem Word.ne_cons {characters : List Char} (word : Word characters) {character : Char}
    (outside : inWord character = false) (front back : List Char) :
    characters ++ front ≠ character :: back := by
  obtain ⟨present, all⟩ := word
  cases characters with
  | nil => exact absurd rfl present
  | cons head others =>
      intro same
      obtain ⟨rfl, _⟩ := List.cons.inj same
      rw [all head List.mem_cons_self] at outside
      cases outside

inductive Kind where
  | word
  | quoted
  | list
  | record
  | wrapped
  deriving DecidableEq

def kindOf (text : List Char) : Kind :=
  match text.dropWhile inWord with
  | '"' :: _ => .quoted
  | '[' :: _ => .list
  | '(' :: _ => .wrapped
  | ' ' :: '\x7b' :: _ => .record
  | _ => .word

theorem Word.kindOf_append {characters : List Char} (word : Word characters) (rest : List Char) :
    kindOf (characters ++ rest) = kindOf rest := by
  rw [kindOf, kindOf, List.dropWhile_append_of_pos word.2]

theorem Ends.kindOf {rest : List Char} (ends : Ends rest) : kindOf rest = .word := by
  cases ends <;> rfl

def kind : Inspection → Kind
  | .atom text => kindOf text.toList
  | .list _ => .list
  | .record _ _ => .record
  | .wrapped _ _ => .wrapped

@[simp] theorem kind_list (items : List Inspection) : (Inspection.list items).kind = .list := rfl

@[simp] theorem kind_record (name : String) (parts : List (String × Inspection)) :
    (Inspection.record name parts).kind = .record := rfl

@[simp] theorem kind_wrapped (name : String) (inside : Inspection) :
    (Inspection.wrapped name inside).kind = .wrapped := rfl

theorem kindOf_quoted (text : String) (rest : List Char) :
    kindOf ((Text.quoted text).toList ++ rest) = .quoted := by
  simp only [Text.quoted, String.toList_ofList, List.cons_append]
  rfl

@[simp] theorem kind_quoted (text : String) :
    (Inspection.atom (Text.quoted text)).kind = .quoted := by
  have quoted := kindOf_quoted text []
  rwa [List.append_nil] at quoted

theorem Word.kind_atom {text : String} (word : Word text.toList) :
    (Inspection.atom text).kind = .word := by
  have kinds := word.kindOf_append []
  rwa [List.append_nil] at kinds

/-! ## Reading inspections back -/

/-- Names, labels and atoms without quotes are words, and no record is empty. -/
inductive Legible : Inspection → Prop where
  | word {text : String} : Word text.toList → Legible (.atom text)
  | quoted (text : String) : Legible (.atom (Text.quoted text))
  | list {items : List Inspection} : (∀ item ∈ items, Legible item) → Legible (.list items)
  | record {name : String} {first : String × Inspection} {others : List (String × Inspection)} :
      Word name.toList → (∀ label ∈ (first :: others).map Prod.fst, Word label.toList) →
      (∀ part ∈ first :: others, Legible part.2) → Legible (.record name (first :: others))
  | wrapped {name : String} {inside : Inspection} :
      Word name.toList → Legible inside → Legible (.wrapped name inside)

theorem Legible.kindOf_write {inspection : Inspection} (legible : inspection.Legible)
    (layout : Option Nat) {rest : List Char} (ends : Ends rest) :
    kindOf (write layout inspection ++ rest) = inspection.kind := by
  cases legible with
  | word word => rw [write_atom, word.kindOf_append, ends.kindOf, word.kind_atom]
  | quoted text => rw [write_atom, kindOf_quoted, kind_quoted]
  | @list items _ =>
      cases items with
      | nil => rw [write_list_nil]; rfl
      | cons item others => rw [write_list_cons]; rfl
  | record name _ _ => rw [write_record, List.append_assoc, name.kindOf_append]; rfl
  | wrapped name _ => rw [write_wrapped, List.append_assoc, name.kindOf_append]; rfl

theorem Legible.ne_bracket {inspection : Inspection} (legible : inspection.Legible)
    (layout : Option Nat) (front back : List Char) :
    write layout inspection ++ front ≠ ']' :: back := by
  cases legible with
  | word word => rw [write_atom]; exact word.ne_cons rfl front back
  | quoted text => simp [write_atom, Text.quoted]
  | @list items _ =>
      cases items with
      | nil => simp [write_list_nil]
      | cons item others => simp [write_list_cons]
  | record name _ _ => rw [write_record, List.append_assoc]; exact name.ne_cons rfl _ back
  | wrapped name _ => rw [write_wrapped, List.append_assoc]; exact name.ne_cons rfl _ back

theorem toldApart_writePart {layout : Option Nat} {first second : String × Inspection}
    (label : Word first.1.toList) (other : Word second.1.toList)
    (values : ToldApart (write layout) first.2 second.2) :
    ToldApart (writePart layout) first second := by
  intro front back frontEnds backEnds same
  simp only [writePart, List.append_assoc, List.cons_append] at same
  obtain ⟨labels, behind⟩ := label.split other rfl rfl same
  simp only [List.cons.injEq, true_and] at behind
  obtain ⟨value, rest⟩ := values frontEnds backEnds behind
  exact ⟨Prod.ext (String.ext labels) value, rest⟩

theorem Legible.list_nil_ne {item : Inspection} (legible : item.Legible) (layout : Option Nat)
    (others : List Inspection) (front back : List Char) :
    write layout (.list []) ++ front ≠ write layout (.list (item :: others)) ++ back := by
  intro same
  rw [write_list_nil, write_list_cons] at same
  simp only [List.cons_append, List.nil_append, List.append_assoc, List.cons.injEq,
    true_and] at same
  cases layout with
  | none =>
      simp only [opening, joined, List.nil_append, List.append_assoc] at same
      exact legible.ne_bracket (inner none) _ front same.symm
  | some depth => simp [opening, newLine] at same

theorem toldApart_list {layout : Option Nat} {first second : List Inspection}
    (firstLegible : ∀ item ∈ first, item.Legible) (secondLegible : ∀ item ∈ second, item.Legible)
    (told : ∀ here ∈ first, ∀ there ∈ second, ToldApart (write (inner layout)) here there) :
    ToldApart (write layout) (.list first) (.list second) := by
  intro front back _ _ same
  cases first with
  | nil =>
      cases second with
      | nil => exact ⟨rfl, List.append_cancel_left same⟩
      | cons other second =>
          have legible := secondLegible other List.mem_cons_self
          exact absurd same (legible.list_nil_ne layout second front back)
  | cons item first =>
      cases second with
      | nil =>
          have legible := firstLegible item List.mem_cons_self
          exact absurd same.symm (legible.list_nil_ne layout first back front)
      | cons other second =>
          rw [write_list_cons, write_list_cons] at same
          simp only [List.cons_append, List.append_assoc, List.cons.injEq, true_and,
            List.append_cancel_left_eq] at same
          obtain ⟨items, rest⟩ := (closes_list layout).split told same
          exact ⟨congrArg _ items, rest⟩

theorem Legible.kind_eq {first second : Inspection} (legible : first.Legible)
    (other : second.Legible) {layout : Option Nat} {front back : List Char}
    (frontEnds : Ends front) (backEnds : Ends back)
    (same : write layout first ++ front = write layout second ++ back) :
    first.kind = second.kind := by
  rw [← legible.kindOf_write layout frontEnds, same, other.kindOf_write layout backEnds]

/-- The text of an inspection shows which one it is, and where it ends. -/
theorem Legible.toldApart {first second : Inspection} (legible : first.Legible)
    (other : second.Legible) (layout : Option Nat) : ToldApart (write layout) first second := by
  -- Both are of one kind, so that each case has one case of the other inspection left.
  induction legible generalizing second layout with
  | word word =>
      intro front back frontEnds backEnds same
      have kinds := (Legible.word word).kind_eq other frontEnds backEnds same
      rw [word.kind_atom] at kinds
      cases other with
      | word otherWord =>
          rw [write_atom, write_atom] at same
          obtain ⟨texts, rest⟩ :=
            word.split otherWord frontEnds.takeWhile backEnds.takeWhile same
          exact ⟨congrArg _ (String.ext texts), rest⟩
      | quoted | list | record | wrapped => simp at kinds
  | quoted text =>
      intro front back frontEnds backEnds same
      have kinds := (Legible.quoted text).kind_eq other frontEnds backEnds same
      cases other with
      | word otherWord => simp [otherWord.kind_atom] at kinds
      | quoted otherText =>
          rw [write_atom, write_atom] at same
          obtain ⟨rfl, rest⟩ := Text.quoted_split same
          exact ⟨rfl, rest⟩
      | list | record | wrapped => simp at kinds
  | list legible ih =>
      intro front back frontEnds backEnds same
      have kinds := (Legible.list legible).kind_eq other frontEnds backEnds same
      cases other with
      | word otherWord => simp [otherWord.kind_atom] at kinds
      | list otherLegible =>
          exact toldApart_list legible otherLegible (fun here member there listed =>
            ih here member (otherLegible there listed) (inner layout)) frontEnds backEnds same
      | quoted | record | wrapped => simp at kinds
  | record name labels values ih =>
      intro front back frontEnds backEnds same
      have kinds := (Legible.record name labels values).kind_eq other frontEnds backEnds same
      cases other with
      | word otherWord => simp [otherWord.kind_atom] at kinds
      | record otherName otherLabels otherValues =>
          rw [write_record, write_record] at same
          simp only [List.cons_append, List.append_assoc] at same
          obtain ⟨names, behind⟩ := name.split otherName rfl rfl same
          simp only [List.cons.injEq, true_and, List.append_cancel_left_eq] at behind
          obtain ⟨parts, rest⟩ := (closes_record layout).split (fun here member there listed =>
            toldApart_writePart (labels _ (List.mem_map_of_mem member))
              (otherLabels _ (List.mem_map_of_mem listed))
              (ih here member (otherValues there listed) (inner layout))) behind
          exact ⟨by rw [String.ext names, parts], rest⟩
      | quoted | list | wrapped => simp at kinds
  | wrapped name inside ih =>
      intro front back frontEnds backEnds same
      have kinds := (Legible.wrapped name inside).kind_eq other frontEnds backEnds same
      cases other with
      | word otherWord => simp [otherWord.kind_atom] at kinds
      | wrapped otherName otherInside =>
          rw [write_wrapped, write_wrapped] at same
          simp only [List.cons_append, List.append_assoc] at same
          obtain ⟨names, behind⟩ := name.split otherName rfl rfl same
          simp only [List.cons.injEq, true_and, List.append_cancel_left_eq] at behind
          obtain ⟨rfl, rest⟩ := ih otherInside (inner layout) (ends_wrapped layout front)
            (ends_wrapped layout back) behind
          exact ⟨by rw [String.ext names], List.append_cancel_left rest⟩
      | quoted | list | record => simp at kinds

theorem Legible.render_inj {first second : Inspection} (legible : first.Legible)
    (other : second.Legible) {spread : Bool} (same : first.render spread = second.render spread) :
    first = second := by
  have told (layout : Option Nat) (texts : write layout first = write layout second) :
      first = second :=
    (legible.toldApart other layout .nothing .nothing (by rw [texts])).1
  have texts := String.ofList_injective same
  cases spread with
  | false => exact told none texts
  | true => exact told (some 0) texts

end Inspection

/-- The inspections of a type are legible, and different values have different ones. -/
class Inspect.Lawful (α : Type) [Inspect α] : Prop where
  legible (value : α) : (inspect value).Legible
  injective {first second : α} : inspect first = inspect second → first = second

namespace Inspect

theorem render_eq_iff {α : Type} [Inspect α] [Lawful α] {first second : α} {spread : Bool} :
    (inspect first).render spread = (inspect second).render spread ↔ first = second := by
  constructor
  · intro same
    exact Lawful.injective ((Lawful.legible first).render_inj (Lawful.legible second) same)
  · intro same
    rw [same]

instance : Lawful String where
  legible := .quoted
  injective := by
    intro first second same
    have texts := congrArg String.toList (Inspection.atom.inj same)
    exact (Text.quoted_split (congrArg (· ++ []) texts)).1

/-- Alternatives are told apart by the words that they are shown as. -/
theorem Lawful.of_words {α : Type} [Inspect α] (word : α → String)
    (shown : ∀ value, inspect value = .atom (word value))
    (words : ∀ value, Inspection.Word (word value).toList)
    (distinct : ∀ first second, word first = word second → first = second) : Lawful α where
  legible value := by
    rw [shown]
    exact .word (words value)
  injective {first second} same := by
    rw [shown, shown] at same
    exact distinct first second (Inspection.atom.inj same)

instance : Lawful Bool := by
  refine .of_words (fun flag => if flag then "true" else "false") (fun _ => rfl) ?_ (by decide)
  intro flag
  cases flag <;> simp [Inspection.Word, Inspection.inWord]

instance : Lawful UInt32 where
  legible number := by
    apply Inspection.Legible.word
    rw [Nat.toString_eq_ofList_toDigits, String.toList_ofList]
    refine ⟨Nat.toDigits_ne_nil, fun digit member => ?_⟩
    have isDigit := Nat.isDigit_of_mem_toDigits (by decide) (by decide) member
    simp [Inspection.inWord, Char.isAlphanum, isDigit]
  injective := by
    intro first second same
    have texts := Inspection.atom.inj same
    rw [Nat.toString_eq_ofList_toDigits, Nat.toString_eq_ofList_toDigits] at texts
    have digits := String.ofList_injective texts
    exact UInt32.toNat_inj.mp (Text.toDigits_inj (by decide) (by decide) digits)

instance {α : Type} [Inspect α] [Lawful α] : Lawful (List α) where
  legible items := by
    apply Inspection.Legible.list
    intro item member
    obtain ⟨value, _, rfl⟩ := List.mem_map.mp member
    exact Lawful.legible value
  injective := by
    intro first second same
    exact (List.map_inj_right fun _ _ => Lawful.injective).mp (Inspection.list.inj same)

end Inspect

end EquiJoin
