import EquiJoin.Proofs.Json.Document
import EquiJoin.Proofs.Json.Value

/-!
# What a layout adds to a document

A scan from the front tells for every byte of a text whether it stands in a literal (`Zone`).
Spaces and line feeds outside of literals are layout, and `Zone.bare` deletes them.  Whatever the
texts of a document hold, what is left of it is the document in the compact layout
(`Document.denser_write`), and a byte that is gone was layout (`Zone.layout_of_not_mem_bare`).
-/

set_option autoImplicit false

namespace EquiJoin.Json

open Utf8 (ofChars ofChars_cons ofChars_append)

inductive Zone where
  | outside
  | inside
  | escaped
  deriving DecidableEq

namespace Zone

def next : Zone → UInt8 → Zone
  | .outside, byte => if byte = 0x22 then .inside else .outside
  | .inside, byte => if byte = 0x22 then .outside else if byte = 0x5C then .escaped else .inside
  | .escaped, _ => .inside

def after (zone : Zone) (bytes : List UInt8) : Zone := bytes.foldl next zone

def IsLayout (zone : Zone) (byte : UInt8) : Prop := zone = .outside ∧ (byte = 0x20 ∨ byte = 0x0A)

instance (zone : Zone) (byte : UInt8) : Decidable (zone.IsLayout byte) :=
  inferInstanceAs (Decidable (_ ∧ _))

/-- The bytes without layout. -/
def bare (zone : Zone) : List UInt8 → List UInt8
  | [] => []
  | byte :: rest =>
      if zone.IsLayout byte then (zone.next byte).bare rest
      else byte :: (zone.next byte).bare rest

theorem after_append (zone : Zone) (front back : List UInt8) :
    zone.after (front ++ back) = (zone.after front).after back :=
  List.foldl_append

theorem bare_append (zone : Zone) (front back : List UInt8) :
    zone.bare (front ++ back) = zone.bare front ++ (zone.after front).bare back := by
  induction front generalizing zone with
  | nil => rfl
  | cons byte front ih =>
      have behind : zone.after (byte :: front) = (zone.next byte).after front := rfl
      rw [List.cons_append, bare, bare, ih, behind]
      split
      · rfl
      · rfl

/-- A byte that is not left stands outside of literals and is a space or a line feed. -/
theorem layout_of_not_mem_bare {zone : Zone} {front rest : List UInt8} {byte : UInt8}
    (gone : byte ∉ zone.bare (front ++ byte :: rest)) : (zone.after front).IsLayout byte := by
  by_contra kept
  apply gone
  rw [bare_append, bare, if_neg kept]
  exact List.mem_append_right _ List.mem_cons_self

end Zone

/-- The bytes keep the scan inside of a literal, so that all of them are left. -/
structure StaysInside (bytes : List UInt8) : Prop where
  after : Zone.inside.after bytes = .inside
  bare : Zone.inside.bare bytes = bytes

theorem staysInside_nil : StaysInside [] := ⟨rfl, rfl⟩

theorem StaysInside.append {front back : List UInt8} (first : StaysInside front)
    (second : StaysInside back) : StaysInside (front ++ back) where
  after := by rw [Zone.after_append, first.after, second.after]
  bare := by rw [Zone.bare_append, first.bare, first.after, second.bare]

theorem staysInside_singleton {byte : UInt8} (notQuote : byte ≠ 0x22)
    (notBackslash : byte ≠ 0x5C) : StaysInside [byte] where
  after := by simp [Zone.after, Zone.next, notQuote, notBackslash]
  bare := by simp [Zone.bare, Zone.IsLayout]

theorem staysInside_of_forall {bytes : List UInt8}
    (plain : ∀ byte ∈ bytes, byte ≠ 0x22 ∧ byte ≠ 0x5C) : StaysInside bytes := by
  induction bytes with
  | nil => exact staysInside_nil
  | cons byte bytes ih =>
      obtain ⟨⟨notQuote, notBackslash⟩, others⟩ := List.forall_mem_cons.mp plain
      exact (staysInside_singleton notQuote notBackslash).append (ih others)

theorem staysInside_backslash (byte : UInt8) : StaysInside [0x5C, byte] where
  after := rfl
  bare := by simp [Zone.bare, Zone.IsLayout, Zone.next]

theorem HexUnit.staysInside {digits : List UInt8} {unit : Nat} (form : HexUnit digits unit) :
    StaysInside digits := by
  obtain ⟨first, second, third, fourth⟩ := form
  apply staysInside_of_forall
  simp only [List.forall_mem_cons, List.not_mem_nil, false_implies, implies_true, and_true]
  exact ⟨first.plain, second.plain, third.plain, fourth.plain⟩

theorem Spelling.staysInside {piece : List UInt8} {character : Char}
    (form : Spelling piece character) : StaysInside piece := by
  cases form with
  | raw _ notQuote notBackslash =>
      apply staysInside_of_forall
      intro byte member
      rcases Utf8.mem_spelling_cases member with same | beyond
      · constructor
        · rintro rfl
          exact notQuote (Char.toNat_inj.mp same.symm)
        · rintro rfl
          exact notBackslash (Char.toNat_inj.mp same.symm)
      · constructor
        · rintro rfl
          exact absurd beyond (by decide)
        · rintro rfl
          exact absurd beyond (by decide)
  | escaped form =>
      cases form with
      | letter _ => exact staysInside_backslash _
      | numbered unit => exact (staysInside_backslash 0x75).append unit.staysInside
      | paired highUnit _ _ lowUnit =>
          have second := (staysInside_backslash 0x75).append lowUnit.staysInside
          exact (staysInside_backslash 0x75).append (highUnit.staysInside.append second)

theorem Spelled.staysInside {body : List UInt8} {characters : List Char}
    (spelled : Spelled body characters) : StaysInside body := by
  induction spelled with
  | nil => exact staysInside_nil
  | cons form _ ih => exact form.staysInside.append ih

/-- From outside of literals to outside of literals again, and what is left of the bytes. -/
structure Bares (bytes remaining : List UInt8) : Prop where
  after : Zone.outside.after bytes = .outside
  bare : Zone.outside.bare bytes = remaining

theorem bares_nil : Bares [] [] := ⟨rfl, rfl⟩

theorem Bares.append {front frontLeft back backLeft : List UInt8} (first : Bares front frontLeft)
    (second : Bares back backLeft) : Bares (front ++ back) (frontLeft ++ backLeft) where
  after := by rw [Zone.after_append, first.after, second.after]
  bare := by rw [Zone.bare_append, first.bare, first.after, second.bare]

theorem bares_solid {byte : UInt8} (notQuote : byte ≠ 0x22) (notSpace : byte ≠ 0x20)
    (notLine : byte ≠ 0x0A) : Bares [byte] [byte] where
  after := by simp [Zone.after, Zone.next, notQuote]
  bare := by simp [Zone.bare, Zone.IsLayout, notSpace, notLine]

theorem TextLiteral.bares {bytes : List UInt8} {text : String} (form : TextLiteral bytes text) :
    Bares bytes bytes := by
  obtain ⟨body, spelled, rfl⟩ := form
  have inner := spelled.staysInside
  constructor
  · change Zone.inside.after (body ++ [0x22]) = _
    rw [Zone.after_append, inner.after]
    rfl
  · change 0x22 :: Zone.inside.bare (body ++ [0x22]) = _
    rw [Zone.bare_append, inner.bare, inner.after]
    rfl

theorem bares_literal (text : String) : Bares (ofChars (literal text)) (ofChars (literal text)) :=
  (textLiteral_literal text).bares

/-! ## Documents -/

/-- Two ways to write the same, of which the second has no layout. -/
def Denser (written dense : List Char) : Prop := Bares (ofChars written) (ofChars dense)

theorem Denser.append {front frontDense back backDense : List Char}
    (first : Denser front frontDense) (second : Denser back backDense) :
    Denser (front ++ back) (frontDense ++ backDense) := by
  rw [Denser, ofChars_append, ofChars_append]
  exact Bares.append first second

theorem denser_digit {character : Char} (digit : character.isDigit = true) :
    Denser [character] [character] := by
  simp only [Char.isDigit, Bool.and_eq_true, decide_eq_true_eq, ge_iff_le,
    UInt32.le_iff_toNat_le] at digit
  have least : 0x30 ≤ character.toNat := digit.1
  have greatest : character.toNat ≤ 0x39 := digit.2
  have spelling : String.utf8EncodeChar character = [UInt8.ofNat character.toNat] := by
    rcases Utf8.spelling_cases character with ⟨_, spelling⟩ | ⟨large, _⟩
    · exact spelling
    · omega
  rw [Denser, ofChars, List.flatMap_singleton, spelling]
  apply bares_solid
  all_goals
    simp only [ne_eq, ← UInt8.toNat_inj, UInt8.toNat_ofNat', UInt8.reduceToNat]
    omega

theorem denser_digits {digits : List Char} (all : ∀ digit ∈ digits, digit.isDigit = true) :
    Denser digits digits := by
  induction digits with
  | nil => exact bares_nil
  | cons digit digits ih =>
      obtain ⟨first, others⟩ := List.forall_mem_cons.mp all
      exact (denser_digit first).append (ih others)

structure Layout.Airy (layout : Layout) : Prop where
  line (depth : Nat) : Denser (layout.line depth) []
  gap : Denser layout.gap []

theorem denser_replicate (count : Nat) : Denser (List.replicate count ' ') [] := by
  have space : Denser [' '] [] := ⟨rfl, rfl⟩
  induction count with
  | zero => exact bares_nil
  | succ count ih => exact space.append ih

theorem airy_pretty : Layout.pretty.Airy where
  line depth := by
    have feed : Denser ['\n'] [] := ⟨rfl, rfl⟩
    exact feed.append (denser_replicate (2 * depth))
  gap := denser_replicate 1

variable {layout : Layout}

theorem Layout.Airy.denser_enclose (airy : layout.Airy) (depth denseDepth : Nat)
    {opening closing : Char} (opens : Denser [opening] [opening])
    (closes : Denser [closing] [closing]) {entries dense : List (List Char)}
    (each : List.Forall₂ Denser entries dense) :
    Denser (layout.enclose depth opening closing entries)
      (Layout.compact.enclose denseDepth opening closing dense) := by
  have comma : Denser [','] [','] := ⟨rfl, rfl⟩
  cases each with
  | nil => exact opens.append closes
  | @cons first firstDense others othersDense one more =>
      have behind : Denser
          (others.flatMap fun entry => ',' :: layout.line (depth + 1) ++ entry)
          (othersDense.flatMap fun entry =>
            ',' :: Layout.compact.line (denseDepth + 1) ++ entry) := by
        induction more with
        | nil => exact bares_nil
        | cons one _ ih => exact ((comma.append (airy.line _)).append one).append ih
      have inside := ((opens.append (airy.line (depth + 1))).append one).append behind
      exact (inside.append (airy.line depth)).append closes

mutual

/-- Without its layout a document is what the compact layout writes. -/
theorem Document.denser_write (airy : layout.Airy) (depth denseDepth : Nat) :
    (document : Document) →
      Denser (document.write layout depth) (document.write .compact denseDepth)
  | .text value => bares_literal value
  | .number value => by
      rw [Document.write, Document.write]
      exact denser_digits fun _ member =>
        Nat.isDigit_of_mem_toDigits (by decide) (by decide) member
  | .flag true => ⟨rfl, rfl⟩
  | .flag false => ⟨rfl, rfl⟩
  | .list items => by
      rw [Document.write, Document.write]
      exact airy.denser_enclose depth denseDepth ⟨rfl, rfl⟩ ⟨rfl, rfl⟩
        (Document.denser_writeItems airy (depth + 1) (denseDepth + 1) items)
  | .object members => by
      rw [Document.write, Document.write]
      exact airy.denser_enclose depth denseDepth ⟨rfl, rfl⟩ ⟨rfl, rfl⟩
        (Document.denser_writeMembers airy (depth + 1) (denseDepth + 1) members)

theorem Document.denser_writeItems (airy : layout.Airy) (depth denseDepth : Nat) :
    (items : List Document) → List.Forall₂ Denser (Document.writeItems layout depth items)
      (Document.writeItems .compact denseDepth items)
  | [] => .nil
  | item :: others =>
      .cons (Document.denser_write airy depth denseDepth item)
        (Document.denser_writeItems airy depth denseDepth others)

theorem Document.denser_writeMembers (airy : layout.Airy) (depth denseDepth : Nat) :
    (members : List (String × Document)) →
      List.Forall₂ Denser (Document.writeMembers layout depth members)
        (Document.writeMembers .compact denseDepth members)
  | [] => .nil
  | (label, value) :: others => by
      have colon : Denser [':'] [':'] := ⟨rfl, rfl⟩
      have gapped : Denser (':' :: layout.gap) [':'] := colon.append airy.gap
      have key : Denser (literal label) (literal label) := bares_literal label
      refine .cons ?_ (Document.denser_writeMembers airy depth denseDepth others)
      exact (key.append gapped).append (Document.denser_write airy depth denseDepth value)

end

end EquiJoin.Json
