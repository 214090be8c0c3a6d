import EquiJoin.Json.Document
import EquiJoin.Proofs.Utf8
import Mathlib.Data.Nat.Digits.Defs

/-!
# The characters of a document

Whatever its texts hold, a document is written with printable characters and with those that its
layout puts between tokens (`Document.forall_write`).  The compact layout puts nothing there, so
that its bytes have no controls among them.
-/

set_option autoImplicit false

namespace EquiJoin.Json

open Utf8 (ofChars)

theorem printable_spelled (character : Char) :
    ∀ other ∈ spelled character, 0x20 ≤ other.toNat := by
  have digit : ∀ value < 16, 0x20 ≤ value.digitChar.toNat := by decide
  unfold spelled
  split
  case h_8 =>
    split
    · next control =>
        simp only [List.forall_mem_cons, List.not_mem_nil, false_implies, implies_true, and_true]
        refine ⟨by decide, by decide, by decide, by decide, digit _ (by omega), digit _ (by omega)⟩
    · next printable =>
        simp only [List.forall_mem_singleton]
        omega
  all_goals simp

theorem printable_literal (text : String) :
    ∀ character ∈ literal text, 0x20 ≤ character.toNat := by
  intro character member
  rw [literal, List.mem_append, List.mem_cons, List.mem_flatMap, List.mem_singleton] at member
  rcases member with (rfl | ⟨other, _, spelling⟩) | rfl
  · decide
  · exact printable_spelled other character spelling
  · decide

/-- What holds of every printable character and of those between tokens. -/
structure Layout.Admits (layout : Layout) (Plain : Char → Prop) : Prop where
  line (depth : Nat) : ∀ character ∈ layout.line depth, Plain character
  gap : ∀ character ∈ layout.gap, Plain character
  printable {character : Char} : 0x20 ≤ character.toNat → Plain character

variable {layout : Layout} {Plain : Char → Prop}

theorem Layout.Admits.enclose (admits : layout.Admits Plain) (depth : Nat)
    {opening closing : Char} (opens : Plain opening) (closes : Plain closing)
    {entries : List (List Char)}
    (inside : ∀ entry ∈ entries, ∀ character ∈ entry, Plain character) :
    ∀ character ∈ layout.enclose depth opening closing entries, Plain character := by
  cases entries with
  | nil =>
      simp only [Layout.enclose, List.forall_mem_cons, List.not_mem_nil, false_implies,
        implies_true, and_true]
      exact ⟨opens, closes⟩
  | cons first others =>
      obtain ⟨inFirst, inOthers⟩ := List.forall_mem_cons.mp inside
      have comma : Plain ',' := admits.printable (by decide)
      simp only [Layout.enclose, List.forall_mem_append, List.forall_mem_cons,
        List.not_mem_nil, false_implies, implies_true, and_true]
      refine ⟨⟨⟨⟨⟨opens, admits.line _⟩, inFirst⟩, ?_⟩, admits.line _⟩, closes⟩
      intro character member
      obtain ⟨entry, listed, inside⟩ := List.mem_flatMap.mp member
      have plain : ∀ character ∈ ',' :: layout.line (depth + 1) ++ entry, Plain character := by
        simp only [List.forall_mem_append, List.forall_mem_cons]
        exact ⟨⟨comma, admits.line _⟩, inOthers entry listed⟩
      exact plain character inside

mutual

theorem Document.forall_write (admits : layout.Admits Plain) (depth : Nat) :
    (document : Document) → ∀ character ∈ document.write layout depth, Plain character
  | .text value => by
      intro character member
      rw [Document.write] at member
      exact admits.printable (printable_literal value character member)
  | .number value => by
      intro character member
      rw [Document.write] at member
      have digit := Nat.isDigit_of_mem_toDigits (by decide) (by decide) member
      simp only [Char.isDigit, Bool.and_eq_true, decide_eq_true_eq, ge_iff_le,
        UInt32.le_iff_toNat_le] at digit
      exact admits.printable (Nat.le_trans (by decide) digit.1)
  | .flag value => by
      have letters : ∀ character ∈ (Document.flag value).write layout depth,
          0x20 ≤ character.toNat := by
        cases value <;> simp [Document.write]
      exact fun character member => admits.printable (letters character member)
  | .list items => by
      rw [Document.write]
      exact admits.enclose depth (admits.printable (by decide)) (admits.printable (by decide))
        (Document.forall_writeItems admits (depth + 1) items)
  | .object members => by
      rw [Document.write]
      exact admits.enclose depth (admits.printable (by decide)) (admits.printable (by decide))
        (Document.forall_writeMembers admits (depth + 1) members)

theorem Document.forall_writeItems (admits : layout.Admits Plain) (depth : Nat) :
    (items : List Document) → ∀ entry ∈ Document.writeItems layout depth items,
      ∀ character ∈ entry, Plain character
  | [] => by simp [Document.writeItems]
  | item :: others => by
      rw [Document.writeItems, List.forall_mem_cons]
      exact ⟨Document.forall_write admits depth item,
        Document.forall_writeItems admits depth others⟩

theorem Document.forall_writeMembers (admits : layout.Admits Plain) (depth : Nat) :
    (members : List (String × Document)) → ∀ entry ∈ Document.writeMembers layout depth members,
      ∀ character ∈ entry, Plain character
  | [] => by simp [Document.writeMembers]
  | (label, value) :: others => by
      rw [Document.writeMembers, List.forall_mem_cons]
      refine ⟨?_, Document.forall_writeMembers admits depth others⟩
      simp only [List.forall_mem_append, List.forall_mem_cons]
      exact ⟨⟨fun character member => admits.printable (printable_literal label character member),
        admits.printable (by decide), admits.gap⟩, Document.forall_write admits depth value⟩

end

theorem admits_compact : Layout.compact.Admits fun character => 0x20 ≤ character.toNat where
  line _ _ member := absurd member List.not_mem_nil
  gap _ member := absurd member List.not_mem_nil
  printable := id

theorem not_control_compact (document : Document) (depth : Nat) :
    ∀ byte ∈ ofChars (document.write .compact depth), ¬ byte < 0x20 := by
  intro byte member
  obtain ⟨character, listed, inside⟩ := List.mem_flatMap.mp member
  have printable := document.forall_write admits_compact depth character listed
  simp only [UInt8.lt_iff_toNat_lt, UInt8.reduceToNat]
  rcases Utf8.mem_spelling_cases inside with same | beyond
  · omega
  · simp only [UInt8.le_iff_toNat_le, UInt8.reduceToNat] at beyond
    omega

end EquiJoin.Json
