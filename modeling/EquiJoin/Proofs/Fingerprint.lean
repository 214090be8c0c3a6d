import EquiJoin.Fingerprint
import EquiJoin.Proofs.Utf8
import Mathlib.Algebra.Group.Nat.Defs

/-!
# Fingerprints tell values apart

Fingerprints are written one after another, so it is not enough that equal fingerprints come from
equal values: a fingerprint must also show where it ends (`Delimited`).  A text does by its last
byte, a list by the number in front of it as long as that number fits a word, and everything else
by its width.
-/

set_option autoImplicit false

namespace EquiJoin

open Utf8 (ofChars ofChars_cons spelling_cases spelling_inj)

/-- The value and what follows it can be told from the bytes of both. -/
class Fingerprint.Delimited (α : Type) [Fingerprint α] : Prop where
  split {first second : α} {front back : List UInt8} :
    fingerprint first ++ front = fingerprint second ++ back → first = second ∧ front = back

theorem lead_ne_end (character : Char) :
    ∃ lead tail, String.utf8EncodeChar character = lead :: tail ∧ lead ≠ 0xFF := by
  rcases spelling_cases character with ⟨small, spelling⟩ | ⟨_, lead, tail, spelling, _, low, _⟩
  · refine ⟨_, [], spelling, ?_⟩
    intro same
    have number : character.toNat % 256 = 0xFF := by
      rw [← UInt8.toNat_ofNat', same]
      rfl
    omega
  · refine ⟨lead, tail, spelling, ?_⟩
    rintro rfl
    exact absurd low (by decide)

theorem ofChars_end_inj {first second : List Char} {front back : List UInt8}
    (same : ofChars first ++ 0xFF :: front = ofChars second ++ 0xFF :: back) :
    first = second ∧ front = back := by
  induction first generalizing second with
  | nil =>
      cases second with
      | nil => exact ⟨rfl, (List.cons.inj same).2⟩
      | cons character second =>
          obtain ⟨lead, tail, spelling, notEnd⟩ := lead_ne_end character
          rw [ofChars_cons, spelling] at same
          exact absurd (List.cons.inj same).1.symm notEnd
  | cons character first ih =>
      cases second with
      | nil =>
          obtain ⟨lead, tail, spelling, notEnd⟩ := lead_ne_end character
          rw [ofChars_cons, spelling] at same
          exact absurd (List.cons.inj same).1 notEnd
      | cons other second =>
          rw [ofChars_cons, ofChars_cons, List.append_assoc, List.append_assoc] at same
          obtain ⟨rfl, behind⟩ := spelling_inj same
          obtain ⟨rfl, rfl⟩ := ih behind
          exact ⟨rfl, rfl⟩

instance : Fingerprint.Delimited String where
  split := by
    intro first second front back same
    change ofChars first.toList ++ [0xFF] ++ front = ofChars second.toList ++ [0xFF] ++ back at same
    rw [List.append_assoc, List.append_assoc] at same
    obtain ⟨characters, rest⟩ := ofChars_end_inj same
    exact ⟨String.ext characters, rest⟩

theorem length_littleEndian (width number : Nat) : (littleEndian width number).length = width := by
  induction width generalizing number with
  | zero => rfl
  | succ width ih => rw [littleEndian, List.length_cons, ih]

theorem littleEndian_inj {width first second : Nat} (firstFits : first < 256 ^ width)
    (secondFits : second < 256 ^ width)
    (same : littleEndian width first = littleEndian width second) : first = second := by
  induction width generalizing first second with
  | zero => omega
  | succ width ih =>
      rw [Nat.pow_succ] at firstFits secondFits
      obtain ⟨low, high⟩ := List.cons.inj same
      have quotient := ih (by omega) (by omega) high
      have remainder := congrArg UInt8.toNat low
      rw [UInt8.toNat_ofNat', UInt8.toNat_ofNat'] at remainder
      omega

theorem littleEndian_split {width first second : Nat} (firstFits : first < 256 ^ width)
    (secondFits : second < 256 ^ width) {front back : List UInt8}
    (same : littleEndian width first ++ front = littleEndian width second ++ back) :
    first = second ∧ front = back := by
  have widths : (littleEndian width first).length = (littleEndian width second).length := by
    rw [length_littleEndian, length_littleEndian]
  obtain ⟨numbers, rest⟩ := List.append_inj same widths
  exact ⟨littleEndian_inj firstFits secondFits numbers, rest⟩

instance : Fingerprint.Delimited UInt32 where
  split := by
    intro first second front back same
    obtain ⟨numbers, rest⟩ := littleEndian_split first.toNat_lt second.toNat_lt same
    exact ⟨UInt32.toNat_inj.mp numbers, rest⟩

theorem word_split {first second : Nat} (firstFits : first < UInt64.size)
    (secondFits : second < UInt64.size) {front back : List UInt8}
    (same : word first ++ front = word second ++ back) :
    first = second ∧ front = back :=
  littleEndian_split (by omega) (by omega) same

theorem flatMap_split {α : Type} [Fingerprint α] [Fingerprint.Delimited α]
    {first second : List α} {front back : List UInt8} (lengths : first.length = second.length)
    (same : first.flatMap fingerprint ++ front = second.flatMap fingerprint ++ back) :
    first = second ∧ front = back := by
  induction first generalizing second with
  | nil =>
      rw [List.length_nil] at lengths
      rw [List.length_eq_zero_iff.mp lengths.symm] at same ⊢
      exact ⟨rfl, same⟩
  | cons item first ih =>
      cases second with
      | nil => cases lengths
      | cons other second =>
          rw [List.flatMap_cons, List.flatMap_cons, List.append_assoc, List.append_assoc] at same
          obtain ⟨rfl, behind⟩ := Fingerprint.Delimited.split same
          obtain ⟨rfl, rest⟩ := ih (Nat.succ.inj lengths) behind
          exact ⟨rfl, rest⟩

theorem list_split {α : Type} [Fingerprint α] [Fingerprint.Delimited α] {first second : List α}
    (firstFits : first.length < UInt64.size) (secondFits : second.length < UInt64.size)
    {front back : List UInt8}
    (same : fingerprint first ++ front = fingerprint second ++ back) :
    first = second ∧ front = back := by
  change word first.length ++ first.flatMap fingerprint ++ front =
    word second.length ++ second.flatMap fingerprint ++ back at same
  rw [List.append_assoc, List.append_assoc] at same
  obtain ⟨lengths, behind⟩ := word_split firstFits secondFits same
  exact flatMap_split lengths behind

end EquiJoin
