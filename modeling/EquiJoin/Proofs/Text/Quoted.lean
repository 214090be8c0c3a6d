import EquiJoin.Text.Quoted

/-!
# Quoted text tells texts apart

A quoted text shows where it ends and what it quotes, whatever stands behind it (`quoted_split`).
What a character is written with begins with a backslash or is the character itself, and a letter
behind the backslash stands for one character only.  A number ends at the brace behind it, since no
digit is a brace.
-/

set_option autoImplicit false

namespace EquiJoin.Text

theorem run_split {kind : Char → Bool} {first second front back : List Char}
    (firstKind : ∀ character ∈ first, kind character = true)
    (secondKind : ∀ character ∈ second, kind character = true)
    (frontStops : front.takeWhile kind = []) (backStops : back.takeWhile kind = [])
    (same : first ++ front = second ++ back) : first = second ∧ front = back := by
  have runs := congrArg (List.takeWhile kind) same
  rw [List.takeWhile_append_of_pos firstKind, List.takeWhile_append_of_pos secondKind, frontStops,
    backStops, List.append_nil, List.append_nil] at runs
  subst runs
  exact ⟨rfl, List.append_cancel_left same⟩

theorem mem_toDigits {base number : Nat} (large : 1 < base) {digit : Char}
    (member : digit ∈ Nat.toDigits base number) : ∃ value < base, digit = value.digitChar := by
  induction number using Nat.strongRecOn with
  | ind number ih =>
      by_cases small : number < base
      · rw [Nat.toDigits_of_lt_base small, List.mem_singleton] at member
        exact ⟨number, small, member⟩
      · rw [Nat.toDigits_of_base_le large (by omega), List.mem_append, List.mem_singleton] at member
        rcases member with member | last
        · exact ih (number / base) (Nat.div_lt_self (by omega) large) member
        · exact ⟨number % base, Nat.mod_lt _ (by omega), last⟩

theorem digitChar_inj : ∀ first < 16, ∀ second < 16,
    first.digitChar = second.digitChar → first = second := by
  decide

theorem toDigits_inj {base : Nat} (large : 1 < base) (small : base ≤ 16) {first second : Nat}
    (same : Nat.toDigits base first = Nat.toDigits base second) : first = second := by
  induction first using Nat.strongRecOn generalizing second with
  | ind first ih =>
      -- The number of digits tells whether there is more than the last one.
      have sizes : first < base ↔ second < base := by
        have size (number : Nat) : (Nat.toDigits base number).length ≤ 1 ↔ number < base := by
          rw [Nat.length_toDigits_le_iff large Nat.one_pos, Nat.pow_one]
        rw [← size, ← size, same]
      by_cases firstSmall : first < base
      · have secondSmall := sizes.mp firstSmall
        rw [Nat.toDigits_of_lt_base firstSmall, Nat.toDigits_of_lt_base secondSmall] at same
        exact digitChar_inj first (by omega) second (by omega) (List.cons.inj same).1
      · have firstLarge : base ≤ first := by omega
        have secondLarge : base ≤ second := by omega
        rw [Nat.toDigits_of_base_le large firstLarge, Nat.toDigits_of_base_le large secondLarge]
          at same
        obtain ⟨high, low⟩ := List.append_inj' same rfl
        have quotients := ih (first / base) (Nat.div_lt_self (by omega) large) high
        have below (number : Nat) : number % base < 16 :=
          Nat.lt_of_lt_of_le (Nat.mod_lt _ (by omega)) small
        have remainders := digitChar_inj _ (below first) _ (below second) (List.cons.inj low).1
        rw [← Nat.div_add_mod first base, quotients, remainders, Nat.div_add_mod]

def unescaped? : Char → Option Char
  | '"' => some '"'
  | '\\' => some '\\'
  | 'n' => some '\n'
  | 'r' => some '\r'
  | 't' => some '\t'
  | '0' => some '\x00'
  | _ => none

theorem shown_cases (character : Char) :
    (∃ letter, shown character = ['\\', letter] ∧ unescaped? letter = some character) ∨
    shown character = byNumber character ∨
    (shown character = [character] ∧ character ≠ '"' ∧ character ≠ '\\') := by
  unfold shown
  split
  case h_7 notQuote notBackslash _ _ _ _ =>
    split
    · exact .inr (.inl rfl)
    · exact .inr (.inr ⟨rfl, notQuote, notBackslash⟩)
  all_goals exact .inl ⟨_, rfl, rfl⟩

theorem byNumber_split {first second : Char} {front back : List Char}
    (same : byNumber first ++ front = byNumber second ++ back) : first = second ∧ front = back := by
  have brace : ∀ value < 16, value.digitChar ≠ '\x7d' := by decide
  have digits (character : Char) : ∀ digit ∈ Nat.toDigits 16 character.toNat,
      (digit != '\x7d') = true := by
    intro digit member
    obtain ⟨value, small, rfl⟩ := mem_toDigits (by decide) member
    exact bne_iff_ne.mpr (brace value small)
  simp only [byNumber, List.cons_append, List.append_assoc, List.cons.injEq, true_and,
    List.nil_append] at same
  obtain ⟨numbers, rest⟩ := run_split (digits first) (digits second) rfl rfl same
  exact ⟨Char.toNat_inj.mp (toDigits_inj (by decide) (by decide) numbers), (List.cons.inj rest).2⟩

/-- A number is not taken for a letter behind the backslash. -/
theorem ne_byNumber {letter first second : Char} {front back : List Char}
    (escaped : unescaped? letter = some first) :
    ['\\', letter] ++ front ≠ byNumber second ++ back := by
  intro same
  obtain ⟨rfl, _⟩ := List.cons.inj (List.cons.inj same).2
  cases escaped

theorem shown_split {first second : Char} {front back : List Char}
    (same : shown first ++ front = shown second ++ back) : first = second ∧ front = back := by
  -- Unless both are written in the same way, they differ in one of the first two characters.
  rcases shown_cases first with ⟨letter, written, escaped⟩ | written | ⟨written, _, raw⟩
  · rcases shown_cases second with ⟨other, written', escaped'⟩ | written' | ⟨written', _, raw'⟩
    all_goals rw [written, written'] at same
    · obtain ⟨rfl, rest⟩ := List.cons.inj (List.cons.inj same).2
      exact ⟨Option.some.inj (escaped.symm.trans escaped'), rest⟩
    · exact absurd same (ne_byNumber escaped)
    · exact absurd (List.cons.inj same).1.symm raw'
  · rcases shown_cases second with ⟨other, written', escaped'⟩ | written' | ⟨written', _, raw'⟩
    all_goals rw [written, written'] at same
    · exact absurd same.symm (ne_byNumber escaped')
    · exact byNumber_split same
    · exact absurd (List.cons.inj same).1.symm raw'
  · rcases shown_cases second with ⟨other, written', escaped'⟩ | written' | ⟨written', _, raw'⟩
    all_goals rw [written, written'] at same
    · exact absurd (List.cons.inj same).1 raw
    · exact absurd (List.cons.inj same).1 raw
    · exact List.cons.inj same

theorem shown_ne_quote (character : Char) {front back : List Char} :
    shown character ++ front ≠ '"' :: back := by
  intro same
  rcases shown_cases character with ⟨letter, written, _⟩ | written | ⟨written, notQuote, _⟩
  all_goals rw [written] at same
  · cases same
  · cases same
  · exact notQuote (List.cons.inj same).1

theorem flatMap_shown_split {first second front back : List Char}
    (same : first.flatMap shown ++ '"' :: front = second.flatMap shown ++ '"' :: back) :
    first = second ∧ front = back := by
  induction first generalizing second with
  | nil =>
      cases second with
      | nil => exact ⟨rfl, (List.cons.inj same).2⟩
      | cons other second =>
          rw [List.flatMap_cons, List.append_assoc] at same
          exact absurd same.symm (shown_ne_quote other)
  | cons character first ih =>
      cases second with
      | nil =>
          rw [List.flatMap_cons, List.append_assoc] at same
          exact absurd same (shown_ne_quote character)
      | cons other second =>
          rw [List.flatMap_cons, List.flatMap_cons, List.append_assoc, List.append_assoc] at same
          obtain ⟨rfl, behind⟩ := shown_split same
          obtain ⟨rfl, rest⟩ := ih behind
          exact ⟨rfl, rest⟩

theorem quoted_split {first second : String} {front back : List Char}
    (same : (quoted first).toList ++ front = (quoted second).toList ++ back) :
    first = second ∧ front = back := by
  simp only [quoted, String.toList_ofList, List.cons_append, List.append_assoc, List.nil_append,
    List.cons.injEq, true_and] at same
  obtain ⟨characters, rest⟩ := flatMap_shown_split same
  exact ⟨String.ext characters, rest⟩

end EquiJoin.Text
