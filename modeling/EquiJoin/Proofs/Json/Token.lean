import EquiJoin.Json.Token

/-!
# What stands between values

Blanks may stand around every token, and the readers of keywords, colons, commas and brackets
accept nothing else than blanks in front of their token.  `Entries` is the form of everything
between brackets: entries with a comma in front of each but the first, and the closing bracket.
-/

set_option autoImplicit false

namespace EquiJoin.Json

def Blanks (bytes : List UInt8) : Prop :=
  ∀ byte ∈ bytes, byte = 0x20 ∨ byte = 0x0A ∨ byte = 0x09 ∨ byte = 0x0D

theorem isBlank_iff {byte : UInt8} : isBlank byte = true ↔
    byte = 0x20 ∨ byte = 0x0A ∨ byte = 0x09 ∨ byte = 0x0D := by
  simp [isBlank, or_assoc]

theorem blanks_nil : Blanks [] := by
  intro byte member
  cases member

theorem Blanks.append {front back : List UInt8} (first : Blanks front) (second : Blanks back) :
    Blanks (front ++ back) := by
  intro byte member
  rcases List.mem_append.mp member with member | member
  · exact first byte member
  · exact second byte member

theorem skipBlanks_append {blanks : List UInt8} (blank : Blanks blanks) (rest : List UInt8) :
    skipBlanks (blanks ++ rest) = skipBlanks rest :=
  List.dropWhile_append_of_pos fun byte member => isBlank_iff.mpr (blank byte member)

theorem skipBlanks_cons {byte : UInt8} (solid : isBlank byte = false) (rest : List UInt8) :
    skipBlanks (byte :: rest) = byte :: rest := by
  rw [skipBlanks, List.dropWhile_cons_of_neg (by simp [solid])]

theorem skipBlanks_solid {blanks : List UInt8} (blank : Blanks blanks) {byte : UInt8}
    (solid : isBlank byte = false) (rest : List UInt8) :
    skipBlanks (blanks ++ byte :: rest) = byte :: rest := by
  rw [skipBlanks_append blank, skipBlanks_cons solid]

theorem skipBlanks_blanks {blanks : List UInt8} (blank : Blanks blanks) :
    skipBlanks blanks = [] := by
  have skipped := skipBlanks_append blank []
  rwa [List.append_nil] at skipped

theorem exists_blanks (bytes : List UInt8) :
    ∃ blanks, Blanks blanks ∧ bytes = blanks ++ skipBlanks bytes := by
  refine ⟨bytes.takeWhile isBlank, ?_, List.takeWhile_append_dropWhile.symm⟩
  intro byte member
  exact isBlank_iff.mp (List.all_eq_true.mp List.all_takeWhile byte member)

theorem eq_of_skipBlanks {bytes rest : List UInt8} (found : skipBlanks bytes = rest) :
    ∃ blanks, Blanks blanks ∧ bytes = blanks ++ rest := by
  obtain ⟨blanks, blank, shape⟩ := exists_blanks bytes
  exact ⟨blanks, blank, by rw [← found]; exact shape⟩

theorem exists_solid {bytes : List UInt8} (solid : ¬ Blanks bytes) :
    ∃ blanks byte others, Blanks blanks ∧ isBlank byte = false ∧
      bytes = blanks ++ byte :: others := by
  obtain ⟨blanks, blank, shape⟩ := exists_blanks bytes
  cases found : skipBlanks bytes with
  | nil =>
      rw [found, List.append_nil] at shape
      exact absurd (shape ▸ blank) solid
  | cons byte others =>
      have stops := List.head?_dropWhile_not isBlank bytes
      rw [← skipBlanks, found, List.head?_cons] at stops
      rw [found] at shape
      exact ⟨blanks, byte, others, blank, stops, shape⟩

theorem readLetters_eq_ok_iff {letters bytes rest : List UInt8} :
    readLetters letters bytes = .ok rest ↔ bytes = letters ++ rest := by
  induction letters generalizing bytes with
  | nil => simp [readLetters]
  | cons letter letters ih =>
      cases bytes with
      | nil => simp [readLetters]
      | cons byte tail =>
          by_cases same : byte = letter
          · simp [readLetters, same, ih]
          · simp [readLetters, same]

theorem readColon_of_blanks {blanks : List UInt8} (blank : Blanks blanks) (rest : List UInt8) :
    readColon (blanks ++ 0x3A :: rest) = .ok rest := by
  rw [readColon, skipBlanks_solid blank (by decide)]
  rfl

theorem eq_of_readColon {bytes rest : List UInt8} (run : readColon bytes = .ok rest) :
    ∃ blanks, Blanks blanks ∧ bytes = blanks ++ 0x3A :: rest := by
  unfold readColon at run
  split at run
  · cases run
  · next tail found =>
      cases run
      exact eq_of_skipBlanks found
  · cases run

/-! ## Commas and brackets -/

/-- What stands in front of an entry between brackets. -/
inductive Lead : Bool → List UInt8 → Prop where
  | first {blanks : List UInt8} : Blanks blanks → Lead true blanks
  | next {before after : List UInt8} :
      Blanks before → Blanks after → Lead false (before ++ 0x2C :: after)

theorem Lead.append {first : Bool} {lead blanks : List UInt8} (leads : Lead first lead)
    (blank : Blanks blanks) : Lead first (lead ++ blanks) := by
  cases leads with
  | first leading => exact .first (leading.append blank)
  | next before after =>
      rw [List.append_assoc, List.cons_append]
      exact .next before (after.append blank)

/-- Entries up to the closing bracket and the bracket, in front of the first entry or behind one. -/
inductive Entries {α : Type} (closing : UInt8) (Entry : List UInt8 → α → Prop) :
    Bool → List UInt8 → List α → Prop where
  | close {first : Bool} {blanks : List UInt8} :
      Blanks blanks → Entries closing Entry first (blanks ++ [closing]) []
  | entry {first : Bool} {lead text rest : List UInt8} {value : α} {values : List α} :
      Lead first lead → Entry text value → Entries closing Entry false rest values →
        Entries closing Entry first (lead ++ (text ++ rest)) (value :: values)

theorem Entries.map {ι α β : Type} {closing : UInt8} {Entry : List UInt8 → α → Prop}
    {Other : List UInt8 → β → Prop} {items : List ι} {value : ι → α} {other : ι → β}
    (carry : ∀ item ∈ items, ∀ text, Entry text (value item) → Other text (other item))
    {first : Bool} {body : List UInt8}
    (entries : Entries closing Entry first body (items.map value)) :
    Entries closing Other first body (items.map other) := by
  induction items generalizing first body with
  | nil =>
      cases entries with
      | close blank => exact .close blank
  | cons item items ih =>
      cases entries with
      | entry leads form behind =>
          exact .entry leads (carry item List.mem_cons_self _ form)
            (ih (fun later listed => carry later (List.mem_cons_of_mem item listed)) behind)

theorem listTurn_closed {first : Bool} {blanks : List UInt8} (blank : Blanks blanks)
    (rest : List UInt8) : listTurn first (blanks ++ 0x5D :: rest) = .ok (.closed rest) := by
  rw [listTurn, skipBlanks_solid blank (by decide)]
  rfl

theorem listTurn_comma {blanks : List UInt8} (blank : Blanks blanks) (rest : List UInt8) :
    listTurn false (blanks ++ 0x2C :: rest) =
      match skipBlanks rest with
      | [] => .error (.behind .endOfValue [])
      | 0x5D :: rest => .error (.before .trailingComma rest)
      | rest => .ok (.entry rest) := by
  rw [listTurn, skipBlanks_solid blank (by decide)]
  rfl

theorem listTurn_entry {first : Bool} {lead : List UInt8} (leads : Lead first lead)
    {byte : UInt8} (solid : isBlank byte = false) (opens : byte ≠ 0x5D) (rest : List UInt8) :
    listTurn first (lead ++ byte :: rest) = .ok (.entry (byte :: rest)) := by
  cases leads with
  | first blank =>
      rw [listTurn, skipBlanks_solid blank solid]
      split
      · next absent => cases absent
      · next closing => exact absurd (List.cons.inj closing).1 opens
      · next shape =>
          obtain ⟨rfl, rfl⟩ := List.cons.inj shape
          rfl
  | next before after =>
      rw [List.append_assoc, List.cons_append, listTurn_comma before, skipBlanks_solid after solid]
      split
      · next absent => cases absent
      · next closing => exact absurd (List.cons.inj closing).1 opens
      · rfl

theorem eq_of_listTurn_closed {first : Bool} {bytes rest : List UInt8}
    (run : listTurn first bytes = .ok (.closed rest)) :
    ∃ blanks, Blanks blanks ∧ bytes = blanks ++ 0x5D :: rest := by
  unfold listTurn at run
  split at run
  · cases run
  · next found =>
      cases run
      exact eq_of_skipBlanks found
  · split at run
    · cases run
    · split at run
      · split at run <;> cases run
      · cases run

theorem eq_of_listTurn_entry {first : Bool} {bytes rest : List UInt8}
    (run : listTurn first bytes = .ok (.entry rest)) :
    ∃ lead, Lead first lead ∧ bytes = lead ++ rest := by
  unfold listTurn at run
  split at run
  · cases run
  · cases run
  · next byte tail _ found =>
      obtain ⟨before, blank, shape⟩ := eq_of_skipBlanks found
      split at run
      · next isFirst =>
          cases run
          subst isFirst
          exact ⟨before, .first blank, shape⟩
      · next notFirst =>
          rw [Bool.not_eq_true] at notFirst
          subst notFirst
          split at run
          · next comma =>
              subst comma
              obtain ⟨after, blankAfter, shapeAfter⟩ := exists_blanks tail
              split at run
              · cases run
              · cases run
              · cases run
                refine ⟨before ++ 0x2C :: after, .next blank blankAfter, ?_⟩
                rw [shape, List.append_assoc, List.cons_append, ← shapeAfter]
          · cases run

theorem objectTurn_closed {first : Bool} {blanks : List UInt8} (blank : Blanks blanks)
    (rest : List UInt8) : objectTurn first (blanks ++ 0x7D :: rest) = .ok (.closed rest) := by
  rw [objectTurn, skipBlanks_solid blank (by decide)]
  rfl

theorem objectTurn_comma {blanks : List UInt8} (blank : Blanks blanks) (rest : List UInt8) :
    objectTurn false (blanks ++ 0x2C :: rest) =
      match skipBlanks rest with
      | [] => .error (.behind .endOfValue [])
      | 0x7D :: rest => .error (.before .trailingComma rest)
      | 0x22 :: rest => .ok (.entry rest)
      | rest => .error (.behind .keyNotText rest) := by
  rw [objectTurn, skipBlanks_solid blank (by decide)]
  rfl

theorem objectTurn_entry {first : Bool} {lead : List UInt8} (leads : Lead first lead)
    (rest : List UInt8) : objectTurn first (lead ++ 0x22 :: rest) = .ok (.entry rest) := by
  cases leads with
  | first blank =>
      rw [objectTurn, skipBlanks_solid blank (by decide)]
      rfl
  | next before after =>
      rw [List.append_assoc, List.cons_append, objectTurn_comma before,
        skipBlanks_solid after (by decide)]
      rfl

theorem eq_of_objectTurn_closed {first : Bool} {bytes rest : List UInt8}
    (run : objectTurn first bytes = .ok (.closed rest)) :
    ∃ blanks, Blanks blanks ∧ bytes = blanks ++ 0x7D :: rest := by
  unfold objectTurn at run
  split at run
  · cases run
  · next found =>
      cases run
      exact eq_of_skipBlanks found
  · split at run
    · split at run <;> cases run
    · split at run
      · split at run <;> cases run
      · cases run

theorem eq_of_objectTurn_entry {first : Bool} {bytes rest : List UInt8}
    (run : objectTurn first bytes = .ok (.entry rest)) :
    ∃ lead, Lead first lead ∧ bytes = lead ++ 0x22 :: rest := by
  unfold objectTurn at run
  split at run
  · cases run
  · cases run
  · next byte tail _ found =>
      obtain ⟨before, blank, shape⟩ := eq_of_skipBlanks found
      split at run
      · next isFirst =>
          subst isFirst
          split at run
          · next quote =>
              cases run
              subst quote
              exact ⟨before, .first blank, shape⟩
          · cases run
      · next notFirst =>
          rw [Bool.not_eq_true] at notFirst
          subst notFirst
          split at run
          · next comma =>
              subst comma
              split at run
              · cases run
              · cases run
              · next behind =>
                  cases run
                  obtain ⟨after, blankAfter, shapeAfter⟩ := eq_of_skipBlanks behind
                  refine ⟨before ++ 0x2C :: after, .next blank blankAfter, ?_⟩
                  rw [shape, shapeAfter, List.append_assoc, List.cons_append]
              · cases run
          · cases run

theorem closeList_of_blanks {blanks : List UInt8} (blank : Blanks blanks) (rest : List UInt8) :
    closeList (blanks ++ 0x5D :: rest) = .ok rest := by
  rw [closeList, skipBlanks_solid blank (by decide)]
  rfl

theorem eq_of_closeList {bytes rest : List UInt8} (run : closeList bytes = .ok rest) :
    ∃ blanks, Blanks blanks ∧ bytes = blanks ++ 0x5D :: rest := by
  unfold closeList at run
  split at run
  · cases run
  · next found =>
      cases run
      exact eq_of_skipBlanks found
  · split at run <;> cases run
  · cases run

end EquiJoin.Json
