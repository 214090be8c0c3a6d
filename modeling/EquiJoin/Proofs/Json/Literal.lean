import EquiJoin.Json.Literal
import EquiJoin.Proofs.Utf8

/-!
# The form of text literals

A text is spelled character by character (`Spelled`): a character stands for itself, behind a
backslash, or by its number.  `readLiteral_eq_ok_iff` says that a literal is read exactly if its
body spells a text, and as that text.  A literal that is passed over need only have the looser form
`Unchecked` (`unchecked_of_skipLiteral`, `skipLiteral_of_unchecked`).
-/

set_option autoImplicit false

namespace EquiJoin.Json

open Utf8 (ofChars ofChars_cons ofChars_append Continues)

def HexDigit (byte : UInt8) (value : Nat) : Prop :=
  value < 10 ∧ byte.toNat = 0x30 + value ∨
    10 ≤ value ∧ value < 16 ∧
      (byte.toNat = 0x41 + (value - 10) ∨ byte.toNat = 0x61 + (value - 10))

inductive HexUnit : List UInt8 → Nat → Prop where
  | digits {first second third fourth : UInt8} {a b c d : Nat} :
      HexDigit first a → HexDigit second b → HexDigit third c → HexDigit fourth d →
        HexUnit [first, second, third, fourth] (0x1000 * a + 0x100 * b + 0x10 * c + d)

def escapes : List (UInt8 × Char) :=
  [(0x22, '"'), (0x5C, '\\'), (0x2F, '/'), (0x62, '\x08'), (0x66, '\x0c'), (0x6E, '\n'),
    (0x72, '\r'), (0x74, '\t')]

inductive Escape : List UInt8 → Char → Prop where
  | letter {letter : UInt8} {character : Char} :
      (letter, character) ∈ escapes → Escape [letter] character
  | numbered {digits : List UInt8} {character : Char} :
      HexUnit digits character.toNat → Escape (0x75 :: digits) character
  | paired {highDigits lowDigits : List UInt8} {high low : Nat} {character : Char} :
      HexUnit highDigits high → 0xD800 ≤ high → high < 0xDC00 →
        HexUnit lowDigits low → 0xDC00 ≤ low → low < 0xE000 →
          character.toNat = 0x10000 + 0x400 * (high - 0xD800) + (low - 0xDC00) →
            Escape (0x75 :: (highDigits ++ 0x5C :: 0x75 :: lowDigits)) character

theorem hexValue?_eq_some_iff {byte : UInt8} {value : Nat} :
    hexValue? byte = some value ↔ HexDigit byte value := by
  have below := byte.toNat_lt
  simp only [hexValue?, HexDigit, UInt8.le_iff_toNat_le, UInt8.reduceToNat]
  split
  · rw [Option.some.injEq]
    omega
  · split
    · rw [Option.some.injEq]
      omega
    · split
      · rw [Option.some.injEq]
        omega
      · simp only [reduceCtorEq, false_iff]
        omega

theorem hexUnit?_eq_some_iff {digits : List UInt8} {unit : Nat} (four : digits.length = 4) :
    hexUnit? digits = some unit ↔ HexUnit digits unit := by
  obtain ⟨first, second, third, fourth, rfl⟩ : ∃ a b c d, digits = [a, b, c, d] :=
    ⟨_, _, _, _, List.eq_getElem_of_length_eq_four digits four⟩
  constructor
  · intro found
    simp only [hexUnit?, List.foldlM_cons, List.foldlM_nil, Option.bind_eq_bind,
      Option.bind_eq_some_iff, Option.map_eq_some_iff, Option.pure_def, Option.some.injEq]
      at found
    obtain ⟨_, ⟨a, firstDigit, rfl⟩, _, ⟨b, secondDigit, rfl⟩, _, ⟨c, thirdDigit, rfl⟩, _,
      ⟨d, fourthDigit, rfl⟩, value⟩ := found
    have shape : 0x1000 * a + 0x100 * b + 0x10 * c + d = unit := by omega
    rw [← shape]
    exact .digits (hexValue?_eq_some_iff.mp firstDigit) (hexValue?_eq_some_iff.mp secondDigit)
      (hexValue?_eq_some_iff.mp thirdDigit) (hexValue?_eq_some_iff.mp fourthDigit)
  · rintro ⟨firstDigit, secondDigit, thirdDigit, fourthDigit⟩
    simp only [hexUnit?, List.foldlM_cons, List.foldlM_nil, hexValue?_eq_some_iff.mpr firstDigit,
      hexValue?_eq_some_iff.mpr secondDigit, hexValue?_eq_some_iff.mpr thirdDigit,
      hexValue?_eq_some_iff.mpr fourthDigit, Option.map_some, Option.bind_eq_bind,
      Option.bind_some, Option.pure_def, Option.some.injEq]
    omega

theorem HexDigit.plain {byte : UInt8} {value : Nat} (digit : HexDigit byte value) :
    byte ≠ 0x22 ∧ byte ≠ 0x5C := by
  simp only [HexDigit] at digit
  simp only [ne_eq, ← UInt8.toNat_inj, UInt8.reduceToNat]
  omega

theorem HexUnit.length {digits : List UInt8} {unit : Nat} (form : HexUnit digits unit) :
    digits.length = 4 := by
  cases form
  rfl

theorem HexUnit.lt {digits : List UInt8} {unit : Nat} (form : HexUnit digits unit) :
    unit < 0x10000 := by
  obtain ⟨first, second, third, fourth⟩ := form
  simp only [HexDigit] at first second third fourth
  omega

theorem readHexUnit_eq_ok_iff {bytes rest : List UInt8} {unit : Nat} :
    readHexUnit bytes = .ok (unit, rest) ↔
      ∃ digits, HexUnit digits unit ∧ bytes = digits ++ rest := by
  constructor
  · intro run
    unfold readHexUnit at run
    split at run
    · cases run
    · next long =>
        have four : (bytes.take 4).length = 4 := by
          rw [List.length_take]
          omega
        split at run
        · cases run
        · next found =>
            obtain ⟨rfl, rfl⟩ := Prod.mk.inj (Except.ok.inj run)
            exact ⟨bytes.take 4, (hexUnit?_eq_some_iff four).mp found,
              (List.take_append_drop 4 bytes).symm⟩
  · rintro ⟨digits, form, rfl⟩
    have four := form.length
    have long : ¬ (digits ++ rest).length < 4 := by
      rw [List.length_append]
      omega
    rw [readHexUnit, if_neg long, ← four, List.take_left, List.drop_left,
      (hexUnit?_eq_some_iff four).mpr form]

theorem escaped?_eq_some_iff {letter : UInt8} {character : Char} :
    escaped? letter = some character ↔ (letter, character) ∈ escapes := by
  constructor
  · intro found
    unfold escaped? at found
    split at found <;> cases found <;> decide
  · intro listed
    simp only [escapes, List.mem_cons, List.not_mem_nil, or_false, Prod.mk.injEq] at listed
    rcases listed with ⟨rfl, rfl⟩ | ⟨rfl, rfl⟩ | ⟨rfl, rfl⟩ | ⟨rfl, rfl⟩ | ⟨rfl, rfl⟩ | ⟨rfl, rfl⟩ |
      ⟨rfl, rfl⟩ | ⟨rfl, rfl⟩ <;> rfl

theorem toNat_ofNat_of_isValid {number : Nat} (valid : number.isValidChar) :
    (Char.ofNat number).toNat = number := by
  rw [Char.ofNat, dif_pos valid]
  rfl

theorem eq_of_readLowSurrogate {bytes rest : List UInt8} {low : Nat}
    (run : readLowSurrogate bytes = .ok (low, rest)) :
    ∃ digits, HexUnit digits low ∧ isLowSurrogate low = true ∧
      bytes = 0x5C :: 0x75 :: (digits ++ rest) := by
  unfold readLowSurrogate at run
  split at run
  · obtain ⟨⟨unit, after⟩, unitRun, answer⟩ := bind_eq_ok run
    obtain ⟨digits, form, rfl⟩ := readHexUnit_eq_ok_iff.mp unitRun
    dsimp only at answer
    split at answer
    · next isLow =>
        obtain ⟨rfl, rfl⟩ := Prod.mk.inj (Except.ok.inj answer)
        exact ⟨digits, form, isLow, rfl⟩
    · cases answer
  all_goals cases run

/-- A number behind its letter is that of a character, or it is the first of a pair. -/
theorem escape_of_readNumbered {bytes rest : List UInt8} {character : Char}
    (run : readNumbered bytes = .ok (character, rest)) :
    ∃ piece, Escape (0x75 :: piece) character ∧ bytes = piece ++ rest := by
  obtain ⟨⟨unit, after⟩, unitRun, answer⟩ := bind_eq_ok run
  obtain ⟨digits, form, rfl⟩ := readHexUnit_eq_ok_iff.mp unitRun
  have small := form.lt
  dsimp only at answer
  split at answer
  · cases answer
  · next notLow =>
      split at answer
      · next isHigh =>
          obtain ⟨⟨low, behind⟩, lowRun, paired⟩ := bind_eq_ok answer
          obtain ⟨rfl, rfl⟩ := Prod.mk.inj (Except.ok.inj paired)
          obtain ⟨lowDigits, lowForm, isLow, rfl⟩ := eq_of_readLowSurrogate lowRun
          simp only [isHighSurrogate, isLowSurrogate, Bool.and_eq_true, decide_eq_true_eq]
            at isHigh isLow
          refine ⟨digits ++ 0x5C :: 0x75 :: lowDigits, ?_, by simp⟩
          refine .paired form isHigh.1 (by omega) lowForm isLow.1 (by omega) ?_
          exact toNat_ofNat_of_isValid (Or.inr (by omega))
      · next notHigh =>
          obtain ⟨rfl, rfl⟩ := Prod.mk.inj (Except.ok.inj answer)
          simp only [isHighSurrogate, isLowSurrogate, Bool.and_eq_true, decide_eq_true_eq,
            not_and, Nat.not_le] at notHigh notLow
          have value : (Char.ofNat unit).toNat = unit := by
            apply toNat_ofNat_of_isValid
            simp only [Nat.isValidChar]
            omega
          exact ⟨digits, .numbered (by rw [value]; exact form), rfl⟩

theorem escape_of_readEscape {bytes rest : List UInt8} {character : Char}
    (run : readEscape bytes = .ok (character, rest)) :
    ∃ piece, Escape piece character ∧ bytes = piece ++ rest := by
  cases bytes with
  | nil => cases run
  | cons letter tail =>
      simp only [readEscape] at run
      split at run
      · next found =>
          obtain ⟨rfl, rfl⟩ := Prod.mk.inj (Except.ok.inj run)
          exact ⟨[letter], .letter (escaped?_eq_some_iff.mp found), rfl⟩
      · split at run
        · next announces =>
            obtain ⟨piece, form, rfl⟩ := escape_of_readNumbered run
            exact ⟨0x75 :: piece, form, by rw [announces]; rfl⟩
        · cases run

theorem isLowSurrogate_eq_false_of_char (character : Char) :
    isLowSurrogate character.toNat = false := by
  have valid := character.valid
  simp only [UInt32.isValidChar, Nat.isValidChar] at valid
  simp only [isLowSurrogate, Char.toNat, Bool.and_eq_false_iff, decide_eq_false_iff_not,
    Nat.not_le]
  omega

theorem isHighSurrogate_eq_false_of_char (character : Char) :
    isHighSurrogate character.toNat = false := by
  have valid := character.valid
  simp only [UInt32.isValidChar, Nat.isValidChar] at valid
  simp only [isHighSurrogate, Char.toNat, Bool.and_eq_false_iff, decide_eq_false_iff_not,
    Nat.not_le]
  omega

theorem readEscape_number (bytes : List UInt8) :
    readEscape (0x75 :: bytes) = readNumbered bytes := rfl

theorem readEscape_of_escape {piece : List UInt8} {character : Char}
    (form : Escape piece character) (rest : List UInt8) :
    readEscape (piece ++ rest) = .ok (character, rest) := by
  cases form with
  | letter listed =>
      rw [List.singleton_append, readEscape, escaped?_eq_some_iff.mpr listed]
  | @numbered digits _ unit =>
      have unitRun : readHexUnit (digits ++ rest) = .ok (character.toNat, rest) :=
        readHexUnit_eq_ok_iff.mpr ⟨digits, unit, rfl⟩
      rw [List.cons_append, readEscape_number, readNumbered, unitRun]
      simp only [bind, Except.bind, isLowSurrogate_eq_false_of_char,
        isHighSurrogate_eq_false_of_char, Bool.false_eq_true, ↓reduceIte, Char.ofNat_toNat]
      rfl
  | @paired highDigits lowDigits high low _ highUnit highFrom highTo lowUnit lowFrom lowTo value =>
      have highRun : readHexUnit (highDigits ++ 0x5C :: 0x75 :: (lowDigits ++ rest)) =
          .ok (high, 0x5C :: 0x75 :: (lowDigits ++ rest)) :=
        readHexUnit_eq_ok_iff.mpr ⟨highDigits, highUnit, rfl⟩
      have lowRun : readHexUnit (lowDigits ++ rest) = .ok (low, rest) :=
        readHexUnit_eq_ok_iff.mpr ⟨lowDigits, lowUnit, rfl⟩
      have highNotLow : isLowSurrogate high = false := by
        simp only [isLowSurrogate, Bool.and_eq_false_iff, decide_eq_false_iff_not]
        omega
      have isHigh : isHighSurrogate high = true := by
        simp only [isHighSurrogate, Bool.and_eq_true, decide_eq_true_eq]
        omega
      have isLow : isLowSurrogate low = true := by
        simp only [isLowSurrogate, Bool.and_eq_true, decide_eq_true_eq]
        omega
      have pair : fromSurrogates high low = character := by
        rw [fromSurrogates, ← value, Char.ofNat_toNat]
      rw [List.cons_append, List.append_assoc, List.cons_append, List.cons_append,
        readEscape_number, readNumbered, highRun]
      simp only [bind, Except.bind, highNotLow, isHigh, Bool.false_eq_true, ↓reduceIte,
        readLowSurrogate, lowRun, isLow, pure, Except.pure, pair]

/-! ## Bodies -/

inductive Spelling : List UInt8 → Char → Prop where
  | raw {character : Char} : 0x20 ≤ character.toNat → character ≠ '"' → character ≠ '\\' →
      Spelling (String.utf8EncodeChar character) character
  | escaped {piece : List UInt8} {character : Char} :
      Escape piece character → Spelling (0x5C :: piece) character

inductive Spelled : List UInt8 → List Char → Prop where
  | nil : Spelled [] []
  | cons {piece body : List UInt8} {character : Char} {characters : List Char} :
      Spelling piece character → Spelled body characters →
        Spelled (piece ++ body) (character :: characters)

/-- A body and its content as bytes, of which those outside of escapes may be anything but
controls. -/
inductive Pieces : List UInt8 → List UInt8 → Prop where
  | nil : Pieces [] []
  | raw {byte : UInt8} {body content : List UInt8} :
      ¬ byte < 0x20 → byte ≠ 0x22 → byte ≠ 0x5C → Pieces body content →
        Pieces (byte :: body) (byte :: content)
  | escaped {piece body content : List UInt8} {character : Char} :
      Escape piece character → Pieces body content →
        Pieces (0x5C :: (piece ++ body)) (String.utf8EncodeChar character ++ content)

theorem pieces_of_readContent {bytes content rest : List UInt8}
    (run : readContent bytes = .ok (content, rest)) :
    ∃ body, Pieces body content ∧ bytes = body ++ 0x22 :: rest := by
  fun_induction readContent bytes generalizing content with
  | case1 => cases run
  | case2 tail =>
      cases run
      exact ⟨[], .nil, rfl⟩
  | case3 tail fault escapeRun => cases run
  | case4 tail character after escapeRun ih =>
      obtain ⟨⟨others, behind⟩, othersRun, answer⟩ := bind_eq_ok run
      obtain ⟨rfl, rfl⟩ := Prod.mk.inj (Except.ok.inj answer)
      obtain ⟨body, pieces, rfl⟩ := ih othersRun
      obtain ⟨piece, form, rfl⟩ := escape_of_readEscape escapeRun
      exact ⟨0x5C :: (piece ++ body), .escaped form pieces, by simp⟩
  | case5 byte tail _ _ control => cases run
  | case6 byte tail notQuote notBackslash noControl ih =>
      obtain ⟨⟨others, behind⟩, othersRun, answer⟩ := bind_eq_ok run
      obtain ⟨rfl, rfl⟩ := Prod.mk.inj (Except.ok.inj answer)
      obtain ⟨body, pieces, rfl⟩ := ih othersRun
      exact ⟨byte :: body, .raw noControl notQuote notBackslash pieces, rfl⟩

theorem readContent_of_pieces {body content : List UInt8} (pieces : Pieces body content)
    (rest : List UInt8) : readContent (body ++ 0x22 :: rest) = .ok (content, rest) := by
  induction pieces with
  | nil => rw [List.nil_append, readContent]
  | raw noControl notQuote notBackslash _ ih =>
      rw [List.cons_append, readContent]
      · rw [if_neg noControl, ih]
        rfl
      · exact notQuote
      · exact notBackslash
  | @escaped piece body content character form _ ih =>
      have escapeRun := readEscape_of_escape form (body ++ 0x22 :: rest)
      rw [List.cons_append, List.append_assoc, readContent]
      split
      · next failed => rw [escapeRun] at failed; cases failed
      · next found =>
          rw [escapeRun] at found
          obtain ⟨rfl, rfl⟩ := Prod.mk.inj (Except.ok.inj found)
          rw [ih]
          rfl

/-- An escape stands for a whole character, so that bytes which continue a spelling are raw. -/
theorem Pieces.of_continues {tail : List UInt8} (continues : ∀ byte ∈ tail, Continues byte)
    {body content : List UInt8} (pieces : Pieces body (tail ++ content)) :
    ∃ others, Pieces others content ∧ body = tail ++ others := by
  induction tail generalizing body with
  | nil => exact ⟨body, pieces, rfl⟩
  | cons byte tail ih =>
      generalize shape : byte :: tail ++ content = whole at pieces
      cases pieces with
      | nil => cases shape
      | raw _ _ _ pieces =>
          obtain ⟨rfl, rfl⟩ := List.cons.inj shape
          obtain ⟨others, later, rfl⟩ :=
            ih (fun other member => continues other (List.mem_cons_of_mem _ member)) pieces
          exact ⟨others, later, rfl⟩
      | escaped =>
          exact absurd (continues byte List.mem_cons_self)
            (Utf8.not_continues_of_spelling shape.symm)

theorem raw_of_pieces {character : Char} {lead : UInt8} {tail body content : List UInt8}
    (shape : String.utf8EncodeChar character = lead :: tail) (noControl : ¬ lead < 0x20)
    (notQuote : lead ≠ 0x22) (notBackslash : lead ≠ 0x5C)
    (pieces : Pieces body (tail ++ content)) :
    Spelling (lead :: tail) character ∧
      ∃ others, Pieces others content ∧ body = tail ++ others := by
  rw [← shape]
  rcases Utf8.spelling_cases character with
    ⟨small, single⟩ | ⟨large, _, _, several, _, _, continues⟩
  · rw [shape] at single
    obtain ⟨rfl, rfl⟩ := List.cons.inj single
    refine ⟨.raw ?_ ?_ ?_, body, pieces, rfl⟩
    · simp only [UInt8.lt_iff_toNat_lt, UInt8.toNat_ofNat', UInt8.reduceToNat] at noControl
      omega
    · rintro rfl
      exact notQuote rfl
    · rintro rfl
      exact notBackslash rfl
  · rw [shape] at several
    obtain ⟨rfl, rfl⟩ := List.cons.inj several
    obtain ⟨others, later, rfl⟩ := Pieces.of_continues continues pieces
    refine ⟨.raw (by omega) ?_ ?_, others, later, rfl⟩
    · rintro rfl
      exact absurd large (by decide)
    · rintro rfl
      exact absurd large (by decide)

theorem spelled_of_pieces {characters : List Char} {body : List UInt8}
    (pieces : Pieces body (ofChars characters)) : Spelled body characters := by
  induction characters generalizing body with
  | nil =>
      generalize shape : ofChars [] = content at pieces
      cases pieces with
      | nil => exact .nil
      | raw => cases shape
      | escaped =>
          exact absurd (List.append_eq_nil_iff.mp shape.symm).1 String.utf8EncodeChar_ne_nil
  | cons character characters ih =>
      rw [ofChars_cons] at pieces
      generalize shape : String.utf8EncodeChar character ++ ofChars characters = content at pieces
      cases pieces with
      | nil => exact absurd (List.append_eq_nil_iff.mp shape).1 String.utf8EncodeChar_ne_nil
      | @escaped piece body content _ form pieces =>
          obtain ⟨rfl, rfl⟩ := Utf8.spelling_inj shape
          exact .cons (.escaped form) (ih pieces)
      | @raw byte body content noControl notQuote notBackslash pieces =>
          cases spelling : String.utf8EncodeChar character with
          | nil => exact absurd spelling String.utf8EncodeChar_ne_nil
          | cons lead tail =>
              rw [spelling, List.cons_append] at shape
              obtain ⟨rfl, rfl⟩ := List.cons.inj shape
              obtain ⟨raw, others, later, rfl⟩ :=
                raw_of_pieces spelling noControl notQuote notBackslash pieces
              exact .cons raw (ih later)

theorem Pieces.append_raw {bytes body content : List UInt8}
    (plain : ∀ byte ∈ bytes, ¬ byte < 0x20 ∧ byte ≠ 0x22 ∧ byte ≠ 0x5C)
    (pieces : Pieces body content) : Pieces (bytes ++ body) (bytes ++ content) := by
  induction bytes with
  | nil => exact pieces
  | cons byte bytes ih =>
      obtain ⟨noControl, notQuote, notBackslash⟩ := plain byte List.mem_cons_self
      exact .raw noControl notQuote notBackslash
        (ih fun other member => plain other (List.mem_cons_of_mem _ member))

theorem plain_of_raw {character : Char} (printable : 0x20 ≤ character.toNat)
    (notQuote : character ≠ '"') (notBackslash : character ≠ '\\') :
    ∀ byte ∈ String.utf8EncodeChar character,
      ¬ byte < 0x20 ∧ byte ≠ 0x22 ∧ byte ≠ 0x5C := by
  intro byte member
  rw [ne_eq, Char.toNat_inj.symm] at notQuote notBackslash
  simp only [UInt8.lt_iff_toNat_lt, ne_eq, ← UInt8.toNat_inj, UInt8.reduceToNat,
    Char.reduceToNat] at notQuote notBackslash ⊢
  rcases Utf8.mem_spelling_cases member with same | beyond
  · omega
  · simp only [UInt8.le_iff_toNat_le, UInt8.reduceToNat] at beyond
    omega

theorem pieces_of_spelled {body : List UInt8} {characters : List Char}
    (spelled : Spelled body characters) : Pieces body (ofChars characters) := by
  induction spelled with
  | nil => exact .nil
  | cons spelling _ ih =>
      rw [ofChars_cons]
      cases spelling with
      | raw printable notQuote notBackslash =>
          exact ih.append_raw (plain_of_raw printable notQuote notBackslash)
      | escaped form => exact .escaped form ih

/-- A literal is read exactly if its body spells a text. -/
theorem readLiteral_eq_ok_iff {bytes rest : List UInt8} {text : String} :
    readLiteral bytes = .ok (text, rest) ↔
      ∃ body, Spelled body text.toList ∧ bytes = body ++ 0x22 :: rest := by
  constructor
  · intro run
    obtain ⟨⟨content, after⟩, contentRun, answer⟩ := bind_eq_ok run
    obtain ⟨body, pieces, shape⟩ := pieces_of_readContent contentRun
    dsimp only at answer
    split at answer
    · next characters found =>
        obtain ⟨rfl, rfl⟩ := Prod.mk.inj (Except.ok.inj answer)
        rw [Utf8.split_eq_nil_iff.mp found] at pieces
        exact ⟨body, by rw [String.toList_ofList]; exact spelled_of_pieces pieces, shape⟩
    · cases answer
  · rintro ⟨body, spelled, rfl⟩
    have contentRun := readContent_of_pieces (pieces_of_spelled spelled) rest
    simp only [readLiteral, contentRun, bind, Except.bind, Utf8.split_ofChars,
      String.ofList_toList]
    rfl

/-- The form of a text in a payload. -/
def TextLiteral (bytes : List UInt8) (text : String) : Prop :=
  ∃ body, Spelled body text.toList ∧ bytes = 0x22 :: (body ++ [0x22])

theorem readLiteral_of_textLiteral {bytes : List UInt8} {text : String}
    (form : TextLiteral (0x22 :: bytes) text) (rest : List UInt8) :
    readLiteral (bytes ++ rest) = .ok (text, rest) := by
  obtain ⟨body, spelled, shape⟩ := form
  obtain ⟨-, rfl⟩ := List.cons.inj shape
  exact readLiteral_eq_ok_iff.mpr ⟨body, spelled, by rw [List.append_assoc]; rfl⟩

theorem textLiteral_of_readLiteral {bytes rest : List UInt8} {text : String}
    (run : readLiteral bytes = .ok (text, rest)) :
    ∃ body, TextLiteral (0x22 :: body) text ∧ bytes = body ++ rest := by
  obtain ⟨body, spelled, rfl⟩ := readLiteral_eq_ok_iff.mp run
  exact ⟨body ++ [0x22], ⟨body, spelled, rfl⟩, by rw [List.append_assoc]; rfl⟩

theorem TextLiteral.eq_cons {bytes : List UInt8} {text : String} (form : TextLiteral bytes text) :
    ∃ body, bytes = 0x22 :: body := by
  obtain ⟨body, _, rfl⟩ := form
  exact ⟨_, rfl⟩

/-! ## Literals that are passed over -/

/-- What may stand between the quotes of a literal that nobody asks for: the bytes need not be
UTF-8, and surrogates need not come in pairs. -/
inductive Unchecked : List UInt8 → Prop where
  | nil : Unchecked []
  | raw {byte : UInt8} {body : List UInt8} :
      ¬ byte < 0x20 → byte ≠ 0x22 → byte ≠ 0x5C → Unchecked body → Unchecked (byte :: body)
  | letter {letter : UInt8} {character : Char} {body : List UInt8} :
      (letter, character) ∈ escapes → Unchecked body → Unchecked (0x5C :: letter :: body)
  | numbered {digits body : List UInt8} {unit : Nat} :
      HexUnit digits unit → Unchecked body → Unchecked (0x5C :: 0x75 :: (digits ++ body))

theorem skipEscape_of_letter {letter : UInt8} {character : Char}
    (listed : (letter, character) ∈ escapes) (rest : List UInt8) :
    skipEscape (letter :: rest) = .ok rest := by
  rw [skipEscape, escaped?_eq_some_iff.mpr listed]
  rfl

theorem skipEscape_of_number {digits : List UInt8} {unit : Nat} (form : HexUnit digits unit)
    (rest : List UInt8) : skipEscape (0x75 :: (digits ++ rest)) = .ok rest := by
  have unitRun : readHexUnit (digits ++ rest) = .ok (unit, rest) :=
    readHexUnit_eq_ok_iff.mpr ⟨digits, form, rfl⟩
  have number : skipEscape (0x75 :: (digits ++ rest)) =
      readHexUnit (digits ++ rest) >>= fun read => pure read.2 := rfl
  rw [number, unitRun]
  rfl

theorem eq_of_skipEscape {bytes rest : List UInt8} (run : skipEscape bytes = .ok rest) :
    (∃ letter character, (letter, character) ∈ escapes ∧ bytes = letter :: rest) ∨
      ∃ digits unit, HexUnit digits unit ∧ bytes = 0x75 :: (digits ++ rest) := by
  cases bytes with
  | nil => cases run
  | cons letter tail =>
      simp only [skipEscape] at run
      split at run
      · next known =>
          cases run
          obtain ⟨character, found⟩ := Option.isSome_iff_exists.mp known
          exact Or.inl ⟨letter, character, escaped?_eq_some_iff.mp found, rfl⟩
      · split at run
        · next announces =>
            obtain ⟨⟨unit, after⟩, unitRun, answer⟩ := bind_eq_ok run
            obtain ⟨digits, form, rfl⟩ := readHexUnit_eq_ok_iff.mp unitRun
            cases answer
            exact Or.inr ⟨digits, unit, form, by rw [announces]; rfl⟩
        · cases run

theorem unchecked_of_skipLiteral {bytes rest : List UInt8} (run : skipLiteral bytes = .ok rest) :
    ∃ body, Unchecked body ∧ bytes = body ++ 0x22 :: rest := by
  fun_induction skipLiteral bytes with
  | case1 => cases run
  | case2 tail =>
      cases run
      exact ⟨[], .nil, rfl⟩
  | case3 tail fault escapeRun => cases run
  | case4 tail after escapeRun ih =>
      obtain ⟨body, form, rfl⟩ := ih run
      rcases eq_of_skipEscape escapeRun with
        ⟨letter, character, listed, rfl⟩ | ⟨digits, unit, number, rfl⟩
      · exact ⟨0x5C :: letter :: body, .letter listed form, rfl⟩
      · exact ⟨0x5C :: 0x75 :: (digits ++ body), .numbered number form, by simp⟩
  | case5 byte tail _ _ control => cases run
  | case6 byte tail notQuote notBackslash noControl ih =>
      obtain ⟨body, form, rfl⟩ := ih run
      exact ⟨byte :: body, .raw noControl notQuote notBackslash form, rfl⟩

theorem skipLiteral_escape {bytes after : List UInt8} (run : skipEscape bytes = .ok after) :
    skipLiteral (0x5C :: bytes) = skipLiteral after := by
  rw [skipLiteral]
  split
  · next failed => rw [run] at failed; cases failed
  · next found =>
      rw [run] at found
      cases found
      rfl

theorem skipLiteral_of_unchecked {body : List UInt8} (form : Unchecked body)
    (rest : List UInt8) : skipLiteral (body ++ 0x22 :: rest) = .ok rest := by
  induction form with
  | nil => rw [List.nil_append, skipLiteral]
  | raw noControl notQuote notBackslash _ ih =>
      rw [List.cons_append, skipLiteral]
      · rw [if_neg noControl, ih]
      · exact notQuote
      · exact notBackslash
  | letter listed _ ih =>
      rw [List.cons_append, List.cons_append,
        skipLiteral_escape (skipEscape_of_letter listed _), ih]
  | numbered number _ ih =>
      rw [List.cons_append, List.cons_append, List.append_assoc,
        skipLiteral_escape (skipEscape_of_number number _), ih]

/-! ## The spelling that is written -/

instance (byte : UInt8) (value : Nat) : Decidable (HexDigit byte value) :=
  inferInstanceAs (Decidable (_ ∨ _))

theorem hexDigit_digitChar : ∀ value < 16,
    String.utf8EncodeChar value.digitChar = [UInt8.ofNat value.digitChar.toNat] ∧
      HexDigit (UInt8.ofNat value.digitChar.toNat) value := by
  decide

theorem spelling_control {character : Char} (control : character.toNat < 0x20) :
    Spelling (ofChars ['\\', 'u', '0', '0', (character.toNat / 16).digitChar,
      (character.toNat % 16).digitChar]) character := by
  obtain ⟨highBytes, high⟩ := hexDigit_digitChar (character.toNat / 16) (by omega)
  obtain ⟨lowBytes, low⟩ := hexDigit_digitChar (character.toNat % 16) (by omega)
  have zero : HexDigit 0x30 0 := by decide
  have unit := HexUnit.digits zero zero high low
  have value : 0x1000 * 0 + 0x100 * 0 + 0x10 * (character.toNat / 16) + character.toNat % 16 =
      character.toNat := by omega
  rw [value] at unit
  have spelling := Spelling.escaped (Escape.numbered unit)
  simp only [ofChars, List.flatMap_cons, List.flatMap_nil, highBytes, lowBytes]
  exact spelling

theorem spelling_spelled (character : Char) :
    Spelling (ofChars (spelled character)) character := by
  unfold spelled
  split
  case h_8 =>
    next other notQuote notBackslash _ _ _ _ _ =>
      split
      · next control => exact spelling_control control
      · next printable =>
          rw [ofChars, List.flatMap_singleton]
          exact .raw (by omega) notQuote notBackslash
  all_goals exact .escaped (.letter (by decide))

theorem spelled_flatMap (characters : List Char) :
    Spelled (ofChars (characters.flatMap spelled)) characters := by
  induction characters with
  | nil => exact .nil
  | cons character characters ih =>
      rw [List.flatMap_cons, ofChars_append]
      exact .cons (spelling_spelled character) ih

theorem textLiteral_literal (text : String) : TextLiteral (ofChars (literal text)) text := by
  refine ⟨ofChars (text.toList.flatMap spelled), spelled_flatMap text.toList, ?_⟩
  rw [literal, ofChars_append, ofChars_cons]
  rfl

end EquiJoin.Json
