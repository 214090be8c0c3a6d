import EquiJoin.Utf8

/-!
# Reading back UTF-8

`split` gives back the characters that were written, and it gives characters for no other bytes:
`split_eq_nil_iff`.  No spelling of a character begins inside another one, so bytes that begin with
two spellings begin with the same character (`spelling_inj`).
-/

set_option autoImplicit false

namespace EquiJoin.Utf8

def ofChars (characters : List Char) : List UInt8 :=
  characters.flatMap String.utf8EncodeChar

theorem ofChars_cons (character : Char) (characters : List Char) :
    ofChars (character :: characters) = String.utf8EncodeChar character ++ ofChars characters :=
  List.flatMap_cons

theorem ofChars_append (front back : List Char) :
    ofChars (front ++ back) = ofChars front ++ ofChars back :=
  List.flatMap_append

/-- A byte that only stands behind the first byte of a spelling. -/
def Continues (byte : UInt8) : Prop := 0x80 ≤ byte ∧ byte < 0xC0

/-- A character below U+0080 is one byte.  Any other begins with a byte from `0xC0` on, and all
other bytes of it continue. -/
theorem spelling_cases (character : Char) :
    (character.toNat < 0x80 ∧
      String.utf8EncodeChar character = [UInt8.ofNat character.toNat]) ∨
    (0x80 ≤ character.toNat ∧ ∃ lead tail, String.utf8EncodeChar character = lead :: tail ∧
      0xC0 ≤ lead ∧ lead < 0xF8 ∧ ∀ byte ∈ tail, Continues byte) := by
  simp only [String.utf8EncodeChar, Char.toNat]
  split
  · exact Or.inl ⟨by omega, rfl⟩
  · refine Or.inr ⟨by omega, ?_⟩
    split
    · refine ⟨_, _, rfl, ?_⟩
      simp only [Continues, UInt8.le_iff_toNat_le, UInt8.lt_iff_toNat_lt, UInt8.toNat_ofNat',
        List.forall_mem_singleton, UInt8.reduceToNat]
      omega
    · split
      · refine ⟨_, _, rfl, ?_⟩
        simp only [Continues, UInt8.le_iff_toNat_le, UInt8.lt_iff_toNat_lt, UInt8.toNat_ofNat',
          List.forall_mem_cons, List.not_mem_nil, false_implies, implies_true, and_true,
          UInt8.reduceToNat]
        omega
      · refine ⟨_, _, rfl, ?_⟩
        simp only [Continues, UInt8.le_iff_toNat_le, UInt8.lt_iff_toNat_lt, UInt8.toNat_ofNat',
          List.forall_mem_cons, List.not_mem_nil, false_implies, implies_true, and_true,
          UInt8.reduceToNat]
        omega

theorem mem_spelling_cases {character : Char} {byte : UInt8}
    (member : byte ∈ String.utf8EncodeChar character) :
    byte.toNat = character.toNat ∨ 0x80 ≤ byte := by
  rcases spelling_cases character with
    ⟨small, spelling⟩ | ⟨_, lead, tail, spelling, high, _, continues⟩
  · rw [spelling, List.mem_singleton] at member
    left
    rw [member, UInt8.toNat_ofNat']
    omega
  · right
    rw [spelling] at member
    rcases List.mem_cons.mp member with rfl | later
    · exact UInt8.le_trans (by decide) high
    · exact (continues byte later).1

/-- The number of bytes is told by the first of them, and the bits make up the character. -/
theorem width_code (character : Char) : ∃ lead tail,
    String.utf8EncodeChar character = lead :: tail ∧ width lead = tail.length + 1 ∧
      code (lead :: tail) = character.toNat := by
  have bound : character.val.toNat < 0x110000 := by
    have valid := character.valid
    simp only [UInt32.isValidChar, Nat.isValidChar] at valid
    omega
  simp only [String.utf8EncodeChar, Char.toNat]
  split
  · refine ⟨_, _, rfl, ?_⟩
    simp only [width, code, leadBits, List.length_nil, List.foldl_nil, UInt8.lt_iff_toNat_lt,
      UInt8.toNat_ofNat', UInt8.reduceToNat]
    refine ⟨?_, by omega⟩
    rw [if_pos (by omega)]
  · split
    · refine ⟨_, _, rfl, ?_⟩
      simp only [width, code, leadBits, List.length_cons, List.length_nil, List.foldl_cons,
        List.foldl_nil, UInt8.lt_iff_toNat_lt, UInt8.toNat_ofNat', UInt8.reduceToNat]
      refine ⟨?_, by omega⟩
      rw [if_neg (by omega), if_pos (by omega)]
    · split
      · refine ⟨_, _, rfl, ?_⟩
        simp only [width, code, leadBits, List.length_cons, List.length_nil, List.foldl_cons,
          List.foldl_nil, UInt8.lt_iff_toNat_lt, UInt8.toNat_ofNat', UInt8.reduceToNat]
        refine ⟨?_, by omega⟩
        rw [if_neg (by omega), if_neg (by omega), if_pos (by omega)]
      · refine ⟨_, _, rfl, ?_⟩
        simp only [width, code, leadBits, List.length_cons, List.length_nil, List.foldl_cons,
          List.foldl_nil, UInt8.lt_iff_toNat_lt, UInt8.toNat_ofNat', UInt8.reduceToNat]
        refine ⟨?_, by omega⟩
        rw [if_neg (by omega), if_neg (by omega), if_neg (by omega)]

theorem next?_spelling (character : Char) (rest : List UInt8) :
    next? (String.utf8EncodeChar character ++ rest) = some (character, rest) := by
  obtain ⟨lead, tail, spelling, size, number⟩ := width_code character
  have front : (tail ++ rest).take (width lead - 1) = tail := by
    rw [size, Nat.add_sub_cancel, List.take_left]
  have back : (tail ++ rest).drop (width lead - 1) = rest := by
    rw [size, Nat.add_sub_cancel, List.drop_left]
  rw [spelling, List.cons_append, next?, front, back, number, Char.ofNat_toNat, spelling]
  exact if_pos rfl

theorem eq_of_next? {bytes rest : List UInt8} {character : Char}
    (found : next? bytes = some (character, rest)) :
    bytes = String.utf8EncodeChar character ++ rest := by
  cases bytes with
  | nil => cases found
  | cons lead tail =>
      simp only [next?] at found
      split at found
      · next same =>
          obtain ⟨rfl, rfl⟩ := Prod.mk.inj (Option.some.inj found)
          rw [same, List.cons_append, List.take_append_drop]
      · cases found

theorem spelling_inj {first second : Char} {front back : List UInt8}
    (same : String.utf8EncodeChar first ++ front = String.utf8EncodeChar second ++ back) :
    first = second ∧ front = back := by
  have found := next?_spelling first front
  rw [same, next?_spelling] at found
  obtain ⟨rfl, rfl⟩ := Prod.mk.inj (Option.some.inj found)
  exact ⟨rfl, rfl⟩

theorem not_continues_of_spelling {character : Char} {byte : UInt8} {rest bytes : List UInt8}
    (shape : String.utf8EncodeChar character ++ rest = byte :: bytes) : ¬ Continues byte := by
  rcases spelling_cases character with ⟨small, spelling⟩ | ⟨_, lead, tail, spelling, high, _, _⟩
  · rw [spelling] at shape
    obtain ⟨rfl, -⟩ := List.cons.inj shape
    simp only [Continues, UInt8.le_iff_toNat_le, UInt8.toNat_ofNat', UInt8.reduceToNat, not_and]
    omega
  · rw [spelling] at shape
    obtain ⟨rfl, -⟩ := List.cons.inj shape
    exact fun continues => absurd continues.2 (UInt8.not_lt.mpr high)

theorem split_nil : split [] = ([], []) := by
  rw [split]
  rfl

theorem split_ofChars (characters : List Char) : split (ofChars characters) = (characters, []) := by
  induction characters with
  | nil => exact split_nil
  | cons character characters ih =>
      rw [ofChars_cons, split]
      split
      · next missing => rw [next?_spelling] at missing; cases missing
      · next found =>
          rw [next?_spelling] at found
          obtain ⟨rfl, rfl⟩ := Prod.mk.inj (Option.some.inj found)
          rw [ih]

theorem eq_of_split {bytes unread : List UInt8} {characters : List Char}
    (run : split bytes = (characters, unread)) : bytes = ofChars characters ++ unread := by
  fun_induction split bytes generalizing characters with
  | case1 bytes missing =>
      obtain ⟨rfl, rfl⟩ := Prod.mk.inj run
      rfl
  | case2 bytes character rest found others behind restRun ih =>
      obtain ⟨rfl, rfl⟩ := Prod.mk.inj run
      rw [eq_of_next? found, ih restRun, ofChars_cons, List.append_assoc]

theorem split_eq_nil_iff {bytes : List UInt8} {characters : List Char} :
    split bytes = (characters, []) ↔ bytes = ofChars characters := by
  constructor
  · intro run
    rw [eq_of_split run, List.append_nil]
  · rintro rfl
    exact split_ofChars characters

theorem encode_eq_toUTF8 (text : String) : encode text = text.toUTF8.data.toList := by
  rw [String.toUTF8_eq_toByteArray, ← String.utf8Encode_toList, List.utf8Encode, encode,
    List.toList_data_toByteArray]

end EquiJoin.Utf8
