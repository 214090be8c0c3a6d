import EquiJoin.Proofs.Json.Record

/-!
# Where faults lie

A fault counts the bytes that are still unread where it is reported.  No reader ever reports one in
front of the bytes that it was given (`Located`), so that every fault of a payload has its place
among the bytes of the payload.  The faults that are raised behind bytes already read, such as a
number out of range or a text that is not UTF-8, need the length of what was read before them.
-/

set_option autoImplicit false

namespace EquiJoin.Json

/-- A fault of reading the bytes lies among them: it leaves no more unread than there are. -/
def Located {α : Type} (bytes : List UInt8) : Except Fault α → Prop
  | .error fault => fault.unread ≤ bytes.length
  | .ok _ => True

section Outcomes

variable {α β : Type} {bytes rest : List UInt8} {cause : Cause}

theorem located_ok (bytes : List UInt8) (value : α) : Located bytes (.ok value) := trivial

theorem located_before (shorter : rest.length ≤ bytes.length) :
    Located bytes (.error (.before cause rest) : Except Fault α) :=
  shorter

theorem located_behind (shorter : rest.length ≤ bytes.length) :
    Located bytes (.error (.behind cause rest) : Except Fault α) := by
  have tail : rest.tail.length ≤ rest.length := by
    rw [List.length_tail]
    exact Nat.sub_le _ _
  exact Nat.le_trans tail shorter

theorem Located.of_length_le {outcome : Except Fault α} (located : Located rest outcome)
    (shorter : rest.length ≤ bytes.length) : Located bytes outcome := by
  cases outcome with
  | error fault => exact Nat.le_trans located shorter
  | ok value => trivial

theorem Located.bind {first : Except Fault α} {next : α → Except Fault β}
    (located : Located bytes first)
    (onward : ∀ value, first = .ok value → Located bytes (next value)) :
    Located bytes (first >>= next) := by
  cases first with
  | error fault => exact located
  | ok value => exact onward value rfl

end Outcomes

/-! ## Literals and numbers -/

theorem located_readHexUnit (bytes : List UInt8) : Located bytes (readHexUnit bytes) := by
  unfold readHexUnit
  split
  · exact located_before (Nat.zero_le _)
  · split
    · apply located_before
      rw [List.length_drop]
      exact Nat.sub_le _ _
    · exact located_ok _ _

theorem located_readLowSurrogate (bytes : List UInt8) :
    Located bytes (readLowSurrogate bytes) := by
  unfold readLowSurrogate
  split
  · next rest =>
      have inner : rest.length ≤ (0x5C :: 0x75 :: rest : List UInt8).length :=
        Nat.le_add_right _ 2
      refine ((located_readHexUnit rest).of_length_le inner).bind ?_
      rintro ⟨unit, after⟩ run
      have shorter := readHexUnit_length run
      dsimp only
      split
      · exact located_ok _ _
      · exact located_before (by omega)
  · exact located_before (Nat.zero_le _)
  · exact located_before (Nat.zero_le _)
  · exact located_behind (Nat.le_succ _)
  · exact located_before (Nat.le_succ _)

theorem located_readNumbered (bytes : List UInt8) : Located bytes (readNumbered bytes) := by
  refine (located_readHexUnit bytes).bind ?_
  rintro ⟨unit, after⟩ run
  have shorter := readHexUnit_length run
  dsimp only
  split
  · exact located_before (by omega)
  · split
    · refine ((located_readLowSurrogate after).of_length_le (by omega)).bind ?_
      intro low _
      exact located_ok _ _
    · exact located_ok _ _

theorem located_readEscape (bytes : List UInt8) : Located bytes (readEscape bytes) := by
  cases bytes with
  | nil => exact located_before (Nat.zero_le _)
  | cons letter rest =>
      rw [readEscape]
      split
      · exact located_ok _ _
      · split
        · exact (located_readNumbered rest).of_length_le (Nat.le_succ _)
        · exact located_before (Nat.le_succ _)

theorem located_readContent (bytes : List UInt8) : Located bytes (readContent bytes) := by
  fun_induction readContent bytes with
  | case1 => exact located_before (Nat.zero_le _)
  | case2 rest => exact located_ok _ _
  | case3 rest fault escapeRun =>
      have located := located_readEscape rest
      rw [escapeRun] at located
      exact located.of_length_le (Nat.le_succ _)
  | case4 tail character after escapeRun ih =>
      have shorter := readEscape_length escapeRun
      refine (ih.of_length_le ?_).bind fun _ _ => located_ok _ _
      simp only [List.length_cons]
      omega
  | case5 byte tail _ _ control => exact located_before (Nat.le_succ _)
  | case6 byte tail _ _ _ ih =>
      exact (ih.of_length_le (Nat.le_succ _)).bind fun _ _ => located_ok _ _

theorem Escape.length_le {piece : List UInt8} {character : Char} (form : Escape piece character) :
    (String.utf8EncodeChar character).length ≤ piece.length + 1 := by
  have four : (String.utf8EncodeChar character).length ≤ 4 := by
    rw [String.length_utf8EncodeChar]
    exact character.utf8Size_le_four
  cases form with
  | letter listed =>
      have single : ∀ entry ∈ escapes, (String.utf8EncodeChar entry.2).length = 1 := by decide
      rw [single _ listed]
      exact Nat.le_add_left _ _
  | numbered unit =>
      rw [List.length_cons, unit.length]
      omega
  | paired highUnit =>
      rw [List.length_cons, List.length_append, highUnit.length]
      omega

theorem Pieces.length_le {body content : List UInt8} (pieces : Pieces body content) :
    content.length ≤ body.length := by
  induction pieces with
  | nil => exact Nat.le_refl _
  | raw _ _ _ _ ih => exact Nat.succ_le_succ ih
  | escaped form _ ih =>
      have escape := form.length_le
      simp only [List.length_cons, List.length_append]
      omega

theorem located_readLiteral (bytes : List UInt8) : Located bytes (readLiteral bytes) := by
  refine (located_readContent bytes).bind ?_
  rintro ⟨content, rest⟩ run
  obtain ⟨body, pieces, rfl⟩ := pieces_of_readContent run
  dsimp only
  split
  · exact located_ok _ _
  · next unread _ found =>
      -- The bytes that are no UTF-8 are counted back from the end of the content.
      have part := congrArg List.length (Utf8.eq_of_split found)
      have whole := pieces.length_le
      change rest.length + unread.length ≤ _
      simp only [List.length_append, List.length_cons] at part ⊢
      omega

theorem located_skipEscape (bytes : List UInt8) : Located bytes (skipEscape bytes) := by
  cases bytes with
  | nil => exact located_before (Nat.zero_le _)
  | cons letter rest =>
      rw [skipEscape]
      split
      · exact located_ok _ _
      · split
        · exact ((located_readHexUnit rest).of_length_le (Nat.le_succ _)).bind
            fun _ _ => located_ok _ _
        · exact located_before (Nat.le_succ _)

theorem located_skipLiteral (bytes : List UInt8) : Located bytes (skipLiteral bytes) := by
  fun_induction skipLiteral bytes with
  | case1 => exact located_before (Nat.zero_le _)
  | case2 rest => exact located_ok _ _
  | case3 tail fault escapeRun =>
      have located := located_skipEscape tail
      rw [escapeRun] at located
      exact located.of_length_le (Nat.le_succ _)
  | case4 tail after escapeRun ih =>
      have shorter := skipEscape_length escapeRun
      apply ih.of_length_le
      simp only [List.length_cons]
      omega
  | case5 byte tail _ _ control => exact located_before (Nat.le_refl _)
  | case6 byte tail _ _ _ ih => exact ih.of_length_le (Nat.le_succ _)

theorem located_scanWhole (bytes : List UInt8) : Located bytes (scanWhole bytes) := by
  cases bytes with
  | nil => exact located_before (Nat.zero_le _)
  | cons byte rest =>
      rw [scanWhole]
      split
      · split
        · exact located_behind (Nat.le_succ _)
        · exact located_ok _ _
      · split
        · exact located_ok _ _
        · exact located_before (Nat.le_succ _)

theorem located_scanDecimals (bytes : List UInt8) : Located bytes (scanDecimals bytes) := by
  unfold scanDecimals
  split
  · split
    · exact located_ok _ _
    · exact located_behind (Nat.le_succ _)
  · exact located_ok _ _

theorem located_scanExponent (bytes : List UInt8) : Located bytes (scanExponent bytes) := by
  cases bytes with
  | nil => exact located_ok _ _
  | cons letter rest =>
      rw [scanExponent]
      split
      · dsimp only
        split
        · exact located_ok _ _
        · exact located_behind (Nat.le_succ_of_le (scanSign_length rest))
      · exact located_ok _ _

theorem Numeral.located_scanUnsigned (negative : Bool) (bytes : List UInt8) :
    Located bytes (scanUnsigned negative bytes) := by
  refine (located_scanWhole bytes).bind ?_
  rintro ⟨whole, afterWhole⟩ wholeRun
  have wholeShorter := scanWhole_length wholeRun
  refine ((located_scanDecimals afterWhole).of_length_le (by omega)).bind ?_
  rintro ⟨decimals, afterDecimals⟩ decimalsRun
  have decimalsShorter := scanDecimals_length decimalsRun
  refine ((located_scanExponent afterDecimals).of_length_le (by omega)).bind ?_
  intro exponent _
  exact located_ok _ _

theorem Numeral.located_scan (bytes : List UInt8) : Located bytes (scan bytes) := by
  unfold scan
  split
  · exact (located_scanUnsigned true _).of_length_le (Nat.le_succ _)
  · exact located_scanUnsigned false _

theorem gather_length_le (limit number : Nat) (digits : List UInt8) :
    (gather limit number digits).2.length ≤ digits.length := by
  induction digits generalizing number with
  | nil => exact Nat.le_refl _
  | cons digit digits ih =>
      simp only [gather]
      split
      · exact Nat.le_succ_of_le (ih _)
      · exact Nat.le_refl _

theorem NumeralText.exponent_length_le {text : List UInt8} {numeral : Numeral}
    (form : NumeralText text numeral) :
    ∀ exponent ∈ numeral.exponent, exponent.digits.length ≤ text.length := by
  rintro exponent member
  cases form with
  | parts negative _ _ exponentForm =>
      cases exponentForm with
      | absent => cases member
      | present =>
          cases member
          simp only [List.length_append, List.length_cons]
          omega

theorem Numeral.located_value {numeral : Numeral} {bytes rest : List UInt8}
    (shorter : rest.length ≤ bytes.length)
    (exponents : ∀ exponent ∈ numeral.exponent,
      exponent.digits.length + rest.length ≤ bytes.length) :
    Located bytes (numeral.value rest) := by
  unfold value
  dsimp only
  split
  · exact located_ok _ _
  · split
    · split
      · exact located_before shorter
      · exact located_ok _ _
    · next exponent found =>
        split
        · split
          · exact located_before shorter
          · exact located_ok _ _
        · next digit later gathered =>
            have left := gather_length_le (Nat.pow 2 31) 0 exponent.digits
            have room := exponents exponent found
            rw [gathered, List.length_cons] at left
            split
            · apply located_before
              rw [List.length_append]
              omega
            · exact located_ok _ _

theorem located_readNumber (bytes : List UInt8) : Located bytes (readNumber bytes) := by
  refine (Numeral.located_scan bytes).bind ?_
  rintro ⟨numeral, rest⟩ run
  obtain ⟨text, form, rfl⟩ := numeralText_of_scan run
  have digits := form.exponent_length_le
  refine Located.bind (Numeral.located_value ?_ ?_) fun _ _ => located_ok _ _
  · rw [List.length_append]
    exact Nat.le_add_left _ _
  · intro exponent member
    have few := digits exponent member
    rw [List.length_append]
    omega

theorem located_skipNumber (bytes : List UInt8) : Located bytes (skipNumber bytes) := by
  have located := Numeral.located_scan bytes
  unfold skipNumber
  split
  · exact located_ok _ _
  · next failed =>
      rw [failed] at located
      exact located

/-! ## Tokens and values -/

theorem located_readLetters (letters bytes : List UInt8) :
    Located bytes (readLetters letters bytes) := by
  induction letters generalizing bytes with
  | nil => exact located_ok _ _
  | cons letter letters ih =>
      cases bytes with
      | nil => exact located_before (Nat.zero_le _)
      | cons byte rest =>
          rw [readLetters]
          split
          · exact (ih rest).of_length_le (Nat.le_succ _)
          · exact located_before (Nat.le_succ _)

/-- The fault lies among the bytes, whether it came up while they were read or afterwards. -/
def Settled (bytes : List UInt8) : Except Fault Fault → Prop
  | .ok fault | .error fault => fault.unread ≤ bytes.length

theorem Located.settled {α : Type} {bytes : List UInt8} {run : Except Fault α} {wrong : α → Fault}
    (located : Located bytes run)
    (refused : ∀ value, run = .ok value → (wrong value).unread ≤ bytes.length) :
    Settled bytes (run.map wrong) := by
  cases run with
  | error fault => exact located
  | ok value => exact refused value rfl

theorem misfit_unread_le (expected : Expected) (bytes : List UInt8) :
    (misfit expected bytes).unread ≤ bytes.length := by
  have unread : ∀ {outcome : Except Fault Fault}, Settled bytes outcome →
      (match outcome with
        | .ok fault => fault
        | .error fault => fault).unread ≤ bytes.length := by
    rintro (fault | fault) settled
    · exact settled
    · exact settled
  refine unread ?_
  split
  case h_1 => exact located_behind (α := Fault) (Nat.zero_le _)
  case h_2 | h_3 | h_4 =>
    refine ((located_readLetters _ _).of_length_le (Nat.le_succ _)).settled ?_
    intro after run
    exact Nat.le_succ_of_le (readLetters_length run)
  case h_5 =>
    refine ((located_readLiteral _).of_length_le (Nat.le_succ _)).settled ?_
    rintro ⟨text, after⟩ run
    exact Nat.le_succ_of_le (Nat.le_of_lt (readLiteral_length run))
  case h_6 | h_7 => exact Nat.le_refl _
  case h_8 =>
    split
    · refine (located_readNumber _).settled ?_
      rintro ⟨number, after⟩ run
      exact Nat.le_of_lt (readNumber_length run)
    · exact located_behind (α := Fault) (Nat.le_refl _)

theorem located_misfit {α : Type} (expected : Expected) {bytes rest : List UInt8}
    (shorter : rest.length ≤ bytes.length) :
    Located bytes (.error (misfit expected rest) : Except Fault α) :=
  Nat.le_trans (misfit_unread_le expected rest) shorter

theorem located_readColon (bytes : List UInt8) : Located bytes (readColon bytes) := by
  have blanks := skipBlanks_length bytes
  unfold readColon
  split
  · exact located_behind (Nat.zero_le _)
  · exact located_ok _ _
  · exact located_behind blanks

theorem located_listTurn (first : Bool) (bytes : List UInt8) :
    Located bytes (listTurn first bytes) := by
  have blanks := skipBlanks_length bytes
  unfold listTurn
  split
  · exact located_behind (Nat.zero_le _)
  · exact located_ok _ _
  · next byte rest _ found =>
      rw [found, List.length_cons] at blanks
      have moreBlanks := skipBlanks_length rest
      split
      · exact located_ok _ _
      · split
        · split
          · exact located_behind (Nat.zero_le _)
          · next behind =>
              rw [behind, List.length_cons] at moreBlanks
              exact located_before (by omega)
          · exact located_ok _ _
        · exact located_before (by omega)

theorem located_objectTurn (first : Bool) (bytes : List UInt8) :
    Located bytes (objectTurn first bytes) := by
  have blanks := skipBlanks_length bytes
  unfold objectTurn
  split
  · exact located_behind (Nat.zero_le _)
  · exact located_ok _ _
  · next byte rest _ found =>
      rw [found, List.length_cons] at blanks
      have moreBlanks := skipBlanks_length rest
      split
      · split
        · exact located_ok _ _
        · exact located_before (by omega)
      · split
        · split
          · exact located_behind (Nat.zero_le _)
          · next behind =>
              rw [behind, List.length_cons] at moreBlanks
              exact located_before (by omega)
          · exact located_ok _ _
          · exact located_behind (by omega)
        · exact located_before (by omega)

theorem located_closeList (bytes : List UInt8) : Located bytes (closeList bytes) := by
  have blanks := skipBlanks_length bytes
  unfold closeList
  split
  · exact located_behind (Nat.zero_le _)
  · exact located_ok _ _
  · next rest found =>
      rw [found, List.length_cons] at blanks
      have moreBlanks := skipBlanks_length rest
      split
      · next behind =>
          rw [behind, List.length_cons] at moreBlanks
          exact located_before (by omega)
      · exact located_behind (by omega)
  · exact located_behind blanks

/-- Whatever the reader is given, a fault of it lies there. -/
def Reader.Locates {α : Type} (reader : Reader α) : Prop :=
  ∀ bytes, Located bytes (reader.read bytes)

theorem locates_text : Reader.text.Locates := by
  intro bytes
  have blanks := skipBlanks_length bytes
  change Located bytes (readText bytes)
  unfold readText
  split
  · next rest found =>
      rw [found, List.length_cons] at blanks
      exact (located_readLiteral rest).of_length_le (by omega)
  · exact located_misfit .text blanks

theorem locates_flag : Reader.flag.Locates := by
  intro bytes
  have blanks := skipBlanks_length bytes
  change Located bytes (readFlag bytes)
  unfold readFlag
  split
  case h_1 | h_2 =>
    next rest found =>
      rw [found, List.length_cons] at blanks
      exact ((located_readLetters _ rest).of_length_le (by omega)).bind fun _ _ => located_ok _ _
  case h_3 => exact located_misfit .flag blanks

theorem located_ordinalOf (number : Number) {bytes rest : List UInt8}
    (shorter : rest.length ≤ bytes.length) : Located bytes (ordinalOf number rest) := by
  unfold ordinalOf
  split
  · split
    · exact located_ok _ _
    · exact located_before shorter
  · exact located_before shorter

theorem locates_ordinal : Reader.ordinal.Locates := by
  intro bytes
  have blanks := skipBlanks_length bytes
  change Located bytes (readOrdinal bytes)
  unfold readOrdinal
  dsimp only
  split
  · refine ((located_readNumber _).of_length_le blanks).bind ?_
    rintro ⟨number, rest⟩ run
    have shorter := readNumber_length run
    exact located_ordinalOf number (Nat.le_trans (Nat.le_of_lt shorter) blanks)
  · exact located_misfit .ordinal blanks

theorem located_readNull (bytes : List UInt8) : Located bytes (readNull bytes) := by
  have blanks := skipBlanks_length bytes
  unfold readNull
  split
  · next rest found =>
      rw [found, List.length_cons] at blanks
      exact (located_readLetters _ rest).of_length_le (by omega)
  · exact located_misfit .null blanks

theorem located_readItems {α : Type} {item : Reader α} (locates : item.Locates) (first : Bool)
    (bytes : List UInt8) : Located bytes (readItems item first bytes) := by
  fun_induction readItems item first bytes with
  | case1 first bytes fault turn =>
      have located := located_listTurn first bytes
      rwa [turn] at located
  | case2 => exact located_ok _ _
  | case3 first bytes entry turn fault itemRun =>
      have located := locates entry
      rw [itemRun] at located
      exact located.of_length_le (listTurn_length turn)
  | case4 first bytes entry turn value after itemRun ih =>
      have entryShorter : entry.length ≤ bytes.length := listTurn_length turn
      have itemShorter := item.shortens itemRun
      exact (ih.of_length_le (by omega)).bind fun _ _ => located_ok _ _

theorem locates_list {α : Type} {item : Reader α} (locates : item.Locates) :
    (Reader.list item).Locates := by
  intro bytes
  have blanks := skipBlanks_length bytes
  change Located bytes (readList item bytes)
  unfold readList
  split
  · next rest found =>
      rw [found, List.length_cons] at blanks
      exact (located_readItems locates true rest).of_length_le (by omega)
  · exact located_misfit .list blanks

section Names

variable (α : Type) [Named α]

theorem located_readName (bytes : List UInt8) : Located bytes (readName α bytes) := by
  refine (located_readLiteral bytes).bind ?_
  rintro ⟨name, rest⟩ run
  have shorter := readLiteral_length run
  dsimp only
  split
  · exact located_ok _ _
  · exact located_before (by omega)

theorem located_readOnlyKey (bytes : List UInt8) : Located bytes (readOnlyKey α bytes) := by
  have blanks := skipBlanks_length bytes
  unfold readOnlyKey
  split
  · exact located_behind (Nat.zero_le _)
  · next found =>
      rw [found, List.length_cons] at blanks
      exact located_before (by omega)
  · next rest found =>
      rw [found, List.length_cons] at blanks
      refine ((located_readName α rest).of_length_le (by omega)).bind ?_
      rintro ⟨value, afterName⟩ nameRun
      have nameShorter := readName_length nameRun
      refine ((located_readColon afterName).of_length_le (by omega)).bind ?_
      intro afterColon colonRun
      have colonShorter := readColon_length colonRun
      refine ((located_readNull afterColon).of_length_le (by omega)).bind ?_
      intro afterNull nullRun
      have nullShorter := readNull_length nullRun
      have moreBlanks := skipBlanks_length afterNull
      split
      · exact located_before (Nat.zero_le _)
      · exact located_ok _ _
      · exact located_before (by omega)
  · next found =>
      rw [found, List.length_cons] at blanks
      exact located_before (by omega)

theorem locates_named : (Named.wire α).reader.Locates := by
  intro bytes
  have blanks := skipBlanks_length bytes
  change Located bytes (readNamed α bytes)
  unfold readNamed
  split
  · next rest found =>
      rw [found, List.length_cons] at blanks
      exact (located_readName α rest).of_length_le (by omega)
  · next rest found =>
      rw [found, List.length_cons] at blanks
      exact (located_readOnlyKey α rest).of_length_le (by omega)
  · exact located_behind (Nat.zero_le _)
  · next found =>
      rw [found, List.length_cons] at blanks
      exact located_before (by omega)

end Names

theorem located_skipScalar (bytes : List UInt8) : Located bytes (skipScalar bytes) := by
  unfold skipScalar
  split
  case h_1 => exact located_behind (Nat.zero_le _)
  case h_2 | h_3 | h_4 => exact (located_readLetters _ _).of_length_le (Nat.le_succ _)
  case h_5 => exact (located_skipLiteral _).of_length_le (Nat.le_succ _)
  case h_6 =>
    split
    · exact located_skipNumber _
    · exact located_behind (Nat.le_refl _)

theorem located_skipKey (bytes : List UInt8) : Located bytes (skipKey bytes) := by
  have blanks := skipBlanks_length bytes
  unfold skipKey
  split
  · exact located_behind (Nat.zero_le _)
  · next rest found =>
      rw [found, List.length_cons] at blanks
      refine ((located_skipLiteral rest).of_length_le (by omega)).bind ?_
      intro after run
      have shorter := skipLiteral_length run
      exact (located_readColon after).of_length_le (by omega)
  · exact located_behind blanks

theorem Bracket.located_skipToValue (bracket : Bracket) (bytes : List UInt8) :
    Located bytes (bracket.skipToValue bytes) := by
  cases bracket with
  | list => exact located_ok _ _
  | object => exact located_skipKey bytes

theorem Skips.located {ahead : Ahead} {bytes : List UInt8} {result : Except Fault (List UInt8)}
    (skips : Skips ahead bytes result) : Located bytes result := by
  induction skips with
  | @nested bracket outer bytes rest result found _ ih
  | @close bracket outer first bytes rest result found _ ih =>
      have blanks := skipBlanks_length bytes
      rw [found, List.length_cons] at blanks
      exact ih.of_length_le (by omega)
  | @scalarFault outer bytes fault failed =>
      have located := located_skipScalar (skipBlanks bytes)
      rw [failed] at located
      exact located.of_length_le (skipBlanks_length bytes)
  | @scalar outer bytes rest result run _ ih =>
      have blanks := skipBlanks_length bytes
      have shorter := skipScalar_length run
      exact ih.of_length_le (by omega)
  | outside => exact located_ok _ _
  | inside _ ih => exact ih
  | unclosed => exact located_behind (Nat.zero_le _)
  | @entryFault bracket outer first bytes entry fault next failed =>
      have located := bracket.located_skipToValue entry
      rw [failed] at located
      exact located.of_length_le next.length_le
  | entry next run _ ih =>
      have shorter := Bracket.skipToValue_length run
      exact ih.of_length_le (Nat.le_trans shorter next.length_le)
  | @uncontinued bracket outer bytes rest byte found =>
      have blanks := skipBlanks_length bytes
      rw [found, List.length_cons] at blanks
      exact located_before (by omega)

theorem located_skipValue (outer : List Bracket) (bytes : List UInt8) :
    Located bytes (skipValue outer bytes) :=
  (skips (.value outer) bytes).located

namespace RecordFormat

theorem abandonObject_length (bytes : List UInt8) :
    (abandonObject bytes).length ≤ bytes.length := by
  have blanks := skipBlanks_length bytes
  unfold abandonObject
  split
  · next rest found =>
      rw [found, List.length_cons] at blanks
      omega
  · exact blanks

variable {Member : Type} {Value : Member → Type} {ρ : Type} [DecidableEq Member]
  {format : RecordFormat Value ρ}

theorem located_readMember (locates : ∀ member, (format.wire member).reader.Locates)
    (draft : Draft Value) (bytes : List UInt8) :
    Located bytes (format.readMember draft bytes) := by
  refine (located_readLiteral bytes).bind ?_
  rintro ⟨key, afterKey⟩ keyRun
  have keyShorter := readLiteral_length keyRun
  dsimp only
  split
  · refine ((located_readColon afterKey).of_length_le (by omega)).bind ?_
    intro afterColon colonRun
    have colonShorter := readColon_length colonRun
    refine ((located_skipValue [] afterColon).of_length_le (by omega)).bind ?_
    intro afterValue _
    exact located_ok _ _
  · split
    · have given := abandonObject_length afterKey
      exact located_before (by omega)
    · refine ((located_readColon afterKey).of_length_le (by omega)).bind ?_
      intro afterColon colonRun
      have colonShorter := readColon_length colonRun
      refine ((locates _ afterColon).of_length_le (by omega)).bind ?_
      intro read _
      exact located_ok _ _

theorem located_readMembers (locates : ∀ member, (format.wire member).reader.Locates)
    (draft : Draft Value) (first : Bool) (bytes : List UInt8) :
    Located bytes (format.readMembers draft first bytes) := by
  fun_induction readMembers format draft first bytes with
  | case1 draft first bytes fault turn =>
      have located := located_objectTurn first bytes
      rwa [turn] at located
  | case2 => exact located_ok _ _
  | case3 draft first bytes entry turn fault memberRun =>
      have located := located_readMember locates draft entry
      have shorter := objectTurn_length turn
      rw [memberRun] at located
      exact located.of_length_le (Nat.le_of_lt shorter)
  | case4 draft first bytes entry turn next after memberRun ih =>
      have turnShorter : entry.length < bytes.length := objectTurn_length turn
      have memberShorter := readMember_length memberRun
      exact ih.of_length_le (by omega)

theorem located_readObject (locates : ∀ member, (format.wire member).reader.Locates)
    (bytes : List UInt8) : Located bytes (format.readObject bytes) := by
  refine (located_readMembers locates .empty true bytes).bind ?_
  rintro ⟨draft, rest⟩ run
  have shorter := readMembers_length run
  dsimp only
  split
  · exact located_before (Nat.le_of_lt shorter)
  · exact located_ok _ _

theorem located_readValues (locates : ∀ member, (format.wire member).reader.Locates)
    (members : List Member) (count : Nat) (bytes : List UInt8) :
    Located bytes (format.readValues members count bytes) := by
  induction members generalizing count bytes with
  | nil => exact located_ok _ _
  | cons member members ih =>
      refine (located_listTurn (count == 0) bytes).bind ?_
      intro turn turnRun
      have turnShorter := listTurn_length turnRun
      cases turn with
      | closed rest => exact located_before turnShorter
      | entry entry =>
          have entryShorter : entry.length ≤ bytes.length := turnShorter
          refine ((locates member entry).of_length_le entryShorter).bind ?_
          rintro ⟨value, afterValue⟩ valueRun
          have valueShorter := (format.wire member).reader.shortens valueRun
          refine ((ih (count + 1) afterValue).of_length_le (by omega)).bind ?_
          intro others _
          exact located_ok _ _

theorem located_readPositional (locates : ∀ member, (format.wire member).reader.Locates)
    (bytes : List UInt8) : Located bytes (format.readPositional bytes) := by
  refine (located_readValues locates format.members 0 bytes).bind ?_
  rintro ⟨values, afterValues⟩ valuesRun
  have shorter := readValues_length valuesRun
  refine ((located_closeList afterValues).of_length_le shorter).bind ?_
  intro rest _
  exact located_ok _ _

theorem locates_record (locates : ∀ member, (format.wire member).reader.Locates) :
    format.toWire.reader.Locates := by
  intro bytes
  have blanks := skipBlanks_length bytes
  change Located bytes (format.read bytes)
  unfold read
  split
  · next rest found =>
      rw [found, List.length_cons] at blanks
      exact (located_readObject locates rest).of_length_le (by omega)
  · next rest found =>
      rw [found, List.length_cons] at blanks
      exact (located_readPositional locates rest).of_length_le (by omega)
  · exact located_misfit (.record format.name) blanks

end RecordFormat

theorem located_readWhole {α : Type} {reader : Reader α} (locates : reader.Locates)
    (payload : List UInt8) : Located payload (readWhole reader payload) := by
  refine (locates payload).bind ?_
  rintro ⟨value, rest⟩ run
  have shorter := reader.shortens run
  have blanks := skipBlanks_length rest
  dsimp only
  split
  · exact located_ok _ _
  · exact located_behind (by omega)

/-! ## Lines and columns -/

/-- The place that lies behind the first `offset` bytes of the payload: the line is counted by the
newlines among them, and the column by the bytes behind the last of these. -/
structure Place.LiesAt (place : Place) (payload : List UInt8) (offset : Nat) : Prop where
  offset_le : offset ≤ payload.length
  line_eq : place.line = 1 + (payload.take offset).count 0x0A
  column_eq : ∃ lines line, payload.take offset = lines ++ line ∧
    (lines = [] ∨ lines.getLast? = some 0x0A) ∧ 0x0A ∉ line ∧ place.column = line.length

theorem Place.exists_lines (bytes : List UInt8) :
    ∃ lines line, bytes = lines ++ line ∧ (lines = [] ∨ lines.getLast? = some 0x0A) ∧
      0x0A ∉ line ∧ (behind bytes).column = line.length := by
  have parts := List.takeWhile_append_dropWhile (p := (· != 0x0A)) (l := bytes.reverse)
  refine ⟨(bytes.reverse.dropWhile (· != 0x0A)).reverse,
    (bytes.reverse.takeWhile (· != 0x0A)).reverse, ?_, ?_, ?_, ?_⟩
  · rw [← List.reverse_append, parts, List.reverse_reverse]
  · rw [List.reverse_eq_nil_iff, List.getLast?_reverse]
    cases found : bytes.reverse.dropWhile (· != 0x0A) with
    | nil => exact .inl rfl
    | cons byte others =>
        have stops := List.head?_dropWhile_not (· != 0x0A) bytes.reverse
        rw [found] at stops
        simpa using stops
  · intro listed
    have passed := List.all_eq_true.mp List.all_takeWhile _ (List.mem_reverse.mp listed)
    exact absurd passed (by decide)
  · rw [List.length_reverse, behind]

/-- The place of a fault of the payload is the one behind the bytes that it has read. -/
theorem Located.exists_offset {α : Type} {payload : List UInt8} {fault : Fault}
    (located : Located payload (.error fault : Except Fault α)) :
    ∃ offset, offset + fault.unread = payload.length ∧
      (fault.place payload).LiesAt payload offset := by
  have among : fault.unread ≤ payload.length := located
  refine ⟨payload.length - fault.unread, Nat.sub_add_cancel among, Nat.sub_le _ _, rfl, ?_⟩
  exact Place.exists_lines _

end EquiJoin.Json
