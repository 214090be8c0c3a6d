import EquiJoin.Json.Reader
import EquiJoin.Proofs.Json.Token
import EquiJoin.Proofs.Utf8

/-!
# The form of numerals

`NumeralText` is the form of a number, and `scan_of_numeralText` says that it is taken apart as
it was put together, provided that the bytes behind it do not carry on.  An ordinal is the decimal
numeral of a number of thirty-two bits and nothing else: no sign, no fraction, no exponent and no
zero in front (`OrdinalText`).
-/

set_option autoImplicit false

namespace EquiJoin.Json

open Utf8 (ofChars ofChars_append)

def Digits (bytes : List UInt8) : Prop := ∀ byte ∈ bytes, isDigit byte = true

/-- Integer digits without a superfluous zero in front. -/
inductive Whole : List UInt8 → Prop where
  | zero : Whole [0x30]
  | other {digit : UInt8} {digits : List UInt8} :
      digit ≠ 0x30 → isDigit digit = true → Digits digits → Whole (digit :: digits)

inductive DecimalsText : List UInt8 → List UInt8 → Prop where
  | absent : DecimalsText [] []
  | present {digits : List UInt8} :
      digits ≠ [] → Digits digits → DecimalsText (0x2E :: digits) digits

inductive SignText : List UInt8 → Bool → Prop where
  | absent : SignText [] false
  | plus : SignText [0x2B] false
  | minus : SignText [0x2D] true

inductive ExponentText : List UInt8 → Option Exponent → Prop where
  | absent : ExponentText [] none
  | present {letter : UInt8} {sign digits : List UInt8} {negative : Bool} :
      letter = 0x65 ∨ letter = 0x45 → SignText sign negative → digits ≠ [] → Digits digits →
        ExponentText (letter :: (sign ++ digits)) (some ⟨negative, digits⟩)

def minus (negative : Bool) : List UInt8 := if negative then [0x2D] else []

inductive NumeralText : List UInt8 → Numeral → Prop where
  | parts {whole decimalsText decimals exponentText : List UInt8} {exponent : Option Exponent}
      (negative : Bool) :
      Whole whole → DecimalsText decimalsText decimals → ExponentText exponentText exponent →
        NumeralText (minus negative ++ (whole ++ (decimalsText ++ exponentText)))
          ⟨negative, whole, decimals, exponent⟩

def carriesOn (byte : UInt8) : Bool :=
  isDigit byte || byte == 0x2E || byte == 0x65 || byte == 0x45

/-- Bytes behind which a numeral is not cut short. -/
def Ends (rest : List UInt8) : Prop := ∀ byte ∈ rest.head?, carriesOn byte = false

theorem ends_cons {byte : UInt8} (stops : carriesOn byte = false) (rest : List UInt8) :
    Ends (byte :: rest) := by
  intro other member
  cases member
  exact stops

theorem ends_blanks_append {blanks rest : List UInt8} (blank : Blanks blanks) (ends : Ends rest) :
    Ends (blanks ++ rest) := by
  cases blanks with
  | nil => exact ends
  | cons byte blanks =>
      apply ends_cons
      rcases blank byte List.mem_cons_self with rfl | rfl | rfl | rfl <;> decide

theorem Lead.ends {lead : List UInt8} (leads : Lead false lead) (rest : List UInt8) :
    Ends (lead ++ rest) := by
  cases leads with
  | next before =>
      rw [List.append_assoc]
      exact ends_blanks_append before (ends_cons (by decide) _)

theorem Entries.ends {α : Type} {closing : UInt8} {Entry : List UInt8 → α → Prop}
    {text : List UInt8} {values : List α} (entries : Entries closing Entry false text values)
    (stops : carriesOn closing = false) (rest : List UInt8) : Ends (text ++ rest) := by
  cases entries with
  | close blank =>
      rw [List.append_assoc]
      exact ends_blanks_append blank (ends_cons stops _)
  | entry leads =>
      rw [List.append_assoc]
      exact leads.ends _

/-! ## Taking a numeral apart -/

theorem digits_split {digits rest : List UInt8} (all : Digits digits)
    (stops : ∀ byte ∈ rest.head?, isDigit byte = false) :
    (digits ++ rest).takeWhile isDigit = digits ∧ (digits ++ rest).dropWhile isDigit = rest := by
  rw [List.takeWhile_append_of_pos all, List.dropWhile_append_of_pos all]
  cases rest with
  | nil => exact ⟨List.append_nil digits, rfl⟩
  | cons byte rest =>
      have stop := stops byte rfl
      rw [List.takeWhile_cons_of_neg (by simp [stop]), List.dropWhile_cons_of_neg (by simp [stop])]
      exact ⟨List.append_nil digits, rfl⟩

theorem digits_takeWhile (bytes : List UInt8) : Digits (bytes.takeWhile isDigit) :=
  fun byte member => List.all_eq_true.mp List.all_takeWhile byte member

theorem takeWhile_ne_nil_of_head {bytes : List UInt8} (head : bytes.head?.any isDigit = true) :
    bytes.takeWhile isDigit ≠ [] := by
  cases bytes with
  | nil => cases head
  | cons byte bytes =>
      have digit : isDigit byte = true := head
      rw [List.takeWhile_cons_of_pos digit]
      exact List.cons_ne_nil _ _

theorem head_any_of_digits {digits : List UInt8} (present : digits ≠ []) (all : Digits digits)
    (rest : List UInt8) : (digits ++ rest).head?.any isDigit = true := by
  cases digits with
  | nil => exact absurd rfl present
  | cons digit digits => exact all digit List.mem_cons_self

theorem whole_of_scanWhole {bytes digits rest : List UInt8}
    (run : scanWhole bytes = .ok (digits, rest)) : Whole digits ∧ bytes = digits ++ rest := by
  cases bytes with
  | nil => cases run
  | cons byte tail =>
      simp only [scanWhole] at run
      split at run
      · next zero =>
          subst zero
          split at run
          · cases run
          · cases run
            exact ⟨.zero, rfl⟩
      · next notZero =>
          split at run
          · next digit =>
              cases run
              refine ⟨.other notZero digit (digits_takeWhile tail), ?_⟩
              rw [List.cons_append, List.takeWhile_append_dropWhile]
          · cases run

theorem scanWhole_of_whole {digits rest : List UInt8} (whole : Whole digits)
    (stops : ∀ byte ∈ rest.head?, isDigit byte = false) :
    scanWhole (digits ++ rest) = .ok (digits, rest) := by
  cases whole with
  | zero =>
      rw [List.singleton_append, scanWhole, if_pos rfl, if_neg]
      cases rest with
      | nil => decide
      | cons byte rest => simpa using stops byte rfl
  | @other digit digits notZero isDigit all =>
      obtain ⟨front, back⟩ := digits_split all stops
      rw [List.cons_append, scanWhole, if_neg notZero, if_pos isDigit, front, back]

theorem decimalsText_of_scanDecimals {bytes digits rest : List UInt8}
    (run : scanDecimals bytes = .ok (digits, rest)) :
    ∃ text, DecimalsText text digits ∧ bytes = text ++ rest := by
  unfold scanDecimals at run
  split at run
  · next tail =>
      split at run
      · next head =>
          cases run
          refine ⟨0x2E :: tail.takeWhile isDigit,
            .present (takeWhile_ne_nil_of_head head) (digits_takeWhile tail), ?_⟩
          rw [List.cons_append, List.takeWhile_append_dropWhile]
      · cases run
  · cases run
    exact ⟨[], .absent, rfl⟩

theorem scanDecimals_of_decimalsText {text digits rest : List UInt8}
    (form : DecimalsText text digits) (stops : ∀ byte ∈ rest.head?, isDigit byte = false)
    (noPoint : ∀ byte ∈ rest.head?, byte ≠ 0x2E) :
    scanDecimals (text ++ rest) = .ok (digits, rest) := by
  cases form with
  | absent =>
      rw [List.nil_append, scanDecimals.eq_def]
      split
      · next tail => exact absurd rfl (noPoint 0x2E rfl)
      · rfl
  | present present all =>
      obtain ⟨front, back⟩ := digits_split all stops
      rw [List.cons_append, scanDecimals, if_pos (head_any_of_digits present all rest), front, back]

theorem signText_scanSign (bytes : List UInt8) :
    ∃ text, SignText text (scanSign bytes).1 ∧ bytes = text ++ (scanSign bytes).2 := by
  unfold scanSign
  split
  · exact ⟨[0x2B], .plus, rfl⟩
  · exact ⟨[0x2D], .minus, rfl⟩
  · exact ⟨[], .absent, rfl⟩

theorem scanSign_of_signText {text digits : List UInt8} {negative : Bool}
    (form : SignText text negative) (present : digits ≠ []) (all : Digits digits)
    (rest : List UInt8) : scanSign (text ++ (digits ++ rest)) = (negative, digits ++ rest) := by
  cases form with
  | plus => rfl
  | minus => rfl
  | absent =>
      cases digits with
      | nil => exact absurd rfl present
      | cons digit digits =>
          have isDigit := all digit List.mem_cons_self
          rw [List.nil_append, List.cons_append, scanSign.eq_def]
          split
          · next shape =>
              obtain ⟨rfl, -⟩ := List.cons.inj shape
              exact absurd isDigit (by decide)
          · next shape =>
              obtain ⟨rfl, -⟩ := List.cons.inj shape
              exact absurd isDigit (by decide)
          · rfl

theorem exponentText_of_scanExponent {bytes rest : List UInt8} {exponent : Option Exponent}
    (run : scanExponent bytes = .ok (exponent, rest)) :
    ∃ text, ExponentText text exponent ∧ bytes = text ++ rest := by
  cases bytes with
  | nil =>
      cases run
      exact ⟨[], .absent, rfl⟩
  | cons letter tail =>
      obtain ⟨sign, form, shape⟩ := signText_scanSign tail
      simp only [scanExponent] at run
      split at run
      · next announces =>
          split at run
          · next head =>
              cases run
              refine ⟨letter :: (sign ++ (scanSign tail).2.takeWhile isDigit),
                .present announces form (takeWhile_ne_nil_of_head head) (digits_takeWhile _), ?_⟩
              rw [List.cons_append, List.append_assoc, List.takeWhile_append_dropWhile, ← shape]
          · cases run
      · cases run
        exact ⟨[], .absent, rfl⟩

theorem scanExponent_of_exponentText {text rest : List UInt8} {exponent : Option Exponent}
    (form : ExponentText text exponent) (ends : Ends rest) :
    scanExponent (text ++ rest) = .ok (exponent, rest) := by
  cases form with
  | absent =>
      cases rest with
      | nil => rfl
      | cons byte rest =>
          have stops := ends byte rfl
          simp only [carriesOn, Bool.or_eq_false_iff, beq_eq_false_iff_ne] at stops
          rw [List.nil_append, scanExponent, if_neg (by simp [stops])]
  | @present letter sign digits negative announces signForm present all =>
      have stops : ∀ byte ∈ rest.head?, isDigit byte = false := by
        intro byte member
        have stop := ends byte member
        simp only [carriesOn, Bool.or_eq_false_iff] at stop
        exact stop.1.1.1
      obtain ⟨front, back⟩ := digits_split all stops
      rw [List.cons_append, List.append_assoc, scanExponent, if_pos announces,
        scanSign_of_signText signForm present all]
      dsimp only
      rw [if_pos (head_any_of_digits present all rest), front, back]

theorem ExponentText.head {text rest : List UInt8} {exponent : Option Exponent}
    (form : ExponentText text exponent) (ends : Ends rest) :
    ∀ byte ∈ (text ++ rest).head?, isDigit byte = false ∧ byte ≠ 0x2E := by
  intro byte member
  cases form with
  | absent =>
      have stop := ends byte member
      simp only [carriesOn, Bool.or_eq_false_iff, beq_eq_false_iff_ne] at stop
      exact stop.1.1
  | present announces =>
      cases member
      rcases announces with rfl | rfl <;> decide

theorem DecimalsText.head {text digits rest : List UInt8} (form : DecimalsText text digits)
    (stops : ∀ byte ∈ rest.head?, isDigit byte = false) :
    ∀ byte ∈ (text ++ rest).head?, isDigit byte = false := by
  intro byte member
  cases form with
  | absent => exact stops byte member
  | present =>
      cases member
      decide

theorem numeralText_of_scanUnsigned {negative : Bool} {bytes rest : List UInt8}
    {numeral : Numeral} (run : Numeral.scanUnsigned negative bytes = .ok (numeral, rest)) :
    ∃ text, NumeralText (minus negative ++ text) numeral ∧ bytes = text ++ rest := by
  obtain ⟨⟨whole, afterWhole⟩, wholeRun, run⟩ := bind_eq_ok run
  obtain ⟨⟨decimals, afterDecimals⟩, decimalsRun, run⟩ := bind_eq_ok run
  obtain ⟨⟨exponent, afterExponent⟩, exponentRun, run⟩ := bind_eq_ok run
  obtain ⟨wholeForm, wholeShape⟩ := whole_of_scanWhole wholeRun
  obtain ⟨decimalsText, decimalsForm, decimalsShape⟩ := decimalsText_of_scanDecimals decimalsRun
  obtain ⟨exponentText, exponentForm, exponentShape⟩ := exponentText_of_scanExponent exponentRun
  cases run
  refine ⟨whole ++ (decimalsText ++ exponentText),
    .parts negative wholeForm decimalsForm exponentForm, ?_⟩
  rw [wholeShape, decimalsShape, exponentShape]
  simp only [List.append_assoc]

theorem numeralText_of_scan {bytes rest : List UInt8} {numeral : Numeral}
    (run : Numeral.scan bytes = .ok (numeral, rest)) :
    ∃ text, NumeralText text numeral ∧ bytes = text ++ rest := by
  unfold Numeral.scan at run
  split at run
  · obtain ⟨text, form, rfl⟩ := numeralText_of_scanUnsigned run
    exact ⟨0x2D :: text, form, rfl⟩
  · exact numeralText_of_scanUnsigned run

theorem scanUnsigned_of_parts {whole decimalsText decimals exponentText rest : List UInt8}
    {exponent : Option Exponent} (negative : Bool) (wholeForm : Whole whole)
    (decimalsForm : DecimalsText decimalsText decimals)
    (exponentForm : ExponentText exponentText exponent) (ends : Ends rest) :
    Numeral.scanUnsigned negative (whole ++ (decimalsText ++ (exponentText ++ rest))) =
      .ok (⟨negative, whole, decimals, exponent⟩, rest) := by
  have behindDecimals := exponentForm.head ends
  have behindWhole := decimalsForm.head fun byte member => (behindDecimals byte member).1
  rw [Numeral.scanUnsigned, scanWhole_of_whole wholeForm behindWhole]
  simp only [bind, Except.bind]
  rw [scanDecimals_of_decimalsText decimalsForm (fun byte member => (behindDecimals byte member).1)
    (fun byte member => (behindDecimals byte member).2)]
  simp only
  rw [scanExponent_of_exponentText exponentForm ends]
  rfl

theorem Whole.head {digits : List UInt8} (whole : Whole digits) :
    ∃ digit others, digits = digit :: others ∧ isDigit digit = true := by
  cases whole with
  | zero => exact ⟨0x30, [], rfl, by decide⟩
  | other _ isDigit => exact ⟨_, _, rfl, isDigit⟩

theorem scan_of_numeralText {text rest : List UInt8} {numeral : Numeral}
    (form : NumeralText text numeral) (ends : Ends rest) :
    Numeral.scan (text ++ rest) = .ok (numeral, rest) := by
  obtain ⟨negative, wholeForm, decimalsForm, exponentForm⟩ := form
  have parts := scanUnsigned_of_parts negative wholeForm decimalsForm exponentForm ends
  simp only [List.append_assoc]
  cases negative with
  | true => exact parts
  | false =>
      obtain ⟨digit, others, shape, isDigit⟩ := wholeForm.head
      rw [minus, if_neg Bool.false_ne_true, List.nil_append, Numeral.scan.eq_def, shape,
        List.cons_append]
      rw [shape, List.cons_append] at parts
      split
      · next sign =>
          obtain ⟨rfl, -⟩ := List.cons.inj sign
          exact absurd isDigit (by decide)
      · exact parts

theorem NumeralText.head {text : List UInt8} {numeral : Numeral} (form : NumeralText text numeral) :
    ∃ byte others, text = byte :: others ∧ startsNumber byte = true := by
  obtain ⟨negative, wholeForm, -, -⟩ := form
  cases negative with
  | true => exact ⟨0x2D, _, rfl, by decide⟩
  | false =>
      obtain ⟨digit, others, rfl, isDigit⟩ := wholeForm.head
      exact ⟨digit, _, rfl, by simp [startsNumber, isDigit]⟩

theorem skipNumber_of_numeralText {text rest : List UInt8} {numeral : Numeral}
    (form : NumeralText text numeral) (ends : Ends rest) :
    skipNumber (text ++ rest) = .ok rest := by
  rw [skipNumber, scan_of_numeralText form ends]

theorem numeralText_of_skipNumber {bytes rest : List UInt8} (run : skipNumber bytes = .ok rest) :
    ∃ text numeral, NumeralText text numeral ∧ bytes = text ++ rest := by
  unfold skipNumber at run
  split at run
  · next numeral after scanRun =>
      cases run
      obtain ⟨text, form, shape⟩ := numeralText_of_scan scanRun
      exact ⟨text, numeral, form, shape⟩
  · cases run

/-! ## Ordinals -/

def shift (number : Nat) (digit : UInt8) : Nat := 10 * number + digitValue digit

def decimal (digits : List UInt8) : Nat := digits.foldl shift 0

/-- The form of an ordinal: digits alone, without a superfluous zero. -/
def OrdinalText (text : List UInt8) (value : UInt32) : Prop :=
  Whole text ∧ decimal text = value.toNat

theorem eq_of_gather {limit number gathered : Nat} {digits : List UInt8}
    (run : gather limit number digits = (gathered, [])) : gathered = digits.foldl shift number := by
  induction digits generalizing number with
  | nil =>
      cases run
      rfl
  | cons digit digits ih =>
      simp only [gather] at run
      split at run
      · exact ih run
      · cases run

theorem le_foldl_shift (number : Nat) (digits : List UInt8) :
    number ≤ digits.foldl shift number := by
  induction digits generalizing number with
  | nil => exact Nat.le_refl _
  | cons digit digits ih =>
      have later := ih (shift number digit)
      rw [List.foldl_cons]
      simp only [shift] at later ⊢
      omega

theorem gather_of_lt {limit number : Nat} {digits : List UInt8}
    (small : digits.foldl shift number < limit) :
    gather limit number digits = (digits.foldl shift number, []) := by
  induction digits generalizing number with
  | nil => rfl
  | cons digit digits ih =>
      have below := Nat.lt_of_le_of_lt (le_foldl_shift (shift number digit) digits) small
      rw [gather]
      exact (if_pos below).trans (ih small)

theorem scaled_ne_integer {negative : Bool} {significand : Nat} {power integer : Int} :
    Number.scaled negative significand power ≠ some (.integer integer) := by
  rw [Number.scaled]
  cases scale (Float.ofNat significand) power with
  | none => simp
  | some size => simp

theorem integer_of_value {numeral : Numeral} {rest : List UInt8} {integer : Int}
    (run : numeral.value rest = .ok (.integer integer)) :
    numeral.decimals = [] ∧ numeral.exponent = none ∧
      Number.ofWhole numeral.negative (decimal numeral.whole) = .integer integer := by
  unfold Numeral.value at run
  split at run
  next front dropped gathered =>
    split at run
    · next plain =>
        simp only [Bool.and_eq_true, List.isEmpty_iff, Option.isNone_iff_eq_none] at plain
        obtain ⟨⟨noDecimals, noExponent⟩, rfl⟩ := plain
        rw [eq_of_gather gathered] at run
        exact ⟨noDecimals, noExponent, Except.ok.inj run⟩
    · -- Whatever else is written, its value is a floating-point number.
      split at run
      next significand left _ =>
        dsimp only at run
        split at run
        · split at run
          · cases run
          · next found =>
              cases run
              exact absurd found scaled_ne_integer
        · split at run
          · split at run
            · cases run
            · next found =>
                cases run
                exact absurd found scaled_ne_integer
          · split at run <;> cases run

theorem integer_of_ofWhole {negative : Bool} {significand : Nat} {integer : Int}
    (whole : Number.ofWhole negative significand = .integer integer) (size : 0 ≤ integer) :
    negative = false ∧ integer = significand := by
  unfold Number.ofWhole at whole
  split at whole
  · split at whole
    · cases whole
    · next present =>
        cases whole
        omega
  · next positive =>
      cases whole
      exact ⟨Bool.eq_false_iff.mpr positive, rfl⟩

theorem scan_of_readOrdinal {bytes rest : List UInt8} {value : UInt32}
    (run : readOrdinal bytes = .ok (value, rest)) :
    ∃ digits, Numeral.scan (skipBlanks bytes) = .ok (⟨false, digits, [], none⟩, rest) ∧
      decimal digits = value.toNat := by
  unfold readOrdinal at run
  dsimp only at run
  split at run
  · obtain ⟨⟨number, after⟩, numberRun, ordinalRun⟩ := bind_eq_ok run
    obtain ⟨⟨numeral, behind⟩, scanRun, valueRun⟩ := bind_eq_ok numberRun
    obtain ⟨found, valueFound, answer⟩ := bind_eq_ok valueRun
    cases answer
    dsimp only [ordinalOf] at ordinalRun
    split at ordinalRun
    · next integer =>
        split at ordinalRun
        · next small =>
            cases ordinalRun
            obtain ⟨noDecimals, noExponent, whole⟩ := integer_of_value valueFound
            obtain ⟨positive, integerShape⟩ := integer_of_ofWhole whole small.1
            obtain ⟨negative, digits, decimals, exponent⟩ := numeral
            dsimp only at noDecimals noExponent positive integerShape
            subst noDecimals noExponent positive integerShape
            have below := Int.ofNat_lt.mp small.2
            refine ⟨digits, scanRun, ?_⟩
            rw [Int.toNat_natCast, UInt32.toNat_ofNat', Nat.mod_eq_of_lt below]
        · cases ordinalRun
    · cases ordinalRun
  · cases run

theorem ordinalText_of_readOrdinal {bytes rest : List UInt8} {value : UInt32}
    (run : readOrdinal bytes = .ok (value, rest)) :
    ∃ blanks text, Blanks blanks ∧ OrdinalText text value ∧ bytes = blanks ++ (text ++ rest) := by
  obtain ⟨blanks, blank, shape⟩ := exists_blanks bytes
  obtain ⟨digits, scanRun, number⟩ := scan_of_readOrdinal run
  obtain ⟨text, form, textShape⟩ := numeralText_of_scan scanRun
  generalize parts : (⟨false, digits, [], none⟩ : Numeral) = numeral at form
  obtain ⟨negative, wholeForm, decimalsForm, exponentForm⟩ := form
  cases parts
  refine ⟨blanks, _, blank, ⟨wholeForm, number⟩, ?_⟩
  cases exponentForm
  cases decimalsForm with
  | present present => exact absurd rfl present
  | absent =>
      rw [shape, textShape, minus, if_neg Bool.false_ne_true]
      simp only [List.nil_append, List.append_nil]

theorem readOrdinal_of_ordinalText {blanks text rest : List UInt8} {value : UInt32}
    (blank : Blanks blanks) (form : OrdinalText text value) (ends : Ends rest) :
    readOrdinal (blanks ++ (text ++ rest)) = .ok (value, rest) := by
  obtain ⟨whole, number⟩ := form
  obtain ⟨digit, others, shape, isDigit⟩ := whole.head
  have below := value.toNat_lt_size
  have gathered : gather UInt64.size 0 text = (value.toNat, []) := by
    rw [← number]
    apply gather_of_lt
    rw [← decimal, number]
    exact Nat.lt_trans below (by decide)
  have numeral : NumeralText text ⟨false, text, [], none⟩ := by
    have parts := NumeralText.parts false whole .absent .absent
    simpa [minus] using parts
  have valueRun : Numeral.value ⟨false, text, [], none⟩ rest = .ok (.integer value.toNat) := by
    rw [Numeral.value]
    simp only [gathered]
    rfl
  have front : skipBlanks (blanks ++ (text ++ rest)) = text ++ rest := by
    rw [shape, List.cons_append]
    apply skipBlanks_solid blank
    simp only [Json.isDigit, Bool.and_eq_true, decide_eq_true_eq] at isDigit
    simp only [isBlank, Bool.or_eq_false_iff, beq_eq_false_iff_ne, ne_eq, ← UInt8.toNat_inj,
      UInt8.reduceToNat, UInt8.le_iff_toNat_le] at isDigit ⊢
    omega
  have starts : (text ++ rest).head?.any startsNumber = true := by
    rw [shape, List.cons_append, List.head?_cons, Option.any_some, startsNumber, isDigit,
      Bool.or_true]
  rw [readOrdinal]
  simp only [front, starts, ↓reduceIte]
  rw [readNumber, scan_of_numeralText numeral ends]
  simp only [bind, Except.bind, valueRun]
  simp only [pure, Except.pure, ordinalOf]
  rw [if_pos ⟨Int.natCast_nonneg _, Int.ofNat_lt.mpr below⟩, Int.toNat_natCast, UInt32.ofNat_toNat]

theorem digitChar_bytes : ∀ digit < 10,
    String.utf8EncodeChar digit.digitChar = [UInt8.ofNat (0x30 + digit)] := by
  decide

theorem ofChars_toDigits_step {number : Nat} (large : 10 ≤ number) :
    ofChars (Nat.toDigits 10 number) =
      ofChars (Nat.toDigits 10 (number / 10)) ++ [UInt8.ofNat (0x30 + number % 10)] := by
  rw [Nat.toDigits_of_base_le (by decide) large, ofChars_append]
  congr 1
  rw [ofChars, List.flatMap_singleton, digitChar_bytes _ (Nat.mod_lt _ (by decide))]

theorem isDigit_ofNat {digit : Nat} (small : digit < 10) :
    isDigit (UInt8.ofNat (0x30 + digit)) = true := by
  simp only [isDigit, Bool.and_eq_true, decide_eq_true_eq, UInt8.le_iff_toNat_le,
    UInt8.toNat_ofNat', UInt8.reduceToNat]
  omega

theorem shift_ofNat (number : Nat) {digit : Nat} (small : digit < 10) :
    shift number (UInt8.ofNat (0x30 + digit)) = 10 * number + digit := by
  simp only [shift, digitValue, UInt8.toNat_ofNat']
  omega

theorem toDigits_positive (number : Nat) (positive : 0 < number) :
    ∃ digit digits, ofChars (Nat.toDigits 10 number) = digit :: digits ∧ digit ≠ 0x30 ∧
      isDigit digit = true ∧ Digits digits ∧ decimal (digit :: digits) = number := by
  induction number using Nat.strongRecOn with
  | ind number ih =>
      by_cases small : number < 10
      · have bytes := digitChar_bytes number small
        have value := shift_ofNat 0 small
        refine ⟨UInt8.ofNat (0x30 + number), [], ?_, ?_, isDigit_ofNat small, ?_, ?_⟩
        · rw [Nat.toDigits_of_lt_base small, ofChars, List.flatMap_singleton, bytes]
        · simp only [ne_eq, ← UInt8.toNat_inj, UInt8.toNat_ofNat', UInt8.reduceToNat]
          omega
        · intro byte member
          cases member
        · simpa [decimal] using value
      · have last : number % 10 < 10 := Nat.mod_lt _ (by decide)
        obtain ⟨digit, digits, shape, notZero, isDigit, all, value⟩ :=
          ih (number / 10) (by omega) (by omega)
        refine ⟨digit, digits ++ [UInt8.ofNat (0x30 + number % 10)], ?_, notZero, isDigit, ?_, ?_⟩
        · rw [ofChars_toDigits_step (by omega), shape, List.cons_append]
        · intro byte member
          rcases List.mem_append.mp member with member | member
          · exact all byte member
          · rw [List.mem_singleton.mp member]
            exact isDigit_ofNat last
        · have step : decimal (digit :: (digits ++ [UInt8.ofNat (0x30 + number % 10)])) =
              shift (decimal (digit :: digits)) (UInt8.ofNat (0x30 + number % 10)) := by
            rw [decimal, ← List.cons_append, List.foldl_append]
            rfl
          rw [step, value, shift_ofNat _ last]
          omega

theorem ordinalText_toDigits (value : UInt32) :
    OrdinalText (ofChars (Nat.toDigits 10 value.toNat)) value := by
  by_cases zero : value.toNat = 0
  · rw [zero, Nat.toDigits_zero]
    exact ⟨.zero, by rw [zero]; rfl⟩
  · obtain ⟨digit, digits, shape, notZero, isDigit, all, number⟩ :=
      toDigits_positive value.toNat (by omega)
    rw [shape]
    exact ⟨.other notZero isDigit all, number⟩

end EquiJoin.Json
