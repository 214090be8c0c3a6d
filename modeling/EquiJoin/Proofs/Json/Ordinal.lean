import EquiJoin.Proofs.Json.Passage
import Mathlib.Data.List.Induction

/-!
# Numbers in the place of an ordinal

A number may stand where an ordinal is asked for.  Whatever its sign, its digits, its fraction and
its exponent are, the reader takes all of it or nothing, and it takes exactly the digits that the
ordinal is written with (`readOrdinal_eq_ok_iff`, `ordinalText_iff_written`).
-/

set_option autoImplicit false

namespace EquiJoin.Json

open Utf8 (ofChars)

/-- A fraction, perhaps without decimals. -/
inductive FractionText : List UInt8 → Prop where
  | absent : FractionText []
  | point {digits : List UInt8} : Digits digits → FractionText (0x2E :: digits)

inductive PowerText : List UInt8 → Prop where
  | absent : PowerText []
  | letter {letter : UInt8} {sign digits : List UInt8} {negative : Bool} :
      letter = 0x65 ∨ letter = 0x45 → SignText sign negative → Digits digits →
        PowerText (letter :: (sign ++ digits))

/-- Any number of digits, with or without a sign, a fraction and an exponent.  It need not be a
number that is read at all. -/
inductive NumberText : List UInt8 → Prop where
  | parts {sign digits fraction power : List UInt8} {negative : Bool} :
      SignText sign negative → digits ≠ [] → Digits digits → FractionText fraction →
        PowerText power → NumberText (sign ++ (digits ++ (fraction ++ power)))

theorem NumberText.head {text : List UInt8} (number : NumberText text) :
    ∃ byte others, text = byte :: others ∧ (byte = 0x2B ∨ startsNumber byte = true) := by
  obtain ⟨signForm, present, all, -, -⟩ := number
  cases signForm with
  | plus => exact ⟨0x2B, _, rfl, .inl rfl⟩
  | minus => exact ⟨0x2D, _, rfl, .inr (by decide)⟩
  | absent =>
      obtain ⟨digit, digits, rfl⟩ := List.exists_cons_of_ne_nil present
      have digit := all digit List.mem_cons_self
      exact ⟨_, _, rfl, .inr (by simp [startsNumber, digit])⟩

theorem NumberText.begins {text : List UInt8} (number : NumberText text) :
    ∃ byte others, text = byte :: others ∧ Begins byte := by
  obtain ⟨byte, others, shape, starts⟩ := number.head
  refine ⟨byte, others, shape, ?_⟩
  rcases starts with rfl | starts
  · exact ⟨by decide, by decide⟩
  · exact (begins_of_startsNumber starts).1

theorem PowerText.head {text rest : List UInt8} (form : PowerText text) (ends : Ends rest) :
    ∀ byte ∈ (text ++ rest).head?, isDigit byte = false := by
  intro byte member
  cases form with
  | absent =>
      have stop := ends byte member
      simp only [carriesOn, Bool.or_eq_false_iff] at stop
      exact stop.1.1.1
  | letter announces =>
      cases member
      rcases announces with rfl | rfl <;> decide

theorem FractionText.head {text rest : List UInt8} (form : FractionText text)
    (stops : ∀ byte ∈ rest.head?, isDigit byte = false) :
    ∀ byte ∈ (text ++ rest).head?, isDigit byte = false := by
  intro byte member
  cases form with
  | absent => exact stops byte member
  | point =>
      cases member
      decide

theorem Whole.digits {text : List UInt8} (whole : Whole text) : Digits text := by
  cases whole with
  | zero =>
      intro byte member
      rw [List.mem_singleton.mp member]
      decide
  | other _ first others => exact List.forall_mem_cons.mpr ⟨first, others⟩

theorem digits_unique {digits others rest behind : List UInt8} (first : Digits digits)
    (second : Digits others) (stops : ∀ byte ∈ rest.head?, isDigit byte = false)
    (stopsBehind : ∀ byte ∈ behind.head?, isDigit byte = false)
    (same : digits ++ rest = others ++ behind) : digits = others ∧ rest = behind := by
  obtain ⟨front, back⟩ := digits_split first stops
  obtain ⟨frontOthers, backOthers⟩ := digits_split second stopsBehind
  rw [same] at front back
  exact ⟨front.symm.trans frontOthers, back.symm.trans backOthers⟩

theorem stops_dropWhile (bytes : List UInt8) :
    ∀ byte ∈ (bytes.dropWhile isDigit).head?, isDigit byte = false := by
  intro byte member
  have stops := List.head?_dropWhile_not isDigit bytes
  rwa [Option.mem_def.mp member] at stops

theorem stops_of_scanWhole {bytes digits rest : List UInt8}
    (run : scanWhole bytes = .ok (digits, rest)) : ∀ byte ∈ rest.head?, isDigit byte = false := by
  cases bytes with
  | nil => cases run
  | cons byte tail =>
      simp only [scanWhole] at run
      split at run
      · split at run
        · cases run
        · next stops =>
            cases run
            intro other member
            rwa [Option.mem_def.mp member, Option.any_some, Bool.not_eq_true] at stops
      · split at run
        · cases run
          exact stops_dropWhile tail
        · cases run

theorem noPoint_of_scanDecimals {bytes rest : List UInt8}
    (run : scanDecimals bytes = .ok ([], rest)) :
    rest = bytes ∧ ∀ byte ∈ rest.head?, byte ≠ 0x2E := by
  rw [scanDecimals.eq_def] at run
  split at run
  · next tail =>
      split at run
      · next head =>
          obtain ⟨noDigits, -⟩ := Prod.mk.inj (Except.ok.inj run)
          exact absurd noDigits (takeWhile_ne_nil_of_head head)
      · cases run
  · next noPoint =>
      cases run
      refine ⟨rfl, fun byte member => ?_⟩
      rintro rfl
      obtain ⟨tail, rfl⟩ := List.head?_eq_some_iff.mp member
      exact noPoint tail rfl

theorem noLetter_of_scanExponent {bytes rest : List UInt8}
    (run : scanExponent bytes = .ok (none, rest)) :
    rest = bytes ∧ ∀ byte ∈ rest.head?, ¬ (byte = 0x65 ∨ byte = 0x45) := by
  cases bytes with
  | nil =>
      cases run
      exact ⟨rfl, fun byte member => by cases member⟩
  | cons letter tail =>
      simp only [scanExponent] at run
      split at run
      · split at run <;> cases run
      · next plain =>
          cases run
          exact ⟨rfl, fun byte member => by cases member; exact plain⟩

theorem ends_of_scan {bytes digits rest : List UInt8} {negative : Bool}
    (run : Numeral.scan bytes = .ok (⟨negative, digits, [], none⟩, rest)) : Ends rest := by
  have unsigned : ∃ sign front, Numeral.scanUnsigned sign front =
      .ok (⟨negative, digits, [], none⟩, rest) := by
    unfold Numeral.scan at run
    split at run <;> exact ⟨_, _, run⟩
  obtain ⟨sign, front, run⟩ := unsigned
  obtain ⟨⟨whole, afterWhole⟩, wholeRun, run⟩ := bind_eq_ok run
  obtain ⟨⟨decimals, afterDecimals⟩, decimalsRun, run⟩ := bind_eq_ok run
  obtain ⟨⟨exponent, afterExponent⟩, exponentRun, run⟩ := bind_eq_ok run
  cases run
  obtain ⟨rfl, noLetter⟩ := noLetter_of_scanExponent exponentRun
  obtain ⟨rfl, noPoint⟩ := noPoint_of_scanDecimals decimalsRun
  intro byte member
  have stop := stops_of_scanWhole wholeRun byte member
  simp only [carriesOn, Bool.or_eq_false_iff, beq_eq_false_iff_ne]
  have plain := noLetter byte member
  exact ⟨⟨⟨stop, noPoint byte member⟩, fun same => plain (.inl same)⟩, fun same => plain (.inr same)⟩

/-! ## Ordinals -/

/-- Of a number whose front is taken for an ordinal, all is. -/
theorem NumberText.eq_of_append {text back whole rest : List UInt8} (number : NumberText text)
    (form : Whole whole) (ends : Ends back) (endsBehind : Ends rest)
    (same : text ++ back = whole ++ rest) : text = whole ∧ rest = back := by
  have stops : ∀ byte ∈ rest.head?, isDigit byte = false := by
    intro byte member
    have stop := endsBehind byte member
    simp only [carriesOn, Bool.or_eq_false_iff] at stop
    exact stop.1.1.1
  obtain ⟨signForm, present, all, fractionForm, powerForm⟩ := number
  simp only [List.append_assoc] at same
  cases signForm with
  | plus | minus =>
      -- Digits that are taken do not begin with a sign.
      obtain ⟨digit, digits, rfl, isDigit⟩ := form.head
      obtain ⟨rfl, -⟩ := List.cons.inj same
      exact absurd isDigit (by decide)
  | absent =>
      obtain ⟨rfl, rfl⟩ := digits_unique all form.digits
        (fractionForm.head (powerForm.head ends)) stops same
      cases fractionForm with
      | point => exact absurd (endsBehind 0x2E rfl) (by decide)
      | absent =>
          cases powerForm with
          | letter announces =>
              rcases announces with rfl | rfl
              · exact absurd (endsBehind 0x65 rfl) (by decide)
              · exact absurd (endsBehind 0x45 rfl) (by decide)
          | absent => exact ⟨by simp, rfl⟩

/-- Of a number in the place of an ordinal, the reader takes all or nothing. -/
theorem readOrdinal_eq_ok_iff {text back rest : List UInt8} {value : UInt32}
    (number : NumberText text) (ends : Ends back) :
    readOrdinal (text ++ back) = .ok (value, rest) ↔ OrdinalText text value ∧ rest = back := by
  constructor
  · intro run
    obtain ⟨_, scanRun, -⟩ := scan_of_readOrdinal run
    obtain ⟨blanks, whole, blank, form, shape⟩ := ordinalText_of_readOrdinal run
    obtain ⟨first, others, firstShape, solid, -⟩ := number.begins
    have noBlanks : blanks = [] := by
      cases blanks with
      | nil => rfl
      | cons other blanks =>
          rw [firstShape] at shape
          obtain ⟨rfl, -⟩ := List.cons.inj shape
          rw [isBlank_iff.mpr (blank first List.mem_cons_self)] at solid
          cases solid
    rw [noBlanks, List.nil_append] at shape
    obtain ⟨rfl, rfl⟩ := number.eq_of_append form.1 ends (ends_of_scan scanRun) shape
    exact ⟨form, rfl⟩
  · rintro ⟨form, rfl⟩
    exact readOrdinal_of_ordinalText blanks_nil form ends

theorem decimal_concat (digits : List UInt8) (digit : UInt8) :
    decimal (digits ++ [digit]) = 10 * decimal digits + digitValue digit := by
  rw [decimal, List.foldl_append]
  rfl

theorem digitValue_lt {digit : UInt8} (isDigit : isDigit digit = true) : digitValue digit < 10 := by
  simp only [Json.isDigit, Bool.and_eq_true, decide_eq_true_eq, UInt8.le_iff_toNat_le,
    UInt8.reduceToNat] at isDigit
  rw [digitValue]
  omega

theorem ofNat_digitValue {digit : UInt8} (isDigit : isDigit digit = true) :
    UInt8.ofNat (0x30 + digitValue digit) = digit := by
  simp only [Json.isDigit, Bool.and_eq_true, decide_eq_true_eq, UInt8.le_iff_toNat_le,
    UInt8.reduceToNat] at isDigit
  rw [digitValue, Nat.add_sub_cancel' isDigit.1, UInt8.ofNat_toNat]

theorem Whole.of_concat {digits : List UInt8} {digit : UInt8} (present : digits ≠ [])
    (whole : Whole (digits ++ [digit])) : Whole digits ∧ 0 < decimal digits := by
  obtain ⟨first, others, rfl⟩ := List.exists_cons_of_ne_nil present
  rw [List.cons_append] at whole
  generalize shape : others ++ [digit] = behind at whole
  cases whole with
  | zero => simp at shape
  | other notZero isDigit all =>
      subst shape
      refine ⟨.other notZero isDigit (List.forall_mem_append.mp all).1, ?_⟩
      have size : 0 < shift 0 first := by
        simp only [Json.isDigit, Bool.and_eq_true, decide_eq_true_eq, UInt8.le_iff_toNat_le,
          UInt8.reduceToNat, ne_eq, ← UInt8.toNat_inj] at isDigit notZero
        simp only [shift, digitValue]
        omega
      exact Nat.lt_of_lt_of_le size (le_foldl_shift _ others)

theorem Whole.eq_written {text : List UInt8} (whole : Whole text) :
    text = ofChars (Nat.toDigits 10 (decimal text)) := by
  induction text using List.reverseRecOn with
  | nil => cases whole
  | append_singleton digits digit ih =>
      have isDigit := whole.digits digit (List.mem_append_right _ (List.mem_singleton_self digit))
      have small := digitValue_lt isDigit
      rw [decimal_concat]
      by_cases present : digits = []
      · subst present
        simp only [decimal, List.foldl_nil, Nat.mul_zero, Nat.zero_add, List.nil_append]
        rw [Nat.toDigits_of_lt_base small, ofChars, List.flatMap_singleton,
          digitChar_bytes _ small, ofNat_digitValue isDigit]
      · obtain ⟨whole, positive⟩ := whole.of_concat present
        rw [ofChars_toDigits_step (by omega)]
        have front : (10 * decimal digits + digitValue digit) / 10 = decimal digits := by omega
        have last : (10 * decimal digits + digitValue digit) % 10 = digitValue digit := by omega
        rw [front, last, ← ih whole, ofNat_digitValue isDigit]

/-- An ordinal has one text: the one that it is written with, in every layout. -/
theorem ordinalText_iff_written {text : List UInt8} {value : UInt32} (layout : Layout)
    (depth : Nat) :
    OrdinalText text value ↔ text = ofChars ((Wire.document value).write layout depth) := by
  change _ ↔ text = ofChars (Nat.toDigits 10 value.toNat)
  constructor
  · rintro ⟨whole, number⟩
    rw [← number]
    exact whole.eq_written
  · rintro rfl
    exact ordinalText_toDigits value

theorem gives_readOrdinal {text : List UInt8} (number : NumberText text) (back : List UInt8) :
    Reader.ordinal.Gives (text ++ back) (readOrdinal (text ++ back)) := by
  constructor
  · obtain ⟨byte, others, rfl, begins⟩ := number.begins
    exact ⟨byte, others ++ back, rfl, begins⟩
  · intro blanks blank
    change readOrdinal _ = _
    rw [readOrdinal, skipBlanks_append blank]
    rfl

theorem Whole.number {text : List UInt8} (whole : Whole text) : NumberText text := by
  obtain ⟨digit, digits, shape, -⟩ := whole.head
  have parts := NumberText.parts .absent (by simp [shape]) whole.digits .absent .absent
  rwa [List.append_nil, List.append_nil, List.nil_append] at parts

/-- What is decoded from payloads with an ordinal behind `front`: of all numbers that may be put in
its place, those with the form of an ordinal are accepted, and nothing but the ordinal changes. -/
structure TakesOrdinals {β : Type} (front : List UInt8) (carry : (UInt32 → UInt32) → β → β)
    (decode : List UInt8 → Except Malformed β) : Prop where
  decode_eq_ok_iff {held text back : List UInt8} {ordinal : UInt32} {base found : β} :
    OrdinalText held ordinal → Ends back → decode (front ++ (held ++ back)) = .ok base →
      NumberText text →
        (decode (front ++ (text ++ back)) = .ok found ↔
          ∃ value : UInt32, (Whole text ∧ decimal text = value.toNat) ∧
            found = carry (fun _ => value) base)
  succeeds_iff {held text back : List UInt8} {ordinal : UInt32} {base : β} :
    OrdinalText held ordinal → Ends back → decode (front ++ (held ++ back)) = .ok base →
      NumberText text →
        ((∃ found, decode (front ++ (text ++ back)) = .ok found) ↔
          Whole text ∧ decimal text ≤ 4294967295)

theorem takesOrdinals_of_embeds {β : Type} [wire : Wire β] {blanks front : List UInt8}
    {carry : (UInt32 → UInt32) → β → β} (blank : Blanks blanks)
    (embeds : wire.reader.Embeds front Reader.ordinal carry) :
    TakesOrdinals (blanks ++ front) carry (decode : List UInt8 → Except Malformed β) := by
  have accepts {held text back : List UInt8} {ordinal : UInt32} {base found : β}
      (holds : OrdinalText held ordinal) (ends : Ends back)
      (accepted : decode (blanks ++ front ++ (held ++ back)) = .ok base)
      (number : NumberText text) :
      decode (blanks ++ front ++ (text ++ back)) = .ok found ↔
        ∃ value : UInt32, OrdinalText text value ∧ found = carry (fun _ => value) base := by
    have holdsRun := gives_readOrdinal holds.1.number back
    rw [(readOrdinal_eq_ok_iff holds.1.number ends).mpr ⟨holds, rfl⟩] at holdsRun
    rw [List.append_assoc] at accepted ⊢
    rw [decode_eq_ok_iff_of_embeds blank embeds holdsRun accepted
      (gives_readOrdinal number back)
      fun value rest run => ((readOrdinal_eq_ok_iff number ends).mp run).2]
    simp only [readOrdinal_eq_ok_iff number ends, and_true]
  refine ⟨accepts, ?_⟩
  intro held text back ordinal base holds ends accepted number
  constructor
  · rintro ⟨found, run⟩
    obtain ⟨value, ⟨whole, size⟩, -⟩ := (accepts holds ends accepted number).mp run
    have below := value.toNat_lt_size
    exact ⟨whole, by rw [size]; exact Nat.le_of_lt_succ below⟩
  · rintro ⟨whole, small⟩
    have form : OrdinalText text (UInt32.ofNat (decimal text)) :=
      ⟨whole, (UInt32.toNat_ofNat_of_lt' (Nat.lt_succ_of_le small)).symm⟩
    exact ⟨_, (accepts holds ends accepted number).mpr ⟨_, form, rfl⟩⟩

end EquiJoin.Json
