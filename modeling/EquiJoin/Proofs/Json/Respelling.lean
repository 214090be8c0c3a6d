import EquiJoin.Proofs.Json.Ordinal
import EquiJoin.Proofs.Json.Spelling

/-!
# Spelling a payload in another way

Two payloads may differ in the spelling of their literals and in nothing else (`Respelled`).  A form
is kept by that (`Keeps`) if what spells a payload anew takes a text of the form to another one of
the same value.  Every form of a payload is, and so all spellings of a payload are accepted alike,
and as the same value (`decode_respelled`).
-/

set_option autoImplicit false

namespace EquiJoin.Json

/-- The same bytes, but for literals that are spelled in another way. -/
inductive Respelled : List UInt8 → List UInt8 → Prop where
  | nil : Respelled [] []
  | byte {byte : UInt8} {bytes others : List UInt8} :
      byte ≠ 0x22 → Respelled bytes others → Respelled (byte :: bytes) (byte :: others)
  | same {body bytes others : List UInt8} : Enclosed body → Respelled bytes others →
      Respelled (0x22 :: (body ++ 0x22 :: bytes)) (0x22 :: (body ++ 0x22 :: others))
  | literal {first second bytes others : List UInt8} {characters : List Char} :
      Spelled first characters → Spelled second characters → Respelled bytes others →
        Respelled (0x22 :: (first ++ 0x22 :: bytes)) (0x22 :: (second ++ 0x22 :: others))

theorem Respelled.symm {bytes others : List UInt8} (respelled : Respelled bytes others) :
    Respelled others bytes := by
  induction respelled with
  | nil => exact .nil
  | byte notQuote _ ih => exact .byte notQuote ih
  | same encloses _ ih => exact .same encloses ih
  | literal first second _ ih => exact .literal second first ih

theorem Spelled.unique {body : List UInt8} {first second : List Char}
    (one : Spelled body first) (other : Spelled body second) : first = second := by
  have run {characters : List Char} (spelled : Spelled body characters) :
      readLiteral (body ++ 0x22 :: []) = .ok (String.ofList characters, []) :=
    readLiteral_eq_ok_iff.mpr ⟨body, by rwa [String.toList_ofList], rfl⟩
  have same := (run one).symm.trans (run other)
  exact String.ofList_injective (Prod.mk.inj (Except.ok.inj same)).1

theorem Respelled.of_literal {body rest bytes : List UInt8} (encloses : Enclosed body)
    (respelled : Respelled (0x22 :: (body ++ 0x22 :: rest)) bytes) :
    ∃ other behind, (∀ characters, Spelled body characters → Spelled other characters) ∧
      (Unchecked body → Unchecked other) ∧ Respelled rest behind ∧
        bytes = 0x22 :: (other ++ 0x22 :: behind) := by
  generalize shape : 0x22 :: (body ++ 0x22 :: rest) = whole at respelled
  cases respelled with
  | nil => cases shape
  | byte notQuote => exact absurd (List.cons.inj shape).1.symm notQuote
  | same other respelled =>
      obtain ⟨rfl, rfl⟩ := encloses.unique other (List.cons.inj shape).2
      exact ⟨body, _, fun _ spelled => spelled, id, respelled, rfl⟩
  | literal first second respelled =>
      obtain ⟨rfl, rfl⟩ := encloses.unique first.unchecked.enclosed (List.cons.inj shape).2
      refine ⟨_, _, fun characters spelled => ?_, fun _ => second.unchecked, respelled, rfl⟩
      rwa [spelled.unique first]

/-! ## Forms that are kept -/

/-- However it is spelled anew together with what stands behind it, the text becomes another one of
the form, and what stands behind it is spelled anew by itself. -/
structure Keeps (Form : List UInt8 → Prop) (text : List UInt8) : Prop where
  split {rest bytes : List UInt8} : Respelled (text ++ rest) bytes →
    ∃ other behind, Form other ∧ Respelled rest behind ∧ bytes = other ++ behind

section Keeping

variable {First Form Other : List UInt8 → Prop} {front text : List UInt8}

theorem Keeps.imp (keeps : Keeps Form text) (implies : ∀ text, Form text → Other text) :
    Keeps Other text where
  split respelled := by
    obtain ⟨other, behind, form, later, shape⟩ := keeps.split respelled
    exact ⟨other, behind, implies other form, later, shape⟩

theorem Keeps.bind (first : Keeps First front)
    (goOn : ∀ front, First front → Keeps (fun text => Form (front ++ text)) text) :
    Keeps Form (front ++ text) where
  split respelled := by
    rw [List.append_assoc] at respelled
    obtain ⟨other, bytes, form, later, rfl⟩ := first.split respelled
    obtain ⟨others, behind, forms, last, rfl⟩ := (goOn other form).split later
    exact ⟨other ++ others, behind, forms, last, (List.append_assoc ..).symm⟩

theorem Keeps.cons {byte : UInt8} (notQuote : byte ≠ 0x22)
    (keeps : Keeps (fun text => Form (byte :: text)) text) : Keeps Form (byte :: text) where
  split := by
    intro rest bytes respelled
    generalize shape : byte :: text ++ rest = whole at respelled
    cases respelled with
    | nil => cases shape
    | byte _ others =>
        obtain ⟨rfl, rfl⟩ := List.cons.inj shape
        obtain ⟨other, behind, form, later, rfl⟩ := keeps.split others
        exact ⟨_ :: other, behind, form, later, rfl⟩
    | same | literal => exact absurd (List.cons.inj shape).1 notQuote

theorem keeps_nil (form : Form []) : Keeps Form [] where
  split respelled := ⟨[], _, form, respelled, rfl⟩

theorem keeps_of_no_quote (form : Form text) (noQuote : 0x22 ∉ text) : Keeps Form text := by
  induction text generalizing Form with
  | nil => exact keeps_nil form
  | cons byte text ih =>
      rw [List.mem_cons, not_or] at noQuote
      exact .cons (Ne.symm noQuote.1) (ih form noQuote.2)

theorem Keeps.of_respelled (keeps : Keeps Form text) {bytes : List UInt8}
    (respelled : Respelled text bytes) : Form bytes := by
  rw [← List.append_nil text] at respelled
  obtain ⟨other, behind, form, none, rfl⟩ := keeps.split respelled
  cases none
  rwa [List.append_nil]

end Keeping

theorem keeps_blanks {blanks : List UInt8} (blank : Blanks blanks) : Keeps Blanks blanks :=
  keeps_of_no_quote blank fun quote => absurd (blank 0x22 quote) (by decide)

theorem keeps_lead {first : Bool} {lead : List UInt8} (leads : Lead first lead) :
    Keeps (Lead first) lead := by
  cases leads with
  | first blank => exact (keeps_blanks blank).imp fun _ blank => .first blank
  | next before after =>
      refine (keeps_blanks before).bind fun _ before => .cons (by decide) ?_
      exact (keeps_blanks after).imp fun _ after => .next before after

theorem Digits.no_quote {digits : List UInt8} (all : Digits digits) : 0x22 ∉ digits :=
  fun quote => absurd (all 0x22 quote) (by decide)

theorem SignText.no_quote {text : List UInt8} {negative : Bool} (form : SignText text negative) :
    0x22 ∉ text := by
  cases form <;> decide

theorem DecimalsText.no_quote {text decimals : List UInt8} (form : DecimalsText text decimals) :
    0x22 ∉ text := by
  cases form with
  | absent => exact List.not_mem_nil
  | present _ all =>
      rw [List.mem_cons, not_or]
      exact ⟨by decide, all.no_quote⟩

theorem ExponentText.no_quote {text : List UInt8} {exponent : Option Exponent}
    (form : ExponentText text exponent) : 0x22 ∉ text := by
  cases form with
  | absent => exact List.not_mem_nil
  | present announces sign _ all =>
      rw [List.mem_cons, List.mem_append, not_or, not_or]
      refine ⟨?_, sign.no_quote, all.no_quote⟩
      rcases announces with rfl | rfl <;> decide

theorem NumeralText.no_quote {text : List UInt8} {numeral : Numeral}
    (form : NumeralText text numeral) : 0x22 ∉ text := by
  obtain ⟨negative, whole, decimals, exponent⟩ := form
  simp only [List.mem_append, not_or]
  refine ⟨?_, whole.digits.no_quote, decimals.no_quote, exponent.no_quote⟩
  cases negative <;> decide

theorem keeps_flagText {text : List UInt8} {value : Bool} (form : FlagText text value) :
    Keeps (FlagText · value) text :=
  keeps_of_no_quote form (by cases form <;> decide)

theorem keeps_ordinalText {text : List UInt8} {value : UInt32} (form : OrdinalText text value) :
    Keeps (OrdinalText · value) text :=
  keeps_of_no_quote form form.1.digits.no_quote

theorem keeps_textLiteral {bytes : List UInt8} {text : String} (form : TextLiteral bytes text) :
    Keeps (TextLiteral · text) bytes where
  split respelled := by
    obtain ⟨body, spelled, rfl⟩ := form
    rw [List.cons_append, List.append_assoc] at respelled
    obtain ⟨other, behind, spells, -, later, rfl⟩ :=
      Respelled.of_literal spelled.unchecked.enclosed respelled
    exact ⟨_, behind, ⟨other, spells _ spelled, rfl⟩, later, by simp⟩

theorem keeps_unchecked {body : List UInt8} (form : Unchecked body) :
    Keeps (fun text => ∃ body, Unchecked body ∧ text = 0x22 :: (body ++ [0x22]))
      (0x22 :: (body ++ [0x22])) where
  split respelled := by
    rw [List.cons_append, List.append_assoc] at respelled
    obtain ⟨other, behind, -, unchecked, later, rfl⟩ :=
      Respelled.of_literal form.enclosed respelled
    exact ⟨_, behind, ⟨other, unchecked form, rfl⟩, later, by simp⟩

theorem keeps_scalarText {text : List UInt8} (form : ScalarText text) : Keeps ScalarText text := by
  cases form with
  | null => exact keeps_of_no_quote .null (by decide)
  | yes => exact keeps_of_no_quote .yes (by decide)
  | no => exact keeps_of_no_quote .no (by decide)
  | number form => exact keeps_of_no_quote (.number form) form.no_quote
  | literal form =>
      refine (keeps_unchecked form).imp ?_
      rintro _ ⟨other, form, rfl⟩
      exact .literal form

theorem keeps_keyText {bracket : Bracket} {key : List UInt8} (form : KeyText bracket key) :
    Keeps (KeyText bracket) key := by
  cases form with
  | item => exact keeps_nil .item
  | @key body gap form blank =>
      have shape : 0x22 :: (body ++ 0x22 :: (gap ++ [0x3A])) =
          (0x22 :: (body ++ [0x22])) ++ (gap ++ [0x3A]) := by simp
      rw [shape]
      refine (keeps_unchecked form).bind ?_
      rintro _ ⟨other, form, rfl⟩
      refine (keeps_blanks blank).bind fun gap blank => ?_
      refine keeps_of_no_quote ?_ (by decide)
      simpa using KeyText.key form blank

theorem keeps_skippable {text : List UInt8} (form : Skippable text) : Keeps Skippable text := by
  refine @Skippable.rec (fun text _ => Keeps Skippable text)
    (fun bracket first body _ => Keeps (SkippableEntries bracket first) body)
    ?scalar ?nested ?close ?entry text form
  case scalar => exact fun form => (keeps_scalarText form).imp fun _ form => .scalar form
  case nested =>
    intro bracket body _ entries
    exact .cons (by cases bracket <;> decide) (entries.imp fun _ entries => .nested entries)
  case close =>
    intro bracket first blanks blank
    refine (keeps_blanks blank).bind fun _ blank => ?_
    exact keeps_of_no_quote (.close blank) (by cases bracket <;> decide)
  case entry =>
    intro bracket first lead key gap text rest leads keyForm blankGap _ _ value others
    refine (keeps_lead leads).bind fun _ leads => ?_
    refine (keeps_keyText keyForm).bind fun _ keyForm => ?_
    refine (keeps_blanks blankGap).bind fun _ blankGap => ?_
    refine value.bind fun _ value => ?_
    exact others.imp fun _ others => .entry leads keyForm blankGap value others

theorem keeps_entries {α : Type} {closing : UInt8} {Entry : List UInt8 → α → Prop} {first : Bool}
    {body : List UInt8} {values : List α} (entries : Entries closing Entry first body values)
    (notQuote : closing ≠ 0x22)
    (keeps : ∀ value ∈ values, ∀ text, Entry text value → Keeps (Entry · value) text) :
    Keeps (Entries closing Entry first · values) body := by
  induction entries with
  | close blank =>
      refine (keeps_blanks blank).bind fun _ blank => .cons notQuote ?_
      exact keeps_nil (.close blank)
  | entry leads form _ ih =>
      refine (keeps_lead leads).bind fun _ leads => ?_
      refine (keeps _ List.mem_cons_self _ form).bind fun _ form => ?_
      refine (ih fun value listed => keeps value (List.mem_cons_of_mem _ listed)).imp ?_
      exact fun _ others => .entry leads form others

theorem keeps_listText {α : Type} {Form : List UInt8 → α → Prop} {text : List UInt8}
    {values : List α} (form : ListText Form text values)
    (keeps : ∀ {text value}, Form text value → Keeps (Form · value) text) :
    Keeps (ListText Form · values) text := by
  obtain ⟨body, entries, rfl⟩ := form
  refine .cons (by decide) ?_
  refine (keeps_entries entries (by decide) fun _ _ _ => keeps).imp ?_
  exact fun body entries => ⟨body, entries, rfl⟩

theorem keeps_nameText {α : Type} {names : List (String × α)} {text : List UInt8} {value : α}
    (form : NameText names text value) : Keeps (NameText names · value) text := by
  cases form with
  | plain listed form => exact (keeps_textLiteral form).imp fun _ form => .plain listed form
  | key listed before form gap blank after =>
      refine .cons (by decide) ?_
      refine (keeps_blanks before).bind fun _ before => ?_
      refine (keeps_textLiteral form).bind fun _ form => ?_
      refine (keeps_blanks gap).bind fun _ gap => .cons (by decide) ?_
      refine (keeps_blanks blank).bind fun _ blank => ?_
      refine Keeps.bind (keeps_of_no_quote rfl (by decide)) ?_
      rintro _ rfl
      refine (keeps_blanks after).bind fun _ after => .cons (by decide) ?_
      exact keeps_nil (.key listed before form gap blank after)

section Records

variable {ρ : Type} {fields : List (Field ρ)} {record : ρ} {text : List UInt8}

theorem keeps_entryText {key : Option String}
    (keeps : ∀ field ∈ fields, ∀ text, field.Form text record → Keeps (field.Form · record) text)
    (form : EntryText fields record text key) : Keeps (EntryText fields record · key) text := by
  cases form with
  | known listed keyForm gap blank form =>
      refine (keeps_textLiteral keyForm).bind fun _ keyForm => ?_
      refine (keeps_blanks gap).bind fun _ gap => .cons (by decide) ?_
      refine (keeps_blanks blank).bind fun _ blank => ?_
      exact (keeps _ listed _ form).imp fun _ form => .known listed keyForm gap blank form
  | other keyForm unknown gap blank form =>
      refine (keeps_textLiteral keyForm).bind fun _ keyForm => ?_
      refine (keeps_blanks gap).bind fun _ gap => .cons (by decide) ?_
      refine (keeps_blanks blank).bind fun _ blank => ?_
      exact (keeps_skippable form).imp fun _ form => .other keyForm unknown gap blank form

theorem keeps_recordText
    (keeps : ∀ field ∈ fields, ∀ text, field.Form text record → Keeps (field.Form · record) text)
    (form : RecordText fields text record) : Keeps (RecordText fields · record) text := by
  cases form with
  | object entries once =>
      refine .cons (by decide) ?_
      refine (keeps_entries entries (by decide) fun _ _ _ => keeps_entryText keeps).imp ?_
      exact fun _ entries => .object entries once
  | list entries =>
      refine .cons (by decide) ?_
      refine (keeps_entries entries (by decide) keeps).imp ?_
      exact fun _ entries => .list entries

end Records

/-! ## In a payload -/

section Payloads

variable {α : Type} {Form : List UInt8 → α → Prop}

/-- The type travels lawfully in a form that is kept, and these are places of the literals that are
decoded with its values and of the texts that are parts of them. -/
structure Wire.Spellable (wire : Wire α) (Form : List UInt8 → α → Prop)
    (Literals : List UInt8 → Prop) (Texts : List UInt8 → ((String → String) → α → α) → Prop) :
    Prop extends wire.Lawful Form where
  keeps {text : List UInt8} {value : α} : Form text value → Keeps (Form · value) text
  meets {front : List UInt8} : Literals front → wire.reader.Meets front
  embeds {front : List UInt8} {carry : (String → String) → α → α} :
    Texts front carry → wire.reader.Embeds front Reader.text carry

theorem Wire.Spellable.holds {wire : Wire α} {Literals : List UInt8 → Prop}
    {Texts : List UInt8 → ((String → String) → α → α) → Prop}
    (spellable : wire.Spellable Form Literals Texts) {payload other : List UInt8}
    (respelled : Respelled payload other) {value : α} (holds : Holds Form payload value) :
    Holds Form other value := by
  obtain ⟨before, text, after, blankBefore, form, blankAfter, rfl⟩ := holds
  have whole : Keeps (Holds Form · value) (before ++ (text ++ after)) := by
    refine (keeps_blanks blankBefore).bind fun before blankBefore => ?_
    refine (spellable.keeps form).bind fun text form => ?_
    refine (keeps_blanks blankAfter).imp fun after blankAfter => ?_
    exact ⟨before, text, after, blankBefore, form, blankAfter, rfl⟩
  exact whole.of_respelled respelled

/-- All spellings of a payload are accepted alike, and as the same value. -/
theorem decode_respelled [wire : Wire α] {Literals : List UInt8 → Prop}
    {Texts : List UInt8 → ((String → String) → α → α) → Prop}
    (spellable : wire.Spellable Form Literals Texts) {payload other : List UInt8}
    (respelled : Respelled payload other) {value : α} :
    decode payload = .ok value ↔ decode other = .ok value := by
  rw [decode_eq_ok_iff spellable.toLawful, decode_eq_ok_iff spellable.toLawful]
  exact ⟨spellable.holds respelled, spellable.holds respelled.symm⟩

inductive Itself : List UInt8 → ((String → String) → String → String) → Prop where
  | text : Itself [] id

theorem text_spellable : (inferInstance : Wire String).Spellable TextLiteral (· = []) Itself where
  toLawful := text_lawful
  keeps := keeps_textLiteral
  meets none := by
    rw [none]
    exact meets_text
  embeds itself := by
    cases itself
    exact .refl _

end Payloads

end EquiJoin.Json
