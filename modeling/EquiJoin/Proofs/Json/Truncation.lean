import EquiJoin.Proofs.Json.Value

/-!
# Values that are cut off

Of a value that was written, only a front part arrives.  Wherever it is cut, the reader asks for
the bytes that are missing: it reports the end of the payload, and it reports it there
(`Starves`).  Only a number gives nothing away about being cut, and is read as far as it goes
(`Drains`); whatever stands around it then misses its own end.
-/

set_option autoImplicit false

namespace EquiJoin.Json

open Utf8 (ofChars)

def Cut (front text : List UInt8) : Prop :=
  ∃ byte others, text = front ++ byte :: others

variable {front text first second : List UInt8}

theorem not_cut_nil : ¬ Cut front [] := by
  rintro ⟨byte, others, shape⟩
  simp at shape

theorem cut_nil_cons (byte : UInt8) (others : List UInt8) : Cut [] (byte :: others) :=
  ⟨byte, others, rfl⟩

theorem Cut.length_lt (cut : Cut front text) : front.length < text.length := by
  obtain ⟨byte, others, rfl⟩ := cut
  rw [List.length_append, List.length_cons]
  omega

theorem cut_take {length : Nat} (short : length < text.length) : Cut (text.take length) text :=
  ⟨_, _, by rw [← List.drop_eq_getElem_cons short, List.take_append_drop]⟩

theorem Cut.cons_cases {byte : UInt8} (cut : Cut front (byte :: text)) :
    front = [] ∨ ∃ others, front = byte :: others ∧ Cut others text := by
  obtain ⟨missing, others, shape⟩ := cut
  cases front with
  | nil => exact .inl rfl
  | cons head front =>
      obtain ⟨rfl, behind⟩ := List.cons.inj shape
      exact .inr ⟨front, rfl, missing, others, behind⟩

theorem Cut.append_cases (cut : Cut front (first ++ second)) :
    Cut front first ∨ ∃ others, front = first ++ others ∧ Cut others second := by
  induction first generalizing front with
  | nil => exact .inr ⟨front, rfl, cut⟩
  | cons byte first ih =>
      rcases cut.cons_cases with rfl | ⟨others, rfl, inner⟩
      · exact .inl (cut_nil_cons byte first)
      · rcases ih inner with ⟨missing, behind, shape⟩ | ⟨behind, rfl, later⟩
        · exact .inl ⟨missing, behind, by rw [shape, List.cons_append]⟩
        · exact .inr ⟨behind, rfl, later⟩

theorem Cut.append_cases_ne_nil (cut : Cut front (first ++ second)) :
    front <+: first ∨ ∃ others, others ≠ [] ∧ front = first ++ others ∧ Cut others second := by
  rcases cut.append_cases with ⟨byte, others, shape⟩ | ⟨others, rfl, later⟩
  · exact .inl ⟨byte :: others, shape.symm⟩
  · by_cases nothing : others = []
    · exact .inl (by simp [nothing])
    · exact .inr ⟨others, nothing, rfl, later⟩

theorem Cut.eq_cons {byte : UInt8} (cut : Cut front (byte :: text)) (begun : front ≠ []) :
    ∃ others, front = byte :: others := by
  rcases cut.cons_cases with rfl | ⟨others, rfl, _⟩
  · exact absurd rfl begun
  · exact ⟨others, rfl⟩

theorem Cut.prefix_of_concat {byte : UInt8} (cut : Cut front (text ++ [byte])) :
    front <+: text := by
  rcases cut.append_cases_ne_nil with short | ⟨others, begun, rfl, inner⟩
  · exact short
  · obtain ⟨left, rfl⟩ := inner.eq_cons begun
    exact absurd inner (by rintro ⟨_, _, shape⟩; simp at shape)

theorem Blanks.of_isPrefix {blanks : List UInt8} (blank : Blanks blanks) (cut : front <+: blanks) :
    Blanks front :=
  fun byte member => blank byte (cut.subset member)

theorem Cut.exists_blanks_append {blanks : List UInt8} (blank : Blanks blanks)
    (present : text ≠ []) (cut : Cut front (blanks ++ text)) :
    ∃ before left, Blanks before ∧ Cut left text ∧ front = before ++ left := by
  rcases cut.append_cases_ne_nil with short | ⟨left, _, rfl, inner⟩
  · obtain ⟨byte, others, rfl⟩ := List.exists_cons_of_ne_nil present
    exact ⟨front, [], blank.of_isPrefix short, cut_nil_cons byte others, (List.append_nil _).symm⟩
  · exact ⟨blanks, left, blank, inner, rfl⟩

theorem Cut.isPrefix (cut : Cut front text) : front <+: text := by
  obtain ⟨byte, others, rfl⟩ := cut
  exact List.prefix_append _ _

theorem Ends.of_isPrefix {rest : List UInt8} (ends : Ends rest) (cut : front <+: rest) :
    Ends front := by
  obtain ⟨behind, rfl⟩ := cut
  cases front with
  | nil =>
      intro byte member
      cases member
  | cons byte front => exact ends

theorem Entries.ends_of_cut {α : Type} {closing : UInt8} {Entry : List UInt8 → α → Prop}
    {values : List α} (entries : Entries closing Entry false text values)
    (stops : carriesOn closing = false) (cut : Cut front text) : Ends front := by
  have ends := entries.ends stops []
  rw [List.append_nil] at ends
  exact ends.of_isPrefix cut.isPrefix

/-! ## Faults at the end of a payload -/

def Cause.wanting : List Cause := [.endOfList, .endOfObject, .endOfText, .endOfValue]

theorem Cause.message_of_wanting {cause : Cause} (wants : cause ∈ wanting) :
    ∃ rest, cause.message = "EOF while parsing" ++ rest := by
  simp only [wanting, List.mem_cons, List.not_mem_nil, or_false] at wants
  rcases wants with rfl | rfl | rfl | rfl
  · exact ⟨" a list", rfl⟩
  · exact ⟨" an object", rfl⟩
  · exact ⟨" a string", rfl⟩
  · exact ⟨" a value", rfl⟩

/-- Reading stopped at the end of the payload, because there was no more of it. -/
def Starves {α : Type} (outcome : Except Fault α) : Prop :=
  ∃ cause ∈ Cause.wanting, outcome = .error ⟨cause, 0⟩

/-- Reading used up the payload, whether it came to an end of its own or not. -/
def Drains {α : Type} (outcome : Except Fault (α × List UInt8)) : Prop :=
  Starves outcome ∨ ∃ value, outcome = .ok (value, [])

section Outcomes

variable {α β : Type}

theorem starves_endOfList : Starves (.error (.behind .endOfList []) : Except Fault α) :=
  ⟨.endOfList, by decide, rfl⟩

theorem starves_endOfObject : Starves (.error (.behind .endOfObject []) : Except Fault α) :=
  ⟨.endOfObject, by decide, rfl⟩

theorem starves_endOfText : Starves (.error (.before .endOfText []) : Except Fault α) :=
  ⟨.endOfText, by decide, rfl⟩

theorem starves_endOfValue : Starves (.error (.behind .endOfValue []) : Except Fault α) :=
  ⟨.endOfValue, by decide, rfl⟩

theorem Starves.bind {outcome : Except Fault α} (starves : Starves outcome)
    (next : α → Except Fault β) : Starves (outcome >>= next) := by
  obtain ⟨cause, wants, rfl⟩ := starves
  exact ⟨cause, wants, rfl⟩

end Outcomes

theorem starves_readHexUnit {digits : List UInt8} {unit : Nat} (form : HexUnit digits unit)
    (cut : Cut front digits) : Starves (readHexUnit front) := by
  have short := cut.length_lt
  rw [form.length] at short
  rw [readHexUnit, if_pos short]
  exact starves_endOfText

theorem starves_readEscape {piece : List UInt8} {character : Char} (form : Escape piece character)
    (cut : Cut front piece) : Starves (readEscape front) := by
  cases form with
  | letter listed =>
      rcases cut.cons_cases with rfl | ⟨others, rfl, inner⟩
      · exact starves_endOfText
      · exact absurd inner not_cut_nil
  | numbered unit =>
      rcases cut.cons_cases with rfl | ⟨others, rfl, inner⟩
      · exact starves_endOfText
      · exact (starves_readHexUnit unit inner).bind _
  | @paired highDigits lowDigits high low _ highUnit highFrom highTo lowUnit =>
      rcases cut.cons_cases with rfl | ⟨others, rfl, inner⟩
      · exact starves_endOfText
      · rcases inner.append_cases with high | ⟨behind, rfl, later⟩
        · exact (starves_readHexUnit highUnit high).bind _
        · -- The first half of the pair is whole, so the second half is asked for.
          have highRun : readHexUnit (highDigits ++ behind) = .ok (high, behind) :=
            readHexUnit_eq_ok_iff.mpr ⟨highDigits, highUnit, rfl⟩
          have lowStarves : Starves (readLowSurrogate behind) := by
            rcases later.cons_cases with rfl | ⟨letters, rfl, lettered⟩
            · exact starves_endOfText
            · rcases lettered.cons_cases with rfl | ⟨digits, rfl, short⟩
              · exact starves_endOfText
              · exact (starves_readHexUnit lowUnit short).bind _
          have highNotLow : isLowSurrogate high = false := by
            simp only [isLowSurrogate, Bool.and_eq_false_iff, decide_eq_false_iff_not]
            omega
          have isHigh : isHighSurrogate high = true := by
            simp only [isHighSurrogate, Bool.and_eq_true, decide_eq_true_eq]
            omega
          rw [readEscape_number, readNumbered, highRun]
          simp only [bind, Except.bind, highNotLow, isHigh, Bool.false_eq_true, ↓reduceIte]
          exact lowStarves.bind _

theorem starves_readContent {body content : List UInt8} (pieces : Pieces body content)
    (cut : Cut front (body ++ [0x22])) : Starves (readContent front) := by
  have ended : Starves (readContent []) := by
    rw [readContent]
    exact starves_endOfText
  induction pieces generalizing front with
  | nil =>
      rcases cut.cons_cases with rfl | ⟨others, rfl, inner⟩
      · exact ended
      · exact absurd inner not_cut_nil
  | raw noControl notQuote notBackslash _ ih =>
      rcases cut.cons_cases with rfl | ⟨others, rfl, inner⟩
      · exact ended
      · rw [readContent]
        · rw [if_neg noControl]
          exact (ih inner).bind _
        · exact notQuote
        · exact notBackslash
  | @escaped piece body content character form _ ih =>
      rcases cut.cons_cases with rfl | ⟨others, rfl, inner⟩
      · exact ended
      · change Cut others (piece ++ body ++ [0x22]) at inner
        rw [List.append_assoc] at inner
        rcases inner.append_cases with escape | ⟨behind, rfl, later⟩
        · obtain ⟨cause, wants, escapeRun⟩ := starves_readEscape form escape
          refine ⟨cause, wants, ?_⟩
          rw [readContent]
          split
          · next failed => rw [escapeRun] at failed; cases failed; rfl
          · next found => rw [escapeRun] at found; cases found
        · have escapeRun := readEscape_of_escape form behind
          rw [readContent]
          split
          · next failed => rw [escapeRun] at failed; cases failed
          · next found =>
              rw [escapeRun] at found
              obtain ⟨rfl, rfl⟩ := Prod.mk.inj (Except.ok.inj found)
              exact (ih later).bind _

theorem starves_readLiteral {body : List UInt8} {value : String}
    (form : TextLiteral (0x22 :: body) value) (cut : Cut front body) :
    Starves (readLiteral front) := by
  obtain ⟨spelling, spelled, shape⟩ := form
  obtain ⟨-, rfl⟩ := List.cons.inj shape
  exact (starves_readContent (pieces_of_spelled spelled) cut).bind _

def Wire.Writes {α : Type} (wire : Wire α) (text : List UInt8) (value : α) : Prop :=
  ∃ (layout : Layout) (depth : Nat), layout.Blank ∧
    text = ofChars ((wire.document value).write layout depth)

/-- Wherever a written value is cut, its reader uses up what there is of it. -/
structure Wire.Truncates {α : Type} (wire : Wire α) : Prop where
  drains {blanks front text : List UInt8} {value : α} : Blanks blanks → wire.Writes text value →
    Cut front text → Drains (wire.reader.read (blanks ++ front))

theorem Wire.Lawful.form_of_writes {α : Type} {wire : Wire α} {Form : List UInt8 → α → Prop}
    (lawful : wire.Lawful Form) {value : α} (written : wire.Writes text value) :
    Form text value := by
  obtain ⟨layout, depth, blank, rfl⟩ := written
  exact lawful.written blank depth value

theorem text_truncates : (inferInstance : Wire String).Truncates where
  drains := by
    intro blanks front text value blank written cut
    have form := text_lawful.form_of_writes written
    obtain ⟨body, rfl⟩ := form.eq_cons
    change Drains (readText (blanks ++ front))
    rcases cut.cons_cases with rfl | ⟨others, rfl, inner⟩
    · rw [readText, skipBlanks_append blank]
      exact .inl starves_endOfValue
    · rw [readText_eq_of_literal blank]
      exact .inl (starves_readLiteral form inner)

theorem starves_readLetters {letters : List UInt8} (cut : Cut front letters) :
    Starves (readLetters letters front) := by
  induction letters generalizing front with
  | nil => exact absurd cut not_cut_nil
  | cons letter letters ih =>
      rcases cut.cons_cases with rfl | ⟨others, rfl, inner⟩
      · exact ⟨.endOfValue, by decide, rfl⟩
      · rw [readLetters, if_pos rfl]
        exact ih inner

theorem flag_truncates : (inferInstance : Wire Bool).Truncates where
  drains := by
    intro blanks front text value blank written cut
    have form := flag_lawful.form_of_writes written
    change Drains (readFlag (blanks ++ front))
    cases form with
    | yes | no =>
        rcases cut.cons_cases with rfl | ⟨others, rfl, inner⟩
        · rw [readFlag, skipBlanks_append blank]
          exact .inl starves_endOfValue
        · rw [readFlag, skipBlanks_solid blank (by decide)]
          exact .inl ((starves_readLetters inner).bind _)

theorem Digits.of_isPrefix {digits : List UInt8} (all : Digits digits) (cut : front <+: digits) :
    Digits front :=
  fun byte member => all byte (cut.subset member)

theorem ordinalText_of_cut {value : UInt32} (form : OrdinalText text value) (cut : Cut front text)
    (begun : front ≠ []) : ∃ smaller, OrdinalText front smaller := by
  obtain ⟨whole, number⟩ := form
  have begins : Whole front := by
    cases whole with
    | zero =>
        rcases cut.cons_cases with rfl | ⟨others, rfl, inner⟩
        · exact absurd rfl begun
        · exact absurd inner not_cut_nil
    | other notZero isDigit all =>
        rcases cut.cons_cases with rfl | ⟨others, rfl, inner⟩
        · exact absurd rfl begun
        · exact .other notZero isDigit (all.of_isPrefix inner.isPrefix)
  obtain ⟨byte, others, rfl⟩ := cut
  have small : decimal front < UInt32.size := by
    have below := value.toNat_lt
    have grows := le_foldl_shift (decimal front) (byte :: others)
    rw [decimal, List.foldl_append] at number
    rw [decimal] at grows ⊢
    simp only [UInt32.size]
    omega
  refine ⟨UInt32.ofNat (decimal front), begins, ?_⟩
  rw [UInt32.toNat_ofNat', Nat.mod_eq_of_lt small]

theorem ordinal_truncates : (inferInstance : Wire UInt32).Truncates where
  drains := by
    intro blanks front text value blank written cut
    change Drains (readOrdinal (blanks ++ front))
    by_cases begun : front = []
    · rw [begun, readOrdinal, skipBlanks_append blank]
      exact .inl starves_endOfValue
    · obtain ⟨smaller, form⟩ :=
        ordinalText_of_cut (ordinal_lawful.form_of_writes written) cut begun
      have run := readOrdinal_of_ordinalText blank form (ends_of_blanks blanks_nil)
      rw [List.append_nil] at run
      exact .inr ⟨smaller, run⟩

theorem named_truncates {α : Type} [Named α] : (Named.wire α).Truncates where
  drains := by
    rintro blanks front text value blank ⟨layout, depth, _, shape⟩ cut
    have form : TextLiteral text (Named.name value) := by
      rw [shape]
      exact textLiteral_literal (Named.name value)
    obtain ⟨body, rfl⟩ := form.eq_cons
    change Drains (readNamed α (blanks ++ front))
    rcases cut.cons_cases with rfl | ⟨others, rfl, inner⟩
    · rw [readNamed, skipBlanks_append blank]
      exact .inl starves_endOfValue
    · rw [readNamed, skipBlanks_solid blank (by decide)]
      exact .inl ((starves_readLiteral form inner).bind _)

/-- In front of an entry the closing bracket is missing, or behind a comma the entry itself. -/
theorem starves_turn {turn : Bool → List UInt8 → Except Fault Turn}
    (blanks : ∀ first blanks, Blanks blanks → Starves (turn first blanks))
    (comma : ∀ before after, Blanks before → Blanks after →
      Starves (turn false (before ++ 0x2C :: after)))
    {first : Bool} {lead : List UInt8} (leads : Lead first lead) (cut : front <+: lead) :
    Starves (turn first front) := by
  cases leads with
  | first blank => exact blanks true _ (blank.of_isPrefix cut)
  | @next before after blankBefore blankAfter =>
      rcases List.prefix_or_prefix_of_prefix cut (List.prefix_append before _) with
        short | ⟨behind, rfl⟩
      · exact blanks false _ (blankBefore.of_isPrefix short)
      · rw [List.prefix_append_right_inj] at cut
        cases behind with
        | nil =>
            rw [List.append_nil]
            exact blanks false _ blankBefore
        | cons byte behind =>
            obtain ⟨rfl, left⟩ := List.cons_prefix_cons.mp cut
            exact comma before behind blankBefore (blankAfter.of_isPrefix left)

theorem starves_listTurn_blanks (first : Bool) (blanks : List UInt8) (blank : Blanks blanks) :
    Starves (listTurn first blanks) := by
  rw [listTurn, skipBlanks_blanks blank]
  exact starves_endOfList

theorem starves_listTurn {first : Bool} {lead : List UInt8} (leads : Lead first lead)
    (cut : front <+: lead) : Starves (listTurn first front) := by
  refine starves_turn starves_listTurn_blanks ?_ leads cut
  intro before after blankBefore blankAfter
  rw [listTurn_comma blankBefore, skipBlanks_blanks blankAfter]
  exact starves_endOfValue

section Lists

variable {α : Type} {wire : Wire α} {Form : List UInt8 → α → Prop}

theorem starves_readItems_blanks (item : Reader α) {blanks : List UInt8} (first : Bool)
    (blank : Blanks blanks) : Starves (readItems item first blanks) := by
  rw [readItems_eq]
  exact (starves_listTurn_blanks first blanks blank).bind _

theorem starves_readItems (lawful : wire.Lawful Form) (truncates : wire.Truncates) {first : Bool}
    {body : List UInt8} {values : List α} (entries : Entries 0x5D wire.Writes first body values)
    (cut : Cut front body) : Starves (readItems wire.reader first front) := by
  induction entries generalizing front with
  | @close first blanks blank =>
      exact starves_readItems_blanks wire.reader first (blank.of_isPrefix cut.prefix_of_concat)
  | @entry first lead text others value values leads written behind ih =>
      rcases cut.append_cases_ne_nil with short | ⟨inside, begun, rfl, inner⟩
      · rw [readItems_eq]
        exact (starves_listTurn leads short).bind _
      · have form := lawful.form_of_writes written
        obtain ⟨byte, tail, shape, solid, opens⟩ := lawful.begins form
        rw [readItems_eq]
        obtain ⟨left, same⟩ : ∃ left, inside = byte :: left := by
          rw [shape] at inner
          exact inner.eq_cons begun
        rw [same, listTurn_entry leads solid opens, ← same]
        change Starves (wire.reader.read inside >>= fun item =>
          readItems wire.reader false item.2 >>= fun others =>
            pure (item.1 :: others.1, others.2))
        rcases inner.append_cases with short | ⟨more, rfl, later⟩
        · rcases truncates.drains blanks_nil written short with starves | ⟨value, run⟩
          · exact starves.bind _
          · rw [List.nil_append] at run
            rw [run]
            exact (starves_readItems_blanks wire.reader false blanks_nil).bind _
        · have run := lawful.complete blanks_nil form
            (behind.ends_of_cut (by decide) later)
          rw [List.nil_append] at run
          rw [run]
          exact (ih later).bind _

theorem entries_of_writes [wire : Wire α] {text : List UInt8} {values : List α}
    (written : (inferInstance : Wire (List α)).Writes text values) :
    ∃ body, Entries 0x5D wire.Writes true body values ∧ text = 0x5B :: body := by
  obtain ⟨layout, depth, blank, rfl⟩ := written
  have item : ∀ value : α,
      wire.Writes (ofChars ((wire.document value).write layout (depth + 1))) (id value) :=
    fun value => ⟨layout, depth + 1, blank, rfl⟩
  obtain ⟨body, entries, shape⟩ := entries_enclose blank depth '[' ']' rfl _ id item values
  rw [List.map_id] at entries
  refine ⟨body, entries, ?_⟩
  change ofChars (layout.enclose depth '[' ']'
    (Document.writeItems layout (depth + 1) (values.map wire.document))) = _
  rw [writeItems_eq_map, shape]
  rfl

theorem list_truncates [wire : Wire α] (lawful : wire.Lawful Form)
    (truncates : wire.Truncates) : (inferInstance : Wire (List α)).Truncates where
  drains := by
    intro blanks front text values blank written cut
    obtain ⟨body, entries, rfl⟩ := entries_of_writes written
    change Drains (readList wire.reader (blanks ++ front))
    rcases cut.cons_cases with rfl | ⟨others, rfl, inner⟩
    · rw [readList, skipBlanks_append blank]
      exact .inl starves_endOfValue
    · rw [readList, skipBlanks_solid blank (by decide)]
      exact .inl (starves_readItems lawful truncates entries inner)

end Lists

theorem decode_of_starves {α : Type} [wire : Wire α] {payload : List UInt8}
    (starves : Starves (wire.reader.read payload)) :
    ∃ cause ∈ Cause.wanting, (decode payload : Except Malformed α) =
      .error ⟨cause, Place.behind payload⟩ := by
  obtain ⟨cause, wants, whole⟩ : Starves (readWhole wire.reader payload) := starves.bind _
  refine ⟨cause, wants, ?_⟩
  rw [decode, whole]
  simp only [Fault.place, Nat.sub_zero, List.take_length]

end EquiJoin.Json
