import EquiJoin.Json.Skip
import EquiJoin.Proofs.Json.Literal
import EquiJoin.Proofs.Json.Numeral

/-!
# The form of skipped values

`Skippable` is the form of the values that may stand in a member that nobody asks for: JSON of any
depth, in which literals need only be well shaped.  A value is passed over exactly if it has this
form (`Skips.holds`, `skipValue_of_skippable`).  While brackets are open around a value, the run
that passes over the value goes on to close them; `Closes` is what that run consumes.
-/

set_option autoImplicit false

namespace EquiJoin.Json

inductive ScalarText : List UInt8 → Prop where
  | null : ScalarText (0x6E :: nullTail)
  | yes : ScalarText (0x74 :: trueTail)
  | no : ScalarText (0x66 :: falseTail)
  | literal {body : List UInt8} : Unchecked body → ScalarText (0x22 :: (body ++ [0x22]))
  | number {text : List UInt8} {numeral : Numeral} : NumeralText text numeral → ScalarText text

inductive KeyText : Bracket → List UInt8 → Prop where
  | item : KeyText .list []
  | key {body gap : List UInt8} :
      Unchecked body → Blanks gap → KeyText .object (0x22 :: (body ++ 0x22 :: (gap ++ [0x3A])))

mutual

inductive Skippable : List UInt8 → Prop where
  | scalar {text : List UInt8} : ScalarText text → Skippable text
  | nested {bracket : Bracket} {body : List UInt8} :
      SkippableEntries bracket true body → Skippable (bracket.opening :: body)

inductive SkippableEntries : Bracket → Bool → List UInt8 → Prop where
  | close {bracket : Bracket} {first : Bool} {blanks : List UInt8} :
      Blanks blanks → SkippableEntries bracket first (blanks ++ [bracket.closing])
  | entry {bracket : Bracket} {first : Bool} {lead key gap text rest : List UInt8} :
      Lead first lead → KeyText bracket key → Blanks gap → Skippable text →
        SkippableEntries bracket false rest →
          SkippableEntries bracket first (lead ++ (key ++ (gap ++ (text ++ rest))))

end

/-- What closes the brackets, the innermost of which has just had an entry. -/
inductive Closes : List Bracket → List UInt8 → Prop where
  | nil : Closes [] []
  | cons {bracket : Bracket} {outer : List Bracket} {body text : List UInt8} :
      SkippableEntries bracket false body → Closes outer text →
        Closes (bracket :: outer) (body ++ text)

theorem scalarText_of_skipScalar {bytes rest : List UInt8} (run : skipScalar bytes = .ok rest) :
    ∃ text, ScalarText text ∧ bytes = text ++ rest := by
  unfold skipScalar at run
  split at run
  · cases run
  · exact ⟨_, .null, by rw [readLetters_eq_ok_iff.mp run]; rfl⟩
  · exact ⟨_, .yes, by rw [readLetters_eq_ok_iff.mp run]; rfl⟩
  · exact ⟨_, .no, by rw [readLetters_eq_ok_iff.mp run]; rfl⟩
  · obtain ⟨body, form, rfl⟩ := unchecked_of_skipLiteral run
    exact ⟨_, .literal form, by simp⟩
  · split at run
    · obtain ⟨text, numeral, form, shape⟩ := numeralText_of_skipNumber run
      exact ⟨text, .number form, shape⟩
    · cases run

theorem keyText_of_skipToValue {bracket : Bracket} {bytes rest : List UInt8}
    (run : bracket.skipToValue bytes = .ok rest) :
    ∃ blanks key, Blanks blanks ∧ KeyText bracket key ∧ bytes = blanks ++ (key ++ rest) := by
  cases bracket with
  | list =>
      cases run
      exact ⟨[], [], blanks_nil, .item, rfl⟩
  | object =>
      simp only [Bracket.skipToValue, skipKey] at run
      split at run
      · cases run
      · next tail found =>
          obtain ⟨after, literalRun, colonRun⟩ := bind_eq_ok run
          obtain ⟨blanks, blank, shape⟩ := eq_of_skipBlanks found
          obtain ⟨body, form, rfl⟩ := unchecked_of_skipLiteral literalRun
          obtain ⟨gap, blankGap, rfl⟩ := eq_of_readColon colonRun
          exact ⟨blanks, _, blank, .key form blankGap, by rw [shape]; simp⟩
      · cases run

/-- A value stands in front, behind it what closes the brackets around it, and behind that the
rest. -/
def ValueAhead (outer : List Bracket) (bytes rest : List UInt8) : Prop :=
  ∃ blanks value text, Blanks blanks ∧ Skippable value ∧ Closes outer text ∧
    bytes = blanks ++ (value ++ (text ++ rest))

def EntriesAhead (bracket : Bracket) (outer : List Bracket) (first : Bool)
    (bytes rest : List UInt8) : Prop :=
  ∃ body text, SkippableEntries bracket first body ∧ Closes outer text ∧
    bytes = body ++ (text ++ rest)

theorem NextEntry.exists_lead {first : Bool} {bytes entry : List UInt8}
    (next : NextEntry first bytes entry) : ∃ lead, Lead first lead ∧ bytes = lead ++ entry := by
  cases next with
  | first found =>
      obtain ⟨blanks, blank, shape⟩ := eq_of_skipBlanks found
      exact ⟨blanks, .first blank, shape⟩
  | next found =>
      obtain ⟨blanks, blank, shape⟩ := eq_of_skipBlanks found
      exact ⟨blanks ++ [0x2C], .next blank blanks_nil, by simpa using shape⟩

def Ahead.Holds : Ahead → List UInt8 → List UInt8 → Prop
  | .value outer => ValueAhead outer
  | .around outer => fun bytes rest => ∃ text, Closes outer text ∧ bytes = text ++ rest
  | .entries bracket outer first => EntriesAhead bracket outer first

theorem Skips.holds {ahead : Ahead} {bytes rest : List UInt8}
    {result : Except Fault (List UInt8)} (skips : Skips ahead bytes result)
    (passed : result = .ok rest) : ahead.Holds bytes rest := by
  induction skips with
  | nested found _ ih =>
      obtain ⟨blanks, blank, shape⟩ := eq_of_skipBlanks found
      obtain ⟨body, text, entries, closes, rfl⟩ := ih passed
      exact ⟨blanks, _, text, blank, .nested entries, closes, shape⟩
  | scalarFault | unclosed | entryFault | uncontinued => cases passed
  | @scalar outer bytes tail result run _ ih =>
      obtain ⟨blanks, blank, shape⟩ := exists_blanks bytes
      obtain ⟨value, form, valueShape⟩ := scalarText_of_skipScalar run
      obtain ⟨text, closes, rfl⟩ := ih passed
      exact ⟨blanks, value, text, blank, .scalar form, closes, by rw [← valueShape]; exact shape⟩
  | outside =>
      cases passed
      exact ⟨[], .nil, rfl⟩
  | inside _ ih =>
      obtain ⟨body, text, entries, closes, rfl⟩ := ih passed
      exact ⟨body ++ text, .cons entries closes, (List.append_assoc ..).symm⟩
  | @close bracket outer first bytes tail result found _ ih =>
      obtain ⟨blanks, blank, shape⟩ := eq_of_skipBlanks found
      obtain ⟨text, closes, rfl⟩ := ih passed
      exact ⟨blanks ++ [bracket.closing], text, .close blank, closes, by rw [shape]; simp⟩
  | entry next run _ ih =>
      obtain ⟨lead, leads, rfl⟩ := next.exists_lead
      obtain ⟨more, key, blankMore, keyForm, rfl⟩ := keyText_of_skipToValue run
      obtain ⟨gap, value, text, blankGap, form, closes, rfl⟩ := ih passed
      -- What closes the brackets begins with the entries behind this one.
      cases closes with
      | @cons _ _ body text entries closes =>
          refine ⟨_, text, .entry (leads.append blankMore) keyForm blankGap form entries, closes, ?_⟩
          simp only [List.append_assoc]

theorem skippable_of_skipValue {bytes rest : List UInt8} (run : skipValue [] bytes = .ok rest) :
    ∃ blanks value, Blanks blanks ∧ Skippable value ∧ bytes = blanks ++ (value ++ rest) := by
  obtain ⟨blanks, value, text, blank, form, closes, shape⟩ := (skips (.value []) bytes).holds run
  cases closes
  exact ⟨blanks, value, blank, form, shape⟩

/-! ## What has the form is passed over -/

def Begins (byte : UInt8) : Prop := isBlank byte = false ∧ byte ≠ 0x5D

theorem begins_of_startsNumber {byte : UInt8} (starts : startsNumber byte = true) :
    Begins byte ∧ byte ≠ 0x5B ∧ byte ≠ 0x7B ∧ byte ≠ 0x6E ∧ byte ≠ 0x74 ∧ byte ≠ 0x66 ∧
      byte ≠ 0x22 := by
  simp only [startsNumber, isDigit, Bool.or_eq_true, beq_iff_eq, Bool.and_eq_true,
    decide_eq_true_eq, UInt8.le_iff_toNat_le, ← UInt8.toNat_inj, UInt8.reduceToNat] at starts
  simp only [Begins, isBlank, Bool.or_eq_false_iff, beq_eq_false_iff_ne, ne_eq, ← UInt8.toNat_inj,
    UInt8.reduceToNat]
  omega

theorem ScalarText.head {text : List UInt8} (form : ScalarText text) :
    ∃ byte others, text = byte :: others ∧ Begins byte ∧ byte ≠ 0x5B ∧ byte ≠ 0x7B := by
  cases form with
  | number form =>
      obtain ⟨byte, others, rfl, starts⟩ := form.head
      obtain ⟨begins, notList, notObject, _⟩ := begins_of_startsNumber starts
      exact ⟨byte, others, rfl, begins, notList, notObject⟩
  | null | yes | no | literal =>
      exact ⟨_, _, rfl, ⟨by decide, by decide⟩, by decide, by decide⟩

theorem Skippable.head {text : List UInt8} (form : Skippable text) :
    ∃ byte others, text = byte :: others ∧ Begins byte := by
  cases form with
  | scalar form =>
      obtain ⟨byte, others, shape, begins, _⟩ := form.head
      exact ⟨byte, others, shape, begins⟩
  | @nested bracket body =>
      refine ⟨bracket.opening, body, rfl, ?_⟩
      cases bracket <;> exact ⟨by decide, by decide⟩

theorem SkippableEntries.ends {bracket : Bracket} {body : List UInt8}
    (form : SkippableEntries bracket false body) (rest : List UInt8) : Ends (body ++ rest) := by
  cases form with
  | close blank =>
      rw [List.append_assoc]
      apply ends_blanks_append blank
      cases bracket <;> exact ends_cons (by decide) _
  | entry leads =>
      cases leads with
      | next before =>
          rw [List.append_assoc, List.append_assoc]
          exact ends_blanks_append before (ends_cons (by decide) _)

theorem skipScalar_of_scalarText {text rest : List UInt8} (form : ScalarText text)
    (ends : Ends rest) : skipScalar (text ++ rest) = .ok rest := by
  cases form with
  | null => exact readLetters_eq_ok_iff.mpr rfl
  | yes => exact readLetters_eq_ok_iff.mpr rfl
  | no => exact readLetters_eq_ok_iff.mpr rfl
  | @literal body form =>
      have literalRun := skipLiteral_of_unchecked form rest
      rw [List.cons_append, List.append_assoc]
      exact literalRun
  | number form =>
      have numberRun := skipNumber_of_numeralText form ends
      obtain ⟨byte, others, rfl, starts⟩ := form.head
      obtain ⟨_, _, _, notNull, notTrue, notFalse, notQuote⟩ := begins_of_startsNumber starts
      rw [List.cons_append] at numberRun ⊢
      rw [skipScalar, if_pos starts, numberRun]
      all_goals assumption

theorem skipValue_scalar {outer : List Bracket} {byte : UInt8} {rest : List UInt8}
    (solid : isBlank byte = false) (notList : byte ≠ 0x5B) (notObject : byte ≠ 0x7B) :
    skipValue outer (byte :: rest) = skipScalar (byte :: rest) >>= skipOuter outer := by
  rw [skipValue_eq, skipBlanks_cons solid]
  split
  · next shape => exact absurd (List.cons.inj shape).1 notList
  · next shape => exact absurd (List.cons.inj shape).1 notObject
  · rfl

theorem skipValue_opening (outer : List Bracket) (bracket : Bracket) (rest : List UInt8) :
    skipValue outer (bracket.opening :: rest) = skipEntries bracket outer true rest := by
  cases bracket with
  | list => rw [skipValue_eq, Bracket.opening, skipBlanks_cons (by decide)]; rfl
  | object => rw [skipValue_eq, Bracket.opening, skipBlanks_cons (by decide)]; rfl

theorem skipValue_blanks {blanks : List UInt8} (blank : Blanks blanks) (outer : List Bracket)
    (rest : List UInt8) : skipValue outer (blanks ++ rest) = skipValue outer rest := by
  rw [skipValue_eq, skipBlanks_append blank, ← skipValue_eq]

theorem skipEntries_close {blanks : List UInt8} (blank : Blanks blanks) (bracket : Bracket)
    (outer : List Bracket) (first : Bool) (rest : List UInt8) :
    skipEntries bracket outer first (blanks ++ bracket.closing :: rest) = skipOuter outer rest := by
  have solid : isBlank bracket.closing = false := by cases bracket <;> decide
  rw [skipEntries_eq, skipBlanks_solid blank solid]
  exact if_pos rfl

theorem skipKey_of_keyText {blanks body gap : List UInt8} (blank : Blanks blanks)
    (form : Unchecked body) (blankGap : Blanks gap) (rest : List UInt8) :
    skipKey (blanks ++ 0x22 :: (body ++ 0x22 :: (gap ++ 0x3A :: rest))) = .ok rest := by
  have literalRun := skipLiteral_of_unchecked form (gap ++ 0x3A :: rest)
  rw [skipKey, skipBlanks_solid blank (by decide)]
  change (skipLiteral (body ++ 0x22 :: (gap ++ 0x3A :: rest)) >>= readColon) = .ok rest
  rw [literalRun]
  exact readColon_of_blanks blankGap rest

theorem skipEntries_entry {bracket : Bracket} {first : Bool} {lead key gap : List UInt8}
    (leads : Lead first lead) (keyForm : KeyText bracket key) (blankGap : Blanks gap)
    {byte : UInt8} (begins : Begins byte) (outer : List Bracket) (rest : List UInt8) :
    skipEntries bracket outer first (lead ++ (key ++ (gap ++ byte :: rest))) =
      skipValue (bracket :: outer) (byte :: rest) := by
  obtain ⟨solid, notClosing⟩ := begins
  cases keyForm with
  | item =>
      cases leads with
      | first blank =>
          rw [List.nil_append, ← List.append_assoc, skipEntries_eq,
            skipBlanks_solid (blank.append blankGap) solid]
          exact (if_neg notClosing).trans rfl
      | next before after =>
          rw [List.nil_append, List.append_assoc, List.cons_append, skipEntries_eq,
            skipBlanks_solid before (by decide), ← skipValue_blanks (after.append blankGap),
            List.append_assoc]
          rfl
  | @key body keyGap form blankKeyGap =>
      simp only [List.cons_append, List.append_assoc, List.nil_append]
      cases leads with
      | first blank =>
          have keyRun := skipKey_of_keyText blanks_nil form blankKeyGap (gap ++ byte :: rest)
          rw [skipEntries_eq, skipBlanks_solid blank (by decide), ← skipValue_blanks blankGap]
          refine (if_neg (by decide)).trans ((if_pos rfl).trans ?_)
          rw [List.nil_append] at keyRun
          rw [Bracket.skipToValue, keyRun]
          rfl
      | next before after =>
          have keyRun := skipKey_of_keyText after form blankKeyGap (gap ++ byte :: rest)
          rw [List.append_assoc, List.cons_append, skipEntries_eq,
            skipBlanks_solid before (by decide), ← skipValue_blanks blankGap]
          refine (if_neg (by decide)).trans ((if_neg (by decide)).trans ((if_pos rfl).trans ?_))
          rw [Bracket.skipToValue, keyRun]
          rfl

theorem skipValue_of_skippable {text : List UInt8} (form : Skippable text) :
    ∀ (outer : List Bracket) (rest : List UInt8), Ends rest →
      skipValue outer (text ++ rest) = skipOuter outer rest := by
  refine @Skippable.rec
    (fun text _ => ∀ (outer : List Bracket) (rest : List UInt8), Ends rest →
      skipValue outer (text ++ rest) = skipOuter outer rest)
    (fun bracket first body _ => ∀ (outer : List Bracket) (rest : List UInt8),
      skipEntries bracket outer first (body ++ rest) = skipOuter outer rest)
    ?scalar ?nested ?close ?entry text form
  case scalar =>
    intro text form outer rest ends
    have scalarRun := skipScalar_of_scalarText form ends
    obtain ⟨byte, others, rfl, begins, notList, notObject⟩ := form.head
    rw [List.cons_append] at scalarRun ⊢
    rw [skipValue_scalar begins.1 notList notObject, scalarRun]
    rfl
  case nested =>
    intro bracket body _ entriesRun outer rest _
    rw [List.cons_append, skipValue_opening]
    exact entriesRun outer rest
  case close =>
    intro bracket first blanks blank outer rest
    rw [List.append_assoc]
    exact skipEntries_close blank bracket outer first rest
  case entry =>
    intro bracket first lead key gap text others leads keyForm blankGap form entries valueRun
      othersRun outer rest
    have value := valueRun (bracket :: outer) (others ++ rest) (entries.ends rest)
    obtain ⟨byte, tail, rfl, begins⟩ := form.head
    simp only [List.append_assoc, List.cons_append] at value ⊢
    rw [skipEntries_entry leads keyForm blankGap begins, value, skipOuter_cons]
    exact othersRun outer rest

end EquiJoin.Json
