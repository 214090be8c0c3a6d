import EquiJoin.Proofs.Json.Passage

/-!
# Literals inside of a value

What stands between two quotes may or may not spell a text.  Wherever a reader meets a literal, it
goes on with the text that is spelled there and with nothing else (`Reader.Meets`): a body that
spells nothing makes it fail, and two bodies that spell the same text lead to the same outcome.
`RecordFormat.LiteralPlace` gives the places of a record where literals are met: its keys, and the
places inside of the values of its members.
-/

set_option autoImplicit false

namespace EquiJoin.Json

open Utf8 (ofChars)

/-- What may stand between the quotes of a literal, whether or not it spells a text: a quote only
behind a backslash, and a byte behind every backslash. -/
inductive Enclosed : List UInt8 → Prop where
  | nil : Enclosed []
  | plain {byte : UInt8} {body : List UInt8} :
      byte ≠ 0x22 → byte ≠ 0x5C → Enclosed body → Enclosed (byte :: body)
  | escaped {byte : UInt8} {body : List UInt8} :
      Enclosed body → Enclosed (0x5C :: byte :: body)

theorem Enclosed.unique {first second rest behind : List UInt8} (one : Enclosed first)
    (other : Enclosed second) (same : first ++ 0x22 :: rest = second ++ 0x22 :: behind) :
    first = second ∧ rest = behind := by
  induction one generalizing second with
  | nil =>
      cases other with
      | nil => exact ⟨rfl, (List.cons.inj same).2⟩
      | plain notQuote => exact absurd (List.cons.inj same).1.symm notQuote
      | escaped => exact absurd (List.cons.inj same).1 (by decide)
  | @plain byte body notQuote notBackslash _ ih =>
      cases other with
      | nil => exact absurd (List.cons.inj same).1 notQuote
      | plain _ _ other =>
          obtain ⟨rfl, behind⟩ := List.cons.inj same
          obtain ⟨rfl, rfl⟩ := ih other behind
          exact ⟨rfl, rfl⟩
      | escaped => exact absurd (List.cons.inj same).1 notBackslash
  | @escaped byte body _ ih =>
      cases other with
      | nil => exact absurd (List.cons.inj same).1 (by decide)
      | plain _ notBackslash => exact absurd (List.cons.inj same).1.symm notBackslash
      | escaped other =>
          obtain ⟨rfl, behind⟩ := List.cons.inj (List.cons.inj same).2
          obtain ⟨rfl, rfl⟩ := ih other behind
          exact ⟨rfl, rfl⟩

theorem Unchecked.enclosed {body : List UInt8} (form : Unchecked body) : Enclosed body := by
  induction form with
  | nil => exact .nil
  | raw _ notQuote notBackslash _ ih => exact .plain notQuote notBackslash ih
  | letter _ _ ih => exact .escaped ih
  | numbered number _ ih =>
      obtain ⟨first, second, third, fourth⟩ := number
      exact .escaped (.plain first.plain.1 first.plain.2 (.plain second.plain.1 second.plain.2
        (.plain third.plain.1 third.plain.2 (.plain fourth.plain.1 fourth.plain.2 ih))))

theorem Unchecked.append_raw {bytes body : List UInt8}
    (plain : ∀ byte ∈ bytes, ¬ byte < 0x20 ∧ byte ≠ 0x22 ∧ byte ≠ 0x5C)
    (form : Unchecked body) : Unchecked (bytes ++ body) := by
  induction bytes with
  | nil => exact form
  | cons byte bytes ih =>
      obtain ⟨noControl, notQuote, notBackslash⟩ := plain byte List.mem_cons_self
      exact .raw noControl notQuote notBackslash
        (ih fun other member => plain other (List.mem_cons_of_mem _ member))

theorem Spelled.unchecked {body : List UInt8} {characters : List Char}
    (spelled : Spelled body characters) : Unchecked body := by
  induction spelled with
  | nil => exact .nil
  | cons spelling _ ih =>
      cases spelling with
      | raw printable notQuote notBackslash =>
          exact ih.append_raw (plain_of_raw printable notQuote notBackslash)
      | escaped form =>
          cases form with
          | letter listed => exact .letter listed ih
          | numbered unit => exact .numbered unit ih
          | paired high _ _ low =>
              simp only [List.cons_append, List.append_assoc]
              exact .numbered high (.numbered low ih)

/-- Of all that may stand between quotes, just what spells a text is read, and as that text. -/
theorem readLiteral_enclosed {body rest behind : List UInt8} (encloses : Enclosed body)
    {text : String} : readLiteral (body ++ 0x22 :: rest) = .ok (text, behind) ↔
      Spelled body text.toList ∧ behind = rest := by
  rw [readLiteral_eq_ok_iff]
  constructor
  · rintro ⟨other, spelled, same⟩
    obtain ⟨rfl, rfl⟩ := encloses.unique spelled.unchecked.enclosed same
    exact ⟨spelled, rfl⟩
  · rintro ⟨spelled, rfl⟩
    exact ⟨body, spelled, rfl⟩

theorem not_spelled_of_readEscape {piece : List UInt8} {fault : Fault}
    (fails : readEscape (piece ++ [0x22]) = .error fault) (characters : List Char) :
    ¬ Spelled (0x5C :: piece) characters := by
  intro spelled
  have run := readContent_of_pieces (pieces_of_spelled spelled) []
  rw [List.cons_append, readContent] at run
  split at run
  · cases run
  · next found =>
      rw [fails] at found
      cases found

/-! ## Where a literal is met -/

/-- Behind `front` and a quote stands a literal: the reader goes on with whatever comes of it. -/
def Reader.Meets {α : Type} (reader : Reader α) (front : List UInt8) : Prop :=
  ∃ next : String × List UInt8 → Except Fault (α × List UInt8),
    ∀ bytes, reader.Gives (front ++ 0x22 :: bytes) (readLiteral bytes >>= next)

theorem Reader.Embeds.meets {α β : Type} {outer : Reader β} {inner : Reader α}
    {front more : List UInt8} {carry : (α → α) → β → β} (embeds : outer.Embeds front inner carry)
    (meets : inner.Meets more) : outer.Meets (front ++ more) := by
  obtain ⟨next, -, hands⟩ := embeds
  obtain ⟨nextMore, gives⟩ := meets
  refine ⟨fun found => nextMore found >>= next, fun bytes => ?_⟩
  rw [List.append_assoc, ← bind_assoc]
  exact hands _ _ (gives bytes)

theorem gives_readText (bytes : List UInt8) :
    Reader.text.Gives (0x22 :: bytes) (readLiteral bytes) where
  begins := ⟨0x22, bytes, rfl, by decide, by decide⟩
  gave blank := readText_eq_of_literal blank bytes

theorem meets_text : Reader.text.Meets [] := by
  refine ⟨pure, fun bytes => ?_⟩
  rw [bind_pure]
  exact gives_readText bytes

/-- What stands in front of the literal of a named alternative: nothing, or the bracket of the
object whose only key it is. -/
inductive NamePlace : List UInt8 → Prop where
  | plain : NamePlace []
  | key {blanks : List UInt8} : Blanks blanks → NamePlace (0x7B :: blanks)

theorem meets_named {α : Type} [Named α] {front : List UInt8} (place : NamePlace front) :
    (Named.wire α).reader.Meets front := by
  cases place with
  | plain =>
      apply Exists.intro
      intro bytes
      refine ⟨⟨0x22, bytes, rfl, by decide, by decide⟩, fun blank => ?_⟩
      change readNamed α _ = _
      rw [List.nil_append, readNamed, skipBlanks_solid blank (by decide)]
      rfl
  | @key blanks blankKey =>
      apply Exists.intro
      intro bytes
      refine ⟨⟨0x7B, _, rfl, by decide, by decide⟩, fun blank => ?_⟩
      change readNamed α _ = _
      rw [List.cons_append, readNamed, skipBlanks_solid blank (by decide)]
      change readOnlyKey α _ = _
      rw [readOnlyKey, skipBlanks_solid blankKey (by decide)]
      exact bind_assoc (readLiteral bytes) _ _

inductive ListPlace {α : Type} (Form : List UInt8 → α → Prop) (Inside : List UInt8 → Prop) :
    List UInt8 → Prop where
  | item {front more : List UInt8} {values : List α} :
      Onward Form true front values → Inside more → ListPlace Form Inside (0x5B :: (front ++ more))

theorem meets_list {α : Type} {item : Reader α} {Form : List UInt8 → α → Prop}
    (exact : item.Exact Form) {Inside : List UInt8 → Prop}
    (inside : ∀ more, Inside more → item.Meets more) {front : List UInt8}
    (place : ListPlace Form Inside front) : (Reader.list item).Meets front := by
  cases place with
  | item onward within => exact (embeds_list exact onward).meets (inside _ within)

namespace RecordFormat

variable {Member : Type} {Value : Member → Type} {ρ : Type} (format : RecordFormat Value ρ)
  (Form : (member : Member) → List UInt8 → Value member → Prop)
  (Inside : Member → List UInt8 → Prop)

/-- What stands in a record in front of a literal: well-formed entries in front of a key, or what
leads to a member, and in front of a literal inside of its value. -/
inductive LiteralPlace : List UInt8 → Prop where
  | key {front : List UInt8} {entries : List (Option ((member : Member) × Value member))} :
      Onward (format.PartText Form) true front entries → (given entries).Nodup →
        LiteralPlace (0x7B :: front)
  | value {front more : List UInt8} {member : Member} :
      format.LeadsTo Form front member → Inside member more → LiteralPlace (front ++ more)

variable {format Form Inside} [DecidableEq Member]

theorem meets_record (exact : ∀ member, (format.wire member).reader.Exact (Form member))
    (inside : ∀ member more, Inside member more → (format.wire member).reader.Meets more)
    {front : List UInt8} (place : format.LiteralPlace Form Inside front) :
    format.toWire.reader.Meets front := by
  cases place with
  | key onward once =>
      obtain ⟨draft, -, readRun⟩ := readObject_of_onward exact onward once
      apply Exists.intro
      intro bytes
      refine gives_of_readObject ((readRun bytes).trans ?_)
      exact bind_assoc (readLiteral bytes) _ _
  | value leads within => exact (embeds_record exact leads).meets (inside _ _ within)

end RecordFormat

/-! ## In a payload -/

section Payloads

variable {β : Type}

/-- What is decoded from payloads with a literal behind `front`.  A body that spells no text is
refused, whatever stands behind it, and one that spells a text is as good as any other that does. -/
def Distinguishes (front : List UInt8) (decode : List UInt8 → Except Malformed β) : Prop :=
  ∀ {body rest : List UInt8} {found : β}, Enclosed body →
    (decode (front ++ 0x22 :: (body ++ 0x22 :: rest)) = .ok found ↔
      ∃ text : String, Spelled body text.toList ∧
        decode (front ++ (ofChars (literal text) ++ rest)) = .ok found)

variable [wire : Wire β] {blanks front : List UInt8}

theorem distinguishes_of_meets (blank : Blanks blanks) (meets : wire.reader.Meets front) :
    Distinguishes (blanks ++ front) (decode : List UInt8 → Except Malformed β) := by
  intro body rest found encloses
  obtain ⟨next, gives⟩ := meets
  have accepted (bytes : List UInt8) : decode (blanks ++ front ++ 0x22 :: bytes) = .ok found ↔
      ∃ after, (readLiteral bytes >>= next) = .ok (found, after) ∧ Blanks after := by
    rw [List.append_assoc]
    exact decode_eq_ok_iff_of_gives blank (gives bytes)
  have written (text : String) : ∃ bytes, ofChars (literal text) ++ rest = 0x22 :: bytes ∧
      readLiteral bytes = .ok (text, rest) := by
    obtain ⟨bytes, shape⟩ := (textLiteral_literal text).eq_cons
    refine ⟨bytes ++ rest, by rw [shape]; rfl, readLiteral_of_textLiteral ?_ rest⟩
    rw [← shape]
    exact textLiteral_literal text
  rw [accepted]
  constructor
  · rintro ⟨after, run, blankAfter⟩
    obtain ⟨⟨text, behind⟩, literalRun, nextRun⟩ := bind_eq_ok run
    obtain ⟨spelled, rfl⟩ := (readLiteral_enclosed encloses).mp literalRun
    obtain ⟨bytes, shape, writtenRun⟩ := written text
    refine ⟨text, spelled, ?_⟩
    rw [shape, accepted, writtenRun]
    exact ⟨after, nextRun, blankAfter⟩
  · rintro ⟨text, spelled, run⟩
    obtain ⟨bytes, shape, writtenRun⟩ := written text
    rw [shape, accepted, writtenRun] at run
    rw [(readLiteral_enclosed encloses).mpr ⟨spelled, rfl⟩]
    exact run

/-- What is decoded from payloads with a text behind `front`, one of them being accepted: if a body
spells a text, then the same value with that text in its place, and otherwise nothing. -/
def TakesTexts (front : List UInt8) (carry : (String → String) → β → β)
    (decode : List UInt8 → Except Malformed β) : Prop :=
  ∀ {held body rest : List UInt8} {text : String} {base found : β},
    TextLiteral held text → decode (front ++ (held ++ rest)) = .ok base → Enclosed body →
      (decode (front ++ 0x22 :: (body ++ 0x22 :: rest)) = .ok found ↔
        ∃ spelled : String, Spelled body spelled.toList ∧ found = carry (fun _ => spelled) base)

theorem takesTexts_of_embeds {carry : (String → String) → β → β} (blank : Blanks blanks)
    (embeds : wire.reader.Embeds front Reader.text carry) :
    TakesTexts (blanks ++ front) carry (decode : List UInt8 → Except Malformed β) := by
  intro held body rest text base found holds accepted encloses
  obtain ⟨content, rfl⟩ := holds.eq_cons
  have holdsRun := gives_readText (content ++ rest)
  rw [readLiteral_of_textLiteral holds rest] at holdsRun
  have gives := gives_readText (body ++ 0x22 :: rest)
  have bodyText : 0x22 :: (body ++ 0x22 :: rest) = (0x22 :: (body ++ [0x22])) ++ rest := by simp
  rw [List.append_assoc] at accepted ⊢
  rw [bodyText] at gives ⊢
  rw [decode_eq_ok_iff_of_embeds blank embeds holdsRun accepted gives
    fun value behind run => ((readLiteral_enclosed encloses).mp run).2]
  simp only [readLiteral_enclosed encloses, and_true]

end Payloads

end EquiJoin.Json
