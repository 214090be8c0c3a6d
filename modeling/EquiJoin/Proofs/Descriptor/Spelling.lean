import EquiJoin.Descriptor.Payload
import EquiJoin.Proofs.Descriptor.Places
import EquiJoin.Proofs.Json.Respelling

/-!
# Spellings of names

Names of tables and columns, names in handles and the keys of objects may be spelled in many ways.
Wherever one of them is decoded, it is taken from every spelling and from nothing else, and so
payloads that differ only in spelling hold the same descriptor (`spellings_exact`).  The keys of
objects that are passed over are not decoded, and need not spell anything.
-/

set_option autoImplicit false

namespace EquiJoin

open Json
open Utf8 (ofChars)

def TableHandle.LiteralPlace : List UInt8 → Prop :=
  format.LiteralPlace (fun _ => TextLiteral) fun _ more => more = []

inductive TableHandle.TextPlace :
    List UInt8 → ((String → String) → TableHandle → TableHandle) → Prop where
  | connectorId {front : List UInt8} : format.LeadsTo (fun _ => TextLiteral) front .connectorId →
      TextPlace front fun change table => { table with connectorId := change table.connectorId }
  | schemaName {front : List UInt8} : format.LeadsTo (fun _ => TextLiteral) front .schemaName →
      TextPlace front fun change table => { table with schemaName := change table.schemaName }
  | tableName {front : List UInt8} : format.LeadsTo (fun _ => TextLiteral) front .tableName →
      TextPlace front fun change table => { table with tableName := change table.tableName }

theorem TableHandle.spellable :
    (inferInstance : Wire TableHandle).Spellable Text LiteralPlace TextPlace where
  toLawful := lawful
  keeps form := by
    refine keeps_recordText ?_ form
    intro field listed text form
    simp only [List.mem_cons, List.not_mem_nil, or_false] at listed
    rcases listed with rfl | rfl | rfl <;> exact keeps_textLiteral form
  meets place := by
    refine RecordFormat.meets_record (fun _ => text_lawful.toExact) ?_ place
    exact fun member more none => text_spellable.meets none
  embeds place := by
    cases place with
    | connectorId leads | schemaName leads | tableName leads =>
        exact RecordFormat.embeds_record (fun _ => text_lawful.toExact) leads

def ColumnHandle.LiteralInside : Member → List UInt8 → Prop
  | .connectorId | .tableName | .columnName => (· = [])
  | .columnType => NamePlace
  | .logicalOrdinal => fun _ => False

def ColumnHandle.LiteralPlace : List UInt8 → Prop :=
  format.LiteralPlace MemberText LiteralInside

inductive ColumnHandle.TextPlace :
    List UInt8 → ((String → String) → ColumnHandle → ColumnHandle) → Prop where
  | connectorId {front : List UInt8} : format.LeadsTo MemberText front .connectorId →
      TextPlace front fun change column => { column with connectorId := change column.connectorId }
  | tableName {front : List UInt8} : format.LeadsTo MemberText front .tableName →
      TextPlace front fun change column => { column with tableName := change column.tableName }
  | columnName {front : List UInt8} : format.LeadsTo MemberText front .columnName →
      TextPlace front fun change column => { column with columnName := change column.columnName }

theorem ColumnHandle.spellable :
    (inferInstance : Wire ColumnHandle).Spellable Text LiteralPlace TextPlace where
  toLawful := lawful
  keeps form := by
    refine keeps_recordText ?_ form
    intro field listed text form
    simp only [List.mem_cons, List.not_mem_nil, or_false] at listed
    rcases listed with rfl | rfl | rfl | rfl | rfl
    · exact keeps_textLiteral form
    · exact keeps_textLiteral form
    · exact keeps_textLiteral form
    · exact keeps_nameText form
    · exact keeps_ordinalText form
  meets place := by
    refine RecordFormat.meets_record (fun member => (member_lawful member).toExact) ?_ place
    intro member more inside
    cases member with
    | connectorId | tableName | columnName => exact text_spellable.meets inside
    | columnType => exact meets_named inside
    | logicalOrdinal => cases inside
  embeds place := by
    cases place with
    | connectorId leads | tableName leads | columnName leads =>
        exact RecordFormat.embeds_record (fun member => (member_lawful member).toExact) leads

/-! ## Descriptors -/

namespace Descriptor

section Places

variable {T C : Type} [table : Reference T] [column : Reference C]
  (TableText : List UInt8 → T → Prop) (ColumnText : List UInt8 → C → Prop)

/-- What stands in a member in front of a literal that is decoded, over what does in references. -/
def LiteralInside (TableLiterals ColumnLiterals : List UInt8 → Prop) : Member → List UInt8 → Prop
  | .leftTable | .rightTable => TableLiterals
  | .leftKeyColumn | .rightKeyColumn => ColumnLiterals
  | .leftJoinedColumns | .rightJoinedColumns => ListPlace ColumnText ColumnLiterals
  | .includeKeyColumns => fun _ => False
  | .buildSide | .joinType => NamePlace

/-- What stands in a descriptor in front of a literal that is decoded: a key, a name of a build side
or of a join type, or a literal inside of a reference. -/
def LiteralPlace (TableLiterals ColumnLiterals : List UInt8 → Prop) : List UInt8 → Prop :=
  (format T C).LiteralPlace (MemberText TableText ColumnText)
    (LiteralInside ColumnText TableLiterals ColumnLiterals)

/-- What stands in front of a text inside of a reference, and how the descriptor changes with it. -/
inductive TextPlace (TableTexts : List UInt8 → ((String → String) → T → T) → Prop)
    (ColumnTexts : List UInt8 → ((String → String) → C → C) → Prop) :
    List UInt8 → ((String → String) → Descriptor T C → Descriptor T C) → Prop where
  | table {front more : List UInt8} {carry : (T → T) → Descriptor T C → Descriptor T C}
      {inner : (String → String) → T → T} :
      TablePlace TableText ColumnText front carry → TableTexts more inner →
        TextPlace TableTexts ColumnTexts (front ++ more) (carry ∘ inner)
  | column {front more : List UInt8} {carry : (C → C) → Descriptor T C → Descriptor T C}
      {inner : (String → String) → C → C} :
      ColumnPlace TableText ColumnText front carry → ColumnTexts more inner →
        TextPlace TableTexts ColumnTexts (front ++ more) (carry ∘ inner)

variable {TableText ColumnText} {TableLiterals ColumnLiterals : List UInt8 → Prop}
  {TableTexts : List UInt8 → ((String → String) → T → T) → Prop}
  {ColumnTexts : List UInt8 → ((String → String) → C → C) → Prop}

theorem spellable (tables : table.toWire.Spellable TableText TableLiterals TableTexts)
    (columns : column.toWire.Spellable ColumnText ColumnLiterals ColumnTexts) :
    (inferInstance : Wire (Descriptor T C)).Spellable (Text TableText ColumnText)
      (LiteralPlace TableText ColumnText TableLiterals ColumnLiterals)
      (TextPlace TableText ColumnText TableTexts ColumnTexts) where
  toLawful := lawful tables.toLawful columns.toLawful
  keeps form := by
    refine keeps_recordText ?_ form
    intro field listed text form
    simp only [List.mem_cons, List.not_mem_nil, or_false] at listed
    rcases listed with rfl | rfl | rfl | rfl | rfl | rfl | rfl | rfl | rfl
    · exact tables.keeps form
    · exact columns.keeps form
    · exact keeps_listText form columns.keeps
    · exact tables.keeps form
    · exact columns.keeps form
    · exact keeps_listText form columns.keeps
    · exact keeps_flagText form
    · exact keeps_nameText form
    · exact keeps_nameText form
  meets place := by
    have exact member := (member_lawful tables.toLawful columns.toLawful member).toExact
    refine RecordFormat.meets_record exact ?_ place
    intro member more inside
    cases member with
    | leftTable | rightTable => exact tables.meets inside
    | leftKeyColumn | rightKeyColumn => exact columns.meets inside
    | leftJoinedColumns | rightJoinedColumns =>
        exact meets_list columns.toExact (fun _ => columns.meets) inside
    | includeKeyColumns => cases inside
    | buildSide | joinType => exact meets_named inside
  embeds place := by
    cases place with
    | table place inside =>
        exact (place.embeds tables.toLawful columns.toLawful).trans (tables.embeds inside)
    | column place inside =>
        exact (place.embeds tables.toLawful columns.toLawful).trans (columns.embeds inside)

end Places

/-- Over references with these places of literals and of texts, spellings make no difference, and
what is no spelling is refused. -/
structure SpellingsExact (T C : Type) [Reference T] [Reference C] (Literals : List UInt8 → Prop)
    (Texts : List UInt8 → ((String → String) → Descriptor T C → Descriptor T C) → Prop) :
    Prop where
  /-- What stands between the quotes has to spell a text, and every spelling of that text will do. -/
  literal {blanks front : List UInt8} : Blanks blanks → Literals front →
    Distinguishes (blanks ++ front)
      (ofJsonBytes : List UInt8 → Except Malformed (Descriptor T C))
  text {blanks front : List UInt8}
      {carry : (String → String) → Descriptor T C → Descriptor T C} :
    Blanks blanks → Texts front carry →
      TakesTexts (blanks ++ front) carry
        (ofJsonBytes : List UInt8 → Except Malformed (Descriptor T C))
  respelled {payload other : List UInt8} {descriptor : Descriptor T C} :
    Respelled payload other →
      (ofJsonBytes payload = .ok descriptor ↔ ofJsonBytes other = .ok descriptor)
  rewritten {payload other : List UInt8} {first second : Descriptor T C} :
    Respelled payload other → ofJsonBytes payload = .ok first → ofJsonBytes other = .ok second →
      first.toJsonBytes = second.toJsonBytes

theorem spellingsExact_of_spellable {T C : Type} [Reference T] [Reference C]
    {Form : List UInt8 → Descriptor T C → Prop} {Literals : List UInt8 → Prop}
    {Texts : List UInt8 → ((String → String) → Descriptor T C → Descriptor T C) → Prop}
    (spellable : (inferInstance : Wire (Descriptor T C)).Spellable Form Literals Texts) :
    SpellingsExact T C Literals Texts := by
  have same {payload other : List UInt8} {descriptor : Descriptor T C}
      (respelled : Respelled payload other) :
      ofJsonBytes payload = .ok descriptor ↔ ofJsonBytes other = .ok descriptor :=
    decode_respelled spellable respelled
  refine ⟨?_, ?_, same, ?_⟩
  · exact fun blank place => distinguishes_of_meets blank (spellable.meets place)
  · exact fun blank place => takesTexts_of_embeds blank (spellable.embeds place)
  · intro payload other first second respelled firstRun secondRun
    rw [same respelled, secondRun] at firstRun
    cases firstRun
    rfl

/-- In a descriptor over bare names and in one over handles, what is decoded is taken from every
spelling and from nothing else. -/
theorem spellings_exact :
    SpellingsExact String String (LiteralPlace TextLiteral TextLiteral (· = []) (· = []))
      (TextPlace TextLiteral TextLiteral Itself Itself) ∧
    SpellingsExact TableHandle ColumnHandle
      (LiteralPlace TableHandle.Text ColumnHandle.Text TableHandle.LiteralPlace
        ColumnHandle.LiteralPlace)
      (TextPlace TableHandle.Text ColumnHandle.Text TableHandle.TextPlace
        ColumnHandle.TextPlace) := by
  constructor
  · exact spellingsExact_of_spellable (spellable text_spellable text_spellable)
  · exact spellingsExact_of_spellable (spellable TableHandle.spellable ColumnHandle.spellable)

/-- The table of a list over bare names, spelled by a number, and half of a surrogate pair in its
place. -/
theorem spellings_exact_escaped :
    let name (text : String) : List UInt8 := ofChars (literal text)
    let no : List UInt8 := [0x5B, 0x5D]
    let back : List UInt8 := 0x2C :: (name "b" ++ (0x2C :: (no ++ (0x2C :: (name "c" ++ (0x2C ::
      (name "d" ++ (0x2C :: (no ++ (0x2C :: (0x66 :: falseTail ++ (0x2C :: (name "LEFT" ++
        (0x2C :: (name "INNER" ++ [0x5D])))))))))))))))
    let numbered : List UInt8 := [0x5C, 0x75, 0x30, 0x30, 0x36, 0x31]
    let half : List UInt8 := [0x5C, 0x75, 0x64, 0x38, 0x30, 0x30]
    ofJsonBytes (0x5B :: 0x22 :: (numbered ++ 0x22 :: back)) =
        .ok (⟨⟨"a", "b", []⟩, ⟨"c", "d", []⟩, .inner, .left, false⟩ : Descriptor String String) ∧
      ¬ ∃ found : Descriptor String String,
        ofJsonBytes (0x5B :: 0x22 :: (half ++ 0x22 :: back)) = .ok found := by
  intro name no back numbered half
  have named (text : String) : TextLiteral (name text) text := textLiteral_literal text
  have none : ListText TextLiteral no [] := ⟨[0x5D], .close blanks_nil, rfl⟩
  have next : Lead false [0x2C] := .next blanks_nil blanks_nil
  have left : BuildSide.Text (name "LEFT") .left := .plain (by decide) (named "LEFT")
  have inner : JoinType.Text (name "INNER") .inner := .plain (by decide) (named "INNER")
  have accepted : ofJsonBytes (0x5B :: (name "x" ++ back)) =
      .ok (⟨⟨"x", "b", []⟩, ⟨"c", "d", []⟩, .inner, .left, false⟩ : Descriptor String String) := by
    have entries : Entries 0x5D (fun text (field : Json.Field (Descriptor String String)) =>
        field.Form text ⟨⟨"x", "b", []⟩, ⟨"c", "d", []⟩, .inner, .left, false⟩) true _
        ((format String String).fields (MemberText TextLiteral TextLiteral)) :=
      .entry (.first blanks_nil) (named "x") (.entry next (named "b") (.entry next none
        (.entry next (named "c") (.entry next (named "d") (.entry next none (.entry next .no
          (.entry next left (.entry next inner (.close blanks_nil)))))))))
    exact (decode_eq_ok_iff (lawful text_lawful text_lawful)).mpr
      ⟨[], _, [], blanks_nil, .list entries, blanks_nil, by simp [back]⟩
  have leads : (format String String).LeadsTo (MemberText TextLiteral TextLiteral) [0x5B]
      .leftTable := by
    refine .list (.last (.first blanks_nil)) ?_
    exact ⟨_, rfl⟩
  have takes {body : List UInt8} {found : Descriptor String String} (encloses : Enclosed body) :
      ofJsonBytes (0x5B :: 0x22 :: (body ++ 0x22 :: back)) = .ok found ↔
        ∃ spelled : String, Spelled body spelled.toList ∧
          found = ⟨⟨spelled, "b", []⟩, ⟨"c", "d", []⟩, .inner, .left, false⟩ :=
    spellings_exact.1.text blanks_nil (.table (.left leads) .text) (named "x") accepted encloses
  constructor
  · have unit : HexUnit [0x30, 0x30, 0x36, 0x31] 'a'.toNat :=
      .digits (a := 0) (b := 0) (c := 6) (d := 1) (by decide) (by decide) (by decide) (by decide)
    have spelled : Spelled numbered ['a'] := .cons (.escaped (.numbered unit)) .nil
    exact (takes spelled.unchecked.enclosed).mpr ⟨"a", spelled, rfl⟩
  · rintro ⟨found, run⟩
    have encloses : Enclosed half := .escaped (.plain (by decide) (by decide)
      (.plain (by decide) (by decide) (.plain (by decide) (by decide)
        (.plain (by decide) (by decide) .nil))))
    obtain ⟨spelled, spells, -⟩ := (takes encloses).mp run
    exact not_spelled_of_readEscape rfl _ spells

/-- The key of an object that is passed over may be half of a surrogate pair, which spells nothing:
the descriptor is accepted with it as with a key that spells a text. -/
theorem skipped_key_unspelled :
    let name (text : String) : List UInt8 := ofChars (literal text)
    let entry (key : String) (value : List UInt8) : List UInt8 :=
      0x2C :: (name key ++ 0x3A :: value)
    let front : List UInt8 := 0x7B :: (name "x" ++ [0x3A, 0x7B])
    let back : List UInt8 := 0x3A :: 0x30 :: 0x7D :: (entry "leftTable" (name "a") ++
      (entry "leftKeyColumn" (name "b") ++ (entry "leftJoinedColumns" [0x5B, 0x5D] ++
        (entry "rightTable" (name "c") ++ (entry "rightKeyColumn" (name "d") ++
          (entry "rightJoinedColumns" [0x5B, 0x5D] ++
            (entry "includeKeyColumns" (0x66 :: falseTail) ++ (entry "joinEndian" (name "LEFT") ++
              (entry "joinType" (name "INNER") ++ [0x7D])))))))))
    let plain : List UInt8 := [0x79]
    let half : List UInt8 := [0x5C, 0x75, 0x64, 0x38, 0x30, 0x30]
    let found : Descriptor String String :=
      ⟨⟨"a", "b", []⟩, ⟨"c", "d", []⟩, .inner, .left, false⟩
    ofJsonBytes (front ++ 0x22 :: (plain ++ 0x22 :: back)) = .ok found ∧
      ofJsonBytes (front ++ 0x22 :: (half ++ 0x22 :: back)) = .ok found ∧
        ¬ ∃ text : String, Spelled half text.toList := by
  intro name entry front back plain half found
  have named (text : String) : TextLiteral (name text) text := textLiteral_literal text
  have none : ListText TextLiteral [0x5B, 0x5D] [] := ⟨[0x5D], .close blanks_nil, rfl⟩
  have next : Lead false [0x2C] := .next blanks_nil blanks_nil
  have left : BuildSide.Text (name "LEFT") .left := .plain (by decide) (named "LEFT")
  have inner : JoinType.Text (name "INNER") .inner := .plain (by decide) (named "INNER")
  have accepted (body : List UInt8) (form : Unchecked body) :
      ofJsonBytes (front ++ 0x22 :: (body ++ 0x22 :: back)) = .ok found := by
    have zero : Skippable [0x30] := .scalar (.number (.parts false .zero .absent .absent))
    have skipped : Skippable (0x7B :: (0x22 :: (body ++ [0x22, 0x3A]) ++ [0x30, 0x7D])) :=
      @Skippable.nested .object _ (.entry (.first blanks_nil) (.key form blanks_nil) blanks_nil
        zero (.close blanks_nil))
    have unknown (member : Member) : member.label ≠ "x" := by cases member <;> decide
    have part (member : Member) {text : List UInt8} {value : member.Value String String}
        (form : MemberText TextLiteral TextLiteral member text value) :
        (format String String).PartText (MemberText TextLiteral TextLiteral)
          (name member.label ++ 0x3A :: text) (some ⟨member, value⟩) :=
      .known (named _) blanks_nil blanks_nil form
    have entries : Entries 0x7D ((format String String).PartText
        (MemberText TextLiteral TextLiteral)) true _ _ :=
      .entry (.first blanks_nil) (.other (named "x") unknown blanks_nil blanks_nil skipped)
        (.entry next (part .leftTable (named "a")) (.entry next (part .leftKeyColumn (named "b"))
          (.entry next (part .leftJoinedColumns none) (.entry next (part .rightTable (named "c"))
            (.entry next (part .rightKeyColumn (named "d"))
              (.entry next (part .rightJoinedColumns none)
                (.entry next (part .includeKeyColumns .no) (.entry next (part .buildSide left)
                  (.entry next (part .joinType inner) (.close blanks_nil))))))))))
    have object : Text TextLiteral TextLiteral _ found :=
      RecordFormat.recordText_of_parts entries (.refl _)
    refine (decode_eq_ok_iff (lawful text_lawful text_lawful)).mpr
      ⟨[], _, [], blanks_nil, object, blanks_nil, ?_⟩
    simp [front, back, entry, Member.label]
  have number : HexUnit [0x64, 0x38, 0x30, 0x30] 0xD800 :=
    .digits (a := 13) (b := 8) (c := 0) (d := 0) (by decide) (by decide) (by decide) (by decide)
  refine ⟨accepted plain ?_, accepted half (.numbered number .nil), ?_⟩
  · exact .raw (by decide) (by decide) (by decide) .nil
  · rintro ⟨text, spells⟩
    exact not_spelled_of_readEscape rfl _ spells

end Descriptor

end EquiJoin
