import EquiJoin.Json.Record
import EquiJoin.Proofs.Draft
import EquiJoin.Proofs.Json.Value

/-!
# The form of records

A record is an object in which every field has exactly one entry, in any order, among entries that
nobody asks for; or a list of the values of all fields in order (`RecordText`).  If every member of
a record format travels lawfully, then so does the record (`record_lawful`).
-/

set_option autoImplicit false

namespace EquiJoin.Json

open Utf8 (ofChars ofChars_cons ofChars_append)

/-- A field of a record: its key, and the texts that stand for its value in a record. -/
structure Field (ρ : Type) where
  key : String
  Form : List UInt8 → ρ → Prop

/-- An entry of an object that stands for a record: a field under its key, or some value under a
key that no field has. -/
inductive EntryText {ρ : Type} (fields : List (Field ρ)) (record : ρ) :
    List UInt8 → Option String → Prop where
  | known {field : Field ρ} {key gap blanks text : List UInt8} :
      field ∈ fields → TextLiteral key field.key → Blanks gap → Blanks blanks →
        field.Form text record →
          EntryText fields record (key ++ (gap ++ 0x3A :: (blanks ++ text))) (some field.key)
  | other {name : String} {key gap blanks text : List UInt8} :
      TextLiteral key name → (∀ field ∈ fields, field.key ≠ name) → Blanks gap → Blanks blanks →
        Skippable text →
          EntryText fields record (key ++ (gap ++ 0x3A :: (blanks ++ text))) none

inductive RecordText {ρ : Type} (fields : List (Field ρ)) : List UInt8 → ρ → Prop where
  | object {body : List UInt8} {keys : List (Option String)} {record : ρ} :
      Entries 0x7D (EntryText fields record) true body keys →
        (keys.filterMap id).Perm (fields.map Field.key) → RecordText fields (0x7B :: body) record
  | list {body : List UInt8} {record : ρ} :
      Entries 0x5D (fun text field => field.Form text record) true body fields →
        RecordText fields (0x5B :: body) record

namespace RecordFormat

variable {Member : Type} {Value : Member → Type} {ρ : Type} (format : RecordFormat Value ρ)
  (Form : (member : Member) → List UInt8 → Value member → Prop)

def field (member : Member) : Field ρ :=
  ⟨format.label member, fun text record => Form member text (format.part record member)⟩

def fields : List (Field ρ) := format.members.map (format.field Form)

/-- An entry of an object as it is read: the value of a member, or nothing. -/
inductive PartText : List UInt8 → Option ((member : Member) × Value member) → Prop where
  | known {member : Member} {key gap blanks text : List UInt8} {value : Value member} :
      TextLiteral key (format.label member) → Blanks gap → Blanks blanks → Form member text value →
        PartText (key ++ (gap ++ 0x3A :: (blanks ++ text))) (some ⟨member, value⟩)
  | other {name : String} {key gap blanks text : List UInt8} :
      TextLiteral key name → (∀ member, format.label member ≠ name) → Blanks gap → Blanks blanks →
        Skippable text → PartText (key ++ (gap ++ 0x3A :: (blanks ++ text))) none

variable {format Form}

theorem member?_eq_some_iff {key : String} {member : Member} :
    format.member? key = some member ↔ format.label member = key := by
  have labelled : ∀ {other}, format.member? key = some other → format.label other = key := by
    intro other found
    rw [member?] at found
    have holds := List.find?_some found
    exact beq_iff_eq.mp holds
  refine ⟨labelled, ?_⟩
  intro same
  cases found : format.member? key with
  | none =>
      have different := List.find?_eq_none.mp found member (format.members_all member)
      rw [same, beq_self_eq_true] at different
      exact absurd rfl different
  | some other =>
      rw [format.label_injective other member ((labelled found).trans same.symm)]

theorem member?_eq_none_iff {key : String} :
    format.member? key = none ↔ ∀ member, format.label member ≠ key := by
  rw [Option.eq_none_iff_forall_ne_some]
  exact forall_congr' fun member => not_congr member?_eq_some_iff

def part? (format : RecordFormat Value ρ) (record : ρ) (key : String) :
    Option ((member : Member) × Value member) :=
  (format.member? key).map fun member => ⟨member, format.part record member⟩

theorem part?_label (record : ρ) (member : Member) : format.part? record (format.label member) =
    some ⟨member, format.part record member⟩ := by
  rw [part?, member?_eq_some_iff.mpr rfl, Option.map_some]

theorem mem_fields (member : Member) : format.field Form member ∈ format.fields Form :=
  List.mem_map.mpr ⟨member, format.members_all member, rfl⟩

theorem recordText_of_parts {body : List UInt8}
    {entries : List (Option ((member : Member) × Value member))} {record : ρ}
    (form : Entries 0x7D (format.PartText Form) true body entries)
    (once : (entries.filterMap id).Perm (Draft.parts format.members (format.part record))) :
    RecordText (format.fields Form) (0x7B :: body) record := by
  have carry : ∀ entry ∈ entries, ∀ text, format.PartText Form text (id entry) →
      EntryText (format.fields Form) record text
        (entry.map fun part => format.label part.1) := by
    intro entry listed text form
    cases form with
    | @known member key gap blanks text value keyForm blankGap blank valueForm =>
        -- The entry is one of the record's parts, so its value is the one that the record has.
        have part := once.mem_iff.mp (List.mem_filterMap.mpr ⟨_, listed, rfl⟩)
        obtain ⟨_, _, same⟩ := List.mem_map.mp part
        cases same
        exact .known (mem_fields member) keyForm blankGap blank valueForm
    | other keyForm unknown blankGap blank skippable =>
        refine .other keyForm ?_ blankGap blank skippable
        intro field listed
        obtain ⟨member, _, rfl⟩ := List.mem_map.mp listed
        exact unknown member
  rw [← List.map_id entries] at form
  refine .object (form.map carry) ?_
  have keys := once.map fun part => format.label part.1
  rw [Draft.parts, List.map_map, List.map_filterMap] at keys
  rw [List.filterMap_map, fields, List.map_map]
  exact keys

theorem parts_of_recordText {body : List UInt8} {record : ρ}
    (form : RecordText (format.fields Form) (0x7B :: body) record) :
    ∃ entries, Entries 0x7D (format.PartText Form) true body entries ∧
      (entries.filterMap id).Perm (Draft.parts format.members (format.part record)) := by
  cases form with
  | @object body keys _ entriesForm once =>
      have carry : ∀ key ∈ keys, ∀ text, EntryText (format.fields Form) record text (id key) →
          format.PartText Form text (key.bind (format.part? record)) := by
        intro key _ text form
        cases form with
        | known listed keyForm blankGap blank valueForm =>
            obtain ⟨member, _, rfl⟩ := List.mem_map.mp listed
            have entry := PartText.known keyForm blankGap blank valueForm
            rwa [← part?_label record] at entry
        | other keyForm unknown blankGap blank skippable =>
            exact .other keyForm (fun member => unknown _ (mem_fields member)) blankGap blank
              skippable
      rw [← List.map_id keys] at entriesForm
      refine ⟨_, entriesForm.map carry, ?_⟩
      have parts := once.filterMap (format.part? record)
      rw [List.filterMap_filterMap, fields, List.map_map, List.filterMap_map] at parts
      rw [List.filterMap_map]
      refine parts.trans (.of_eq ?_)
      rw [Draft.parts, ← List.filterMap_eq_map]
      exact congrArg (List.filterMap · format.members) (funext (part?_label record))

theorem entries_fields_iff {first : Bool} {body : List UInt8} {record : ρ} :
    Entries 0x5D (fun text field => field.Form text record) first body (format.fields Form) ↔
      Entries 0x5D (fun text member => Form member text (format.part record member)) first body
        format.members := by
  have carry : ∀ member ∈ format.members, ∀ text, (format.field Form member).Form text record ↔
      Form (id member) text (format.part record (id member)) := fun _ _ _ => Iff.rfl
  constructor
  · intro entries
    rw [← List.map_id format.members]
    exact entries.map fun member listed text => (carry member listed text).mp
  · intro entries
    rw [← List.map_id format.members] at entries
    exact entries.map fun member listed text => (carry member listed text).mpr

/-! ## From an object -/

theorem PartText.eq_cons {text : List UInt8} {entry : Option ((member : Member) × Value member)}
    (form : format.PartText Form text entry) : ∃ tail, text = 0x22 :: tail := by
  cases form with
  | known key | other key =>
      obtain ⟨body, rfl⟩ := key.eq_cons
      exact ⟨_, rfl⟩

theorem filterMap_id_cons (entry : Option ((member : Member) × Value member))
    (entries : List (Option ((member : Member) × Value member))) :
    (entry :: entries).filterMap id = entry.toList ++ entries.filterMap id := by
  cases entry <;> rfl

section Objects

variable [DecidableEq Member] {draft next final : Draft Value} {bytes rest : List UInt8}

theorem partText_of_readMember (exact : ∀ member, (format.wire member).reader.Exact (Form member))
    (run : format.readMember draft bytes = .ok (next, rest)) :
    ∃ text entry, format.PartText Form (0x22 :: text) entry ∧
      draft.Fills entry.toList next ∧ bytes = text ++ rest := by
  obtain ⟨⟨key, afterKey⟩, keyRun, valued⟩ := bind_eq_ok run
  obtain ⟨text, form, rfl⟩ := textLiteral_of_readLiteral keyRun
  dsimp only at valued
  split at valued
  · next unknown =>
      obtain ⟨afterColon, colonRun, skipped⟩ := bind_eq_ok valued
      obtain ⟨afterValue, valueRun, answer⟩ := bind_eq_ok skipped
      cases answer
      obtain ⟨gap, blankGap, rfl⟩ := eq_of_readColon colonRun
      obtain ⟨blanks, value, blank, skippable, rfl⟩ := skippable_of_skipValue valueRun
      refine ⟨_, none, .other form (member?_eq_none_iff.mp unknown) blankGap blank skippable,
        .nil, ?_⟩
      simp
  · next member found =>
      split at valued
      · cases valued
      · next fresh =>
          obtain ⟨afterColon, colonRun, read⟩ := bind_eq_ok valued
          obtain ⟨⟨value, afterValue⟩, valueRun, answer⟩ := bind_eq_ok read
          cases answer
          obtain ⟨gap, blankGap, rfl⟩ := eq_of_readColon colonRun
          obtain ⟨blanks, valueText, blank, valueForm, rfl⟩ := (exact member).sound valueRun
          rw [← member?_eq_some_iff.mp found] at form
          refine ⟨_, some ⟨member, value⟩, .known form blankGap blank valueForm,
            .cons ?_ .nil, ?_⟩
          · simpa using fresh
          · simp

theorem readMember_of_partText (exact : ∀ member, (format.wire member).reader.Exact (Form member))
    {text : List UInt8} {entry : Option ((member : Member) × Value member)}
    (form : format.PartText Form (0x22 :: text) entry) (fills : draft.Fills entry.toList next)
    (ends : Ends rest) : format.readMember draft (text ++ rest) = .ok (next, rest) := by
  generalize shape : 0x22 :: text = whole at form
  cases form with
  | @known member key gap blanks valueText value keyForm blankGap blank valueForm =>
      obtain ⟨body, rfl⟩ := keyForm.eq_cons
      rw [List.cons_append] at shape
      obtain ⟨-, rfl⟩ := List.cons.inj shape
      cases fills with
      | cons fresh behind =>
          cases behind
          have valueRun := (exact member).complete blank valueForm ends
          simp only [List.append_assoc, List.cons_append]
          rw [readMember, readLiteral_of_textLiteral keyForm]
          simp only [bind, Except.bind, member?_eq_some_iff.mpr rfl, fresh,
            readColon_of_blanks blankGap, valueRun]
          rfl
  | @other name key gap blanks valueText keyForm unknown blankGap blank skippable =>
      obtain ⟨body, rfl⟩ := keyForm.eq_cons
      rw [List.cons_append] at shape
      obtain ⟨-, rfl⟩ := List.cons.inj shape
      cases fills
      simp only [List.append_assoc, List.cons_append]
      rw [readMember, readLiteral_of_textLiteral keyForm]
      simp only [bind, Except.bind, member?_eq_none_iff.mpr unknown, readColon_of_blanks blankGap,
        skipValue_blanks blank, skipValue_of_skippable skippable [] rest ends, skipOuter_nil]
      rfl

theorem entries_of_readMembers
    (exact : ∀ member, (format.wire member).reader.Exact (Form member)) {first : Bool}
    (run : format.readMembers draft first bytes = .ok (final, rest)) :
    ∃ body entries, Entries 0x7D (format.PartText Form) first body entries ∧
      draft.Fills (entries.filterMap id) final ∧ bytes = body ++ rest := by
  fun_induction readMembers format draft first bytes with
  | case1 => cases run
  | case2 draft first bytes after turn =>
      cases run
      obtain ⟨blanks, blank, rfl⟩ := eq_of_objectTurn_closed turn
      exact ⟨blanks ++ [0x7D], [], .close blank, .nil, by simp⟩
  | case3 => cases run
  | case4 draft first bytes entry turn next after memberRun ih =>
      obtain ⟨lead, leads, rfl⟩ := eq_of_objectTurn_entry turn
      obtain ⟨text, part, form, one, rfl⟩ := partText_of_readMember exact memberRun
      obtain ⟨body, entries, others, behind, rfl⟩ := ih run
      refine ⟨_, part :: entries, .entry leads form others, ?_, ?_⟩
      · rw [filterMap_id_cons]
        exact one.append behind
      · simp

theorem readMembers_eq (format : RecordFormat Value ρ) (draft : Draft Value) (first : Bool)
    (bytes : List UInt8) : format.readMembers draft first bytes = (do
      match ← objectTurn first bytes with
      | .closed rest => return (draft, rest)
      | .entry entry =>
          let (next, rest) ← format.readMember draft entry
          format.readMembers next false rest) := by
  rw [readMembers]
  split
  · next failed => rw [failed]; rfl
  · next closed => rw [closed]; rfl
  · next opened =>
      rw [opened]
      split
      · next failed => simp only [bind, Except.bind, failed]
      · next found => simp only [bind, Except.bind, found]

theorem readMembers_of_entry {first : Bool} {entry after : List UInt8}
    (turn : objectTurn first bytes = .ok (.entry entry))
    (memberRun : format.readMember draft entry = .ok (next, after)) :
    format.readMembers draft first bytes = format.readMembers next false after := by
  rw [readMembers_eq, turn]
  simp only [bind, Except.bind, memberRun]

theorem readMembers_of_entries
    (exact : ∀ member, (format.wire member).reader.Exact (Form member)) {first : Bool}
    {body : List UInt8} {entries : List (Option ((member : Member) × Value member))}
    (form : Entries 0x7D (format.PartText Form) first body entries)
    (fills : draft.Fills (entries.filterMap id) final) :
    format.readMembers draft first (body ++ rest) = .ok (final, rest) := by
  -- The draft grows with every entry, so the induction is over all drafts that the parts fill.
  induction form generalizing draft with
  | close blank =>
      cases fills
      rw [List.append_assoc, readMembers_eq, List.singleton_append, objectTurn_closed blank rest]
      rfl
  | @entry first lead text others entry entries leads form behind ih =>
      rw [filterMap_id_cons] at fills
      obtain ⟨next, one, fillsBehind⟩ := fills.exists_of_append
      obtain ⟨tail, rfl⟩ := form.eq_cons
      have turn := objectTurn_entry leads (tail ++ (others ++ rest))
      have memberRun := readMember_of_partText exact form one (behind.ends (by decide) rest)
      simp only [List.append_assoc, List.cons_append]
      rw [readMembers_of_entry turn memberRun]
      exact ih fillsBehind

theorem readObject_eq_ok_iff
    (exact : ∀ member, (format.wire member).reader.Exact (Form member)) {record : ρ} :
    format.readObject bytes = .ok (record, rest) ↔
      ∃ body, RecordText (format.fields Form) (0x7B :: body) record ∧ bytes = body ++ rest := by
  constructor
  · intro run
    obtain ⟨⟨draft, after⟩, membersRun, completed⟩ := bind_eq_ok run
    obtain ⟨body, entries, form, fills, rfl⟩ := entries_of_readMembers exact membersRun
    dsimp only at completed
    split at completed
    · cases completed
    · next values complete =>
        cases completed
        have once := (fills.complete_iff format.members_all format.members_nodup).mp complete
        rw [← format.part_assemble values] at once
        exact ⟨body, recordText_of_parts form once, rfl⟩
  · rintro ⟨body, form, rfl⟩
    obtain ⟨entries, entriesForm, once⟩ := parts_of_recordText form
    obtain ⟨final, fills, complete⟩ :=
      Draft.exists_fills_of_perm format.members_all format.members_nodup once
    rw [readObject, readMembers_of_entries exact entriesForm fills]
    simp only [bind, Except.bind, complete, format.assemble_part]
    rfl

end Objects

/-! ## From a list -/

section Positions

variable [DecidableEq Member] {bytes rest : List UInt8}

theorem entries_of_readValues
    (exact : ∀ member, (format.wire member).reader.Exact (Form member)) {members : List Member}
    (distinct : members.Nodup) {count : Nat} {after : List UInt8}
    {values : (member : Member) → member ∈ members → Value member}
    (all : (member : Member) → Value member)
    (same : ∀ member present, all member = values member present)
    (run : format.readValues members count bytes = .ok (values, after))
    (closeRun : closeList after = .ok rest) :
    ∃ body, Entries 0x5D (fun text member => Form member text (all member)) (count == 0) body
      members ∧ bytes = body ++ rest := by
  induction members generalizing count bytes with
  | nil =>
      cases run
      obtain ⟨blanks, blank, rfl⟩ := eq_of_closeList closeRun
      exact ⟨blanks ++ [0x5D], .close blank, by simp⟩
  | cons member members ih =>
      rw [List.nodup_cons] at distinct
      obtain ⟨turn, turnRun, valued⟩ := bind_eq_ok run
      cases turn with
      | closed => cases valued
      | entry entry =>
          obtain ⟨⟨value, afterValue⟩, valueRun, continued⟩ := bind_eq_ok valued
          obtain ⟨⟨others, afterOthers⟩, othersRun, answer⟩ := bind_eq_ok continued
          obtain ⟨rfl, rfl⟩ := Prod.mk.inj (Except.ok.inj answer)
          obtain ⟨lead, leads, rfl⟩ := eq_of_listTurn_entry turnRun
          obtain ⟨blanks, text, blank, form, rfl⟩ := (exact member).sound valueRun
          have first : all member = value :=
            (same member List.mem_cons_self).trans (dif_pos rfl)
          have behind : ∀ other present, all other = others other present := by
            intro other present
            have different : member ≠ other := fun equal => distinct.1 (equal ▸ present)
            exact (same other (List.mem_cons_of_mem _ present)).trans (dif_neg different)
          obtain ⟨body, entries, rfl⟩ := ih distinct.2 behind othersRun
          rw [← first] at form
          exact ⟨_, .entry (leads.append blank) form entries, by simp⟩

theorem readValues_of_entries
    (exact : ∀ member, (format.wire member).reader.Exact (Form member)) {members : List Member}
    (count : Nat) {body : List UInt8} {all : (member : Member) → Value member}
    (entries : Entries 0x5D (fun text member => Form member text (all member)) (count == 0) body
      members) (rest : List UInt8) :
    ∃ values after, format.readValues members count (body ++ rest) = .ok (values, after) ∧
      closeList after = .ok rest ∧ ∀ member present, values member present = all member := by
  induction members generalizing count body with
  | nil =>
      cases entries with
      | close blank =>
          refine ⟨_, _, rfl, ?_, fun member absent => absurd absent List.not_mem_nil⟩
          rw [List.append_assoc]
          exact closeList_of_blanks blank rest
  | cons member members ih =>
      cases entries with
      | @entry _ lead text others _ _ leads form behind =>
          obtain ⟨turn, valueRun⟩ :=
            (exact member).entry leads form (behind.ends (by decide) rest)
          obtain ⟨values, after, othersRun, closeRun, same⟩ := ih (count + 1) behind
          have run : format.readValues (member :: members) count
              (lead ++ (text ++ others) ++ rest) =
              .ok (fun other present => if equal : member = other then equal ▸ all member
                else values other ((List.mem_cons.mp present).resolve_left (Ne.symm equal)),
                after) := by
            simp only [List.append_assoc]
            rw [readValues, turn]
            simp only [bind, Except.bind, valueRun, othersRun]
            rfl
          refine ⟨_, after, run, closeRun, ?_⟩
          intro other present
          by_cases equal : member = other
          · subst equal
            exact dif_pos rfl
          · exact (dif_neg equal).trans (same other _)

theorem readPositional_eq_ok_iff
    (exact : ∀ member, (format.wire member).reader.Exact (Form member)) {record : ρ} :
    format.readPositional bytes = .ok (record, rest) ↔
      ∃ body, RecordText (format.fields Form) (0x5B :: body) record ∧ bytes = body ++ rest := by
  constructor
  · intro run
    obtain ⟨⟨values, afterValues⟩, valuesRun, closed⟩ := bind_eq_ok run
    obtain ⟨afterClosing, closeRun, answer⟩ := bind_eq_ok closed
    obtain ⟨rfl, rfl⟩ := Prod.mk.inj (Except.ok.inj answer)
    have same : ∀ member present, format.part (format.assemble fun member =>
        values member (format.members_all member)) member = values member present := by
      intro member present
      rw [format.part_assemble]
    obtain ⟨body, entries, rfl⟩ :=
      entries_of_readValues exact format.members_nodup _ same valuesRun closeRun
    exact ⟨body, .list (entries_fields_iff.mpr entries), rfl⟩
  · rintro ⟨body, form, rfl⟩
    cases form with
    | list entriesForm =>
        obtain ⟨values, after, valuesRun, closeRun, same⟩ :=
          readValues_of_entries exact 0 (entries_fields_iff.mp entriesForm) rest
        have assembled : (fun member => values member (format.members_all member)) =
            format.part record := funext fun member => same member _
        rw [readPositional, valuesRun]
        simp only [bind, Except.bind, closeRun, assembled, format.assemble_part]
        rfl

end Positions

/-! ## From either, and back -/

theorem writeMembers_eq_map (layout : Layout) (depth : Nat) (members : List Member) (record : ρ) :
    Document.writeMembers layout depth (members.map fun member =>
        (format.label member, (format.wire member).document (format.part record member))) =
      members.map fun member => literal (format.label member) ++ ':' :: layout.gap ++
        ((format.wire member).document (format.part record member)).write layout depth := by
  induction members with
  | nil => rfl
  | cons member members ih =>
      rw [List.map_cons, List.map_cons, ← ih]
      rfl

/-- Some members of a record are written as one entry for each of them, in order, if what is written
for the members has their form. -/
theorem entries_of_writeMembers {layout : Layout} (blank : layout.Blank) (depth : Nat) (record : ρ)
    (written : ∀ member, Form member (ofChars (((format.wire member).document
      (format.part record member)).write layout (depth + 1))) (format.part record member))
    (members : List Member) :
    ∃ body, Entries 0x7D (format.PartText Form) true body
        ((Draft.parts members (format.part record)).map some) ∧
      ofChars ((Document.object (members.map fun member => (format.label member,
        (format.wire member).document (format.part record member)))).write layout depth) =
          0x7B :: body := by
  have entry : ∀ member, format.PartText Form (ofChars (literal (format.label member) ++
      ':' :: layout.gap ++ ((format.wire member).document
        (format.part record member)).write layout (depth + 1)))
      (some ⟨member, format.part record member⟩) := by
    intro member
    have form : format.PartText Form _ _ := .known (textLiteral_literal (format.label member))
      blanks_nil blank.2 (written member)
    simp only [List.append_assoc, List.cons_append, ofChars_append, ofChars_cons,
      List.nil_append] at form ⊢
    exact form
  obtain ⟨body, entries, shape⟩ :=
    entries_enclose blank depth '\x7b' '\x7d' rfl _ _ entry members
  rw [Draft.parts, List.map_map]
  refine ⟨body, entries, ?_⟩
  rw [Document.write, writeMembers_eq_map, shape]
  rfl

theorem entries_of_write {layout : Layout} (blank : layout.Blank) (depth : Nat) (record : ρ)
    (written : ∀ member, Form member (ofChars (((format.wire member).document
      (format.part record member)).write layout (depth + 1))) (format.part record member)) :
    ∃ body, Entries 0x7D (format.PartText Form) true body
        ((Draft.parts format.members (format.part record)).map some) ∧
      ofChars ((format.document record).write layout depth) = 0x7B :: body :=
  entries_of_writeMembers blank depth record written format.members

theorem read_of_recordText [DecidableEq Member]
    (exact : ∀ member, (format.wire member).reader.Exact (Form member)) {blanks text : List UInt8}
    {record : ρ} (blank : Blanks blanks) (form : RecordText (format.fields Form) text record)
    (rest : List UInt8) : format.read (blanks ++ (text ++ rest)) = .ok (record, rest) := by
  cases form with
  | @object body entries _ entriesForm same =>
      rw [read, List.cons_append, skipBlanks_solid blank (by decide)]
      exact (readObject_eq_ok_iff exact).mpr ⟨body, .object entriesForm same, rfl⟩
  | @list body _ entriesForm =>
      rw [read, List.cons_append, skipBlanks_solid blank (by decide)]
      exact (readPositional_eq_ok_iff exact).mpr ⟨body, .list entriesForm, rfl⟩

theorem record_lawful [DecidableEq Member]
    (lawful : ∀ member, (format.wire member).Lawful (Form member)) :
    format.toWire.Lawful (RecordText (format.fields Form)) where
  sound := by
    intro bytes rest record run
    change format.read bytes = _ at run
    unfold read at run
    split at run
    · next found =>
        obtain ⟨blanks, blank, shape⟩ := eq_of_skipBlanks found
        obtain ⟨body, form, rfl⟩ :=
          (readObject_eq_ok_iff fun member => (lawful member).toExact).mp run
        exact ⟨blanks, 0x7B :: body, blank, form, shape⟩
    · next found =>
        obtain ⟨blanks, blank, shape⟩ := eq_of_skipBlanks found
        obtain ⟨body, form, rfl⟩ :=
          (readPositional_eq_ok_iff fun member => (lawful member).toExact).mp run
        exact ⟨blanks, 0x5B :: body, blank, form, shape⟩
    · cases run
  complete blank form _ := read_of_recordText (fun member => (lawful member).toExact) blank form _
  begins := by
    intro text record form
    cases form <;> exact ⟨_, _, rfl, by decide, by decide⟩
  written := by
    intro layout blank depth record
    obtain ⟨body, entries, shape⟩ := entries_of_write blank depth record fun member =>
      (lawful member).written blank (depth + 1) (format.part record member)
    have once : ((Draft.parts format.members (format.part record)).map some).filterMap id =
        Draft.parts format.members (format.part record) := by
      rw [List.filterMap_map]
      exact List.filterMap_some
    change RecordText _ (ofChars ((format.document record).write layout depth)) record
    rw [shape]
    exact recordText_of_parts entries (.of_eq once)

end RecordFormat

end EquiJoin.Json
