import EquiJoin.Proofs.Json.Record
import EquiJoin.Proofs.Json.Truncation

/-!
# Records that are cut off

A record is written as an object with all of its members in order.  Wherever it is cut, the end of
the payload is reported at the end of the payload, if the values of the members are used up by
their readers wherever they are cut (`record_truncates`).
-/

set_option autoImplicit false

namespace EquiJoin.Json

open Utf8 (ofChars)

variable {front : List UInt8}

theorem starves_objectTurn_blanks (first : Bool) (blanks : List UInt8) (blank : Blanks blanks) :
    Starves (objectTurn first blanks) := by
  rw [objectTurn, skipBlanks_blanks blank]
  exact starves_endOfObject

theorem starves_objectTurn {first : Bool} {lead : List UInt8} (leads : Lead first lead)
    (cut : front <+: lead) : Starves (objectTurn first front) := by
  refine starves_turn starves_objectTurn_blanks ?_ leads cut
  intro before after blankBefore blankAfter
  rw [objectTurn_comma blankBefore, skipBlanks_blanks blankAfter]
  exact starves_endOfValue

theorem starves_readColon {blanks : List UInt8} (blank : Blanks blanks) :
    Starves (readColon blanks) := by
  rw [readColon, skipBlanks_blanks blank]
  exact starves_endOfObject

namespace RecordFormat

variable {Member : Type} {Value : Member → Type} {ρ : Type} {format : RecordFormat Value ρ}
  {Form : (member : Member) → List UInt8 → Value member → Prop}

def Writes (format : RecordFormat Value ρ) (member : Member) : List UInt8 → Value member → Prop :=
  (format.wire member).Writes

theorem PartText.map {Other : (member : Member) → List UInt8 → Value member → Prop}
    (carry : ∀ member text value, Form member text value → Other member text value)
    {text : List UInt8} {entry : Option ((member : Member) × Value member)}
    (form : format.PartText Form text entry) : format.PartText Other text entry := by
  cases form with
  | known keyForm blankGap blank valueForm =>
      exact .known keyForm blankGap blank (carry _ _ _ valueForm)
  | other keyForm unknown blankGap blank skippable =>
      exact .other keyForm unknown blankGap blank skippable

variable [DecidableEq Member] {draft final : Draft Value}

theorem starves_readMembers_blanks (format : RecordFormat Value ρ) (draft : Draft Value)
    (first : Bool) {blanks : List UInt8} (blank : Blanks blanks) :
    Starves (format.readMembers draft first blanks) := by
  rw [readMembers_eq]
  exact (starves_objectTurn_blanks first blanks blank).bind _

theorem drains_readMember (lawful : ∀ member, (format.wire member).Lawful (Form member))
    (truncates : ∀ member, (format.wire member).Truncates) {text : List UInt8} {member : Member}
    {value : Value member}
    (form : format.PartText format.Writes (0x22 :: text) (some ⟨member, value⟩))
    (fresh : draft.value? member = none) (cut : Cut front text) :
    Drains (format.readMember draft front) := by
  generalize shape : 0x22 :: text = whole at form
  cases form with
  | @known member key gap blanks valueText value keyForm blankGap blank written =>
      obtain ⟨body, rfl⟩ := keyForm.eq_cons
      rw [List.cons_append] at shape
      obtain ⟨-, rfl⟩ := List.cons.inj shape
      rcases cut.append_cases with short | ⟨behindKey, rfl, inner⟩
      · exact .inl ((starves_readLiteral keyForm short).bind _)
      · rw [readMember, readLiteral_of_textLiteral keyForm]
        simp only [bind, Except.bind, member?_eq_some_iff.mpr rfl, fresh]
        change Drains (readColon behindKey >>= fun rest =>
          (format.wire member).reader.read rest >>= fun read =>
            pure (draft.set member read.1, read.2))
        rcases inner.append_cases_ne_nil with short | ⟨colon, begun, rfl, later⟩
        · exact .inl ((starves_readColon (blankGap.of_isPrefix short)).bind _)
        · rcases later.cons_cases with rfl | ⟨behindColon, rfl, last⟩
          · exact absurd rfl begun
          · rw [readColon_of_blanks blankGap]
            obtain ⟨byte, others, shape, _⟩ :=
              (lawful member).begins ((lawful member).form_of_writes written)
            obtain ⟨before, left, blankBefore, short, rfl⟩ :=
              last.exists_blanks_append blank (by rw [shape]; simp)
            rcases (truncates member).drains blankBefore written short with starves | ⟨read, run⟩
            · exact .inl (starves.bind _)
            · refine .inr ⟨draft.set member read, ?_⟩
              change ((format.wire member).reader.read (before ++ left) >>= _) = _
              rw [run]
              rfl

theorem starves_readMembers (lawful : ∀ member, (format.wire member).Lawful (Form member))
    (truncates : ∀ member, (format.wire member).Truncates)
    {parts : List ((member : Member) × Value member)} (fills : draft.Fills parts final)
    {first : Bool} {body : List UInt8}
    (entries : Entries 0x7D (format.PartText format.Writes) first body (parts.map some))
    (cut : Cut front body) : Starves (format.readMembers draft first front) := by
  induction fills generalizing first body front with
  | @nil draft =>
      cases entries with
      | close blank =>
          exact starves_readMembers_blanks format draft first
            (blank.of_isPrefix cut.prefix_of_concat)
  | @cons draft final member value parts fresh fills ih =>
      cases entries with
      | @entry _ lead text rest _ _ leads form behind =>
          rcases cut.append_cases_ne_nil with short | ⟨inside, begun, rfl, inner⟩
          · rw [readMembers_eq]
            exact (starves_objectTurn leads short).bind _
          · obtain ⟨tail, rfl⟩ := form.eq_cons
            rcases inner.cons_cases with rfl | ⟨others, rfl, later⟩
            · exact absurd rfl begun
            · rw [readMembers_eq, objectTurn_entry leads]
              change Starves (format.readMember draft others >>= fun read =>
                format.readMembers read.1 false read.2)
              rcases later.append_cases with short | ⟨more, rfl, last⟩
              · rcases drains_readMember lawful truncates form fresh short with
                  starves | ⟨next, run⟩
                · exact starves.bind _
                · rw [run]
                  exact starves_readMembers_blanks format next false blanks_nil
              · have whole : format.PartText Form (0x22 :: tail) (some ⟨member, value⟩) :=
                  form.map fun member _ _ written => (lawful member).form_of_writes written
                rw [readMember_of_partText (fun member => (lawful member).toExact) whole
                  (.cons fresh .nil) (behind.ends_of_cut (by decide) last)]
                exact ih behind last

/-- Wherever a written record is cut, reading it asks for more at the end. -/
theorem starves_read (lawful : ∀ member, (format.wire member).Lawful (Form member))
    (truncates : ∀ member, (format.wire member).Truncates) {blanks text : List UInt8} {record : ρ}
    (blank : Blanks blanks) (written : format.toWire.Writes text record) (cut : Cut front text) :
    Starves (format.read (blanks ++ front)) := by
  obtain ⟨layout, depth, blankLayout, rfl⟩ := written
  have value : ∀ member, format.Writes member (ofChars (((format.wire member).document
      (format.part record member)).write layout (depth + 1))) (format.part record member) :=
    fun member => ⟨layout, depth + 1, blankLayout, rfl⟩
  obtain ⟨body, entries, shape⟩ := entries_of_write blankLayout depth record value
  change Cut front (ofChars ((format.document record).write layout depth)) at cut
  rw [shape] at cut
  rcases cut.cons_cases with rfl | ⟨others, rfl, inner⟩
  · rw [read, skipBlanks_append blank]
    exact starves_endOfValue
  · obtain ⟨final, fills, _⟩ := Draft.exists_fills_of_perm format.members_all
      format.members_nodup (.refl (Draft.parts format.members (format.part record)))
    rw [read, skipBlanks_solid blank (by decide)]
    exact (starves_readMembers lawful truncates fills entries inner).bind _

theorem record_truncates (lawful : ∀ member, (format.wire member).Lawful (Form member))
    (truncates : ∀ member, (format.wire member).Truncates) : format.toWire.Truncates where
  drains blank written cut := .inl (starves_read lawful truncates blank written cut)

end RecordFormat

end EquiJoin.Json
