import EquiJoin.Proofs.Json.Passage

/-!
# Faults in the structure of records

A record may consist of well-formed parts and still be none: a member comes twice, an object closes
without some member, or a list closes too early.  These faults depend on nothing behind the place
where they are certain (`fails_repeated`, `fails_missing`, `fails_short`).  A record that is read
inside of another value reports them as the faults of that value (`Reader.Defers`).
-/

set_option autoImplicit false

namespace EquiJoin.Json

/-- A value begins here, and reading it stops with the fault, whatever blanks stand in front. -/
structure Reader.Fails {α : Type} (reader : Reader α) (bytes : List UInt8) (fault : Fault) :
    Prop where
  begins : ∃ byte others, bytes = byte :: others ∧ Begins byte
  failed {blanks : List UInt8} : Blanks blanks → reader.read (blanks ++ bytes) = .error fault

theorem Reader.fails_iff_gives {α : Type} {reader : Reader α} {bytes : List UInt8}
    {fault : Fault} : reader.Fails bytes fault ↔ reader.Gives bytes (.error fault) :=
  ⟨fun fails => ⟨fails.begins, fails.failed⟩, fun gives => ⟨gives.begins, gives.gave⟩⟩

/-- Whatever fault the inner reader meets behind `front`, the outer reader reports. -/
def Reader.Defers {α β : Type} (outer : Reader β) (front : List UInt8) (inner : Reader α) : Prop :=
  ∀ bytes fault, inner.Fails bytes fault → outer.Fails (front ++ bytes) fault

theorem Reader.Defers.refl {α : Type} (reader : Reader α) : reader.Defers [] reader :=
  fun _ _ fails => fails

theorem Reader.Defers.trans {α β γ : Type} {outer : Reader γ} {middle : Reader β}
    {inner : Reader α} {front more : List UInt8} (first : outer.Defers front middle)
    (second : middle.Defers more inner) : outer.Defers (front ++ more) inner := by
  intro bytes fault fails
  rw [List.append_assoc]
  exact first _ _ (second _ _ fails)

theorem Reader.Embeds.defers {α β : Type} {outer : Reader β} {front : List UInt8}
    {inner : Reader α} {carry : (α → α) → β → β} (embeds : outer.Embeds front inner carry) :
    outer.Defers front inner := by
  obtain ⟨next, -, gives⟩ := embeds
  intro bytes fault fails
  exact Reader.fails_iff_gives.mpr (gives bytes _ (Reader.fails_iff_gives.mp fails))

theorem defers_list {α : Type} {item : Reader α} {Form : List UInt8 → α → Prop}
    (exact : item.Exact Form) {front : List UInt8} {values : List α}
    (onward : Onward Form true front values) : (Reader.list item).Defers (0x5B :: front) item :=
  (embeds_list exact onward).defers

namespace RecordFormat

variable {Member : Type} {Value : Member → Type} {ρ : Type} {format : RecordFormat Value ρ}
  {Form : (member : Member) → List UInt8 → Value member → Prop} [DecidableEq Member]

theorem readMember_of_repeated {draft : Draft Value} {key : List UInt8} {member : Member}
    (keyForm : TextLiteral (0x22 :: key) (format.label member))
    (known : (draft.value? member).isSome = true) (rest : List UInt8) :
    format.readMember draft (key ++ rest) =
      .error (.before (.repeatedMember (format.label member)) (abandonObject rest)) := by
  rw [readMember, readLiteral_of_textLiteral keyForm]
  simp only [bind, Except.bind, member?_eq_some_iff.mpr rfl, known, ↓reduceIte]
  rfl

/-- A member that comes a second time is refused with its key, whatever stands behind the key. -/
theorem fails_repeated (exact : ∀ member, (format.wire member).reader.Exact (Form member))
    {front key : List UInt8} {member : Member}
    {entries : List (Option ((member : Member) × Value member))}
    (onward : Onward (format.PartText Form) true front entries) (once : (given entries).Nodup)
    (again : member ∈ given entries) (keyForm : TextLiteral key (format.label member))
    (rest : List UInt8) :
    format.toWire.reader.Fails (0x7B :: (front ++ (key ++ rest)))
      (.before (.repeatedMember (format.label member)) (abandonObject rest)) := by
  obtain ⟨body, rfl⟩ := keyForm.eq_cons
  obtain ⟨draft, known, readRun⟩ := readObject_of_onward exact onward once
  refine Reader.fails_iff_gives.mpr (gives_of_readObject ?_)
  rw [List.cons_append, readRun, readMember_of_repeated keyForm ((known member).mpr again)]
  rfl

/-- An object that closes lacks the first member, in the order of the format, that it has no entry
for. -/
theorem fails_missing (exact : ∀ member, (format.wire member).reader.Exact (Form member))
    {body : List UInt8} {entries : List (Option ((member : Member) × Value member))}
    (closed : Entries 0x7D (format.PartText Form) true body entries)
    (once : (given entries).Nodup) {before after : List Member} {member : Member}
    (order : format.members = before ++ member :: after)
    (present : ∀ other ∈ before, other ∈ given entries) (absent : member ∉ given entries)
    (rest : List UInt8) :
    format.toWire.reader.Fails (0x7B :: (body ++ rest))
      (.before (.missingMember (format.label member)) rest) := by
  obtain ⟨final, fills⟩ := Draft.exists_fills once fun part _ => Draft.value?_empty part.1
  -- The order of the entries does not matter any more: the draft only tells which members came.
  have missing : final.missing? format.members = some member := by
    rw [order]
    exact fills.missing?_append present absent
  refine Reader.fails_iff_gives.mpr (gives_of_readObject ?_)
  rw [readObject, readMembers_of_entries exact closed fills]
  simp only [bind, Except.bind, Draft.complete_of_missing missing]
  rfl

/-- A list that closes too early says how many members it has a value for. -/
theorem readValues_of_short
    (exact : ∀ member, (format.wire member).reader.Exact (Form member)) (count : Nat)
    {body : List UInt8} {members : List Member} {parts : List ((member : Member) × Value member)}
    (closed : Entries 0x5D (PlacedText Form) (count == 0) body parts)
    (order : parts.map Sigma.fst <+: members) (short : parts.length < members.length)
    (rest : List UInt8) : format.readValues members count (body ++ rest) = .error (.before
      (.tooFewItems (count + parts.length) format.name format.members.length) rest) := by
  induction parts generalizing count body members with
  | nil =>
      obtain ⟨member, members, rfl⟩ := List.exists_cons_of_length_pos short
      cases closed with
      | close blank =>
          rw [List.append_assoc, List.singleton_append, readValues, listTurn_closed blank]
          rfl
  | cons part parts ih =>
      cases closed with
      | @entry _ lead text others _ _ leads form behind =>
          obtain ⟨later, rfl⟩ := order
          obtain ⟨turn, valueRun⟩ :=
            (exact part.1).entry leads form (behind.ends (by decide) rest)
          have shorter : parts.length < (parts.map Sigma.fst ++ later).length :=
            Nat.lt_of_succ_lt_succ short
          have others := ih (count + 1) behind (List.prefix_append _ _) shorter
          rw [Nat.add_assoc, Nat.add_comm 1] at others
          simp only [List.append_assoc]
          change format.readValues (part.1 :: (parts.map Sigma.fst ++ later)) count _ = _
          rw [readValues_of_entry turn valueRun]
          simp only [valuesBehind, bind, Except.bind, others]
          rfl

theorem fails_short (exact : ∀ member, (format.wire member).reader.Exact (Form member))
    {body : List UInt8} {parts : List ((member : Member) × Value member)}
    (closed : Entries 0x5D (PlacedText Form) true body parts)
    (order : parts.map Sigma.fst <+: format.members)
    (short : parts.length < format.members.length) (rest : List UInt8) :
    format.toWire.reader.Fails (0x5B :: (body ++ rest))
      (.before (.tooFewItems parts.length format.name format.members.length) rest) := by
  have failed := readValues_of_short exact 0 closed order short rest
  refine Reader.fails_iff_gives.mpr (gives_of_readPositional ?_)
  rw [Nat.zero_add] at failed
  rw [readPositional, failed]
  rfl

theorem defers_record (exact : ∀ member, (format.wire member).reader.Exact (Form member))
    {front : List UInt8} {member : Member} (leads : format.LeadsTo Form front member) :
    format.toWire.reader.Defers front (format.wire member).reader :=
  (embeds_record exact leads).defers

theorem exists_abandoned (bytes : List UInt8) :
    ∃ passed, bytes = passed ++ abandonObject bytes := by
  obtain ⟨blanks, _, shape⟩ := exists_blanks bytes
  unfold abandonObject
  split
  · next rest found =>
      rw [found] at shape
      exact ⟨blanks ++ [0x7D], by rw [shape, List.append_assoc, List.singleton_append]⟩
  · exact ⟨blanks, shape⟩

end RecordFormat

/-! ## In a payload -/

theorem decode_of_defers {α β : Type} [wire : Wire β] {inner : Reader α}
    {blanks front text rest : List UInt8} {cause : Cause} (blank : Blanks blanks)
    (defers : wire.reader.Defers front inner)
    (fails : inner.Fails (text ++ rest) (.before cause rest)) :
    (decode (blanks ++ front ++ (text ++ rest)) : Except Malformed β) =
      .error ⟨cause, Place.behind (blanks ++ front ++ text)⟩ := by
  have failed := (defers _ _ fails).failed blank
  have whole : readWhole wire.reader (blanks ++ front ++ (text ++ rest)) =
      .error (.before cause rest) := by
    rw [List.append_assoc, readWhole, failed]
    rfl
  rw [decode, whole]
  simp only
  rw [← List.append_assoc (blanks ++ front), place_of_before]
  rfl

def Refuses {α : Type} (outcome : Except Malformed α) (text : String) (place : Place) : Prop :=
  ∃ cause, outcome = .error ⟨cause, place⟩ ∧ cause.message = text

/-- Behind `front`, what is wrong with the structure of a record decides how the payload is
refused, whatever follows. -/
structure RecordFormat.Decides {Member : Type} {Value : Member → Type} {ρ β : Type}
    (format : RecordFormat Value ρ) (Form : (member : Member) → List UInt8 → Value member → Prop)
    (front : List UInt8) (decode : List UInt8 → Except Malformed β) : Prop where
  /-- The key of a member that already has a value is refused as soon as it ends.  The place is
  found by looking for the end of the object behind that key. -/
  repeated {body key : List UInt8} {member : Member}
      {entries : List (Option ((member : Member) × Value member))} (rest : List UInt8) :
    Onward (format.PartText Form) true body entries → (given entries).Nodup →
      member ∈ given entries → TextLiteral key (format.label member) →
        ∃ passed, rest = passed ++ abandonObject rest ∧
          Refuses (decode (front ++ (0x7B :: (body ++ key) ++ rest)))
            ("duplicate field `" ++ format.label member ++ "`")
            (Place.behind (front ++ (0x7B :: (body ++ key) ++ passed)))
  missing {body : List UInt8} {before after : List Member} {member : Member}
      {entries : List (Option ((member : Member) × Value member))} (rest : List UInt8) :
    Entries 0x7D (format.PartText Form) true body entries → (given entries).Nodup →
      format.members = before ++ member :: after → (∀ other ∈ before, other ∈ given entries) →
        member ∉ given entries →
          Refuses (decode (front ++ (0x7B :: body ++ rest)))
            ("missing field `" ++ format.label member ++ "`")
            (Place.behind (front ++ 0x7B :: body))
  short {body : List UInt8} {parts : List ((member : Member) × Value member)}
      (rest : List UInt8) :
    Entries 0x5D (PlacedText Form) true body parts → parts.map Sigma.fst <+: format.members →
      parts.length < format.members.length →
        Refuses (decode (front ++ (0x5B :: body ++ rest)))
          ("invalid length " ++ toString parts.length ++ ", expected struct " ++ format.name ++
            " with " ++ toString format.members.length ++ " elements")
          (Place.behind (front ++ 0x5B :: body))

theorem RecordFormat.decides_of_defers {Member : Type} {Value : Member → Type} {ρ β : Type}
    [DecidableEq Member] [wire : Wire β] {format : RecordFormat Value ρ}
    {Form : (member : Member) → List UInt8 → Value member → Prop}
    (exact : ∀ member, (format.wire member).reader.Exact (Form member))
    {blanks front : List UInt8} (blank : Blanks blanks)
    (defers : wire.reader.Defers front format.toWire.reader) :
    format.Decides Form (blanks ++ front) (decode : List UInt8 → Except Malformed β) where
  repeated {body key member entries} rest onward once again keyForm := by
    obtain ⟨passed, shape⟩ := exists_abandoned rest
    -- The place counts what is passed over behind the key as read.
    have fails := fails_repeated exact onward once again keyForm rest
    have regroup : 0x7B :: (body ++ (key ++ rest)) =
        0x7B :: (body ++ key) ++ passed ++ abandonObject rest := by
      rw [List.append_assoc, ← shape, List.cons_append, List.append_assoc]
    rw [regroup] at fails
    have refused := decode_of_defers blank defers fails
    rw [List.append_assoc _ passed, ← shape] at refused
    exact ⟨passed, shape, _, refused, rfl⟩
  missing rest closed once order present absent :=
    ⟨_, decode_of_defers blank defers
      (fails_missing exact closed once order present absent rest), rfl⟩
  short rest closed order few :=
    ⟨_, decode_of_defers blank defers (fails_short exact closed order few rest), rfl⟩

end EquiJoin.Json
