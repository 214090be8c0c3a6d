import EquiJoin.Proofs.Json.Record

/-!
# Up to a place in a value

A value is read from the front.  Up to a place inside of it, its form says what is read; what comes
behind depends only on what is found at the place.  `Reader.Embeds` says that about a value inside
of another: whatever comes of the inner one is handed on, and a change of it changes the outer value
there and nowhere else.
-/

set_option autoImplicit false

namespace EquiJoin.Json

/-- Entries that one more entry follows, and what stands in front of that one. -/
inductive Onward {α : Type} (Entry : List UInt8 → α → Prop) :
    Bool → List UInt8 → List α → Prop where
  | last {first : Bool} {lead : List UInt8} : Lead first lead → Onward Entry first lead []
  | entry {first : Bool} {lead text rest : List UInt8} {value : α} {values : List α} :
      Lead first lead → Entry text value → Onward Entry false rest values →
        Onward Entry first (lead ++ (text ++ rest)) (value :: values)

theorem Onward.ends {α : Type} {Entry : List UInt8 → α → Prop} {front : List UInt8}
    {values : List α} (onward : Onward Entry false front values) (rest : List UInt8) :
    Ends (front ++ rest) := by
  cases onward with
  | last leads => exact leads.ends rest
  | entry leads =>
      rw [List.append_assoc]
      exact leads.ends _

/-- A value begins here, and this comes of reading it, whatever blanks stand in front. -/
structure Reader.Gives {α : Type} (reader : Reader α) (bytes : List UInt8)
    (outcome : Except Fault (α × List UInt8)) : Prop where
  begins : ∃ byte others, bytes = byte :: others ∧ Begins byte
  gave {blanks : List UInt8} : Blanks blanks → reader.read (blanks ++ bytes) = outcome

/-- What becomes of a value goes along with every change of it. -/
def Follows {α β : Type} (next : α × List UInt8 → Except Fault (β × List UInt8))
    (carry : (α → α) → β → β) : Prop :=
  ∀ change value rest result after, next (value, rest) = .ok (result, after) →
    next (change value, rest) = .ok (carry change result, after)

/-- Behind `front` stands an inner value.  The outer reader goes on with whatever comes of it, and
`carry` takes a change of the inner value to the change of the outer one. -/
def Reader.Embeds {α β : Type} (outer : Reader β) (front : List UInt8) (inner : Reader α)
    (carry : (α → α) → β → β) : Prop :=
  ∃ next, Follows next carry ∧ ∀ bytes outcome, inner.Gives bytes outcome →
    outer.Gives (front ++ bytes) (outcome >>= next)

theorem Reader.Embeds.refl {α : Type} (reader : Reader α) : reader.Embeds [] reader id := by
  refine ⟨pure, ?_, fun bytes outcome gives => ?_⟩
  · intro change value rest result after run
    cases run
    rfl
  · rwa [bind_pure]

theorem Reader.Embeds.trans {α β γ : Type} {outer : Reader γ} {middle : Reader β}
    {inner : Reader α} {front more : List UInt8} {carry : (β → β) → γ → γ}
    {carryMore : (α → α) → β → β} (first : outer.Embeds front middle carry)
    (second : middle.Embeds more inner carryMore) :
    outer.Embeds (front ++ more) inner (carry ∘ carryMore) := by
  obtain ⟨next, follows, gives⟩ := first
  obtain ⟨nextMore, followsMore, givesMore⟩ := second
  refine ⟨fun result => nextMore result >>= next, ?_, ?_⟩
  · intro change value rest result after run
    obtain ⟨⟨found, behind⟩, innerRun, outerRun⟩ := bind_eq_ok run
    have moreRun := followsMore change value rest found behind innerRun
    simp only [moreRun]
    exact follows (carryMore change) found behind result after outerRun
  · intro bytes outcome inside
    rw [List.append_assoc, ← bind_assoc]
    exact gives _ _ (givesMore _ _ inside)

section Lists

variable {α : Type} {item : Reader α} {Form : List UInt8 → α → Prop}

/-- What is made of a list behind one of its items, the values in front being read before. -/
def readItemsBehind (item : Reader α) (values : List α) (found : α × List UInt8) :
    Except Fault (List α × List UInt8) := do
  let (others, rest) ← readItems item false found.2
  return (values ++ found.1 :: others, rest)

theorem readItems_of_onward (exact : item.Exact Form) {first : Bool} {front bytes : List UInt8}
    {values : List α} {outcome : Except Fault (α × List UInt8)}
    (onward : Onward Form first front values) (gives : item.Gives bytes outcome) :
    readItems item first (front ++ bytes) = outcome >>= readItemsBehind item values := by
  induction onward with
  | last leads =>
      obtain ⟨byte, others, rfl, solid, opens⟩ := gives.begins
      have itemRun : item.read (byte :: others) = outcome := gives.gave blanks_nil
      rw [readItems_eq, listTurn_entry leads solid opens]
      simp only [bind, Except.bind, itemRun]
      rfl
  | @entry first lead text rest value values leads form behind ih =>
      obtain ⟨turn, itemRun⟩ := exact.entry leads form (behind.ends bytes)
      simp only [List.append_assoc]
      rw [readItems_eq, turn]
      simp only [bind, Except.bind, itemRun, ih]
      cases outcome with
      | error fault => rfl
      | ok found =>
          simp only [readItemsBehind]
          cases readItems item false found.2 <;> rfl

theorem modify_length_append (values : List α) (value : α) (others : List α) (change : α → α) :
    (values ++ value :: others).modify values.length change = values ++ change value :: others := by
  induction values with
  | nil => rfl
  | cons first values ih => exact congrArg (first :: ·) ih

theorem follows_readItemsBehind (item : Reader α) (values : List α) :
    Follows (readItemsBehind item values) fun change items => items.modify values.length change := by
  intro change value rest result after run
  obtain ⟨⟨others, behind⟩, othersRun, done⟩ := bind_eq_ok run
  cases done
  rw [readItemsBehind, othersRun]
  simp only [bind, Except.bind, modify_length_append]
  rfl

theorem embeds_list (exact : item.Exact Form) {front : List UInt8} {values : List α}
    (onward : Onward Form true front values) :
    (Reader.list item).Embeds (0x5B :: front) item
      fun change items => items.modify values.length change := by
  refine ⟨readItemsBehind item values, follows_readItemsBehind item values, ?_⟩
  intro bytes outcome gives
  refine ⟨⟨0x5B, front ++ bytes, rfl, by decide, by decide⟩, ?_⟩
  intro blanks blank
  change readList item _ = _
  rw [readList, List.cons_append, skipBlanks_solid blank (by decide)]
  exact readItems_of_onward exact onward gives

end Lists

/-! ## In a record -/

namespace RecordFormat

variable {Member : Type} {Value : Member → Type} {ρ : Type} (format : RecordFormat Value ρ)
  (Form : (member : Member) → List UInt8 → Value member → Prop)

def given (entries : List (Option ((member : Member) × Value member))) : List Member :=
  (entries.filterMap id).map Sigma.fst

/-- The value of a member in a list, where its place tells which member it belongs to. -/
def PlacedText (text : List UInt8) (part : (member : Member) × Value member) : Prop :=
  Form part.1 text part.2

/-- What stands in a record in front of the value of a member: well-formed parts of the record, and
in an object a key that did not come before. -/
inductive LeadsTo : List UInt8 → Member → Prop where
  | object {front key gap blanks : List UInt8} {member : Member}
      {entries : List (Option ((member : Member) × Value member))} :
      Onward (format.PartText Form) true front entries → (given entries).Nodup →
        member ∉ given entries → TextLiteral key (format.label member) → Blanks gap →
          Blanks blanks → LeadsTo (0x7B :: (front ++ (key ++ (gap ++ 0x3A :: blanks)))) member
  | list {front : List UInt8} {member : Member} {parts : List ((member : Member) × Value member)} :
      Onward (PlacedText Form) true front parts →
        parts.map Sigma.fst ++ [member] <+: format.members → LeadsTo (0x5B :: front) member

def alter [DecidableEq Member] (member : Member) (change : Value member → Value member)
    (record : ρ) : ρ :=
  format.assemble fun other => Draft.changing member change other (format.part record other)

variable {format Form} [DecidableEq Member]

section Objects

variable {draft next : Draft Value} {rest : List UInt8}

/-- An object is read up to a key as its form says, and goes on with whatever comes of the member
there. -/
theorem readMembers_of_onward
    (exact : ∀ member, (format.wire member).reader.Exact (Form member)) {first : Bool}
    {front : List UInt8} {entries : List (Option ((member : Member) × Value member))}
    (onward : Onward (format.PartText Form) first front entries)
    (fills : draft.Fills (entries.filterMap id) next) :
    format.readMembers draft first (front ++ 0x22 :: rest) = (do
      let (draft, rest) ← format.readMember next rest
      format.readMembers draft false rest) := by
  -- Every entry adds to the draft, and the member is read for what they leave together.
  induction onward generalizing draft with
  | last leads =>
      cases fills
      rw [readMembers_eq, objectTurn_entry leads]
      rfl
  | @entry first lead text others entry entries leads form behind ih =>
      rw [filterMap_id_cons] at fills
      obtain ⟨filled, one, fillsBehind⟩ := fills.exists_of_append
      obtain ⟨tail, rfl⟩ := form.eq_cons
      have turn := objectTurn_entry leads (tail ++ (others ++ 0x22 :: rest))
      have memberRun := readMember_of_partText exact form one (behind.ends (0x22 :: rest))
      simp only [List.append_assoc, List.cons_append]
      rw [readMembers_of_entry turn memberRun]
      exact ih fillsBehind

def behindMember (format : RecordFormat Value ρ) (found : Draft Value × List UInt8) :
    Except Fault (ρ × List UInt8) := do
  let (draft, rest) ← format.readMembers found.1 false found.2
  match draft.complete format.members format.members_all with
  | .error member => throw (.before (.missingMember (format.label member)) rest)
  | .ok values => return (format.assemble values, rest)

theorem readObject_of_onward
    (exact : ∀ member, (format.wire member).reader.Exact (Form member)) {front : List UInt8}
    {entries : List (Option ((member : Member) × Value member))}
    (onward : Onward (format.PartText Form) true front entries) (once : (given entries).Nodup) :
    ∃ draft : Draft Value,
      (∀ member, (draft.value? member).isSome = true ↔ member ∈ given entries) ∧
      ∀ rest, format.readObject (front ++ 0x22 :: rest) =
        format.readMember draft rest >>= format.behindMember := by
  obtain ⟨final, fills⟩ := Draft.exists_fills once fun part _ => Draft.value?_empty part.1
  refine ⟨final, fills.isSome_iff, fun rest => ?_⟩
  rw [readObject, readMembers_of_onward exact onward fills, bind_assoc]
  rfl

theorem readMember_of_gives {key gap blanks bytes : List UInt8} {member : Member}
    {outcome : Except Fault (Value member × List UInt8)}
    (keyForm : TextLiteral (0x22 :: key) (format.label member)) (blankGap : Blanks gap)
    (blank : Blanks blanks) (unknown : (draft.value? member).isSome = false)
    (gives : (format.wire member).reader.Gives bytes outcome) :
    format.readMember draft (key ++ (gap ++ 0x3A :: (blanks ++ bytes))) =
      outcome >>= fun found => .ok (draft.set member found.1, found.2) := by
  have valueRun := gives.gave blank
  rw [readMember, readLiteral_of_textLiteral keyForm]
  simp only [bind, Except.bind, member?_eq_some_iff.mpr rfl, unknown, Bool.false_eq_true,
    ↓reduceIte, readColon_of_blanks blankGap, valueRun]
  rfl

/-- Whatever else an object has, it goes along with a change of a member that it had before. -/
theorem readMember_alter {member : Member} (change : Value member → Value member)
    {bytes : List UInt8} (known : (draft.value? member).isSome = true)
    (run : format.readMember draft bytes = .ok (next, rest)) :
    format.readMember (draft.alter member change) bytes = .ok (next.alter member change, rest) ∧
      (next.value? member).isSome = true := by
  obtain ⟨⟨key, afterKey⟩, keyRun, run⟩ := bind_eq_ok run
  rw [readMember, keyRun]
  simp only [bind, Except.bind]
  dsimp only at run
  split at run
  · next unknown =>
      obtain ⟨afterColon, colonRun, run⟩ := bind_eq_ok run
      obtain ⟨afterValue, valueRun, run⟩ := bind_eq_ok run
      cases run
      simp only [colonRun, valueRun]
      exact ⟨rfl, known⟩
  · next other found =>
      split at run
      · cases run
      · next fresh =>
          obtain ⟨afterColon, colonRun, run⟩ := bind_eq_ok run
          obtain ⟨⟨value, afterValue⟩, valueRun, run⟩ := bind_eq_ok run
          cases run
          have different : other ≠ member := by
            rintro rfl
            exact fresh known
          have freshAltered : ((draft.alter member change).value? other).isSome = false := by
            rw [Draft.value?_alter, Option.isSome_map]
            exact Bool.eq_false_iff.mpr fresh
          simp only [freshAltered, Bool.false_eq_true, ↓reduceIte, colonRun, valueRun]
          rw [Draft.alter_set, Draft.changing_of_ne different, Draft.value?_set_of_ne _ _ different]
          exact ⟨rfl, known⟩

theorem readMembers_alter {member : Member} (change : Value member → Value member) {first : Bool}
    {bytes : List UInt8} (known : (draft.value? member).isSome = true)
    (run : format.readMembers draft first bytes = .ok (next, rest)) :
    format.readMembers (draft.alter member change) first bytes =
      .ok (next.alter member change, rest) := by
  fun_induction readMembers format draft first bytes with
  | case1 => cases run
  | case2 draft first bytes after turn =>
      cases run
      rw [readMembers_eq, turn]
      rfl
  | case3 => cases run
  | case4 draft first bytes entry turn between after memberRun ih =>
      obtain ⟨alteredRun, stillKnown⟩ := readMember_alter change known memberRun
      rw [readMembers_of_entry turn alteredRun]
      exact ih stillKnown run

theorem follows_behindMember {member : Member} (unknown : draft.value? member = none) :
    Follows (fun found => format.behindMember (draft.set member found.1, found.2))
      (format.alter member) := by
  intro change value rest record after run
  obtain ⟨⟨final, behind⟩, membersRun, completed⟩ := bind_eq_ok run
  have known : ((draft.set member value).value? member).isSome = true := by
    rw [Draft.value?_set_self, Option.isSome_some]
  have alteredRun := readMembers_alter change known membersRun
  rw [Draft.alter_set, Draft.alter_of_absent unknown, Draft.changing_self] at alteredRun
  dsimp only at completed
  split at completed
  · cases completed
  · next values complete =>
      cases completed
      simp only [behindMember, alteredRun, bind, Except.bind, Draft.complete_alter complete]
      rw [alter, format.part_assemble]
      rfl

end Objects

section Positions

omit [DecidableEq Member] in
theorem mem_of_other {member other : Member} {members : List Member}
    (different : ¬ member = other) (present : other ∈ member :: members) : other ∈ members :=
  List.mem_of_ne_of_mem (Ne.symm different) present

def firstValue {member : Member} {members : List Member} (value : Value member)
    (values : (other : Member) → other ∈ members → Value other) (other : Member)
    (present : other ∈ member :: members) : Value other :=
  if same : member = other then same ▸ value
  else values other (mem_of_other same present)

def valuesBehind (format : RecordFormat Value ρ) (member : Member) (later : List Member)
    (count : Nat) (found : Value member × List UInt8) : Except Fault
      (((other : Member) → other ∈ member :: later → Value other) × List UInt8) := do
  let (values, rest) ← format.readValues later (count + 1) found.2
  return (firstValue found.1 values, rest)

theorem readValues_of_entry {member : Member} {later : List Member} {count : Nat}
    {bytes entry : List UInt8} {outcome : Except Fault (Value member × List UInt8)}
    (turn : listTurn (count == 0) bytes = .ok (.entry entry))
    (valueRun : (format.wire member).reader.read entry = outcome) :
    format.readValues (member :: later) count bytes =
      outcome >>= format.valuesBehind member later count := by
  rw [readValues, turn]
  simp only [bind, Except.bind, valueRun]
  rfl

def changeAll (member : Member) (change : Value member → Value member) {members : List Member}
    (values : (other : Member) → other ∈ members → Value other) (other : Member)
    (present : other ∈ members) : Value other :=
  Draft.changing member change other (values other present)

theorem changeAll_firstValue {member first : Member} {members : List Member}
    (change : Value member → Value member) (value : Value first)
    (values : (other : Member) → other ∈ members → Value other) :
    changeAll member change (firstValue value values) =
      firstValue (Draft.changing member change first value) (changeAll member change values) := by
  funext other present
  by_cases same : first = other
  · subst same
    simp [changeAll, firstValue]
  · simp [changeAll, firstValue, same]

theorem changeAll_of_not_mem {member : Member} {members : List Member}
    (absent : member ∉ members) (change : Value member → Value member)
    (values : (other : Member) → other ∈ members → Value other) :
    changeAll member change values = values := by
  funext other present
  have different : other ≠ member := fun same => absent (same ▸ present)
  rw [changeAll, Draft.changing_of_ne different, id]

theorem follows_valuesBehind {member : Member} {later : List Member} (once : member ∉ later)
    (count : Nat) :
    Follows (format.valuesBehind member later count) fun change values =>
      changeAll member change values := by
  intro change value rest result after run
  obtain ⟨⟨values, behind⟩, valuesRun, done⟩ := bind_eq_ok run
  cases done
  dsimp only at valuesRun ⊢
  rw [valuesBehind, valuesRun, changeAll_firstValue, Draft.changing_self,
    changeAll_of_not_mem once]
  rfl

theorem follows_firstValue {first member : Member} {later : List Member}
    (different : first ≠ member) (value : Value first)
    {next : Value member × List UInt8 → Except Fault
      (((other : Member) → other ∈ later → Value other) × List UInt8)}
    (follows : Follows next fun change values => changeAll member change values) :
    Follows (fun found => do
      let (values, rest) ← next found
      return (firstValue value values, rest)) fun change values =>
        changeAll member change values := by
  intro change found rest result after run
  obtain ⟨⟨values, last⟩, valuesRun, done⟩ := bind_eq_ok run
  cases done
  dsimp only
  rw [follows change found rest values after valuesRun, changeAll_firstValue,
    Draft.changing_of_ne different]
  rfl

theorem readValues_of_onward
    (exact : ∀ member, (format.wire member).reader.Exact (Form member)) (count : Nat)
    {front : List UInt8} {member : Member} {members : List Member} (distinct : members.Nodup)
    {parts : List ((member : Member) × Value member)}
    (onward : Onward (PlacedText Form) (count == 0) front parts)
    (order : parts.map Sigma.fst ++ [member] <+: members) :
    ∃ next, Follows next (fun change values => changeAll member change values) ∧
      ∀ bytes outcome, (format.wire member).reader.Gives bytes outcome →
        format.readValues members count (front ++ bytes) = outcome >>= next := by
  -- A part in front takes the first of the members, so `order` is handed on with the others.
  induction parts generalizing count front members with
  | nil =>
      cases onward with
      | last leads =>
          obtain ⟨later, rfl⟩ := order
          obtain ⟨once, -⟩ := List.nodup_cons.mp distinct
          refine ⟨format.valuesBehind member later count, follows_valuesBehind once count, ?_⟩
          intro bytes outcome gives
          obtain ⟨byte, others, rfl, solid, opens⟩ := gives.begins
          have valueRun : (format.wire member).reader.read (byte :: others) = outcome :=
            gives.gave blanks_nil
          exact readValues_of_entry (listTurn_entry leads solid opens others) valueRun
  | cons part parts ih =>
      cases onward with
      | @entry _ lead text others _ _ leads form behind =>
          obtain ⟨later, rfl⟩ := order
          obtain ⟨once, distinct⟩ := List.nodup_cons.mp distinct
          have different : part.1 ≠ member := by
            rintro rfl
            exact once (List.mem_append_left _ (List.mem_append_right _ List.mem_cons_self))
          obtain ⟨next, follows, gives⟩ := ih (count + 1) distinct behind (List.prefix_append _ _)
          refine ⟨_, follows_firstValue different part.2 follows, ?_⟩
          intro bytes outcome inside
          obtain ⟨turn, valueRun⟩ := (exact part.1).entry leads form (behind.ends bytes)
          have othersRun := gives bytes outcome inside
          simp only [List.append_assoc]
          refine (readValues_of_entry turn valueRun).trans ?_
          simp only [valuesBehind, bind, Except.bind, othersRun]
          cases outcome <;> rfl

end Positions

theorem gives_of_readObject {bytes : List UInt8} {outcome : Except Fault (ρ × List UInt8)}
    (run : format.readObject bytes = outcome) :
    format.toWire.reader.Gives (0x7B :: bytes) outcome := by
  refine ⟨⟨0x7B, bytes, rfl, by decide, by decide⟩, ?_⟩
  intro blanks blank
  change format.read _ = _
  rw [read, skipBlanks_solid blank (by decide)]
  exact run

theorem gives_of_readPositional {bytes : List UInt8} {outcome : Except Fault (ρ × List UInt8)}
    (run : format.readPositional bytes = outcome) :
    format.toWire.reader.Gives (0x5B :: bytes) outcome := by
  refine ⟨⟨0x5B, bytes, rfl, by decide, by decide⟩, ?_⟩
  intro blanks blank
  change format.read _ = _
  rw [read, skipBlanks_solid blank (by decide)]
  exact run

def behindValues (format : RecordFormat Value ρ)
    (found : ((member : Member) → member ∈ format.members → Value member) × List UInt8) :
    Except Fault (ρ × List UInt8) := do
  let rest ← closeList found.2
  return (format.assemble fun member => found.1 member (format.members_all member), rest)

theorem embeds_record (exact : ∀ member, (format.wire member).reader.Exact (Form member))
    {front : List UInt8} {member : Member} (leads : format.LeadsTo Form front member) :
    format.toWire.reader.Embeds front (format.wire member).reader (format.alter member) := by
  cases leads with
  | object onward once absent keyForm blankGap blank =>
      obtain ⟨body, rfl⟩ := keyForm.eq_cons
      obtain ⟨draft, known, readRun⟩ := readObject_of_onward exact onward once
      have unknown : (draft.value? member).isSome = false := by
        rw [← Bool.not_eq_true, known]
        exact absent
      refine ⟨_, follows_behindMember (by simpa using unknown), ?_⟩
      intro bytes outcome gives
      simp only [List.append_assoc, List.cons_append]
      refine gives_of_readObject ?_
      rw [readRun, readMember_of_gives keyForm blankGap blank unknown gives, bind_assoc]
      rfl
  | list onward order =>
      obtain ⟨next, follows, gives⟩ :=
        readValues_of_onward exact 0 format.members_nodup onward order
      refine ⟨fun found => next found >>= format.behindValues, ?_, ?_⟩
      · intro change value rest record after run
        obtain ⟨⟨values, behind⟩, valuesRun, closed⟩ := bind_eq_ok run
        obtain ⟨closing, closeRun, done⟩ := bind_eq_ok closed
        cases done
        dsimp only
        rw [follows change value rest values behind valuesRun]
        simp only [behindValues, closeRun, bind, Except.bind]
        rw [alter, format.part_assemble]
        rfl
      · intro bytes outcome inside
        rw [List.cons_append]
        refine gives_of_readPositional ?_
        rw [readPositional, gives bytes outcome inside, bind_assoc]
        rfl

end RecordFormat

/-! ## In a payload -/

section Payloads

variable {α β : Type} [wire : Wire β] {inner : Reader α} {carry : (α → α) → β → β}
  {blanks front : List UInt8}

theorem decode_eq_ok_iff_of_gives {bytes : List UInt8} {outcome : Except Fault (β × List UInt8)}
    (blank : Blanks blanks) (gives : wire.reader.Gives bytes outcome) {value : β} :
    decode (blanks ++ bytes) = .ok value ↔ ∃ rest, outcome = .ok (value, rest) ∧ Blanks rest := by
  have readRun := gives.gave blank
  rw [decode, readWhole, readRun]
  cases outcome with
  | error fault => simp [bind, Except.bind]
  | ok found =>
      obtain ⟨read, rest⟩ := found
      simp only [bind, Except.bind]
      constructor
      · intro run
        split at run
        · next whole =>
            cases run
            split at whole
            · next behind =>
                cases whole
                obtain ⟨after, blankAfter, rfl⟩ := eq_of_skipBlanks behind
                exact ⟨_, rfl, by rwa [List.append_nil]⟩
            · cases whole
        · cases run
      · rintro ⟨after, same, blankAfter⟩
        cases same
        rw [skipBlanks_blanks blankAfter]
        rfl

/-- In a payload that is accepted, another text is put in the place of an inner value.  The payload
is accepted with it if the inner reader takes it, and then the outer value changes there only. -/
theorem decode_eq_ok_iff_of_embeds (blank : Blanks blanks)
    (embeds : wire.reader.Embeds front inner carry) {held text back : List UInt8} {value : α}
    {base : β} (holds : inner.Gives (held ++ back) (.ok (value, back)))
    (accepted : decode (blanks ++ (front ++ (held ++ back))) = .ok base)
    {outcome : Except Fault (α × List UInt8)} (gives : inner.Gives (text ++ back) outcome)
    (delimited : ∀ value rest, outcome = .ok (value, rest) → rest = back) {found : β} :
    decode (blanks ++ (front ++ (text ++ back))) = .ok found ↔
      ∃ value, outcome = .ok (value, back) ∧ found = carry (fun _ => value) base := by
  obtain ⟨next, follows, hands⟩ := embeds
  obtain ⟨rest, baseRun, blankRest⟩ :=
    (decode_eq_ok_iff_of_gives blank (hands _ _ holds)).mp accepted
  -- The reader goes on behind the new value as it did behind the old one.
  have replaced : ∀ other, next (other, back) = .ok (carry (fun _ => other) base, rest) :=
    fun other => follows (fun _ => other) value back base rest baseRun
  rw [decode_eq_ok_iff_of_gives blank (hands _ _ gives)]
  constructor
  · rintro ⟨after, run, -⟩
    obtain ⟨⟨other, behind⟩, rfl, nextRun⟩ := bind_eq_ok run
    obtain rfl := delimited other behind rfl
    rw [replaced other] at nextRun
    cases nextRun
    exact ⟨other, rfl, rfl⟩
  · rintro ⟨other, rfl, rfl⟩
    exact ⟨rest, replaced other, blankRest⟩

end Payloads

end EquiJoin.Json
