import EquiJoin.Log.Journal
import EquiJoin.Proofs.Descriptor.Faults
import EquiJoin.Proofs.Descriptor.Payload
import EquiJoin.Proofs.Json.Document

/-!
# Descriptors from settings

Whatever the settings, and in whatever order they come, the last one for a member counts.  They
amount to a descriptor exactly if every required member was given; otherwise the first required
member that was not is the one that the decoder misses, too, in the text of a descriptor without
those that were not given (`assembled`).
-/

set_option autoImplicit false

namespace EquiJoin

open Json
open Utf8 (ofChars)

namespace Json

def Document.without (keys : List String) : Document → Document
  | .object members => .object (members.filter fun member => member.1 ∉ keys)
  | other => other

namespace RecordFormat

variable {Member : Type} {Value : Member → Type} {ρ : Type} {format : RecordFormat Value ρ}
  {Form : (member : Member) → List UInt8 → Value member → Prop}

theorem given_parts (members : List Member) (values : (member : Member) → Value member) :
    given ((Draft.parts members values).map some) = members := by
  simp [given, Draft.parts, Function.comp_def]

variable [DecidableEq Member]

theorem document_without (record : ρ) (dropped : List Member) :
    (format.document record).without (dropped.map format.label) =
      .object ((format.members.filter (· ∉ dropped)).map fun member =>
        (format.label member, (format.wire member).document (format.part record member))) := by
  have kept : ∀ member, format.label member ∉ dropped.map format.label ↔ member ∉ dropped := by
    intro member
    rw [List.mem_map_of_injective fun first second => format.label_injective first second]
  rw [document, Document.without, List.filter_map]
  simp only [Function.comp_def, kept]

/-- A record that is written without some of its members lacks the first of them. -/
theorem fails_without (lawful : ∀ member, (format.wire member).Lawful (Form member)) (record : ρ)
    {dropped : List Member} {member : Member}
    (first : format.members.find? (· ∈ dropped) = some member) {layout : Layout}
    (blank : layout.Blank) (depth : Nat) :
    format.toWire.reader.Fails (ofChars (((format.document record).without
        (dropped.map format.label)).write layout depth))
      (.before (.missingMember (format.label member)) []) := by
  obtain ⟨absent, before, after, order, present⟩ := List.find?_eq_some_iff_append.mp first
  obtain ⟨body, entries, shape⟩ := entries_of_writeMembers blank depth record
    (fun member => (lawful member).written blank (depth + 1) (format.part record member))
    (format.members.filter (· ∉ dropped))
  have kept : ∀ other, other ∈ given ((Draft.parts (format.members.filter (· ∉ dropped))
      (format.part record)).map some) ↔ other ∉ dropped := by
    intro other
    rw [given_parts, List.mem_filter, decide_eq_true_iff]
    exact and_iff_right (format.members_all other)
  have once : (given ((Draft.parts (format.members.filter (· ∉ dropped))
      (format.part record)).map some)).Nodup := by
    rw [given_parts]
    exact format.members_nodup.filter _
  have failed := fails_missing (fun member => (lawful member).toExact) entries once order
    (fun other listed => (kept other).mpr (by simpa using present other listed))
    (fun listed => (kept member).mp listed (of_decide_eq_true absent)) []
  rw [document_without, shape]
  rwa [List.append_nil] at failed

end RecordFormat

end Json

namespace Descriptor

variable {T C : Type}

/-! ## Settings -/

def Given (settings : List (Setting T C)) (member : Member) : Prop :=
  ∃ setting ∈ settings, setting.member = member

instance (settings : List (Setting T C)) (member : Member) : Decidable (Given settings member) :=
  inferInstanceAs (Decidable (∃ setting ∈ settings, setting.member = member))

def LastGiven (settings : List (Setting T C)) (member : Member) (value : member.Value T C) :
    Prop :=
  ∃ before after, settings = before ++ ⟨member, value⟩ :: after ∧ ¬ Given after member

def GivenOr (settings : List (Setting T C)) (member : Member) (standIn value : member.Value T C) :
    Prop :=
  LastGiven settings member value ∨ ¬ Given settings member ∧ value = standIn

variable {settings : List (Setting T C)} {member : Member}

theorem exists_lastGiven (given : Given settings member) :
    ∃ value, LastGiven settings member value := by
  induction settings with
  | nil => exact absurd given (by simp [Given])
  | cons setting settings ih =>
      by_cases again : Given settings member
      · obtain ⟨value, before, after, rfl, last⟩ := ih again
        exact ⟨value, setting :: before, after, rfl, last⟩
      · rw [Given, List.exists_mem_cons_iff] at given
        obtain rfl := given.resolve_right again
        exact ⟨setting.value, [], settings, rfl, again⟩

theorem value?_foldl_apply (others : ¬ Given settings member) (draft : Draft (Member.Value T C)) :
    (settings.foldl Setting.apply draft).value? member = draft.value? member := by
  induction settings generalizing draft with
  | nil => rfl
  | cons setting settings ih =>
      rw [Given, List.exists_mem_cons_iff, not_or] at others
      rw [List.foldl_cons, ih others.2, Setting.apply_eq,
        Draft.value?_set_of_ne draft setting.value others.1]

theorem value?_draftOf_of_not_given (others : ¬ Given settings member) :
    (draftOf settings).value? member = none :=
  value?_foldl_apply others .empty

theorem LastGiven.value?_draftOf {value : member.Value T C}
    (last : LastGiven settings member value) :
    (draftOf settings).value? member = some value := by
  obtain ⟨before, after, rfl, others⟩ := last
  rw [draftOf, List.foldl_append, List.foldl_cons, value?_foldl_apply others, Setting.apply_eq,
    Draft.value?_set_self]

/-- What a member ends up with: the last value that it was given, or else what stands in for it. -/
theorem lastGiven_of_value? {value : member.Value T C}
    (known : ((draftOf settings).orElse defaults).value? member = some value) :
    LastGiven settings member value ∨
      ¬ Given settings member ∧ defaults.value? member = some value := by
  by_cases given : Given settings member
  · obtain ⟨other, last⟩ := exists_lastGiven given
    rw [Draft.value?_orElse, last.value?_draftOf, Option.some_or] at known
    obtain rfl := Option.some.inj known
    exact .inl last
  · rw [Draft.value?_orElse, value?_draftOf_of_not_given given, Option.none_or] at known
    exact .inr ⟨given, known⟩

/-- The members that nothing stands in for, in the order in which they are asked for. -/
def required : List Member := [.leftTable, .leftKeyColumn, .rightTable, .rightKeyColumn]

def ungiven (settings : List (Setting T C)) : List Member :=
  required.filter (¬ Given settings ·)

theorem ungiven_eq_nil_iff :
    ungiven settings = [] ↔ ∀ member ∈ required, Given settings member := by
  simp only [ungiven, List.filter_eq_nil_iff, decide_eq_true_iff, not_not]

theorem mem_ungiven : member ∈ ungiven settings ↔ member ∈ required ∧ ¬ Given settings member := by
  rw [ungiven, List.mem_filter, decide_eq_true_iff]

theorem defaults_isNone_iff (member : Member) :
    ((defaults : Draft (Member.Value T C)).value? member).isNone = true ↔ member ∈ required := by
  cases member <;> simp [defaults, required]

theorem ungiven_eq_filter (settings : List (Setting T C)) :
    ungiven settings = Member.all.filter (· ∈ ungiven settings) := by
  have order : required = Member.all.filter (· ∈ required) := rfl
  simp only [mem_ungiven]
  rw [ungiven, order, List.filter_filter]
  simp only [← order, Bool.decide_and, Bool.and_comm]

theorem missing?_draftOf (settings : List (Setting T C)) :
    ((draftOf settings).orElse defaults).missing? Member.all = (ungiven settings).head? := by
  have absent : ∀ member, (((draftOf settings).orElse defaults).value? member).isNone =
      decide (member ∈ ungiven settings) := by
    intro member
    rw [Bool.eq_iff_iff, decide_eq_true_iff, mem_ungiven,
      ← defaults_isNone_iff (T := T) (C := C), Draft.value?_orElse]
    by_cases given : Given settings member
    · obtain ⟨value, last⟩ := exists_lastGiven given
      simp [last.value?_draftOf, given]
    · simp [value?_draftOf_of_not_given given, given]
  rw [Draft.missing?, ungiven_eq_filter settings, List.head?_filter]
  simp only [absent]

/-! ## What comes of settings -/

section Outcome

variable [table : Reference T] [column : Reference C] {TableText : List UInt8 → T → Prop}
  {ColumnText : List UInt8 → C → Prop}

/-- The settings amount to the descriptor: it has the last value for every member, it is the same as
if it were put together from these values at once, and it comes back when it is sent. -/
structure SettingsAccepted (settings : List (Setting T C)) (descriptor : Descriptor T C) :
    Prop where
  leftTable : LastGiven settings .leftTable descriptor.left.table
  leftKeyColumn : LastGiven settings .leftKeyColumn descriptor.left.keyColumn
  leftJoinedColumns : GivenOr settings .leftJoinedColumns [] descriptor.left.joinedColumns
  rightTable : LastGiven settings .rightTable descriptor.right.table
  rightKeyColumn : LastGiven settings .rightKeyColumn descriptor.right.keyColumn
  rightJoinedColumns : GivenOr settings .rightJoinedColumns [] descriptor.right.joinedColumns
  includeKeyColumns : GivenOr settings .includeKeyColumns false descriptor.includeKeyColumns
  buildSide : GivenOr settings .buildSide .right descriptor.buildSide
  joinType : GivenOr settings .joinType .inner descriptor.joinType
  built : Journal.build (draftOf settings) = ⟨.ok descriptor, [.descriptorBuilt
    (display descriptor.left.table) (display descriptor.right.table) descriptor.joinType
    descriptor.buildSide]⟩
  created : Journal.create (.ofInputs
      ⟨descriptor.left.table, descriptor.left.keyColumn, descriptor.left.joinedColumns⟩
      ⟨descriptor.right.table, descriptor.right.keyColumn, descriptor.right.joinedColumns⟩
      descriptor.includeKeyColumns descriptor.buildSide descriptor.joinType) =
    ⟨descriptor, (Journal.build (draftOf settings)).events⟩
  decoded : ofJsonBytes descriptor.toJsonBytes = .ok descriptor

/-- How settings are refused for the first required member that they lack.  A descriptor that is
written without the members that they lack is refused for the same one. -/
structure SettingsRefused (settings : List (Setting T C)) (missing : Member) : Prop where
  built : Journal.build (draftOf settings) =
    ⟨.error missing, [.descriptorRejected missing.label]⟩
  message : (DescriptorError.incomplete missing).message =
    "invalid join plan descriptor: `" ++ missing.label ++ "` is required"
  decoded (descriptor : Descriptor T C) :
    let payload := ofChars (((Wire.document descriptor).without
      ((ungiven settings).map Member.label)).write .compact 0)
    Refuses (ofJsonBytes payload : Except Malformed (Descriptor T C))
      ("missing field `" ++ missing.label ++ "`") ⟨1, payload.length⟩

theorem settingsAccepted (tableLawful : table.toWire.Lawful TableText)
    (columnLawful : column.toWire.Lawful ColumnText)
    (all : ∀ member ∈ required, Given settings member) :
    ∃ descriptor, SettingsAccepted settings descriptor := by
  have missing := missing?_draftOf settings
  rw [ungiven_eq_nil_iff.mpr all, List.head?_nil] at missing
  obtain ⟨values, completed⟩ := Draft.exists_complete Member.mem_all missing
  have known := Draft.complete_eq_ok_iff.mp completed
  have last : ∀ member ∈ required, LastGiven settings member (values member) := fun member asked =>
    (lastGiven_of_value? (known member)).resolve_right fun absent => absent.1 (all member asked)
  have lastOr : ∀ member (standIn : member.Value T C), defaults.value? member = some standIn →
      GivenOr settings member standIn (values member) := by
    intro member standIn stands
    refine (lastGiven_of_value? (known member)).imp_right fun absent => ⟨absent.1, ?_⟩
    exact Option.some.inj (absent.2.symm.trans stands)
  have built : Journal.build (draftOf settings) =
      ⟨.ok (assemble values), [Journal.built (assemble values)]⟩ := by
    rw [Journal.build, build, completed]
  exact ⟨assemble values,
    { leftTable := last .leftTable (by decide)
      leftKeyColumn := last .leftKeyColumn (by decide)
      leftJoinedColumns := lastOr .leftJoinedColumns [] rfl
      rightTable := last .rightTable (by decide)
      rightKeyColumn := last .rightKeyColumn (by decide)
      rightJoinedColumns := lastOr .rightJoinedColumns [] rfl
      includeKeyColumns := lastOr .includeKeyColumns false rfl
      buildSide := lastOr .buildSide .right rfl
      joinType := lastOr .joinType .inner rfl
      built
      created := by rw [built]; rfl
      decoded := decode_encode (lawful tableLawful columnLawful) blank_compact _ }⟩

theorem build_of_missing {draft : Draft (Member.Value T C)} {missing : Member}
    (missed : (draft.orElse defaults).missing? Member.all = some missing) :
    Journal.build draft = ⟨.error missing, [.descriptorRejected missing.label]⟩ := by
  rw [Journal.build, build, Draft.complete_of_missing missed]

theorem settingsRefused (tableLawful : table.toWire.Lawful TableText)
    (columnLawful : column.toWire.Lawful ColumnText) {before after : List Member} {missing : Member}
    (order : required = before ++ missing :: after)
    (given : ∀ other ∈ before, Given settings other) (absent : ¬ Given settings missing) :
    SettingsRefused settings missing := by
  have first : (ungiven settings).head? = some missing := by
    have present : before.filter (¬ Given settings ·) = [] := by
      simpa only [List.filter_eq_nil_iff, decide_eq_true_iff, not_not] using given
    rw [ungiven, order, List.filter_append, present, List.nil_append,
      List.filter_cons_of_pos (by simpa using absent), List.head?_cons]
  refine ⟨build_of_missing ((missing?_draftOf settings).trans first), ?_, ?_⟩
  · unfold DescriptorError.message
    dsimp only [toString]
  · intro descriptor payload
    rw [ungiven_eq_filter, List.head?_filter] at first
    have fails := (format T C).fails_without (member_lawful tableLawful columnLawful) descriptor
      first blank_compact 0
    have oneLine : 0x0A ∉ payload := fun listed => not_control_compact _ 0 _ listed (by decide)
    rw [← List.append_nil (ofChars _)] at fails
    have refused := decode_of_defers blanks_nil (Reader.Defers.refl _) fails
    simp only [List.append_nil, List.nil_append] at refused
    rw [← place_behind_of_one_line oneLine]
    exact ⟨_, refused, rfl⟩

/-- Whether settings amount to a descriptor, and to which one. -/
structure Assembles (T C : Type) [Reference T] [Reference C] : Prop where
  succeeds_iff (settings : List (Setting T C)) :
    (∃ descriptor, (Journal.build (draftOf settings)).value = .ok descriptor) ↔
      ∀ member ∈ required, Given settings member
  accepted (settings : List (Setting T C)) : (∀ member ∈ required, Given settings member) →
    ∃ descriptor, SettingsAccepted settings descriptor
  refused (settings : List (Setting T C)) (before after : List Member) (missing : Member) :
    required = before ++ missing :: after → (∀ other ∈ before, Given settings other) →
      ¬ Given settings missing → SettingsRefused settings missing

theorem assembles_of_lawful (tableLawful : table.toWire.Lawful TableText)
    (columnLawful : column.toWire.Lawful ColumnText) : Assembles T C where
  succeeds_iff settings := by
    constructor
    · rintro ⟨descriptor, built⟩
      rw [← ungiven_eq_nil_iff]
      cases lacking : ungiven settings with
      | nil => rfl
      | cons missing others =>
          have missed := missing?_draftOf settings
          rw [lacking, List.head?_cons] at missed
          rw [build_of_missing missed] at built
          cases built
    · intro all
      obtain ⟨descriptor, accepted⟩ := settingsAccepted tableLawful columnLawful all
      exact ⟨descriptor, congrArg Logged.value accepted.built⟩
  accepted _ := settingsAccepted tableLawful columnLawful
  refused _ _ _ _ := settingsRefused tableLawful columnLawful

/-- Over bare names as over handles, settings amount to a descriptor exactly if they give all that
is required, and to the one with the last value for every member. -/
theorem assembled : Assembles String String ∧ Assembles TableHandle ColumnHandle :=
  ⟨assembles_of_lawful text_lawful text_lawful,
    assembles_of_lawful TableHandle.lawful ColumnHandle.lawful⟩

/-- Without a right table there is no descriptor.  With one, there is, and it has the last name that
its left table was given. -/
theorem assembled_leftTable_twice :
    let settings : List (Setting String String) :=
      [⟨.leftTable, "order"⟩, ⟨.leftKeyColumn, "customer"⟩, ⟨.leftTable, "orders"⟩,
        ⟨.rightKeyColumn, "id"⟩]
    let complete : List (Setting String String) := settings ++ [⟨.rightTable, "customers"⟩]
    Journal.build (draftOf settings) = ⟨.error .rightTable, [.descriptorRejected "rightTable"]⟩ ∧
      ∃ descriptor, (Journal.build (draftOf complete)).value = .ok descriptor ∧
        descriptor.left.table = "orders" ∧ ofJsonBytes descriptor.toJsonBytes = .ok descriptor := by
  intro settings complete
  have order : required = [.leftTable, .leftKeyColumn] ++ .rightTable :: [.rightKeyColumn] := rfl
  have refused := assembled.1.refused settings _ _ _ order (by decide) (by decide)
  obtain ⟨descriptor, accepted⟩ := assembled.1.accepted complete (by decide)
  have last : (draftOf complete).value? .leftTable = some "orders" := rfl
  have same := accepted.leftTable.value?_draftOf.symm.trans last
  exact ⟨refused.built, descriptor, congrArg Logged.value accepted.built, Option.some.inj same,
    accepted.decoded⟩

end Outcome

end Descriptor

end EquiJoin
