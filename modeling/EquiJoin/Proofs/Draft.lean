import EquiJoin.Draft
import Mathlib.Data.List.Nodup
import Mathlib.Logic.Function.Basic
import Mathlib.Tactic.Choose

/-!
# Filling in drafts

Parts of a record arrive one by one, each for a member that has no value yet (`Draft.Fills`).  A
draft that was filled from nothing and turns out complete received every member exactly once, in
whatever order (`Fills.complete_iff`).
-/

set_option autoImplicit false

namespace EquiJoin.Draft

variable {Member : Type} {Value : Member → Type}

def parts (members : List Member) (values : (member : Member) → Value member) :
    List ((member : Member) × Value member) :=
  members.map fun member => ⟨member, values member⟩

theorem value?_orElse (draft defaults : Draft Value) (member : Member) :
    (draft.orElse defaults).value? member =
      (draft.value? member).or (defaults.value? member) := rfl

theorem complete_eq_ok_iff {draft : Draft Value} {members : List Member}
    {all : ∀ member, member ∈ members} {values : (member : Member) → Value member} :
    draft.complete members all = .ok values ↔
      ∀ member, draft.value? member = some (values member) := by
  unfold complete
  split
  · next absent missing =>
      have noValue := List.find?_some missing
      constructor
      · intro run
        cases run
      · intro known
        rw [known absent] at noValue
        cases noValue
  · constructor
    · intro run member
      cases run
      exact (Option.some_get _).symm
    · intro known
      refine congrArg Except.ok (funext fun member => ?_)
      rw [Option.get_of_eq_some _ (known member)]

theorem complete_of_missing {draft : Draft Value} {members : List Member}
    {all : ∀ member, member ∈ members} {member : Member}
    (missing : draft.missing? members = some member) :
    draft.complete members all = .error member := by
  unfold complete
  split
  · next other found =>
      rw [missing] at found
      cases found
      rfl
  · next found =>
      rw [missing] at found
      cases found

theorem exists_complete {draft : Draft Value} {members : List Member}
    (all : ∀ member, member ∈ members) (nothing : draft.missing? members = none) :
    ∃ values, draft.complete members all = .ok values := by
  have known : ∀ member, ∃ value, draft.value? member = some value := by
    intro member
    have found := List.find?_eq_none.mp nothing member (all member)
    rwa [Option.isNone_iff_eq_none, ← ne_eq, Option.ne_none_iff_exists'] at found
  choose values known using known
  exact ⟨values, complete_eq_ok_iff.mpr known⟩

variable [DecidableEq Member]

/-- The parts lead from one draft to another, none of them for a member that has a value. -/
inductive Fills : Draft Value → List ((member : Member) × Value member) → Draft Value → Prop where
  | nil {draft : Draft Value} : Fills draft [] draft
  | cons {draft final : Draft Value} {member : Member} {value : Value member}
      {received : List ((member : Member) × Value member)} :
      draft.value? member = none → Fills (draft.set member value) received final →
        Fills draft (⟨member, value⟩ :: received) final

variable {draft final : Draft Value} {received : List ((member : Member) × Value member)}

theorem Fills.fresh (fills : Fills draft received final) :
    ∀ part ∈ received, draft.value? part.1 = none := by
  induction fills with
  | nil => intro part listed; cases listed
  | @cons draft final member value received absent _ ih =>
      intro part listed
      rcases List.mem_cons.mp listed with rfl | later
      · exact absent
      · have behind := ih part later
        by_cases same : member = part.1
        · rw [← same]
          exact absent
        · rwa [value?_set_of_ne draft value same] at behind

theorem Fills.nodup (fills : Fills draft received final) : (received.map Sigma.fst).Nodup := by
  induction fills with
  | nil => exact List.nodup_nil
  | @cons draft final member value received _ fills ih =>
      rw [List.map_cons, List.nodup_cons]
      refine ⟨?_, ih⟩
      intro listed
      obtain ⟨part, later, same⟩ := List.mem_map.mp listed
      have absent := fills.fresh part later
      rw [same, value?_set_self] at absent
      cases absent

theorem Fills.value?_iff (fills : Fills draft received final) (member : Member)
    (value : Value member) : final.value? member = some value ↔
      draft.value? member = some value ∨ ⟨member, value⟩ ∈ received := by
  induction fills with
  | nil => simp
  | @cons draft final first read received absent _ ih =>
      rw [ih, List.mem_cons]
      by_cases same : first = member
      · subst same
        rw [value?_set_self, absent]
        simp [eq_comm]
      · rw [value?_set_of_ne draft read same]
        have other : (⟨member, value⟩ : (member : Member) × Value member) ≠ ⟨first, read⟩ := by
          intro equal
          cases equal
          exact same rfl
        simp [other]

theorem Fills.append {next : Draft Value} {others : List ((member : Member) × Value member)}
    (first : Fills draft received next) (behind : Fills next others final) :
    Fills draft (received ++ others) final := by
  induction first with
  | nil => exact behind
  | cons absent _ ih => exact .cons absent (ih behind)

theorem Fills.exists_of_append {others : List ((member : Member) × Value member)}
    (fills : Fills draft (received ++ others) final) :
    ∃ next, Fills draft received next ∧ Fills next others final := by
  induction received generalizing draft with
  | nil => exact ⟨draft, .nil, fills⟩
  | cons part received ih =>
      cases fills with
      | cons absent behind =>
          obtain ⟨next, first, others⟩ := ih behind
          exact ⟨next, .cons absent first, others⟩

theorem exists_fills (nodup : (received.map Sigma.fst).Nodup)
    (fresh : ∀ part ∈ received, draft.value? part.1 = none) :
    ∃ final, Fills draft received final := by
  induction received generalizing draft with
  | nil => exact ⟨draft, .nil⟩
  | cons part received ih =>
      rw [List.map_cons, List.nodup_cons] at nodup
      have freshBehind : ∀ later ∈ received, (draft.set part.1 part.2).value? later.1 = none := by
        intro later listed
        have different : part.1 ≠ later.1 := fun same =>
          nodup.1 (List.mem_map.mpr ⟨later, listed, same.symm⟩)
        rw [value?_set_of_ne draft part.2 different]
        exact fresh later (List.mem_cons_of_mem _ listed)
      obtain ⟨final, fills⟩ := ih nodup.2 freshBehind
      exact ⟨final, .cons (fresh part List.mem_cons_self) fills⟩

theorem Fills.complete_iff {members : List Member} (all : ∀ member, member ∈ members)
    (distinct : members.Nodup) {values : (member : Member) → Value member}
    (fills : Fills empty received final) :
    final.complete members all = .ok values ↔ received.Perm (parts members values) := by
  have allDistinct : (parts members values).Nodup :=
    distinct.map fun _ _ same => congrArg Sigma.fst same
  rw [complete_eq_ok_iff, List.perm_ext_iff_of_nodup fills.nodup.of_map allDistinct]
  have known : ∀ member value, final.value? member = some value ↔ ⟨member, value⟩ ∈ received := by
    intro member value
    rw [fills.value?_iff, value?_empty]
    simp
  have listed : ∀ member value, ⟨member, value⟩ ∈ parts members values ↔ values member = value := by
    intro member value
    constructor
    · intro listed
      obtain ⟨_, _, same⟩ := List.mem_map.mp listed
      cases same
      rfl
    · intro same
      exact List.mem_map.mpr ⟨member, all member, by rw [same]⟩
  constructor
  · rintro complete ⟨member, value⟩
    rw [← known, listed, complete, Option.some_inj]
  · intro same member
    rw [known, same, listed]

theorem exists_fills_of_perm {members : List Member} (all : ∀ member, member ∈ members)
    (distinct : members.Nodup) {values : (member : Member) → Value member}
    (same : received.Perm (parts members values)) :
    ∃ final : Draft Value, Fills empty received final ∧
      final.complete members all = .ok values := by
  have nodup : (received.map Sigma.fst).Nodup := by
    rw [(same.map Sigma.fst).nodup_iff, parts, List.map_map]
    simpa [Function.comp_def] using distinct
  obtain ⟨final, fills⟩ := exists_fills nodup fun part _ => value?_empty part.1
  exact ⟨final, fills, (fills.complete_iff all distinct).mpr same⟩

theorem Fills.isSome_iff (fills : Fills empty received final) (member : Member) :
    (final.value? member).isSome = true ↔ member ∈ received.map Sigma.fst := by
  simp only [Option.isSome_iff_exists, fills.value?_iff, value?_empty, List.mem_map]
  constructor
  · rintro ⟨value, known | listed⟩
    · cases known
    · exact ⟨_, listed, rfl⟩
  · rintro ⟨⟨_, value⟩, listed, rfl⟩
    exact ⟨value, .inr listed⟩

theorem Fills.missing?_append (fills : Fills empty received final) {before after : List Member}
    {member : Member} (present : ∀ other ∈ before, other ∈ received.map Sigma.fst)
    (absent : member ∉ received.map Sigma.fst) :
    final.missing? (before ++ member :: after) = some member := by
  have known : ∀ other, (final.value? other).isNone = true ↔
      other ∉ received.map Sigma.fst := by
    intro other
    rw [← fills.isSome_iff, Bool.not_eq_true, Option.isSome_eq_false_iff]
  refine List.find?_eq_some_iff_append.mpr ⟨(known member).mpr absent, before, after, rfl, ?_⟩
  intro other listed
  simp only [Bool.not_eq_true', ← Bool.not_eq_true, known]
  exact not_not.mpr (present other listed)

/-! ## Changes -/

def changing (member : Member) (change : Value member → Value member) :
    (other : Member) → Value other → Value other :=
  Function.update (fun _ => id) member change

def alter (draft : Draft Value) (member : Member) (change : Value member → Value member) :
    Draft Value :=
  ⟨fun other => (draft.value? other).map (changing member change other)⟩

variable {member : Member} {change : Value member → Value member}

theorem changing_self : changing member change member = change :=
  Function.update_self ..

theorem changing_of_ne {other : Member} (different : other ≠ member) :
    changing member change other = id :=
  Function.update_of_ne different ..

theorem value?_alter (draft : Draft Value) (other : Member) :
    (draft.alter member change).value? other =
      (draft.value? other).map (changing member change other) := rfl

theorem alter_set (draft : Draft Value) (other : Member) (value : Value other) :
    (draft.set other value).alter member change =
      (draft.alter member change).set other (changing member change other value) := by
  refine congrArg Draft.mk (funext fun asked => ?_)
  by_cases same : other = asked
  · subst same
    simp [set]
  · simp [set, same, value?_alter]

theorem alter_of_absent (absent : draft.value? member = none) :
    draft.alter member change = draft := by
  refine congrArg Draft.mk (funext fun other => ?_)
  by_cases same : other = member
  · subst same
    rw [absent, Option.map_none]
  · rw [changing_of_ne same, Option.map_id, id]

theorem complete_alter {members : List Member} {all : ∀ member, member ∈ members}
    {values : (member : Member) → Value member} (complete : draft.complete members all = .ok values) :
    (draft.alter member change).complete members all =
      .ok fun other => changing member change other (values other) := by
  rw [complete_eq_ok_iff] at complete ⊢
  intro other
  rw [value?_alter, complete, Option.map_some]

end EquiJoin.Draft
