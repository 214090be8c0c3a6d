import EquiJoin.Memo.Basic
import Std.Data.HashMap.Lemmas

/-!
# The index of a memo

The plans of a memo are kept twice: in a list, and as the keys of an index.  A memo is coherent if
the index answers what a scan of the list would, and has one key for every plan.  Registering a
plan keeps a memo coherent.
-/

set_option autoImplicit false

namespace EquiJoin.Memo

variable {T C : Type} [DecidableEq T] [DecidableEq C] [Fingerprint T] [Fingerprint C]

/-- The index and the list say the same. -/
structure Coherent (memo : Memo T C) : Prop where
  distinct : memo.entries.Pairwise fun earlier later => (earlier == later) = false
  ids_size : memo.ids.size = memo.size
  lookup_eq_scan : ∀ descriptor,
    memo.lookup descriptor = (memo.entries.findIdx? (· == descriptor)).map PlanId.mk

variable {memo : Memo T C} {descriptor : Descriptor T C} {id : PlanId}

theorem coherent_empty : (empty : Memo T C).Coherent where
  distinct := List.Pairwise.nil
  ids_size := Std.HashMap.size_empty
  lookup_eq_scan _ := Std.HashMap.getElem?_empty

theorem Coherent.lookup_eq_none_iff (coherent : memo.Coherent) :
    memo.lookup descriptor = none ↔ ∀ entry ∈ memo.entries, (entry == descriptor) = false := by
  rw [coherent.lookup_eq_scan, Option.map_eq_none_iff, List.findIdx?_eq_none_iff]

theorem Coherent.lookup_eq_some_iff (coherent : memo.Coherent) :
    memo.lookup descriptor = some id ↔
      ∃ entry, memo.get? id = some entry ∧ (entry == descriptor) = true := by
  rw [coherent.lookup_eq_scan, Option.map_eq_some_iff]
  constructor
  · rintro ⟨index, found, rfl⟩
    obtain ⟨inside, same, _⟩ := List.findIdx?_eq_some_iff_getElem.mp found
    exact ⟨memo.entries[index], List.getElem?_eq_getElem inside, same⟩
  · rintro ⟨entry, found, same⟩
    obtain ⟨inside, rfl⟩ := List.getElem?_eq_some_iff.mp found
    refine ⟨id.index, List.findIdx?_eq_some_iff_getElem.mpr ⟨inside, same, ?_⟩, rfl⟩
    -- An earlier entry that equals the descriptor would equal the entry at the id.
    intro earlier before sameEarlier
    have different := List.pairwise_iff_getElem.mp coherent.distinct earlier id.index
      (Nat.lt_trans before inside) inside before
    rw [BEq.trans sameEarlier (BEq.symm same)] at different
    cases different

theorem get?_isSome_iff : (memo.get? id).isSome = true ↔ id.index < memo.size := by
  rw [get?, size, isSome_getElem?]

theorem add_of_known (known : memo.lookup descriptor = some id) :
    memo.add descriptor = (⟨id, false⟩, memo) := by
  rw [add, known]

theorem add_of_new (new : memo.lookup descriptor = none) :
    memo.add descriptor = (⟨⟨memo.size⟩, true⟩,
      ⟨memo.entries ++ [descriptor], memo.ids.insert descriptor ⟨memo.size⟩⟩) := by
  rw [add, new]

theorem Coherent.add (coherent : memo.Coherent) (descriptor : Descriptor T C) :
    (memo.add descriptor).2.Coherent := by
  cases found : memo.lookup descriptor with
  | some id =>
      rw [add_of_known found]
      exact coherent
  | none =>
      rw [add_of_new found]
      have absent := coherent.lookup_eq_none_iff.mp found
      constructor
      · rw [List.pairwise_append]
        refine ⟨coherent.distinct, List.pairwise_singleton _ _, ?_⟩
        intro entry listed other last
        rw [List.mem_singleton.mp last]
        exact absent entry listed
      · have notKey : descriptor ∉ memo.ids := by
          rw [lookup] at found
          rw [Std.HashMap.mem_iff_isSome_getElem?, found]
          simp
        rw [Std.HashMap.size_insert, if_neg notKey, coherent.ids_size, size, size,
          List.length_append, List.length_singleton]
      · intro other
        rw [lookup, Std.HashMap.getElem?_insert, List.findIdx?_append, List.findIdx?_singleton]
        have before := coherent.lookup_eq_scan other
        by_cases same : (descriptor == other) = true
        · have nowhere : memo.entries.findIdx? (· == other) = none := by
            rw [List.findIdx?_eq_none_iff]
            intro entry listed
            rw [← BEq.congr_right same]
            exact absent entry listed
          simp [same, nowhere, size]
        · rw [lookup] at before
          simp [same, before]

theorem lookup_add_self (memo : Memo T C) (descriptor : Descriptor T C) :
    (memo.add descriptor).2.lookup descriptor = some (memo.add descriptor).1.id := by
  cases found : memo.lookup descriptor with
  | some id =>
      rw [add_of_known found]
      exact found
  | none =>
      rw [add_of_new found]
      exact Std.HashMap.getElem?_insert_self

theorem lookup_add (known : memo.lookup descriptor = some id) (other : Descriptor T C) :
    (memo.add other).2.lookup descriptor = some id := by
  cases found : memo.lookup other with
  | some otherId =>
      rw [add_of_known found]
      exact known
  | none =>
      rw [add_of_new found, lookup, Std.HashMap.getElem?_insert]
      rw [lookup] at found known
      split
      · next same =>
          rw [Std.HashMap.getElem?_congr same, known] at found
          cases found
      · exact known

end EquiJoin.Memo
