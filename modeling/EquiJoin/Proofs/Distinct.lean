/-!
# Lists without repetitions

What `List.eraseDups` keeps of a list whose items are compared by an equivalence: the first item of
every kind, and no other of that kind.
-/

set_option autoImplicit false

namespace List

variable {α : Type} [BEq α]

theorem eraseDups_induction {motive : List α → Prop} (nil : motive [])
    (cons : ∀ item items, motive (items.filter fun other => !other == item) →
      motive (item :: items)) (items : List α) : motive items := by
  match items with
  | [] => exact nil
  | item :: items => exact cons item items (eraseDups_induction nil cons _)
termination_by items.length
decreasing_by exact Nat.lt_succ_of_le (length_filter_le _ _)

theorem eraseDups_sublist (items : List α) : items.eraseDups.Sublist items := by
  induction items using eraseDups_induction with
  | nil => exact .slnil
  | cons item items ih =>
      rw [eraseDups_cons]
      exact .cons_cons item (ih.trans filter_sublist)

variable [EquivBEq α]

theorem exists_mem_eraseDups_beq {item : α} {items : List α} (listed : item ∈ items) :
    ∃ kept ∈ items.eraseDups, (kept == item) = true := by
  induction items using eraseDups_induction with
  | nil => cases listed
  | cons first items ih =>
      rw [eraseDups_cons]
      cases same : first == item with
      | true => exact ⟨first, mem_cons_self, same⟩
      | false =>
          have later : item ∈ items.filter fun other => !other == first := by
            rw [BEq.comm] at same
            rcases mem_cons.mp listed with rfl | later
            · rw [BEq.refl] at same
              cases same
            · exact mem_filter.mpr ⟨later, by rw [same]; rfl⟩
          obtain ⟨kept, keptListed, equal⟩ := ih later
          exact ⟨kept, mem_cons_of_mem _ keptListed, equal⟩

theorem pairwise_eraseDups_beq (items : List α) :
    items.eraseDups.Pairwise fun earlier later => (earlier == later) = false := by
  induction items using eraseDups_induction with
  | nil => exact .nil
  | cons first items ih =>
      rw [eraseDups_cons, pairwise_cons]
      refine ⟨fun later listed => ?_, ih⟩
      have others := (mem_filter.mp ((eraseDups_sublist _).subset listed)).2
      rwa [Bool.not_eq_true', BEq.comm] at others

end List
