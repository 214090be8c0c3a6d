/-!
# Ranges of code points

A property of characters is a table of closed ranges of code points.  The ranges of a table ascend,
so that a search can stop at the first of them that begins beyond the code point. -/

set_option autoImplicit false

namespace EquiJoin.Text

/-- The code points from `first` to `last`, both included. -/
structure Range where
  first : Nat
  last : Nat

/-- Whether the ranges ascend from a lower bound without meeting. -/
def ascends : Nat → List Range → Bool
  | _, [] => true
  | bound, range :: rest =>
    bound ≤ range.first && range.first ≤ range.last && ascends (range.last + 1) rest

theorem le_first_of_ascends {bound : Nat} {ranges : List Range} (ascending : ascends bound ranges)
    {range : Range} (listed : range ∈ ranges) : bound ≤ range.first := by
  induction ranges generalizing bound with
  | nil => cases listed
  | cons head rest ih =>
      simp only [ascends, Bool.and_eq_true, decide_eq_true_eq] at ascending
      rcases List.mem_cons.mp listed with rfl | later
      · exact ascending.1.1
      · have beyond := ih ascending.2 later
        omega

structure Ranges where
  toList : List Range
  ascending : ascends 0 toList = true

namespace Ranges

instance : Membership Nat Ranges where
  mem ranges code := ∃ range ∈ ranges.toList, range.first ≤ code ∧ code ≤ range.last

def search (code : Nat) : List Range → Bool
  | [] => false
  | range :: rest => range.first ≤ code && (code ≤ range.last || search code rest)

/-- Where the ranges ascend, stopping early misses nothing. -/
theorem search_eq_true_iff {code bound : Nat} {ranges : List Range}
    (ascending : ascends bound ranges) :
    search code ranges = true ↔ ∃ range ∈ ranges, range.first ≤ code ∧ code ≤ range.last := by
  induction ranges generalizing bound with
  | nil => simp [search]
  | cons range rest ih =>
      simp only [ascends, Bool.and_eq_true, decide_eq_true_eq] at ascending
      simp only [search, Bool.and_eq_true, Bool.or_eq_true, decide_eq_true_eq, ih ascending.2,
        List.mem_cons, or_and_right, exists_or, exists_eq_left]
      constructor
      · rintro ⟨reached, inside | later⟩
        · exact .inl ⟨reached, inside⟩
        · exact .inr later
      · rintro (⟨reached, inside⟩ | ⟨later, listed, reached, inside⟩)
        · exact ⟨reached, .inl inside⟩
        · have beyond := le_first_of_ascends ascending.2 listed
          exact ⟨by omega, .inr ⟨later, listed, reached, inside⟩⟩

instance (code : Nat) (ranges : Ranges) : Decidable (code ∈ ranges) :=
  decidable_of_iff (search code ranges.toList = true) (search_eq_true_iff ranges.ascending)

end Ranges

end EquiJoin.Text
