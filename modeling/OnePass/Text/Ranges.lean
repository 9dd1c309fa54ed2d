/-
**Sets of code points as tables of ranges.**

A property of characters is stored as the list of the ranges of code points that have it, in
increasing order.  Looking a code point up walks the table and stops at the first range that starts
behind it; since the table is in order, no later range can hold the code point.

Main definitions:

* `OnePass.Ranges` — a table of ranges that is in order;
* `OnePass.Ranges.contains` — looks a code point up.

Main results:

* `OnePass.Ranges.contains_iff` — **a code point is found exactly if it is in one of the ranges**.
-/

set_option relaxedAutoImplicit false
set_option autoImplicit false

namespace OnePass

/-- The ranges are non-empty, in increasing order and do not touch. -/
def Ranges.Sorted : List (Nat × Nat) → Prop
  | [] => True
  | [(low, high)] => low ≤ high
  | (low, high) :: (low', high') :: rest =>
    low ≤ high ∧ high + 1 < low' ∧ Sorted ((low', high') :: rest)

instance Ranges.decidableSorted : (ranges : List (Nat × Nat)) → Decidable (Sorted ranges)
  | [] => .isTrue trivial
  | [(low, high)] => inferInstanceAs (Decidable (low ≤ high))
  | (low, high) :: (low', high') :: rest =>
    let _ := decidableSorted ((low', high') :: rest)
    inferInstanceAs
      (Decidable (low ≤ high ∧ high + 1 < low' ∧ Sorted ((low', high') :: rest)))

/-- Closed ranges of code points, in increasing order and apart from each other. -/
structure Ranges where
  /-- The first and the last code point of every range. -/
  ranges : List (Nat × Nat)
  /-- The table is in order. -/
  sorted : Ranges.Sorted ranges

namespace Ranges

/-- Looks a code point up, as far as the first range that starts behind it. -/
def find (n : Nat) : List (Nat × Nat) → Bool
  | [] => false
  | (low, high) :: rest => low ≤ n && (n ≤ high || find n rest)

/-- Whether a code point lies in one of the ranges. -/
def contains (table : Ranges) (n : Nat) : Bool :=
  find n table.ranges

/-! ### What is found -/

variable {low high : Nat} {rest : List (Nat × Nat)}

theorem Sorted.tail (h : Sorted ((low, high) :: rest)) : Sorted rest := by
  cases rest with
  | nil => trivial
  | cons next rest => exact h.2.2

theorem Sorted.le (h : Sorted ((low, high) :: rest)) : low ≤ high := by
  cases rest with
  | nil => exact h
  | cons next rest => exact h.1

/-- All later ranges start behind the first one. -/
theorem Sorted.lt_of_mem (h : Sorted ((low, high) :: rest)) {range : Nat × Nat}
    (hrange : range ∈ rest) : high < range.1 := by
  induction rest generalizing low high with
  | nil => cases hrange
  | cons next rest ih =>
      obtain ⟨-, hnext, hrest⟩ := h
      rcases List.mem_cons.1 hrange with rfl | hrange
      · omega
      · have hle := hrest.le
        have hlt := ih hrest hrange
        omega

theorem find_iff {n : Nat} {ranges : List (Nat × Nat)} (h : Sorted ranges) :
    find n ranges = true ↔ ∃ range ∈ ranges, range.1 ≤ n ∧ n ≤ range.2 := by
  induction ranges with
  | nil => simp [find]
  | cons first rest ih =>
      simp only [find, Bool.and_eq_true, Bool.or_eq_true, decide_eq_true_eq, ih h.tail]
      constructor
      · rintro ⟨hlow, hhigh | ⟨range, hrange, hmem⟩⟩
        · exact ⟨first, List.mem_cons_self, hlow, hhigh⟩
        · exact ⟨range, List.mem_cons_of_mem first hrange, hmem⟩
      · rintro ⟨range, hrange, hlow, hhigh⟩
        rcases List.mem_cons.1 hrange with rfl | hrange
        · exact ⟨hlow, Or.inl hhigh⟩
        · -- The walk has not stopped yet, since the first range starts in front of this one.
          have hle := h.le
          have hlt := h.lt_of_mem hrange
          exact ⟨by omega, Or.inr ⟨range, hrange, hlow, hhigh⟩⟩

/-- **A code point is found exactly if it is in one of the ranges.** -/
theorem contains_iff {table : Ranges} {n : Nat} :
    table.contains n = true ↔ ∃ range ∈ table.ranges, range.1 ≤ n ∧ n ≤ range.2 :=
  find_iff table.sorted

end Ranges

end OnePass
