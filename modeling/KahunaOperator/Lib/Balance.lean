/-
# `KahunaOperator.Lib.Balance` — counting keys, and sharing them evenly

A loop that counts occurrences in a map adds one at the key it meets (`bump`);
what it ends with is the count of every key in the list it went through.

    a key met               the counts of the rest, and one more      (`bump_add_count`)
    keys of a family only   the counts of the family add up           (`sum_count_range`)
    counts within one       none is below the quotient of their sum   (`share_le_of_balanced`)
-/
import Mathlib.Algebra.BigOperators.Group.Finset.Basic
import Mathlib.Algebra.Order.BigOperators.Group.Finset
import Mathlib.Data.List.Count

namespace Lib

universe u
variable {α : Type u} [DecidableEq α]

/-! ## Counts by key -/

def bump (counts : α → Nat) (a : α) : α → Nat :=
  Function.update counts a (counts a + 1)

/-- What is left of the list can be counted before or after its head is met. -/
theorem bump_add_count (counts : α → Nat) (a : α) (l : List α) (b : α) :
    bump counts a b + l.count b = counts b + (a :: l).count b := by
  unfold bump
  by_cases h : b = a
  · subst h
    rw [Function.update_self, List.count_cons_self]
    omega
  · rw [Function.update_of_ne h, List.count_cons_of_ne (Ne.symm h)]

/-- A list that holds only keys of a family of `n` is as long as their counts
together. -/
theorem sum_count_range {f : Nat → α} (hf : Function.Injective f) {n : Nat} {l : List α}
    (h : ∀ x ∈ l, ∃ i < n, x = f i) : ∑ i ∈ Finset.range n, l.count (f i) = l.length := by
  have hkeys : ∀ x ∈ (l : Multiset α), x ∈ (Finset.range n).image f := by
    intro x hx
    obtain ⟨i, hi, rfl⟩ := h x (Multiset.mem_coe.mp hx)
    exact Finset.mem_image_of_mem f (Finset.mem_range.mpr hi)
  calc ∑ i ∈ Finset.range n, l.count (f i)
      = ∑ x ∈ (Finset.range n).image f, (l : Multiset α).count x := by
        rw [Finset.sum_image (fun i _ j _ hij => hf hij)]
        simp only [Multiset.coe_count]
    _ = (l : Multiset α).card := Multiset.sum_count_eq_card hkeys
    _ = l.length := Multiset.coe_card l

/-! ## Even shares -/

/-- Of counts that differ by at most one, none is below the whole part of their
mean. -/
theorem share_le_of_balanced {ι : Type u} {s : Finset ι} {f : ι → Nat}
    (h : ∀ i ∈ s, ∀ j ∈ s, f j ≤ f i + 1) {i : ι} (hi : i ∈ s) :
    (∑ j ∈ s, f j) / s.card ≤ f i := by
  have hlt : ∑ j ∈ s, f j < ∑ _j ∈ s, (f i + 1) :=
    Finset.sum_lt_sum (fun j hj => h i hi j hj) ⟨i, hi, Nat.lt_succ_self _⟩
  rw [Finset.sum_const_nat (fun _ _ => rfl)] at hlt
  exact Nat.lt_succ_iff.mp (Nat.div_lt_of_lt_mul hlt)

end Lib
