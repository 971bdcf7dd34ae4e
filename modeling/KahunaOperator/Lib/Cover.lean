/-
# `KahunaOperator.Lib.Cover` — lists that are exactly a family of keys

A list `l` whose length is `n` and in which `n` distinct keys all occur holds
those keys once each and nothing else.  That is the pigeonhole step behind
every test of the form "the count is right and nobody is missing".

    right length, every key present   ⟺   a permutation of the keys    (`perm_range_iff`)
    distinct keys of the family, no fewer than it has  ⟹  every key      (`cover_of_nodup`)
    few left over after removing keys  ⟹   every key was there          (`subperm_of_length_diff`)
    majority of the first n+1          ⟹   majority of the first n,
                                           except at a bare odd majority (`majority_init_iff`)
-/
import Mathlib.Data.List.Perm.Basic
import Mathlib.Data.List.Perm.Subperm
import Mathlib.Data.List.Nodup
import Mathlib.Data.List.Range
import Mathlib.Data.List.Count

namespace Lib

universe u
variable {β : Type u}

/-! ## Exact covers -/

theorem nodup_map_range {f : Nat → β} (hf : Function.Injective f) (n : Nat) :
    ((List.range n).map f).Nodup :=
  List.nodup_range.map hf

/-- A list with every key of the family holds the family. -/
theorem subperm_of_cover {f : Nat → β} (hf : Function.Injective f) {l : List β} {n : Nat}
    (hcov : ∀ i < n, f i ∈ l) : ((List.range n).map f).Subperm l := by
  refine (nodup_map_range hf n).subperm ?_
  intro x hx
  obtain ⟨i, hi, rfl⟩ := List.mem_map.mp hx
  exact hcov i (List.mem_range.mp hi)

/-- The right length and every key present: the list is the family of keys,
up to order. -/
theorem perm_range_of_cover {f : Nat → β} (hf : Function.Injective f) {l : List β} {n : Nat}
    (hlen : l.length = n) (hcov : ∀ i < n, f i ∈ l) : l.Perm ((List.range n).map f) := by
  have hle : l.length ≤ ((List.range n).map f).length := by
    rw [List.length_map, List.length_range, hlen]
  exact ((subperm_of_cover hf hcov).perm_of_length_le hle).symm

theorem perm_range_iff {f : Nat → β} (hf : Function.Injective f) {l : List β} {n : Nat} :
    l.Perm ((List.range n).map f) ↔ l.length = n ∧ ∀ i < n, f i ∈ l := by
  constructor
  · intro h
    refine ⟨by simpa using h.length_eq, ?_⟩
    intro i hi
    exact h.mem_iff.mpr (List.mem_map.mpr ⟨i, List.mem_range.mpr hi, rfl⟩)
  · rintro ⟨hlen, hcov⟩
    exact perm_range_of_cover hf hlen hcov

/-- Distinct keys of a family of `n` are at most `n`, and all of them when they are
no fewer. -/
theorem cover_of_nodup {f : Nat → β} {l : List β} {n : Nat} (hl : l.Nodup)
    (hkeys : ∀ x ∈ l, ∃ i < n, f i = x) :
    l.length ≤ n ∧ (n ≤ l.length → ∀ i < n, f i ∈ l) := by
  have hsub : l ⊆ (List.range n).map f := by
    intro x hx
    obtain ⟨i, hi, rfl⟩ := hkeys x hx
    exact List.mem_map.mpr ⟨i, List.mem_range.mpr hi, rfl⟩
  have hsp : l.Subperm ((List.range n).map f) := hl.subperm hsub
  have hlen : ((List.range n).map f).length = n := by rw [List.length_map, List.length_range]
  refine ⟨hsp.length_le.trans_eq hlen, ?_⟩
  intro hle i hi
  have hperm := hsp.perm_of_length_le (hlen.trans_le hle)
  exact hperm.mem_iff.mpr (List.mem_map.mpr ⟨i, List.mem_range.mpr hi, rfl⟩)

/-! ## What is left over -/

theorem length_le_length_diff [DecidableEq β] :
    ∀ (l₂ l₁ : List β), l₁.length ≤ (l₁.diff l₂).length + l₂.length
  | [], l₁ => by simp
  | x :: l₂, l₁ => by
      have ih := length_le_length_diff l₂ (l₁.erase x)
      have herase : l₁.length ≤ (l₁.erase x).length + 1 := by
        rw [List.length_erase]
        split <;> omega
      rw [List.diff_cons, List.length_cons]
      omega

/-- If removing the keys `l₂` once each leaves no more than `|l₁| - |l₂|`
elements, then no key was missing. -/
theorem subperm_of_length_diff [DecidableEq β] :
    ∀ {l₂ l₁ : List β}, (l₁.diff l₂).length + l₂.length ≤ l₁.length → l₂.Subperm l₁
  | [], _, _ => List.nil_subperm
  | x :: l₂, l₁, h => by
      rw [List.diff_cons, List.length_cons] at h
      by_cases hx : x ∈ l₁
      · have hlen : (l₁.erase x).length + 1 = l₁.length := by
          have hpos := List.length_pos_of_mem hx
          rw [List.length_erase_of_mem hx]
          omega
        have ih : l₂.Subperm (l₁.erase x) := subperm_of_length_diff (by omega)
        exact (List.subperm_cons x).mpr ih |>.trans (List.perm_cons_erase hx).symm.subperm
      · have hle := length_le_length_diff l₂ (l₁.erase x)
        rw [List.erase_of_not_mem hx] at h hle
        omega

/-! ## Majorities of an initial segment -/

/-- Strictly more than half of the indices below `n` satisfy `q`. -/
def MajorityBelow (q : Nat → Bool) (n : Nat) : Prop :=
  n < 2 * (List.range n).countP q

instance (q : Nat → Bool) (n : Nat) : Decidable (MajorityBelow q n) :=
  inferInstanceAs (Decidable (_ < _))

theorem countP_range_succ (q : Nat → Bool) (n : Nat) :
    (List.range (n + 1)).countP q = (List.range n).countP q + (q n).toNat := by
  rw [List.range_succ, List.countP_append]
  cases h : q n <;> simp [h]

/-- Dropping the last index keeps a majority unless the segment is odd, the
majority is bare, and the last index is part of it. -/
theorem majority_init_iff {q : Nat → Bool} {n : Nat} (h : MajorityBelow q (n + 1)) :
    MajorityBelow q n ↔
      ¬ ((n + 1) % 2 = 1 ∧ 2 * (List.range (n + 1)).countP q = n + 2 ∧ q n = true) := by
  unfold MajorityBelow at h ⊢
  rw [countP_range_succ] at h ⊢
  cases hq : q n <;> simp [hq] at h ⊢ <;> omega

end Lib
