/-
# `KahunaOperator.Lib.Scan` — asking one after another, with early exits

A scan goes through a list, skips those it cannot ask, and returns the first
answer that stops it; when none does it returns the last answer it got.

    the result is the same in every order of the list
      ⟺  all answers that stop it are equal, and if there is none, all answers are
                                                                     (`scan_perm_iff`)

Sorting first removes the dependence without a condition on the answers, as soon
as the order tells the elements of the list apart (`mergeSort_perm_eq`).
-/
import Mathlib.Data.List.Sort

namespace Lib

universe u v
variable {α : Type u} {β : Type v}

/-- The first answer that stops the scan, or the last answer. -/
def scan (ask : α → Option β) (stop : β → Bool) : β → List α → β
  | last, [] => last
  | last, a :: rest =>
      match ask a with
      | none => scan ask stop last rest
      | some x => if stop x then x else scan ask stop x rest

/-- The answers that decide the result are all the same. -/
structure Agree (ask : α → Option β) (stop : β → Bool) (l : List α) : Prop where
  stopping : ∀ {a b x y}, a ∈ l → b ∈ l → ask a = some x → ask b = some y → stop x = true →
    stop y = true → x = y
  last : (∀ {a x}, a ∈ l → ask a = some x → stop x = false) →
    ∀ {a b x y}, a ∈ l → b ∈ l → ask a = some x → ask b = some y → x = y

section Scan
variable {ask : α → Option β} {stop : β → Bool}

theorem scan_skipped {l : List α} (last : β) (h : ∀ a ∈ l, ask a = none) :
    scan ask stop last l = last := by
  induction l with
  | nil => rfl
  | cons a rest ih =>
      rw [scan, h a List.mem_cons_self]
      exact ih fun b hb => h b (List.mem_cons_of_mem _ hb)

theorem scan_stopped {l : List α} {x : β} (last : β)
    (hall : ∀ a ∈ l, ∀ y, ask a = some y → stop y = true → y = x)
    (hex : ∃ a ∈ l, ask a = some x ∧ stop x = true) : scan ask stop last l = x := by
  induction l generalizing last with
  | nil =>
      obtain ⟨a, ha, _⟩ := hex
      cases ha
  | cons a rest ih =>
      have hrest : ∀ b ∈ rest, ∀ y, ask b = some y → stop y = true → y = x :=
        fun b hb => hall b (List.mem_cons_of_mem _ hb)
      rw [scan]
      cases ha : ask a with
      | none =>
          refine ih last hrest ?_
          obtain ⟨b, hb, hx⟩ := hex
          rcases List.mem_cons.mp hb with rfl | hb
          · rw [ha] at hx
            cases hx.1
          · exact ⟨b, hb, hx⟩
      | some y =>
          simp only
          split
          · next hy => exact hall a List.mem_cons_self y ha hy
          · next hy =>
              refine ih y hrest ?_
              obtain ⟨b, hb, hx, hstop⟩ := hex
              rcases List.mem_cons.mp hb with rfl | hb
              · cases ha.symm.trans hx
                exact absurd hstop hy
              · exact ⟨b, hb, hx, hstop⟩

theorem scan_snoc {l : List α} {a : α} {x : β} (last : β)
    (hnone : ∀ b ∈ l, ∀ y, ask b = some y → stop y = false) (ha : ask a = some x) :
    scan ask stop last (l ++ [a]) = x := by
  induction l generalizing last with
  | nil => simp [scan, ha]
  | cons b rest ih =>
      have hrest : ∀ c ∈ rest, ∀ y, ask c = some y → stop y = false :=
        fun c hc => hnone c (List.mem_cons_of_mem _ hc)
      rw [List.cons_append, scan]
      cases hb : ask b with
      | none => exact ih last hrest
      | some y =>
          simp only [hnone b List.mem_cons_self y hb, Bool.false_eq_true, if_false]
          exact ih y hrest

theorem scan_constant {l : List α} {x : β} (last : β)
    (hall : ∀ a ∈ l, ∀ y, ask a = some y → y = x ∧ stop y = false)
    (hex : ∃ a ∈ l, ask a = some x) : scan ask stop last l = x := by
  induction l generalizing last with
  | nil =>
      obtain ⟨a, ha, _⟩ := hex
      cases ha
  | cons a rest ih =>
      have hrest : ∀ b ∈ rest, ∀ y, ask b = some y → y = x ∧ stop y = false :=
        fun b hb => hall b (List.mem_cons_of_mem _ hb)
      rw [scan]
      cases ha : ask a with
      | none =>
          refine ih last hrest ?_
          obtain ⟨b, hb, hx⟩ := hex
          rcases List.mem_cons.mp hb with rfl | hb
          · rw [ha] at hx
            cases hx
          · exact ⟨b, hb, hx⟩
      | some y =>
          obtain ⟨rfl, hy⟩ := hall a List.mem_cons_self y ha
          simp only [hy, Bool.false_eq_true, if_false]
          -- Either someone is asked after `a`, or `a` was the last.
          by_cases hmore : ∃ b ∈ rest, ask b = some y
          · exact ih y hrest hmore
          · refine scan_skipped y fun b hb => ?_
            cases hask : ask b with
            | none => rfl
            | some z =>
                obtain ⟨rfl, _⟩ := hrest b hb z hask
                exact absurd ⟨b, hb, hask⟩ hmore

/-- The result of a scan that agrees, read off the elements alone. -/
theorem Agree.scan_eq {l l' : List α} (h : Agree ask stop l) (hperm : l'.Perm l) (last : β) :
    scan ask stop last l' = scan ask stop last l := by
  by_cases hstop : ∃ a ∈ l, ∃ x, ask a = some x ∧ stop x = true
  · obtain ⟨a, ha, x, hx, hs⟩ := hstop
    have hall : ∀ b ∈ l, ∀ y, ask b = some y → stop y = true → y = x :=
      fun b hb y hy hsy => h.stopping hb ha hy hx hsy hs
    rw [scan_stopped last hall ⟨a, ha, hx, hs⟩]
    exact scan_stopped last (fun b hb => hall b (hperm.mem_iff.mp hb))
      ⟨a, hperm.mem_iff.mpr ha, hx, hs⟩
  · have hnone : ∀ {a x}, a ∈ l → ask a = some x → stop x = false := by
      intro a x ha hx
      cases hs : stop x with
      | false => rfl
      | true => exact absurd ⟨a, ha, x, hx, hs⟩ hstop
    by_cases hasked : ∃ a ∈ l, ∃ x, ask a = some x
    · obtain ⟨a, ha, x, hx⟩ := hasked
      have hall : ∀ b ∈ l, ∀ y, ask b = some y → y = x ∧ stop y = false :=
        fun b hb y hy => ⟨h.last hnone hb ha hy hx, hnone hb hy⟩
      rw [scan_constant last hall ⟨a, ha, hx⟩]
      exact scan_constant last (fun b hb => hall b (hperm.mem_iff.mp hb))
        ⟨a, hperm.mem_iff.mpr ha, hx⟩
    · have hskip : ∀ a ∈ l, ask a = none := by
        intro a ha
        cases hx : ask a with
        | none => rfl
        | some x => exact absurd ⟨a, ha, x, hx⟩ hasked
      rw [scan_skipped last hskip]
      exact scan_skipped last fun a ha => hskip a (hperm.mem_iff.mp ha)

/-- A scan gives the same result in every order of its list exactly when the
answers that decide it agree. -/
theorem scan_perm_iff {l : List α} {last : β} :
    (∀ l' : List α, l'.Perm l → scan ask stop last l' = scan ask stop last l) ↔
      Agree ask stop l := by
  constructor
  · intro hsame
    have hfirst : ∀ {a x}, a ∈ l → ask a = some x → stop x = true →
        scan ask stop last l = x := by
      intro a x ha hx hs
      obtain ⟨pre, post, rfl⟩ := List.append_of_mem ha
      rw [← hsame (a :: (pre ++ post)) List.perm_middle.symm, scan, hx]
      simp only [hs, if_true]
    refine ⟨?_, ?_⟩
    · intro a b x y ha hb hx hy hsx hsy
      exact (hfirst ha hx hsx).symm.trans (hfirst hb hy hsy)
    · intro hnone a b x y ha hb hx hy
      have hlast : ∀ {a x}, a ∈ l → ask a = some x → scan ask stop last l = x := by
        intro a x ha hx
        obtain ⟨pre, post, rfl⟩ := List.append_of_mem ha
        have hend : (pre ++ post ++ [a]).Perm (pre ++ a :: post) :=
          (List.perm_append_singleton a _).trans List.perm_middle.symm
        rw [← hsame _ hend]
        refine scan_snoc last ?_ hx
        intro b hb z hz
        refine hnone ?_ hz
        simp only [List.mem_append, List.mem_cons] at hb ⊢
        tauto
      exact (hlast ha hx).symm.trans (hlast hb hy)
  · intro hagree l' hperm
    exact hagree.scan_eq hperm last

end Scan

/-! ## Sorting -/

/-- Sorting forgets the order of a list whose elements the order tells apart.  `le`
need be an order on the elements of the list only: there it is `r`. -/
theorem mergeSort_perm_eq {le r : α → α → Bool} {l l' : List α}
    (htrans : ∀ a b c, r a b = true → r b c = true → r a c = true)
    (htotal : ∀ a b, (r a b || r b a) = true)
    (hle : ∀ a ∈ l, ∀ b ∈ l, le a b = r a b)
    (hanti : ∀ a ∈ l, ∀ b ∈ l, r a b = true → r b a = true → a = b) (hperm : l'.Perm l) :
    l'.mergeSort le = l.mergeSort le := by
  have hsame : ∀ k : List α, k.Perm l → k.mergeSort le = k.mergeSort r := by
    intro k hk
    have hmap := List.map_mergeSort (f := id) (l := k) (r := le) (s := r)
      fun a ha b hb => hle a (hk.mem_iff.mp ha) b (hk.mem_iff.mp hb)
    rwa [List.map_id, List.map_id] at hmap
  rw [hsame l' hperm, hsame l (List.Perm.refl l)]
  have hsorted : ∀ k : List α, (k.mergeSort r).Pairwise (fun a b => r a b = true) :=
    fun k => List.pairwise_mergeSort htrans htotal k
  refine List.Perm.eq_of_pairwise ?_ (hsorted l') (hsorted l) ?_
  · intro a b ha hb hab hba
    refine hanti a ?_ b ?_ hab hba
    · exact hperm.mem_iff.mp (List.mem_mergeSort.mp ha)
    · exact List.mem_mergeSort.mp hb
  · exact (List.mergeSort_perm l' r).trans (hperm.trans (List.mergeSort_perm l r).symm)

end Lib
