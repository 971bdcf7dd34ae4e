/-
# `Lib.Guarded` — deletes under preconditions, behind a lagging cache

A server keeps a history of revisions; each write makes the next one.  In every
revision there may be an object, read off by `get`.  It has a uid, given when it
is created and never again, and a version, the revision that wrote it last.

Readers may see an old revision.  A delete that is pinned to the uid and the
version read is accepted only while the object stored has both, and then

    the object deleted is the one read, unchanged since           (`Sound.pinned`)
    what it has been before is related to it by what writes keep  (`Sound.evolves`)

`Sound` is the invariant behind both; `Sound.push` keeps it for every kind of
write.
-/
import Mathlib.Order.Basic

namespace Lib.Guarded

universe u v
variable {α : Type u} {β : Type v}

structure Obj (α : Type u) where
  uid : Nat
  version : Nat
  value : α
deriving DecidableEq, Repr

structure History (β : Type v) where
  rev : Nat → β
  top : Nat

namespace History

def current (h : History β) : β := h.rev h.top

def push (h : History β) (b : β) : History β :=
  { rev := fun i => if i = h.top + 1 then b else h.rev i, top := h.top + 1 }

theorem push_rev_of_le {h : History β} {b : β} {i : Nat} (hi : i ≤ h.top) :
    (h.push b).rev i = h.rev i :=
  if_neg (by omega)

@[simp] theorem push_current (h : History β) (b : β) : (h.push b).current = b :=
  if_pos rfl

theorem forall_push {h : History β} {b : β} {P : Nat → β → Prop}
    (hall : ∀ i ≤ h.top, P i (h.rev i)) (hb : P (h.top + 1) b) :
    ∀ i ≤ (h.push b).top, P i ((h.push b).rev i) := by
  intro i hi
  rcases Nat.lt_or_eq_of_le hi with hlt | rfl
  · have hle : i ≤ h.top := Nat.le_of_lt_succ hlt
    rw [push_rev_of_le hle]
    exact hall i hle
  · have hnew : (h.push b).rev (h.push b).top = b := h.push_current b
    rw [hnew]
    exact hb

@[simp] theorem push_top (h : History β) (b : β) : (h.push b).top = h.top + 1 := rfl

end History

variable (get : β → Option (Obj α)) (R : α → α → Prop)

/-- What a write may do to the object: leave it, create it, change it as `R`
allows, or remove it. -/
inductive Write (h : History β) (b : β) : Prop
  | other : get b = get h.current → Write h b
  | create (a : α) : get b = some ⟨h.top + 1, h.top + 1, a⟩ → Write h b
  | update {o : Obj α} (a : α) : get h.current = some o → R o.value a →
      get b = some { o with version := h.top + 1, value := a } → Write h b
  | remove : get b = none → Write h b

/-- Every object found in a revision is no newer than it, was found unchanged in
every revision since its own, and is related to everything it has been. -/
structure Sound (h : History β) : Prop where
  dated : ∀ i o, i ≤ h.top → get (h.rev i) = some o → o.uid ≤ o.version ∧ o.version ≤ i
  kept : ∀ i o, i ≤ h.top → get (h.rev i) = some o →
    ∀ j, o.version ≤ j → j ≤ i → get (h.rev j) = some o
  evolves : ∀ i j o o', i ≤ j → j ≤ h.top → get (h.rev i) = some o →
    get (h.rev j) = some o' → o.uid = o'.uid → R o.value o'.value

variable {get R}

namespace Sound

variable {h : History β}

theorem empty (hnone : get (h.rev 0) = none) (htop : h.top = 0) : Sound get R h := by
  have hno : ∀ i o, i ≤ h.top → get (h.rev i) ≠ some o := by
    intro i o hi ho
    obtain rfl : i = 0 := by omega
    rw [hnone] at ho
    cases ho
  refine ⟨?_, ?_, ?_⟩
  · intro i o hi ho
    exact absurd ho (hno i o hi)
  · intro i o hi ho
    exact absurd ho (hno i o hi)
  · intro i j o o' hij hj ho
    exact absurd ho (hno i o (Nat.le_trans hij hj))

/-- The object stored was stored under a delete's preconditions as it was read,
from the revision read until now. -/
theorem pinned (hs : Sound get R h) {i : Nat} {o o' : Obj α} (hi : i ≤ h.top)
    (hread : get (h.rev i) = some o) (hcurrent : get h.current = some o')
    (hversion : o'.version = o.version) :
    o' = o ∧ ∀ j, i ≤ j → j ≤ h.top → get (h.rev j) = some o := by
  have hold := (hs.dated i o hi hread).2
  have hkept := hs.kept h.top o' (Nat.le_refl _) hcurrent
  have hsame : get (h.rev i) = some o' := hkept i (by omega) hi
  obtain rfl : o = o' := Option.some.inj (hread.symm.trans hsame)
  exact ⟨rfl, fun j hij hj => hkept j (by omega) hj⟩

/-- Two revisions that show one version show one object. -/
theorem eq_of_version (hs : Sound get R h) {i j : Nat} {o o' : Obj α} (hi : i ≤ h.top)
    (hj : j ≤ h.top) (ho : get (h.rev i) = some o) (ho' : get (h.rev j) = some o')
    (hversion : o.version = o'.version) : o = o' := by
  have hfirst := hs.kept i o hi ho _ (Nat.le_refl _) (hs.dated i o hi ho).2
  have hfirst' := hs.kept j o' hj ho' _ (Nat.le_refl _) (hs.dated j o' hj ho').2
  rw [hversion] at hfirst
  exact Option.some.inj (hfirst.symm.trans hfirst')

/-- What a write leaves, against the revisions before it. -/
theorem written (hs : Sound get R h)
    (htrans : ∀ {a b c}, R a b → R b c → R a c) {b : β} (hw : Write get R h b) {o : Obj α}
    (ho : get b = some o) :
    o.uid ≤ o.version ∧ o.version ≤ h.top + 1 ∧
      (∀ j, o.version ≤ j → j ≤ h.top → get (h.rev j) = some o) ∧
      ∀ i o', i ≤ h.top → get (h.rev i) = some o' → o'.uid = o.uid → R o'.value o.value := by
  cases hw with
  | other hsame =>
      have hcurrent : get h.current = some o := hsame.symm.trans ho
      obtain ⟨huid, hversion⟩ := hs.dated _ _ (Nat.le_refl _) hcurrent
      refine ⟨huid, Nat.le_succ_of_le hversion, hs.kept _ _ (Nat.le_refl _) hcurrent, ?_⟩
      intro i o' hi ho' huid'
      exact hs.evolves i h.top o' o hi (Nat.le_refl _) ho' hcurrent huid'
  | create a hnew =>
      cases hnew.symm.trans ho
      refine ⟨Nat.le_refl _, Nat.le_refl _, ?_, ?_⟩
      · intro j hj hle
        exact absurd hle (Nat.not_le.mpr hj)
      · intro i o' hi ho' huid
        have hdated := hs.dated i o' hi ho'
        simp only at huid
        omega
  | @update cur a hcurrent hR hnew =>
      cases hnew.symm.trans ho
      obtain ⟨huid, hversion⟩ := hs.dated _ _ (Nat.le_refl _) hcurrent
      refine ⟨Nat.le_succ_of_le (Nat.le_trans huid hversion), Nat.le_refl _, ?_, ?_⟩
      · intro j hj hle
        exact absurd hle (Nat.not_le.mpr hj)
      · intro i o' hi ho' huid'
        exact htrans (hs.evolves i h.top o' cur hi (Nat.le_refl _) ho' hcurrent huid') hR
  | remove hnone =>
      rw [hnone] at ho
      cases ho

/-- Every write keeps the invariant. -/
theorem push (hs : Sound get R h) (hrefl : ∀ a, R a a)
    (htrans : ∀ {a b c}, R a b → R b c → R a c) {b : β} (hw : Write get R h b) :
    Sound get R (h.push b) := by
  have hnew : (h.push b).rev (h.top + 1) = b := h.push_current b
  have hsplit : ∀ {i}, i ≤ (h.push b).top → i ≤ h.top ∨ i = h.top + 1 := by
    intro i hi
    rw [History.push_top] at hi
    omega
  refine ⟨?_, ?_, ?_⟩
  · intro i o hi ho
    rcases hsplit hi with hi | rfl
    · rw [History.push_rev_of_le hi] at ho
      exact hs.dated i o hi ho
    · rw [hnew] at ho
      obtain ⟨huid, hversion, _⟩ := hs.written htrans hw ho
      exact ⟨huid, hversion⟩
  · intro i o hi ho j hj hji
    rcases hsplit hi with hi | rfl
    · rw [History.push_rev_of_le hi] at ho
      rw [History.push_rev_of_le (Nat.le_trans hji hi)]
      exact hs.kept i o hi ho j hj hji
    · rw [hnew] at ho
      rcases Nat.lt_or_eq_of_le hji with hlt | rfl
      · have hjtop : j ≤ h.top := by omega
        rw [History.push_rev_of_le hjtop]
        exact (hs.written htrans hw ho).2.2.1 j hj hjtop
      · rw [hnew]
        exact ho
  · intro i j o o' hij hj ho ho' huid
    rcases hsplit hj with hj | rfl
    · rw [History.push_rev_of_le (Nat.le_trans hij hj)] at ho
      rw [History.push_rev_of_le hj] at ho'
      exact hs.evolves i j o o' hij hj ho ho' huid
    · rw [hnew] at ho'
      rcases Nat.lt_or_eq_of_le hij with hlt | rfl
      · have hi : i ≤ h.top := by omega
        rw [History.push_rev_of_le hi] at ho
        exact (hs.written htrans hw ho').2.2.2 i o hi ho huid
      · rw [hnew] at ho
        cases ho.symm.trans ho'
        exact hrefl _

end Sound

end Lib.Guarded
