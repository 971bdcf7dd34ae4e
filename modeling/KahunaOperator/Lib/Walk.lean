/-
# `KahunaOperator.Lib.Walk` — walking along a partial successor, with a bound

`next` takes an element to its successor, when it has one.  A walk goes on while
the successor is wanted, for `fuel` steps at most; here what is wanted is not to
pass a bound, and a successor is always later.

    where the walk ends is a number of steps ahead             (`walk_ahead`)
    every step inside the bound  ⟹  it takes all of them       (`walk_of_ahead`)
    the walk has gone all the way
      ⟺  one step more than its fuel would pass the bound      (`walk_complete_iff`)
-/
import Mathlib.Order.Basic
import Mathlib.Logic.Function.Iterate

namespace Lib

universe u
variable {α : Type u}

/-! ## Steps ahead -/

def ahead (next : α → Option α) (k : Nat) (a : α) : Option α :=
  (fun o => Option.bind o next)^[k] (some a)

section Ahead
variable {next : α → Option α} {a b c : α}

theorem ahead_succ (next : α → Option α) (k : Nat) (a : α) :
    ahead next (k + 1) a = (ahead next k a).bind next :=
  Function.iterate_succ_apply' _ k (some a)

theorem ahead_none (k : Nat) (h : next a = none) : ahead next (k + 1) a = none := by
  induction k with
  | zero => exact h
  | succ k ih => rw [ahead_succ, ih, Option.bind_none]

theorem ahead_of_next (k : Nat) (h : next a = some b) : ahead next (k + 1) a = ahead next k b := by
  unfold ahead
  rw [Function.iterate_succ_apply, Option.bind_some, h]

variable [Preorder α] (hlater : ∀ {x y}, next x = some y → x < y)
include hlater

theorem le_of_ahead {k : Nat} (h : ahead next k a = some b) : a ≤ b := by
  induction k generalizing b with
  | zero =>
      cases h
      exact le_refl a
  | succ k ih =>
      rw [ahead_succ, Option.bind_eq_some_iff] at h
      obtain ⟨x, hx, hb⟩ := h
      exact (ih hx).trans (hlater hb).le

end Ahead

/-! ## The bounded walk -/

/-- Go on while the successor does not pass `bound`. -/
def walk [LE α] [DecidableLE α] (next : α → Option α) (bound : α) : Nat → α → α
  | 0, a => a
  | fuel + 1, a =>
      match next a with
      | none => a
      | some b => if b ≤ bound then walk next bound fuel b else a

section Walk
variable [Preorder α] [DecidableLE α] {next : α → Option α} {bound a b : α}

theorem walk_stop (fuel : Nat) (h : ∀ b, next a = some b → ¬ b ≤ bound) :
    walk next bound fuel a = a := by
  cases fuel with
  | zero => rfl
  | succ fuel =>
      simp only [walk]
      cases hn : next a with
      | none => rfl
      | some b => exact if_neg (h b hn)

theorem walk_step (fuel : Nat) (h : next a = some b) (hb : b ≤ bound) :
    walk next bound (fuel + 1) a = walk next bound fuel b := by
  simp only [walk, h, if_pos hb]

theorem walk_ahead (next : α → Option α) (bound : α) (fuel : Nat) (a : α) :
    ∃ k, ahead next k a = some (walk next bound fuel a) := by
  induction fuel generalizing a with
  | zero => exact ⟨0, rfl⟩
  | succ fuel ih =>
      by_cases hstep : ∃ b, next a = some b ∧ b ≤ bound
      · obtain ⟨b, hn, hb⟩ := hstep
        obtain ⟨k, hk⟩ := ih b
        refine ⟨k + 1, ?_⟩
        rw [ahead_of_next k hn, walk_step fuel hn hb, hk]
      · refine ⟨0, ?_⟩
        rw [walk_stop]
        · rfl
        · intro b hn hb
          exact hstep ⟨b, hn, hb⟩

variable (hlater : ∀ {x y}, next x = some y → x < y)
include hlater

/-- With all its steps inside the bound, the walk takes all of them. -/
theorem walk_of_ahead {fuel : Nat} (h : ahead next fuel a = some b) (hb : b ≤ bound) :
    walk next bound fuel a = b := by
  induction fuel generalizing a with
  | zero =>
      cases h
      rfl
  | succ fuel ih =>
      cases hn : next a with
      | none =>
          rw [ahead_none fuel hn] at h
          cases h
      | some x =>
          rw [ahead_of_next fuel hn] at h
          have hx : x ≤ bound := (le_of_ahead hlater h).trans hb
          rw [walk_step fuel hn hx]
          exact ih h

/-- The walk has gone all the way exactly when one step more than it may take would
pass the bound. -/
theorem walk_complete_iff (fuel : Nat) (a : α) :
    (∀ b, next (walk next bound fuel a) = some b → ¬ b ≤ bound) ↔
      ∀ b, ahead next (fuel + 1) a = some b → ¬ b ≤ bound := by
  induction fuel generalizing a with
  | zero => exact Iff.rfl
  | succ fuel ih =>
      cases hn : next a with
      | none =>
          rw [walk_stop _ (by simp [hn]), ahead_none _ hn, hn]
      | some x =>
          rw [ahead_of_next _ hn]
          by_cases hx : x ≤ bound
          · rw [walk_step fuel hn hx]
            exact ih x
          · -- The first step passes the bound already, and all further ones do.
            have hstop : ∀ b, next a = some b → ¬ b ≤ bound := by
              intro b hb
              cases hn.symm.trans hb
              exact hx
            rw [walk_stop _ hstop]
            refine iff_of_true hstop ?_
            intro b hb hle
            exact hx ((le_of_ahead hlater hb).trans hle)

end Walk

end Lib
