/-
# `KahunaOperator.Lib.Rounding` — rational arithmetic with rounded results

An operation of a floating-point format is the exact one, rounded to the format.
What a program computes with it depends on the rounding, and what is proved of it
should not depend on more than

    the order of two numbers is kept                            (`mono`)
    integers of up to 53 bits are numbers of the format         (`int`)

`exact` rounds nothing.  `binary64` rounds to the nearest double, ties to even: find
the binade of the number, count in units of its last place, round the count to an
integer.  Infinities are left out: a number past the largest double keeps its 53 bits.
-/
import Mathlib.Algebra.Order.Field.Power
import Mathlib.Algebra.Order.Floor.Ring
import Mathlib.Data.Int.Log
import Mathlib.Data.Rat.Floor

namespace Lib

structure Rounding where
  round : Rat → Rat
  mono : Monotone round
  int : ∀ n : Int, |n| < 2 ^ 53 → round n = n

namespace Rounding

/-! ## Operations -/

section Operations
variable (f : Rounding)

def add (a b : Rat) : Rat := f.round (a + b)

def sub (a b : Rat) : Rat := f.round (a - b)

def mul (a b : Rat) : Rat := f.round (a * b)

def div (a b : Rat) : Rat := f.round (a / b)

variable {f}

theorem le_round {n : Int} {q : Rat} (hn : |n| < 2 ^ 53) (h : (n : Rat) ≤ q) :
    (n : Rat) ≤ f.round q := by
  rw [← f.int n hn]
  exact f.mono h

theorem round_le {n : Int} {q : Rat} (hn : |n| < 2 ^ 53) (h : q ≤ n) : f.round q ≤ n := by
  rw [← f.int n hn]
  exact f.mono h

/-- A distance from zero that is a number of the format is not fallen short of. -/
theorem le_abs_round {n : Int} {q : Rat} (hn : |n| < 2 ^ 53) (h : (n : Rat) ≤ |q|) :
    (n : Rat) ≤ |f.round q| := by
  rcases le_abs.mp h with hpos | hneg
  · exact (le_round hn hpos).trans (le_abs_self _)
  · have hle : f.round q ≤ ((-n : Int) : Rat) := by
      refine round_le (by rwa [abs_neg]) ?_
      rw [Int.cast_neg]
      exact le_neg_of_le_neg hneg
    rw [Int.cast_neg] at hle
    exact (le_neg_of_le_neg hle).trans (neg_le_abs _)

end Operations

def exact : Rounding where
  round q := q
  mono := monotone_id
  int _ _ := rfl

section Exact
variable (a b : Rat)

@[simp] theorem exact_round : exact.round a = a := rfl

@[simp] theorem exact_sub : exact.sub a b = a - b := rfl

@[simp] theorem exact_div : exact.div a b = a / b := rfl

end Exact

/-! ## To the nearest integer -/

/-- The nearest integer, the even one of two. -/
def halfEven (q : Rat) : Int :=
  if q - ⌊q⌋ < 1 / 2 then ⌊q⌋
  else if 1 / 2 < q - ⌊q⌋ then ⌊q⌋ + 1
  else if ⌊q⌋ % 2 = 0 then ⌊q⌋
  else ⌊q⌋ + 1

theorem halfEven_bounds (q : Rat) : ⌊q⌋ ≤ halfEven q ∧ halfEven q ≤ ⌊q⌋ + 1 := by
  unfold halfEven
  split_ifs <;> omega

theorem halfEven_intCast (n : Int) : halfEven n = n := by
  simp [halfEven]

theorem halfEven_mono {p q : Rat} (hpq : p ≤ q) : halfEven p ≤ halfEven q := by
  rcases (Int.floor_mono hpq).lt_or_eq with hlt | hfloor
  · have hp := (halfEven_bounds p).2
    have hq := (halfEven_bounds q).1
    omega
  · -- in one unit interval the fractions decide
    have hfrac : p - ⌊p⌋ ≤ q - ⌊q⌋ := by
      rw [hfloor]
      exact sub_le_sub_right hpq _
    unfold halfEven
    rw [hfloor] at hfrac ⊢
    by_cases hbelow : q - ⌊q⌋ < 1 / 2
    · rw [if_pos (hfrac.trans_lt hbelow), if_pos hbelow]
    · by_cases habove : 1 / 2 < q - ⌊q⌋
      · rw [if_neg hbelow, if_pos habove]
        split_ifs <;> omega
      · have hp : ¬ 1 / 2 < p - ⌊q⌋ := fun h => habove (h.trans_le hfrac)
        rw [if_neg hbelow, if_neg habove, if_neg hp]
        split_ifs <;> omega

theorem halfEven_neg (q : Rat) : halfEven (-q) = -halfEven q := by
  by_cases hint : q = ⌊q⌋
  · rw [hint, ← Int.cast_neg, halfEven_intCast, halfEven_intCast]
  · have hfloor : ⌊-q⌋ = -⌊q⌋ - 1 := by
      have hlt : (⌊q⌋ : Rat) < q := lt_of_le_of_ne (Int.floor_le q) (Ne.symm hint)
      rw [Int.floor_eq_iff]
      push_cast
      constructor <;> linarith [Int.lt_floor_add_one q]
    unfold halfEven
    rw [hfloor]
    push_cast
    split_ifs <;> first | omega | (exfalso; linarith)

/-! ## To the nearest double -/

/-- The exponent of the last of 53 bits, or of the smallest subnormal. -/
def ulpExponent (q : Rat) : Int := max (Int.log 2 |q|) (-1022) - 52

def toDouble (q : Rat) : Rat := halfEven (q / 2 ^ ulpExponent q) * 2 ^ ulpExponent q

theorem toDouble_neg (q : Rat) : toDouble (-q) = -toDouble q := by
  unfold toDouble ulpExponent
  rw [abs_neg, neg_div, halfEven_neg, Int.cast_neg, neg_mul]

section Grid
variable {q : Rat} {m e : Int}

/-- A number with the exponent or a higher one is a whole count of the units. -/
theorem grid_eq (he : ulpExponent q ≤ e) :
    (m : Rat) * 2 ^ e / 2 ^ ulpExponent q = ((m * 2 ^ (e - ulpExponent q).toNat : Int) : Rat) := by
  have hexp : (2 : Rat) ^ (e - ulpExponent q).toNat = 2 ^ (e - ulpExponent q) := by
    rw [← zpow_natCast, Int.toNat_of_nonneg (by omega)]
  push_cast
  rw [hexp, zpow_sub₀ two_ne_zero, mul_div_assoc]

theorem toDouble_le (he : ulpExponent q ≤ e) (h : q ≤ m * 2 ^ e) : toDouble q ≤ m * 2 ^ e := by
  have hunit : (0 : Rat) < 2 ^ ulpExponent q := by positivity
  have hcount := halfEven_mono (div_le_div_of_nonneg_right h hunit.le)
  rw [grid_eq he, halfEven_intCast] at hcount
  have hle : (halfEven (q / 2 ^ ulpExponent q) : Rat) ≤ m * 2 ^ e / 2 ^ ulpExponent q := by
    rw [grid_eq he]
    exact_mod_cast hcount
  exact (le_div_iff₀ hunit).mp hle

theorem le_toDouble (he : ulpExponent q ≤ e) (h : m * 2 ^ e ≤ q) : m * 2 ^ e ≤ toDouble q := by
  have hneg : -q ≤ ((-m : Int) : Rat) * 2 ^ e := by
    push_cast
    rw [neg_mul]
    exact neg_le_neg h
  have hexp : ulpExponent (-q) ≤ e := by
    unfold ulpExponent at he ⊢
    rw [abs_neg]
    exact he
  have hle := toDouble_le hexp hneg
  rw [toDouble_neg, Int.cast_neg, neg_mul] at hle
  exact neg_le_neg_iff.mp hle

end Grid

theorem toDouble_nonneg {q : Rat} (h : 0 ≤ q) : 0 ≤ toDouble q := by
  have hle := le_toDouble (m := 0) (le_refl (ulpExponent q)) (by simpa using h)
  simpa using hle

theorem toDouble_mono_pos {p q : Rat} (hp : 0 < p) (hpq : p ≤ q) : toDouble p ≤ toDouble q := by
  have hq := hp.trans_le hpq
  have hlog : Int.log 2 p ≤ Int.log 2 q := Int.log_mono_right hp hpq
  by_cases hsame : ulpExponent p = ulpExponent q
  · unfold toDouble
    rw [hsame]
    have hunit : (0 : Rat) < 2 ^ ulpExponent q := by positivity
    have hcount := halfEven_mono (div_le_div_of_nonneg_right hpq hunit.le)
    exact mul_le_mul_of_nonneg_right (by exact_mod_cast hcount) hunit.le
  · -- the power of two between them is a number of the coarser format too
    have hexp : ulpExponent p < Int.log 2 q - 52 ∧ ulpExponent q = Int.log 2 q - 52 ∧
        Int.log 2 p + 1 ≤ Int.log 2 q := by
      unfold ulpExponent at hsame ⊢
      rw [abs_of_pos hp, abs_of_pos hq] at hsame ⊢
      omega
    have hbelow : p ≤ ((1 : Int) : Rat) * 2 ^ Int.log 2 q := by
      rw [Int.cast_one, one_mul]
      exact (Int.lt_zpow_succ_log_self (by decide) p).le.trans
        (zpow_le_zpow_right₀ one_le_two hexp.2.2)
    have habove : ((1 : Int) : Rat) * 2 ^ Int.log 2 q ≤ q := by
      rw [Int.cast_one, one_mul]
      exact Int.zpow_log_le_self (by decide) hq
    exact (toDouble_le (by omega) hbelow).trans (le_toDouble (by omega) habove)

theorem toDouble_mono : Monotone toDouble := by
  intro p q hpq
  rcases lt_or_ge 0 p with hp | hp
  · exact toDouble_mono_pos hp hpq
  · have hlow : toDouble p ≤ 0 := by
      have hneg := toDouble_nonneg (neg_nonneg.mpr hp)
      rw [toDouble_neg] at hneg
      exact neg_nonneg.mp hneg
    rcases lt_or_ge q 0 with hq | hq
    · have hneg := toDouble_mono_pos (neg_pos.mpr hq) (neg_le_neg hpq)
      rw [toDouble_neg, toDouble_neg] at hneg
      exact neg_le_neg_iff.mp hneg
    · exact hlow.trans (toDouble_nonneg hq)

theorem toDouble_intCast {n : Int} (h : |n| < 2 ^ 53) : toDouble n = n := by
  have hexp : ulpExponent (n : Rat) ≤ 0 := by
    have hlog : Int.log 2 |(n : Rat)| < 53 := by
      by_cases hzero : n = 0
      · simp [hzero]
      · refine (Int.lt_zpow_iff_log_lt (by decide) ?_).mp ?_
        · exact abs_pos.mpr (Int.cast_ne_zero.mpr hzero)
        · exact_mod_cast h
    unfold ulpExponent
    omega
  have hone : (n : Rat) * 2 ^ (0 : Int) = n := by rw [zpow_zero, mul_one]
  have hle := toDouble_le hexp hone.ge
  have hge := le_toDouble hexp hone.le
  rw [hone] at hle hge
  exact le_antisymm hle hge

def binary64 : Rounding where
  round := toDouble
  mono := toDouble_mono
  int _ h := toDouble_intCast h

-- As doubles, 1.1 - 1 is above 0.1.
example : binary64.div 1 10 < binary64.sub (binary64.div 11 10) 1 := by decide +kernel

end Rounding

end Lib
