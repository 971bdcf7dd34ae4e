/-
# `KahunaOperator.MoreLoad` — does more load ask for more nodes?

Two inputs of `decideAutoscale` that differ in their signals only, those of the
second at least those of the first.  The worst ratio, the scaled size and the
clamp all keep the order, and so does the dead band: below it a size asks for no
more than itself, above it for no less.  What does not keep it is the conversion
of the scaled size to `int32`, of which Go says nothing outside its range.  The
arithmetic before it is exact here.

    the second's scaled size fits        recommended and desired size keep the order
    it does not                          its recommendation can be as low as `lowest`

`more_load_iff` is over every conversion: the order is kept by all of them exactly
when the second's scaled size fits, or is the very number the first one converts,
or the first recommends no more than `lowest` anyway.
-/
import KahunaOperator.ConstantLoad

namespace KahunaOperator

open Lib (Rounding)

/-! ## Two signals -/

/-- The same is known of both, and what is known is not negative and no less the
second time. -/
def SignalLe (v w : Option Rat) : Prop :=
  (v = none ∧ w = none) ∨ ∃ a b, v = some a ∧ w = some b ∧ 0 ≤ a ∧ a ≤ b

structure TrafficSignal.Le (s t : TrafficSignal) : Prop where
  writes : SignalLe s.writesPerNode t.writesPerNode
  queue : SignalLe s.queuePerNode t.queuePerNode

def AutoscaleInput.withSignal (i : AutoscaleInput) (t : TrafficSignal) : AutoscaleInput :=
  { i with signal := t }

section Signals
variable {i : AutoscaleInput} {t : TrafficSignal}

theorem SignalLe.isSome_eq {v w : Option Rat} (h : SignalLe v w) : v.isSome = w.isSome := by
  rcases h with ⟨rfl, rfl⟩ | ⟨a, b, rfl, rfl, _⟩ <;> rfl

theorem SignalLe.of_some {v w : Option Rat} (h : SignalLe v w) {a : Rat} (ha : v = some a) :
    ∃ b, w = some b ∧ 0 ≤ a ∧ a ≤ b := by
  rcases h with ⟨rfl, _⟩ | ⟨a', b, rfl, rfl, hpos, hle⟩
  · cases ha
  · cases ha
    exact ⟨b, rfl, hpos, hle⟩

@[simp] theorem withSignal_start_desired :
    (i.withSignal t).start.desiredReplicas = i.start.desiredReplicas := by
  rw [start_desired, start_desired]
  rfl

theorem withSignal_allKnown (h : i.signal.Le t) : (i.withSignal t).allKnown = i.allKnown := by
  simp only [AutoscaleInput.allKnown, AutoscaleInput.configured, AutoscaleInput.withSignal,
    List.all_append]
  cases i.spec.targetWritesPerSecond <;> cases i.spec.targetQueueDepth <;>
    simp [h.writes.isSome_eq, h.queue.isSome_eq]

theorem ratio_le (h : i.signal.Le t) {x : Rat} (hx : x ∈ i.ratios .exact) :
    0 ≤ x ∧ ∃ y ∈ (i.withSignal t).ratios .exact, x ≤ y := by
  rcases AutoscaleInput.mem_ratios.mp hx with ⟨g, hg, v, hv, rfl⟩ | ⟨g, hg, v, hv, rfl⟩
  · obtain ⟨w, hw, hpos, hle⟩ := h.writes.of_some hv
    refine ⟨div_nonneg hpos (Nat.cast_nonneg g), w / g, ?_, ?_⟩
    · exact AutoscaleInput.mem_ratios.mpr (Or.inl ⟨g, hg, w, hw, rfl⟩)
    · exact div_le_div_of_nonneg_right hle (Nat.cast_nonneg g)
  · obtain ⟨w, hw, hpos, hle⟩ := h.queue.of_some hv
    refine ⟨div_nonneg hpos (Nat.cast_nonneg g), w / g, ?_, ?_⟩
    · exact AutoscaleInput.mem_ratios.mpr (Or.inr ⟨g, hg, w, hw, rfl⟩)
    · exact div_le_div_of_nonneg_right hle (Nat.cast_nonneg g)

theorem measured_le (h : i.signal.Le t) {r₁ r₂ : Rat} (h₁ : i.Measured .exact r₁)
    (h₂ : (i.withSignal t).Measured .exact r₂) : 0 ≤ r₁ ∧ r₁ ≤ r₂ := by
  obtain ⟨hpos, y, hy, hle⟩ := ratio_le h h₁.worst.1
  exact ⟨hpos, hle.trans (h₂.worst.2 y hy)⟩

theorem ratios_length (h : i.signal.Le t) :
    ((i.withSignal t).ratios .exact).length = (i.ratios .exact).length := by
  simp only [AutoscaleInput.ratios, AutoscaleInput.configured, AutoscaleInput.withSignal,
    List.filterMap_append, List.length_append]
  rcases h.writes with ⟨hv, hw⟩ | ⟨a, b, hv, hw, _⟩ <;>
    rcases h.queue with ⟨hv', hw'⟩ | ⟨a', b', hv', hw', _⟩ <;>
    cases i.spec.targetWritesPerSecond <;> cases i.spec.targetQueueDepth <;>
    simp [hv, hw, hv', hw']

end Signals

/-! ## What a measured ratio decides -/

section Decide
variable {c : Float64} {i : AutoscaleInput} {ratio : Rat}

theorem AutoscaleInput.Measured.decide_eq (h : i.Measured c.toRounding ratio) :
    decideAutoscale c i = decideAtRatio c i ratio := by
  obtain ⟨hconv, r, rs, hr, rfl⟩ := h
  simp only [decideAutoscale, hconv, hr]
  rfl

def AutoscaleInput.moved (i : AutoscaleInput) (recommended : Nat) : Nat :=
  if i.start.desiredReplicas < recommended then
    if 0 < i.growthCeiling ∧ i.growthCeiling ≤ i.start.desiredReplicas then
      i.start.desiredReplicas
    else if i.upWindow ≤ i.now - i.start.aboveTargetSince.getD i.now then
      i.start.desiredReplicas + 1
    else i.start.desiredReplicas
  else if recommended < i.start.desiredReplicas then
    if i.downWindow ≤ i.now - i.start.belowTargetSince.getD i.now then
      i.start.desiredReplicas - 1
    else i.start.desiredReplicas
  else i.start.desiredReplicas

theorem AutoscaleInput.moved_mono (i : AutoscaleInput) {m n : Nat} (h : m ≤ n) :
    i.moved m ≤ i.moved n := by
  unfold AutoscaleInput.moved
  split_ifs <;> omega

theorem AutoscaleInput.Measured.recommended_eq (h : i.Measured c.toRounding ratio) :
    (decideAutoscale c i).status.recommendedReplicas =
      i.recommended c i.start.desiredReplicas ratio := by
  rw [h.decide_eq]
  simp only [decideAtRatio, stepUp, stepDown]
  split_ifs <;> rfl

theorem AutoscaleInput.Measured.desired_eq (h : i.Measured c.toRounding ratio) :
    (decideAutoscale c i).status.desiredReplicas =
      i.moved (i.recommended c i.start.desiredReplicas ratio) := by
  rw [h.decide_eq]
  simp only [decideAtRatio, AutoscaleInput.moved, stepUp, stepDown]
  split_ifs <;> rfl

end Decide

theorem withSignal_moved (i : AutoscaleInput) (t : TrafficSignal) (n : Nat) :
    (i.withSignal t).moved n = i.moved n := by
  simp only [AutoscaleInput.moved, withSignal_start_desired, start_above, start_below]
  rfl

/-! ## From a ratio to a recommendation -/

namespace AutoscaleInput

/-- The size asked for at a ratio, before it is converted and held inside the
bounds. -/
def asked (i : AutoscaleInput) (ratio : Rat) : Int :=
  if i.tolerance .exact < |ratio - 1| then ⌈(i.start.desiredReplicas : Rat) * ratio⌉
  else i.start.desiredReplicas

/-- The least the input can recommend: fewer nodes only with every signal known. -/
def lowest (i : AutoscaleInput) : Nat :=
  if i.allKnown then i.spec.minReplicas else i.start.desiredReplicas

/-- What follows the conversion: no shrinking on a partial view, and the bounds. -/
def bounded (i : AutoscaleInput) (raw : Int) : Nat :=
  let raw := if raw < i.start.desiredReplicas ∧ i.allKnown = false then
    (i.start.desiredReplicas : Int) else raw
  (min (max raw i.spec.minReplicas) i.spec.maxReplicas).toNat

def converted (c : Int32Conv) (i : AutoscaleInput) (ratio : Rat) : Int :=
  if i.tolerance .exact < |ratio - 1| then c.conv ⌈(i.start.desiredReplicas : Rat) * ratio⌉
  else i.start.desiredReplicas

end AutoscaleInput

section Recommend
variable {c : Int32Conv} {i : AutoscaleInput} {ratio r₁ r₂ : Rat} {raw : Int}

theorem recommended_eq_bounded (c : Int32Conv) (i : AutoscaleInput) (ratio : Rat) :
    i.recommended c.exact i.start.desiredReplicas ratio = i.bounded (i.converted c ratio) := rfl

theorem start_le_max (i : AutoscaleInput) :
    i.start.desiredReplicas ≤ i.spec.maxReplicas ∧
      (i.spec.minReplicas ≤ i.start.desiredReplicas ∨
        i.start.desiredReplicas = i.spec.maxReplicas) := by
  rw [start_desired]
  omega

/-- All that holds a size is `lowest` from below and the maximum from above: a current
size below the minimum is at the maximum already. -/
theorem bounded_eq (i : AutoscaleInput) (raw : Int) :
    i.bounded raw = (min (max raw i.lowest) i.spec.maxReplicas).toNat := by
  have hs := start_le_max i
  cases hknown : i.allKnown with
  | true => simp [AutoscaleInput.lowest, AutoscaleInput.bounded, hknown]
  | false =>
      by_cases hraw : raw < i.start.desiredReplicas
      · simp only [AutoscaleInput.lowest, AutoscaleInput.bounded, hknown, hraw, and_true,
          if_true, Bool.false_eq_true, if_false]
        omega
      · simp only [AutoscaleInput.lowest, AutoscaleInput.bounded, hknown, hraw, and_true,
          Bool.false_eq_true, if_false]
        omega

theorem bounded_mono {m n : Int} (h : m ≤ n) : i.bounded m ≤ i.bounded n := by
  rw [bounded_eq, bounded_eq]
  omega

theorem lowest_le_bounded (i : AutoscaleInput) (raw : Int) :
    min i.lowest i.spec.maxReplicas ≤ i.bounded raw := by
  rw [bounded_eq]
  omega

theorem bounded_le_lowest (h : raw ≤ i.lowest) :
    i.bounded raw ≤ min i.lowest i.spec.maxReplicas := by
  rw [bounded_eq]
  omega

theorem bounded_le_max (i : AutoscaleInput) (raw : Int) : i.bounded raw ≤ i.spec.maxReplicas := by
  rw [bounded_eq]
  omega

theorem lowest_lt_bounded (h : (i.lowest : Int) < raw) (hroom : i.lowest < i.spec.maxReplicas) :
    i.lowest < i.bounded raw := by
  rw [bounded_eq]
  omega

/-- Below the dead band a size asks for no more than itself, above it for no less. -/
theorem asked_le_start (h : ratio ≤ 1) : i.asked ratio ≤ i.start.desiredReplicas := by
  unfold AutoscaleInput.asked
  split
  · rw [Int.ceil_le, Int.cast_natCast]
    exact mul_le_of_le_one_right (Nat.cast_nonneg _) h
  · exact le_rfl

theorem start_le_asked (h : 1 ≤ ratio) : (i.start.desiredReplicas : Int) ≤ i.asked ratio := by
  unfold AutoscaleInput.asked
  split
  · rw [← Int.cast_le (R := Rat), Int.cast_natCast]
    exact (le_mul_of_one_le_right (Nat.cast_nonneg _) h).trans (Int.le_ceil _)
  · exact le_rfl

theorem asked_outside (h : i.tolerance .exact < |ratio - 1|) :
    i.asked ratio = ⌈(i.start.desiredReplicas : Rat) * ratio⌉ := if_pos h

theorem asked_inside (h : ¬ i.tolerance .exact < |ratio - 1|) :
    i.asked ratio = i.start.desiredReplicas := if_neg h

theorem scaled_mono (i : AutoscaleInput) (h : r₁ ≤ r₂) :
    ⌈(i.start.desiredReplicas : Rat) * r₁⌉ ≤ ⌈(i.start.desiredReplicas : Rat) * r₂⌉ :=
  Int.ceil_le_ceil (mul_le_mul_of_nonneg_left h (Nat.cast_nonneg _))

/-- More is asked for at a higher ratio, across the dead band too. -/
theorem asked_mono (h : r₁ ≤ r₂) : i.asked r₁ ≤ i.asked r₂ := by
  rcases le_total r₁ 1 with hlow | hhigh
  · by_cases hband : i.tolerance .exact < |r₂ - 1|
    · rcases le_total r₂ 1 with hlow₂ | hhigh₂
      · -- Both are below one, and the first is further away.
        have hband₁ : i.tolerance .exact < |r₁ - 1| := by
          rw [abs_of_nonpos (by linarith)] at hband ⊢
          linarith
        rw [asked_outside hband, asked_outside hband₁]
        exact scaled_mono i h
      · exact (asked_le_start hlow).trans (start_le_asked hhigh₂)
    · rw [asked_inside hband]
      exact asked_le_start hlow
  · by_cases hband : i.tolerance .exact < |r₁ - 1|
    · have hband₂ : i.tolerance .exact < |r₂ - 1| := by
        rw [abs_of_nonneg (by linarith)] at hband ⊢
        linarith
      rw [asked_outside hband, asked_outside hband₂]
      exact scaled_mono i h
    · rw [asked_inside hband]
      exact start_le_asked (hhigh.trans h)

theorem converted_of_fits (hpos : 0 ≤ ratio) (h : i.asked ratio < 2 ^ 31) :
    i.converted c ratio = i.asked ratio := by
  by_cases hband : i.tolerance .exact < |ratio - 1|
  · rw [asked_outside hband] at h ⊢
    have hscaled : 0 ≤ ⌈(i.start.desiredReplicas : Rat) * ratio⌉ :=
      Int.ceil_nonneg (mul_nonneg (Nat.cast_nonneg _) hpos)
    rw [AutoscaleInput.converted, if_pos hband]
    exact c.fits _ (by omega) h
  · rw [AutoscaleInput.converted, if_neg hband, asked_inside hband]

theorem converted_of_overflow (hmax : i.spec.maxReplicas < 2 ^ 31) (h : 2 ^ 31 ≤ i.asked ratio) :
    i.converted c ratio = c.conv (i.asked ratio) := by
  have hs := (start_le_max i).1
  by_cases hband : i.tolerance .exact < |ratio - 1|
  · rw [AutoscaleInput.converted, if_pos hband, asked_outside hband]
  · rw [asked_inside hband] at h
    omega

end Recommend

/-! ## The order of two recommendations -/

/-- The conversion that takes one number to the lowest `int32`, and all others that
do not fit to the highest. -/
def skewedConv (n : Int) : Int32Conv where
  conv m := if -(2 ^ 31) ≤ m ∧ m < 2 ^ 31 then m else if m = n then -(2 ^ 31) else 2 ^ 31 - 1
  fits := by
    intro m hlow hhigh
    exact if_pos ⟨hlow, hhigh⟩
  range := by
    intro m
    split_ifs <;> omega

/-- The second decision recommends no fewer nodes than the first, and lowers the size
only where the first does. -/
def NoFewer (c : Int32Conv) (i : AutoscaleInput) (t : TrafficSignal) : Prop :=
  (decideAutoscale c.exact i).status.recommendedReplicas ≤
      (decideAutoscale c.exact (i.withSignal t)).status.recommendedReplicas ∧
    ((decideAutoscale c.exact (i.withSignal t)).status.desiredReplicas < i.start.desiredReplicas →
      (decideAutoscale c.exact i).status.desiredReplicas < i.start.desiredReplicas)

section Order
variable {c : Int32Conv} {i : AutoscaleInput} {t : TrafficSignal} {r₁ r₂ : Rat}

theorem withSignal_recommended (h : i.signal.Le t) (ratio : Rat) :
    (i.withSignal t).recommended c.exact i.start.desiredReplicas ratio =
      i.bounded (i.converted c ratio) := by
  simp only [AutoscaleInput.recommended, withSignal_allKnown h, AutoscaleInput.bounded,
    AutoscaleInput.converted]
  rfl

/-- The whole of it is a matter of the two recommendations. -/
theorem noFewer_iff (h : i.signal.Le t) (h₁ : i.Measured .exact r₁)
    (h₂ : (i.withSignal t).Measured .exact r₂) :
    NoFewer c i t ↔ i.bounded (i.converted c r₁) ≤ i.bounded (i.converted c r₂) := by
  have hfirst : i.Measured c.exact.toRounding r₁ := h₁
  have hsecond : (i.withSignal t).Measured c.exact.toRounding r₂ := h₂
  rw [NoFewer, hfirst.recommended_eq, hsecond.recommended_eq, hfirst.desired_eq,
    hsecond.desired_eq, withSignal_start_desired, withSignal_recommended h, withSignal_moved,
    recommended_eq_bounded]
  constructor
  · rintro ⟨hle, _⟩
    exact hle
  · intro hle
    refine ⟨hle, ?_⟩
    intro hlower
    exact (i.moved_mono hle).trans_lt hlower

theorem unmeasured_holds (h : i.ratios .exact = []) :
    (decideAutoscale c.exact i).status.recommendedReplicas = i.start.desiredReplicas ∧
      (decideAutoscale c.exact i).status.desiredReplicas = i.start.desiredReplicas := by
  simp only [decideAutoscale, Int32Conv.exact_toRounding, h]
  split_ifs <;> exact ⟨rfl, rfl⟩

theorem noFewer_of_unmeasured (h : i.signal.Le t) (hnone : i.ratios .exact = []) :
    NoFewer c i t := by
  have hnone₂ : (i.withSignal t).ratios .exact = [] := by
    rw [← List.length_eq_zero_iff, ratios_length h, hnone]
    rfl
  have h₁ := unmeasured_holds (c := c) hnone
  have h₂ := unmeasured_holds (c := c) hnone₂
  rw [withSignal_start_desired] at h₂
  unfold NoFewer
  omega

theorem measured_of_ratios {x : Rat} (hconv : i.converged = true) (hx : x ∈ i.ratios .exact) :
    ∃ ratio, i.Measured .exact ratio := by
  cases hr : i.ratios .exact with
  | nil =>
      rw [hr] at hx
      cases hx
  | cons r rs => exact ⟨_, hconv, r, rs, hr, rfl⟩

/-- Where the second size fits, so does the first, and the order is kept. -/
theorem noFewer_of_fits (h : i.signal.Le t) (h₁ : i.Measured .exact r₁)
    (h₂ : (i.withSignal t).Measured .exact r₂) (hfits : i.asked r₂ < 2 ^ 31) : NoFewer c i t := by
  obtain ⟨hpos, hle⟩ := measured_le h h₁ h₂
  have hask : i.asked r₁ ≤ i.asked r₂ := asked_mono hle
  rw [noFewer_iff h h₁ h₂, converted_of_fits hpos (hask.trans_lt hfits),
    converted_of_fits (hpos.trans hle) hfits]
  exact bounded_mono hask

/-- Where the first recommends no more than the least the second can, too. -/
theorem noFewer_of_lowest (h : i.signal.Le t) (h₁ : i.Measured .exact r₁)
    (h₂ : (i.withSignal t).Measured .exact r₂) (hmax : i.spec.maxReplicas < 2 ^ 31)
    (hlow : i.asked r₁ ≤ i.lowest ∨ i.spec.maxReplicas ≤ i.lowest) : NoFewer c i t := by
  rw [noFewer_iff h h₁ h₂]
  have hsecond := lowest_le_bounded i (i.converted c r₂)
  have hfirst := bounded_le_max i (i.converted c r₁)
  by_cases hroom : i.spec.maxReplicas ≤ i.lowest
  · omega
  · have hask : i.asked r₁ ≤ i.lowest := by omega
    have hconverted : i.converted c r₁ = i.asked r₁ :=
      converted_of_fits (measured_le h h₁ h₂).1 (by omega)
    rw [hconverted]
    exact (bounded_le_lowest hask).trans hsecond

/-- Otherwise some conversion turns the order around. -/
theorem skewed_not_noFewer (h : i.signal.Le t) (h₁ : i.Measured .exact r₁)
    (h₂ : (i.withSignal t).Measured .exact r₂) (hmax : i.spec.maxReplicas < 2 ^ 31)
    (hover : 2 ^ 31 ≤ i.asked r₂) (hdiffer : i.asked r₁ ≠ i.asked r₂)
    (hmore : (i.lowest : Int) < i.asked r₁) (hroom : i.lowest < i.spec.maxReplicas) :
    ¬ NoFewer (skewedConv (i.asked r₂)) i t := by
  rw [noFewer_iff h h₁ h₂, not_le]
  have hsecond : i.converted (skewedConv (i.asked r₂)) r₂ = -(2 ^ 31) := by
    rw [converted_of_overflow hmax hover]
    simp only [skewedConv]
    split_ifs <;> omega
  have hfirst : (i.lowest : Int) < i.converted (skewedConv (i.asked r₂)) r₁ := by
    by_cases hfits : i.asked r₁ < 2 ^ 31
    · rw [converted_of_fits (measured_le h h₁ h₂).1 hfits]
      exact hmore
    · rw [converted_of_overflow hmax (not_lt.mp hfits)]
      simp only [skewedConv]
      split_ifs <;> omega
  have hlow : i.bounded (-(2 ^ 31)) ≤ min i.lowest i.spec.maxReplicas :=
    bounded_le_lowest (by omega)
  have hhigh := lowest_lt_bounded hfirst hroom
  rw [hsecond]
  omega

/-- For two inputs that differ in that the second has more load: every conversion to
`int32` keeps the order of the recommendations, and of the decisions to lower the
size, exactly when the size the second asks for fits, or is the one the first asks
for, or the first cannot recommend more than the least the second can. -/
theorem more_load_iff (hconv : i.converged = true) (h : i.signal.Le t)
    (hmax : i.spec.maxReplicas < 2 ^ 31) :
    (∀ c, NoFewer c i t) ↔
      ∀ r₁ r₂, i.Measured .exact r₁ → (i.withSignal t).Measured .exact r₂ →
        i.asked r₂ < 2 ^ 31 ∨ i.asked r₁ = i.asked r₂ ∨ i.asked r₁ ≤ i.lowest ∨
          i.spec.maxReplicas ≤ i.lowest := by
  constructor
  · intro hall r₁ r₂ h₁ h₂
    by_contra hnot
    exact skewed_not_noFewer h h₁ h₂ hmax (by omega) (by omega) (by omega) (by omega) (hall _)
  · intro hcond c
    cases hr : i.ratios .exact with
    | nil => exact noFewer_of_unmeasured h hr
    | cons r rs =>
        have hmem : r ∈ i.ratios .exact := by
          rw [hr]
          exact List.mem_cons_self
        obtain ⟨r₁, h₁⟩ := measured_of_ratios hconv hmem
        obtain ⟨_, y, hy, _⟩ := ratio_le h hmem
        obtain ⟨r₂, h₂⟩ := measured_of_ratios (i := i.withSignal t) hconv hy
        by_cases hfits : i.asked r₂ < 2 ^ 31
        · exact noFewer_of_fits h h₁ h₂ hfits
        · rcases hcond r₁ r₂ h₁ h₂ with hfit | hsame | hlow
          · exact absurd hfit hfits
          · -- The same number is converted twice.
            rw [noFewer_iff h h₁ h₂, converted_of_overflow hmax (by omega),
              converted_of_overflow hmax (not_lt.mp hfits), hsame]
          · exact noFewer_of_lowest h h₁ h₂ hmax hlow

end Order

/-! ## Two loads on four nodes -/

/-- Four converged nodes with a queue of the given depth, not above their target
since time zero. -/
def queuedInput (depth : Rat) : AutoscaleInput :=
  { spec := { minReplicas := 3, maxReplicas := 6, targetQueueDepth := some 10 }
    prev := some { desiredReplicas := 4, belowTargetSince := some 0 }
    initial := 4
    signal := { queuePerNode := some depth }
    converged := true
    growthCeiling := 0
    ceilingReason := ""
    now := seconds 1000 }

theorem queued_le {a b : Rat} (hpos : 0 ≤ a) (hle : a ≤ b) :
    (queuedInput a).signal.Le { queuePerNode := some b } :=
  ⟨Or.inl ⟨rfl, rfl⟩, Or.inr ⟨a, b, rfl, rfl, hpos, hle⟩⟩

/-- Twice the target asks for eight nodes, which fits. -/
theorem double_queue_no_fewer :
    (queuedInput 10).converged = true ∧
      ∀ c, NoFewer c (queuedInput 10) { queuePerNode := some 20 } := by
  have hle := queued_le (a := 10) (b := 20) (by norm_num) (by norm_num)
  refine ⟨rfl, (more_load_iff rfl hle (by decide)).mpr ?_⟩
  rintro r₁ r₂ _ ⟨_, r, rs, hr, rfl⟩
  left
  have htwo : ((queuedInput 10).withSignal { queuePerNode := some 20 }).ratios .exact = [2] := by
    decide +kernel
  cases htwo.symm.trans hr
  decide +kernel

/-- At 2²⁹ times the target the scaled size is 2³¹.  Where the conversion wraps, the
cluster at its target keeps its four nodes, and the flooded one gives one up. -/
theorem flooded_queue_fewer :
    (queuedInput 10).signal.Le { queuePerNode := some (10 * 2 ^ 29) } ∧
      (decideAutoscale wrappingConv.exact (queuedInput 10)).status.recommendedReplicas = 4 ∧
      (decideAutoscale wrappingConv.exact (queuedInput 10)).status.desiredReplicas = 4 ∧
      (decideAutoscale wrappingConv.exact ((queuedInput 10).withSignal
        { queuePerNode := some (10 * 2 ^ 29) })).status.recommendedReplicas = 3 ∧
      (decideAutoscale wrappingConv.exact ((queuedInput 10).withSignal
        { queuePerNode := some (10 * 2 ^ 29) })).status.desiredReplicas = 3 := by
  refine ⟨queued_le (by norm_num) (by norm_num), ?_⟩
  decide +kernel

end KahunaOperator
