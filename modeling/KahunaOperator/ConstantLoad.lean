/-
# `KahunaOperator.ConstantLoad` — the autoscaler does not flap

The signals are averages per node, so a step changes the very signal the next
decision sees.  Under a constant total load it does so in step with the size: at
`n` nodes a signal of load `l` and target `t` has the ratio `(l / n) / t`, and the
size it asks for, `n` times that, is `l / t` whatever `n` is.  A raise at `n`
therefore shows that some load asks for more than `n`, a lowering that every load
asks for less, and

    some load asks for at least the size in force   stays true, and there is no lowering
    no load asks for more                           stays true, and there is no raise
                                                                   (`constant_load_monotone`)

The arithmetic here is exact: with rounding, `n` times the ratio is `l / t` only
nearly.  The argument needs the product, rounded up, to fit an `int32`.  For the product
itself to be below 2³¹ is not quite enough (`half_a_node_short_of_overflow`).
-/
import KahunaOperator.Windows

namespace KahunaOperator

open Lib (Rounding Run Transition)

/-! ## Loads -/

/-- A converged call that finds a constant total load: each signal it knows is the
average over the nodes there are. -/
structure UnderLoad (initial : Nat) (writes queue : Rat) (t : Transition Autoscaler Call) :
    Prop where
  converged : t.event.converged = true
  writes : ∀ v ∈ t.event.signal.writesPerNode, v = writes / (t.before.desired initial : Rat)
  queue : ∀ v ∈ t.event.signal.queuePerNode, v = queue / (t.before.desired initial : Rat)

/-- The number of nodes each configured signal asks for. -/
def loads (spec : AutoscalingSpec) (writes queue : Rat) : List Rat :=
  (spec.targetWritesPerSecond.map fun t : Nat => writes / (t : Rat)).toList ++
    (spec.targetQueueDepth.map fun t : Nat => queue / (t : Rat)).toList

theorem loads_nonneg {spec : AutoscalingSpec} {writes queue : Rat} (hw : 0 ≤ writes)
    (hq : 0 ≤ queue) {l : Rat} (h : l ∈ loads spec writes queue) : 0 ≤ l := by
  simp only [loads, List.mem_append, Option.mem_toList, Option.map_eq_some_iff] at h
  rcases h with ⟨t, _, rfl⟩ | ⟨t, _, rfl⟩
  · exact div_nonneg hw (Nat.cast_nonneg t)
  · exact div_nonneg hq (Nat.cast_nonneg t)

theorem AutoscaleInput.mem_ratios {i : AutoscaleInput} {x : Rat} :
    x ∈ i.ratios .exact ↔
      (∃ t ∈ i.spec.targetWritesPerSecond, ∃ v ∈ i.signal.writesPerNode, x = v / (t : Rat)) ∨
        ∃ t ∈ i.spec.targetQueueDepth, ∃ v ∈ i.signal.queuePerNode, x = v / (t : Rat) := by
  simp only [AutoscaleInput.ratios, AutoscaleInput.configured, List.mem_filterMap,
    List.mem_append, Option.mem_toList, Option.map_eq_some_iff]
  constructor
  · rintro ⟨y, ⟨t, ht, rfl⟩ | ⟨t, ht, rfl⟩, v, hv, rfl⟩
    · exact Or.inl ⟨t, ht, v, hv, rfl⟩
    · exact Or.inr ⟨t, ht, v, hv, rfl⟩
  · rintro (⟨t, ht, v, hv, rfl⟩ | ⟨t, ht, v, hv, rfl⟩)
    · exact ⟨_, Or.inl ⟨t, ht, rfl⟩, v, hv, rfl⟩
    · exact ⟨_, Or.inr ⟨t, ht, rfl⟩, v, hv, rfl⟩

theorem nodes_times_ratio {n : Nat} (hn : 0 < n) (load t : Rat) :
    (n : Rat) * (load / n / t) = load / t := by
  have hne : (n : Rat) ≠ 0 := Nat.cast_ne_zero.mpr (Nat.ne_of_gt hn)
  rw [div_div, mul_comm (n : Rat) t, ← div_div, mul_div_cancel₀ _ hne]

section Loaded
variable {spec : AutoscalingSpec} {initial : Nat} {writes queue : Rat}
  {t : Transition Autoscaler Call}

theorem UnderLoad.load_of_ratio (spec : AutoscalingSpec) (h : UnderLoad initial writes queue t)
    (hn : 0 < t.before.desired initial) {x : Rat}
    (hx : x ∈ (t.event.input spec initial t.before).ratios .exact) :
    (t.before.desired initial : Rat) * x ∈ loads spec writes queue := by
  rw [loads, List.mem_append, Option.mem_toList, Option.mem_toList]
  rcases AutoscaleInput.mem_ratios.mp hx with ⟨g, hg, v, hv, rfl⟩ | ⟨g, hg, v, hv, rfl⟩
  · left
    rw [h.writes v hv, nodes_times_ratio hn]
    exact Option.map_eq_some_iff.mpr ⟨g, hg, rfl⟩
  · right
    rw [h.queue v hv, nodes_times_ratio hn]
    exact Option.map_eq_some_iff.mpr ⟨g, hg, rfl⟩

theorem UnderLoad.ratio_of_load (h : UnderLoad initial writes queue t)
    (hn : 0 < t.before.desired initial)
    (hknown : ∀ x ∈ (t.event.input spec initial t.before).configured, x.2.isSome = true) {l : Rat}
    (hl : l ∈ loads spec writes queue) :
    ∃ x ∈ (t.event.input spec initial t.before).ratios .exact,
      (t.before.desired initial : Rat) * x = l := by
  simp only [AutoscaleInput.configured, List.mem_append, Option.mem_toList,
    Option.map_eq_some_iff] at hknown
  simp only [loads, List.mem_append, Option.mem_toList, Option.map_eq_some_iff] at hl
  rcases hl with ⟨g, hg, rfl⟩ | ⟨g, hg, rfl⟩
  · obtain ⟨v, hv⟩ := Option.isSome_iff_exists.mp (hknown _ (Or.inl ⟨g, hg, rfl⟩))
    refine ⟨v / g, AutoscaleInput.mem_ratios.mpr (Or.inl ⟨g, hg, v, hv, rfl⟩), ?_⟩
    rw [h.writes v hv, nodes_times_ratio hn]
  · obtain ⟨v, hv⟩ := Option.isSome_iff_exists.mp (hknown _ (Or.inr ⟨g, hg, rfl⟩))
    refine ⟨v / g, AutoscaleInput.mem_ratios.mpr (Or.inr ⟨g, hg, v, hv, rfl⟩), ?_⟩
    rw [h.queue v hv, nodes_times_ratio hn]

end Loaded

/-! ## The worst ratio and its recommendation -/

theorem foldl_max_mem (r : Rat) (rs : List Rat) : rs.foldl max r ∈ r :: rs := by
  induction rs generalizing r with
  | nil => exact List.mem_singleton_self r
  | cons x rs ih =>
      rw [List.foldl_cons]
      rcases List.mem_cons.mp (ih (max r x)) with h | h
      · rcases max_choice r x with hmax | hmax
        · rw [h, hmax]
          exact List.mem_cons_self
        · rw [h, hmax]
          exact List.mem_cons_of_mem _ List.mem_cons_self
      · exact List.mem_cons_of_mem _ (List.mem_cons_of_mem _ h)

theorem le_foldl_max (r : Rat) (rs : List Rat) : ∀ x ∈ r :: rs, x ≤ rs.foldl max r := by
  induction rs generalizing r with
  | nil =>
      intro x hx
      exact (List.mem_singleton.mp hx).le
  | cons y rs ih =>
      intro x hx
      rw [List.foldl_cons]
      have hstart := ih (max r y) (max r y) List.mem_cons_self
      rcases List.mem_cons.mp hx with rfl | hx
      · exact (le_max_left _ _).trans hstart
      · rcases List.mem_cons.mp hx with rfl | hx
        · exact (le_max_right _ _).trans hstart
        · exact ih (max r y) x (List.mem_cons_of_mem _ hx)

theorem AutoscaleInput.Measured.worst {f : Rounding} {i : AutoscaleInput} {ratio : Rat}
    (h : i.Measured f ratio) : ratio ∈ i.ratios f ∧ ∀ x ∈ i.ratios f, x ≤ ratio := by
  obtain ⟨_, r, rs, hr, rfl⟩ := h
  rw [hr]
  exact ⟨foldl_max_mem r rs, le_foldl_max r rs⟩

/-- A recommendation above the size comes from the product, not from a bound. -/
theorem AutoscaleInput.lt_product {c : Float64} {i : AutoscaleInput} {n : Nat} {ratio : Rat}
    (hmin : i.spec.minReplicas ≤ n) (h : n < i.recommended c n ratio) :
    (n : Int) < c.conv ⌈c.mul n ratio⌉ := by
  simp only [AutoscaleInput.recommended] at h
  split at h
  · split at h <;> omega
  · omega

theorem AutoscaleInput.product_lt {c : Float64} {i : AutoscaleInput} {n : Nat} {ratio : Rat}
    (hmax : n ≤ i.spec.maxReplicas) (h : i.recommended c n ratio < n) :
    c.conv ⌈c.mul n ratio⌉ < (n : Int) := by
  simp only [AutoscaleInput.recommended] at h
  split at h
  · split at h <;> omega
  · omega

/-! ## The steps all go one way -/

def FitsRoundedUp (spec : AutoscalingSpec) (initial : Nat) (t : Transition Autoscaler Call) :
    Prop :=
  ∀ ratio, (t.event.input spec initial t.before).Measured .exact ratio →
    ⌈(t.before.desired initial : Rat) * ratio⌉ < 2 ^ 31

section Monotone
variable {c : Int32Conv} {spec : AutoscalingSpec} {initial : Nat} {writes queue : Rat}
  {a b : Autoscaler} {call : Call}

theorem conv_load (hw : 0 ≤ writes) (hq : 0 ≤ queue) {l : Rat} (hl : l ∈ loads spec writes queue)
    (hfits : ⌈l⌉ < 2 ^ 31) : c.conv ⌈l⌉ = ⌈l⌉ := by
  have hnonneg : 0 ≤ ⌈l⌉ := Int.ceil_nonneg (loads_nonneg hw hq hl)
  exact c.fits _ (by omega) hfits

variable (hmin : 0 < spec.minReplicas) (hw : 0 ≤ writes) (hq : 0 ≤ queue)
include hmin hw hq

/-- A raise: some load asks for more than the size found. -/
theorem Decides.raised_load (ha : a.InBounds spec initial)
    (hload : UnderLoad initial writes queue ⟨a, call, b⟩)
    (hfits : FitsRoundedUp spec initial ⟨a, call, b⟩) (h : Decides c.exact spec initial a call b)
    (hraised : a.desired initial < b.desired initial) :
    ∃ l ∈ loads spec writes queue, (a.desired initial : Int) < ⌈l⌉ := by
  have hpos : 0 < a.desired initial := Nat.lt_of_lt_of_le hmin ha.1
  cases h with
  | call _ =>
      have hstart := Call.input_start hmin ha call
      replace hraised : a.desired initial <
        (decideAutoscale c.exact (call.input spec initial a)).status.desiredReplicas := hraised
      rcases (decideAutoscale_decided c.exact (call.input spec initial a)).desired with
        hd | ⟨ratio, hratio, ⟨_, _, hrec⟩ | ⟨hd, _⟩⟩
      · omega
      · rw [hstart] at hrec
        have hl := hload.load_of_ratio spec hpos hratio.worst.1
        have hproduct : (a.desired initial : Int) < c.conv ⌈(a.desired initial : Rat) * ratio⌉ :=
          AutoscaleInput.lt_product (by exact ha.1) hrec
        rw [conv_load hw hq hl (hfits ratio hratio)] at hproduct
        exact ⟨_, hl, hproduct⟩
      · omega

/-- A lowering: every load asks for less than the size found. -/
theorem Decides.lowered_load (horder : spec.minReplicas ≤ spec.maxReplicas)
    (ha : a.InBounds spec initial) (hload : UnderLoad initial writes queue ⟨a, call, b⟩)
    (hfits : FitsRoundedUp spec initial ⟨a, call, b⟩) (h : Decides c.exact spec initial a call b)
    (hlowered : b.desired initial < a.desired initial) :
    ∀ l ∈ loads spec writes queue, ⌈l⌉ < (a.desired initial : Int) := by
  have hpos : 0 < a.desired initial := Nat.lt_of_lt_of_le hmin ha.1
  have hasks := (h.lowered hmin horder ha hlowered).1
  cases h with
  | call _ =>
      have hstart := Call.input_start hmin ha call
      replace hlowered :
        (decideAutoscale c.exact (call.input spec initial a)).status.desiredReplicas <
          a.desired initial := hlowered
      intro l hl
      rcases (decideAutoscale_decided c.exact (call.input spec initial a)).desired with
        hd | ⟨ratio, hratio, ⟨hd, _, _⟩ | ⟨_, hrec⟩⟩
      · omega
      · omega
      · rw [hstart] at hrec
        obtain ⟨hmem, hworst⟩ := hratio.worst
        have hproduct : c.conv ⌈(a.desired initial : Rat) * ratio⌉ < (a.desired initial : Int) :=
          AutoscaleInput.product_lt (by exact ha.2) hrec
        rw [conv_load hw hq (hload.load_of_ratio spec hpos hmem) (hfits ratio hratio)]
          at hproduct
        -- No load is above the worst one.
        obtain ⟨x, hx, rfl⟩ := hload.ratio_of_load hpos hasks.known hl
        have hle : (a.desired initial : Rat) * x ≤ (a.desired initial : Rat) * ratio :=
          mul_le_mul_of_nonneg_left (hworst x hx) (Nat.cast_nonneg _)
        exact (Int.ceil_le_ceil hle).trans_lt hproduct

end Monotone

/-- Over every run of converged calls under a constant load, from any size inside
the bounds and whichever of the signals each call knows: as long as the product,
rounded up, is an `int32`, the size never goes down or never goes up. -/
theorem constant_load_monotone {c : Int32Conv} {spec : AutoscalingSpec} {initial : Nat}
    {writes queue : Rat} {s s' : Autoscaler} {ts : List (Transition Autoscaler Call)}
    (hmin : 3 ≤ spec.minReplicas) (horder : spec.minReplicas ≤ spec.maxReplicas)
    (hw : 0 ≤ writes) (hq : 0 ≤ queue) (hstart : s.InBounds spec initial)
    (hrun : Run (Decides c.exact spec initial) s ts s')
    (hload : ∀ t ∈ ts, UnderLoad initial writes queue t)
    (hfits : ∀ t ∈ ts, FitsRoundedUp spec initial t) :
    (∀ t ∈ ts, t.before.desired initial ≤ t.after.desired initial) ∨
      ∀ t ∈ ts, t.after.desired initial ≤ t.before.desired initial := by
  have hpos : 0 < spec.minReplicas := by omega
  have hC : ∀ t ∈ ts, UnderLoad initial writes queue t ∧ FitsRoundedUp spec initial t :=
    fun t ht => ⟨hload t ht, hfits t ht⟩
  by_cases hsome : ∃ l ∈ loads spec writes queue, (s.desired initial : Int) ≤ ⌈l⌉
  · -- Some load asks for at least the size in force: that stays so.
    left
    refine Run.forall_mem_of (I := fun s => s.InBounds spec initial ∧
        ∃ l ∈ loads spec writes queue, (s.desired initial : Int) ≤ ⌈l⌉)
      (C := fun t => UnderLoad initial writes queue t ∧ FitsRoundedUp spec initial t)
      ?_ ?_ hrun ⟨hstart, hsome⟩ hC
    · rintro a e b ⟨ha, l, hl, hle⟩ ⟨hu, hf⟩ hstep
      have hsingle := hstep.single hpos ha
      refine ⟨hstep.inBounds horder, ?_⟩
      by_cases hraised : a.desired initial < b.desired initial
      · obtain ⟨l', hl', hlt⟩ := hstep.raised_load hpos hw hq ha hu hf hraised
        exact ⟨l', hl', by omega⟩
      · exact ⟨l, hl, by omega⟩
    · rintro a e b ⟨ha, l, hl, hle⟩ ⟨hu, hf⟩ hstep
      by_contra hlowered
      have hless := hstep.lowered_load hpos hw hq horder ha hu hf (Nat.not_le.mp hlowered) l hl
      omega
  · -- Every load asks for less: that stays so up to equality.
    right
    push Not at hsome
    refine Run.forall_mem_of (I := fun s => s.InBounds spec initial ∧
        ∀ l ∈ loads spec writes queue, ⌈l⌉ ≤ (s.desired initial : Int))
      (C := fun t => UnderLoad initial writes queue t ∧ FitsRoundedUp spec initial t)
      ?_ ?_ hrun ⟨hstart, fun l hl => (hsome l hl).le⟩ hC
    · rintro a e b ⟨ha, hall⟩ ⟨hu, hf⟩ hstep
      have hsingle := hstep.single hpos ha
      refine ⟨hstep.inBounds horder, ?_⟩
      intro l hl
      have hle := hall l hl
      by_cases hlowered : b.desired initial < a.desired initial
      · have hless := hstep.lowered_load hpos hw hq horder ha hu hf hlowered l hl
        omega
      · omega
    · rintro a e b ⟨ha, hall⟩ ⟨hu, hf⟩ hstep
      by_contra hraised
      obtain ⟨l, hl, hlt⟩ := hstep.raised_load hpos hw hq ha hu hf (Nat.not_le.mp hraised)
      have hle := hall l hl
      omega

/-! ## A load next to 2³¹ -/

/-- One write a second and one queued proposal for each node, and no windows. -/
def promptSpec : AutoscalingSpec :=
  { minReplicas := 3, maxReplicas := 9, targetWritesPerSecond := some 1, targetQueueDepth := some 1
    scaleUpStabilizationSeconds := some 0, scaleDownStabilizationSeconds := some 0 }

def queueOnly : Call := { signal := { queuePerNode := some (10 / 5) }, converged := true, now := 0 }

def bothKnown (writes : Rat) : Call :=
  { signal := { writesPerNode := some (writes / 6), queuePerNode := some (10 / 6) }
    converged := true, now := 1 }

def promptOnce : Autoscaler := ({} : Autoscaler).next wrappingConv.exact promptSpec 5 queueOnly

def promptTwice (writes : Rat) : Autoscaler :=
  promptOnce.next wrappingConv.exact promptSpec 5 (bothKnown writes)

def promptCalls (writes : Rat) : List (Transition Autoscaler Call) :=
  [⟨{}, queueOnly, promptOnce⟩, ⟨promptOnce, bothKnown writes, promptTwice writes⟩]

theorem promptOnce_desired : promptOnce.desired 5 = 6 := by decide +kernel

theorem promptCalls_run (writes : Rat) :
    Run (Decides wrappingConv.exact promptSpec 5) {} (promptCalls writes) (promptTwice writes) := by
  refine .cons (.call ?_) (.cons (.call ?_) (.nil _))
  · rintro t ⟨⟩
  · rintro t ⟨⟩
    exact Int.zero_lt_one

theorem promptCalls_load (writes : Rat) :
    ∀ t ∈ promptCalls writes, UnderLoad 5 writes 10 t := by
  intro t ht
  rcases List.mem_cons.mp ht with rfl | ht
  · refine ⟨rfl, ?_, ?_⟩
    · rintro v ⟨⟩
    · rintro v ⟨⟩
      rfl
  · cases List.mem_singleton.mp ht
    refine ⟨rfl, ?_, ?_⟩
    · rintro v ⟨⟩
      rw [promptOnce_desired]
      rfl
    · rintro v ⟨⟩
      rw [promptOnce_desired]
      rfl

/-- The product of each call is ten, or the larger of the two loads. -/
theorem promptCalls_product {writes : Rat} (h : 10 ≤ writes) {t : Transition Autoscaler Call}
    (ht : t ∈ promptCalls writes) {ratio : Rat}
    (hratio : (t.event.input promptSpec 5 t.before).Measured .exact ratio) :
    (t.before.desired 5 : Rat) * ratio ≤ writes := by
  have hbefore : t.before.desired 5 = 5 ∨ t.before.desired 5 = 6 := by
    rcases List.mem_cons.mp ht with rfl | ht
    · exact Or.inl rfl
    · cases List.mem_singleton.mp ht
      exact Or.inr promptOnce_desired
  have hmem := (promptCalls_load writes t ht).load_of_ratio promptSpec (by omega) hratio.worst.1
  simp only [loads, promptSpec, Option.map_some, Option.toList_some, List.cons_append,
    List.nil_append, List.mem_cons, List.not_mem_nil, or_false, Nat.cast_one, div_one] at hmem
  rcases hmem with hmem | hmem
  · exact hmem.le
  · exact hmem.le.trans h

/-- A load of twelve writes: from five to six to seven. -/
theorem twelve_writes_monotone :
    (promptTwice 12).desired 5 = 7 ∧
      ((∀ t ∈ promptCalls 12, t.before.desired 5 ≤ t.after.desired 5) ∨
        ∀ t ∈ promptCalls 12, t.after.desired 5 ≤ t.before.desired 5) := by
  refine ⟨by decide +kernel, ?_⟩
  have hstart : ({} : Autoscaler).InBounds promptSpec 5 := ⟨by decide, by decide⟩
  refine constant_load_monotone (by decide) (by decide) (by decide) (by decide) hstart
    (promptCalls_run 12) (promptCalls_load 12) ?_
  intro t ht ratio hratio
  have hproduct := promptCalls_product (by decide) ht hratio
  exact (Int.ceil_le.mpr (by exact_mod_cast hproduct)).trans_lt (by decide : (12 : Int) < 2 ^ 31)

/-- Half a node short of 2³¹: below it, and 2³¹ when rounded up. -/
def nearOverflow : Rat := 2 ^ 31 - 1 / 2

/-- The product stays below 2³¹ in both calls.  The first raises the size; the
second rounds up to 2³¹, which wraps around to the smallest `int32`, and lowers
it. -/
theorem half_a_node_short_of_overflow :
    Run (Decides wrappingConv.exact promptSpec 5) {} (promptCalls nearOverflow)
      (promptTwice nearOverflow) ∧
    (∀ t ∈ promptCalls nearOverflow, UnderLoad 5 nearOverflow 10 t) ∧
    (∀ t ∈ promptCalls nearOverflow, ∀ ratio,
      (t.event.input promptSpec 5 t.before).Measured .exact ratio →
        (t.before.desired 5 : Rat) * ratio < 2 ^ 31) ∧
    ({} : Autoscaler).desired 5 = 5 ∧ promptOnce.desired 5 = 6 ∧
    (promptTwice nearOverflow).desired 5 = 5 := by
  refine ⟨promptCalls_run _, promptCalls_load _, ?_, rfl, promptOnce_desired, by decide +kernel⟩
  intro t ht ratio hratio
  have hproduct := promptCalls_product (by decide +kernel) ht hratio
  exact hproduct.trans_lt (by decide +kernel)

end KahunaOperator
