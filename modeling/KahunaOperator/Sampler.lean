/-
# `KahunaOperator.Sampler` — every rate is the rate between two readings

`observeSample` keeps one baseline and one rate per pod UID, and each reading
meets one of four cases:

    first       no baseline                          becomes the baseline, no rate
    backwards   below it in total, or not later      becomes the baseline, no rate
    soon        less than ten seconds later          answers with the rate kept
    accepted    otherwise                            the rate since the baseline, which
                                                     it replaces

`reported_rate_true` is about every sequence of readings on one map that is empty
at first.  A rate that is answered was measured between two readings of the same
pod, ten seconds apart at least, with no backwards reading of that pod since the
first of them.

The elapsed time is an `int64` of milliseconds and then of nanoseconds.  For
clocks less than 2^43 apart neither wraps (`observeSample_observed`).  Totals and
rates are exact rationals here.
-/
import KahunaOperator.Autoscaler

namespace KahunaOperator

open Lib (Rounding)

/-! ## The map of samples -/

theorem Samples.lookup_set_self (samples : Samples) (uid : String) (s : PodSample) :
    List.lookup uid (samples.set uid s) = some s :=
  List.lookup_cons_self

theorem lookup_filter_ne {samples : Samples} {uid other : String} (h : other ≠ uid) :
    List.lookup other (samples.filter (·.1 != uid)) = List.lookup other samples := by
  induction samples with
  | nil => rfl
  | cons x rest ih =>
      by_cases hx : x.1 = uid
      · have hother : (other == x.1) = false := by
          rw [hx, beq_eq_false_iff_ne]
          exact h
        rw [List.filter_cons_of_neg (by simp [hx]), ih, List.lookup_cons, hother]
      · rw [List.filter_cons_of_pos (by simp [hx]), List.lookup_cons, List.lookup_cons, ih]

theorem Samples.lookup_set_ne {samples : Samples} {uid other : String} (s : PodSample)
    (h : other ≠ uid) : List.lookup other (samples.set uid s) = List.lookup other samples := by
  have hother : (other == uid) = false := beq_eq_false_iff_ne.mpr h
  rw [Samples.set, List.lookup_cons, hother]
  exact lookup_filter_ne h

/-! ## One reading -/

structure Reading where
  uid : String
  total : Rat
  monotonicMs : Int
deriving DecidableEq, Repr

/-- The four cases of a reading. -/
inductive Sampled (samples : Samples) (x : Reading) : Option Rat → Samples → Prop
  | first : List.lookup x.uid samples = none →
      Sampled samples x none
        (samples.set x.uid { writesTotal := x.total, monotonicMs := x.monotonicMs })
  | backwards {s : PodSample} : List.lookup x.uid samples = some s →
      (x.total < s.writesTotal ∨ x.monotonicMs ≤ s.monotonicMs) →
      Sampled samples x none
        (samples.set x.uid { writesTotal := x.total, monotonicMs := x.monotonicMs })
  | soon {s : PodSample} : List.lookup x.uid samples = some s → s.writesTotal ≤ x.total →
      s.monotonicMs < x.monotonicMs → x.monotonicMs - s.monotonicMs < 10000 →
      Sampled samples x s.rate samples
  | accepted {s : PodSample} {r : Rat} : List.lookup x.uid samples = some s →
      s.writesTotal ≤ x.total → 10000 ≤ x.monotonicMs - s.monotonicMs →
      r = (x.total - s.writesTotal) * 1000 / ((x.monotonicMs - s.monotonicMs : Int) : Rat) →
      Sampled samples x (some r)
        (samples.set x.uid
          { writesTotal := x.total, monotonicMs := x.monotonicMs, rate := some r })

/-- Less than 2^43 milliseconds after the baseline nothing wraps. -/
theorem observeSample_observed {samples : Samples} {x : Reading}
    (hnear : ∀ prev, List.lookup x.uid samples = some prev →
      x.monotonicMs - prev.monotonicMs < 2 ^ 43) :
    Sampled samples x (observeSample .exact samples x.uid x.total x.monotonicMs).1
      (observeSample .exact samples x.uid x.total x.monotonicMs).2 := by
  unfold observeSample
  cases hprev : List.lookup x.uid samples with
  | none => exact .first hprev
  | some s =>
      simp only
      split
      · next hback => exact .backwards hprev hback
      · next hforward =>
          obtain ⟨htotal, hclock⟩ := not_or.mp hforward
          have hclose := hnear s hprev
          have hinterval : (minSampleInterval : Int) = 10000000000 := by decide
          rw [int64_of_bounds (n := x.monotonicMs - s.monotonicMs) (by omega) (by omega),
            int64_of_bounds (by omega) (by omega), hinterval]
          split
          · next hsoon => exact .soon hprev (not_lt.mp htotal) (by omega) (by omega)
          · next hlong =>
              refine .accepted hprev (not_lt.mp htotal) (by omega) ?_
              simp only [Rounding.exact_div, Rounding.exact_sub, Rounding.exact_round]
              rw [div_div_eq_mul_div]

/-! ## A sequence of readings -/

def Reading.observe (x : Reading) (samples : Samples) : Option Rat × Samples :=
  observeSample .exact samples x.uid x.total x.monotonicMs

section Own
variable {s₁ s₂ : Samples} {x : Reading}

/-- A reading depends on the map through its own pod's sample. -/
theorem Reading.observe_congr (h : List.lookup x.uid s₁ = List.lookup x.uid s₂) :
    (x.observe s₁).1 = (x.observe s₂).1 ∧
      List.lookup x.uid (x.observe s₁).2 = List.lookup x.uid (x.observe s₂).2 := by
  simp only [Reading.observe, observeSample, h]
  cases List.lookup x.uid s₂ with
  | none => exact ⟨rfl, by rw [Samples.lookup_set_self, Samples.lookup_set_self]⟩
  | some s =>
      by_cases hback : x.total < s.writesTotal ∨ x.monotonicMs ≤ s.monotonicMs
      · simp only [hback, if_true, Samples.lookup_set_self, and_self]
      · by_cases hsoon :
            int64 (int64 (x.monotonicMs - s.monotonicMs) * 1000000) < minSampleInterval
        · simp only [hback, hsoon, if_true, if_false, h, and_self]
        · simp only [hback, hsoon, if_false, Samples.lookup_set_self, and_self]

theorem Reading.observe_lookup_ne {uid : String} (hne : uid ≠ x.uid) :
    List.lookup uid (x.observe s₁).2 = List.lookup uid s₁ := by
  simp only [Reading.observe, observeSample]
  split
  · exact Samples.lookup_set_ne _ hne
  · split
    · exact Samples.lookup_set_ne _ hne
    · split
      · rfl
      · exact Samples.lookup_set_ne _ hne

end Own

def samplesAfter (h : List Reading) : Samples :=
  h.foldl (fun samples x => (x.observe samples).2) []

/-- What the reading `x` after `h` is answered with. -/
def reportedRate (h : List Reading) (x : Reading) : Option Rat :=
  (x.observe (samplesAfter h)).1

theorem samplesAfter_concat (h : List Reading) (x : Reading) :
    samplesAfter (h ++ [x]) = (x.observe (samplesAfter h)).2 := by
  simp only [samplesAfter, List.foldl_append, List.foldl_cons, List.foldl_nil]

/-- Lower in total than the baseline `x` finds, or not later. -/
def Backwards (h : List Reading) (x : Reading) : Prop :=
  ∃ s, List.lookup x.uid (samplesAfter h) = some s ∧
    (x.total < s.writesTotal ∨ x.monotonicMs ≤ s.monotonicMs)

/-- None of the pod's readings in `later`, which follow `before`, is backwards. -/
def Steady (uid : String) (before later : List Reading) : Prop :=
  ∀ m₁ x m₂, later = m₁ ++ x :: m₂ → x.uid = uid → ¬ Backwards (before ++ m₁) x

def ClocksNear (h : List Reading) : Prop :=
  ∀ x ∈ h, ∀ y ∈ h, x.monotonicMs - y.monotonicMs < 2 ^ 43

/-- `r` is the rate between two readings of the pod at least ten seconds apart, and
none of its readings since the first of them is backwards. -/
def TrueRate (uid : String) (h : List Reading) (r : Rat) : Prop :=
  ∃ l₁ a l₂ b l₃, h = l₁ ++ a :: (l₂ ++ b :: l₃) ∧ a.uid = uid ∧ b.uid = uid ∧
    10000 ≤ b.monotonicMs - a.monotonicMs ∧
    r = (b.total - a.total) * 1000 / ((b.monotonicMs - a.monotonicMs : Int) : Rat) ∧ 0 ≤ r ∧
    Steady uid (l₁ ++ [a]) (l₂ ++ b :: l₃)

/-- `s` is a reading of the pod, and none since is backwards. -/
def Baseline (uid : String) (h : List Reading) (s : PodSample) : Prop :=
  ∃ l₁ a l₂, h = l₁ ++ a :: l₂ ∧ a.uid = uid ∧ s.writesTotal = a.total ∧
    s.monotonicMs = a.monotonicMs ∧ Steady uid (l₁ ++ [a]) l₂

/-! ### One more reading -/

section Concat
variable {uid : String} {h before later : List Reading} {x : Reading}

theorem steady_nil : Steady uid before [] := by
  intro m₁ y m₂ hsplit
  exact absurd hsplit (List.append_ne_nil_of_right_ne_nil _ (List.cons_ne_nil _ _)).symm

theorem Steady.concat (hsteady : Steady uid before later)
    (hx : x.uid = uid → ¬ Backwards (before ++ later) x) :
    Steady uid before (later ++ [x]) := by
  intro m₁ y m₂ hsplit hy
  rcases List.eq_nil_or_concat m₂ with rfl | ⟨m, z, rfl⟩
  · obtain ⟨rfl, hhead⟩ := List.append_inj' hsplit rfl
    cases hhead
    exact hx hy
  · rw [List.concat_eq_append, ← List.cons_append, ← List.append_assoc] at hsplit
    exact hsteady m₁ y m (List.append_inj' hsplit rfl).1 hy

theorem Baseline.concat {s : PodSample} (hbase : Baseline uid h s)
    (hx : x.uid = uid → ¬ Backwards h x) : Baseline uid (h ++ [x]) s := by
  obtain ⟨l₁, a, l₂, rfl, ha, htotal, hclock, hsteady⟩ := hbase
  refine ⟨l₁, a, l₂ ++ [x], by simp, ha, htotal, hclock, hsteady.concat ?_⟩
  simpa using hx

theorem TrueRate.concat {r : Rat} (hrate : TrueRate uid h r)
    (hx : x.uid = uid → ¬ Backwards h x) : TrueRate uid (h ++ [x]) r := by
  obtain ⟨l₁, a, l₂, b, l₃, rfl, ha, hb, hapart, hr, hpos, hsteady⟩ := hrate
  refine ⟨l₁, a, l₂, b, l₃ ++ [x], by simp, ha, hb, hapart, hr, hpos, ?_⟩
  have hlater := hsteady.concat (x := x) (by simpa using hx)
  simpa using hlater

theorem baseline_last {s : PodSample} (htotal : s.writesTotal = x.total)
    (hclock : s.monotonicMs = x.monotonicMs) : Baseline x.uid (h ++ [x]) s :=
  ⟨h, x, [], rfl, rfl, htotal, hclock, steady_nil⟩

theorem Baseline.rate {s : PodSample} {r : Rat} (hbase : Baseline x.uid h s)
    (htotal : s.writesTotal ≤ x.total) (hapart : 10000 ≤ x.monotonicMs - s.monotonicMs)
    (hr : r = (x.total - s.writesTotal) * 1000 / ((x.monotonicMs - s.monotonicMs : Int) : Rat))
    (hx : ¬ Backwards h x) : TrueRate x.uid (h ++ [x]) r := by
  obtain ⟨l₁, a, l₂, rfl, ha, hstotal, hsclock, hsteady⟩ := hbase
  rw [hstotal, hsclock] at hr
  rw [hsclock] at hapart
  rw [hstotal] at htotal
  have hnonneg : 0 ≤ r := by
    have helapsed : (0 : Rat) ≤ ((x.monotonicMs - a.monotonicMs : Int) : Rat) :=
      Int.cast_nonneg (by omega)
    rw [hr]
    exact div_nonneg (mul_nonneg (sub_nonneg.mpr htotal) (by norm_num)) helapsed
  refine ⟨l₁, a, l₂, x, [], by simp, ha, rfl, hapart, hr, hnonneg, hsteady.concat ?_⟩
  intro _
  simpa using hx

end Concat

/-! ### What the map holds -/

def SamplesTrue (h : List Reading) : Prop :=
  ∀ uid s, List.lookup uid (samplesAfter h) = some s →
    Baseline uid h s ∧ ∀ r, s.rate = some r → TrueRate uid h r

theorem ClocksNear.init {h : List Reading} {x : Reading} (hnear : ClocksNear (h ++ [x])) :
    ClocksNear h := by
  intro y hy z hz
  exact hnear y (List.mem_append_left _ hy) z (List.mem_append_left _ hz)

theorem SamplesTrue.observed {h : List Reading} {x : Reading} (htrue : SamplesTrue h)
    (hnear : ClocksNear (h ++ [x])) :
    Sampled (samplesAfter h) x (reportedRate h x) (samplesAfter (h ++ [x])) := by
  have hclock : ∀ prev, List.lookup x.uid (samplesAfter h) = some prev →
      x.monotonicMs - prev.monotonicMs < 2 ^ 43 := by
    intro prev hprev
    obtain ⟨l₁, a, l₂, rfl, _, _, hsclock, _⟩ := (htrue _ _ hprev).1
    rw [hsclock]
    exact hnear x (by simp) a (by simp)
  rw [samplesAfter_concat, reportedRate, Reading.observe]
  exact observeSample_observed hclock

theorem not_backwards {h : List Reading} {x : Reading} {s : PodSample}
    (hs : List.lookup x.uid (samplesAfter h) = some s) (htotal : s.writesTotal ≤ x.total)
    (hclock : s.monotonicMs < x.monotonicMs) : ¬ Backwards h x := by
  rintro ⟨s', hs', hback⟩
  cases hs.symm.trans hs'
  rcases hback with hlower | hearlier
  · exact absurd htotal (not_le.mpr hlower)
  · omega

section Step
variable {h : List Reading} {x : Reading} {out : Option Rat} {after : Samples}

/-- The step lemma for the answer, by the four cases of a reading. -/
theorem Sampled.rate_true (hobs : Sampled (samplesAfter h) x out after) (htrue : SamplesTrue h)
    {r : Rat} (hr : out = some r) : TrueRate x.uid (h ++ [x]) r := by
  cases hobs with
  | first _ => cases hr
  | backwards _ _ => cases hr
  | soon hs htotal hclock _ =>
      have hforward := not_backwards hs htotal hclock
      exact ((htrue _ _ hs).2 r hr).concat fun _ => hforward
  | accepted hs htotal hapart hrate =>
      cases hr
      exact (htrue _ _ hs).1.rate htotal hapart hrate (not_backwards hs htotal (by omega))

theorem Sampled.backwards_none (hobs : Sampled (samplesAfter h) x out after)
    (hback : Backwards h x) : out = none := by
  cases hobs with
  | first _ => rfl
  | backwards _ _ => rfl
  | soon hs htotal hclock _ => exact absurd hback (not_backwards hs htotal hclock)
  | accepted hs htotal hapart _ => exact absurd hback (not_backwards hs htotal (by omega))

theorem Sampled.sample_true (hobs : Sampled (samplesAfter h) x out after)
    (htrue : SamplesTrue h) {s : PodSample} (hs : List.lookup x.uid after = some s) :
    Baseline x.uid (h ++ [x]) s ∧ ∀ r, s.rate = some r → TrueRate x.uid (h ++ [x]) r := by
  cases hobs with
  | first _ =>
      rw [Samples.lookup_set_self] at hs
      cases hs
      exact ⟨baseline_last rfl rfl, fun r hr => by cases hr⟩
  | backwards _ _ =>
      rw [Samples.lookup_set_self] at hs
      cases hs
      exact ⟨baseline_last rfl rfl, fun r hr => by cases hr⟩
  | soon hold htotal hclock _ =>
      cases hold.symm.trans hs
      have hforward := not_backwards hold htotal hclock
      obtain ⟨hbase, hrates⟩ := htrue _ _ hold
      refine ⟨hbase.concat fun _ => hforward, ?_⟩
      intro r hr
      exact (hrates r hr).concat fun _ => hforward
  | accepted hold htotal hapart hrate =>
      rw [Samples.lookup_set_self] at hs
      cases hs
      refine ⟨baseline_last rfl rfl, ?_⟩
      intro r hr
      cases hr
      exact (htrue _ _ hold).1.rate htotal hapart hrate (not_backwards hold htotal (by omega))

end Step

/-- The step lemma: one more reading keeps every sample true. -/
theorem SamplesTrue.step {h : List Reading} {x : Reading} (htrue : SamplesTrue h)
    (hnear : ClocksNear (h ++ [x])) : SamplesTrue (h ++ [x]) := by
  have hobs := htrue.observed hnear
  intro uid s hs
  by_cases huid : uid = x.uid
  · subst huid
    exact hobs.sample_true htrue hs
  · rw [samplesAfter_concat, Reading.observe_lookup_ne huid] at hs
    obtain ⟨hbase, hrates⟩ := htrue uid s hs
    refine ⟨hbase.concat fun hx => absurd hx.symm huid, ?_⟩
    intro r hr
    exact (hrates r hr).concat fun hx => absurd hx.symm huid

/-- The run lemma, from the empty map. -/
theorem samplesTrue (h : List Reading) (hnear : ClocksNear h) : SamplesTrue h := by
  induction h using List.reverseRecOn with
  | nil =>
      intro uid s hs
      cases hs
  | append_singleton h x ih => exact (ih hnear.init).step hnear

/-! ### Readings of other pods -/

/-- The sample of a pod is made of its own readings. -/
theorem lookup_own (uid : String) (h : List Reading) :
    List.lookup uid (samplesAfter h) =
      List.lookup uid (samplesAfter (h.filter (·.uid == uid))) := by
  induction h using List.reverseRecOn with
  | nil => rfl
  | append_singleton h x ih =>
      rw [List.filter_append, samplesAfter_concat]
      by_cases hx : x.uid = uid
      · subst hx
        rw [List.filter_cons_of_pos (by simp), List.filter_nil, samplesAfter_concat]
        exact (Reading.observe_congr ih).2
      · rw [List.filter_cons_of_neg (by simpa using hx), List.filter_nil, List.append_nil,
          Reading.observe_lookup_ne (Ne.symm hx)]
        exact ih

theorem reportedRate_own (h : List Reading) (x : Reading) :
    reportedRate h x = reportedRate (h.filter (·.uid == x.uid)) x :=
  (Reading.observe_congr (lookup_own x.uid h)).1

/-- Over every sequence of readings: a rate that is answered is the rate between two
readings of its pod since which none was backwards; readings of other pods do not
enter; and a first or a backwards reading is answered with none. -/
theorem reported_rate_true {h : List Reading} {x : Reading} (hnear : ClocksNear (h ++ [x])) :
    (∀ r, reportedRate h x = some r → TrueRate x.uid (h ++ [x]) r) ∧
      reportedRate h x = reportedRate (h.filter (·.uid == x.uid)) x ∧
      ((∀ y ∈ h, y.uid ≠ x.uid) → reportedRate h x = none) ∧
      (Backwards h x → reportedRate h x = none) := by
  have htrue := samplesTrue h hnear.init
  have hobs := htrue.observed hnear
  refine ⟨?_, reportedRate_own h x, ?_, ?_⟩
  · intro r hr
    exact hobs.rate_true htrue hr
  · intro hfirst
    have hnone : h.filter (·.uid == x.uid) = [] := by
      rw [List.filter_eq_nil_iff]
      intro y hy
      simpa using hfirst y hy
    rw [reportedRate_own, hnone]
    rfl
  · intro hback
    exact hobs.backwards_none hback

/-- Two readings of one pod twenty seconds apart, with one of another between them,
and a third that comes too soon for a rate of its own. -/
def twoPods : List Reading :=
  [{ uid := "a", total := 0, monotonicMs := 0 }, { uid := "b", total := 7, monotonicMs := 100 },
    { uid := "a", total := 40, monotonicMs := 20000 }]

theorem two_pods_rate :
    reportedRate twoPods { uid := "a", total := 50, monotonicMs := 25000 } = some 2 ∧
      TrueRate "a" (twoPods ++ [{ uid := "a", total := 50, monotonicMs := 25000 }]) 2 := by
  have hrate : reportedRate twoPods { uid := "a", total := 50, monotonicMs := 25000 } = some 2 := by
    decide +kernel
  have hnear : ClocksNear (twoPods ++ [{ uid := "a", total := 50, monotonicMs := 25000 }]) := by
    unfold ClocksNear
    decide
  exact ⟨hrate, (reported_rate_true hnear).1 2 hrate⟩

end KahunaOperator
