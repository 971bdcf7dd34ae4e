/-
# `KahunaOperator.NoPlacement` — the autoscaler on every answer about placement

A server without the placement endpoint is reported to the autoscaler as no
placement and no error.  The comment in `reconcileAutoscaling` says that such a
server "cannot autoscale at all", but its case is not told apart: an absent
placement has nothing to settle, so the last step counts as complete, and
`growthCeiling` then reads the partitions of nothing.

    placement, no error        the decision, with the placement's ceiling
    error                      no traffic step
    neither, roster not there  no traffic step
    neither, roster there      a panic

`reconcileAutoscalingChecked` is the step with every division checked.  A
divisor is never zero, so it is the step itself (`reconcileAutoscalingChecked_eq`),
and the step is safe in every case but the last (`autoscaling_safe_iff`).
-/
import KahunaOperator.OneSize

namespace KahunaOperator

open Lib (Rounding)

/-! ## The step with its divisions checked -/

inductive Fault where
  | panic (p : Panic)
  | divideByZero
deriving DecidableEq, Repr

section Divided
variable {α : Type} [Zero α] [Div α] [DecidableEq α]

def divided (a b : α) : Except Fault α :=
  if b = 0 then throw .divideByZero else pure (a / b)

theorem divided_eq (a : α) {b : α} (h : b ≠ 0) : divided a b = pure (a / b) := if_neg h

end Divided

def dividedFloat (f : Rounding) (a b : Rat) : Except Fault Rat := f.round <$> divided a b

theorem dividedFloat_eq (f : Rounding) (a : Rat) {b : Rat} (h : b ≠ 0) :
    dividedFloat f a b = pure (f.div a b) := by
  rw [dividedFloat, divided_eq a h]
  rfl

def observeSampleChecked (f : Rounding) (samples : Samples) (uid : String) (total : Rat)
    (monotonicMs : Int) : Except Fault (Option Rat × Samples) :=
  match samples.lookup uid with
  | none => pure (none, samples.set uid { writesTotal := total, monotonicMs := monotonicMs })
  | some prev =>
      if total < prev.writesTotal ∨ monotonicMs ≤ prev.monotonicMs then
        pure (none, samples.set uid { writesTotal := total, monotonicMs := monotonicMs })
      else if int64 (int64 (monotonicMs - prev.monotonicMs) * 1000000) < minSampleInterval then
        pure (prev.rate, samples)
      else do
        let elapsed ← dividedFloat f (f.round (int64 (monotonicMs - prev.monotonicMs))) 1000
        let rate ← dividedFloat f (f.sub total prev.writesTotal) elapsed
        pure (some rate,
          samples.set uid { writesTotal := total, monotonicMs := monotonicMs, rate := some rate })

def Tally.addChecked (f : Rounding) (t : Tally) (reading : Pod × Metrics) :
    Except Fault Tally := do
  let o ← observeSampleChecked f t.samples reading.1.uid
    (reading.2.counterTotal f metricWritesAdmitted) reading.2.monotonicMs
  pure
    { writes := f.add t.writes (o.1.getD 0)
      queue := f.add t.queue (reading.2.gaugeSum f metricClientQueueDepth)
      writesKnown := t.writesKnown && o.1.isSome
      samples := o.2 }

def measureChecked (f : Rounding) (cluster : KahunaCluster) (kahuna : Client) (samples : Samples)
    (pods : List Pod) : Except Fault (Except String TrafficSignal × Samples) :=
  let ready := pods.filter fun p => p.podIP != "" && !p.deleting && podIsReady p
  if ready.isEmpty then pure (.error "no ready pod to read metrics from", samples)
  else
    match readMetrics cluster kahuna ready with
    | .error e => pure (.error e, samples)
    | .ok readings => do
        let t ← readings.foldlM (Tally.addChecked f) { samples := samples }
        let queue ← dividedFloat f t.queue ready.length
        let writes ←
          if t.writesKnown then some <$> dividedFloat f t.writes ready.length else pure none
        pure (.ok { writesPerNode := writes, queuePerNode := some queue },
          t.samples.filter fun s => ready.any (·.uid == s.1))

def placementConvergedChecked (cluster : KahunaCluster) (p : Option Placement) (current : Nat)
    (now : Time) (settleBy : Option Time) : Except Fault (Bool × String) :=
  let settled := placementSettled cluster p current
  if settled.reason ≠ "" then pure (false, settled.reason)
  else do
    let share ← divided settled.total current
    if share = 0 ∨ (∃ deadline ∈ settleBy, deadline ≤ now) then pure (true, "")
    else
      let minShare := max 1 (share / 2)
      match (List.range current).find? fun i =>
          decide (settled.hosted.count (raftEndpoint cluster i) < minShare) with
      | some i =>
          pure (false, podName cluster i ++ " holds " ++
            toString (settled.hosted.count (raftEndpoint cluster i)) ++ " of the " ++
            toString share ++ " data replicas it should carry")
      | none => pure (true, "")

def autoscaleConvergedChecked (env : PassEnv) (cluster : KahunaCluster) (bootstrapped : Bool)
    (membership : Option Membership) (placement : Option Placement)
    (placementErr : Option KahunaError) : Except Fault (Bool × String) :=
  if !rosterConverged env cluster bootstrapped membership then pure (false, "")
  else
    match placementErr with
    | some e => pure (false, "replica placement could not be read: " ++ e.message)
    | none =>
        let settleBy := cluster.status.autoscaling.bind fun as =>
          as.lastScaleTime.map (· + placementSettleTimeout)
        placementConvergedChecked cluster placement (desiredReplicas cluster) env.now settleBy

def autoscaleReadingsChecked (env : PassEnv) (cluster : KahunaCluster)
    (placement : Option Placement) (converged : Bool) :
    Except Fault (Except String TrafficSignal × Nat × String × Samples) :=
  if converged then do
    let m ← measureChecked env.float.toRounding cluster env.kahuna env.samples
      (autoscaleMembers env (desiredReplicas cluster))
    let (ceiling, reason) ← (growthCeiling placement).mapError .panic
    pure (m.1, ceiling, reason, m.2)
  else pure (.ok {}, 0, "", env.samples)

def AutoscaleInput.ratiosChecked (f : Rounding) (i : AutoscaleInput) : Except Fault (List Rat) :=
  (i.configured.filterMap fun x => x.2.map fun v => (v, (x.1 : Rat))).mapM
    fun x => dividedFloat f x.1 x.2

def decideAutoscaleChecked (c : Float64) (i : AutoscaleInput) :
    Except Fault AutoscaleDecision :=
  if !i.converged then pure (holdDecision i.start "")
  else do
    match ← i.ratiosChecked c.toRounding with
    | [] => pure (holdDecision i.start "no traffic signal is available yet")
    | r :: rs => pure (decideAtRatio c i (rs.foldl max r))

/-- The step: convergence, readings and decision with their divisions checked; what
it makes of them divides nothing. -/
def reconcileAutoscalingChecked (env : PassEnv) (cluster : KahunaCluster) (bootstrapped : Bool)
    (membership : Option Membership) (placement : Option Placement)
    (placementErr : Option KahunaError) : Except Fault (KahunaCluster × Samples) := do
  if let some spec := cluster.spec.autoscaling then
    let conv ← autoscaleConvergedChecked env cluster bootstrapped membership placement
      placementErr
    let (measured, ceiling, ceilingReason, _) ← autoscaleReadingsChecked env cluster placement
      conv.1
    let _ ← decideAutoscaleChecked env.float
      { spec := spec
        prev := cluster.status.autoscaling
        initial := initialAutoscaledReplicas cluster spec
        signal := measured.toOption.getD {}
        converged := conv.1
        growthCeiling := ceiling
        ceilingReason := ceilingReason
        now := env.now }
  (reconcileAutoscaling env cluster bootstrapped membership placement placementErr).mapError .panic

/-! ## No divisor is zero -/

/-- A time of ten seconds, wrapped or not, is a second at least in size, and is not
rounded to zero. -/
theorem elapsed_ne_zero (f : Rounding) {ms : Int}
    (h : ¬ int64 (ms * 1000000) < minSampleInterval) : f.div (f.round ms) 1000 ≠ 0 := by
  have hinterval : (minSampleInterval : Int) = 10000000000 := by decide
  have hms : 1000 ≤ |ms| := by
    by_contra hshort
    obtain ⟨hlow, hhigh⟩ := abs_lt.mp (not_le.mp hshort)
    rw [int64_of_bounds (by omega) (by omega), hinterval] at h
    omega
  have hround : ((1000 : Int) : Rat) ≤ |f.round ms| :=
    Rounding.le_abs_round (by decide) (by exact_mod_cast hms)
  have hdiv : ((1 : Int) : Rat) ≤ |f.div (f.round ms) 1000| := by
    refine Rounding.le_abs_round (by decide) ?_
    rw [abs_div, le_div_iff₀ (by norm_num), abs_of_nonneg (by norm_num : (0 : Rat) ≤ 1000)]
    simpa using hround
  rw [← abs_pos]
  exact lt_of_lt_of_le (by norm_num) hdiv

/-- A rate is computed only over a time that has passed. -/
theorem observeSampleChecked_eq (f : Rounding) (samples : Samples) (uid : String) (total : Rat)
    (monotonicMs : Int) :
    observeSampleChecked f samples uid total monotonicMs =
      pure (observeSample f samples uid total monotonicMs) := by
  simp only [observeSampleChecked, observeSample]
  cases samples.lookup uid with
  | none => rfl
  | some prev =>
      simp only
      split
      · rfl
      · split
        · rfl
        · next hlong =>
            rw [dividedFloat_eq f _ (by norm_num), pure_bind,
              dividedFloat_eq f _ (elapsed_ne_zero f hlong), pure_bind]

theorem tally_addChecked_eq (f : Rounding) (t : Tally) (reading : Pod × Metrics) :
    t.addChecked f reading = pure (t.add f reading) := by
  simp only [Tally.addChecked, observeSampleChecked_eq, pure_bind]
  rfl

theorem measureChecked_eq (f : Rounding) (cluster : KahunaCluster) (kahuna : Client)
    (samples : Samples) (pods : List Pod) :
    measureChecked f cluster kahuna samples pods =
      pure (measure f cluster kahuna samples pods) := by
  simp only [measureChecked, measure]
  generalize pods.filter (fun p => p.podIP != "" && !p.deleting && podIsReady p) = ready
  split
  · rfl
  · next hready =>
      have hpos : (ready.length : Rat) ≠ 0 := by
        rw [Nat.cast_ne_zero]
        intro hzero
        exact hready (List.isEmpty_iff.mpr (List.eq_nil_of_length_eq_zero hzero))
      cases readMetrics cluster kahuna ready with
      | error e => rfl
      | ok readings =>
          have hfold : readings.foldlM (Tally.addChecked f) { samples := samples } =
              pure (readings.foldl (Tally.add f) { samples := samples }) := by
            rw [← List.foldlM_pure]
            exact congrArg (readings.foldlM · _) (funext₂ (tally_addChecked_eq f))
          simp only [hfold, pure_bind, dividedFloat_eq f _ hpos, map_pure]
          split <;> rfl

theorem placementConvergedChecked_eq (cluster : KahunaCluster) (p : Option Placement)
    {current : Nat} (h : 0 < current) (now : Time) (settleBy : Option Time) :
    placementConvergedChecked cluster p current now settleBy =
      pure (placementConverged cluster p current now settleBy) := by
  simp only [placementConvergedChecked, placementConverged]
  split
  · rfl
  · rw [divided_eq _ (Nat.ne_of_gt h), pure_bind]
    split
    · rfl
    · generalize (List.range current).find? _ = found
      cases found with
      | some i => rfl
      | none => rfl

theorem autoscaleConvergedChecked_eq (env : PassEnv) {cluster : KahunaCluster}
    (h : 0 < desiredReplicas cluster) (bootstrapped : Bool) (membership : Option Membership)
    (placement : Option Placement) (placementErr : Option KahunaError) :
    autoscaleConvergedChecked env cluster bootstrapped membership placement placementErr =
      pure (autoscaleConverged env cluster bootstrapped membership placement placementErr) := by
  simp only [autoscaleConvergedChecked, autoscaleConverged]
  split
  · rfl
  · cases placementErr with
    | some e => rfl
    | none => exact placementConvergedChecked_eq cluster placement h _ _

/-- Of the readings, only the ceiling can fail. -/
theorem autoscaleReadingsChecked_eq (env : PassEnv) (cluster : KahunaCluster)
    (placement : Option Placement) (converged : Bool) :
    autoscaleReadingsChecked env cluster placement converged =
      (autoscaleReadings env cluster placement converged).mapError .panic := by
  simp only [autoscaleReadingsChecked, autoscaleReadings]
  split
  · rw [measureChecked_eq, pure_bind]
    cases growthCeiling placement with
    | error p => rfl
    | ok c => rfl
  · rfl

/-- The targets of a spec are positive, as the CRD's minimum of one has them. -/
def AutoscalingSpec.PositiveTargets (as : AutoscalingSpec) : Prop :=
  (∀ t ∈ as.targetWritesPerSecond, 0 < t) ∧ ∀ t ∈ as.targetQueueDepth, 0 < t

theorem AutoscalingSpec.PositiveTargets.all {cluster : KahunaCluster} {as : AutoscalingSpec}
    (h : as.PositiveTargets) (has : cluster.spec.autoscaling = some as) :
    ∀ as', cluster.spec.autoscaling = some as' → as'.PositiveTargets := by
  intro as' has'
  cases has.symm.trans has'
  exact h

theorem AutoscaleInput.configured_pos {i : AutoscaleInput} (h : i.spec.PositiveTargets)
    {x : Nat × Option Rat} (hx : x ∈ i.configured) : 0 < x.1 := by
  simp only [AutoscaleInput.configured, List.mem_append, Option.mem_toList, Option.map_eq_some_iff]
    at hx
  rcases hx with ⟨t, ht, rfl⟩ | ⟨t, ht, rfl⟩
  · exact h.1 t ht
  · exact h.2 t ht

theorem AutoscaleInput.ratiosChecked_eq (f : Rounding) {i : AutoscaleInput}
    (h : i.spec.PositiveTargets) : i.ratiosChecked f = pure (i.ratios f) := by
  have hpos : ∀ x ∈ i.configured, 0 < x.1 := fun x hx => i.configured_pos h hx
  simp only [AutoscaleInput.ratiosChecked, AutoscaleInput.ratios]
  generalize i.configured = configured at hpos
  induction configured with
  | nil => rfl
  | cons x rest ih =>
      have hrest := ih fun y hy => hpos y (List.mem_cons_of_mem _ hy)
      have htarget : (x.1 : Rat) ≠ 0 :=
        Nat.cast_ne_zero.mpr (Nat.ne_of_gt (hpos x (List.mem_cons_self ..)))
      cases hv : x.2 with
      | none => simpa only [List.filterMap_cons, hv, Option.map_none] using hrest
      | some v =>
          simp only [List.filterMap_cons, hv, Option.map_some, List.mapM_cons, hrest,
            dividedFloat_eq f v htarget, pure_bind]

theorem decideAutoscaleChecked_eq (c : Float64) {i : AutoscaleInput}
    (h : i.spec.PositiveTargets) :
    decideAutoscaleChecked c i = pure (decideAutoscale c i) := by
  simp only [decideAutoscaleChecked, decideAutoscale]
  split
  · rfl
  · rw [AutoscaleInput.ratiosChecked_eq _ h, pure_bind]
    cases i.ratios c.toRounding with
    | nil => rfl
    | cons r rs => rfl

/-- No division of the step is by zero. -/
theorem reconcileAutoscalingChecked_eq (env : PassEnv) {cluster : KahunaCluster}
    (hsize : 0 < desiredReplicas cluster)
    (htargets : ∀ as, cluster.spec.autoscaling = some as → as.PositiveTargets)
    (bootstrapped : Bool) (membership : Option Membership) (placement : Option Placement)
    (placementErr : Option KahunaError) :
    reconcileAutoscalingChecked env cluster bootstrapped membership placement placementErr =
      (reconcileAutoscaling env cluster bootstrapped membership placement placementErr).mapError
        .panic := by
  simp only [reconcileAutoscalingChecked]
  cases has : cluster.spec.autoscaling with
  | none => rfl
  | some as =>
      simp only [autoscaleConvergedChecked_eq env hsize, autoscaleReadingsChecked_eq, pure_bind]
      cases hread : autoscaleReadings env cluster placement
          (autoscaleConverged env cluster bootstrapped membership placement placementErr).1 with
      | error p =>
          simp only [reconcileAutoscaling, has, hread]
          rfl
      | ok readings =>
          have hok : (Except.ok readings).mapError Fault.panic = pure readings := rfl
          rw [hok, pure_bind, decideAutoscaleChecked_eq _ (htargets as has), pure_bind]

/-! ## When the step is safe -/

/-- The cluster is bootstrapped, its roster is exact, and as many of its pods are
ready, all at the size it is driven to. -/
structure AtDesiredSize (env : PassEnv) (cluster : KahunaCluster) (bootstrapped : Bool)
    (membership : Option Membership) : Prop where
  bootstrapped : bootstrapped = true
  roster : ∃ m, membership = some m ∧ ExactVoters cluster m (desiredReplicas cluster)
  ready : (autoscaleMembers env (desiredReplicas cluster)).countP
    (fun p => podIsReady p && !p.deleting) = desiredReplicas cluster

theorem rosterConverged_iff {env : PassEnv} {cluster : KahunaCluster} {bootstrapped : Bool}
    {membership : Option Membership} :
    rosterConverged env cluster bootstrapped membership = true ↔
      AtDesiredSize env cluster bootstrapped membership := by
  simp only [rosterConverged, Bool.and_eq_true, beq_iff_eq]
  constructor
  · rintro ⟨⟨hboot, hroster⟩, hready⟩
    refine ⟨hboot, ?_, hready⟩
    cases membership with
    | none => cases hroster
    | some m => exact ⟨m, rfl, rosterMatches_iff.mp hroster⟩
  · rintro ⟨hboot, ⟨m, rfl, hroster⟩, hready⟩
    exact ⟨⟨hboot, rosterMatches_iff.mpr hroster⟩, hready⟩

section Safe
variable {env : PassEnv} {cluster : KahunaCluster} {as : AutoscalingSpec} {bootstrapped : Bool}
  {membership : Option Membership} {placement : Option Placement}
  {placementErr : Option KahunaError}

/-- A step that counts as complete has its roster, and its placement was read. -/
theorem autoscaleConverged_read
    (h : (autoscaleConverged env cluster bootstrapped membership placement placementErr).1 = true) :
    AtDesiredSize env cluster bootstrapped membership ∧ placementErr = none := by
  simp only [autoscaleConverged] at h
  cases hroster : rosterConverged env cluster bootstrapped membership with
  | false =>
      rw [hroster] at h
      cases h
  | true =>
      refine ⟨rosterConverged_iff.mp hroster, ?_⟩
      cases placementErr with
      | none => rfl
      | some e =>
          rw [hroster] at h
          cases h

/-- An absent placement has nothing to settle and no share to carry. -/
theorem placementConverged_none (current : Nat) (now : Time) (settleBy : Option Time) :
    placementConverged cluster none current now settleBy = (true, "") := by
  simp [placementConverged, placementSettled]

theorem reconcileAutoscaling_panics (has : cluster.spec.autoscaling = some as)
    (hsize : AtDesiredSize env cluster bootstrapped membership) :
    reconcileAutoscaling env cluster bootstrapped membership none none =
      .error .nilDereference := by
  have hconverged : autoscaleConverged env cluster bootstrapped membership none none =
      (true, "") := by
    simp only [autoscaleConverged, rosterConverged_iff.mpr hsize, placementConverged_none]
    rfl
  simp only [reconcileAutoscaling, has, hconverged]
  rfl

/-- Otherwise the readings are there: a placement is read only when there is one. -/
theorem autoscaleReadings_present
    (h : ¬ (AtDesiredSize env cluster bootstrapped membership ∧ placement = none ∧
      placementErr = none)) :
    ∃ readings, autoscaleReadings env cluster placement
      (autoscaleConverged env cluster bootstrapped membership placement placementErr).1 =
        .ok readings := by
  cases hconverged :
      (autoscaleConverged env cluster bootstrapped membership placement placementErr).1 with
  | false => exact ⟨_, rfl⟩
  | true =>
      obtain ⟨hsize, herr⟩ := autoscaleConverged_read hconverged
      cases placement with
      | none => exact absurd ⟨hsize, rfl, herr⟩ h
      | some p =>
          simp only [autoscaleReadings, growthCeiling, if_true]
          split
          · next herror =>
              split at herror <;> cases herror
          · exact ⟨_, rfl⟩

/-- The step reads and divides without a fault, and without a placement it takes no
step of growth beyond the bounds' own. -/
def SafeStep (env : PassEnv) (cluster : KahunaCluster) (as : AutoscalingSpec)
    (bootstrapped : Bool) (membership : Option Membership) (placement : Option Placement)
    (placementErr : Option KahunaError) : Prop :=
  ∃ cl samples record,
    reconcileAutoscalingChecked env cluster bootstrapped membership placement placementErr =
      .ok (cl, samples) ∧
    cl.status.autoscaling = some record ∧
    (placement = none → record.desiredReplicas ≤
      min (max (desiredReplicas cluster) as.minReplicas) as.maxReplicas)

theorem reconcileAutoscaling_isOk (has : cluster.spec.autoscaling = some as)
    {readings : Except String TrafficSignal × Nat × String × Samples}
    (h : autoscaleReadings env cluster placement
      (autoscaleConverged env cluster bootstrapped membership placement placementErr).1 =
        .ok readings) :
    ∃ cl samples, reconcileAutoscaling env cluster bootstrapped membership placement placementErr =
      .ok (cl, samples) := by
  simp only [reconcileAutoscaling, has, h]
  exact ⟨_, _, rfl⟩

theorem not_safeStep_of_absent (has : cluster.spec.autoscaling = some as)
    (hsize : 0 < desiredReplicas cluster) (htargets : as.PositiveTargets)
    (h : AtDesiredSize env cluster bootstrapped membership) :
    ¬ SafeStep env cluster as bootstrapped membership none none := by
  rintro ⟨cl, samples, _, hok, _⟩
  rw [reconcileAutoscalingChecked_eq env hsize (htargets.all has),
    reconcileAutoscaling_panics has h] at hok
  cases hok

/-- For every answer about the placement, the step is safe exactly when it is not
the case that a cluster at its desired size has neither placement nor error. -/
theorem autoscaling_safe_iff (has : cluster.spec.autoscaling = some as)
    (hsize : 0 < desiredReplicas cluster) (htargets : as.PositiveTargets) :
    SafeStep env cluster as bootstrapped membership placement placementErr ↔
      ¬ (AtDesiredSize env cluster bootstrapped membership ∧ placement = none ∧
        placementErr = none) := by
  constructor
  · rintro hsafe ⟨hcomplete, rfl, rfl⟩
    exact not_safeStep_of_absent has hsize htargets hcomplete hsafe
  · intro hsafe
    obtain ⟨readings, hread⟩ := autoscaleReadings_present hsafe
    obtain ⟨cl, samples, hok⟩ := reconcileAutoscaling_isOk has hread
    obtain ⟨i, hi, hrecord⟩ := reconcileAutoscaling_input has hok
    refine ⟨cl, samples, _, ?_, hrecord, ?_⟩
    · rw [reconcileAutoscalingChecked_eq env hsize (htargets.all has), hok]
      rfl
    · rintro rfl
      -- Without a placement the last step does not count as complete.
      have hheld : i.converged = false := by
        rw [hi.converged, ← Bool.not_eq_true]
        intro hconverged
        obtain ⟨hcomplete, herr⟩ := autoscaleConverged_read hconverged
        exact hsafe ⟨hcomplete, rfl, herr⟩
      rw [decideAutoscale_not_converged hheld,
        start_desired_cluster has hi.spec hi.prev hi.initial]

end Safe

/-! ## With and without the endpoint -/

/-- Four ready nodes whose server answers about the placement, or does not have the
endpoint. -/
def placedEnv (placement : Option Placement) : PassEnv :=
  agreedEnv idleCluster 4 { idleAnswers 4 four_small with placement := placement }

theorem placedEnv_observed (placement : Option Placement) :
    observe (placedEnv placement) idleCluster =
      { membership := some (rosterOf idleCluster 4 four_small)
        placement := placement, placementErr := none } :=
  observe_agreedEnv idleCluster idleCluster 4 _ (by decide)

theorem placedEnv_size (placement : Option Placement) :
    AtDesiredSize (placedEnv placement) idleCluster true
      (some (rosterOf idleCluster 4 four_small)) := by
  refine ⟨rfl, ⟨_, rfl, exactVoters_rosterOf idleCluster 4 four_small⟩, ?_⟩
  show (autoscaleMembers (placedEnv none) 4).countP _ = 4
  decide +kernel

theorem idle_positiveTargets {as : AutoscalingSpec}
    (has : idleCluster.spec.autoscaling = some as) : as.PositiveTargets := by
  cases has
  refine ⟨?_, ?_⟩
  · rintro t ⟨⟩
  · rintro t ⟨⟩
    decide

/-- With the endpoint the step of the four nodes is safe. -/
theorem placed_step_safe :
    ∃ as, idleCluster.spec.autoscaling = some as ∧
      SafeStep (placedEnv (some { partitions := [] })) idleCluster as true
        (some (rosterOf idleCluster 4 four_small)) (some { partitions := [] }) none := by
  refine ⟨_, rfl, (autoscaling_safe_iff rfl (by decide) (idle_positiveTargets rfl)).mpr ?_⟩
  rintro ⟨_, habsent, _⟩
  cases habsent

/-- Without it, the pass is told of no placement and no error, and the step panics
on the first pass at the desired size. -/
theorem unsupported_placement_panics :
    ∃ as, idleCluster.spec.Accepted ∧ idleCluster.spec.autoscaling = some as ∧
      (∀ url, (placedEnv none).kahuna.placement url = .error .placementUnsupported) ∧
      observe (placedEnv none) idleCluster =
        { membership := some (rosterOf idleCluster 4 four_small)
          placement := none, placementErr := none } ∧
      reconcileAutoscaling (placedEnv none) idleCluster idleCluster.status.bootstrapped
        (some (rosterOf idleCluster 4 four_small)) none none = .error .nilDereference ∧
      ¬ SafeStep (placedEnv none) idleCluster as idleCluster.status.bootstrapped
        (some (rosterOf idleCluster 4 four_small)) none none := by
  have hsize := placedEnv_size none
  refine ⟨_, idleCluster_accepted, rfl, fun _ => rfl, placedEnv_observed none,
    reconcileAutoscaling_panics rfl hsize, ?_⟩
  exact not_safeStep_of_absent rfl (by decide) (idle_positiveTargets rfl) hsize

end KahunaOperator
