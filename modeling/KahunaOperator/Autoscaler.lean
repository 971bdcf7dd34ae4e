/-
# `KahunaOperator.Autoscaler` — from traffic to a desired size

`internal/controller/autoscaler.go`: the sampler that turns cumulative counters
into rates (`observeSample`, `measure`), the decision itself
(`decideAutoscale`), and the step of a pass that gathers its inputs and records
its result in the status (`reconcileAutoscaling`).

A `float64` is a rational and each operation on it is followed by a rounding, which
is a parameter.  So is the one conversion that can leave its range,
`int32(math.Ceil(…))`, which is implementation-defined in Go outside `int32`: it is
exact where the value fits and some `int32` elsewhere.  `Float64` is the two
together.  Without a rounding the ratio 11/10 lies inside a dead band of 10 %; as
doubles it does not, because 1.1 - 1 is above 0.1.

Of the decision, later modules use: where it starts (`start_desired`), the five
ways it can end (`decideAutoscale_decided`), that it moves by at most one from
its start and only towards the recommendation (`Decided.desired`), and that it
stays inside the bounds (`decideAutoscale_bounds`).
-/
import KahunaOperator.Plan

namespace KahunaOperator

open Lib (Rounding)

/-! ## Sampling -/

/-- The last counter reading of one pod; `rate` is `none` until two readings
exist, and again after a reset. -/
structure PodSample where
  writesTotal : Rat
  monotonicMs : Int
  rate : Option Rat := none
deriving DecidableEq, Repr

abbrev Samples := List (String × PodSample)

def Samples.set (samples : Samples) (uid : String) (s : PodSample) : Samples :=
  (uid, s) :: samples.filter (·.1 != uid)

def minSampleInterval : Time := seconds 10

def int64 (n : Int) : Int := n.bmod (2 ^ 64)

theorem int64_of_bounds {n : Int} (hlow : -(2 ^ 63) ≤ n) (hhigh : n < 2 ^ 63) : int64 n = n :=
  Int.bmod_eq_of_le (by omega) (by omega)

/-- Record a reading of one pod; the answer is its current write rate, when
known. -/
def observeSample (f : Rounding) (samples : Samples) (uid : String) (total : Rat)
    (monotonicMs : Int) : Option Rat × Samples :=
  match samples.lookup uid with
  | none => (none, samples.set uid { writesTotal := total, monotonicMs := monotonicMs })
  | some prev =>
      if total < prev.writesTotal ∨ monotonicMs ≤ prev.monotonicMs then
        (none, samples.set uid { writesTotal := total, monotonicMs := monotonicMs })
      else if int64 (int64 (monotonicMs - prev.monotonicMs) * 1000000) < minSampleInterval then
        (prev.rate, samples)
      else
        let elapsed := f.round (int64 (monotonicMs - prev.monotonicMs))
        let rate := f.div (f.sub total prev.writesTotal) (f.div elapsed 1000)
        (some rate,
          samples.set uid { writesTotal := total, monotonicMs := monotonicMs, rate := some rate })

/-- Averaged traffic; `none` is a signal not known on this pass. -/
structure TrafficSignal where
  writesPerNode : Option Rat := none
  queuePerNode : Option Rat := none
deriving DecidableEq, Repr

def metricWritesAdmitted : String := "kahuna.kv.write.admitted"

def metricClientQueueDepth : String := "raft.executor.client_queue_depth"

/-- The metrics of every pod, or the first failure. -/
def readMetrics (cluster : KahunaCluster) (kahuna : Client) :
    List Pod → Except String (List (Pod × Metrics))
  | [] => .ok []
  | pod :: pods =>
      match kahuna.metrics (podBaseURL cluster pod) with
      | .error e => .error ("reading metrics from " ++ pod.name ++ ": " ++ e.message)
      | .ok m => (readMetrics cluster kahuna pods).map ((pod, m) :: ·)

structure Tally where
  writes : Rat := 0
  queue : Rat := 0
  writesKnown : Bool := true
  samples : Samples

def Tally.add (f : Rounding) (t : Tally) (reading : Pod × Metrics) : Tally :=
  let o := observeSample f t.samples reading.1.uid
    (reading.2.counterTotal f metricWritesAdmitted) reading.2.monotonicMs
  { writes := f.add t.writes (o.1.getD 0)
    queue := f.add t.queue (reading.2.gaugeSum f metricClientQueueDepth)
    writesKnown := t.writesKnown && o.1.isSome
    samples := o.2 }

/-- Read every ready pod and average; samples of pods that are gone are
dropped. -/
def measure (f : Rounding) (cluster : KahunaCluster) (kahuna : Client) (samples : Samples)
    (pods : List Pod) : Except String TrafficSignal × Samples :=
  let ready := pods.filter fun p => p.podIP != "" && !p.deleting && podIsReady p
  if ready.isEmpty then (.error "no ready pod to read metrics from", samples)
  else
    match readMetrics cluster kahuna ready with
    | .error e => (.error e, samples)
    | .ok readings =>
        let t := readings.foldl (Tally.add f) { samples := samples }
        let n : Rat := ready.length
        (.ok { writesPerNode := if t.writesKnown then some (f.div t.writes n) else none
               queuePerNode := some (f.div t.queue n) },
          t.samples.filter fun s => ready.any (·.uid == s.1))

/-! ## The decision -/

/-- Go's conversion of an integral `float64` to `int32`. -/
structure Int32Conv where
  conv : Int → Int
  fits : ∀ n : Int, -(2 ^ 31) ≤ n → n < 2 ^ 31 → conv n = n
  range : ∀ n : Int, -(2 ^ 31) ≤ conv n ∧ conv n < 2 ^ 31

/-- What a platform makes of `float64` arithmetic. -/
structure Float64 extends Rounding, Int32Conv

/-- The arithmetic of exact rationals with a given conversion. -/
def Int32Conv.exact (c : Int32Conv) : Float64 := { Rounding.exact, c with }

@[simp] theorem Int32Conv.exact_toRounding (c : Int32Conv) :
    c.exact.toRounding = Rounding.exact := rfl

structure AutoscaleInput where
  spec : AutoscalingSpec
  prev : Option AutoscalingStatus
  initial : Nat
  signal : TrafficSignal
  converged : Bool
  growthCeiling : Nat
  ceilingReason : String
  now : Time

structure AutoscaleDecision where
  status : AutoscalingStatus
  limited : Bool
  reason : String

/-- `math.Round` to an integer: halves go away from zero.  The result is only shown,
and a value outside `int64` is not converted. -/
def roundedPtr (v : Option Rat) : Option Int :=
  v.map fun q => if 0 ≤ q then ⌊q + 1 / 2⌋ else ⌈q - 1 / 2⌉

def secondsOr (v : Option Nat) (fallback : Time) : Time :=
  match v with
  | none => fallback
  | some n => seconds n

def defaultScaleUpStabilization : Time := seconds 60

def defaultScaleDownStabilization : Time := seconds 300

def defaultTolerancePercent : Nat := 10

namespace AutoscaleInput

/-- The status the decision starts from: the previous one, its size defaulted
and held inside the bounds. -/
def start (i : AutoscaleInput) : AutoscalingStatus :=
  let st := i.prev.getD {}
  let st := if st.desiredReplicas = 0 then { st with desiredReplicas := i.initial } else st
  let clamped := min (max st.desiredReplicas i.spec.minReplicas) i.spec.maxReplicas
  let st :=
    if clamped ≠ st.desiredReplicas then
      { st with desiredReplicas := clamped, lastScaleTime := some i.now }
    else st
  { st with
    writesPerSecondPerNode := roundedPtr i.signal.writesPerNode
    queueDepthPerNode := roundedPtr i.signal.queuePerNode }

def configured (i : AutoscaleInput) : List (Nat × Option Rat) :=
  (i.spec.targetWritesPerSecond.map fun t => (t, i.signal.writesPerNode)).toList ++
    (i.spec.targetQueueDepth.map fun t => (t, i.signal.queuePerNode)).toList

def ratios (f : Rounding) (i : AutoscaleInput) : List Rat :=
  i.configured.filterMap fun x => x.2.map fun v => f.div v x.1

def allKnown (i : AutoscaleInput) : Bool :=
  i.configured.all fun x => x.2.isSome

def tolerance (f : Rounding) (i : AutoscaleInput) : Rat :=
  f.div (i.spec.tolerancePercent.getD defaultTolerancePercent : Nat) 100

/-- The recommendation at the worst ratio, held inside the bounds.  Shrinking
needs every configured signal. -/
def recommended (c : Float64) (i : AutoscaleInput) (current : Nat) (ratio : Rat) : Nat :=
  let raw : Int :=
    if i.tolerance c.toRounding < |c.sub ratio 1| then c.conv ⌈c.mul current ratio⌉ else current
  let raw := if raw < current ∧ i.allKnown = false then (current : Int) else raw
  (min (max raw i.spec.minReplicas) i.spec.maxReplicas).toNat

def upWindow (i : AutoscaleInput) : Time :=
  secondsOr i.spec.scaleUpStabilizationSeconds defaultScaleUpStabilization

def downWindow (i : AutoscaleInput) : Time :=
  secondsOr i.spec.scaleDownStabilizationSeconds defaultScaleDownStabilization

end AutoscaleInput

/-- No step: the recommendation is the current size and both windows restart. -/
def holdDecision (st : AutoscalingStatus) (reason : String) : AutoscaleDecision :=
  { status := { st with
      recommendedReplicas := st.desiredReplicas
      aboveTargetSince := none
      belowTargetSince := none }
    limited := reason ≠ ""
    reason := reason }

/-- The recommendation has been above since `since`: one node more once the
window has passed. -/
def stepUp (i : AutoscaleInput) (st : AutoscalingStatus) : AutoscalingStatus :=
  let since := st.aboveTargetSince.getD i.now
  if i.upWindow ≤ i.now - since then
    { st with
      desiredReplicas := st.desiredReplicas + 1
      lastScaleTime := some i.now
      aboveTargetSince := none
      belowTargetSince := none }
  else { st with aboveTargetSince := some since, belowTargetSince := none }

def stepDown (i : AutoscaleInput) (st : AutoscalingStatus) : AutoscalingStatus :=
  let since := st.belowTargetSince.getD i.now
  if i.downWindow ≤ i.now - since then
    { st with
      desiredReplicas := st.desiredReplicas - 1
      lastScaleTime := some i.now
      aboveTargetSince := none
      belowTargetSince := none }
  else { st with aboveTargetSince := none, belowTargetSince := some since }

def decideAtRatio (c : Float64) (i : AutoscaleInput) (ratio : Rat) : AutoscaleDecision :=
  let current := i.start.desiredReplicas
  let recommended := i.recommended c current ratio
  let st := { i.start with recommendedReplicas := recommended }
  let atMax (st : AutoscalingStatus) : AutoscaleDecision :=
    if recommended = i.spec.maxReplicas ∧ c.add 1 (i.tolerance c.toRounding) < ratio then
      { status := st, limited := true,
        reason := "traffic asks for more than maxReplicas (" ++ toString i.spec.maxReplicas ++ ")" }
    else { status := st, limited := false, reason := "" }
  if current < recommended then
    if 0 < i.growthCeiling ∧ i.growthCeiling ≤ current then
      { status := { st with aboveTargetSince := none, belowTargetSince := none },
        limited := true, reason := i.ceilingReason }
    else atMax (stepUp i st)
  else if recommended < current then atMax (stepDown i st)
  else atMax { st with aboveTargetSince := none, belowTargetSince := none }

def decideAutoscale (c : Float64) (i : AutoscaleInput) : AutoscaleDecision :=
  if !i.converged then holdDecision i.start ""
  else
    match i.ratios c.toRounding with
    | [] => holdDecision i.start "no traffic signal is available yet"
    | r :: rs => decideAtRatio c i (rs.foldl max r)

/-! ### What a decision can do to the size -/

theorem start_desired (i : AutoscaleInput) :
    i.start.desiredReplicas =
      min (max (if (i.prev.getD {}).desiredReplicas = 0 then i.initial
        else (i.prev.getD {}).desiredReplicas) i.spec.minReplicas) i.spec.maxReplicas := by
  simp only [AutoscaleInput.start]
  split <;> split <;> simp_all

/-- For a decision about a cluster, that is the size it is driven to, held inside
the bounds. -/
theorem start_desired_cluster {i : AutoscaleInput} {cluster : KahunaCluster}
    {as : AutoscalingSpec} (has : cluster.spec.autoscaling = some as) (hspec : i.spec = as)
    (hprev : i.prev = cluster.status.autoscaling)
    (hinitial : i.initial = initialAutoscaledReplicas cluster as) :
    i.start.desiredReplicas =
      min (max (desiredReplicas cluster) as.minReplicas) as.maxReplicas := by
  have hcurrent : (if (i.prev.getD {}).desiredReplicas = 0 then i.initial
      else (i.prev.getD {}).desiredReplicas) = desiredReplicas cluster := by
    rw [desiredReplicas_autoscaled has, hprev, hinitial]
    cases cluster.status.autoscaling with
    | none => rfl
    | some st =>
        simp only [Option.getD_some]
        by_cases hzero : st.desiredReplicas = 0
        · simp only [hzero, if_true, Nat.lt_irrefl, if_false]
        · simp only [hzero, if_false, Nat.pos_of_ne_zero hzero, if_true]
  rw [start_desired, hcurrent, hspec]

theorem start_above (i : AutoscaleInput) :
    i.start.aboveTargetSince = (i.prev.getD {}).aboveTargetSince := by
  simp only [AutoscaleInput.start]
  split <;> split <;> rfl

theorem start_below (i : AutoscaleInput) :
    i.start.belowTargetSince = (i.prev.getD {}).belowTargetSince := by
  simp only [AutoscaleInput.start]
  split <;> split <;> rfl

theorem start_bounds {i : AutoscaleInput} (h : i.spec.minReplicas ≤ i.spec.maxReplicas) :
    i.spec.minReplicas ≤ i.start.desiredReplicas ∧
      i.start.desiredReplicas ≤ i.spec.maxReplicas := by
  rw [start_desired]
  omega

theorem recommended_bounds {i : AutoscaleInput} (current : Nat) (ratio : Rat) (c : Float64)
    (h : i.spec.minReplicas ≤ i.spec.maxReplicas) :
    i.spec.minReplicas ≤ i.recommended c current ratio ∧
      i.recommended c current ratio ≤ i.spec.maxReplicas := by
  simp only [AutoscaleInput.recommended]
  omega

@[simp] theorem holdDecision_desired (st : AutoscalingStatus) (reason : String) :
    (holdDecision st reason).status.desiredReplicas = st.desiredReplicas := rfl

theorem stepUp_desired (i : AutoscaleInput) (st : AutoscalingStatus) :
    (stepUp i st).desiredReplicas = st.desiredReplicas ∨
      (stepUp i st).desiredReplicas = st.desiredReplicas + 1 := by
  simp only [stepUp]
  split
  · exact Or.inr rfl
  · exact Or.inl rfl

theorem stepDown_desired (i : AutoscaleInput) (st : AutoscalingStatus) :
    (stepDown i st).desiredReplicas = st.desiredReplicas ∨
      (stepDown i st).desiredReplicas = st.desiredReplicas - 1 := by
  simp only [stepDown]
  split
  · exact Or.inr rfl
  · exact Or.inl rfl

/-! ### The ways a decision ends -/

/-- The last step is complete, some configured signal is known, and `ratio` is
the worst one. -/
def AutoscaleInput.Measured (f : Rounding) (i : AutoscaleInput) (ratio : Rat) : Prop :=
  i.converged = true ∧ ∃ r rs, i.ratios f = r :: rs ∧ ratio = rs.foldl max r

section Measured
variable {f : Rounding} {i : AutoscaleInput}

theorem AutoscaleInput.Measured.unique {r₁ r₂ : Rat} (h₁ : i.Measured f r₁)
    (h₂ : i.Measured f r₂) : r₁ = r₂ := by
  obtain ⟨_, a, as, ha, rfl⟩ := h₁
  obtain ⟨_, b, bs, hb, rfl⟩ := h₂
  obtain ⟨rfl, rfl⟩ := List.cons.inj (ha.symm.trans hb)
  rfl

theorem AutoscaleInput.Measured.not_held {ratio : Rat} (h : i.Measured f ratio) :
    ¬ (i.converged = false ∨ i.ratios f = []) := by
  rintro (hconv | hnil)
  · rw [h.1] at hconv
    cases hconv
  · obtain ⟨_, r, rs, hr, _⟩ := h
    rw [hnil] at hr
    cases hr

end Measured

def AutoscaleInput.Capped (i : AutoscaleInput) : Prop :=
  0 < i.growthCeiling ∧ i.growthCeiling ≤ i.start.desiredReplicas

/-- The status with its recommendation, before the windows are looked at. -/
def AutoscaleInput.recommending (i : AutoscaleInput) (n : Nat) : AutoscalingStatus :=
  { i.start with recommendedReplicas := n }

def AutoscalingStatus.rewound (st : AutoscalingStatus) : AutoscalingStatus :=
  { st with aboveTargetSince := none, belowTargetSince := none }

@[simp] theorem AutoscaleInput.recommending_desired (i : AutoscaleInput) (n : Nat) :
    (i.recommending n).desiredReplicas = i.start.desiredReplicas := by
  simp only [recommending]

@[simp] theorem AutoscalingStatus.rewound_desired (st : AutoscalingStatus) :
    st.rewound.desiredReplicas = st.desiredReplicas := rfl

inductive Decided (c : Float64) (i : AutoscaleInput) : AutoscalingStatus → Prop
  | held : (i.converged = false ∨ i.ratios c.toRounding = []) →
      Decided c i (i.recommending i.start.desiredReplicas).rewound
  | capped {ratio : Rat} : i.Measured c.toRounding ratio →
      i.start.desiredReplicas < i.recommended c i.start.desiredReplicas ratio → i.Capped →
      Decided c i (i.recommending (i.recommended c i.start.desiredReplicas ratio)).rewound
  | up {ratio : Rat} : i.Measured c.toRounding ratio →
      i.start.desiredReplicas < i.recommended c i.start.desiredReplicas ratio → ¬ i.Capped →
      Decided c i
        (stepUp i (i.recommending (i.recommended c i.start.desiredReplicas ratio)))
  | down {ratio : Rat} : i.Measured c.toRounding ratio →
      i.recommended c i.start.desiredReplicas ratio < i.start.desiredReplicas →
      Decided c i
        (stepDown i (i.recommending (i.recommended c i.start.desiredReplicas ratio)))
  | level {ratio : Rat} : i.Measured c.toRounding ratio →
      i.recommended c i.start.desiredReplicas ratio = i.start.desiredReplicas →
      Decided c i (i.recommending (i.recommended c i.start.desiredReplicas ratio)).rewound

theorem decideAtRatio_decided {c : Float64} {i : AutoscaleInput} {ratio : Rat}
    (h : i.Measured c.toRounding ratio) : Decided c i (decideAtRatio c i ratio).status := by
  simp only [decideAtRatio]
  split
  · next hup =>
      split
      · next hceil => exact .capped h hup hceil
      · next hceil =>
          split
          · exact .up h hup hceil
          · exact .up h hup hceil
  · next hup =>
      split
      · next hdown =>
          split
          · exact .down h hdown
          · exact .down h hdown
      · next hdown =>
          have hlevel : i.recommended c i.start.desiredReplicas ratio =
              i.start.desiredReplicas := by omega
          split
          · exact .level h hlevel
          · exact .level h hlevel

theorem decideAutoscale_decided (c : Float64) (i : AutoscaleInput) :
    Decided c i (decideAutoscale c i).status := by
  unfold decideAutoscale
  cases hconv : i.converged with
  | false => exact .held (Or.inl hconv)
  | true =>
      cases hr : i.ratios c.toRounding with
      | nil => exact .held (Or.inr hr)
      | cons r rs => exact decideAtRatio_decided ⟨hconv, r, rs, hr, rfl⟩

/-- A decision keeps the size it starts from, or moves it by one towards a
recommendation made on a measured ratio. -/
theorem Decided.desired {c : Float64} {i : AutoscaleInput} {st : AutoscalingStatus}
    (h : Decided c i st) :
    st.desiredReplicas = i.start.desiredReplicas ∨ ∃ ratio, i.Measured c.toRounding ratio ∧
      ((st.desiredReplicas = i.start.desiredReplicas + 1 ∧ ¬ i.Capped ∧
          i.start.desiredReplicas < i.recommended c i.start.desiredReplicas ratio) ∨
        (st.desiredReplicas = i.start.desiredReplicas - 1 ∧
          i.recommended c i.start.desiredReplicas ratio < i.start.desiredReplicas)) := by
  cases h with
  | held _ => exact Or.inl (by simp)
  | capped _ _ _ => exact Or.inl (by simp)
  | level _ _ => exact Or.inl (by simp)
  | up hratio hup hcap =>
      rcases stepUp_desired i (i.recommending _) with h | h <;> rw [i.recommending_desired] at h
      · exact Or.inl h
      · exact Or.inr ⟨_, hratio, Or.inl ⟨h, hcap, hup⟩⟩
  | down hratio hdown =>
      rcases stepDown_desired i (i.recommending _) with h | h <;> rw [i.recommending_desired] at h
      · exact Or.inl h
      · exact Or.inr ⟨_, hratio, Or.inr ⟨h, hdown⟩⟩

theorem decideAutoscale_not_converged {c : Float64} {i : AutoscaleInput}
    (h : i.converged = false) :
    (decideAutoscale c i).status.desiredReplicas = i.start.desiredReplicas := by
  simp [decideAutoscale, h]

theorem decideAutoscale_bounds {c : Float64} {i : AutoscaleInput}
    (h : i.spec.minReplicas ≤ i.spec.maxReplicas) :
    i.spec.minReplicas ≤ (decideAutoscale c i).status.desiredReplicas ∧
      (decideAutoscale c i).status.desiredReplicas ≤ i.spec.maxReplicas := by
  have hs := start_bounds h
  rcases (decideAutoscale_decided c i).desired with hd | ⟨ratio, _, ⟨hd, _, hr⟩ | ⟨hd, hr⟩⟩
  · rw [hd]
    exact hs
  · have hb := recommended_bounds i.start.desiredReplicas ratio c h
    omega
  · have hb := recommended_bounds i.start.desiredReplicas ratio c h
    omega

/-- The upper bound holds even of bounds the API server would refuse. -/
theorem decideAutoscale_le_max (c : Float64) (i : AutoscaleInput) :
    (decideAutoscale c i).status.desiredReplicas ≤ i.spec.maxReplicas := by
  have hstart : i.start.desiredReplicas ≤ i.spec.maxReplicas := by
    rw [start_desired]
    omega
  have hrecommended : ∀ ratio,
      i.recommended c i.start.desiredReplicas ratio ≤ i.spec.maxReplicas := by
    intro ratio
    simp only [AutoscaleInput.recommended]
    omega
  rcases (decideAutoscale_decided c i).desired with hd | ⟨ratio, _, ⟨hd, _, hr⟩ | ⟨hd, _⟩⟩
  · rw [hd]
    exact hstart
  · have hmax := hrecommended ratio
    omega
  · omega

/-! ## The autoscaling step of a pass -/

/-- What the surroundings supply to one pass: the listed pods, the nodes'
answers, the sampler's memory, the clock, and the platform's arithmetic. -/
structure PassEnv where
  pods : List Pod
  kahuna : Client
  samples : Samples := []
  now : Time := 0
  float : Float64

def placementSettleTimeout : Time := seconds 300

def autoscaleMembers (env : PassEnv) (current : Nat) : List Pod :=
  env.pods.filter fun p => decide (0 ≤ ordinalOf p.name ∧ ordinalOf p.name < current)

/-- Roster and ready pods are at the desired size. -/
def rosterConverged (env : PassEnv) (cluster : KahunaCluster) (bootstrapped : Bool)
    (membership : Option Membership) : Bool :=
  let current := desiredReplicas cluster
  bootstrapped && rosterMatches cluster membership current &&
    (autoscaleMembers env current).countP (fun p => podIsReady p && !p.deleting) == current

/-- Whether the last step is complete, and what it is waiting for. -/
def autoscaleConverged (env : PassEnv) (cluster : KahunaCluster) (bootstrapped : Bool)
    (membership : Option Membership) (placement : Option Placement)
    (placementErr : Option KahunaError) : Bool × String :=
  if !rosterConverged env cluster bootstrapped membership then (false, "")
  else
    match placementErr with
    | some e => (false, "replica placement could not be read: " ++ e.message)
    | none =>
        let settleBy := cluster.status.autoscaling.bind fun as =>
          as.lastScaleTime.map (· + placementSettleTimeout)
        placementConverged cluster placement (desiredReplicas cluster) env.now settleBy

/-- Traffic and growth ceiling, read only when the last step is complete. -/
def autoscaleReadings (env : PassEnv) (cluster : KahunaCluster) (placement : Option Placement)
    (converged : Bool) : Except Panic (Except String TrafficSignal × Nat × String × Samples) :=
  if converged then
    let m := measure env.float.toRounding cluster env.kahuna env.samples
      (autoscaleMembers env (desiredReplicas cluster))
    match growthCeiling placement with
    | .error p => .error p
    | .ok (ceiling, reason) => .ok (m.1, ceiling, reason, m.2)
  else .ok (.ok {}, 0, "", env.samples)

/-- Update the autoscaler's record in the status.  Without `spec.autoscaling` the
record is dropped. -/
def reconcileAutoscaling (env : PassEnv) (cluster : KahunaCluster) (bootstrapped : Bool)
    (membership : Option Membership) (placement : Option Placement)
    (placementErr : Option KahunaError) : Except Panic (KahunaCluster × Samples) :=
  match cluster.spec.autoscaling with
  | none =>
      .ok ({ cluster with status := { cluster.status with
              autoscaling := none
              conditions := removeStatusCondition cluster.status.conditions .autoscalingLimited } },
        [])
  | some spec =>
      let conv := autoscaleConverged env cluster bootstrapped membership placement placementErr
      match autoscaleReadings env cluster placement conv.1 with
      | .error p => .error p
      | .ok (measured, ceiling, ceilingReason, samples) =>
          let d := decideAutoscale env.float
            { spec := spec
              prev := cluster.status.autoscaling
              initial := initialAutoscaledReplicas cluster spec
              signal := measured.toOption.getD {}
              converged := conv.1
              growthCeiling := ceiling
              ceilingReason := ceilingReason
              now := env.now }
          let (limited, reason) :=
            match measured with
            | .error e => (true, "traffic metrics could not be read: " ++ e)
            | .ok _ =>
                if conv.2 ≠ "" then
                  (d.limited, "waiting for replica placement to settle: " ++ conv.2)
                else (d.limited, d.reason)
          let msg :=
            if reason = "" then
              "desired " ++ toString d.status.desiredReplicas ++ ", recommended " ++
                toString d.status.recommendedReplicas
            else reason
          let recorded := { cluster.status with autoscaling := some d.status }
          let status :=
            setCondition recorded .autoscalingLimited limited "Limited" "WithinLimits" msg
          .ok ({ cluster with status := status }, samples)

structure StepInput (env : PassEnv) (cluster : KahunaCluster) (bootstrapped : Bool)
    (membership : Option Membership) (placement : Option Placement)
    (placementErr : Option KahunaError) (as : AutoscalingSpec) (i : AutoscaleInput) : Prop where
  spec : i.spec = as
  prev : i.prev = cluster.status.autoscaling
  initial : i.initial = initialAutoscaledReplicas cluster as
  now : i.now = env.now
  converged : i.converged =
    (autoscaleConverged env cluster bootstrapped membership placement placementErr).1
  ceiling : i.converged = true → ∃ reason, growthCeiling placement = .ok (i.growthCeiling, reason)

theorem autoscaleReadings_ceiling {env : PassEnv} {cluster : KahunaCluster}
    {placement : Option Placement} {measured : Except String TrafficSignal} {ceiling : Nat}
    {reason : String} {samples : Samples}
    (h : autoscaleReadings env cluster placement true = .ok (measured, ceiling, reason, samples)) :
    growthCeiling placement = .ok (ceiling, reason) := by
  simp only [autoscaleReadings, if_true] at h
  cases hceil : growthCeiling placement with
  | error p =>
      rw [hceil] at h
      cases h
  | ok c =>
      rw [hceil] at h
      cases h
      rfl

/-- A step that does not panic records the decision on its input. -/
theorem reconcileAutoscaling_input {env : PassEnv} {cluster cl : KahunaCluster}
    {bootstrapped : Bool} {m : Option Membership} {placement : Option Placement}
    {err : Option KahunaError} {samples : Samples} {as : AutoscalingSpec}
    (has : cluster.spec.autoscaling = some as)
    (h : reconcileAutoscaling env cluster bootstrapped m placement err = .ok (cl, samples)) :
    ∃ i, StepInput env cluster bootstrapped m placement err as i ∧
      cl.status.autoscaling = some (decideAutoscale env.float i).status := by
  simp only [reconcileAutoscaling, has] at h
  split at h
  · cases h
  · next hread =>
      cases h
      refine ⟨_, ⟨rfl, rfl, rfl, rfl, rfl, ?_⟩, rfl⟩
      intro hconv
      replace hconv : (autoscaleConverged env cluster bootstrapped m placement err).1 = true :=
        hconv
      rw [hconv] at hread
      exact ⟨_, autoscaleReadings_ceiling hread⟩

/-- What the step leaves of the cluster: everything but the autoscaler's record
and the conditions. -/
def withAutoscaling (cluster : KahunaCluster) (record : Option AutoscalingStatus)
    (conditions : List Condition) : KahunaCluster :=
  { cluster with status := { cluster.status with
      autoscaling := record, conditions := conditions } }

/-- The record the step writes, for some input of the decision that carries this
cluster's spec, previous record and initial size. -/
structure DecidedRecord (env : PassEnv) (cluster : KahunaCluster) (bootstrapped : Bool)
    (record : Option AutoscalingStatus) : Prop where
  dropped : cluster.spec.autoscaling = none → record = none
  decided : ∀ as, cluster.spec.autoscaling = some as → ∃ i : AutoscaleInput,
    i.spec = as ∧ i.prev = cluster.status.autoscaling ∧
    i.initial = initialAutoscaledReplicas cluster as ∧
    (bootstrapped = false → i.converged = false) ∧
    record = some (decideAutoscale env.float i).status

theorem reconcileAutoscaling_ok {env : PassEnv} {cluster cl : KahunaCluster} {bootstrapped : Bool}
    {m : Option Membership} {placement : Option Placement} {err : Option KahunaError}
    {samples : Samples}
    (h : reconcileAutoscaling env cluster bootstrapped m placement err = .ok (cl, samples)) :
    ∃ record conditions, cl = withAutoscaling cluster record conditions ∧
      DecidedRecord env cluster bootstrapped record := by
  unfold reconcileAutoscaling at h
  cases ha : cluster.spec.autoscaling with
  | none =>
      simp only [ha, Except.ok.injEq, Prod.mk.injEq] at h
      refine ⟨none, _, h.1.symm, fun _ => rfl, ?_⟩
      intro as has
      rw [ha] at has
      exact absurd has (by simp)
  | some as =>
      obtain ⟨i, hi, hdecided⟩ := reconcileAutoscaling_input ha h
      simp only [ha] at h
      split at h
      · cases h
      · cases h
        refine ⟨_, _, rfl, ?_, ?_⟩
        · intro hnone
          rw [ha] at hnone
          cases hnone
        · intro as' has'
          cases ha.symm.trans has'
          refine ⟨i, hi.spec, hi.prev, hi.initial, ?_, hdecided⟩
          rintro rfl
          exact hi.converged

end KahunaOperator
