/-
# `KahunaOperator.OneSize` — the sizes the steps of one pass go by

The comment on `desiredReplicas` asks that everything that sizes the cluster
agrees on one number.  In `Reconcile` four steps read it, and the autoscaler,
which may change it, runs between the second and the third:

    ConfigMap        REPLICAS of `topology.env`       before
    budget           three nodes or more (`wantsPDB`)  before
    StatefulSet      the target of the plan           after
    status           phase and conditions             after

`writers` is the cluster each of them is given, and `pass_writers` that a
successful pass leaves what these steps make of it.

    one number  ⟺  no autoscaling, or the stored target is inside the bounds
                    and no traffic step is due                  (`one_size_iff`)

A target moved back into its bounds and a step in the same pass never cancel out:
a step ends inside the bounds.
-/
import KahunaOperator.Decision

namespace KahunaOperator

/-! ## When a decision moves the size -/

/-- Traffic has asked for more, or for less, for a whole window. -/
def AutoscaleInput.StepDue (c : Float64) (i : AutoscaleInput) : Prop :=
  ∃ ratio, i.Measured c.toRounding ratio ∧
    ((i.start.desiredReplicas < i.recommended c i.start.desiredReplicas ratio ∧ ¬ i.Capped ∧
        i.upWindow ≤ i.now - i.start.aboveTargetSince.getD i.now) ∨
      (i.recommended c i.start.desiredReplicas ratio < i.start.desiredReplicas ∧
        i.downWindow ≤ i.now - i.start.belowTargetSince.getD i.now))

theorem stepUp_moves_iff (i : AutoscaleInput) (n : Nat) :
    (stepUp i (i.recommending n)).desiredReplicas ≠ i.start.desiredReplicas ↔
      i.upWindow ≤ i.now - i.start.aboveTargetSince.getD i.now := by
  have hsince : (i.recommending n).aboveTargetSince = i.start.aboveTargetSince := rfl
  simp only [stepUp, hsince]
  split
  · next h =>
      refine iff_of_true ?_ h
      rw [i.recommending_desired]
      exact Nat.succ_ne_self _
  · next h =>
      refine iff_of_false ?_ h
      rw [i.recommending_desired]
      exact not_not_intro rfl

theorem stepDown_moves_iff {i : AutoscaleInput} (n : Nat) (hpos : 0 < i.start.desiredReplicas) :
    (stepDown i (i.recommending n)).desiredReplicas ≠ i.start.desiredReplicas ↔
      i.downWindow ≤ i.now - i.start.belowTargetSince.getD i.now := by
  have hsince : (i.recommending n).belowTargetSince = i.start.belowTargetSince := rfl
  simp only [stepDown, hsince]
  split
  · next h =>
      refine iff_of_true ?_ h
      rw [i.recommending_desired]
      exact Nat.pred_ne_self (Nat.ne_of_gt hpos)
  · next h =>
      refine iff_of_false ?_ h
      rw [i.recommending_desired]
      exact not_not_intro rfl

theorem Decided.moves_iff {c : Float64} {i : AutoscaleInput} {st : AutoscalingStatus}
    (h : Decided c i st) : st.desiredReplicas ≠ i.start.desiredReplicas ↔ i.StepDue c := by
  cases h with
  | held hheld =>
      refine iff_of_false (by simp) ?_
      rintro ⟨ratio, hratio, _⟩
      exact hratio.not_held hheld
  | @capped ratio hratio hup hcap =>
      refine iff_of_false (by simp) ?_
      rintro ⟨r, hr, ⟨_, hfree, _⟩ | ⟨hdown, _⟩⟩
      · exact hfree hcap
      · cases hr.unique hratio
        omega
  | @level ratio hratio hlevel =>
      refine iff_of_false (by simp) ?_
      rintro ⟨r, hr, ⟨hup, _⟩ | ⟨hdown, _⟩⟩
      · cases hr.unique hratio
        omega
      · cases hr.unique hratio
        omega
  | @up ratio hratio hup hcap =>
      rw [stepUp_moves_iff]
      constructor
      · intro hwindow
        exact ⟨ratio, hratio, Or.inl ⟨hup, hcap, hwindow⟩⟩
      · rintro ⟨r, hr, ⟨_, _, hwindow⟩ | ⟨hdown, _⟩⟩
        · exact hwindow
        · cases hr.unique hratio
          omega
  | @down ratio hratio hdown =>
      rw [stepDown_moves_iff _ (by omega)]
      constructor
      · intro hwindow
        exact ⟨ratio, hratio, Or.inr ⟨hdown, hwindow⟩⟩
      · rintro ⟨r, hr, ⟨hup, _⟩ | ⟨_, hwindow⟩⟩
        · cases hr.unique hratio
          omega
        · exact hwindow

/-! ## What the autoscaler of a pass decides on -/

/-- The decision's input: what is stored, and what the pass reads of the nodes. -/
def decisionInput (env : PassEnv) (cluster : KahunaCluster) (as : AutoscalingSpec) :
    Except Panic AutoscaleInput :=
  let o := observe env cluster
  let conv := autoscaleConverged env cluster cluster.status.bootstrapped o.membership o.placement
    o.placementErr
  match autoscaleReadings env cluster o.placement conv.1 with
  | .error p => .error p
  | .ok (measured, ceiling, ceilingReason, _) =>
      .ok
        { spec := as
          prev := cluster.status.autoscaling
          initial := initialAutoscaledReplicas cluster as
          signal := measured.toOption.getD {}
          converged := conv.1
          growthCeiling := ceiling
          ceilingReason := ceilingReason
          now := env.now }

theorem decisionInput_ok {env : PassEnv} {cluster : KahunaCluster} {as : AutoscalingSpec}
    {i : AutoscaleInput} (h : decisionInput env cluster as = .ok i) :
    StepInput env cluster cluster.status.bootstrapped (observe env cluster).membership
      (observe env cluster).placement (observe env cluster).placementErr as i := by
  simp only [decisionInput] at h
  split at h
  · cases h
  · next hread =>
      cases h
      refine ⟨rfl, rfl, rfl, rfl, rfl, ?_⟩
      intro hconv
      simp only at hconv
      rw [hconv] at hread
      exact ⟨_, autoscaleReadings_ceiling hread⟩

theorem autoscaled_decides {env : PassEnv} {cluster cl : KahunaCluster} {as : AutoscalingSpec}
    (has : cluster.spec.autoscaling = some as) (hcl : autoscaled env cluster = .ok cl) :
    ∃ i, decisionInput env cluster as = .ok i ∧
      cl.status.autoscaling = some (decideAutoscale env.float i).status := by
  simp only [autoscaled, reconcileAutoscaling, has] at hcl
  simp only [decisionInput]
  cases hread : autoscaleReadings env cluster (observe env cluster).placement
      (autoscaleConverged env cluster cluster.status.bootstrapped (observe env cluster).membership
        (observe env cluster).placement (observe env cluster).placementErr).1 with
  | error p =>
      rw [hread] at hcl
      cases hcl
  | ok readings =>
      rw [hread] at hcl
      cases hcl
      exact ⟨_, rfl, rfl⟩

theorem autoscaled_from_input {env : PassEnv} {cluster cl : KahunaCluster} {as : AutoscalingSpec}
    (has : cluster.spec.autoscaling = some as) (hbounds : as.Accepted)
    (hcl : autoscaled env (pinBootstrapSize cluster) = .ok cl) :
    ∃ i, decisionInput env (pinBootstrapSize cluster) as = .ok i ∧
      i.start.desiredReplicas =
        min (max (desiredReplicas cluster) as.minReplicas) as.maxReplicas ∧
      desiredReplicas cl = (decideAutoscale env.float i).status.desiredReplicas ∧
      as.minReplicas ≤ desiredReplicas cl ∧ desiredReplicas cl ≤ as.maxReplicas := by
  have hpin : (pinBootstrapSize cluster).spec.autoscaling = some as := by
    rw [pinBootstrapSize_spec]
    exact has
  obtain ⟨i, hi, hrecord⟩ := autoscaled_decides hpin hcl
  have hinput := decisionInput_ok hi
  have hstart := start_desired_cluster hpin hinput.spec hinput.prev hinput.initial
  rw [desiredReplicas_pin] at hstart
  have hin := decideAutoscale_bounds (c := env.float) (i := i)
    (by rw [hinput.spec]; exact hbounds.2.2.1)
  rw [hinput.spec] at hin
  have hscl : cl.spec.autoscaling = some as := by
    rw [autoscaled_spec hcl]
    exact has
  have hmin := hbounds.1
  have hdecided := desiredReplicas_recorded hscl hrecord (by omega)
  rw [← hdecided] at hin
  exact ⟨i, hi, hstart, hdecided, hin⟩

/-! ## The budget -/

structure PodDisruptionBudget where
  name : String
  maxUnavailable : Nat
deriving DecidableEq, Repr

def desiredPDB (cluster : KahunaCluster) : PodDisruptionBudget :=
  { name := pdbName cluster, maxUnavailable := 1 }

/-- Three nodes or more have a quorum to protect; the spec may say otherwise. -/
def wantsPDB (cluster : KahunaCluster) : Bool :=
  match cluster.spec.podDisruptionBudget with
  | some wanted => wanted
  | none => decide (3 ≤ desiredReplicas cluster)

def reconcilePDB (cluster : KahunaCluster) : Option PodDisruptionBudget :=
  if wantsPDB cluster then some (desiredPDB cluster) else none

def passBudget (inp : PassInput) (w : World) (before : Option PodDisruptionBudget) :
    Option PodDisruptionBudget :=
  if inp.reached .podDisruptionBudget then reconcilePDB (pinBootstrapSize w.cluster) else before

/-! ## The four writers -/

/-- The cluster in memory when each of the four steps runs. -/
structure Writers where
  configMap : KahunaCluster
  budget : KahunaCluster
  statefulSet : KahunaCluster
  status : KahunaCluster

def writers (inp : PassInput) (w : World) : Except Panic Writers :=
  let cluster := pinBootstrapSize w.cluster
  match autoscaled inp.toPassEnv cluster with
  | .error p => .error p
  | .ok cl => .ok { configMap := cluster, budget := cluster, statefulSet := cl, status := cl }

theorem writers_ok {inp : PassInput} {w : World} {ws : Writers} (h : writers inp w = .ok ws) :
    ∃ cl, autoscaled inp.toPassEnv (pinBootstrapSize w.cluster) = .ok cl ∧
      ws = { configMap := pinBootstrapSize w.cluster, budget := pinBootstrapSize w.cluster,
             statefulSet := cl, status := cl } := by
  simp only [writers] at h
  split at h
  · cases h
  · next cl hcl =>
      cases h
      exact ⟨cl, hcl, rfl⟩

theorem writers_of_autoscaled {inp : PassInput} {w : World} {cl : KahunaCluster}
    (h : autoscaled inp.toPassEnv (pinBootstrapSize w.cluster) = .ok cl) :
    writers inp w =
      .ok { configMap := pinBootstrapSize w.cluster, budget := pinBootstrapSize w.cluster,
            statefulSet := cl, status := cl } := by
  simp only [writers, h]

/-- What a successful pass leaves is what the four steps make of these. -/
theorem pass_writers {inp : PassInput} {w : World} {ws : Writers} (hstop : inp.stop = none)
    (hws : writers inp w = .ok ws) (before : Option PodDisruptionBudget) :
    let o := observe inp.toPassEnv (pinBootstrapSize w.cluster)
    let sts := reconcileStatefulSet inp.toPassEnv ws.statefulSet w.cluster.status.bootstrapped o
      w.sts
    (pass inp w).config = some (desiredConfigMap ws.configMap ws.configMap.status.bootstrapSize) ∧
      passBudget inp w before = reconcilePDB ws.budget ∧
      (pass inp w).sts = some sts ∧
      (pass inp w).cluster.status =
        reconcileStatus ws.status (inp.current.getD sts) inp.pods o.membership inp.keystore := by
  obtain ⟨cl, hcl, rfl⟩ := writers_ok hws
  have hreached := PassInput.reached_of_stop hstop
  intro o sts
  have hsts : sized inp.toPassEnv (pinBootstrapSize w.cluster) cl w.sts = sts := by
    simp only [sized, sts, (pinBootstrapSize_status w.cluster).1]
    rfl
  refine ⟨(pass_passed inp w).config_written (hreached _), ?_, ?_, ?_⟩
  · rw [passBudget, if_pos (hreached _)]
  · rw [(pass_passed inp w).sts_written hcl (hreached _), hsts]
  · rw [(pass_passed inp w).status_written hcl (hreached _), hsts]
    rfl

/-- The four sizes are `n`: the one written for the nodes, the one the budget is
decided by, the one planned for and the one reported against. -/
structure OneSize (inp : PassInput) (w : World) (ws : Writers) (n : Nat) : Prop where
  topology : (pass inp w).config.map (·.topology.replicas) = some n
  budget : desiredReplicas ws.budget = n
  plan : desiredReplicas ws.statefulSet = n
  status : desiredReplicas ws.status = n

/-- The stored target is inside the bounds, and no traffic step is due. -/
def TargetKept (inp : PassInput) (w : World) : Prop :=
  ∀ as, w.cluster.spec.autoscaling = some as →
    as.minReplicas ≤ desiredReplicas w.cluster ∧ desiredReplicas w.cluster ≤ as.maxReplicas ∧
      ∀ i, decisionInput inp.toPassEnv (pinBootstrapSize w.cluster) as = .ok i →
        ¬ i.StepDue inp.float

/-- The size after the autoscaler is the one before it exactly when the target was
inside the bounds and no step is due. -/
theorem autoscaled_kept_iff {inp : PassInput} {w : World} {cl : KahunaCluster}
    (haccepted : w.cluster.spec.Accepted)
    (hcl : autoscaled inp.toPassEnv (pinBootstrapSize w.cluster) = .ok cl) :
    desiredReplicas cl = desiredReplicas w.cluster ↔ TargetKept inp w := by
  cases has : w.cluster.spec.autoscaling with
  | none =>
      have hsame : desiredReplicas cl = desiredReplicas w.cluster := by
        obtain ⟨cl', hcl', hd⟩ := autoscaled_fixed inp.toPassEnv has
        cases hcl.symm.trans hcl'
        rw [hd, desiredReplicas_fixed has]
      refine iff_of_true hsame ?_
      intro as hsome
      rw [has] at hsome
      cases hsome
  | some as =>
      obtain ⟨i, hi, hstart, hdecided, hin⟩ :=
        autoscaled_from_input has (haccepted.2.2.2.1 as has) hcl
      have hmoves := (decideAutoscale_decided inp.float i).moves_iff
      rw [← hdecided] at hmoves
      constructor
      · intro hsame as' has'
        cases has.symm.trans has'
        refine ⟨by omega, by omega, ?_⟩
        intro i' hi' hdue
        cases hi.symm.trans hi'
        exact hmoves.mpr hdue (by omega)
      · intro hkept
        obtain ⟨hlow, hhigh, hnot⟩ := hkept as has
        have hstays : desiredReplicas cl = i.start.desiredReplicas := by
          by_contra hmoved
          exact hnot i hi (hmoves.mp hmoved)
        omega

/-- In a successful pass the four steps go by one number exactly when there is no
autoscaling, or the target stored before is inside the bounds and no step is
due. -/
theorem one_size_iff {inp : PassInput} {w : World} {ws : Writers}
    (haccepted : w.cluster.spec.Accepted) (hstop : inp.stop = none)
    (hws : writers inp w = .ok ws) : (∃ n, OneSize inp w ws n) ↔ TargetKept inp w := by
  have hconfig := (pass_writers hstop hws none).1
  obtain ⟨cl, hcl, rfl⟩ := writers_ok hws
  rw [← autoscaled_kept_iff haccepted hcl]
  have htopology : (pass inp w).config.map (·.topology.replicas) =
      some (desiredReplicas w.cluster) := by
    rw [hconfig]
    exact congrArg some (desiredReplicas_pin w.cluster)
  constructor
  · rintro ⟨n, hn⟩
    have hwritten := htopology.symm.trans hn.topology
    exact hn.plan.trans (Option.some.inj hwritten).symm
  · intro hsame
    exact ⟨desiredReplicas w.cluster, htopology, desiredReplicas_pin w.cluster, hsame, hsame⟩

theorem idleCluster_accepted : idleWorld.cluster.spec.Accepted := by
  refine ⟨by decide, by decide, ?_, ?_, by decide⟩
  · rintro r ⟨⟩
    decide
  · rintro as ⟨⟩
    refine ⟨by decide, by decide, by decide, by decide, ?_, ?_, ?_⟩
    · rintro t ⟨⟩
    · rintro t ⟨⟩
      decide
    · rintro t ⟨⟩

/-- While the autoscaler waits for the roster, one number sizes the cluster. -/
theorem waiting_pass_one_size :
    ∃ ws, writers (idlePass 3 three_small none) idleWorld = .ok ws ∧
      ∃ n, OneSize (idlePass 3 three_small none) idleWorld ws n := by
  obtain ⟨cl, hcl, hfour⟩ := idle_stays_four none
  have hws := writers_of_autoscaled (w := idleWorld) hcl
  have hkept := (autoscaled_kept_iff (w := idleWorld) idleCluster_accepted hcl).mp hfour
  exact ⟨_, hws, (one_size_iff idleCluster_accepted rfl hws).mpr hkept⟩

/-- Four idle nodes: the pass gives one up, after it has told the nodes of four. -/
theorem step_pass_two_sizes :
    ∃ ws, writers (idlePass 4 four_small none) idleWorld = .ok ws ∧
      (idleLowered none).config.map (·.topology.replicas) = some 4 ∧
      desiredReplicas ws.budget = 4 ∧ desiredReplicas ws.statefulSet = 3 ∧
      desiredReplicas ws.status = 3 ∧
      ¬ ∃ n, OneSize (idlePass 4 four_small none) idleWorld ws n := by
  obtain ⟨cl, hcl, hthree⟩ := idle_decides_three none
  have hws := writers_of_autoscaled (w := idleWorld) hcl
  refine ⟨_, hws, ?_, rfl, hthree, hthree, ?_⟩
  · exact congrArg _ (pass_writers rfl hws none).1
  · rintro ⟨n, hn⟩
    have hbudget : 4 = n := hn.budget
    have hplan : desiredReplicas cl = n := hn.plan
    omega

end KahunaOperator
