/-
# `KahunaOperator.Progress` — the condition Progressing and the phase Running

`reconcileStatus` of `internal/controller/kahunacluster_controller.go` reports the
same counts twice: as the condition Progressing, "true while the operator is
mid-bootstrap, mid-scale, or mid-upgrade", and as the phase.

    Progressing   ready pods < desired  ∨  the roster's counts are off  ∨  the
                  image is not current
    phase         not bootstrapped, no quorum, StatefulSet or Voters below the
                  desired size, above it, progressing; otherwise Running

Running is the last case, so a running cluster is not progressing.  The other way
round, three cases of the phase are not in the condition: the StatefulSet's own
replica count, the bootstrap latch, and a desired size of zero.  The first is a
scale-down at its end, when the roster has shrunk and the pod still terminates.

    Progressing is False ↔ Running   ⟺   not converged by the condition's counts,
                                         or settled in those three as well
                                                        (`progressing_tells_phase_iff`)

The time of the next pass, computed from the same counts, does include the
StatefulSet's (`requeue_tells_phase`).
-/
import KahunaOperator.Conditions
import KahunaOperator.CurrentImage

namespace KahunaOperator

/-! ## What the two are computed from -/

def isStatusConditionFalse (conditions : List Condition) (type : ConditionType) : Bool :=
  match conditions.find? (·.type == type) with
  | some c => !c.status
  | none => false

theorem isStatusConditionFalse_set (status : KahunaClusterStatus) (type : ConditionType)
    (active : Bool) (trueReason falseReason message : String) :
    isStatusConditionFalse
      (setCondition status type active trueReason falseReason message).conditions type =
        !active := by
  have hfind := find_setStatusCondition status.conditions
    { type := type, status := active, reason := if active then trueReason else falseReason,
      message := message }
  unfold isStatusConditionFalse setCondition
  rw [hfind]

theorem isStatusConditionFalse_set_ne (status : KahunaClusterStatus) {type other : ConditionType}
    (h : other ≠ type) (active : Bool) (trueReason falseReason message : String) :
    isStatusConditionFalse
      (setCondition status type active trueReason falseReason message).conditions other =
        isStatusConditionFalse status.conditions other := by
  have hfind := find_setStatusCondition_ne status.conditions
    { type := type, status := active, reason := if active then trueReason else falseReason,
      message := message } h
  unfold isStatusConditionFalse setCondition
  rw [hfind]

/-- The status both are computed from, with a roster or without. -/
def reportedStatus (cluster : KahunaCluster) (sts : StatefulSet) (pods : List Pod)
    (membership : Option Membership) : KahunaClusterStatus :=
  withBootstrapped membership (desiredReplicas cluster)
    (withRoster cluster pods membership (observedStatus cluster sts pods))

section Reported
variable (cluster : KahunaCluster) (sts : StatefulSet) (pods : List Pod)
  (membership : Option Membership) (keystore : Bool × String)

theorem reconcileStatus_progressing :
    isStatusConditionFalse (reconcileStatus cluster sts pods membership keystore).conditions
        .progressing =
      !statusProgressing cluster (reportedStatus cluster sts pods membership)
        (desiredReplicas cluster) membership.isSome := by
  unfold reconcileStatus withConditions
  rw [isStatusConditionFalse_set_ne _ (by decide), isStatusConditionFalse_set_ne _ (by decide),
    isStatusConditionFalse_set]
  rfl

theorem reconcileStatus_phase :
    (reconcileStatus cluster sts pods membership keystore).phase =
      phaseOf (reportedStatus cluster sts pods membership) (desiredReplicas cluster)
        membership.isSome
        (statusProgressing cluster (reportedStatus cluster sts pods membership)
          (desiredReplicas cluster) membership.isSome) := rfl

theorem reportedStatus_observed :
    (reportedStatus cluster sts pods membership).readyReplicas = sts.readyReplicas ∧
      (reportedStatus cluster sts pods membership).replicas = sts.statusReplicas ∧
      (reportedStatus cluster sts pods membership).currentImage =
        if imageRolledOut cluster sts pods then cluster.spec.image
        else cluster.status.currentImage := by
  have himage := reconcileStatus_currentImage cluster sts pods membership (true, "")
  have hcounters : (reportedStatus cluster sts pods membership).readyReplicas =
      sts.readyReplicas ∧
        (reportedStatus cluster sts pods membership).replicas = sts.statusReplicas := by
    rw [reportedStatus, withBootstrapped_eq]
    cases membership with
    | none => exact ⟨rfl, rfl⟩
    | some m => exact ⟨rfl, rfl⟩
  exact ⟨hcounters.1, hcounters.2, himage⟩

theorem reportedStatus_bootstrapped :
    (reportedStatus cluster sts pods membership).bootstrapped = true ↔
      cluster.status.bootstrapped = true ∨
        ∃ r, membership = some r ∧ 0 < r.membershipVersion ∧
          desiredReplicas cluster ≤ r.members.countP (·.role == .voter) :=
  reconcileStatus_bootstrapped cluster sts pods membership (true, "")

end Reported

/-- Running is what is left when every other case is excluded. -/
theorem phaseOf_running_iff {status : KahunaClusterStatus} {desired : Nat}
    {known progressing : Bool} :
    phaseOf status desired known progressing = .running ↔
      status.bootstrapped = true ∧ hasQuorum status.readyReplicas desired = true ∧
        known = true ∧ status.replicas = desired ∧ status.voters = desired ∧
        progressing = false := by
  unfold phaseOf
  constructor
  · intro h
    split_ifs at h with hboot hlost hup hdown hprog
    simp only [Bool.not_eq_true', Bool.not_eq_false, Bool.or_eq_true, not_or] at hboot hlost
    refine ⟨hboot, hlost.1, hlost.2, ?_, ?_, ?_⟩
    · omega
    · omega
    · simpa using hprog
  · rintro ⟨hboot, hquorum, hknown, hreplicas, hvoters, hprog⟩
    simp [hboot, hquorum, hknown, hreplicas, hvoters, hprog]

/-! ## Where they agree -/

/-- By the condition's own counts the cluster has converged: the pods are ready, the
roster was read and has the desired Voters and no Learner, and the image is current. -/
structure CountsConverged (cluster : KahunaCluster) (sts : StatefulSet) (pods : List Pod)
    (membership : Option Membership) : Prop where
  ready : desiredReplicas cluster ≤ sts.readyReplicas
  roster : ∃ m, membership = some m ∧
    m.members.countP (·.role == .voter) = desiredReplicas cluster ∧
    m.members.countP (·.role == .learner) = 0
  image : RolledOut cluster sts pods ∨ cluster.status.currentImage = cluster.spec.image

/-- What only the phase looks at: the StatefulSet's count of its pods, the latch with
the version that sets it, and whether there is to be a node at all. -/
structure PhaseSettled (cluster : KahunaCluster) (sts : StatefulSet)
    (membership : Option Membership) : Prop where
  replicas : sts.statusReplicas = desiredReplicas cluster
  bootstrapped : cluster.status.bootstrapped = true ∨
    ∃ m, membership = some m ∧ 0 < m.membershipVersion
  some_node : 0 < desiredReplicas cluster

section Agree
variable {cluster : KahunaCluster} {sts : StatefulSet} {pods : List Pod}
  {membership : Option Membership} {keystore : Bool × String}

theorem image_current_iff :
    (reportedStatus cluster sts pods membership).currentImage = cluster.spec.image ↔
      RolledOut cluster sts pods ∨ cluster.status.currentImage = cluster.spec.image := by
  rw [(reportedStatus_observed cluster sts pods membership).2.2, ← imageRolledOut_iff]
  by_cases hrolled : imageRolledOut cluster sts pods = true
  · simp [hrolled]
  · simp [hrolled]

theorem progressing_false_iff (keystore : Bool × String) :
    isStatusConditionFalse (reconcileStatus cluster sts pods membership keystore).conditions
        .progressing = true ↔ CountsConverged cluster sts pods membership := by
  have hready := (reportedStatus_observed cluster sts pods membership).1
  rw [reconcileStatus_progressing, statusProgressing, hready]
  simp only [Bool.not_or, Bool.not_not, Bool.and_eq_true, Bool.not_eq_true',
    decide_eq_false_iff_not, not_lt, beq_iff_eq, image_current_iff]
  cases membership with
  | none =>
      refine iff_of_false ?_ ?_
      · rintro ⟨⟨_, hconverged⟩, _⟩
        cases hconverged
      · rintro ⟨_, ⟨m, hm, _⟩, _⟩
        cases hm
  | some m =>
      obtain ⟨_, _, hvoters, hlearners⟩ := countedStatus_counts cluster sts pods m
      have hconverged : statusConverged (reportedStatus cluster sts pods (some m))
          (desiredReplicas cluster) true = true ↔
            m.members.countP (·.role == .voter) = desiredReplicas cluster ∧
              m.members.countP (·.role == .learner) = 0 := by
        rw [← hvoters, ← hlearners, statusConverged]
        simp only [Bool.true_and, Bool.and_eq_true, beq_iff_eq]
        rfl
      rw [Option.isSome_some, hconverged]
      constructor
      · rintro ⟨⟨hr, hroster⟩, himage⟩
        exact ⟨hr, ⟨m, rfl, hroster⟩, himage⟩
      · rintro ⟨hr, ⟨_, ⟨⟩, hroster⟩, himage⟩
        exact ⟨⟨hr, hroster⟩, himage⟩

/-- Of a cluster that has converged by those counts, the phase looks at the rest. -/
theorem running_iff_settled (h : CountsConverged cluster sts pods membership) :
    (reconcileStatus cluster sts pods membership keystore).phase = .running ↔
      PhaseSettled cluster sts membership := by
  obtain ⟨m, rfl, hvoters, hlearners⟩ := h.roster
  obtain ⟨hready, hreplicas, _⟩ := reportedStatus_observed cluster sts pods (some m)
  have hcounted : (reportedStatus cluster sts pods (some m)).voters = desiredReplicas cluster :=
    (countedStatus_counts cluster sts pods m).2.2.1.trans hvoters
  have hquiet := (progressing_false_iff keystore).mpr h
  rw [reconcileStatus_progressing, Bool.not_eq_true'] at hquiet
  have hlatch : (reportedStatus cluster sts pods (some m)).bootstrapped = true ↔
      cluster.status.bootstrapped = true ∨ ∃ r, some m = some r ∧ 0 < r.membershipVersion := by
    refine (reportedStatus_bootstrapped cluster sts pods (some m)).trans (or_congr_right ?_)
    constructor
    · rintro ⟨r, hr, hversion, _⟩
      exact ⟨r, hr, hversion⟩
    · rintro ⟨r, ⟨⟩, hversion⟩
      exact ⟨m, rfl, hversion, hvoters.ge⟩
  have hquorum : hasQuorum sts.readyReplicas (desiredReplicas cluster) = true ↔
      0 < desiredReplicas cluster := by
    have hr := h.ready
    simp only [hasQuorum, Bool.and_eq_true, decide_eq_true_eq]
    omega
  rw [reconcileStatus_phase, phaseOf_running_iff, hlatch, hready, hquorum, hreplicas, hcounted,
    hquiet]
  constructor
  · rintro ⟨hlatched, hnode, _, hsize, _, _⟩
    exact ⟨hsize, hlatched, hnode⟩
  · rintro ⟨hsize, hlatched, hnode⟩
    exact ⟨hlatched, hnode, rfl, hsize, rfl, rfl⟩

theorem converged_of_running
    (h : (reconcileStatus cluster sts pods membership keystore).phase = .running) :
    CountsConverged cluster sts pods membership := by
  rw [reconcileStatus_phase] at h
  obtain ⟨_, _, _, _, _, hquiet⟩ := phaseOf_running_iff.mp h
  rw [← progressing_false_iff keystore, reconcileStatus_progressing, hquiet]
  rfl

/-- For every StatefulSet status, roster, pod list, image and desired size: Progressing
is False exactly when the phase is Running, unless the counts of the condition have
converged and what only the phase looks at has not settled. -/
theorem progressing_tells_phase_iff :
    (isStatusConditionFalse (reconcileStatus cluster sts pods membership keystore).conditions
          .progressing = true ↔
        (reconcileStatus cluster sts pods membership keystore).phase = .running) ↔
      ¬ (CountsConverged cluster sts pods membership ∧
        ¬ PhaseSettled cluster sts membership) := by
  rw [progressing_false_iff]
  constructor
  · rintro hsame ⟨hconverged, hunsettled⟩
    exact hunsettled ((running_iff_settled hconverged).mp (hsame.mp hconverged))
  · intro hnot
    constructor
    · intro hconverged
      refine (running_iff_settled hconverged).mpr ?_
      by_contra hunsettled
      exact hnot ⟨hconverged, hunsettled⟩
    · exact converged_of_running

/-- What the pass schedules next does look at the StatefulSet: a bootstrapped cluster
is looked at again soon exactly when its phase is not Running. -/
theorem requeue_tells_phase
    (hboot : (reportedStatus cluster sts pods membership).bootstrapped = true)
    (hnode : 0 < desiredReplicas cluster) :
    requeueAfter cluster (reportedStatus cluster sts pods membership) membership.isSome =
        requeueProgressing ↔
      (reconcileStatus cluster sts pods membership keystore).phase ≠ .running := by
  rw [reconcileStatus_phase, ne_eq, phaseOf_running_iff, requeueAfter]
  constructor
  · rintro hsoon ⟨_, _, _, hreplicas, _, hquiet⟩
    simp only [hquiet, hreplicas, bne_self_eq_false, Bool.or_self, Bool.false_eq_true,
      if_false] at hsoon
    split at hsoon
    · exact absurd hsoon (by decide)
    · exact absurd hsoon (by decide)
  · intro hother
    rw [if_pos]
    by_contra hidle
    simp only [Bool.or_eq_true, not_or, Bool.not_eq_true, bne_eq_false_iff_eq] at hidle
    obtain ⟨hquiet, hreplicas⟩ := hidle
    have hcounts := hquiet
    simp only [statusProgressing, statusConverged, Bool.or_eq_false_iff, Bool.not_eq_false',
      Bool.and_eq_true, decide_eq_false_iff_not, not_lt, beq_iff_eq] at hcounts
    obtain ⟨⟨hready, ⟨hknown, hvoters⟩, _⟩, _⟩ := hcounts
    have hquorum : hasQuorum (reportedStatus cluster sts pods membership).readyReplicas
        (desiredReplicas cluster) = true := by
      simp only [hasQuorum, Bool.and_eq_true, decide_eq_true_eq]
      omega
    exact hother ⟨hboot, hquorum, hknown, hreplicas, hvoters, hquiet⟩

end Agree

/-! ## The end of a scale-down -/

def shrunkCluster : KahunaCluster :=
  { name := "kahuna"
    ns := "kv"
    spec := { replicas := some 3, image := "kahunakv/kahuna:1.12.9" }
    status :=
      { bootstrapped := true, bootstrapSize := 4, currentImage := "kahunakv/kahuna:1.12.9" } }

def shrunkSet : StatefulSet := { replicas := some 3, statusReplicas := 4, readyReplicas := 3 }

def shrunkRoster : Membership := rosterOf shrunkCluster 3 three_small

def shrunkStatus : KahunaClusterStatus :=
  reconcileStatus shrunkCluster shrunkSet (readyPods shrunkCluster 3) (some shrunkRoster)
    (true, "")

theorem shrunk_converged :
    CountsConverged shrunkCluster shrunkSet (readyPods shrunkCluster 3) (some shrunkRoster) where
  ready := by decide
  roster := ⟨shrunkRoster, rfl, by decide, by decide⟩
  image := Or.inr rfl

/-- Three nodes are ready and the roster is down to three Voters: Progressing is False,
and the phase is ScalingDown. -/
theorem terminating_pod_not_progressing :
    isStatusConditionFalse shrunkStatus.conditions .progressing = true ∧
      shrunkStatus.phase = .scalingDown := by
  refine ⟨(progressing_false_iff _).mpr shrunk_converged, ?_⟩
  obtain ⟨hready, hreplicas, _⟩ := reportedStatus_observed shrunkCluster shrunkSet
    (readyPods shrunkCluster 3) (some shrunkRoster)
  have hvoters : (reportedStatus shrunkCluster shrunkSet (readyPods shrunkCluster 3)
      (some shrunkRoster)).voters = 3 :=
    (countedStatus_counts shrunkCluster shrunkSet _ shrunkRoster).2.2.1.trans (by decide)
  have hboot : (reportedStatus shrunkCluster shrunkSet (readyPods shrunkCluster 3)
      (some shrunkRoster)).bootstrapped = true :=
    (reportedStatus_bootstrapped _ _ _ _).mpr (Or.inl rfl)
  have hdesired : desiredReplicas shrunkCluster = 3 := rfl
  rw [shrunkStatus, reconcileStatus_phase, phaseOf, hboot, hready, hreplicas, hvoters, hdesired]
  rfl

end KahunaOperator
