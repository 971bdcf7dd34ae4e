/-
# `KahunaOperator.StatefulSet` — from a plan to the StatefulSet written

The observation a pass makes of the cluster (`observe`), and
`reconcileStatefulSet` of `internal/controller/kahunacluster_controller.go`:
the plan for the size found, the leave request that goes before a removal, and
the fields the update carries.

`GatedStep` is the contract of one planned write for a bootstrapped cluster:
how far the size may move, which roster and placement let it move, what the
departing node answered, and when the partition freezes.  `planned_gatedStep`
proves it of `planStatefulSet`, for any size found and any observation.
-/
import KahunaOperator.Autoscaler

namespace KahunaOperator

/-! ## Observation -/

/-- Ask one ready node after another for the placement; a server without the
endpoint answers for all of them. -/
def readPlacement (cluster : KahunaCluster) (kahuna : Client) :
    List Pod → KahunaError → Except KahunaError Placement
  | [], lastErr => .error lastErr
  | pod :: pods, lastErr =>
      if pod.podIP == "" || pod.deleting || !podIsReady pod then
        readPlacement cluster kahuna pods lastErr
      else
        match kahuna.placement (podBaseURL cluster pod) with
        | .ok p => .ok p
        | .error .placementUnsupported => .error .placementUnsupported
        | .error e => readPlacement cluster kahuna pods e

def placementRead (env : PassEnv) (cluster : KahunaCluster) : Except KahunaError Placement :=
  readPlacement cluster env.kahuna env.pods (.other "no ready pod to read placement from")

structure Observed where
  membership : Option Membership
  placement : Option Placement
  placementErr : Option KahunaError

/-- An unreadable roster is no roster; a server without placement is no
placement and no error. -/
def observe (env : PassEnv) (cluster : KahunaCluster) : Observed :=
  let membership := (readMembership cluster env.kahuna env.pods).toOption
  match placementRead env cluster with
  | .ok p => { membership := membership, placement := some p, placementErr := none }
  | .error .placementUnsupported =>
      { membership := membership, placement := none, placementErr := none }
  | .error e => { membership := membership, placement := none, placementErr := some e }

theorem observe_placementErr_none {env : PassEnv} {cluster : KahunaCluster}
    (h : (observe env cluster).placementErr = none) :
    (∃ p, placementRead env cluster = .ok p ∧ (observe env cluster).placement = some p) ∨
      (placementRead env cluster = .error .placementUnsupported ∧
        (observe env cluster).placement = none) := by
  unfold observe at h ⊢
  cases hr : placementRead env cluster with
  | ok p => exact Or.inl ⟨p, rfl, rfl⟩
  | error e =>
      cases e with
      | placementUnsupported => exact Or.inr ⟨rfl, rfl⟩
      | other msg =>
          rw [hr] at h
          exact absurd h (by simp)

theorem observe_no_pods {env : PassEnv} (h : env.pods = []) (cluster : KahunaCluster) :
    (observe env cluster).membership = none := by
  have hroster : readMembership cluster env.kahuna env.pods =
      .error (.other "no pod was reachable") := by
    simp [readMembership, h, firstAnswer]
  have hplaced : placementRead env cluster =
      .error (.other "no ready pod to read placement from") := by
    unfold placementRead
    rw [h]
    rfl
  simp only [observe, hplaced, hroster]
  rfl

/-! ## The StatefulSet -/

/-- `updateStrategy.rollingUpdate`; its partition may be nil on its own. -/
structure RollingUpdate where
  partition : Option Nat
deriving DecidableEq, Repr

/-- The fields of a StatefulSet the operator reads or writes, without the pod
template, which no size decision reads. -/
structure StatefulSet where
  replicas : Option Nat
  rollingUpdate : Option RollingUpdate := none
  whenScaled : PVCRetentionPolicy := .retain
  statusReplicas : Nat := 0
  readyReplicas : Nat := 0
deriving DecidableEq, Repr

def StatefulSet.size (sts : StatefulSet) : Nat := sts.replicas.getD 0

def desiredStatefulSet (cluster : KahunaCluster) (partition : Nat) : StatefulSet :=
  { replicas := some (desiredReplicas cluster)
    rollingUpdate := some { partition := some partition }
    whenScaled := cluster.spec.storage.pvcRetentionPolicy }

/-- The plan for the size found, overridden when the departing node is still a
member. -/
def planStatefulSet (env : PassEnv) (cluster : KahunaCluster) (bootstrapped : Bool)
    (o : Observed) (currentReplicas : Nat) : Plan :=
  let p := buildPlan cluster currentReplicas bootstrapped o.membership o.placement o.placementErr
  if p.replicas < currentReplicas then
    let left := decommission cluster env.kahuna env.pods (currentReplicas - 1)
    if !left.1 then
      { replicas := currentReplicas, partition := currentReplicas, reason := left.2 }
    else p
  else p

/-- The leave requests of a pass: the ordinal asked and its answer. -/
def leaveCalls (env : PassEnv) (cluster : KahunaCluster) (bootstrapped : Bool) (o : Observed)
    (currentReplicas : Nat) : List (Nat × Except KahunaError LeaveResult) :=
  let p := buildPlan cluster currentReplicas bootstrapped o.membership o.placement o.placementErr
  if p.replicas < currentReplicas then
    match leaveTarget cluster env.pods (currentReplicas - 1) with
    | none => []
    | some pod => [(currentReplicas - 1, env.kahuna.leave (podBaseURL cluster pod))]
  else []

/-- The mutation inside `CreateOrUpdate`: size, update strategy and retention
policy are set, everything else is the object found. -/
def applyPlan (cluster : KahunaCluster) (p : Plan) (sts : StatefulSet) : StatefulSet :=
  let desired := desiredStatefulSet cluster p.partition
  { sts with
    replicas := some p.replicas
    rollingUpdate := desired.rollingUpdate
    whenScaled := desired.whenScaled }

@[simp] theorem applyPlan_size (cluster : KahunaCluster) (p : Plan) (sts : StatefulSet) :
    (applyPlan cluster p sts).size = p.replicas := rfl

@[simp] theorem applyPlan_rollingUpdate (cluster : KahunaCluster) (p : Plan)
    (sts : StatefulSet) :
    (applyPlan cluster p sts).rollingUpdate = some { partition := some p.partition } := rfl

/-- The StatefulSet a pass leaves, when both of its reads return `existing`: a
new one at the desired size, or the existing one with the plan applied. -/
def reconcileStatefulSet (env : PassEnv) (cluster : KahunaCluster) (bootstrapped : Bool)
    (o : Observed) (existing : Option StatefulSet) : StatefulSet :=
  match existing with
  | none => desiredStatefulSet cluster 0
  | some sts => applyPlan cluster (planStatefulSet env cluster bootstrapped o sts.size) sts

/-! ## The contract of one planned write -/

def RosterExact (cluster : KahunaCluster) (o : Observed) (n : Nat) : Prop :=
  ∃ m, o.membership = some m ∧ ExactVoters cluster m n

theorem rosterMatches_iff_exact {cluster : KahunaCluster} {o : Observed} {n : Nat} :
    rosterMatches cluster o.membership n = true ↔ RosterExact cluster o n := by
  constructor
  · exact rosterMatches_some
  · rintro ⟨m, hm, hexact⟩
    rw [hm]
    exact rosterMatches_iff.mpr hexact

/-- What a plan `p` for a bootstrapped cluster found at size `c` may do. -/
structure GatedStep (env : PassEnv) (cluster : KahunaCluster) (o : Observed) (c : Nat)
    (p : Plan) : Prop where
  size : p.replicas = c ∨ (p.replicas = c + 1 ∧ c + 1 ≤ desiredReplicas cluster) ∨
    (c = p.replicas + 1 ∧ max (desiredReplicas cluster) 1 ≤ p.replicas)
  gate : p.replicas ≠ c →
    RosterExact cluster o c ∧ o.placementErr = none ∧ Settled cluster o.placement c
  left : p.replicas < c →
    NoReachablePod cluster env.pods (c - 1) ∨ LeaveAnswered cluster env.kahuna env.pods (c - 1)
  frozen : ¬ RosterExact cluster o c → p.partition = c

theorem GatedStep.hold (env : PassEnv) (cluster : KahunaCluster) (o : Observed) (c : Nat)
    (reason : String) :
    GatedStep env cluster o c { replicas := c, partition := c, reason := reason } where
  size := Or.inl rfl
  gate := fun h => absurd rfl h
  left := fun h => absurd h (Nat.lt_irrefl c)
  frozen := fun _ => rfl

/-- The plan alone, before the leave request, keeps every clause but the one
about the departing node. -/
theorem buildPlan_gated (cluster : KahunaCluster) (o : Observed) (c : Nat) :
    let p := buildPlan cluster c true o.membership o.placement o.placementErr
    (p.replicas = c ∨ (p.replicas = c + 1 ∧ c + 1 ≤ desiredReplicas cluster) ∨
      (c = p.replicas + 1 ∧ max (desiredReplicas cluster) 1 ≤ p.replicas)) ∧
    (p.replicas ≠ c →
      RosterExact cluster o c ∧ o.placementErr = none ∧ Settled cluster o.placement c) ∧
    (¬ RosterExact cluster o c → p.partition = c) := by
  intro p
  rcases buildPlan_cases cluster c o.membership o.placement o.placementErr with
    ⟨hroster, hsize, hpart⟩ | ⟨hroster, _, ⟨hsize, _⟩ | ⟨herr, hsettled, hsize⟩⟩
  · exact ⟨Or.inl hsize, fun h => absurd hsize h, fun _ => hpart⟩
  · have hexact := rosterMatches_iff_exact.mp hroster
    exact ⟨Or.inl hsize, fun h => absurd hsize h, fun h => absurd hexact h⟩
  · have hexact := rosterMatches_iff_exact.mp hroster
    refine ⟨?_, fun _ => ⟨hexact, herr, hsettled⟩, fun h => absurd hexact h⟩
    have hstep := stepTowards_cases c (desiredReplicas cluster)
    rw [← hsize] at hstep
    exact hstep

theorem planned_gatedStep (env : PassEnv) (cluster : KahunaCluster) (o : Observed) (c : Nat) :
    GatedStep env cluster o c (planStatefulSet env cluster true o c) := by
  obtain ⟨hsize, hgate, hfrozen⟩ := buildPlan_gated cluster o c
  simp only [planStatefulSet]
  split
  · next hlt =>
      split
      · exact GatedStep.hold env cluster o c _
      · next hleft =>
          refine ⟨hsize, hgate, fun _ => ?_, hfrozen⟩
          exact decommission_left (by simpa using hleft)
  · next hge => exact ⟨hsize, hgate, fun h => absurd h hge, hfrozen⟩

theorem planStatefulSet_held {env : PassEnv} {cluster : KahunaCluster} {o : Observed} {c : Nat}
    (h : ¬ RosterExact cluster o c) : (planStatefulSet env cluster true o c).replicas = c := by
  by_contra hne
  exact h ((planned_gatedStep env cluster o c).gate hne).1

end KahunaOperator
