/-
# `KahunaOperator.Plan` — the size and partition of one pass

`internal/controller/plan.go`.  `buildPlan` is the whole membership policy of
the operator:

    not bootstrapped                      size := target,           partition := 0
    roster is not exactly the Voters of   size := current,          partition := current
      ordinals 0 … current-1
    placement unreadable or unsettled     size := current,          partition := 0
    otherwise                             one step to the target,   partition := 0

`rosterMatches_iff` says what the gate tests: the roster, as a multiset of
(endpoint, role) pairs, is the Voters of the ordinals below the size.  The test
itself only counts and looks each ordinal up; that it is exact is a pigeonhole
argument over distinct endpoints.  `buildPlan_greenfield` and
`buildPlan_cases` are the only two lemmas about `buildPlan` used elsewhere.
-/
import KahunaOperator.Lib.Cover
import KahunaOperator.Membership
import KahunaOperator.Placement

namespace KahunaOperator

/-! ## The roster gate -/

def rosterMatches (cluster : KahunaCluster) (m : Option Membership) (replicas : Nat) : Bool :=
  match m with
  | none => false
  | some m =>
      if int32 m.members.length ≠ replicas then false
      else (List.range replicas).all fun i => m.hasVoter (raftEndpoint cluster i)

/-- The roster is the Voters of the ordinals below `n` and nothing else. -/
def ExactVoters (cluster : KahunaCluster) (m : Membership) (n : Nat) : Prop :=
  (m.members.map Member.key).Perm
    ((List.range n).map fun i => (raftEndpoint cluster i, Role.voter))

theorem voterKey_injective (cluster : KahunaCluster) :
    Function.Injective fun i => (raftEndpoint cluster i, Role.voter) := by
  intro i j h
  exact raftEndpoint_inj (Prod.mk.inj h).1

theorem rosterMatches_iff {cluster : KahunaCluster} {m : Membership} {n : Nat} :
    rosterMatches cluster (some m) n = true ↔ ExactVoters cluster m n := by
  unfold ExactVoters
  rw [Lib.perm_range_iff (voterKey_injective cluster), List.length_map]
  simp only [rosterMatches, int32_of_lt m.small, ne_eq, Int.natCast_inj]
  by_cases hlen : m.members.length = n
  · simp only [hlen, not_true_eq_false, if_false, List.all_eq_true, List.mem_range,
      Membership.hasVoter_iff, true_and]
  · simp [hlen]

/-- A roster, and so a size it matches, is no longer than the source can count. -/
theorem ExactVoters.small {cluster : KahunaCluster} {m : Membership} {n : Nat}
    (h : ExactVoters cluster m n) : n < 2 ^ 31 := by
  have hlen := h.length_eq
  simp only [List.length_map, List.length_range] at hlen
  exact lt_of_eq_of_lt hlen.symm m.small

theorem rosterMatches_some {cluster : KahunaCluster} {m : Option Membership} {n : Nat}
    (h : rosterMatches cluster m n = true) : ∃ r, m = some r ∧ ExactVoters cluster r n := by
  cases m with
  | none => simp [rosterMatches] at h
  | some r => exact ⟨r, rfl, rosterMatches_iff.mp h⟩

theorem ExactVoters.unique {cluster : KahunaCluster} {m : Membership} {a b : Nat}
    (ha : ExactVoters cluster m a) (hb : ExactVoters cluster m b) : a = b := by
  have h := (ha.symm.trans hb).length_eq
  simpa using h

def rosterHoldReason (cluster : KahunaCluster) (m : Option Membership) (replicas : Nat) : String :=
  match m with
  | none => "waiting for cluster membership to become readable"
  | some m =>
      let missing := ((List.range replicas).filter fun i =>
        !m.hasVoter (raftEndpoint cluster i)).map (podName cluster)
      let extra := (m.members.filter fun mem =>
        !(memberEndpoints cluster replicas).contains mem.endpoint).map (·.endpoint)
      if 0 < missing.length ∧ 0 < extra.length then
        "waiting for " ++ fmtSlice missing ++ " to become voters and " ++ fmtSlice extra ++
          " to be evicted"
      else if 0 < missing.length then "waiting for " ++ fmtSlice missing ++ " to become voters"
      else if 0 < extra.length then "waiting for the cluster to evict " ++ fmtSlice extra
      else "waiting for the roster to converge"

/-! ## The plan -/

/-- The StatefulSet size and rolling-update partition of a pass, and why a step
was not taken. -/
structure Plan where
  replicas : Nat
  partition : Nat
  reason : String := ""
deriving DecidableEq, Repr

/-- One node towards the target, never below one node. -/
def stepTowards (currentReplicas target : Nat) : Nat :=
  if currentReplicas < target then currentReplicas + 1
  else if target < currentReplicas then
    if 1 < currentReplicas then currentReplicas - 1 else currentReplicas
  else currentReplicas

def buildPlan (cluster : KahunaCluster) (currentReplicas : Nat) (bootstrapped : Bool)
    (m : Option Membership) (placement : Option Placement) (placementErr : Option KahunaError) :
    Plan :=
  let target := desiredReplicas cluster
  if !bootstrapped then { replicas := target, partition := 0 }
  else if !rosterMatches cluster m currentReplicas then
    { replicas := currentReplicas, partition := currentReplicas,
      reason := rosterHoldReason cluster m currentReplicas }
  else
    match placementErr with
    | some e =>
        { replicas := currentReplicas, partition := 0,
          reason := "waiting for replica placement to become readable: " ++ e.message }
    | none =>
        let reason := (placementSettled cluster placement currentReplicas).reason
        if reason ≠ "" then
          { replicas := currentReplicas, partition := 0,
            reason := "waiting for replica placement to settle: " ++ reason }
        else { replicas := stepTowards currentReplicas target, partition := 0 }

theorem stepTowards_cases (c t : Nat) :
    stepTowards c t = c ∨ (stepTowards c t = c + 1 ∧ c + 1 ≤ t) ∨
      (c = stepTowards c t + 1 ∧ max t 1 ≤ stepTowards c t) := by
  unfold stepTowards
  split
  · right; left; omega
  · split
    · split
      · right; right; omega
      · left; rfl
    · left; rfl

theorem buildPlan_greenfield (cluster : KahunaCluster) (c : Nat) (m : Option Membership)
    (placement : Option Placement) (err : Option KahunaError) :
    buildPlan cluster c false m placement err =
      { replicas := desiredReplicas cluster, partition := 0 } := rfl

/-- Everything `buildPlan` can do for a bootstrapped cluster. -/
theorem buildPlan_cases (cluster : KahunaCluster) (c : Nat) (m : Option Membership)
    (placement : Option Placement) (err : Option KahunaError) :
    let p := buildPlan cluster c true m placement err
    (rosterMatches cluster m c = false ∧ p.replicas = c ∧ p.partition = c) ∨
    (rosterMatches cluster m c = true ∧ p.partition = 0 ∧
      ((p.replicas = c ∧ (err ≠ none ∨ ¬ Settled cluster placement c)) ∨
        (err = none ∧ Settled cluster placement c ∧
          p.replicas = stepTowards c (desiredReplicas cluster)))) := by
  intro p
  cases hr : rosterMatches cluster m c with
  | false =>
      left
      simp [p, buildPlan, hr]
  | true =>
      right
      refine ⟨rfl, ?_⟩
      cases err with
      | some e => simp [p, buildPlan, hr]
      | none =>
          by_cases hs : Settled cluster placement c
          · have hreason := placementSettled_iff.mpr hs
            simp [p, buildPlan, hr, hreason, hs]
          · have hreason := mt placementSettled_iff.mp hs
            simp [p, buildPlan, hr, hreason, hs]

end KahunaOperator
