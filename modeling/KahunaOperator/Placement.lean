/-
# `KahunaOperator.Placement` — has the data followed the last membership change?

The placement half of `internal/controller/autoscaler.go`.  A partition with no
replica set is on every node and has nothing to settle; of every other active
partition each replica has to be a Voter on a current member.

`placementSettled` answers with the replicas hosted per member and a reason
that is empty exactly when everything has settled (`placementSettled_iff`).
`placementConverged` adds the autoscaler's own demand that every node carries a
share.  `growthCeiling` dereferences the placement it is given; a nil one is a
panic in the source, and a failed evaluation here.
-/
import KahunaOperator.Client

namespace KahunaOperator

inductive Panic where
  | nilDereference
deriving DecidableEq, Repr

/-- Every replica of an active partition that has a replica set, with its
partition's id. -/
def placedReplicas (p : Placement) : List (Int × ReplicaPlacement) :=
  (p.partitions.filter fun part => part.state == .active && !part.replicas.isEmpty).flatMap
    fun part => part.replicas.map fun rep => (part.partitionID, rep)

theorem mem_placedReplicas {p : Placement} {x : Int × ReplicaPlacement} :
    x ∈ placedReplicas p ↔
      ∃ part ∈ p.partitions, part.state = .active ∧ part.partitionID = x.1 ∧
        x.2 ∈ part.replicas := by
  simp only [placedReplicas, List.mem_flatMap, List.mem_filter, Bool.and_eq_true, beq_iff_eq,
    Bool.not_eq_true', List.isEmpty_eq_false_iff, List.mem_map]
  constructor
  · rintro ⟨part, ⟨hpart, hact, _⟩, rep, hrep, rfl⟩
    exact ⟨part, hpart, hact, rfl, hrep⟩
  · rintro ⟨part, hpart, hact, hid, hrep⟩
    exact ⟨part, ⟨hpart, hact, List.ne_nil_of_mem hrep⟩, x.2, hrep, Prod.ext hid rfl⟩

def memberEndpoints (cluster : KahunaCluster) (current : Nat) : List String :=
  (List.range current).map (raftEndpoint cluster)

theorem mem_memberEndpoints {cluster : KahunaCluster} {current : Nat} {e : String} :
    e ∈ memberEndpoints cluster current ↔ ∃ i < current, e = raftEndpoint cluster i := by
  simp only [memberEndpoints, List.mem_map, List.mem_range]
  constructor
  · rintro ⟨i, hi, rfl⟩
    exact ⟨i, hi, rfl⟩
  · rintro ⟨i, hi, rfl⟩
    exact ⟨i, hi, rfl⟩

/-- What `placementSettled` returns: the endpoint of every replica hosted on a
member (the source's map of counts, as a list), their number, and why it is not
settled. -/
structure SettledReport where
  hosted : List String
  total : Nat
  reason : String

def placementSettled (cluster : KahunaCluster) (p : Option Placement) (current : Nat) :
    SettledReport :=
  match p with
  | none => { hosted := [], total := 0, reason := "" }
  | some p =>
      let members := memberEndpoints cluster current
      let reps := placedReplicas p
      let inFlight := (reps.filter fun x => x.2.role != .voter).map (·.1)
      let stranded := (reps.filter fun x =>
        x.2.role == .voter && !members.contains x.2.endpoint).map (·.1)
      let hosted := (reps.filter fun x =>
        x.2.role == .voter && members.contains x.2.endpoint).map (·.2.endpoint)
      { hosted := hosted
        total := hosted.length
        reason :=
          if 0 < inFlight.length then
            "replica moves in flight on partitions " ++ fmtSlice inFlight
          else if 0 < stranded.length then
            "partitions " ++ fmtSlice stranded ++ " still have replicas on nodes that left"
          else "" }

/-- Every replica of every active placed partition is a Voter on an ordinal
below `current`.  A server without placement has nothing to settle. -/
def Settled (cluster : KahunaCluster) (p : Option Placement) (current : Nat) : Prop :=
  ∀ q ∈ p, ∀ part ∈ q.partitions, part.state = .active → ∀ rep ∈ part.replicas,
    rep.role = .voter ∧ ∃ i < current, rep.endpoint = raftEndpoint cluster i

theorem settled_none (cluster : KahunaCluster) (current : Nat) : Settled cluster none current :=
  fun _ h => absurd h (by simp)

theorem placementSettled_reason_iff {cluster : KahunaCluster} {q : Placement} {current : Nat} :
    (placementSettled cluster (some q) current).reason = "" ↔
      ∀ x ∈ placedReplicas q,
        x.2.role = .voter ∧ x.2.endpoint ∈ memberEndpoints cluster current := by
  simp only [placementSettled, List.length_map, List.length_filter_pos_iff]
  split
  · next h =>
      obtain ⟨x, hx, hrole⟩ := h
      refine iff_of_false (by simp [String.append_eq_empty_iff]) ?_
      intro hall
      simp [(hall x hx).1] at hrole
  · next h =>
      have hvoter : ∀ x ∈ placedReplicas q, x.2.role = .voter := by
        intro x hx
        by_contra hne
        exact h ⟨x, hx, by simpa using hne⟩
      split
      · next h' =>
          obtain ⟨x, hx, hstranded⟩ := h'
          refine iff_of_false (by simp [String.append_eq_empty_iff]) ?_
          intro hall
          simp [(hall x hx).1, (hall x hx).2] at hstranded
      · next h' =>
          refine iff_of_true rfl ?_
          intro x hx
          refine ⟨hvoter x hx, ?_⟩
          by_contra hne
          exact h' ⟨x, hx, by simp [hvoter x hx, hne]⟩

theorem placementSettled_iff {cluster : KahunaCluster} {p : Option Placement} {current : Nat} :
    (placementSettled cluster p current).reason = "" ↔ Settled cluster p current := by
  cases p with
  | none => exact ⟨fun _ => settled_none cluster current, fun _ => rfl⟩
  | some q =>
      rw [placementSettled_reason_iff]
      constructor
      · intro h q' hq' part hpart hact rep hrep
        obtain rfl : q = q' := by simpa using hq'
        have hx := h (part.partitionID, rep) (mem_placedReplicas.mpr ⟨part, hpart, hact, rfl, hrep⟩)
        exact ⟨hx.1, mem_memberEndpoints.mp hx.2⟩
      · intro h x hx
        obtain ⟨part, hpart, hact, _, hrep⟩ := mem_placedReplicas.mp hx
        obtain ⟨hrole, hend⟩ := h q rfl part hpart hact x.2 hrep
        exact ⟨hrole, mem_memberEndpoints.mpr hend⟩

/-- Settled, and every node carries at least half of an even share; the share is
waited for only until `settleBy`. -/
def placementConverged (cluster : KahunaCluster) (p : Option Placement) (current : Nat)
    (now : Time) (settleBy : Option Time) : Bool × String :=
  let settled := placementSettled cluster p current
  if settled.reason ≠ "" then (false, settled.reason)
  else
    let share := settled.total / current
    if share = 0 ∨ (∃ deadline ∈ settleBy, deadline ≤ now) then (true, "")
    else
      let minShare := max 1 (share / 2)
      match (List.range current).find? fun i =>
          decide (settled.hosted.count (raftEndpoint cluster i) < minShare) with
      | some i =>
          (false, podName cluster i ++ " holds " ++
            toString (settled.hosted.count (raftEndpoint cluster i)) ++ " of the " ++
            toString share ++ " data replicas it should carry")
      | none => (true, "")

def maxReplicationFactor : Nat := 3

/-- The largest size the cluster may grow to while a data partition is on every
node, with the text that explains it; `0` is no ceiling. -/
def growthCeiling (p : Option Placement) : Except Panic (Nat × String) :=
  match p with
  | none => .error .nilDereference
  | some p =>
      let full := p.fullyReplicated
      if 0 < full.length then
        .ok (maxReplicationFactor,
          "partitions " ++ fmtSlice full ++ " are fully replicated, so growing past " ++
            toString maxReplicationFactor ++ " nodes would exceed " ++
            toString maxReplicationFactor ++ " copies; Kahuna 1.12.3 or later converts them " ++
            "shortly after start; an older server needs a cluster created with more nodes " ++
            "than its replication factor")
      else .ok (0, "")

/-- Some active data partition has no replica set: every node holds it. -/
def Placement.OnEveryNode (p : Placement) : Prop :=
  ∃ part ∈ p.partitions, 0 < part.partitionID ∧ part.state = .active ∧ part.replicas = []

theorem Placement.OnEveryNode.ceiling {p : Placement} (h : p.OnEveryNode) {ceiling : Nat}
    {reason : String} (hceil : growthCeiling (some p) = .ok (ceiling, reason)) :
    ceiling = maxReplicationFactor := by
  obtain ⟨part, hpart, hid, hstate, hreplicas⟩ := h
  have hfull : part.partitionID ∈ p.fullyReplicated := by
    refine List.mem_map.mpr ⟨part, List.mem_filter.mpr ⟨hpart, ?_⟩, rfl⟩
    simp [hid, hstate, hreplicas]
  have hpos : 0 < p.fullyReplicated.length := List.length_pos_of_mem hfull
  simp only [growthCeiling, if_pos hpos] at hceil
  cases hceil
  rfl

end KahunaOperator
