/-
# `KahunaOperator.Share` — which nodes carry their share of the data

`placementConverged` waits until every node hosts a reasonable share of the
placed replicas.  With `h i` the Voter replicas on ordinal `i`, and the share the
whole part of the mean of `h` over the first `c` ordinals:

    the counts of the loops add up to their total                   (`hosted_sum`)
    every count the share or more        ⟹  converged   (`placementConverged_of_share`)
    counts that differ by at most one    ⟹  converged          (`balanced_never_waits`)
    every count half the share or more, and one at least
                                         ⟹  converged, before the deadline
    converged, before the deadline       ⟹  every count half the share or more, rounded
                                            down, and one at least

The last two are not converses.  The comment asks for half the even share, and
its test says of a share of three that one replica is too few; the code divides
the share by two in whole numbers, and one is enough (`half_share_iff`).
-/
import KahunaOperator.Placement
import KahunaOperator.Lib.Balance

namespace KahunaOperator

/-! ## The loops of `placementSettled` -/

/-- The variables of the loops: the map of counts, with zero for a missing key, and
the partitions of the offending replicas. -/
structure SettledCounts where
  hosted : String → Nat := fun _ => 0
  total : Nat := 0
  inFlight : List Int := []
  stranded : List Int := []

namespace SettledCounts

def addReplica (members : List String) (t : SettledCounts) (id : Int) (rep : ReplicaPlacement) :
    SettledCounts :=
  if rep.role ≠ .voter then { t with inFlight := t.inFlight ++ [id] }
  else if !members.contains rep.endpoint then { t with stranded := t.stranded ++ [id] }
  else { t with hosted := Lib.bump t.hosted rep.endpoint, total := t.total + 1 }

def addPartition (members : List String) (t : SettledCounts) (part : PartitionPlacement) :
    SettledCounts :=
  if part.state ≠ .active ∨ part.replicas.isEmpty then t
  else part.replicas.foldl (fun t rep => t.addReplica members part.partitionID rep) t

def reason (t : SettledCounts) : String :=
  if 0 < t.inFlight.length then
    "replica moves in flight on partitions " ++ fmtSlice t.inFlight
  else if 0 < t.stranded.length then
    "partitions " ++ fmtSlice t.stranded ++ " still have replicas on nodes that left"
  else ""

end SettledCounts

def settledCounts (cluster : KahunaCluster) (p : Option Placement) (current : Nat) :
    SettledCounts :=
  match p with
  | none => {}
  | some p =>
      p.partitions.foldl (SettledCounts.addPartition (memberEndpoints cluster current)) {}

/-! ### They count what `placementSettled` collects -/

theorem placedReplicas_cons (part : PartitionPlacement) (parts : List PartitionPlacement) :
    placedReplicas { partitions := part :: parts } =
      (if part.state ≠ .active ∨ part.replicas.isEmpty then []
        else part.replicas.map fun rep => (part.partitionID, rep)) ++
      placedReplicas { partitions := parts } := by
  by_cases hskip : part.state ≠ .active ∨ part.replicas.isEmpty = true
  · have hfilter : (part.state == .active && !part.replicas.isEmpty) = false := by
      rcases hskip with h | h <;> simp [h]
    simp only [placedReplicas, List.filter_cons, hfilter, Bool.false_eq_true, if_false, hskip,
      if_true, List.nil_append]
  · have hfilter : (part.state == .active && !part.replicas.isEmpty) = true := by
      simpa [not_or] using hskip
    simp only [placedReplicas, List.filter_cons, hfilter, if_true, List.flatMap_cons, hskip,
      if_false]

theorem foldl_addPartition (members : List String) (parts : List PartitionPlacement)
    (t : SettledCounts) :
    parts.foldl (SettledCounts.addPartition members) t =
      (placedReplicas { partitions := parts }).foldl
        (fun t x => t.addReplica members x.1 x.2) t := by
  induction parts generalizing t with
  | nil => rfl
  | cons part parts ih =>
      rw [List.foldl_cons, ih, placedReplicas_cons, List.foldl_append]
      congr 1
      simp only [SettledCounts.addPartition]
      split
      · rfl
      · rw [List.foldl_map]

section Loop
variable (members : List String)

/-- The replicas of a list that are counted, and the partitions of those that are
not. -/
def hostedOf (xs : List (Int × ReplicaPlacement)) : List String :=
  (xs.filter fun x => x.2.role == .voter && members.contains x.2.endpoint).map (·.2.endpoint)

def inFlightOf (xs : List (Int × ReplicaPlacement)) : List Int :=
  (xs.filter fun x => x.2.role != .voter).map (·.1)

def strandedOf (xs : List (Int × ReplicaPlacement)) : List Int :=
  (xs.filter fun x => x.2.role == .voter && !members.contains x.2.endpoint).map (·.1)

variable (x : Int × ReplicaPlacement) (xs : List (Int × ReplicaPlacement))

theorem hostedOf_cons :
    hostedOf members (x :: xs) =
      if x.2.role = .voter ∧ x.2.endpoint ∈ members then x.2.endpoint :: hostedOf members xs
      else hostedOf members xs := by
  simp only [hostedOf, List.filter_cons, Bool.and_eq_true, beq_iff_eq, List.contains_iff_mem]
  split <;> rfl

theorem inFlightOf_cons :
    inFlightOf (x :: xs) =
      if x.2.role ≠ .voter then x.1 :: inFlightOf xs else inFlightOf xs := by
  simp only [inFlightOf, List.filter_cons, bne_iff_ne]
  split <;> rfl

theorem strandedOf_cons :
    strandedOf members (x :: xs) =
      if x.2.role = .voter ∧ x.2.endpoint ∉ members then x.1 :: strandedOf members xs
      else strandedOf members xs := by
  simp only [strandedOf, List.filter_cons, Bool.and_eq_true, beq_iff_eq, Bool.not_eq_true',
    ← Bool.not_eq_true, List.contains_iff_mem]
  split <;> rfl

/-- Every replica is in exactly one of the three. -/
theorem foldl_addReplica (t : SettledCounts) :
    xs.foldl (fun t x => t.addReplica members x.1 x.2) t =
      { hosted := fun e => t.hosted e + (hostedOf members xs).count e
        total := t.total + (hostedOf members xs).length
        inFlight := t.inFlight ++ inFlightOf xs
        stranded := t.stranded ++ strandedOf members xs } := by
  induction xs generalizing t with
  | nil => simp [hostedOf, inFlightOf, strandedOf]
  | cons x xs ih =>
      rw [List.foldl_cons, ih, hostedOf_cons, inFlightOf_cons, strandedOf_cons]
      by_cases hrole : x.2.role = .voter
      · by_cases hmember : x.2.endpoint ∈ members
        · have hstep : t.addReplica members x.1 x.2 =
              { t with hosted := Lib.bump t.hosted x.2.endpoint, total := t.total + 1 } := by
            simp [SettledCounts.addReplica, hrole, hmember]
          simp only [hstep, hrole, hmember, and_self, not_true, and_false, if_true, if_false,
            Lib.bump_add_count, List.length_cons, ne_eq, SettledCounts.mk.injEq, true_and, and_true]
          omega
        · have hstep : t.addReplica members x.1 x.2 =
              { t with stranded := t.stranded ++ [x.1] } := by
            simp [SettledCounts.addReplica, hrole, hmember]
          simp only [hstep, hrole, hmember, and_false, not_false_eq_true, and_self, if_true,
            if_false, ne_eq, not_true, List.append_assoc, List.singleton_append]
      · have hstep : t.addReplica members x.1 x.2 =
            { t with inFlight := t.inFlight ++ [x.1] } := by
          simp [SettledCounts.addReplica, hrole]
        simp only [hstep, hrole, false_and, if_false, ne_eq, not_false_eq_true, if_true,
          List.append_assoc, List.singleton_append]

end Loop

/-- The loops return what `placementSettled` does, with the replicas counted by
endpoint. -/
theorem settledCounts_settled (cluster : KahunaCluster) (p : Option Placement) (current : Nat) :
    (∀ e, (settledCounts cluster p current).hosted e =
        (placementSettled cluster p current).hosted.count e) ∧
      (settledCounts cluster p current).total = (placementSettled cluster p current).total ∧
      (settledCounts cluster p current).reason = (placementSettled cluster p current).reason := by
  cases p with
  | none => exact ⟨fun _ => rfl, rfl, rfl⟩
  | some q =>
      have hloop : settledCounts cluster (some q) current = _ :=
        (foldl_addPartition _ _ _).trans (foldl_addReplica _ _ _)
      rw [hloop]
      refine ⟨?_, ?_, ?_⟩
      · intro e
        exact Nat.zero_add _
      · exact Nat.zero_add _
      · rfl

/-! ## Replicas per ordinal -/

/-- The Voter replicas placed on an ordinal. -/
def replicasOn (cluster : KahunaCluster) (p : Option Placement) (i : Nat) : Nat :=
  (p.toList.flatMap placedReplicas).countP fun x =>
    x.2.role == .voter && x.2.endpoint == raftEndpoint cluster i

/-- Those on the ordinals below `c`, and the even share of each. -/
def placedOn (cluster : KahunaCluster) (p : Option Placement) (c : Nat) : Nat :=
  ∑ i ∈ Finset.range c, replicasOn cluster p i

def evenShare (cluster : KahunaCluster) (p : Option Placement) (c : Nat) : Nat :=
  placedOn cluster p c / c

section Counts
variable {cluster : KahunaCluster} {p : Option Placement} {c : Nat}

theorem hosted_member {e : String} (h : e ∈ (placementSettled cluster p c).hosted) :
    ∃ i < c, e = raftEndpoint cluster i := by
  cases p with
  | none => cases h
  | some q =>
      obtain ⟨x, hx, rfl⟩ := List.mem_map.mp h
      have hmember := (List.mem_filter.mp hx).2
      rw [Bool.and_eq_true, List.contains_iff_mem] at hmember
      exact mem_memberEndpoints.mp hmember.2

theorem hosted_count {i : Nat} (hi : i < c) :
    (placementSettled cluster p c).hosted.count (raftEndpoint cluster i) =
      replicasOn cluster p i := by
  cases p with
  | none => rfl
  | some q =>
      have hmember : (memberEndpoints cluster c).contains (raftEndpoint cluster i) = true :=
        List.contains_iff_mem.mpr (mem_memberEndpoints.mpr ⟨i, hi, rfl⟩)
      show (hostedOf (memberEndpoints cluster c) (placedReplicas q)).count _ = _
      simp only [replicasOn, hostedOf, Option.toList_some, List.flatMap_singleton,
        List.count_eq_countP, List.countP_map, List.countP_filter]
      refine List.countP_congr ?_
      intro x _
      simp only [Function.comp, Bool.and_eq_true, beq_iff_eq]
      constructor
      · rintro ⟨hendpoint, hrole, _⟩
        exact ⟨hrole, hendpoint⟩
      · rintro ⟨hrole, hendpoint⟩
        rw [hendpoint]
        exact ⟨rfl, hrole, hmember⟩

theorem hosted_sum :
    ∑ i ∈ Finset.range c, (placementSettled cluster p c).hosted.count (raftEndpoint cluster i) =
      (placementSettled cluster p c).total := by
  rw [Lib.sum_count_range (raftEndpoint_injective cluster) fun e he => hosted_member he]
  cases p with
  | none => rfl
  | some q => rfl

theorem total_eq_placedOn : (placementSettled cluster p c).total = placedOn cluster p c := by
  rw [← hosted_sum, placedOn]
  refine Finset.sum_congr rfl ?_
  intro i hi
  exact hosted_count (Finset.mem_range.mp hi)

/-- Before the deadline a settled placement has converged exactly when there is no
share to wait for or every node has the share halved in whole numbers, and one at
least. -/
theorem placementConverged_iff {now : Time} {settleBy : Option Time}
    (hsettled : Settled cluster p c) (hopen : ∀ deadline ∈ settleBy, now < deadline) :
    (placementConverged cluster p c now settleBy).1 = true ↔
      evenShare cluster p c = 0 ∨
        ∀ i < c, max 1 (evenShare cluster p c / 2) ≤ replicasOn cluster p i := by
  have hclock : ¬ ∃ deadline ∈ settleBy, deadline ≤ now := by
    rintro ⟨deadline, hd, hle⟩
    exact absurd hle (not_le.mpr (hopen deadline hd))
  simp only [placementConverged, placementSettled_iff.mpr hsettled, total_eq_placedOn, hclock,
    ne_eq, not_true, if_false, or_false]
  change _ ↔ placedOn cluster p c / c = 0 ∨ _
  by_cases hshare : placedOn cluster p c / c = 0
  · simp only [hshare, if_true, true_or]
  · simp only [hshare, if_false, false_or]
    have hlow : ∀ i < c, ((placementSettled cluster p c).hosted.count (raftEndpoint cluster i) <
        max 1 (placedOn cluster p c / c / 2) ↔
          ¬ max 1 (evenShare cluster p c / 2) ≤ replicasOn cluster p i) := by
      intro i hi
      rw [hosted_count hi, not_le]
      rfl
    split
    · next i hfound =>
        have hi := List.mem_range.mp (List.mem_of_find?_eq_some hfound)
        have hbelow := List.find?_some hfound
        rw [decide_eq_true_eq, hlow i hi] at hbelow
        refine iff_of_false Bool.false_ne_true ?_
        intro hall
        exact hbelow (hall i hi)
    · next hnone =>
        refine iff_of_true rfl ?_
        intro i hi
        have hkept := List.find?_eq_none.mp hnone i (List.mem_range.mpr hi)
        rw [decide_eq_true_eq, hlow i hi, not_not] at hkept
        exact hkept

end Counts

/-! ## Half of the share -/

/-- The counts at which dividing the share in whole numbers shows: the share is odd
and not one, every node has its lower half, and some node has no more. -/
def LowerHalf (cluster : KahunaCluster) (p : Option Placement) (c : Nat) : Prop :=
  evenShare cluster p c % 2 = 1 ∧ 1 < evenShare cluster p c ∧
    (∀ i < c, evenShare cluster p c / 2 ≤ replicasOn cluster p i) ∧
    ∃ i < c, replicasOn cluster p i = evenShare cluster p c / 2

/-- Before the deadline, "converged" means that every node has one replica and half
the even share, exactly when the counts are not of that kind. -/
theorem half_share_iff {cluster : KahunaCluster} {p : Option Placement} {c : Nat} {now : Time}
    {settleBy : Option Time} (hsettled : Settled cluster p c)
    (hopen : ∀ deadline ∈ settleBy, now < deadline) :
    ((placementConverged cluster p c now settleBy).1 = true ↔
        evenShare cluster p c = 0 ∨
          ∀ i < c, evenShare cluster p c ≤ 2 * replicasOn cluster p i ∧
            1 ≤ replicasOn cluster p i) ↔
      ¬ LowerHalf cluster p c := by
  rw [placementConverged_iff hsettled hopen, LowerHalf]
  generalize evenShare cluster p c = share
  constructor
  · rintro hsame ⟨hodd, hmany, hall, i, hi, heq⟩
    have hconverged : ∀ i < c, max 1 (share / 2) ≤ replicasOn cluster p i := by
      intro j hj
      have hj := hall j hj
      omega
    rcases hsame.mp (Or.inr hconverged) with hzero | hhalf
    · omega
    · have hi := hhalf i hi
      omega
  · intro hnot
    refine or_congr_right ?_
    constructor
    · intro hall i hi
      have hlower := hall i hi
      refine ⟨?_, by omega⟩
      by_contra hless
      refine hnot ⟨by omega, by omega, ?_, i, hi, by omega⟩
      intro j hj
      have hj := hall j hj
      omega
    · intro hall i hi
      have hhalf := hall i hi
      omega

def sharedCluster : KahunaCluster :=
  { name := "kahuna", ns := "kv", spec := { replicas := some 4 }, status := {} }

/-- Partitions with a Voter on each of the given ordinals. -/
def voterPlacement (sets : List (List Nat)) : Placement :=
  { partitions := sets.map fun ordinals =>
      { partitionID := 1
        state := .active
        replicas := ordinals.map fun i =>
          { endpoint := raftEndpoint sharedCluster i, role := .voter } } }

theorem voterPlacement_settled {sets : List (List Nat)} {c : Nat}
    (h : ∀ ordinals ∈ sets, ∀ i ∈ ordinals, i < c) :
    Settled sharedCluster (some (voterPlacement sets)) c := by
  rintro _ ⟨⟩ part hpart _ rep hrep
  obtain ⟨ordinals, hset, rfl⟩ := List.mem_map.mp hpart
  obtain ⟨i, hi, rfl⟩ := List.mem_map.mp hrep
  exact ⟨rfl, i, h ordinals hset i hi, rfl⟩

/-- Twelve replicas on four nodes, an even share of three; two on the last node, and
one. -/
def twoOnLast : Placement := voterPlacement [[0, 1, 2], [0, 1, 2], [0, 1, 3], [1, 2, 3]]

def oneOnLast : Placement := voterPlacement [[0, 1, 2], [0, 1, 2], [0, 1, 2], [1, 2, 3]]

/-- Two are half of the share. -/
theorem two_of_three_carry :
    ((placementConverged sharedCluster (some twoOnLast) 4 0 none).1 = true ↔
        evenShare sharedCluster (some twoOnLast) 4 = 0 ∨
          ∀ i < 4, evenShare sharedCluster (some twoOnLast) 4 ≤
              2 * replicasOn sharedCluster (some twoOnLast) i ∧
            1 ≤ replicasOn sharedCluster (some twoOnLast) i) ∧
      evenShare sharedCluster (some twoOnLast) 4 = 3 ∧
      replicasOn sharedCluster (some twoOnLast) 3 = 2 := by
  have hsettled : Settled sharedCluster (some twoOnLast) 4 := voterPlacement_settled (by decide)
  refine ⟨(half_share_iff hsettled ?_).mpr ?_, ?_, ?_⟩
  · rintro deadline ⟨⟩
  · unfold LowerHalf
    decide +kernel
  · decide +kernel
  · decide +kernel

/-- One is not, and the test of this function calls it too few; nothing is waited
for either. -/
theorem one_of_three_carries :
    Settled sharedCluster (some oneOnLast) 4 ∧
      evenShare sharedCluster (some oneOnLast) 4 = 3 ∧
      replicasOn sharedCluster (some oneOnLast) 3 = 1 ∧
      (placementConverged sharedCluster (some oneOnLast) 4 0 none).1 = true ∧
      ¬ (evenShare sharedCluster (some oneOnLast) 4 = 0 ∨
        ∀ i < 4, evenShare sharedCluster (some oneOnLast) 4 ≤
            2 * replicasOn sharedCluster (some oneOnLast) i ∧
          1 ≤ replicasOn sharedCluster (some oneOnLast) i) := by
  refine ⟨voterPlacement_settled (by decide), ?_⟩
  decide +kernel

/-! ## A balanced placement -/

theorem placementConverged_of_share {cluster : KahunaCluster} {p : Option Placement} {c : Nat}
    (hsettled : Settled cluster p c)
    (hshare : ∀ i < c, evenShare cluster p c ≤ replicasOn cluster p i) (now : Time)
    (settleBy : Option Time) : (placementConverged cluster p c now settleBy).1 = true := by
  by_cases hclock : ∃ deadline ∈ settleBy, deadline ≤ now
  · simp only [placementConverged, placementSettled_iff.mpr hsettled, hclock, ne_eq, not_true,
      if_false, or_true, if_true]
  · have hopen : ∀ deadline ∈ settleBy, now < deadline := by
      intro deadline hd
      by_contra hle
      exact hclock ⟨deadline, hd, not_lt.mp hle⟩
    rw [placementConverged_iff hsettled hopen]
    refine or_iff_not_imp_left.mpr ?_
    intro hne i hi
    have hi := hshare i hi
    omega

/-- The counts of the loops add up to their total, of every placement; and a settled
placement whose counts differ by at most one is not waited for, at any time and
under any deadline. -/
theorem balanced_never_waits (cluster : KahunaCluster) (p : Option Placement) (c : Nat) :
    (∑ i ∈ Finset.range c, (settledCounts cluster p c).hosted (raftEndpoint cluster i) =
        (settledCounts cluster p c).total) ∧
      (∀ e ∉ memberEndpoints cluster c, (settledCounts cluster p c).hosted e = 0) ∧
      (Settled cluster p c →
        (∀ i < c, ∀ j < c,
          (settledCounts cluster p c).hosted (raftEndpoint cluster j) ≤
            (settledCounts cluster p c).hosted (raftEndpoint cluster i) + 1) →
        ∀ now settleBy, (placementConverged cluster p c now settleBy).1 = true) := by
  obtain ⟨hhosted, htotal, _⟩ := settledCounts_settled cluster p c
  refine ⟨?_, ?_, ?_⟩
  · simp only [hhosted, htotal]
    exact hosted_sum
  · intro e he
    rw [hhosted, List.count_eq_zero]
    intro hmem
    exact he (mem_memberEndpoints.mpr (hosted_member hmem))
  · intro hsettled hnear now settleBy
    refine placementConverged_of_share hsettled ?_ now settleBy
    have hbalanced : ∀ i ∈ Finset.range c, ∀ j ∈ Finset.range c,
        replicasOn cluster p j ≤ replicasOn cluster p i + 1 := by
      intro i hi j hj
      have hi := Finset.mem_range.mp hi
      have hj := Finset.mem_range.mp hj
      rw [← hosted_count hi, ← hosted_count hj, ← hhosted, ← hhosted]
      exact hnear i hi j hj
    intro i hi
    have hmean := Lib.share_le_of_balanced hbalanced (Finset.mem_range.mpr hi)
    rw [Finset.card_range] at hmean
    exact hmean

def threeOnEach : Placement := voterPlacement [[0, 1, 2], [1, 2, 3], [2, 3, 0], [3, 0, 1]]

theorem three_on_each_never_waits :
    Settled sharedCluster (some threeOnEach) 4 ∧
      ∀ now settleBy,
        (placementConverged sharedCluster (some threeOnEach) 4 now settleBy).1 = true := by
  have hsettled : Settled sharedCluster (some threeOnEach) 4 := voterPlacement_settled (by decide)
  have hnear : ∀ i < 4, ∀ j < 4,
      (settledCounts sharedCluster (some threeOnEach) 4).hosted (raftEndpoint sharedCluster j) ≤
        (settledCounts sharedCluster (some threeOnEach) 4).hosted
          (raftEndpoint sharedCluster i) + 1 := by
    decide +kernel
  exact ⟨hsettled, (balanced_never_waits sharedCluster _ 4).2.2 hsettled hnear⟩

end KahunaOperator
