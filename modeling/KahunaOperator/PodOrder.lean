/-
# `KahunaOperator.PodOrder` — does a pass depend on the order of the pod list?

Pods come from a List call, in no particular order.  `readMembership` sorts them
before it asks ("so the choice is deterministic"); `readPlacement` asks in list
order, and returns at once when a node answers that it has no placement, because
"every node runs the same version".  While the operator itself rolls a new image
out, they do not.

    roster        the same in every order                        (`readMembership_perm`)
    placement     the same in every order  ⟺  the nodes that are asked agree
                                                                 (`pod_order_iff`)
-/
import KahunaOperator.Agreed
import KahunaOperator.Lib.Scan

namespace KahunaOperator

/-! ## The roster -/

/-- Ready pods first, then by ordinal, without the source's subtraction. -/
def candidateOrder (a b : Pod) : Bool :=
  if podIsReady a != podIsReady b then podIsReady a
  else decide (ordinalOf a.name ≤ ordinalOf b.name)

theorem candidateOrder_trans (a b c : Pod) (hab : candidateOrder a b = true)
    (hbc : candidateOrder b c = true) : candidateOrder a c = true := by
  unfold candidateOrder at hab hbc ⊢
  cases ha : podIsReady a <;> cases hb : podIsReady b <;> cases hc : podIsReady c <;>
    simp_all <;> omega

theorem candidateOrder_total (a b : Pod) : (candidateOrder a b || candidateOrder b a) = true := by
  unfold candidateOrder
  cases ha : podIsReady a <;> cases hb : podIsReady b <;> simp <;> omega

theorem ordinalOf_lt (pod : String) : ordinalOf pod < 2 ^ 31 := by
  have hint : ∀ n : Int, int32 n < 2 ^ 31 := by
    intro n
    have hlt := Int.bmod_lt (x := n) (m := 2 ^ 32) (by decide)
    unfold int32
    omega
  unfold ordinalOf
  simp only
  split
  · split
    · decide
    · split
      · decide
      · exact hint _
  · decide

/-- Between two ordinals the subtraction does not wrap around. -/
theorem membershipOrder_eq {a b : Pod} (ha : 0 ≤ ordinalOf a.name) (hb : 0 ≤ ordinalOf b.name) :
    membershipOrder a b = candidateOrder a b := by
  have hla := ordinalOf_lt a.name
  have hlb := ordinalOf_lt b.name
  have hdiff : int32 (ordinalOf a.name - ordinalOf b.name) =
      ordinalOf a.name - ordinalOf b.name := Int.bmod_eq_of_le (by omega) (by omega)
  unfold membershipOrder candidateOrder
  rw [hdiff]
  split
  · rfl
  · rw [decide_eq_decide]
    omega

theorem readMembership_perm {cluster : KahunaCluster} {kahuna : Client} {pods pods' : List Pod}
    (hordinal : ∀ p ∈ pods, 0 ≤ ordinalOf p.name)
    (hdistinct : (pods.map fun p => ordinalOf p.name).Nodup) (hperm : pods'.Perm pods) :
    readMembership cluster kahuna pods' = readMembership cluster kahuna pods := by
  unfold readMembership
  simp only
  congr 1
  refine Lib.mergeSort_perm_eq candidateOrder_trans candidateOrder_total ?_ ?_
    (hperm.filter _)
  · intro a ha b hb
    exact membershipOrder_eq (hordinal a (List.mem_filter.mp ha).1)
      (hordinal b (List.mem_filter.mp hb).1)
  · intro a ha b hb hab hba
    refine List.inj_on_of_nodup_map hdistinct (List.mem_filter.mp ha).1
      (List.mem_filter.mp hb).1 ?_
    unfold candidateOrder at hab hba
    cases hra : podIsReady a <;> cases hrb : podIsReady b <;> simp_all <;> omega

/-! ## The placement -/

/-- What `readPlacement` gets from a pod, when it asks it. -/
def placementAnswer (cluster : KahunaCluster) (kahuna : Client) (pod : Pod) :
    Option (Except KahunaError Placement) :=
  if pod.podIP == "" || pod.deleting || !podIsReady pod then none
  else some (kahuna.placement (podBaseURL cluster pod))

/-- An answer after which no other pod is asked: a placement, or that the server
has none. -/
def decisive : Except KahunaError Placement → Bool
  | .ok _ => true
  | .error .placementUnsupported => true
  | .error (.other _) => false

theorem readPlacement_eq_scan (cluster : KahunaCluster) (kahuna : Client) (pods : List Pod)
    (e : KahunaError) :
    readPlacement cluster kahuna pods e =
      Lib.scan (placementAnswer cluster kahuna) decisive (.error e) pods := by
  induction pods generalizing e with
  | nil => rfl
  | cons pod rest ih =>
      simp only [readPlacement, Lib.scan, placementAnswer]
      split
      · exact ih e
      · cases hanswer : kahuna.placement (podBaseURL cluster pod) with
        | ok p => rfl
        | error err =>
            cases err with
            | placementUnsupported => rfl
            | other text => exact ih (.other text)

def PassEnv.withPods (env : PassEnv) (pods : List Pod) : PassEnv := { env with pods := pods }

/-- A pass reads the same roster and the same placement, and so plans the same
size and partition, in every order of its pods, exactly when the nodes asked for
the placement agree: those that answer give one answer, and when none answers
they fail with one error. -/
theorem pod_order_iff {env : PassEnv} {cluster : KahunaCluster}
    (hordinal : ∀ p ∈ env.pods, 0 ≤ ordinalOf p.name)
    (hdistinct : (env.pods.map fun p => ordinalOf p.name).Nodup) :
    (∀ pods : List Pod, pods.Perm env.pods →
      readMembership cluster env.kahuna pods = readMembership cluster env.kahuna env.pods ∧
      placementRead (env.withPods pods) cluster = placementRead env cluster ∧
      ∀ cl currentReplicas bootstrapped,
        let o := observe env cluster
        let o' := observe (env.withPods pods) cluster
        let p := buildPlan cl currentReplicas bootstrapped o.membership o.placement o.placementErr
        let p' :=
          buildPlan cl currentReplicas bootstrapped o'.membership o'.placement o'.placementErr
        p'.replicas = p.replicas ∧ p'.partition = p.partition) ↔
    Lib.Agree (placementAnswer cluster env.kahuna) decisive env.pods := by
  have hscan : ∀ pods : List Pod, placementRead (env.withPods pods) cluster =
      Lib.scan (placementAnswer cluster env.kahuna) decisive
        (.error (.other "no ready pod to read placement from")) pods :=
    fun pods => readPlacement_eq_scan cluster env.kahuna pods _
  constructor
  · intro hsame
    have horders : ∀ pods : List Pod, pods.Perm env.pods →
        Lib.scan (placementAnswer cluster env.kahuna) decisive
            (.error (.other "no ready pod to read placement from")) pods =
          Lib.scan (placementAnswer cluster env.kahuna) decisive
            (.error (.other "no ready pod to read placement from")) env.pods := by
      intro pods hperm
      rw [← hscan, ← hscan]
      exact (hsame pods hperm).2.1
    exact Lib.scan_perm_iff.mp horders
  · intro hagree pods hperm
    have hroster : readMembership cluster (env.withPods pods).kahuna (env.withPods pods).pods =
        readMembership cluster env.kahuna env.pods :=
      readMembership_perm hordinal hdistinct hperm
    have hplacement : placementRead (env.withPods pods) cluster = placementRead env cluster := by
      rw [hscan]
      exact (hagree.scan_eq hperm _).trans (hscan env.pods).symm
    have hobserved : observe (env.withPods pods) cluster = observe env cluster := by
      simp only [observe, hplacement, hroster]
    refine ⟨hroster, hplacement, fun cl c b => ?_⟩
    simp only [hobserved, and_self]

theorem agree_agreedClient (cluster : KahunaCluster) (a : Answers) (pods : List Pod) :
    Lib.Agree (placementAnswer cluster (agreedClient a)) decisive pods := by
  have hplaced : ∀ {p x}, placementAnswer cluster (agreedClient a) p = some x → x = a.placed := by
    intro p x hx
    unfold placementAnswer at hx
    split at hx
    · cases hx
    · exact (Option.some.inj hx).symm
  refine ⟨?_, ?_⟩
  · intro _ _ x y _ _ hx hy _ _
    exact (hplaced hx).trans (hplaced hy).symm
  · intro _ _ _ x y _ _ hx hy
    exact (hplaced hx).trans (hplaced hy).symm

/-! ## A rollout -/

def rollingAnswers : Answers :=
  { membership := rosterOf (foundedCluster 5 3) 4 four_small, leave := { outcome := .committed } }

/-- Listed backwards, four nodes that agree are read the same. -/
theorem reversed_pods_read_the_same :
    placementRead ((agreedEnv (foundedCluster 5 3) 4 rollingAnswers).withPods
        (readyPods (foundedCluster 5 3) 4).reverse) (foundedCluster 5 3) =
      placementRead (agreedEnv (foundedCluster 5 3) 4 rollingAnswers) (foundedCluster 5 3) :=
  ((pod_order_iff (by decide) (by decide)).mpr (agree_agreedClient _ rollingAnswers _) _
    (List.reverse_perm _)).2.1

/-- A replica on its way to the first node. -/
def movingPlacement : Placement :=
  { partitions := [{ partitionID := 1, state := .active, replicas :=
      [{ endpoint := raftEndpoint (foundedCluster 5 3) 0, role := .learner }] }] }

/-- The first node still runs a server without placement. -/
def rollingEnv : PassEnv :=
  { agreedEnv (foundedCluster 5 3) 4 rollingAnswers with
    kahuna := { agreedClient rollingAnswers with
      placement := fun url =>
        if url = podBaseURL (foundedCluster 5 3) (readyPod (foundedCluster 5 3) 0) then
          .error .placementUnsupported
        else .ok movingPlacement } }

theorem rollingEnv_roster (pods : List Pod) (h : SomeReadyPod pods) :
    readMembership (foundedCluster 5 3) rollingEnv.kahuna pods =
      .ok rollingAnswers.membership := by
  show readMembership (foundedCluster 5 3) (agreedClient rollingAnswers) pods = _
  exact readMembership_agreed h

def planFrom (env : PassEnv) (cluster : KahunaCluster) (currentReplicas : Nat) : Plan :=
  let o := observe env cluster
  buildPlan cluster currentReplicas true o.membership o.placement o.placementErr

/-- With the old node first the placement is taken for settled and the last node
may go; with it last, a replica move is seen and the size is held. -/
theorem rollout_order_decides :
    (rollingEnv.pods.map fun p => ordinalOf p.name).Nodup ∧
    rollingEnv.pods.reverse.Perm rollingEnv.pods ∧
    placementRead rollingEnv (foundedCluster 5 3) = .error .placementUnsupported ∧
    placementRead (rollingEnv.withPods rollingEnv.pods.reverse) (foundedCluster 5 3) =
      .ok movingPlacement ∧
    (planFrom rollingEnv (foundedCluster 5 3) 4).replicas = 3 ∧
    (planFrom (rollingEnv.withPods rollingEnv.pods.reverse) (foundedCluster 5 3) 4).replicas =
      4 := by
  have hready := someReadyPod_readyPods (foundedCluster 5 3) (n := 4) (by decide)
  have hready' : SomeReadyPod (readyPods (foundedCluster 5 3) 4).reverse := by
    obtain ⟨p, hp, hrest⟩ := hready
    exact ⟨p, List.mem_reverse.mpr hp, hrest⟩
  have hexact := exactVoters_rosterOf (foundedCluster 5 3) 4 four_small
  have hfirst : placementRead rollingEnv (foundedCluster 5 3) = .error .placementUnsupported := rfl
  have hlast : placementRead (rollingEnv.withPods rollingEnv.pods.reverse) (foundedCluster 5 3) =
      .ok movingPlacement := rfl
  refine ⟨by decide, List.reverse_perm _, hfirst, hlast, ?_, ?_⟩
  · have ho : observe rollingEnv (foundedCluster 5 3) =
        { membership := some rollingAnswers.membership, placement := none
          placementErr := none } := by
      simp only [observe, hfirst, rollingEnv_roster rollingEnv.pods hready]
      rfl
    simp only [planFrom, ho]
    exact buildPlan_agreed hexact (settled_none _ 4)
  · have ho : observe (rollingEnv.withPods rollingEnv.pods.reverse) (foundedCluster 5 3) =
        { membership := some rollingAnswers.membership, placement := some movingPlacement
          placementErr := none } := by
      have hroster : readMembership (foundedCluster 5 3)
          (rollingEnv.withPods rollingEnv.pods.reverse).kahuna
          (rollingEnv.withPods rollingEnv.pods.reverse).pods = .ok rollingAnswers.membership :=
        rollingEnv_roster _ hready'
      simp only [observe, hlast, hroster]
      rfl
    have hmoving : ¬ Settled (foundedCluster 5 3) (some movingPlacement) 4 := by
      intro hsettled
      have hrole := (hsettled movingPlacement rfl _ (List.mem_singleton.mpr rfl) rfl _
        (List.mem_singleton.mpr rfl)).1
      cases hrole
    simp only [planFrom, ho]
    rcases buildPlan_cases (foundedCluster 5 3) 4 (some rollingAnswers.membership)
      (some movingPlacement) none with ⟨_, hsize, _⟩ | ⟨_, _, ⟨hsize, _⟩ | ⟨_, hsettled, _⟩⟩
    · exact hsize
    · exact hsize
    · exact absurd hsettled hmoving

end KahunaOperator
