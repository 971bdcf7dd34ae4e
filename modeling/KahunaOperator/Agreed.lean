/-
# `KahunaOperator.Agreed` — clusters whose nodes all give the same answers

What a pass observes does not depend on which pod answers, or in which order
the pods are asked, as long as the nodes agree: one ready pod with an address
is enough (`observe_agreed`).  From there the plan of a settled cluster is its
step towards the target (`plan_agreed`), for any size and any target.
-/
import KahunaOperator.StatefulSet

namespace KahunaOperator

open Lib (Rounding)

/-! ## A roster of Voters -/

theorem three_small : 3 < 2 ^ 31 := by decide

theorem four_small : 4 < 2 ^ 31 := by decide

theorem five_small : 5 < 2 ^ 31 := by decide

/-- The roster of a cluster whose first `n` ordinals are Voters. -/
def rosterOf (cluster : KahunaCluster) (n : Nat) (h : n < 2 ^ 31) : Membership :=
  { membershipVersion := n
    members := (List.range n).map fun i =>
      { endpoint := raftEndpoint cluster i, nodeID := i + 1, role := .voter }
    small := by rw [List.length_map, List.length_range]; exact h }

theorem exactVoters_rosterOf (cluster : KahunaCluster) (n : Nat) (h : n < 2 ^ 31) :
    ExactVoters cluster (rosterOf cluster n h) n := by
  unfold ExactVoters rosterOf
  rw [List.map_map]
  exact List.Perm.refl _

/-! ## Agreement -/

/-- One answer to each question; a server without placement has none. -/
structure Answers where
  membership : Membership
  leave : LeaveResult
  placement : Option Placement := none
  metrics : Metrics := { rows := [], monotonicMs := 0 }

def Answers.placed (a : Answers) : Except KahunaError Placement :=
  match a.placement with
  | none => .error .placementUnsupported
  | some p => .ok p

def agreedClient (a : Answers) : Client :=
  { membership := fun _ => .ok a.membership
    leave := fun _ => .ok a.leave
    placement := fun _ => a.placed
    metrics := fun _ => .ok a.metrics }

/-- Some listed pod is ready and can be addressed. -/
def SomeReadyPod (pods : List Pod) : Prop :=
  ∃ p ∈ pods, p.podIP ≠ "" ∧ p.deleting = false ∧ podIsReady p = true

theorem firstAnswer_agreed {α : Type} {ask : Pod → Except KahunaError α} {a : α}
    (hask : ∀ p, ask p = .ok a) (e : KahunaError) {pods : List Pod} (hne : pods ≠ []) :
    firstAnswer ask e pods = .ok a := by
  cases pods with
  | nil => exact absurd rfl hne
  | cons p rest => simp only [firstAnswer, hask p]

section Agreed
variable {env : PassEnv} {cluster : KahunaCluster} {a : Answers} {pods : List Pod}

theorem readMembership_agreed (h : SomeReadyPod pods) :
    readMembership cluster (agreedClient a) pods = .ok a.membership := by
  obtain ⟨p, hp, hip, hdel, _⟩ := h
  refine firstAnswer_agreed (fun _ => rfl) _ ?_
  have hmem : p ∈ pods.filter fun p => p.podIP != "" && !p.deleting := by
    rw [List.mem_filter]
    exact ⟨hp, by simp [hip, hdel]⟩
  exact List.ne_nil_of_mem (List.mem_mergeSort.mpr hmem)

theorem readPlacement_agreed (h : SomeReadyPod pods) (e : KahunaError) :
    readPlacement cluster (agreedClient a) pods e = a.placed := by
  induction pods with
  | nil =>
      obtain ⟨p, hp, _⟩ := h
      cases hp
  | cons q rest ih =>
      simp only [readPlacement]
      split
      · next hskip =>
          -- A skipped pod is not the ready one, so that one is in the rest.
          obtain ⟨p, hp, hip, hdel, hready⟩ := h
          rcases List.mem_cons.mp hp with rfl | hp
          · simp [hip, hdel, hready] at hskip
          · exact ih ⟨p, hp, hip, hdel, hready⟩
      · simp only [agreedClient, Answers.placed]
        cases a.placement <;> rfl

theorem observe_agreed (hkahuna : env.kahuna = agreedClient a) (hpods : SomeReadyPod env.pods) :
    observe env cluster =
      { membership := some a.membership, placement := a.placement, placementErr := none } := by
  have hread : placementRead env cluster = a.placed := by
    unfold placementRead
    rw [hkahuna]
    exact readPlacement_agreed hpods _
  simp only [observe, hread, hkahuna, readMembership_agreed hpods, Answers.placed]
  cases a.placement <;> rfl

theorem decommission_agreed {ordinal : Nat} (h : a.leave.removed = true) :
    (decommission cluster (agreedClient a) pods ordinal).1 = true := by
  unfold decommission
  cases leaveTarget cluster pods ordinal with
  | none => rfl
  | some p => simp only [agreedClient, h, if_true]

/-- With an exact roster and a settled placement, the plan alone is the step
towards the target. -/
theorem buildPlan_agreed {m : Membership} {placement : Option Placement} {c : Nat}
    (hroster : ExactVoters cluster m c) (hsettled : Settled cluster placement c) :
    (buildPlan cluster c true (some m) placement none).replicas =
      stepTowards c (desiredReplicas cluster) := by
  rcases buildPlan_cases cluster c (some m) placement none with
    ⟨hno, _⟩ | ⟨_, _, ⟨_, herr | hunsettled⟩ | ⟨_, _, hsize⟩⟩
  · rw [rosterMatches_iff.mpr hroster] at hno
    cases hno
  · exact absurd rfl herr
  · exact absurd hsettled hunsettled
  · exact hsize

/-- With a node that leaves, the whole plan is that step. -/
theorem plan_agreed {o : Observed} {c : Nat} (hkahuna : env.kahuna = agreedClient a)
    (ho : o = { membership := some a.membership, placement := a.placement, placementErr := none })
    (hroster : ExactVoters cluster a.membership c) (hsettled : Settled cluster a.placement c)
    (hleave : a.leave.removed = true) :
    (planStatefulSet env cluster true o c).replicas = stepTowards c (desiredReplicas cluster) := by
  have hbuild : (buildPlan cluster c true o.membership o.placement o.placementErr).replicas =
      stepTowards c (desiredReplicas cluster) := by
    subst ho
    exact buildPlan_agreed hroster hsettled
  simp only [planStatefulSet, hkahuna, decommission_agreed hleave]
  split <;> exact hbuild

end Agreed

/-! ## Ready pods -/

def readyPod (cluster : KahunaCluster) (i : Nat) : Pod :=
  { name := podName cluster i
    podIP := "10.0.0." ++ toString i
    conditions := [{ type := "Ready", status := .true }] }

def readyPods (cluster : KahunaCluster) (n : Nat) : List Pod :=
  (List.range n).map (readyPod cluster)

theorem someReadyPod_readyPods (cluster : KahunaCluster) {n : Nat} (h : 0 < n) :
    SomeReadyPod (readyPods cluster n) := by
  refine ⟨readyPod cluster 0, List.mem_map.mpr ⟨0, List.mem_range.mpr h, rfl⟩, ?_, rfl, rfl⟩
  simp [readyPod, String.append_eq_empty_iff]

theorem readyPods_reachable {cluster cl : KahunaCluster} {n i : Nat} (hi : i < n)
    (hname : podName cl i = podName cluster i) :
    ¬ NoReachablePod cl (readyPods cluster n) i := by
  intro hnone
  have hmem : readyPod cluster i ∈ readyPods cluster n :=
    List.mem_map.mpr ⟨i, List.mem_range.mpr hi, rfl⟩
  have hip := hnone _ hmem hname.symm
  simp [readyPod, String.append_eq_empty_iff] at hip

def wrappingConv : Int32Conv where
  conv := int32
  fits := fun n hlo hhi => Int.bmod_eq_of_le (by omega) (by omega)
  range := fun n => by
    have hlo := Int.le_bmod (x := n) (m := 2 ^ 32) (by decide)
    have hhi := Int.bmod_lt (x := n) (m := 2 ^ 32) (by decide)
    unfold int32
    omega

def wrappingDouble : Float64 := { Rounding.binary64, wrappingConv with }

/-- A cluster of fixed size, founded with `founding` nodes and bootstrapped. -/
def foundedCluster (founding replicas : Nat) : KahunaCluster :=
  { name := "kahuna"
    ns := "kv"
    spec := { replicas := some replicas }
    status := { bootstrapped := true, bootstrapSize := founding } }

/-- The environment of a cluster whose first `n` pods are ready and agree. -/
def agreedEnv (cluster : KahunaCluster) (n : Nat) (a : Answers) : PassEnv :=
  { pods := readyPods cluster n, kahuna := agreedClient a, float := wrappingDouble }

theorem observe_agreedEnv (cluster cluster' : KahunaCluster) (n : Nat) (a : Answers)
    (h : 0 < n) :
    observe (agreedEnv cluster n a) cluster' =
      { membership := some a.membership, placement := a.placement, placementErr := none } :=
  observe_agreed rfl (someReadyPod_readyPods cluster h)

/-- The environment in which every leave request gets the same answer. -/
def PassEnv.withLeave (env : PassEnv) (answer : Except KahunaError LeaveResult) : PassEnv :=
  { env with kahuna := { env.kahuna with leave := fun _ => answer } }

theorem readPlacement_congr (cluster : KahunaCluster) {k₁ k₂ : Client}
    (h : k₁.placement = k₂.placement) (pods : List Pod) (e : KahunaError) :
    readPlacement cluster k₁ pods e = readPlacement cluster k₂ pods e := by
  induction pods generalizing e with
  | nil => rfl
  | cons pod pods ih => simp only [readPlacement, h, ih]

theorem observe_withLeave (env : PassEnv) (answer : Except KahunaError LeaveResult)
    (cluster : KahunaCluster) : observe (env.withLeave answer) cluster = observe env cluster := by
  have hplacement : (env.withLeave answer).kahuna.placement = env.kahuna.placement := rfl
  have hplaced : placementRead (env.withLeave answer) cluster = placementRead env cluster :=
    readPlacement_congr cluster hplacement _ _
  simp only [observe, hplaced]
  rfl

/-- A computation that can be evaluated to `f` of its result has one. -/
theorem exists_of_toOption_map {ε α β : Type} {x : Except ε α} {f : α → β} {b : β}
    (h : x.toOption.map f = some b) : ∃ a, x = .ok a ∧ f a = b := by
  cases x with
  | error e => cases h
  | ok a => exact ⟨a, rfl, Option.some.inj h⟩

end KahunaOperator
