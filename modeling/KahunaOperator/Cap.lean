/-
# `KahunaOperator.Cap` — growing while a partition is on every node

A data partition without a replica set is held by every node, so each further
node is a further copy of it.  The autoscaler reads the placement for that
reason and takes no traffic step past three nodes while there is such a
partition.  Two more routes lead to a larger StatefulSet, and neither looks at
the placement that way: the clamp to a bound that was edited, and the planner
catching up with a target stored earlier.

    the stored target, held inside the bounds, is at most
    three or the size there is
      ⟹  no pass that reads such a partition raises the size above three   (`cap_kept`)

`edited_bound_passes_the_cap` is the first of those routes.
-/
import KahunaOperator.Scale

namespace KahunaOperator

open Lib (Run Transition)

/-! ## What a pass reads -/

def PassInput.placed (inp : PassInput) (w : World) : Option Placement :=
  (observe inp.toPassEnv (pinBootstrapSize w.cluster)).placement

def PassInput.ReadsOnEveryNode (inp : PassInput) (w : World) : Prop :=
  ∃ p, inp.placed w = some p ∧ p.OnEveryNode

/-- What the transition's pass starts out for is no reason to grow past the cap:
the stored target, held inside the bounds, is at most three or the size there
is. -/
def UnderCap (t : Transition World Event) : Prop :=
  ∀ inp as, t.event = .pass inp → inp.ReadsOnEveryNode t.before →
    t.before.cluster.spec.autoscaling = some as →
    min (max (desiredReplicas t.before.cluster) as.minReplicas) as.maxReplicas ≤
      max t.before.size maxReplicationFactor

/-! ## The two ways up -/

/-- The ceiling takes the traffic step away: what is left is the stored target,
held inside the bounds. -/
theorem capped_target {inp : PassInput} {w : World} {cl : KahunaCluster} {as : AutoscalingSpec}
    (has : w.cluster.spec.autoscaling = some as) (hbounds : as.Accepted)
    (hread : inp.ReadsOnEveryNode w)
    (hcl : autoscaled inp.toPassEnv (pinBootstrapSize w.cluster) = .ok cl) :
    desiredReplicas cl ≤
      min (max (desiredReplicas w.cluster) as.minReplicas) as.maxReplicas := by
  obtain ⟨p, hp, hfull⟩ := hread
  obtain ⟨i, hi, hstart, hdecided⟩ := autoscaled_decision has hbounds hcl
  rw [← hstart, hdecided]
  rcases (decideAutoscale_decided inp.float i).desired with hkeep | ⟨ratio, hratio, hup | hdown⟩
  · exact hkeep.le
  · -- A raise would need a ceiling above the size, and the bounds start at three.
    exfalso
    obtain ⟨_, hfree, _⟩ := hup
    obtain ⟨reason, hceil⟩ := hi.ceiling hratio.1
    have hthree : i.growthCeiling = 3 := by
      unfold PassInput.placed at hp
      rw [hp] at hceil
      exact hfull.ceiling hceil
    have hmin := hbounds.1
    have hmax := hbounds.2.1
    refine hfree ⟨by omega, ?_⟩
    rw [hstart]
    omega
  · have hlower := hdown.1
    omega

theorem pass_size_le (inp : PassInput) {w : World}
    (hboot : w.cluster.status.bootstrapped = true) :
    (pass inp w).size ≤ w.size ∨
      ∃ cl, autoscaled inp.toPassEnv (pinBootstrapSize w.cluster) = .ok cl ∧
        (pass inp w).size ≤ desiredReplicas cl := by
  rcases (pass_passed inp w).sts with hkeep | ⟨cl, hcl, _, hwritten⟩
  · left
    unfold World.size
    rw [hkeep]
  · cases hsts : w.sts with
    | none =>
        refine Or.inr ⟨cl, hcl, ?_⟩
        rw [World.size_of_sts hwritten, hsts]
        exact le_refl _
    | some sts =>
        have hsize := World.size_of_sts hsts
        have hgated : GatedPass inp w (pass inp w) cl sts.size := pass_gated hsts hboot hcl
        rcases hgated.size with h | ⟨h, hle⟩ | ⟨h, _⟩
        · exact Or.inl (by omega)
        · exact Or.inr ⟨cl, hcl, by omega⟩
        · exact Or.inl (by omega)

/-- Over every run, with any accepted edits: while the stored target gives no
reason to pass the cap, no pass that reads a partition on every node raises a
bootstrapped, autoscaled cluster above three. -/
theorem cap_kept {w w' : World} {ts : List (Transition World Event)} (hrun : Run Step w ts w')
    (haccepted : w.cluster.spec.Accepted) (hcap : ∀ t ∈ ts, UnderCap t) :
    ∀ t ∈ ts, ∀ inp as, t.event = .pass inp →
      t.before.cluster.status.bootstrapped = true →
      t.before.cluster.spec.autoscaling = some as → inp.ReadsOnEveryNode t.before →
      ¬ (t.before.size < t.after.size ∧ maxReplicationFactor < t.after.size) := by
  refine Run.forall_mem_of (I := fun w => w.cluster.spec.Accepted) (C := UnderCap)
    (fun h _ hs => accepted_step h hs) ?_ hrun haccepted hcap
  intro a e b hacc hunder hstep inp as hevent hboot has hread
  cases hevent
  rw [hstep.pass_inv]
  show ¬ (a.size < (pass inp a).size ∧ maxReplicationFactor < (pass inp a).size)
  rintro ⟨hraised, habove⟩
  have htarget := hunder inp as rfl hread has
  rcases pass_size_le inp hboot with hle | ⟨cl, hcl, hle⟩
  · exact absurd hraised (Nat.not_lt.mpr hle)
  · have hheld := capped_target has (hacc.2.2.2.1 as has) hread hcl
    have hsize : (pass inp a).size ≤ max a.size maxReplicationFactor :=
      hle.trans (hheld.trans htarget)
    omega

/-! ## Three busy nodes and one unconverted partition -/

/-- Three nodes, driven to three, with room for six. -/
def busyCluster (minReplicas : Nat) : KahunaCluster :=
  { name := "kahuna"
    ns := "kv"
    spec :=
      { replicas := some 3
        replication := some { factor := 3 }
        autoscaling := some
          { minReplicas := minReplicas, maxReplicas := 6, targetQueueDepth := some 10
            scaleUpStabilizationSeconds := some 0 } }
    status :=
      { bootstrapped := true
        bootstrapSize := 3
        autoscaling := some { desiredReplicas := 3 } } }

def busyWorld : World := { cluster := busyCluster 3, sts := some { replicas := some 3 } }

/-- Every node reports a long queue, and partition 1 on every node. -/
def busyAnswers : Answers :=
  { membership := rosterOf (busyCluster 3) 3 three_small
    leave := { outcome := .committed }
    placement := some { partitions := [{ partitionID := 1, state := .active, replicas := [] }] }
    metrics :=
      { rows := [{ metric := metricClientQueueDepth, kind := .gauge, total := none,
                   last := some 100 }]
        monotonicMs := 0 } }

def busyPass : PassInput := { agreedEnv (busyCluster 3) 3 busyAnswers with }

theorem busy_observed (cluster : KahunaCluster) :
    observe busyPass.toPassEnv cluster =
      { membership := some busyAnswers.membership
        placement := busyAnswers.placement, placementErr := none } :=
  observe_agreedEnv (busyCluster 3) cluster 3 busyAnswers (by decide)

theorem busy_reads (w : World) : busyPass.ReadsOnEveryNode w := by
  refine ⟨_, congrArg Observed.placement (busy_observed _), ?_⟩
  exact ⟨_, List.mem_singleton_self _, by decide, rfl, rfl⟩

/-- Traffic asks for six and three are kept. -/
theorem busy_traffic_capped :
    busyPass.ReadsOnEveryNode busyWorld ∧ busyWorld.size = 3 ∧
      ¬ (busyWorld.size < (pass busyPass busyWorld).size ∧
        maxReplicationFactor < (pass busyPass busyWorld).size) := by
  refine ⟨busy_reads busyWorld, rfl, ?_⟩
  have hrun : Run Step busyWorld [⟨busyWorld, .pass busyPass, pass busyPass busyWorld⟩]
      (pass busyPass busyWorld) := Run.single (.pass busyPass)
  refine cap_kept hrun (by decide) ?_ _ List.mem_cons_self busyPass _ rfl rfl rfl
    (busy_reads busyWorld)
  intro t ht inp as hevent _ has
  cases List.mem_singleton.mp ht
  cases hevent
  cases has
  decide

def boundRaised : World :=
  { busyWorld with cluster := { busyCluster 3 with spec := (busyCluster 5).spec, generation := 1 } }

/-- The clamp to the new bound is not a traffic step, so nothing holds it. -/
theorem raised_decides_five :
    ∃ cl, autoscaled busyPass.toPassEnv (pinBootstrapSize boundRaised.cluster) = .ok cl ∧
      desiredReplicas cl = 5 := by
  refine exists_of_toOption_map ?_
  simp only [autoscaled, busy_observed]
  decide +kernel

/-- One accepted edit of a bound, and the next pass reads a partition that is on
every node and takes the fourth one. -/
theorem edited_bound_passes_the_cap :
    Run Step busyWorld
      [⟨busyWorld, .edit (busyCluster 5).spec, boundRaised⟩,
        ⟨boundRaised, .pass busyPass, pass busyPass boundRaised⟩]
      (pass busyPass boundRaised) ∧
    boundRaised.cluster.status.bootstrapped = true ∧
    boundRaised.cluster.spec.autoscaling.isSome = true ∧ busyPass.ReadsOnEveryNode boundRaised ∧
    boundRaised.size = 3 ∧ (pass busyPass boundRaised).size = 4 := by
  refine ⟨.cons (.edit (by decide)) (.cons (.pass busyPass) (.nil _)), rfl, rfl,
    busy_reads boundRaised, rfl, ?_⟩
  obtain ⟨cl, hcl, hdesired⟩ := raised_decides_five
  have hsettled : Settled cl busyAnswers.placement 3 := by
    rintro _ ⟨⟩ part hpart _ rep hrep
    cases List.mem_singleton.mp hpart
    cases hrep
  have hroster : ExactVoters boundRaised.cluster busyAnswers.membership 3 :=
    exactVoters_rosterOf (busyCluster 3) 3 three_small
  have hpods := someReadyPod_readyPods (busyCluster 3) (n := 3) (by decide)
  have hsize := agreed_pass_size (show boundRaised.sts = some { replicas := some 3 } from rfl) rfl
    hcl rfl rfl hpods hroster hsettled rfl
  rw [hsize, hdesired]
  rfl

end KahunaOperator
