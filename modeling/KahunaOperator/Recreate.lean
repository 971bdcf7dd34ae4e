/-
# `KahunaOperator.Recreate` — a StatefulSet deleted and created again

The planner moves a bootstrapped cluster one node at a time, but only a
StatefulSet that exists has a plan.  When it was deleted, `reconcileStatefulSet`
creates it at the desired size, whatever the roster holds.  Against the Voters
already there, the size may then be any number of nodes ahead.

Runs here have one more event than those of `Reconcile`: somebody deletes the
StatefulSet.  The size created is at most one ahead of the Voters below it
exactly when

    at most one ordinal below the target in force is not a Voter, and
    a target below `minReplicas` is not raised by traffic in the same pass
                                                       (`recreated_one_ahead_iff`)

The second clause is needed because the autoscaler judges convergence at the
stored target, before it moves it into the bounds.
-/
import KahunaOperator.Latch
import KahunaOperator.OneSize
import KahunaOperator.Traffic

namespace KahunaOperator

open Lib (Run Transition)

/-! ## Runs with deletions -/

inductive LifeEvent where
  | step (event : Event)
  | deleteStatefulSet

inductive LifeStep : World → LifeEvent → World → Prop
  | step {a b : World} {e : Event} : Step a e b → LifeStep a (.step e) b
  | deleteStatefulSet {w : World} : LifeStep w .deleteStatefulSet { w with sts := none }

theorem accepted_lifeStep {a b : World} {e : LifeEvent} (h : a.cluster.spec.Accepted)
    (hstep : LifeStep a e b) : b.cluster.spec.Accepted := by
  cases hstep with
  | step hs => exact accepted_step h hs
  | deleteStatefulSet => exact h

/-! ## Voters below a size -/

def votersBelow (cluster : KahunaCluster) (m : Membership) (n : Nat) : Nat :=
  (List.range n).countP fun i => m.hasVoter (raftEndpoint cluster i)

theorem votersBelow_succ (cluster : KahunaCluster) (m : Membership) (n : Nat) :
    votersBelow cluster m (n + 1) =
      votersBelow cluster m n + if m.hasVoter (raftEndpoint cluster n) then 1 else 0 := by
  unfold votersBelow
  rw [List.range_succ, List.countP_append, List.countP_singleton]

theorem votersBelow_exact {cluster : KahunaCluster} {m : Membership} {t : Nat}
    (h : ExactVoters cluster m t) (n : Nat) : votersBelow cluster m n = min n t := by
  have hvoter : ∀ i, m.hasVoter (raftEndpoint cluster i) = true ↔ i < t := by
    intro i
    rw [Membership.hasVoter_iff, h.mem_iff]
    constructor
    · intro hmem
      obtain ⟨j, hj, heq⟩ := List.mem_map.mp hmem
      cases voterKey_injective cluster heq
      exact List.mem_range.mp hj
    · intro hi
      exact List.mem_map.mpr ⟨i, List.mem_range.mpr hi, rfl⟩
  induction n with
  | zero => simp [votersBelow]
  | succ n ih =>
      rw [votersBelow_succ, ih]
      simp only [hvoter]
      split <;> omega

/-! ## The size created -/

theorem recreated_size {inp : PassInput} {w : World} (hnone : w.sts = none)
    (hcreates : (pass inp w).sts.isSome = true) :
    ∃ cl, autoscaled inp.toPassEnv (pinBootstrapSize w.cluster) = .ok cl ∧
      (pass inp w).size = desiredReplicas cl := by
  rcases (pass_passed inp w).sts with hsts | ⟨cl, hcl, _, hsts⟩
  · rw [hsts, hnone] at hcreates
    cases hcreates
  · refine ⟨cl, hcl, ?_⟩
    rw [World.size_of_sts hsts, hnone]
    rfl

/-- A decision with a step due was made on an exact roster of the stored size. -/
theorem stepDue_exact {inp : PassInput} {w : World} {m : Membership} {as : AutoscalingSpec}
    {i : AutoscaleInput} (hm : inp.roster w = some m)
    (hi : decisionInput inp.toPassEnv (pinBootstrapSize w.cluster) as = .ok i)
    (hdue : i.StepDue inp.float) :
    ExactVoters w.cluster m (desiredReplicas w.cluster) := by
  obtain ⟨_, ⟨hconv, _⟩, _⟩ := hdue
  rw [(decisionInput_ok hi).converged] at hconv
  obtain ⟨_, m', hm', hexact⟩ := exact_of_converged hconv
  cases hm.symm.trans hm'
  rw [desiredReplicas_pin] at hexact
  exact (exactVoters_congr (raftEndpoint_pin _)).mp hexact

/-- What keeps a new StatefulSet within one node of the roster. -/
structure OneAhead (inp : PassInput) (w : World) (m : Membership) : Prop where
  voters : greenfieldTarget w.cluster ≤
    votersBelow w.cluster m (greenfieldTarget w.cluster) + 1
  unmoved : ∀ as, w.cluster.spec.autoscaling = some as →
    desiredReplicas w.cluster < as.minReplicas →
    ∀ i, decisionInput inp.toPassEnv (pinBootstrapSize w.cluster) as = .ok i →
      ¬ i.StepDue inp.float

section recreating

variable {inp : PassInput} {w : World} {m : Membership} {as : AutoscalingSpec}

/-- Under `OneAhead` the target is within one of the Voters, and without a step due
that is all of it. -/
theorem oneAhead_iff_of_unmoved
    (hunmoved : ∀ as, w.cluster.spec.autoscaling = some as →
      ∀ i, decisionInput inp.toPassEnv (pinBootstrapSize w.cluster) as = .ok i →
        ¬ i.StepDue inp.float) :
    OneAhead inp w m ↔ greenfieldTarget w.cluster ≤
      votersBelow w.cluster m (greenfieldTarget w.cluster) + 1 := by
  constructor
  · intro h
    exact h.voters
  · intro hvoters
    exact ⟨hvoters, fun as has _ i hi => hunmoved as has i hi⟩

/-- A step is due, so the roster is exact at the stored target.  The size made is
one further than that target unless the bounds moved it as well. -/
theorem recreating_due_iff {i : AutoscaleInput} {size : Nat}
    (has : w.cluster.spec.autoscaling = some as) (hm : inp.roster w = some m)
    (hi : decisionInput inp.toPassEnv (pinBootstrapSize w.cluster) as = .ok i)
    (hdue : i.StepDue inp.float)
    (htarget : greenfieldTarget w.cluster =
      min (max (desiredReplicas w.cluster) as.minReplicas) as.maxReplicas)
    (hmoved : size ≠ greenfieldTarget w.cluster) (hstep : size ≤ greenfieldTarget w.cluster + 1)
    (hin : as.minReplicas ≤ size ∧ size ≤ as.maxReplicas) :
    size ≤ votersBelow w.cluster m size + 1 ↔ OneAhead inp w m := by
  have hexact := votersBelow_exact (stepDue_exact hm hi hdue)
  by_cases hlow : desiredReplicas w.cluster < as.minReplicas
  · -- Moved into the bounds and one further, on the roster of the old target.
    refine iff_of_false ?_ ?_
    · rw [hexact]
      omega
    · intro h
      exact h.unmoved as has hlow i hi hdue
  · refine iff_of_true ?_ ⟨?_, ?_⟩
    · rw [hexact]
      omega
    · rw [hexact]
      omega
    · intro as' has' hlow'
      cases has.symm.trans has'
      exact absurd hlow' hlow

/-- The step lemma: the size a pass creates, against the roster it reads. -/
theorem recreating_pass_iff (haccepted : w.cluster.spec.Accepted) (hnone : w.sts = none)
    (hm : inp.roster w = some m) (hcreates : (pass inp w).sts.isSome = true) :
    (pass inp w).size ≤ votersBelow w.cluster m (pass inp w).size + 1 ↔ OneAhead inp w m := by
  obtain ⟨cl, hcl, hsize⟩ := recreated_size hnone hcreates
  rw [hsize]
  cases has : w.cluster.spec.autoscaling with
  | none =>
      have htarget : greenfieldTarget w.cluster = desiredReplicas cl := by
        obtain ⟨cl', hcl', hd⟩ := autoscaled_fixed inp.toPassEnv has
        cases hcl.symm.trans hcl'
        rw [hd, greenfieldTarget, has]
      rw [oneAhead_iff_of_unmoved, htarget]
      intro as hsome
      rw [has] at hsome
      cases hsome
  | some as =>
      obtain ⟨i, hi, hstart, hdecided, hin⟩ :=
        autoscaled_from_input has (haccepted.2.2.2.1 as has) hcl
      have htarget : greenfieldTarget w.cluster = i.start.desiredReplicas := by
        rw [hstart, greenfieldTarget, has]
      have hmoves := (decideAutoscale_decided inp.float i).moves_iff
      rw [← hdecided, ← htarget] at hmoves
      by_cases hdue : i.StepDue inp.float
      · refine recreating_due_iff has hm hi hdue (htarget.trans hstart) (hmoves.mpr hdue) ?_ hin
        rw [hdecided, htarget]
        rcases (decideAutoscale_decided inp.float i).desired with h | ⟨_, _, ⟨h, _⟩ | ⟨h, _⟩⟩ <;>
          omega
      · have hkept : desiredReplicas cl = greenfieldTarget w.cluster := by
          by_contra hmoved
          exact hdue (hmoves.mp hmoved)
        rw [oneAhead_iff_of_unmoved, hkept]
        intro as' has' i' hi'
        cases has.symm.trans has'
        cases hi.symm.trans hi'
        exact hdue

end recreating

/-- Over every run from creation, with the StatefulSet deleted at any time: the
size the next pass creates it with is at most one ahead of the Voters below it,
exactly under `OneAhead`. -/
theorem recreated_one_ahead_iff {w w' : World} {ts : List (Transition World LifeEvent)}
    {inp : PassInput} {m : Membership} (hcreated : Created w) (hrun : Run LifeStep w ts w')
    (hnone : w'.sts = none) (hm : inp.roster w' = some m)
    (hcreates : (pass inp w').sts.isSome = true) :
    (pass inp w').size ≤ votersBelow w'.cluster m (pass inp w').size + 1 ↔
      OneAhead inp w' m := by
  have haccepted : w'.cluster.spec.Accepted :=
    Run.inv (I := fun w => w.cluster.spec.Accepted) accepted_lifeStep hrun hcreated.accepted
  exact recreating_pass_iff haccepted hnone hm hcreates

/-! ## Deleted after an edit -/

def formedWorld : World := pass bootPass bootWorld

def orphanedWorld (replicas : Nat) : World :=
  { formedWorld with
    cluster := { formedWorld.cluster with
      spec := { replicas := some replicas }
      generation := formedWorld.cluster.generation + 1 }
    sts := none }

theorem orphanedWorld_run (replicas : Nat)
    (h : (sizedCluster 5).spec.AcceptedUpdate { replicas := some replicas }) :
    ∃ ts, Run LifeStep newWorld ts (orphanedWorld replicas) := by
  have hedit : formedWorld.cluster.spec.AcceptedUpdate { replicas := some replicas } := by
    rw [formedWorld, (pass_passed bootPass bootWorld).frame.1, bootWorld_spec]
    exact h
  exact ⟨_, .cons (.step (.pass creatingPass)) (.cons (.step (.pass bootPass))
    (.cons (.step (.edit hedit)) (.cons .deleteStatefulSet (.nil _))))⟩

theorem formedWorld_bootstrapped : formedWorld.cluster.status.bootstrapped = true := by
  have hfixed : bootWorld.cluster.spec.autoscaling = none := by
    rw [bootWorld_spec]
    rfl
  refine ended_of_voters (by decide) hfixed (by decide) ?_
  unfold specReplicas
  rw [bootWorld_spec]
  decide

theorem orphanedWorld_roster (replicas : Nat) :
    bootPass.roster (orphanedWorld replicas) = some bootAnswers.membership :=
  congrArg Observed.membership (observe_agreedEnv (sizedCluster 5) _ 5 bootAnswers (by decide))

theorem orphanedWorld_voters (replicas n : Nat) :
    votersBelow (orphanedWorld replicas).cluster bootAnswers.membership n = min n 5 := by
  have hendpoint : ∀ i, raftEndpoint (orphanedWorld replicas).cluster i =
      raftEndpoint (sizedCluster 5) i := by
    intro i
    obtain ⟨_, hname, hns, _⟩ := (pass_passed bootPass bootWorld).frame
    obtain ⟨_, hname', hns', _⟩ := (pass_passed creatingPass newWorld).frame
    have hsame : (orphanedWorld replicas).cluster.name = (sizedCluster 5).name :=
      hname.trans hname'
    exact raftEndpoint_congr hsame (hns.trans hns') rfl i
  refine votersBelow_exact ?_ n
  rw [exactVoters_congr hendpoint]
  exact exactVoters_rosterOf (sizedCluster 5) 5 (by decide)

theorem orphanedWorld_recreated (replicas : Nat) :
    (pass bootPass (orphanedWorld replicas)).sts.isSome = true ∧
      (pass bootPass (orphanedWorld replicas)).size = replicas := by
  obtain ⟨cl, hcl, hdesired⟩ := autoscaled_fixed bootPass.toPassEnv
    (show (orphanedWorld replicas).cluster.spec.autoscaling = none from rfl)
  have hsts := (pass_passed bootPass (orphanedWorld replicas)).sts_written hcl rfl
  constructor
  · rw [hsts]
    rfl
  · rw [World.size_of_sts hsts]
    exact hdesired

/-- One node more than the roster has: the new StatefulSet is one ahead. -/
theorem sixth_node_recreated :
    (pass bootPass (orphanedWorld 6)).size ≤
      votersBelow (orphanedWorld 6).cluster bootAnswers.membership
        (pass bootPass (orphanedWorld 6)).size + 1 := by
  obtain ⟨ts, hrun⟩ := orphanedWorld_run 6 (by decide)
  refine (recreated_one_ahead_iff newWorld_created hrun rfl (orphanedWorld_roster 6)
    (orphanedWorld_recreated 6).1).mpr ⟨?_, ?_⟩
  · rw [orphanedWorld_voters]
    exact Nat.le_refl 6
  · intro as has
    cases has

/-- Edited to eight: the pass creates eight nodes where five are Voters. -/
theorem eight_nodes_recreated :
    Created newWorld ∧ (∃ ts, Run LifeStep newWorld ts (orphanedWorld 8)) ∧
    (orphanedWorld 8).cluster.status.bootstrapped = true ∧ (orphanedWorld 8).sts = none ∧
    bootPass.roster (orphanedWorld 8) = some bootAnswers.membership ∧
    (pass bootPass (orphanedWorld 8)).size = 8 ∧
    votersBelow (orphanedWorld 8).cluster bootAnswers.membership 8 = 5 :=
  ⟨newWorld_created, orphanedWorld_run 8 (by decide), formedWorld_bootstrapped, rfl,
    orphanedWorld_roster 8, (orphanedWorld_recreated 8).2, orphanedWorld_voters 8 8⟩

end KahunaOperator
