/-
# `KahunaOperator.Scale` — how a pass may change the size of a cluster

The laws of one membership step, over every pass of every run.

    bootstrapped      at most one node, gated on roster, placement       (`bootstrapped_pass_gated`)
    settled           the step towards the target is taken                (`settled_pass_size`)
    half-finished     a size the roster has left behind is never lowered  (`departed_node_stalls`)

`GatedPass` says what the gate is.  It is about the world before and after a
pass, so it also covers the passes that stop early or lose themselves in a
panic: those leave the StatefulSet as it was.
-/
import KahunaOperator.Agreed
import KahunaOperator.Reconcile

namespace KahunaOperator

open Lib (Run)

/-! ## One gated step -/

/-- What a pass over a StatefulSet of size `c` may do to it; `cl` is the cluster
in memory after the autoscaler ran. -/
structure GatedPass (inp : PassInput) (before after : World) (cl : KahunaCluster) (c : Nat) :
    Prop where
  size : after.size = c ∨ (after.size = c + 1 ∧ c + 1 ≤ desiredReplicas cl) ∨
    (c = after.size + 1 ∧ max (desiredReplicas cl) 1 ≤ after.size)
  roster : after.size ≠ c →
    RosterExact cl (observe inp.toPassEnv (pinBootstrapSize before.cluster)) c
  placement : after.size ≠ c →
    (∃ p, placementRead inp.toPassEnv (pinBootstrapSize before.cluster) = .ok p ∧
      Settled cl (some p) c) ∨
    placementRead inp.toPassEnv (pinBootstrapSize before.cluster) = .error .placementUnsupported
  left : after.size < c →
    NoReachablePod cl inp.pods (c - 1) ∨ LeaveAnswered cl inp.kahuna inp.pods (c - 1)
  /-- A pass that writes the StatefulSet freezes it at an unsettled roster. -/
  frozen : inp.reached .writeStatefulSet = true →
    ¬ RosterExact cl (observe inp.toPassEnv (pinBootstrapSize before.cluster)) c →
    ∃ sts, after.sts = some sts ∧ sts.rollingUpdate = some { partition := some c }

theorem World.size_of_sts {w : World} {sts : StatefulSet} (h : w.sts = some sts) :
    w.size = sts.size := by
  unfold World.size
  rw [h]
  rfl

theorem GatedStep.gatedPass {inp : PassInput} {before after : World} {cl : KahunaCluster}
    {sts : StatefulSet} {p : Plan}
    (h : GatedStep inp.toPassEnv cl
      (observe inp.toPassEnv (pinBootstrapSize before.cluster)) sts.size p)
    (hafter : after.sts = some (applyPlan cl p sts)) :
    GatedPass inp before after cl sts.size := by
  have hsize : after.size = p.replicas := by rw [World.size_of_sts hafter, applyPlan_size]
  refine ⟨?_, ?_, ?_, ?_, ?_⟩
  · rw [hsize]
    exact h.size
  · intro hne
    rw [hsize] at hne
    exact (h.gate hne).1
  · intro hne
    rw [hsize] at hne
    obtain ⟨_, herr, hsettled⟩ := h.gate hne
    rcases observe_placementErr_none herr with ⟨q, hread, hq⟩ | ⟨hread, _⟩
    · rw [hq] at hsettled
      exact Or.inl ⟨q, hread, hsettled⟩
    · exact Or.inr hread
  · intro hlt
    rw [hsize] at hlt
    exact h.left hlt
  · intro _ hroster
    refine ⟨_, hafter, ?_⟩
    rw [applyPlan_rollingUpdate, h.frozen hroster]

/-- The step lemma: any pass over an existing StatefulSet of a bootstrapped
cluster. -/
theorem pass_gated {inp : PassInput} {w : World} {cl : KahunaCluster} {sts : StatefulSet}
    (hsts : w.sts = some sts) (hboot : w.cluster.status.bootstrapped = true)
    (hcl : autoscaled inp.toPassEnv (pinBootstrapSize w.cluster) = .ok cl) :
    GatedPass inp w (pass inp w) cl sts.size := by
  have hpin : (pinBootstrapSize w.cluster).status.bootstrapped = true := by
    rw [(pinBootstrapSize_status w.cluster).1]
    exact hboot
  have hplan := planned_gatedStep inp.toPassEnv cl
    (observe inp.toPassEnv (pinBootstrapSize w.cluster)) sts.size
  cases hreached : inp.reached .writeStatefulSet with
  | true =>
      have hwritten := (pass_passed inp w).sts_written hcl hreached
      simp only [sized, reconcileStatefulSet, hsts, hpin] at hwritten
      exact hplan.gatedPass hwritten
  | false =>
      -- Without the write the StatefulSet is the one found, and nothing moved.
      have hsize : (pass inp w).size = sts.size := by
        rcases (pass_passed inp w).sts with hkeep | ⟨_, _, hw, _⟩
        · exact World.size_of_sts (hkeep.trans hsts)
        · rw [hreached] at hw
          cases hw
      refine ⟨Or.inl hsize, fun h => absurd hsize h, fun h => absurd hsize h, ?_, ?_⟩
      · intro hlt
        rw [hsize] at hlt
        exact absurd hlt (Nat.lt_irrefl _)
      · intro hw
        rw [hreached] at hw
        cases hw

theorem pass_panicked {inp : PassInput} {w : World} {e : Panic}
    (he : autoscaled inp.toPassEnv (pinBootstrapSize w.cluster) = .error e) :
    (pass inp w).sts = w.sts := by
  rcases (pass_passed inp w).sts with h | ⟨cl, hcl, _, _⟩
  · exact h
  · rw [he] at hcl
    cases hcl

/-- Over every run: each pass that starts on a bootstrapped cluster with a
StatefulSet takes at most one gated step, whatever was edited and observed. -/
theorem bootstrapped_pass_gated {w w' : World} {ts : List (Lib.Transition World Event)}
    (hrun : Run Step w ts w') :
    ∀ t ∈ ts, ∀ inp sts, t.event = .pass inp → t.before.sts = some sts →
      t.before.cluster.status.bootstrapped = true →
      match autoscaled inp.toPassEnv (pinBootstrapSize t.before.cluster) with
      | .ok cl => GatedPass inp t.before t.after cl sts.size
      | .error _ => t.after.sts = t.before.sts := by
  refine Run.forall_step ?_ hrun
  intro a e b hstep inp sts hevent hsts hboot
  cases hstep with
  | pass inp' =>
      cases hevent
      cases hcl : autoscaled inp.toPassEnv (pinBootstrapSize a.cluster) with
      | ok cl => exact pass_gated hsts hboot hcl
      | error e => exact pass_panicked hcl
  | edit _ => cases hevent
  | start _ _ _ => cases hevent
  | reclaim _ _ _ => cases hevent

/-! ## A settled cluster moves -/

theorem written_size {inp : PassInput} {w : World} {cl : KahunaCluster} {sts : StatefulSet}
    (hsts : w.sts = some sts)
    (hcl : autoscaled inp.toPassEnv (pinBootstrapSize w.cluster) = .ok cl)
    (hreached : inp.reached .writeStatefulSet = true) :
    (pass inp w).size = (planStatefulSet inp.toPassEnv cl w.cluster.status.bootstrapped
      (observe inp.toPassEnv (pinBootstrapSize w.cluster)) sts.size).replicas := by
  rw [World.size_of_sts ((pass_passed inp w).sts_written hcl hreached)]
  simp only [sized, reconcileStatefulSet, hsts, applyPlan_size,
    (pinBootstrapSize_status w.cluster).1]

theorem exactVoters_congr {c₁ c₂ : KahunaCluster} {m : Membership} {n : Nat}
    (h : ∀ i, raftEndpoint c₁ i = raftEndpoint c₂ i) :
    ExactVoters c₁ m n ↔ ExactVoters c₂ m n := by
  unfold ExactVoters
  simp only [h]

/-- With agreeing nodes, an exact roster, a settled placement and a node that
leaves when asked, a pass that writes the StatefulSet takes its step. -/
theorem agreed_pass_size {inp : PassInput} {w : World} {sts : StatefulSet} {a : Answers}
    {cl : KahunaCluster} (hsts : w.sts = some sts)
    (hboot : w.cluster.status.bootstrapped = true)
    (hcl : autoscaled inp.toPassEnv (pinBootstrapSize w.cluster) = .ok cl)
    (hreached : inp.reached .writeStatefulSet = true) (hkahuna : inp.kahuna = agreedClient a)
    (hpods : SomeReadyPod inp.pods) (hroster : ExactVoters w.cluster a.membership sts.size)
    (hsettled : Settled cl a.placement sts.size) (hleave : a.leave.removed = true) :
    (pass inp w).size = stepTowards sts.size (desiredReplicas cl) := by
  have hexact : ExactVoters cl a.membership sts.size :=
    (exactVoters_congr (raftEndpoint_autoscaled hcl)).mpr hroster
  rw [written_size hsts hcl hreached, hboot]
  exact plan_agreed hkahuna (observe_agreed hkahuna hpods) hexact hsettled hleave

theorem settled_pass_size {inp : PassInput} {w : World} {sts : StatefulSet} {a : Answers}
    (hsts : w.sts = some sts)
    (hboot : w.cluster.status.bootstrapped = true) (hfixed : w.cluster.spec.autoscaling = none)
    (hstop : inp.stop = none) (hkahuna : inp.kahuna = agreedClient a)
    (hpods : SomeReadyPod inp.pods) (hroster : ExactVoters w.cluster a.membership sts.size)
    (hplaced : a.placement = none) (hleave : a.leave.removed = true) :
    (pass inp w).size = stepTowards sts.size (specReplicas w.cluster) := by
  obtain ⟨cl, hcl, htarget⟩ := autoscaled_fixed inp.toPassEnv hfixed
  have hsettled : Settled cl a.placement sts.size := by
    rw [hplaced]
    exact settled_none cl sts.size
  rw [← htarget]
  exact agreed_pass_size hsts hboot hcl (PassInput.reached_of_stop hstop _) hkahuna hpods hroster
    hsettled hleave

def shrinking : World :=
  { cluster := foundedCluster 5 4, sts := some { replicas := some 5 } }

def shrinkingPass : PassInput :=
  { agreedEnv (foundedCluster 5 4) 5
      { membership := rosterOf (foundedCluster 5 4) 5 five_small
        leave := { outcome := .committed } } with }

theorem shrinking_sts : shrinking.sts = some { replicas := some 5 } := rfl

theorem shrinking_gated :
    (match autoscaled shrinkingPass.toPassEnv (pinBootstrapSize shrinking.cluster) with
      | .ok cl => GatedPass shrinkingPass shrinking (pass shrinkingPass shrinking) cl 5
      | .error _ => (pass shrinkingPass shrinking).sts = shrinking.sts) ∧
    (pass shrinkingPass shrinking).size = 4 := by
  constructor
  · have hrun : Run Step shrinking
        [⟨shrinking, .pass shrinkingPass, pass shrinkingPass shrinking⟩]
        (pass shrinkingPass shrinking) := Run.single (.pass shrinkingPass)
    exact bootstrapped_pass_gated hrun _ (List.mem_singleton.mpr rfl) shrinkingPass
      { replicas := some 5 } rfl rfl rfl
  · have hroster := exactVoters_rosterOf (foundedCluster 5 4) 5 (by decide)
    have hpods := someReadyPod_readyPods (foundedCluster 5 4) (n := 5) (by decide)
    exact settled_pass_size shrinking_sts rfl rfl rfl rfl hpods hroster rfl rfl

/-! ## A half-finished scale-down -/

/-- A node that left the roster before its StatefulSet was lowered is never
followed by the StatefulSet: the roster no longer matches the size it is
compared with, so the plan holds whatever the node answers. -/
theorem departed_node_stalls {inp : PassInput} {w : World} {sts : StatefulSet} {m : Membership}
    {c : Nat} (hsts : w.sts = some sts) (hc : sts.size = c) (hpos : 2 ≤ c)
    (hboot : w.cluster.status.bootstrapped = true)
    (hread : (observe inp.toPassEnv (pinBootstrapSize w.cluster)).membership = some m)
    (hroster : ExactVoters w.cluster m (c - 1)) :
    (pass inp w).size = c := by
  have hsize : w.size = c := (World.size_of_sts hsts).trans hc
  cases hcl : autoscaled inp.toPassEnv (pinBootstrapSize w.cluster) with
  | error e =>
      unfold World.size at hsize ⊢
      rw [pass_panicked hcl]
      exact hsize
  | ok cl =>
      by_contra hne
      have hgate := (pass_gated hsts hboot hcl).roster (by rw [hc]; exact hne)
      obtain ⟨m', hm', hexact⟩ := hgate
      rw [hread] at hm'
      cases hm'
      -- One roster cannot be exact for two sizes.
      have hsame := ((exactVoters_congr (raftEndpoint_autoscaled hcl)).mp hexact).unique hroster
      omega

/-- A scale-down whose leave was committed and whose StatefulSet write was lost
is not resumed by any pass. -/
theorem half_finished_scale_down_never_resumes {inp : PassInput} {w : World} {sts : StatefulSet}
    {m : Membership} {c : Nat} (hsts : w.sts = some sts) (hc : sts.size = c) (hpos : 2 ≤ c)
    (hboot : w.cluster.status.bootstrapped = true)
    (hread : (observe inp.toPassEnv (pinBootstrapSize w.cluster)).membership = some m)
    (hroster : ExactVoters w.cluster m (c - 1)) :
    (pass inp w).size ≠ c - 1 := by
  rw [departed_node_stalls hsts hc hpos hboot hread hroster]
  omega

/-- One data partition, on the first three nodes. -/
def retriedPlacement : Placement :=
  { partitions :=
      [{ partitionID := 1
         state := .active
         replicas := (List.range 3).map fun i =>
           { endpoint := raftEndpoint (foundedCluster 5 4) i, role := .voter } }] }

theorem retriedPlacement_settled : Settled (foundedCluster 5 4) (some retriedPlacement) 4 := by
  rintro _ ⟨⟩ part hpart _ rep hrep
  cases List.mem_singleton.mp hpart
  obtain ⟨i, hi, rfl⟩ := List.mem_map.mp hrep
  have hi := List.mem_range.mp hi
  exact ⟨rfl, i, by omega, rfl⟩

/-- The roster is down to four, the data has followed, and the fifth node says it is
not a member. -/
def retriedAnswers : Answers :=
  { membership := rosterOf (foundedCluster 5 4) 4 four_small
    leave := { outcome := .notAMember }
    placement := some retriedPlacement }

def retriedPass : PassInput :=
  { agreedEnv (foundedCluster 5 4) 5 retriedAnswers with }

theorem retriedPass_observed :
    observe retriedPass.toPassEnv (pinBootstrapSize shrinking.cluster) =
      { membership := some retriedAnswers.membership, placement := retriedAnswers.placement
        placementErr := none } :=
  observe_agreedEnv (foundedCluster 5 4) (pinBootstrapSize shrinking.cluster) 5 retriedAnswers
    (by decide)

theorem four_exact : ExactVoters (foundedCluster 5 4) retriedAnswers.membership 4 :=
  exactVoters_rosterOf (foundedCluster 5 4) 4 (by decide)

theorem retriedPass_not_resumed : (pass retriedPass shrinking).size ≠ 5 - 1 :=
  half_finished_scale_down_never_resumes shrinking_sts rfl (by decide) rfl
    (congrArg Observed.membership retriedPass_observed) four_exact

/-- Every premise of a resumable step holds here, and the size stays at five. -/
theorem retried_step_stalls :
    shrinking.cluster.status.bootstrapped = true ∧ shrinking.size = 5 ∧
      desiredReplicas shrinking.cluster = 4 ∧ retriedPass.stop = none ∧
      RosterExact shrinking.cluster
        (observe retriedPass.toPassEnv (pinBootstrapSize shrinking.cluster)) 4 ∧
      placementRead retriedPass.toPassEnv (pinBootstrapSize shrinking.cluster) =
        .ok retriedPlacement ∧
      Settled shrinking.cluster (some retriedPlacement) 4 ∧
      LeaveAnswered shrinking.cluster retriedPass.kahuna retriedPass.pods 4 ∧
      (pass retriedPass shrinking).size = 5 := by
  have hobs := retriedPass_observed
  refine ⟨rfl, rfl, rfl, rfl, ?_, ?_, retriedPlacement_settled, ?_, ?_⟩
  · rw [hobs]
    exact ⟨_, rfl, four_exact⟩
  · exact readPlacement_agreed
      (someReadyPod_readyPods (foundedCluster 5 4) (n := 5) (by decide)) _
  · refine ⟨readyPod (foundedCluster 5 4) 4, ?_, rfl, ?_, _, rfl, Or.inr rfl⟩
    · exact List.mem_map.mpr ⟨4, List.mem_range.mpr (by decide), rfl⟩
    · simp [readyPod, String.append_eq_empty_iff]
  · exact departed_node_stalls shrinking_sts rfl (by decide) rfl
      (congrArg Observed.membership hobs) four_exact

end KahunaOperator
