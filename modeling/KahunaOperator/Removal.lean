/-
# `KahunaOperator.Removal` — what a node that is taken away was asked

Two promises about removals, and how far they hold.

*Every removed node left first.*  The planner takes one node at a time only
once the cluster is bootstrapped.  Before that it jumps to the target, while
the leave request still goes to the last ordinal alone:

    a pass that lowers a bootstrapping cluster asks every node it removes
      ⟺  no node between the target and the last one can be reached
                                                              (`greenfield_removal_iff`)

*A removal does not cost quorum.*  The gate looks at the roster and at the
placement, by design not at readiness.  A ready majority of the Voters survives
the removal except in one case:

    an odd number of Voters, a bare majority of them ready, and the
    departing node among the ready ones                                     (`removal_quorum_iff`)
-/
import KahunaOperator.Lib.Cover
import KahunaOperator.Scale

namespace KahunaOperator

open Lib (Run Transition)

/-! ## The target before bootstrap -/

/-- The size a cluster that is not bootstrapped is driven to: nothing is measured
yet, so the autoscaler only holds the size inside its bounds. -/
def greenfieldTarget (cluster : KahunaCluster) : Nat :=
  match cluster.spec.autoscaling with
  | none => specReplicas cluster
  | some as => min (max (desiredReplicas cluster) as.minReplicas) as.maxReplicas

theorem autoscaled_greenfield {env : PassEnv} {cluster cl : KahunaCluster}
    (haccepted : cluster.spec.Accepted) (hboot : cluster.status.bootstrapped = false)
    (hcl : autoscaled env (pinBootstrapSize cluster) = .ok cl) :
    desiredReplicas cl = greenfieldTarget cluster := by
  have hspec := autoscaled_spec hcl
  unfold greenfieldTarget
  cases has : cluster.spec.autoscaling with
  | none =>
      rw [desiredReplicas_fixed (by rw [hspec]; exact has)]
      simp only [specReplicas, hspec]
  | some as =>
      obtain ⟨i, hi, hstart, hdecided⟩ :=
        autoscaled_decision has (haccepted.2.2.2.1 as has) hcl
      have hconv : i.converged = false := by
        rw [hi.converged, hboot]
        rfl
      rw [hdecided, decideAutoscale_not_converged hconv, hstart]

/-! ## Who was asked -/

/-- The ordinal was asked in this pass and answered that it is out, or there is
no pod to ask. -/
def Departed (inp : PassInput) (w : World) (i : Nat) : Prop :=
  (∃ r, (i, .ok r) ∈ passLeaveCalls inp w ∧
      (r.outcome = .committed ∨ r.outcome = .notAMember)) ∨
    NoReachablePod w.cluster inp.pods i

/-- Only the last ordinal is ever asked. -/
theorem leaveCalls_last {env : PassEnv} {cluster : KahunaCluster} {b : Bool} {o : Observed}
    {c i : Nat} {x : Except KahunaError LeaveResult} (h : (i, x) ∈ leaveCalls env cluster b o c) :
    i = c - 1 := by
  simp only [leaveCalls] at h
  split at h
  · split at h
    · cases h
    · cases List.mem_singleton.mp h
      rfl
  · cases h

/-- With an exact roster and a settled placement, a pass that is to lower the size
asks the last node, if it can be reached. -/
theorem settled_pass_asks {inp : PassInput} {w : World} {cl : KahunaCluster} {sts : StatefulSet}
    {m : Membership} {placement : Option Placement} (hsts : w.sts = some sts)
    (hboot : w.cluster.status.bootstrapped = true)
    (hcl : autoscaled inp.toPassEnv (pinBootstrapSize w.cluster) = .ok cl)
    (hreached : inp.reached .getStatefulSet = true)
    (ho : observe inp.toPassEnv (pinBootstrapSize w.cluster) =
      { membership := some m, placement := placement, placementErr := none })
    (hroster : ExactVoters w.cluster m sts.size) (hsettled : Settled cl placement sts.size)
    (hlower : stepTowards sts.size (desiredReplicas cl) < sts.size)
    (hpod : ¬ NoReachablePod cl inp.pods (sts.size - 1)) :
    ∃ url, (sts.size - 1, inp.kahuna.leave url) ∈ passLeaveCalls inp w := by
  have hexact := (exactVoters_congr (raftEndpoint_autoscaled hcl)).mpr hroster
  rw [← buildPlan_agreed hexact hsettled] at hlower
  have hpin := (pinBootstrapSize_status w.cluster).1.trans hboot
  cases htarget : leaveTarget cl inp.pods (sts.size - 1) with
  | none => exact absurd (leaveTarget_eq_none_iff.mp htarget) hpod
  | some pod =>
      refine ⟨podBaseURL cl pod, ?_⟩
      simp only [passLeaveCalls, hsts, hcl, hreached, if_true, leaveCalls, ho, hpin, hlower,
        htarget]
      exact List.mem_singleton.mpr rfl

theorem passLeaveCalls_inv {inp : PassInput} {w : World} {i : Nat}
    {x : Except KahunaError LeaveResult} (h : (i, x) ∈ passLeaveCalls inp w) :
    ∃ cl sts, autoscaled inp.toPassEnv (pinBootstrapSize w.cluster) = .ok cl ∧
      w.sts = some sts ∧
      (i, x) ∈ leaveCalls inp.toPassEnv cl (pinBootstrapSize w.cluster).status.bootstrapped
        (observe inp.toPassEnv (pinBootstrapSize w.cluster)) sts.size := by
  simp only [passLeaveCalls] at h
  split at h
  · split at h
    · next cl sts hcl hsts => exact ⟨cl, sts, hcl, hsts, h⟩
    · cases h
  · cases h

theorem passLeaveCalls_last {inp : PassInput} {w : World} {sts : StatefulSet} {i : Nat}
    {x : Except KahunaError LeaveResult} (hsts : w.sts = some sts)
    (h : (i, x) ∈ passLeaveCalls inp w) : i = sts.size - 1 := by
  obtain ⟨cl, sts', _, hsts', hcall⟩ := passLeaveCalls_inv h
  cases hsts.symm.trans hsts'
  exact leaveCalls_last hcall

theorem greenfield_plan_lower {env : PassEnv} {cluster : KahunaCluster} {o : Observed} {c : Nat}
    (h : (planStatefulSet env cluster false o c).replicas < c) :
    (planStatefulSet env cluster false o c).replicas = desiredReplicas cluster ∧
      desiredReplicas cluster < c ∧
      (decommission cluster env.kahuna env.pods (c - 1)).1 = true := by
  simp only [planStatefulSet, buildPlan_greenfield] at h ⊢
  by_cases hlt : desiredReplicas cluster < c
  · cases hleft : (decommission cluster env.kahuna env.pods (c - 1)).1 with
    | true => exact ⟨by simp [hlt], hlt, rfl⟩
    | false => simp [hlt, hleft] at h
  · simp only [hlt, if_false] at h

/-- The node that may go was asked, or there was no pod to ask. -/
theorem asked_of_left {env : PassEnv} {cluster : KahunaCluster} {b : Bool} {o : Observed} {c : Nat}
    (hlower : (buildPlan cluster c b o.membership o.placement o.placementErr).replicas < c)
    (hleft : (decommission cluster env.kahuna env.pods (c - 1)).1 = true) :
    (∃ r, (c - 1, .ok r) ∈ leaveCalls env cluster b o c ∧
        (r.outcome = .committed ∨ r.outcome = .notAMember)) ∨
      NoReachablePod cluster env.pods (c - 1) := by
  cases ht : leaveTarget cluster env.pods (c - 1) with
  | none => exact Or.inr (leaveTarget_eq_none_iff.mp ht)
  | some pod =>
      left
      simp only [decommission, ht] at hleft
      cases hl : env.kahuna.leave (podBaseURL cluster pod) with
      | error e => simp [hl] at hleft
      | ok r =>
          have hremoved : r.removed = true := by
            by_contra hr
            simp only [hl, hr, if_false] at hleft
            split at hleft <;> cases hleft
          refine ⟨r, ?_, LeaveResult.removed_iff.mp hremoved⟩
          simp only [leaveCalls, hlower, if_true, ht, hl]
          exact List.mem_singleton.mpr rfl

theorem written_of_lower {inp : PassInput} {w : World} {sts : StatefulSet}
    (hsts : w.sts = some sts) (hlower : (pass inp w).size < sts.size) :
    ∃ cl, autoscaled inp.toPassEnv (pinBootstrapSize w.cluster) = .ok cl ∧
      inp.reached .writeStatefulSet = true ∧
      (pass inp w).size = (planStatefulSet inp.toPassEnv cl w.cluster.status.bootstrapped
        (observe inp.toPassEnv (pinBootstrapSize w.cluster)) sts.size).replicas := by
  rcases (pass_passed inp w).sts with hsame | ⟨cl, hcl, hreached, _⟩
  · rw [World.size_of_sts (hsame.trans hsts)] at hlower
    exact absurd hlower (Nat.lt_irrefl _)
  · exact ⟨cl, hcl, hreached, written_size hsts hcl hreached⟩

theorem noReachablePod_congr {c₁ c₂ : KahunaCluster} {pods : List Pod} {i : Nat}
    (h : podName c₁ i = podName c₂ i) :
    NoReachablePod c₁ pods i ↔ NoReachablePod c₂ pods i := by
  unfold NoReachablePod
  rw [h]

/-- The step lemma: what a lowering pass of a bootstrapping cluster asked. -/
theorem greenfield_pass_iff {inp : PassInput} {w : World} {sts : StatefulSet}
    (haccepted : w.cluster.spec.Accepted) (hsts : w.sts = some sts)
    (hboot : w.cluster.status.bootstrapped = false) (hlower : (pass inp w).size < sts.size) :
    (∀ i, (pass inp w).size ≤ i → i < sts.size → Departed inp w i) ↔
      ∀ i, greenfieldTarget w.cluster ≤ i → i + 1 < sts.size →
        NoReachablePod w.cluster inp.pods i := by
  obtain ⟨cl, hcl, hreached, hsize⟩ := written_of_lower hsts hlower
  have htarget := autoscaled_greenfield haccepted hboot hcl
  rw [hboot] at hsize
  rw [hsize] at hlower
  obtain ⟨hplan, hlt, hleft⟩ := greenfield_plan_lower hlower
  rw [hsize, hplan, htarget]
  constructor
  · intro h i hi hlast
    rcases h i hi (by omega) with ⟨r, hcall, _⟩ | hnone
    · have := passLeaveCalls_last hsts hcall
      omega
    · exact hnone
  · intro h i hi hlt'
    by_cases hlast : i + 1 < sts.size
    · exact Or.inr (h i hi hlast)
    · have hi' : i = sts.size - 1 := by omega
      subst hi'
      have hcalls : passLeaveCalls inp w = leaveCalls inp.toPassEnv cl false
          (observe inp.toPassEnv (pinBootstrapSize w.cluster)) sts.size := by
        have hget := PassInput.reached_mono (p := .getStatefulSet) (by decide) hreached
        simp only [passLeaveCalls, hget, if_true, hcl, hsts,
          (pinBootstrapSize_status w.cluster).1, hboot]
      unfold Departed
      rw [hcalls, ← noReachablePod_congr (podName_autoscaled hcl _)]
      exact asked_of_left (by rw [buildPlan_greenfield]; exact hlt) hleft

/-- Over every run from creation: when a pass lowers the StatefulSet of a cluster
that is not bootstrapped, every ordinal it removes left first or has no pod to
ask, exactly when no node between the target and the last ordinal can be
reached. -/
theorem greenfield_removal_iff {w w' : World} {ts : List (Transition World Event)}
    (hcreated : Created w) (hrun : Run Step w ts w') :
    ∀ t ∈ ts, ∀ inp sts, t.event = .pass inp → t.before.sts = some sts →
      t.before.cluster.status.bootstrapped = false → t.after.size < sts.size →
      ((∀ i, t.after.size ≤ i → i < sts.size → Departed inp t.before i) ↔
        ∀ i, greenfieldTarget t.before.cluster ≤ i → i + 1 < sts.size →
          NoReachablePod t.before.cluster inp.pods i) := by
  refine Run.forall_mem (I := fun w => w.cluster.spec.Accepted) accepted_step ?_ hrun
    hcreated.accepted
  intro a e b haccepted hstep inp sts hevent hsts hboot hlower
  cases hevent
  cases hstep.pass_inv
  exact greenfield_pass_iff haccepted hsts hboot hlower

/-! ## A size edited down during bootstrap -/

def sizedCluster (replicas : Nat) : KahunaCluster :=
  { name := "kahuna", ns := "kv", spec := { replicas := some replicas } }

def bootAnswers : Answers :=
  { membership := rosterOf (sizedCluster 5) 5 five_small, leave := { outcome := .committed } }

def creatingPass : PassInput :=
  { pods := [], kahuna := agreedClient bootAnswers, float := wrappingDouble }

def bootPass : PassInput := { agreedEnv (sizedCluster 5) 5 bootAnswers with }

def newWorld : World := { cluster := sizedCluster 5 }

def bootWorld : World := pass creatingPass newWorld

def editedWorld (replicas : Nat) : World :=
  { bootWorld with cluster := { bootWorld.cluster with
      spec := { replicas := some replicas }
      generation := bootWorld.cluster.generation + 1 } }

theorem newWorld_created : Created newWorld :=
  ⟨by decide, rfl, rfl, rfl, rfl⟩

theorem bootWorld_sts : ∃ sts, bootWorld.sts = some sts ∧ sts.size = 5 := by
  obtain ⟨cl, hcl, hdesired⟩ := autoscaled_fixed creatingPass.toPassEnv
    (show newWorld.cluster.spec.autoscaling = none from rfl)
  refine ⟨_, (pass_passed creatingPass newWorld).sts_written hcl rfl, ?_⟩
  show desiredReplicas cl = 5
  rw [hdesired]
  rfl

theorem bootWorld_size : bootWorld.size = 5 := by
  obtain ⟨sts, hsts, hsize⟩ := bootWorld_sts
  exact (World.size_of_sts hsts).trans hsize

theorem bootWorld_spec : bootWorld.cluster.spec = (sizedCluster 5).spec :=
  (pass_passed creatingPass newWorld).frame.1

theorem bootWorld_bootstrapSize : bootWorld.cluster.status.bootstrapSize = 5 :=
  (pass_passed creatingPass newWorld).bootstrapSize_pinned rfl

theorem editedWorld_endpoint (replicas i : Nat) :
    raftEndpoint (editedWorld replicas).cluster i = raftEndpoint (sizedCluster 5) i := by
  obtain ⟨_, hname, hns, _⟩ := (pass_passed creatingPass newWorld).frame
  exact raftEndpoint_congr hname hns rfl i

/-- A pass that sees no pods does not end the bootstrap. -/
theorem bootstrapping_of_no_pods {inp : PassInput} {w : World} (hpods : inp.pods = [])
    (h : w.cluster.status.bootstrapped = false) :
    (pass inp w).cluster.status.bootstrapped = false := by
  by_contra hb
  have hb : (pass inp w).cluster.status.bootstrapped = true := by simpa using hb
  rcases (pass_passed inp w).bootstrapped.mp hb with hold | ⟨_, m, _, _, hm, _⟩
  · rw [h] at hold
    cases hold
  · rw [observe_no_pods hpods] at hm
    cases hm

theorem bootWorld_bootstrapping : bootWorld.cluster.status.bootstrapped = false :=
  bootstrapping_of_no_pods rfl rfl

theorem editedWorld_run (replicas : Nat)
    (h : (sizedCluster 5).spec.AcceptedUpdate { replicas := some replicas }) :
    Run Step newWorld
      [⟨newWorld, .pass creatingPass, bootWorld⟩,
        ⟨bootWorld, .edit { replicas := some replicas }, editedWorld replicas⟩,
        ⟨editedWorld replicas, .pass bootPass, pass bootPass (editedWorld replicas)⟩]
      (pass bootPass (editedWorld replicas)) := by
  have hedit : bootWorld.cluster.spec.AcceptedUpdate { replicas := some replicas } := by
    rw [bootWorld_spec]
    exact h
  exact .cons (.pass _) (.cons (.edit hedit) (.cons (.pass _) (.nil _)))

/-- A bootstrapping cluster of fixed size jumps to it once the last node may go. -/
theorem greenfield_pass_size {inp : PassInput} {w : World} {sts : StatefulSet}
    (hsts : w.sts = some sts) (hboot : w.cluster.status.bootstrapped = false)
    (hfixed : w.cluster.spec.autoscaling = none) (hstop : inp.stop = none)
    (hlower : specReplicas w.cluster < sts.size)
    (hleft : ∀ cl, (decommission cl inp.kahuna inp.pods (sts.size - 1)).1 = true) :
    (pass inp w).size = specReplicas w.cluster := by
  obtain ⟨cl, hcl, hdesired⟩ := autoscaled_fixed inp.toPassEnv hfixed
  rw [written_size hsts hcl (PassInput.reached_of_stop hstop _), hboot]
  simp only [planStatefulSet, buildPlan_greenfield, hdesired, hlower, if_true, hleft,
    Bool.not_true, Bool.false_eq_true, if_false]

theorem editedWorld_lowered {replicas : Nat} (h : replicas < 5) :
    (pass bootPass (editedWorld replicas)).size = replicas := by
  obtain ⟨sts, hsts, hsize⟩ := bootWorld_sts
  have hsts : (editedWorld replicas).sts = some sts := hsts
  refine greenfield_pass_size hsts bootWorld_bootstrapping rfl rfl (by rw [hsize]; exact h) ?_
  exact fun cl => decommission_agreed (a := bootAnswers) rfl

/-- One node fewer: the one removed is the one asked. -/
theorem one_node_edit_asked :
    (pass bootPass (editedWorld 4)).size = 4 ∧ Departed bootPass (editedWorld 4) 4 := by
  obtain ⟨sts, hsts, hsize⟩ := bootWorld_sts
  have hlowered : (pass bootPass (editedWorld 4)).size = 4 := editedWorld_lowered (by decide)
  have hiff := greenfield_removal_iff newWorld_created (editedWorld_run 4 (by decide)) _
    (List.mem_cons_of_mem _ (List.mem_cons_of_mem _ List.mem_cons_self)) bootPass sts rfl hsts
    bootWorld_bootstrapping (by rw [hlowered, hsize]; decide)
  rw [hsize] at hiff
  refine ⟨hlowered, hiff.mpr ?_ 4 (Nat.le_of_eq hlowered) (by decide)⟩
  intro i hi hlast
  have hi : 4 ≤ i := hi
  omega

/-- Two nodes fewer: the fourth one runs, can be reached, and is not asked. -/
theorem two_node_edit_skips_a_node :
    Created newWorld ∧
    Run Step newWorld
      [⟨newWorld, .pass creatingPass, bootWorld⟩,
        ⟨bootWorld, .edit { replicas := some 3 }, editedWorld 3⟩,
        ⟨editedWorld 3, .pass bootPass, pass bootPass (editedWorld 3)⟩]
      (pass bootPass (editedWorld 3)) ∧
    (editedWorld 3).cluster.status.bootstrapped = false ∧ (editedWorld 3).size = 5 ∧
    (pass bootPass (editedWorld 3)).size = 3 ∧ ¬ Departed bootPass (editedWorld 3) 3 := by
  obtain ⟨sts, hsts, hsize⟩ := bootWorld_sts
  have hsts : (editedWorld 3).sts = some sts := hsts
  refine ⟨newWorld_created, editedWorld_run 3 (by decide), bootWorld_bootstrapping,
    (World.size_of_sts hsts).trans hsize, editedWorld_lowered (by decide), ?_⟩
  rintro (⟨r, hcall, _⟩ | hnone)
  · have hlast := passLeaveCalls_last hsts hcall
    rw [hsize] at hlast
    exact absurd hlast (by decide)
  · have hname : (editedWorld 3).cluster.name = "kahuna" :=
      (pass_passed creatingPass newWorld).frame.2.1
    have hpod : readyPod (sizedCluster 5) 3 ∈ bootPass.pods :=
      List.mem_map.mpr ⟨3, List.mem_range.mpr (by decide), rfl⟩
    have hip := hnone _ hpod (by simp only [readyPod, podName, stsName, hname]; rfl)
    simp [readyPod, String.append_eq_empty_iff] at hip

/-! ## Quorum after a removal -/

def podEndpoint (cluster : KahunaCluster) (p : Pod) : String :=
  p.name ++ "." ++ peerDomain cluster ++ ":" ++ toString (ports cluster).raft

/-- Some listed pod serves the endpoint and is ready. -/
def served (cluster : KahunaCluster) (pods : List Pod) (endpoint : String) : Bool :=
  pods.any fun p => podIsReady p && podEndpoint cluster p == endpoint

def voterEndpoints (m : Membership) : List String :=
  ((m.members.map Member.key).filter fun k => k.2 == .voter).map Prod.fst

/-- A strict majority of the Voters is served by ready pods. -/
def ServedMajority (cluster : KahunaCluster) (pods : List Pod) (voters : List String) : Prop :=
  voters.length < 2 * voters.countP (served cluster pods)

instance (cluster : KahunaCluster) (pods : List Pod) (voters : List String) :
    Decidable (ServedMajority cluster pods voters) :=
  inferInstanceAs (Decidable (_ < _))

theorem voterEndpoints_exact {cluster : KahunaCluster} {m : Membership} {n : Nat}
    (h : ExactVoters cluster m n) :
    (voterEndpoints m).Perm ((List.range n).map (raftEndpoint cluster)) := by
  have hperm := (h.filter fun k => k.2 == .voter).map Prod.fst
  have hall : (((List.range n).map fun i => (raftEndpoint cluster i, Role.voter)).filter
      fun k => k.2 == .voter).map Prod.fst = (List.range n).map (raftEndpoint cluster) := by
    rw [List.filter_eq_self.mpr, List.map_map]
    · rfl
    · intro k hk
      obtain ⟨i, _, rfl⟩ := List.mem_map.mp hk
      rfl
  rw [hall] at hperm
  exact hperm

theorem erase_last_perm {cluster : KahunaCluster} {l : List String} {n : Nat}
    (h : l.Perm ((List.range (n + 1)).map (raftEndpoint cluster))) :
    (l.erase (raftEndpoint cluster n)).Perm ((List.range n).map (raftEndpoint cluster)) := by
  have hlast : ((List.range (n + 1)).map (raftEndpoint cluster)).Perm
      (raftEndpoint cluster n :: (List.range n).map (raftEndpoint cluster)) := by
    rw [List.range_succ, List.map_append]
    exact List.perm_append_comm
  have herase := (h.trans hlast).erase (raftEndpoint cluster n)
  rw [List.erase_cons_head] at herase
  exact herase

/-- Over the ordinals below `n`, a served majority is a majority of indices. -/
theorem servedMajority_iff {cluster : KahunaCluster} {pods : List Pod} {l : List String} {n : Nat}
    (h : l.Perm ((List.range n).map (raftEndpoint cluster))) :
    ServedMajority cluster pods l ↔
      Lib.MajorityBelow (fun i => served cluster pods (raftEndpoint cluster i)) n := by
  unfold ServedMajority Lib.MajorityBelow
  rw [h.countP_eq, h.length_eq, List.length_map, List.length_range, List.countP_map]
  rfl

theorem removal_quorum_of_exact {cluster : KahunaCluster} {pods : List Pod} {m : Membership}
    {n : Nat} (hexact : ExactVoters cluster m (n + 1))
    (hmajority : ServedMajority cluster pods (voterEndpoints m)) :
    ServedMajority cluster pods ((voterEndpoints m).erase (raftEndpoint cluster n)) ↔
      ¬ ((n + 1) % 2 = 1 ∧
        2 * (voterEndpoints m).countP (served cluster pods) = n + 2 ∧
        served cluster pods (raftEndpoint cluster n) = true) := by
  have hvoters := voterEndpoints_exact hexact
  have hcount : (voterEndpoints m).countP (served cluster pods) =
      (List.range (n + 1)).countP fun i => served cluster pods (raftEndpoint cluster i) := by
    rw [hvoters.countP_eq, List.countP_map]
    rfl
  rw [servedMajority_iff (erase_last_perm hvoters), hcount]
  exact Lib.majority_init_iff ((servedMajority_iff hvoters).mp hmajority)

/-- Over every run: when a pass takes a node from a bootstrapped cluster whose
Voters have a ready majority, the others have one too, except when their number
was odd, the majority was bare, and the departing node was part of it. -/
theorem removal_quorum_iff {w w' : World} {ts : List (Transition World Event)}
    (hrun : Run Step w ts w') :
    ∀ t ∈ ts, ∀ inp sts m, t.event = .pass inp → t.before.sts = some sts →
      t.before.cluster.status.bootstrapped = true →
      (observe inp.toPassEnv (pinBootstrapSize t.before.cluster)).membership = some m →
      t.after.size + 1 = sts.size →
      ServedMajority t.before.cluster inp.pods (voterEndpoints m) →
      (ServedMajority t.before.cluster inp.pods
          ((voterEndpoints m).erase (raftEndpoint t.before.cluster (sts.size - 1))) ↔
        ¬ (sts.size % 2 = 1 ∧
          2 * (voterEndpoints m).countP (served t.before.cluster inp.pods) = sts.size + 1 ∧
          served t.before.cluster inp.pods
            (raftEndpoint t.before.cluster (sts.size - 1)) = true)) := by
  refine Run.forall_step ?_ hrun
  intro a e b hstep inp sts m hevent hsts hboot hread hlower hmajority
  cases hevent
  cases hstep.pass_inv
  have hlower : (pass inp a).size + 1 = sts.size := hlower
  have hlt : (pass inp a).size < sts.size := by omega
  obtain ⟨cl, hcl, _, _⟩ := written_of_lower hsts hlt
  obtain ⟨m', hm', hexact⟩ := (pass_gated hsts hboot hcl).roster (Nat.ne_of_lt hlt)
  cases hread.symm.trans hm'
  have hexact := (exactVoters_congr (raftEndpoint_autoscaled hcl)).mp hexact
  rw [← hlower] at hexact ⊢
  exact removal_quorum_of_exact hexact hmajority

def partlyReady (ready : List Nat) : List Pod :=
  (List.range 5).map fun i =>
    if i ∈ ready then readyPod (foundedCluster 5 4) i
    else { readyPod (foundedCluster 5 4) i with conditions := [] }

def fiveAnswers : Answers :=
  { membership := rosterOf (foundedCluster 5 4) 5 five_small, leave := { outcome := .committed } }

def partlyReadyPass (ready : List Nat) : PassInput :=
  { pods := partlyReady ready, kahuna := agreedClient fiveAnswers, float := wrappingDouble }

theorem partlyReady_some {ready : List Nat} (h : 0 ∈ ready) : SomeReadyPod (partlyReady ready) := by
  refine ⟨readyPod (foundedCluster 5 4) 0, ?_, ?_, rfl, rfl⟩
  · exact List.mem_map.mpr ⟨0, List.mem_range.mpr (by decide), if_pos h⟩
  · simp [readyPod, String.append_eq_empty_iff]

theorem partlyReady_lowered {ready : List Nat} (h : 0 ∈ ready) :
    (pass (partlyReadyPass ready) shrinking).size = 4 := by
  have hroster := exactVoters_rosterOf (foundedCluster 5 4) 5 (by decide)
  have hkahuna : (partlyReadyPass ready).kahuna = agreedClient fiveAnswers := rfl
  exact settled_pass_size shrinking_sts rfl rfl rfl hkahuna (partlyReady_some h) hroster rfl rfl

theorem partlyReady_read {ready : List Nat} (h : 0 ∈ ready) :
    (observe (partlyReadyPass ready).toPassEnv (pinBootstrapSize shrinking.cluster)).membership =
      some fiveAnswers.membership := by
  have hkahuna : (partlyReadyPass ready).kahuna = agreedClient fiveAnswers := rfl
  rw [observe_agreed hkahuna (partlyReady_some h)]

/-- Four of five ready: the removal keeps a majority. -/
theorem four_ready_keep_quorum :
    ServedMajority shrinking.cluster (partlyReady [0, 1, 2, 4])
      ((voterEndpoints fiveAnswers.membership).erase (raftEndpoint shrinking.cluster 4)) := by
  have hrun : Run Step shrinking
      [⟨shrinking, .pass (partlyReadyPass [0, 1, 2, 4]),
        pass (partlyReadyPass [0, 1, 2, 4]) shrinking⟩] _ := Run.single (.pass _)
  refine (removal_quorum_iff hrun _ (List.mem_singleton.mpr rfl) (partlyReadyPass [0, 1, 2, 4])
    _ _ rfl shrinking_sts rfl (partlyReady_read (by decide)) ?_ ?_).mpr ?_
  · exact congrArg (· + 1) (partlyReady_lowered (by decide))
  · decide
  · decide

/-- Three of five ready, the departing node among them: two of four remain. -/
theorem bare_majority_lost :
    shrinking.cluster.status.bootstrapped = true ∧ shrinking.size = 5 ∧
    (pass (partlyReadyPass [0, 1, 4]) shrinking).size = 4 ∧
    (observe (partlyReadyPass [0, 1, 4]).toPassEnv
        (pinBootstrapSize shrinking.cluster)).membership =
      some fiveAnswers.membership ∧
    fiveAnswers.leave.outcome = .committed ∧
    ServedMajority shrinking.cluster (partlyReady [0, 1, 4])
      (voterEndpoints fiveAnswers.membership) ∧
    ¬ ServedMajority shrinking.cluster (partlyReady [0, 1, 4])
      ((voterEndpoints fiveAnswers.membership).erase (raftEndpoint shrinking.cluster 4)) :=
  ⟨rfl, rfl, partlyReady_lowered (by decide), partlyReady_read (by decide), rfl, by decide,
    by decide⟩

end KahunaOperator
