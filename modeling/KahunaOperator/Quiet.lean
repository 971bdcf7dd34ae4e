/-
# `KahunaOperator.Quiet` — passes that find nothing to do

The operator is woken far more often than anything changes.  This module is about
the passes in between: the same reads, the same stopping point, a cluster of fixed
size.  The founding size is pinned by the first pass; the StatefulSet follows the
latch, which the first pass may still set; the status follows the StatefulSet.

    after two passes, a third changes nothing            (`repeated_pass_settles`)

The size is where this could fail.  A bootstrapped cluster takes a step only on a
roster exact at the old size, and that roster is not exact at the new one
(`plan_again`): a pass that has moved the size has to be shown a new roster before
it moves again.
-/
import KahunaOperator.Converge
import KahunaOperator.StatusAgain

namespace KahunaOperator

variable {cluster : KahunaCluster} {sts : StatefulSet} {pods : List Pod}
  {membership : Option Membership} {keystore : Bool × String}

/-! ## The plan -/

section Plan

variable (env : PassEnv) (cluster : KahunaCluster) (o : Observed) (c : Nat)

theorem plan_of_refused (bootstrapped : Bool)
    (h : (decommission cluster env.kahuna env.pods (c - 1)).1 = false) :
    c ≤ (planStatefulSet env cluster bootstrapped o c).replicas := by
  simp only [planStatefulSet, h, Bool.not_false, if_true]
  split
  · exact le_refl c
  · next hge => exact Nat.le_of_not_lt hge

/-- Before the bootstrap a plan is the target, or a lowering that was refused. -/
theorem plan_unbootstrapped :
    (planStatefulSet env cluster false o c).replicas = desiredReplicas cluster ∨
      (desiredReplicas cluster < c ∧
        (decommission cluster env.kahuna env.pods (c - 1)).1 = false ∧
        (planStatefulSet env cluster false o c).replicas = c) := by
  simp only [planStatefulSet, buildPlan_greenfield]
  by_cases hlt : desiredReplicas cluster < c
  · simp only [hlt, if_true]
    cases hleft : (decommission cluster env.kahuna env.pods (c - 1)).1 with
    | true => exact Or.inl rfl
    | false => exact Or.inr ⟨trivial, rfl, rfl⟩
  · simp only [hlt, if_false]
    exact Or.inl trivial

theorem plan_at_target (bootstrapped : Bool) :
    (planStatefulSet env cluster bootstrapped o (desiredReplicas cluster)).replicas =
      desiredReplicas cluster := by
  cases bootstrapped with
  | false =>
      rcases plan_unbootstrapped env cluster o (desiredReplicas cluster) with h | ⟨hlt, _⟩
      · exact h
      · exact absurd hlt (Nat.lt_irrefl _)
  | true =>
      have hsize := (planned_gatedStep env cluster o (desiredReplicas cluster)).size
      omega

/-- A size that was planned is planned again, also when the cluster has become
bootstrapped on the way. -/
theorem plan_again {before after : Bool} (hlatch : before = true → after = true) :
    (planStatefulSet env cluster after o
        (planStatefulSet env cluster before o c).replicas).replicas =
      (planStatefulSet env cluster before o c).replicas := by
  cases before with
  | false =>
      rcases plan_unbootstrapped env cluster o c with
        hplan | ⟨hlt, hrefused, hplan⟩
      · rw [hplan]
        exact plan_at_target env cluster o after
      · rw [hplan]
        have hge := plan_of_refused env cluster o c after hrefused
        cases after with
        | false =>
            rcases plan_unbootstrapped env cluster o c with
              htarget | ⟨_, _, hheld⟩
            · omega
            · exact hheld
        | true =>
            have hsize := (planned_gatedStep env cluster o c).size
            omega
  | true =>
      rw [hlatch rfl]
      by_cases hmoved : (planStatefulSet env cluster true o c).replicas = c
      · rw [hmoved, hmoved]
      · -- the roster is exact at the old size, and so not at the new one
        obtain ⟨m, hm, hexact⟩ := ((planned_gatedStep env cluster o c).gate hmoved).1
        refine planStatefulSet_held ?_
        rintro ⟨m', hm', hexact'⟩
        cases hm.symm.trans hm'
        exact hmoved (hexact'.unique hexact)

theorem reconcileStatefulSet_again {before after : Bool} (hlatch : before = true → after = true)
    (sts : Option StatefulSet) :
    let first := reconcileStatefulSet env cluster before o sts
    let second := reconcileStatefulSet env cluster after o (some first)
    reconcileStatefulSet env cluster after o (some second) = second := by
  intro first second
  have hfirst : (planStatefulSet env cluster after o first.size).replicas = first.size := by
    cases sts with
    | none => exact plan_at_target env cluster o after
    | some s => exact plan_again env cluster o s.size hlatch
  have hsize : second.size = first.size := hfirst
  show applyPlan cluster (planStatefulSet env cluster after o second.size) second = second
  rw [hsize]
  rfl

end Plan

/-! ## The pass -/

def clearedCluster (cluster : KahunaCluster) : KahunaCluster :=
  withAutoscaling cluster none
    (removeStatusCondition cluster.status.conditions .autoscalingLimited)

theorem autoscaled_cleared (env : PassEnv) (h : cluster.spec.autoscaling = none) :
    autoscaled env cluster = .ok (clearedCluster cluster) := by
  simp only [autoscaled, reconcileAutoscaling, h]
  rfl

theorem desiredReplicas_status (h : cluster.spec.autoscaling = none)
    (status : KahunaClusterStatus) :
    desiredReplicas { cluster with status := status } = desiredReplicas cluster := by
  have hsame : desiredReplicas { cluster with status := status } = specReplicas cluster :=
    desiredReplicas_fixed h
  rw [hsame, desiredReplicas_fixed h]

/-- Of a cluster of fixed size, the StatefulSet depends on the spec and the latch. -/
theorem reconcileStatefulSet_status {env : PassEnv} {bootstrapped : Bool} {o : Observed}
    (h : cluster.spec.autoscaling = none) (status : KahunaClusterStatus)
    (sts : Option StatefulSet) :
    reconcileStatefulSet env { cluster with status := status } bootstrapped o sts =
      reconcileStatefulSet env cluster bootstrapped o sts := by
  have hdesired := desiredReplicas_status h status
  cases sts with
  | none => simp only [reconcileStatefulSet, desiredStatefulSet, hdesired]
  | some s =>
      have hbuild : buildPlan { cluster with status := status } s.size bootstrapped o.membership
          o.placement o.placementErr =
            buildPlan cluster s.size bootstrapped o.membership o.placement o.placementErr := by
        simp only [buildPlan, hdesired]
        rfl
      have hplan : planStatefulSet env { cluster with status := status } bootstrapped o s.size =
          planStatefulSet env cluster bootstrapped o s.size := by
        simp only [planStatefulSet, hbuild]
        rfl
      simp only [reconcileStatefulSet, hplan]
      rfl

/-- What a pass reads of the cluster does not depend on the status. -/
theorem observe_status (env : PassEnv) (cluster : KahunaCluster) (status : KahunaClusterStatus) :
    observe env { cluster with status := status } = observe env cluster := by
  have hplaced : ∀ pods e, readPlacement { cluster with status := status } env.kahuna pods e =
      readPlacement cluster env.kahuna pods e := by
    intro pods
    induction pods with
    | nil => exact fun _ => rfl
    | cons pod pods ih =>
        intro e
        have hurl : podBaseURL { cluster with status := status } pod = podBaseURL cluster pod := rfl
        simp only [readPlacement, hurl, ih]
  simp only [observe, placementRead, hplaced]
  rfl

theorem sized_status {env : PassEnv} {base : KahunaCluster} (h : base.spec.autoscaling = none)
    (outer inner : KahunaClusterStatus) (sts : Option StatefulSet) :
    sized env { base with status := outer } { base with status := inner } sts =
      reconcileStatefulSet env base outer.bootstrapped (observe env base) sts := by
  simp only [sized, observe_status]
  exact reconcileStatefulSet_status h inner sts

theorem pinBootstrapSize_eq (cluster : KahunaCluster) :
    ∃ status, pinBootstrapSize cluster = { cluster with status := status } := by
  unfold pinBootstrapSize
  split
  · exact ⟨_, rfl⟩
  · exact ⟨cluster.status, rfl⟩

theorem pin_pinned {base : KahunaCluster} {status : KahunaClusterStatus}
    (h : base.spec.autoscaling = none)
    (hsize : status.bootstrapSize = 0 → desiredReplicas base = 0) :
    pinBootstrapSize { base with status := status } = { base with status := status } := by
  unfold pinBootstrapSize
  split
  · next hzero =>
      rw [desiredReplicas_status h, hsize hzero]
      exact congrArg (fun n => { base with status := { status with bootstrapSize := n } })
        (Eq.symm hzero)
  · rfl

theorem pin_size (cluster : KahunaCluster)
    (h : (pinBootstrapSize cluster).status.bootstrapSize = 0) : desiredReplicas cluster = 0 := by
  unfold pinBootstrapSize at h
  split at h
  · exact h
  · next hne => exact absurd h hne

theorem cleared_reported (base : KahunaCluster) (status : KahunaClusterStatus) :
    clearedCluster { base with
        status := reconcileStatus (clearedCluster { base with status := status }) sts pods
          membership keystore } =
      { base with
        status := reconcileStatus (clearedCluster { base with status := status }) sts pods
          membership keystore } := by
  generalize hs : reconcileStatus (clearedCluster { base with status := status }) sts pods
    membership keystore = s
  have hrecord : s.autoscaling = none := by
    subst hs
    exact (reconcileStatus_frame _ _ _ _ _).2
  have hclean : removeStatusCondition s.conditions .autoscalingLimited = s.conditions := by
    refine List.filter_eq_self.mpr ?_
    intro x hx
    subst hs
    rw [reconcileStatus_phased, withConditions_eq] at hx
    rcases mem_foldl_set hx with hx | hx
    · have htype := List.mem_map_of_mem (f := Condition.type) hx
      rw [passConditions_types] at htype
      revert htype
      cases x.type <;> simp
    · rw [phasedStatus_conditions] at hx
      exact (List.mem_filter.mp hx).2
  simp only [clearedCluster, withAutoscaling, hclean]
  exact congrArg (fun r => { base with status := { s with autoscaling := r } }) hrecord.symm

/-- The cases are disjoint: each says what the pass returns. -/
theorem Passed.eq {inp : PassInput} {w w' : World} (h : Passed inp w w') : pass inp w = w' := by
  cases h with
  | idle hpin => simp [pass, hpin]
  | pinned hpin hconf => simp [pass, hpin, hconf]
  | configured hconf hlost =>
      have hpin := PassInput.reached_mono (p := .pinStatus) (by decide) hconf
      simp only [pass, hpin, hconf, Bool.not_true, Bool.false_eq_true, if_false]
      rcases hlost with hsts | ⟨e, he⟩
      · simp only [hsts, Bool.not_false, if_true]
        split
        · rfl
        · split <;> rfl
      · simp only [he]
        split <;> rfl
  | sized hcl hsts hstatus =>
      have hget := PassInput.reached_mono (p := .getStatefulSet) (by decide) hsts
      have hconf := PassInput.reached_mono (p := .configMap) (by decide) hget
      have hpin := PassInput.reached_mono (p := .pinStatus) (by decide) hconf
      simp only [pass, hpin, hconf, hget, hcl, hsts, hstatus]
      rfl
  | reported hcl hstatus =>
      have hsts := PassInput.reached_mono (p := .writeStatefulSet) (by decide) hstatus
      have hget := PassInput.reached_mono (p := .getStatefulSet) (by decide) hsts
      have hconf := PassInput.reached_mono (p := .configMap) (by decide) hget
      have hpin := PassInput.reached_mono (p := .pinStatus) (by decide) hconf
      simp only [pass, hpin, hconf, hget, hcl, hsts, hstatus]
      rfl

theorem desiredConfigMap_status (h : cluster.spec.autoscaling = none)
    (status : KahunaClusterStatus) (n : Nat) :
    desiredConfigMap { cluster with status := status } n = desiredConfigMap cluster n := by
  simp only [desiredConfigMap, topologyEnv, desiredReplicas_status h]
  rfl

/-- The world with this status and StatefulSet, and the ConfigMap that goes with
the status. -/
def World.withStatus (w : World) (status : KahunaClusterStatus) (sts : Option StatefulSet) :
    World :=
  { w with
    cluster := { w.cluster with status := status }
    config := some (desiredConfigMap w.cluster status.bootstrapSize)
    sts := sts }

/-- The StatefulSet a pass writes over `sts`, under the latch of `status`. -/
def World.nextSts (w : World) (inp : PassInput) (status : KahunaClusterStatus)
    (sts : Option StatefulSet) : StatefulSet :=
  reconcileStatefulSet inp.toPassEnv w.cluster status.bootstrapped
    (observe inp.toPassEnv w.cluster) sts

/-- The status a pass writes over `status`, having written `sts`. -/
def World.nextStatus (w : World) (inp : PassInput) (status : KahunaClusterStatus)
    (sts : StatefulSet) : KahunaClusterStatus :=
  reconcileStatus (clearedCluster { w.cluster with status := status }) (inp.current.getD sts)
    inp.pods (observe inp.toPassEnv w.cluster).membership inp.keystore

section Closed

variable {inp : PassInput} {w : World} {status : KahunaClusterStatus} {sts : Option StatefulSet}

theorem configured_withStatus (sts : Option StatefulSet)
    (hfixed : w.cluster.spec.autoscaling = none)
    (hsize : status.bootstrapSize = 0 → desiredReplicas w.cluster = 0) :
    pinBootstrapSize (w.withStatus status sts).cluster = (w.withStatus status sts).cluster ∧
      configured (w.withStatus status sts) = w.withStatus status sts := by
  have hpin : pinBootstrapSize (w.withStatus status sts).cluster =
      (w.withStatus status sts).cluster := pin_pinned hfixed hsize
  refine ⟨hpin, ?_⟩
  simp only [configured, hpin]
  simp only [World.withStatus, desiredConfigMap_status hfixed]

theorem configured_eq (hfixed : w.cluster.spec.autoscaling = none) :
    ∃ status : KahunaClusterStatus,
      status.bootstrapped = w.cluster.status.bootstrapped ∧
      (status.bootstrapSize = 0 → desiredReplicas w.cluster = 0) ∧
      configured w = w.withStatus status w.sts := by
  obtain ⟨status, hpin⟩ := pinBootstrapSize_eq w.cluster
  refine ⟨status, ?_, ?_, ?_⟩
  · have h := (pinBootstrapSize_status w.cluster).1
    rw [hpin] at h
    exact h
  · intro h
    refine pin_size w.cluster ?_
    rw [hpin]
    exact h
  · simp only [configured, hpin, World.withStatus, desiredConfigMap_status hfixed]

theorem pass_sized (hfixed : w.cluster.spec.autoscaling = none)
    (hsize : status.bootstrapSize = 0 → desiredReplicas w.cluster = 0)
    (hsts : inp.reached .writeStatefulSet = true) (hstatus : inp.reached .writeStatus = false) :
    pass inp (w.withStatus status sts) =
      w.withStatus status (some (w.nextSts inp status sts)) := by
  obtain ⟨hpin, hconf⟩ := configured_withStatus sts hfixed hsize
  have hok : autoscaled inp.toPassEnv (pinBootstrapSize (w.withStatus status sts).cluster) =
      .ok (clearedCluster { w.cluster with status := status }) := by
    rw [hpin]
    exact autoscaled_cleared _ hfixed
  rw [(Passed.sized hok hsts hstatus).eq, hconf, hpin]
  exact congrArg (fun s => w.withStatus status (some s)) (sized_status hfixed status _ sts)

theorem pass_reported (hfixed : w.cluster.spec.autoscaling = none)
    (hsize : status.bootstrapSize = 0 → desiredReplicas w.cluster = 0)
    (hstatus : inp.reached .writeStatus = true) :
    pass inp (w.withStatus status sts) =
      w.withStatus (w.nextStatus inp status (w.nextSts inp status sts))
        (some (w.nextSts inp status sts)) := by
  obtain ⟨hpin, hconf⟩ := configured_withStatus sts hfixed hsize
  have hok : autoscaled inp.toPassEnv (pinBootstrapSize (w.withStatus status sts).cluster) =
      .ok (clearedCluster { w.cluster with status := status }) := by
    rw [hpin]
    exact autoscaled_cleared _ hfixed
  have hsized : sized inp.toPassEnv (w.withStatus status sts).cluster
      (clearedCluster { w.cluster with status := status }) (w.withStatus status sts).sts =
        w.nextSts inp status sts := sized_status hfixed status _ sts
  rw [(Passed.reported hok hstatus).eq, hconf, hpin, hsized]
  have hreported : reported inp (w.withStatus status sts).cluster
      (clearedCluster { w.cluster with status := status }) (w.nextSts inp status sts) =
        w.nextStatus inp status (w.nextSts inp status sts) := by
    have hobs := observe_status inp.toPassEnv w.cluster status
    simp only [reported, World.nextStatus, World.withStatus, hobs]
  have hkept : (w.nextStatus inp status (w.nextSts inp status sts)).bootstrapSize =
      status.bootstrapSize := (reconcileStatus_frame _ _ _ _ _).1
  rw [hreported]
  simp only [World.withStatus, hkept]

/-- A pass that writes the StatefulSet starts by writing what comes before. -/
theorem pass_configured (hfixed : w.cluster.spec.autoscaling = none)
    (hsts : inp.reached .writeStatefulSet = true) : pass inp (configured w) = pass inp w := by
  obtain ⟨status, -, hsize, hconfigured⟩ := configured_eq hfixed
  obtain ⟨hpin, hagain⟩ := configured_withStatus w.sts hfixed hsize
  rw [← hconfigured] at hpin hagain
  have hok : autoscaled inp.toPassEnv (pinBootstrapSize w.cluster) =
      .ok (clearedCluster (pinBootstrapSize w.cluster)) :=
    autoscaled_cleared _ (by rw [pinBootstrapSize_spec]; exact hfixed)
  have hok' : autoscaled inp.toPassEnv (pinBootstrapSize (configured w).cluster) =
      .ok (clearedCluster (pinBootstrapSize w.cluster)) := by
    rw [hpin]
    exact hok
  cases hstatus : inp.reached .writeStatus with
  | false =>
      rw [(Passed.sized hok hsts hstatus).eq, (Passed.sized hok' hsts hstatus).eq, hagain, hpin]
      rfl
  | true =>
      rw [(Passed.reported hok hstatus).eq, (Passed.reported hok' hstatus).eq, hagain, hpin]
      rfl

theorem pass_unsized (hfixed : w.cluster.spec.autoscaling = none)
    (hsts : inp.reached .writeStatefulSet = false) : pass inp (pass inp w) = pass inp w := by
  obtain ⟨status, -, hsize, hconfigured⟩ := configured_eq hfixed
  obtain ⟨hpin, hagain⟩ := configured_withStatus w.sts hfixed hsize
  rw [← hconfigured] at hpin hagain
  have hpassed := pass_passed inp w
  generalize hw : pass inp w = w' at hpassed ⊢
  cases hpassed with
  | idle => exact hw
  | pinned hreached hconf =>
      refine (Passed.pinned hreached hconf).eq.trans ?_
      exact congrArg (fun c => { w with cluster := c }) hpin
  | configured hconf => exact (Passed.configured hconf (Or.inl hsts)).eq.trans hagain
  | sized _ hwrite => rw [hsts] at hwrite; cases hwrite
  | reported _ hwrite =>
      rw [PassInput.not_reached_writeStatus hsts] at hwrite
      cases hwrite

theorem nextSts_congr {s t : KahunaClusterStatus} (h : s.bootstrapped = t.bootstrapped) :
    w.nextSts inp s sts = w.nextSts inp t sts := by
  simp only [World.nextSts, h]

theorem nextSts_again {s t : KahunaClusterStatus}
    (h : s.bootstrapped = true → t.bootstrapped = true) :
    w.nextSts inp t (some (w.nextSts inp t (some (w.nextSts inp s sts)))) =
      w.nextSts inp t (some (w.nextSts inp s sts)) :=
  reconcileStatefulSet_again _ _ _ h sts

theorem nextSts_kept {s : StatefulSet} (h : (w.nextSts inp status (some s)).size = s.size) :
    w.nextSts inp status (some (w.nextSts inp status (some s))) =
      w.nextSts inp status (some s) := by
  generalize hs : w.nextSts inp status (some s) = s' at h ⊢
  simp only [World.nextSts, reconcileStatefulSet, h]
  subst hs
  rfl

theorem nextStatus_again (x : StatefulSet) :
    w.nextStatus inp (w.nextStatus inp status x) x = w.nextStatus inp status x := by
  have hclear : clearedCluster { w.cluster with status := w.nextStatus inp status x } =
      { w.cluster with status := w.nextStatus inp status x } := cleared_reported w.cluster status
  have hagain : reconcileStatus { w.cluster with status := w.nextStatus inp status x }
      (inp.current.getD x) inp.pods (observe inp.toPassEnv w.cluster).membership inp.keystore =
        w.nextStatus inp status x :=
    @reconcileStatus_again (clearedCluster { w.cluster with status := status }) _ _ _ _
  rw [← hclear] at hagain
  exact hagain

theorem nextStatus_bootstrapped (hfixed : w.cluster.spec.autoscaling = none) (x : StatefulSet) :
    (w.nextStatus inp status x).bootstrapped = true ↔
      status.bootstrapped = true ∨
        ∃ r, (observe inp.toPassEnv w.cluster).membership = some r ∧ 0 < r.membershipVersion ∧
          desiredReplicas w.cluster ≤ r.members.countP (·.role == .voter) := by
  have h := reconcileStatus_bootstrapped (clearedCluster { w.cluster with status := status })
    (inp.current.getD x) inp.pods (observe inp.toPassEnv w.cluster).membership inp.keystore
  have hdesired : desiredReplicas (clearedCluster { w.cluster with status := status }) =
      desiredReplicas w.cluster := desiredReplicas_status hfixed _
  rw [hdesired] at h
  exact h

theorem nextStatus_latched (hfixed : w.cluster.spec.autoscaling = none) (x y : StatefulSet) :
    (w.nextStatus inp (w.nextStatus inp status x) y).bootstrapped =
      (w.nextStatus inp status x).bootstrapped := by
  rw [Bool.eq_iff_iff, nextStatus_bootstrapped hfixed y]
  constructor
  · rintro (h | h)
    · exact h
    · exact (nextStatus_bootstrapped hfixed x).mpr (Or.inr h)
  · exact Or.inl

theorem nextStatus_pinned (inp : PassInput)
    (h : status.bootstrapSize = 0 → desiredReplicas w.cluster = 0) (x : StatefulSet) :
    (w.nextStatus inp status x).bootstrapSize = 0 → desiredReplicas w.cluster = 0 := by
  intro hzero
  exact h ((reconcileStatus_frame _ _ _ _ _).1.symm.trans hzero)

end Closed

/-- With the reads unchanged, two passes over a cluster of fixed size do all there
is to do: a third one changes nothing.  One is enough where the StatefulSet was
there and the pass changes neither its size nor the latch. -/
theorem repeated_pass_settles (inp : PassInput) (w : World)
    (hfixed : w.cluster.spec.autoscaling = none) :
    pass inp (pass inp (pass inp w)) = pass inp (pass inp w) ∧
      (w.sts.isSome = true → (pass inp w).size = w.size →
        (pass inp w).cluster.status.bootstrapped = w.cluster.status.bootstrapped →
        pass inp (pass inp w) = pass inp w) := by
  cases hsts : inp.reached .writeStatefulSet with
  | false =>
      have h := pass_unsized hfixed hsts
      exact ⟨congrArg (pass inp) h, fun _ _ _ => h⟩
  | true =>
      obtain ⟨status, hlatch, hsize, hconfigured⟩ := configured_eq hfixed
      rw [← pass_configured hfixed hsts, hconfigured, ← hlatch]
      cases hstatus : inp.reached .writeStatus with
      | false =>
          simp only [pass_sized hfixed hsize hsts hstatus]
          refine ⟨by rw [nextSts_again id], ?_⟩
          intro hsome hkept _
          obtain ⟨s, hs⟩ := Option.isSome_iff_exists.mp hsome
          simp only [World.size, hs] at hkept ⊢
          rw [nextSts_kept hkept]
      | true =>
          rw [pass_reported hfixed hsize hstatus]
          generalize hfirst : w.nextSts inp status w.sts = s₁
          have hsize₁ := nextStatus_pinned inp hsize s₁
          rw [pass_reported hfixed hsize₁ hstatus]
          generalize hsecond : w.nextSts inp (w.nextStatus inp status s₁) (some s₁) = s₂
          have hsize₂ := nextStatus_pinned inp hsize₁ s₂
          rw [pass_reported hfixed hsize₂ hstatus,
            nextSts_congr (nextStatus_latched hfixed s₁ s₂)]
          constructor
          · have hthird : w.nextSts inp (w.nextStatus inp status s₁) (some s₂) = s₂ := by
              rw [← hsecond, ← hfirst]
              refine nextSts_again ?_
              exact fun h => (nextStatus_bootstrapped hfixed _).mpr (Or.inl h)
            rw [hthird, nextStatus_again]
          · intro hsome hkept hlatched
            replace hlatched : (w.nextStatus inp status s₁).bootstrapped = status.bootstrapped :=
              hlatched
            obtain ⟨s, hs⟩ := Option.isSome_iff_exists.mp hsome
            simp only [World.size, hs] at hkept
            rw [hs] at hfirst
            have hsame : s₂ = s₁ := by
              rw [← hsecond, nextSts_congr hlatched, ← hfirst]
              refine nextSts_kept ?_
              rw [hfirst]
              exact hkept
            rw [hsame, nextStatus_again]

/-- Three passes on a roster of five, with a size of four asked for. -/
theorem shrinking_at_rest :
    pass shrinkingPass (pass shrinkingPass (pass shrinkingPass shrinking)) =
      pass shrinkingPass (pass shrinkingPass shrinking) :=
  (repeated_pass_settles shrinkingPass shrinking rfl).1

end KahunaOperator
