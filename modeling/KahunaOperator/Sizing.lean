/-
# `KahunaOperator.Sizing` — one node, or at least three

A standalone node and a Raft cluster keep their data differently, so the CRD
refuses to turn the one into the other.  Its rule compares `spec.replicas`
before and after; the size the operator drives to is `desiredReplicas`, which
under autoscaling is not `spec.replicas`.  Over the runs of the system:

    desiredReplicas is never 2
    desiredReplicas = 1  ⟺  no autoscaling and spec.replicas = 1      (`Sizable.desired_eq_one_iff`)
    a step changes between 1 and more  ⟺  it is an update that adds or
      removes spec.autoscaling while spec.replicas = 1                (`standalone_kept_iff`)

What carries them is one fact about the autoscaler's record: a size it holds is
inside bounds that were accepted, so it is at least three, also after the bounds
or the whole block are edited away (`Sizable`).
-/
import KahunaOperator.Reconcile

namespace KahunaOperator

open Lib (Run Transition)

/-! ## Sizes a cluster can have -/

/-- An accepted spec, and a record that holds no choice or one of at least three. -/
structure Sizable (cluster : KahunaCluster) : Prop where
  accepted : cluster.spec.Accepted
  recorded : ∀ st, cluster.status.autoscaling = some st →
    st.desiredReplicas = 0 ∨ 3 ≤ st.desiredReplicas

theorem initialAutoscaledReplicas_ge (cluster : KahunaCluster) {as : AutoscalingSpec}
    (h : as.Accepted) : 3 ≤ initialAutoscaledReplicas cluster as := by
  obtain ⟨hmin, hmax, _⟩ := h
  unfold initialAutoscaledReplicas
  omega

namespace Sizable

variable {cluster : KahunaCluster}

theorem three_le (h : Sizable cluster) {as : AutoscalingSpec}
    (has : cluster.spec.autoscaling = some as) : 3 ≤ desiredReplicas cluster := by
  have hinitial := initialAutoscaledReplicas_ge cluster (h.accepted.2.2.2.1 as has)
  cases hst : cluster.status.autoscaling with
  | none =>
      rw [desiredReplicas_autoscaled has, hst]
      exact hinitial
  | some st =>
      rcases h.recorded st hst with hzero | hchosen
      · rw [desiredReplicas_autoscaled has, hst]
        simp only [hzero, Nat.lt_irrefl, if_false]
        exact hinitial
      · rw [desiredReplicas_recorded has hst (by omega)]
        exact hchosen

/-- The source's `singleNode` is the size being one. -/
theorem desired_eq_one_iff (h : Sizable cluster) :
    desiredReplicas cluster = 1 ↔ singleNode cluster = true := by
  unfold singleNode
  cases has : cluster.spec.autoscaling with
  | none =>
      rw [desiredReplicas_fixed has]
      simp
  | some as =>
      have hthree := h.three_le has
      constructor
      · intro hone
        omega
      · intro hsingle
        cases hsingle

theorem desired_ne_two (h : Sizable cluster) : desiredReplicas cluster ≠ 2 := by
  cases has : cluster.spec.autoscaling with
  | none =>
      rw [desiredReplicas_fixed has, specReplicas_eq_size]
      exact h.accepted.2.1
  | some as =>
      have hthree := h.three_le has
      omega

theorem autoscaled {env : PassEnv} {cl : KahunaCluster} (h : Sizable cluster)
    (hcl : autoscaled env (pinBootstrapSize cluster) = .ok cl) : Sizable cl := by
  refine ⟨by rw [autoscaled_spec hcl]; exact h.accepted, ?_⟩
  obtain ⟨record, conditions, rfl, hrecord⟩ := autoscaled_ok hcl
  intro st hst
  have hst : record = some st := hst
  cases has : (pinBootstrapSize cluster).spec.autoscaling with
  | none =>
      rw [hrecord.dropped has] at hst
      cases hst
  | some as =>
      obtain ⟨i, hi, _, _, _, hdecided⟩ := hrecord.decided as has
      have hbounds : as.Accepted := by
        rw [pinBootstrapSize_spec] at has
        exact h.accepted.2.2.2.1 as has
      obtain ⟨hmin, _, horder, _⟩ := hbounds
      cases hdecided.symm.trans hst
      have hchosen := decideAutoscale_bounds (c := env.float) (by rw [hi]; exact horder)
      rw [hi] at hchosen
      exact Or.inr (hmin.trans hchosen.1)

theorem pass {w : World} (h : Sizable w.cluster) (inp : PassInput) :
    Sizable (pass inp w).cluster := by
  have hpassed := pass_passed inp w
  refine ⟨by rw [hpassed.frame.1]; exact h.accepted, ?_⟩
  intro st hst
  rcases hpassed.record with hkeep | ⟨cl, hcl, hnew⟩
  · exact h.recorded st (hkeep.symm.trans hst)
  · exact (h.autoscaled hcl).recorded st (hnew.symm.trans hst)

theorem step {a b : World} {e : Event} (h : Sizable a.cluster) (hstep : Step a e b) :
    Sizable b.cluster := by
  have haccepted := accepted_step h.accepted hstep
  cases hstep with
  | edit _ => exact ⟨haccepted, h.recorded⟩
  | pass inp => exact h.pass inp
  | start _ _ _ => exact h
  | reclaim _ _ _ => exact h

end Sizable

theorem Created.sizable {w : World} (h : Created w) : Sizable w.cluster := by
  refine ⟨h.accepted, ?_⟩
  intro st hst
  rw [h.status] at hst
  cases hst

/-! ## Standalone and multi-node -/

theorem singleNode_congr {c₁ c₂ : KahunaCluster} (h : c₁.spec = c₂.spec) :
    singleNode c₁ = singleNode c₂ := by
  simp only [singleNode, specReplicas, h]

/-- An update that adds or removes `spec.autoscaling` of a spec with one replica. -/
def TogglesAutoscaling (t : Transition World Event) : Prop :=
  ∃ spec, t.event = .edit spec ∧ t.before.cluster.spec.size = 1 ∧
    t.before.cluster.spec.autoscaling.isSome ≠ spec.autoscaling.isSome

/-- An accepted update keeps `singleNode` unless it toggles. -/
theorem singleNode_edit_iff {c₁ c₂ : KahunaCluster} (h : c₁.spec.AcceptedUpdate c₂.spec) :
    (singleNode c₁ = true ↔ singleNode c₂ = true) ↔
      ¬ (c₁.spec.size = 1 ∧ c₁.spec.autoscaling.isSome ≠ c₂.spec.autoscaling.isSome) := by
  obtain ⟨_, hone, _⟩ := h
  simp only [singleNode, specReplicas_eq_size, Bool.and_eq_true, beq_iff_eq,
    Option.isNone_iff_eq_none]
  cases c₁.spec.autoscaling <;> cases c₂.spec.autoscaling <;> simp [hone]

/-- The step lemma: only such an update moves `singleNode`. -/
theorem singleNode_step_iff {a b : World} {e : Event} (hstep : Step a e b) :
    (singleNode a.cluster = true ↔ singleNode b.cluster = true) ↔
      ¬ TogglesAutoscaling ⟨a, e, b⟩ := by
  have hkept : a.cluster.spec = b.cluster.spec → (∀ spec, e ≠ .edit spec) →
      ((singleNode a.cluster = true ↔ singleNode b.cluster = true) ↔
        ¬ TogglesAutoscaling ⟨a, e, b⟩) := by
    intro hspec hno
    rw [singleNode_congr hspec]
    refine iff_of_true Iff.rfl ?_
    rintro ⟨spec, hevent, _⟩
    exact hno spec hevent
  cases hstep with
  | @edit spec haccepted =>
      refine Iff.trans (singleNode_edit_iff haccepted) (not_congr ⟨?_, ?_⟩)
      · rintro ⟨hone, htoggle⟩
        exact ⟨spec, rfl, hone, htoggle⟩
      · rintro ⟨spec', hevent, hone, htoggle⟩
        cases hevent
        exact ⟨hone, htoggle⟩
  | pass inp =>
      exact hkept (pass_passed inp a).frame.1.symm (by intro spec hevent; cases hevent)
  | start _ _ _ => exact hkept rfl (by intro spec hevent; cases hevent)
  | reclaim _ _ _ => exact hkept rfl (by intro spec hevent; cases hevent)

/-- Over every run from creation: no state, and no decision of the autoscaler, has
size two; no decision moves between one node and more; and a step moves between
them exactly when it toggles autoscaling of a spec with one replica. -/
theorem standalone_kept_iff {w w' : World} {ts : List (Transition World Event)}
    (hcreated : Created w) (hrun : Run Step w ts w') :
    ∀ t ∈ ts,
      desiredReplicas t.before.cluster ≠ 2 ∧ desiredReplicas t.after.cluster ≠ 2 ∧
      (∀ inp cl, t.event = .pass inp →
        autoscaled inp.toPassEnv (pinBootstrapSize t.before.cluster) = .ok cl →
        desiredReplicas cl ≠ 2 ∧
          (desiredReplicas t.before.cluster = 1 ↔ desiredReplicas cl = 1)) ∧
      ((desiredReplicas t.before.cluster = 1 ↔ desiredReplicas t.after.cluster = 1) ↔
        ¬ TogglesAutoscaling t) := by
  refine Run.forall_mem (I := fun w => Sizable w.cluster) (fun h hs => h.step hs) ?_ hrun
    hcreated.sizable
  intro a e b hsizable hstep
  have hafter := hsizable.step hstep
  refine ⟨hsizable.desired_ne_two, hafter.desired_ne_two, ?_, ?_⟩
  · intro inp cl _ hcl
    have hdecided := hsizable.autoscaled hcl
    refine ⟨hdecided.desired_ne_two, ?_⟩
    rw [hsizable.desired_eq_one_iff, hdecided.desired_eq_one_iff,
      singleNode_congr (autoscaled_spec hcl)]
  · rw [hsizable.desired_eq_one_iff, hafter.desired_eq_one_iff]
    exact singleNode_step_iff hstep

/-! ## Autoscaling added and removed -/

def plainSpec (replicas : Nat) : KahunaClusterSpec := { replicas := some replicas }

def scalingSpec (replicas : Nat) : KahunaClusterSpec :=
  { replicas := some replicas
    replication := some { factor := 3 }
    autoscaling := some { minReplicas := 4, maxReplicas := 6, targetWritesPerSecond := some 100 } }

def createdWith (spec : KahunaClusterSpec) : World :=
  { cluster := { name := "kahuna", ns := "kv", spec := spec } }

def updatedTo (old spec : KahunaClusterSpec) : World :=
  { createdWith old with cluster := { (createdWith old).cluster with
      spec := spec, generation := (createdWith old).cluster.generation + 1 } }

theorem created_createdWith {spec : KahunaClusterSpec} (h : spec.Accepted) :
    Created (createdWith spec) :=
  ⟨h, rfl, rfl, rfl, rfl⟩

theorem update_run (old spec : KahunaClusterSpec) (h : old.AcceptedUpdate spec) :
    Run Step (createdWith old) [⟨createdWith old, .edit spec, updatedTo old spec⟩]
      (updatedTo old spec) :=
  Run.single (.edit h)

/-- With three replicas autoscaling may be added: the size goes from three to four. -/
theorem three_nodes_autoscaled :
    desiredReplicas (createdWith (plainSpec 3)).cluster = 3 ∧
    desiredReplicas (updatedTo (plainSpec 3) (scalingSpec 3)).cluster = 4 ∧
    (desiredReplicas (createdWith (plainSpec 3)).cluster = 1 ↔
      desiredReplicas (updatedTo (plainSpec 3) (scalingSpec 3)).cluster = 1) := by
  have hkept := standalone_kept_iff (created_createdWith (by decide))
    (update_run (plainSpec 3) (scalingSpec 3) (by decide)) _ List.mem_cons_self
  refine ⟨by decide, by decide, hkept.2.2.2.mpr ?_⟩
  rintro ⟨spec, _, hone, _⟩
  exact absurd hone (by decide)

/-- With one replica it may be added and removed as well, and the standalone node
becomes a cluster of four or the cluster a standalone node. -/
theorem one_replica_changes_mode :
    (Created (createdWith (plainSpec 1)) ∧
      Run Step (createdWith (plainSpec 1))
        [⟨createdWith (plainSpec 1), .edit (scalingSpec 1),
          updatedTo (plainSpec 1) (scalingSpec 1)⟩]
        (updatedTo (plainSpec 1) (scalingSpec 1)) ∧
      desiredReplicas (createdWith (plainSpec 1)).cluster = 1 ∧
      desiredReplicas (updatedTo (plainSpec 1) (scalingSpec 1)).cluster = 4) ∧
    (Created (createdWith (scalingSpec 1)) ∧
      Run Step (createdWith (scalingSpec 1))
        [⟨createdWith (scalingSpec 1), .edit (plainSpec 1),
          updatedTo (scalingSpec 1) (plainSpec 1)⟩]
        (updatedTo (scalingSpec 1) (plainSpec 1)) ∧
      desiredReplicas (createdWith (scalingSpec 1)).cluster = 4 ∧
      desiredReplicas (updatedTo (scalingSpec 1) (plainSpec 1)).cluster = 1) :=
  ⟨⟨created_createdWith (by decide), update_run _ _ (by decide), by decide, by decide⟩,
    ⟨created_createdWith (by decide), update_run _ _ (by decide), by decide, by decide⟩⟩

end KahunaOperator
