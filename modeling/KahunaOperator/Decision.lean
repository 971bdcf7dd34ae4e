/-
# `KahunaOperator.Decision` — an autoscaler decision and the write that keeps it

A pass decides in memory, acts on the decision (the leave request and the
StatefulSet write), and only then stores it.  If the last write is lost, the
stored target is the old one, and the next pass grows the cluster back to it.

    the lowering pass stored its decision, or the target
    stored before was already below the size it lowered     ⟹  no later pass regrows it
                                                        (`lowered_not_regrown`)
    otherwise                                               ⟹  the next pass may
                                                        (`lost_status_write_regrows`)

"No later pass" is up to a reason to grow: a later decision that raises the
target, or an edit of `spec.replicas` or of the autoscaling bounds.
-/
import KahunaOperator.Scale

namespace KahunaOperator

open Lib (Run Transition)

/-! ## Reasons to grow -/

/-- What of a spec enters the target: its size and the autoscaling bounds. -/
def KahunaClusterSpec.sizing (spec : KahunaClusterSpec) : Nat × Option (Nat × Nat) :=
  (spec.size, spec.autoscaling.map fun as => (as.minReplicas, as.maxReplicas))

theorem desiredReplicas_of_sizing {c₁ c₂ : KahunaCluster}
    (hspec : c₁.spec.sizing = c₂.spec.sizing)
    (hrecord : c₁.status.autoscaling = c₂.status.autoscaling) :
    desiredReplicas c₁ = desiredReplicas c₂ := by
  obtain ⟨hsize, hbounds⟩ := Prod.mk.inj hspec
  rw [← specReplicas_eq_size, ← specReplicas_eq_size] at hsize
  cases h₁ : c₁.spec.autoscaling with
  | none =>
      cases h₂ : c₂.spec.autoscaling with
      | none => rw [desiredReplicas_fixed h₁, desiredReplicas_fixed h₂, hsize]
      | some as => simp [h₁, h₂] at hbounds
  | some as₁ =>
      cases h₂ : c₂.spec.autoscaling with
      | none => simp [h₁, h₂] at hbounds
      | some as₂ =>
          simp only [h₁, h₂, Option.map_some, Option.some.injEq, Prod.mk.injEq] at hbounds
          rw [desiredReplicas_autoscaled h₁, desiredReplicas_autoscaled h₂, hrecord]
          simp only [initialAutoscaledReplicas, hsize, hbounds.1, hbounds.2]

def RaisesTarget (inp : PassInput) (w : World) : Prop :=
  ∃ cl, autoscaled inp.toPassEnv (pinBootstrapSize w.cluster) = .ok cl ∧
    desiredReplicas w.cluster < desiredReplicas cl

/-- Nothing in the transition asks for more nodes. -/
def Quiet (t : Transition World Event) : Prop :=
  (∀ spec, t.event = .edit spec → spec.sizing = t.before.cluster.spec.sizing) ∧
    ∀ inp, t.event = .pass inp → ¬ RaisesTarget inp t.before

/-- A pass that cannot read the roster holds the target, inside the bounds. -/
theorem autoscaled_unread {env : PassEnv} {cluster cl : KahunaCluster} {as : AutoscalingSpec}
    (has : cluster.spec.autoscaling = some as) (hmin : 0 < as.minReplicas)
    (hbounds : as.minReplicas ≤ as.maxReplicas)
    (hnone : (observe env cluster).membership = none) (hcl : autoscaled env cluster = .ok cl) :
    desiredReplicas cl = min (max (desiredReplicas cluster) as.minReplicas) as.maxReplicas := by
  obtain ⟨i, hi, hspec, hrecord⟩ := autoscaled_input has hcl
  have hunconverged : i.converged = false := by
    rw [hi.converged, hnone]
    simp [autoscaleConverged, rosterConverged, rosterMatches]
  have hstart := start_desired_cluster has hi.spec hi.prev hi.initial
  have hkept := decideAutoscale_not_converged (c := env.float) hunconverged
  rw [desiredReplicas_recorded hspec hrecord (by omega), hkept, hstart]

/-! ## What a stored decision keeps -/

/-- The stored target of a bootstrapped cluster is below `n`. -/
structure Lowered (n : Nat) (w : World) : Prop where
  desired : desiredReplicas w.cluster < n
  bootstrapped : w.cluster.status.bootstrapped = true
  sts : w.sts.isSome = true

theorem pass_sts_isSome {inp : PassInput} {w : World} (h : w.sts.isSome = true) :
    (pass inp w).sts.isSome = true := by
  rcases (pass_passed inp w).sts with hsts | ⟨_, _, _, hsts⟩
  · rw [hsts]
    exact h
  · rw [hsts]
    rfl

/-- A pass that lowers a size `n` and stores its decision leaves the target below
`n`, and so does one that found it there. -/
theorem lowering_pass_lowered {inp : PassInput} {w : World} {n : Nat}
    (hboot : w.cluster.status.bootstrapped = true) (hsize : w.size = n)
    (hdown : (pass inp w).size < n)
    (hkept : inp.reached .writeStatus = true ∨ desiredReplicas w.cluster < n) :
    Lowered n (pass inp w) := by
  obtain ⟨sts, hsts⟩ : ∃ sts, w.sts = some sts := by
    cases h : w.sts with
    | some sts => exact ⟨sts, rfl⟩
    | none =>
        have hzero : w.size = 0 := by
          unfold World.size
          rw [h]
          rfl
        omega
  have hn : sts.size = n := (World.size_of_sts hsts).symm.trans hsize
  refine ⟨?_, (pass_passed inp w).bootstrapped.mpr (Or.inl hboot), ?_⟩
  · cases hcl : autoscaled inp.toPassEnv (pinBootstrapSize w.cluster) with
    | error e =>
        have hsame := pass_panicked hcl
        rw [World.size_of_sts (hsame.trans hsts)] at hdown
        omega
    | ok cl =>
        have htarget : desiredReplicas cl < n := by
          have hgate := (pass_gated hsts hboot hcl).size
          omega
        rcases (pass_passed inp w).desired with ⟨cl', hcl', _, hd⟩ | ⟨hd, hlost⟩
        · cases hcl.symm.trans hcl'
          omega
        · rcases hlost with hlost | ⟨e, he⟩
          · rcases hkept with hkept | hkept
            · rw [hlost] at hkept
              cases hkept
            · omega
          · rw [hcl] at he
            cases he
  · exact pass_sts_isSome (by rw [hsts]; rfl)

/-- The step lemma: a quiet transition keeps the stored target down. -/
theorem Lowered.step {n : Nat} {a b : World} {e : Event} (h : Lowered n a)
    (hquiet : Quiet ⟨a, e, b⟩) (hstep : Step a e b) : Lowered n b := by
  cases hstep with
  | edit _ =>
      refine ⟨?_, h.bootstrapped, h.sts⟩
      have hsame := hquiet.1 _ rfl
      exact lt_of_eq_of_lt (desiredReplicas_of_sizing hsame rfl) h.desired
  | pass inp =>
      refine ⟨?_, (pass_passed inp a).bootstrapped.mpr (Or.inl h.bootstrapped),
        pass_sts_isSome h.sts⟩
      rcases (pass_passed inp a).desired with ⟨cl, hcl, _, hd⟩ | ⟨hd, _⟩
      · have hnot : ¬ desiredReplicas a.cluster < desiredReplicas cl := fun hlt =>
          hquiet.2 inp rfl ⟨cl, hcl, hlt⟩
        have hdesired := h.desired
        omega
      · have hdesired := h.desired
        omega
  | start _ _ _ => exact ⟨h.desired, h.bootstrapped, h.sts⟩
  | reclaim _ _ _ => exact ⟨h.desired, h.bootstrapped, h.sts⟩

theorem Lowered.not_regrown {n : Nat} {a b : World} {e : Event} (h : Lowered n a)
    (hquiet : Quiet ⟨a, e, b⟩) (hstep : Step a e b) : ¬ (a.size < n ∧ n ≤ b.size) := by
  rintro ⟨hbelow, habove⟩
  cases hstep with
  | edit _ => exact absurd habove (Nat.not_le.mpr hbelow)
  | start _ _ _ => exact absurd habove (Nat.not_le.mpr hbelow)
  | reclaim _ _ _ => exact absurd habove (Nat.not_le.mpr hbelow)
  | pass inp =>
      obtain ⟨sts, hsts⟩ := Option.isSome_iff_exists.mp h.sts
      have hsize := World.size_of_sts hsts
      cases hcl : autoscaled inp.toPassEnv (pinBootstrapSize a.cluster) with
      | error e =>
          have hafter := World.size_of_sts ((pass_panicked hcl).trans hsts)
          omega
      | ok cl =>
          have hgate := (pass_gated hsts h.bootstrapped hcl).size
          have hnot : ¬ desiredReplicas a.cluster < desiredReplicas cl := fun hlt =>
            hquiet.2 inp rfl ⟨cl, hcl, hlt⟩
          have hdesired := h.desired
          omega

/-- Over every run: once a pass has lowered a size `n` and its decision is stored,
no later pass raises the size back to `n`, as long as nothing asks for it. -/
theorem lowered_not_regrown {w w' : World} {pre mid post : List (Transition World Event)}
    {low high : Transition World Event} {inp : PassInput} {n : Nat}
    (hrun : Run Step w (pre ++ low :: (mid ++ high :: post)) w')
    (hlow : low.event = .pass inp) (hboot : low.before.cluster.status.bootstrapped = true)
    (hsize : low.before.size = n) (hdown : low.after.size < n)
    (hkept : inp.reached .writeStatus = true ∨ desiredReplicas low.before.cluster < n)
    (hmid : ∀ t ∈ mid, Quiet t) (hhigh : Quiet high) :
    ¬ (high.before.size < n ∧ n ≤ high.after.size) := by
  obtain ⟨_, hstep, hrest⟩ := Run.split hrun
  obtain ⟨_, hstep', _⟩ := Run.split hrest
  have hafter : Lowered n low.after := by
    rw [hlow] at hstep
    rw [hstep.pass_inv] at hdown ⊢
    exact lowering_pass_lowered hboot hsize hdown hkept
  have hbefore : Lowered n high.before :=
    Run.window (fun h hq hs => h.step hq hs) hrun hafter hmid
  exact hbefore.not_regrown hhigh hstep'

/-! ## A status write that is lost -/

def idleCluster : KahunaCluster :=
  { name := "kahuna"
    ns := "kv"
    spec :=
      { replicas := some 4
        replication := some { factor := 3 }
        autoscaling := some { minReplicas := 3, maxReplicas := 6, targetQueueDepth := some 10 } }
    status :=
      { bootstrapped := true
        bootstrapSize := 4
        autoscaling := some { desiredReplicas := 4, belowTargetSince := some 0 } } }

def idleAnswers (n : Nat) (h : n < 2 ^ 31) : Answers :=
  { membership := rosterOf idleCluster n h
    leave := { outcome := .committed }
    placement := some { partitions := [] } }

def idleEnv (n : Nat) (h : n < 2 ^ 31) : PassEnv :=
  { agreedEnv idleCluster 4 (idleAnswers n h) with now := seconds 1000 }

def idlePass (n : Nat) (h : n < 2 ^ 31) (stop : Option Point) : PassInput :=
  { idleEnv n h with stop := stop }

def idleWorld : World := { cluster := idleCluster, sts := some { replicas := some 4 } }

theorem idlePods : SomeReadyPod (readyPods idleCluster 4) :=
  someReadyPod_readyPods idleCluster (by decide)

theorem idleSettled (cluster : KahunaCluster) (c n : Nat) (h : n < 2 ^ 31) :
    Settled cluster (idleAnswers n h).placement c := by
  rintro _ ⟨⟩ part hpart
  cases hpart

theorem idle_observed (cluster : KahunaCluster) (n : Nat) (h : n < 2 ^ 31) :
    observe (idleEnv n h) cluster =
      { membership := some (idleAnswers n h).membership
        placement := (idleAnswers n h).placement, placementErr := none } := by
  have hkahuna : (idleEnv n h).kahuna = agreedClient (idleAnswers n h) := rfl
  exact observe_agreed hkahuna idlePods

theorem idle_decides_three (stop : Option Point) :
    ∃ cl, autoscaled (idlePass 4 (by decide) stop).toPassEnv (pinBootstrapSize idleCluster) =
      .ok cl ∧ desiredReplicas cl = 3 := by
  refine exists_of_toOption_map ?_
  show (autoscaled (idleEnv 4 (by decide)) (pinBootstrapSize idleCluster)).toOption.map _ = _
  simp only [autoscaled, idle_observed]
  decide +kernel

theorem idle_stays_four (stop : Option Point) :
    ∃ cl, autoscaled (idlePass 3 (by decide) stop).toPassEnv (pinBootstrapSize idleCluster) =
      .ok cl ∧ desiredReplicas cl = 4 := by
  refine exists_of_toOption_map ?_
  show (autoscaled (idleEnv 3 (by decide)) (pinBootstrapSize idleCluster)).toOption.map _ = _
  simp only [autoscaled, idle_observed]
  decide +kernel

/-- The lowering pass, whether or not its status write succeeds. -/
theorem idle_lowers {stop : Option Point}
    (h : (idlePass 4 (by decide) stop).reached .writeStatefulSet = true) :
    (pass (idlePass 4 (by decide) stop) idleWorld).size = 3 := by
  obtain ⟨cl, hcl, hdesired⟩ := idle_decides_three stop
  have hsts : idleWorld.sts = some { replicas := some 4 } := rfl
  have hroster := exactVoters_rosterOf idleCluster 4 (by decide)
  have hsize := agreed_pass_size hsts rfl hcl h rfl idlePods hroster
    (idleSettled cl 4 4 (by decide)) rfl
  rw [hsize, hdesired]
  rfl

def idleLowered (stop : Option Point) : World := pass (idlePass 4 four_small stop) idleWorld

def blindPass : PassInput :=
  { pods := [], kahuna := agreedClient (idleAnswers 3 three_small), float := wrappingDouble }

/-- With the decision stored, a pass that cannot even see the roster does not
bring the node back. -/
theorem stored_decision_kept :
    (idleLowered none).size = 3 ∧
    ¬ ((idleLowered none).size < 4 ∧ 4 ≤ (pass blindPass (idleLowered none)).size) := by
  have hthree : (idleLowered none).size = 3 := idle_lowers rfl
  obtain ⟨cl, hcl, hdesired⟩ := idle_decides_three none
  have hpassed := pass_passed (idlePass 4 (by decide) none) idleWorld
  have hstored : desiredReplicas (idleLowered none).cluster = 3 :=
    (hpassed.desired_written hcl rfl).trans hdesired
  have hspec : (pinBootstrapSize (idleLowered none).cluster).spec = idleCluster.spec := by
    rw [pinBootstrapSize_spec]
    exact hpassed.frame.1
  have hquiet : Quiet ⟨idleLowered none, .pass blindPass, pass blindPass (idleLowered none)⟩ := by
    constructor
    · intro spec hevent
      cases hevent
    · rintro inp hevent ⟨cl', hcl', hraised⟩
      cases hevent
      have hheld := autoscaled_unread (congrArg KahunaClusterSpec.autoscaling hspec)
        (by decide) (by decide) (observe_no_pods rfl _) hcl'
      rw [desiredReplicas_pin, hstored] at hheld
      rw [hstored, hheld] at hraised
      exact absurd hraised (by decide)
  have hrun : Run Step idleWorld
      ([] ++ ⟨idleWorld, .pass (idlePass 4 (by decide) none), idleLowered none⟩ ::
        ([] ++ ⟨idleLowered none, .pass blindPass, pass blindPass (idleLowered none)⟩ :: []))
      (pass blindPass (idleLowered none)) :=
    .cons (.pass _) (.cons (.pass _) (.nil _))
  refine ⟨hthree, lowered_not_regrown hrun rfl rfl rfl ?_ (Or.inl rfl) ?_ hquiet⟩
  · exact lt_of_eq_of_lt hthree (by decide)
  · intro t ht
    cases ht

def idleNext : PassInput := idlePass 3 three_small none

theorem idleLowered_run (stop : Option Point) :
    Run Step idleWorld
      ([] ++ ⟨idleWorld, .pass (idlePass 4 (by decide) stop), idleLowered stop⟩ ::
        ([] ++ ⟨idleLowered stop, .pass idleNext, pass idleNext (idleLowered stop)⟩ :: []))
      (pass idleNext (idleLowered stop)) :=
  .cons (.pass _) (.cons (.pass _) (.nil _))

/-- Both the StatefulSet write and the leave request happened; the status write
did not.  The stored target is still four, nothing raises it, and the next pass
puts the fourth node back. -/
theorem lost_status_write_regrows :
    let lost := some Point.writeStatus
    Run Step idleWorld
      ([] ++ ⟨idleWorld, .pass (idlePass 4 (by decide) lost), idleLowered lost⟩ ::
        ([] ++ ⟨idleLowered lost, .pass idleNext, pass idleNext (idleLowered lost)⟩ :: []))
      (pass idleNext (idleLowered lost)) ∧
    idleWorld.cluster.status.bootstrapped = true ∧ idleWorld.size = 4 ∧
    (idleLowered lost).size = 3 ∧
    Quiet ⟨idleLowered lost, .pass idleNext, pass idleNext (idleLowered lost)⟩ ∧
    (pass idleNext (idleLowered lost)).size = 4 := by
  intro lost
  have hthree : (idleLowered lost).size = 3 := idle_lowers rfl
  have hcluster : (idleLowered lost).cluster = idleCluster :=
    (pass_passed (idlePass 4 (by decide) lost) idleWorld).cluster_of_lost rfl (by decide)
  obtain ⟨cl, hcl, hdesired⟩ := idle_stays_four none
  have hcl' : autoscaled idleNext.toPassEnv (pinBootstrapSize (idleLowered lost).cluster) =
      .ok cl := by
    rw [hcluster]
    exact hcl
  refine ⟨idleLowered_run lost, rfl, rfl, hthree, ⟨?_, ?_⟩, ?_⟩
  · intro spec hevent
    cases hevent
  · rintro inp hevent ⟨cl'', hcl'', hraised⟩
    cases hevent
    cases hcl'.symm.trans hcl''
    rw [hcluster, hdesired] at hraised
    exact absurd hraised (by decide)
  · have hsome : (idleLowered lost).sts.isSome = true := pass_sts_isSome rfl
    obtain ⟨sts, hsts⟩ := Option.isSome_iff_exists.mp hsome
    have hsize : sts.size = 3 := (World.size_of_sts hsts).symm.trans hthree
    have hroster : ExactVoters (idleLowered lost).cluster
        (idleAnswers 3 (by decide)).membership sts.size := by
      rw [hcluster, hsize]
      exact exactVoters_rosterOf idleCluster 3 (by decide)
    have hboot : (idleLowered lost).cluster.status.bootstrapped = true := by rw [hcluster]; rfl
    have hnext := agreed_pass_size hsts hboot hcl' rfl rfl idlePods hroster
      (idleSettled cl sts.size 3 (by decide)) rfl
    rw [hsize, hdesired] at hnext
    exact hnext

end KahunaOperator
