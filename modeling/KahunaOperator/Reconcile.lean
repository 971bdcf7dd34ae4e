/-
# `KahunaOperator.Reconcile` — one pass, and the runs of a cluster

`Reconcile` of `internal/controller/kahunacluster_controller.go`, as a function
on what the API server stores, together with the other things that happen to a
cluster between passes: accepted edits of the spec, starts of pods, and the
reclaiming of volumes.

A pass makes its writes one after the other, and any of them may be rejected or
preceded by a crash.  `PassInput.stop` names the first that does not happen;
nothing after it happens either.

    pinStatus         the founding size            cluster.status
    configMap         script and topology          config
    writeStatefulSet  size, partition, retention   sts
    writeStatus       everything observed          cluster.status

The other points are steps that write none of these four.  `Passed` lists the
five ways a pass can end and `pass_passed` proves the list complete; no later
module unfolds `pass`.
-/
import KahunaOperator.Entrypoint
import KahunaOperator.Lib.Run
import KahunaOperator.Status

namespace KahunaOperator

/-! ## The points of a pass -/

inductive Point where
  | pinStatus
  | keystorePassword
  | certificate
  | services
  | configMap
  | podDisruptionBudget
  | backupResources
  | listPods
  | getStatefulSet
  | writeStatefulSet
  | writeStatus
deriving DecidableEq, Repr

def Point.rank : Point → Nat
  | .pinStatus => 0
  | .keystorePassword => 1
  | .certificate => 2
  | .services => 3
  | .configMap => 4
  | .podDisruptionBudget => 5
  | .backupResources => 6
  | .listPods => 7
  | .getStatefulSet => 8
  | .writeStatefulSet => 9
  | .writeStatus => 10

/-- Everything a pass meets: its environment, where it stops, the StatefulSet as
read back for the status (`none` when that read fails), and the keystore. -/
structure PassInput extends PassEnv where
  stop : Option Point := none
  current : Option StatefulSet := none
  keystore : Bool × String := (true, "")

def PassInput.reached (inp : PassInput) (p : Point) : Bool :=
  match inp.stop with
  | none => true
  | some q => decide (p.rank < q.rank)

theorem PassInput.reached_of_stop {inp : PassInput} (h : inp.stop = none) (p : Point) :
    inp.reached p = true := by
  unfold PassInput.reached
  rw [h]

theorem PassInput.reached_mono {inp : PassInput} {p q : Point} (hpq : p.rank ≤ q.rank)
    (h : inp.reached q = true) : inp.reached p = true := by
  unfold PassInput.reached at h ⊢
  cases hs : inp.stop with
  | none => rfl
  | some r =>
      rw [hs] at h
      simp only [decide_eq_true_eq] at h ⊢
      exact Nat.lt_of_le_of_lt hpq h

theorem PassInput.not_reached_writeStatus {inp : PassInput} {p : Point}
    (h : inp.reached p = false) : inp.reached .writeStatus = false := by
  by_contra hw
  have hmono := PassInput.reached_mono (p := p) (q := .writeStatus)
    (by cases p <;> decide) (by simpa using hw)
  rw [h] at hmono
  cases hmono

/-! ## The pass -/

/-- What outlives a pass.  `hasData` says which ordinals' data directories hold
something. -/
structure World where
  cluster : KahunaCluster
  sts : Option StatefulSet := none
  config : Option ConfigMap := none
  hasData : Nat → Bool := fun _ => false

def World.size (w : World) : Nat := (w.sts.map StatefulSet.size).getD 0

/-- The founding size is set once, from the desired size. -/
def pinBootstrapSize (cluster : KahunaCluster) : KahunaCluster :=
  if cluster.status.bootstrapSize = 0 then
    { cluster with
      status := { cluster.status with bootstrapSize := desiredReplicas cluster } }
  else cluster

def autoscaled (env : PassEnv) (cluster : KahunaCluster) : Except Panic KahunaCluster :=
  let o := observe env cluster
  match reconcileAutoscaling env cluster cluster.status.bootstrapped o.membership o.placement
      o.placementErr with
  | .ok (cl, _) => .ok cl
  | .error e => .error e

def sized (env : PassEnv) (cluster cl : KahunaCluster) (sts : Option StatefulSet) : StatefulSet :=
  reconcileStatefulSet env cl cluster.status.bootstrapped (observe env cluster) sts

def reported (inp : PassInput) (cluster cl : KahunaCluster) (written : StatefulSet) :
    KahunaClusterStatus :=
  reconcileStatus cl (inp.current.getD written) inp.pods
    (observe inp.toPassEnv cluster).membership inp.keystore

/-- A pass, with both of its reads of the StatefulSet returning the stored one.  The
times in the status are stored as they are; the API server keeps whole seconds. -/
def pass (inp : PassInput) (w : World) : World :=
  if !inp.reached .pinStatus then w
  else
    let cluster := pinBootstrapSize w.cluster
    let w₁ := { w with cluster := cluster }
    if !inp.reached .configMap then w₁
    else
      let w₂ := { w₁ with
        config := some (desiredConfigMap cluster cluster.status.bootstrapSize) }
      if !inp.reached .getStatefulSet then w₂
      else
        match autoscaled inp.toPassEnv cluster with
        -- The panic is recovered by the controller runtime; the pass is lost.
        | .error _ => w₂
        | .ok cl =>
            if !inp.reached .writeStatefulSet then w₂
            else
              let sts := sized inp.toPassEnv cluster cl w.sts
              let w₃ := { w₂ with sts := some sts }
              if !inp.reached .writeStatus then w₃
              else
                { w₃ with
                  cluster := { cluster with status := reported inp cluster cl sts } }

def PassInput.roster (inp : PassInput) (w : World) : Option Membership :=
  (observe inp.toPassEnv (pinBootstrapSize w.cluster)).membership

/-- The leave requests the pass sends, with their answers. -/
def passLeaveCalls (inp : PassInput) (w : World) : List (Nat × Except KahunaError LeaveResult) :=
  let cluster := pinBootstrapSize w.cluster
  if inp.reached .getStatefulSet then
    match autoscaled inp.toPassEnv cluster, w.sts with
    | .ok cl, some sts =>
        leaveCalls inp.toPassEnv cl cluster.status.bootstrapped (observe inp.toPassEnv cluster)
          sts.size
    | _, _ => []
  else []

/-! ## What a pass can do -/

def configured (w : World) : World :=
  let cluster := pinBootstrapSize w.cluster
  { w with
    cluster := cluster
    config := some (desiredConfigMap cluster cluster.status.bootstrapSize) }

/-- The five ways a pass ends. -/
inductive Passed (inp : PassInput) (w : World) : World → Prop
  | idle : inp.reached .pinStatus = false → Passed inp w w
  | pinned : inp.reached .pinStatus = true → inp.reached .configMap = false →
      Passed inp w { w with cluster := pinBootstrapSize w.cluster }
  | configured : inp.reached .configMap = true →
      (inp.reached .writeStatefulSet = false ∨
        ∃ e, autoscaled inp.toPassEnv (pinBootstrapSize w.cluster) = .error e) →
      Passed inp w (configured w)
  | sized {cl : KahunaCluster} :
      autoscaled inp.toPassEnv (pinBootstrapSize w.cluster) = .ok cl →
      inp.reached .writeStatefulSet = true → inp.reached .writeStatus = false →
      Passed inp w
        { configured w with
          sts := some (sized inp.toPassEnv (pinBootstrapSize w.cluster) cl w.sts) }
  | reported {cl : KahunaCluster} :
      autoscaled inp.toPassEnv (pinBootstrapSize w.cluster) = .ok cl →
      inp.reached .writeStatus = true →
      Passed inp w
        { configured w with
          sts := some (sized inp.toPassEnv (pinBootstrapSize w.cluster) cl w.sts)
          cluster := { pinBootstrapSize w.cluster with
            status := reported inp (pinBootstrapSize w.cluster) cl
              (sized inp.toPassEnv (pinBootstrapSize w.cluster) cl w.sts) } }

theorem pass_passed (inp : PassInput) (w : World) : Passed inp w (pass inp w) := by
  simp only [pass]
  split
  · next h => exact .idle (by simpa using h)
  · next hpin =>
      split
      · next h => exact .pinned (by simpa using hpin) (by simpa using h)
      · next hconf =>
          have hconf : inp.reached .configMap = true := by simpa using hconf
          split
          · next h =>
              refine .configured hconf (Or.inl ?_)
              by_contra hw
              have hget : inp.reached .getStatefulSet = true :=
                PassInput.reached_mono (q := .writeStatefulSet) (by decide) (by simpa using hw)
              simp [hget] at h
          · split
            · next e he => exact .configured hconf (Or.inr ⟨e, he⟩)
            · next cl hcl =>
                split
                · next h => exact .configured hconf (Or.inl (by simpa using h))
                · next hsts =>
                    split
                    · next h => exact .sized hcl (by simpa using hsts) (by simpa using h)
                    · next h => exact .reported hcl (by simpa using h)

/-! ## Frame lemmas -/

section Frame
variable {inp : PassInput} {w w' : World}

@[simp] theorem pinBootstrapSize_spec (cluster : KahunaCluster) :
    (pinBootstrapSize cluster).spec = cluster.spec := by
  unfold pinBootstrapSize
  split <;> rfl

@[simp] theorem pinBootstrapSize_name (cluster : KahunaCluster) :
    (pinBootstrapSize cluster).name = cluster.name ∧
      (pinBootstrapSize cluster).ns = cluster.ns := by
  unfold pinBootstrapSize
  split <;> exact ⟨rfl, rfl⟩

@[simp] theorem pinBootstrapSize_status (cluster : KahunaCluster) :
    (pinBootstrapSize cluster).status.bootstrapped = cluster.status.bootstrapped ∧
      (pinBootstrapSize cluster).status.autoscaling = cluster.status.autoscaling := by
  unfold pinBootstrapSize
  split <;> exact ⟨rfl, rfl⟩

theorem pinBootstrapSize_of_ne {cluster : KahunaCluster}
    (h : cluster.status.bootstrapSize ≠ 0) : pinBootstrapSize cluster = cluster := by
  unfold pinBootstrapSize
  exact if_neg h

@[simp] theorem desiredReplicas_pin (cluster : KahunaCluster) :
    desiredReplicas (pinBootstrapSize cluster) = desiredReplicas cluster :=
  desiredReplicas_congr (by simp) (by simp) (pinBootstrapSize_status cluster).2

/-- What the autoscaler leaves in memory: the cluster with its own record. -/
theorem autoscaled_ok {env : PassEnv} {cluster cl : KahunaCluster}
    (h : autoscaled env cluster = .ok cl) :
    ∃ record conditions, cl = withAutoscaling cluster record conditions ∧
      DecidedRecord env cluster cluster.status.bootstrapped record := by
  simp only [autoscaled] at h
  split at h
  · next samples hrec =>
      cases h
      exact reconcileAutoscaling_ok hrec
  · cases h

/-- With autoscaling, the record left is the decision on the pass's input. -/
theorem autoscaled_input {env : PassEnv} {cluster cl : KahunaCluster} {as : AutoscalingSpec}
    (has : cluster.spec.autoscaling = some as) (hcl : autoscaled env cluster = .ok cl) :
    ∃ i, StepInput env cluster cluster.status.bootstrapped (observe env cluster).membership
        (observe env cluster).placement (observe env cluster).placementErr as i ∧
      cl.spec.autoscaling = some as ∧
      cl.status.autoscaling = some (decideAutoscale env.float i).status := by
  have hspec : cl.spec.autoscaling = some as := by
    obtain ⟨_, _, rfl, _⟩ := autoscaled_ok hcl
    exact has
  simp only [autoscaled] at hcl
  split at hcl
  · next samples hrec =>
      cases hcl
      obtain ⟨i, hi, hrecord⟩ := reconcileAutoscaling_input has hrec
      exact ⟨i, hi, hspec, hrecord⟩
  · cases hcl

/-- So the target is the one decided, and the decision starts from the stored
target held inside the bounds. -/
theorem autoscaled_decision {env : PassEnv} {cluster cl : KahunaCluster} {as : AutoscalingSpec}
    (has : cluster.spec.autoscaling = some as) (hbounds : as.Accepted)
    (hcl : autoscaled env (pinBootstrapSize cluster) = .ok cl) :
    ∃ i, StepInput env (pinBootstrapSize cluster) cluster.status.bootstrapped
        (observe env (pinBootstrapSize cluster)).membership
        (observe env (pinBootstrapSize cluster)).placement
        (observe env (pinBootstrapSize cluster)).placementErr as i ∧
      i.start.desiredReplicas =
        min (max (desiredReplicas cluster) as.minReplicas) as.maxReplicas ∧
      desiredReplicas cl = (decideAutoscale env.float i).status.desiredReplicas := by
  have hpin : (pinBootstrapSize cluster).spec.autoscaling = some as := by
    rw [pinBootstrapSize_spec]
    exact has
  obtain ⟨i, hi, hspec, hrecord⟩ := autoscaled_input hpin hcl
  rw [(pinBootstrapSize_status cluster).1] at hi
  have hstart := start_desired_cluster hpin hi.spec hi.prev hi.initial
  rw [desiredReplicas_pin] at hstart
  have hchosen := decideAutoscale_bounds (c := env.float) (by rw [hi.spec]; exact hbounds.2.2.1)
  rw [hi.spec] at hchosen
  have hmin := hbounds.1
  refine ⟨i, hi, hstart, desiredReplicas_recorded hspec hrecord ?_⟩
  omega

theorem autoscaled_le_max {env : PassEnv} {cluster cl : KahunaCluster} {as : AutoscalingSpec}
    (has : cluster.spec.autoscaling = some as) (hcl : autoscaled env cluster = .ok cl) :
    desiredReplicas cl ≤ as.maxReplicas := by
  obtain ⟨i, hi, hspec, hrecord⟩ := autoscaled_input has hcl
  have hmax := decideAutoscale_le_max env.float i
  rw [hi.spec] at hmax
  rw [desiredReplicas_autoscaled hspec, hrecord]
  simp only
  split
  · exact hmax
  · exact Nat.min_le_right _ _

/-- Without autoscaling the step cannot fail, and the target is the spec's. -/
theorem autoscaled_fixed (env : PassEnv) {cluster : KahunaCluster}
    (h : cluster.spec.autoscaling = none) :
    ∃ cl, autoscaled env (pinBootstrapSize cluster) = .ok cl ∧
      desiredReplicas cl = specReplicas cluster := by
  have hpin : (pinBootstrapSize cluster).spec.autoscaling = none := by
    rw [pinBootstrapSize_spec]
    exact h
  refine ⟨withAutoscaling (pinBootstrapSize cluster) none (removeStatusCondition
    (pinBootstrapSize cluster).status.conditions .autoscalingLimited), ?_, ?_⟩
  · simp only [autoscaled, reconcileAutoscaling, hpin]
    rfl
  · refine (desiredReplicas_fixed ?_).trans ?_
    · exact hpin
    · simp only [specReplicas, withAutoscaling, pinBootstrapSize_spec]

theorem raftEndpoint_autoscaled {env : PassEnv} {cluster cl : KahunaCluster}
    (h : autoscaled env (pinBootstrapSize cluster) = .ok cl) (i : Nat) :
    raftEndpoint cl i = raftEndpoint cluster i := by
  obtain ⟨_, _, rfl, _⟩ := autoscaled_ok h
  unfold pinBootstrapSize
  split <;> rfl

theorem podName_autoscaled {env : PassEnv} {cluster cl : KahunaCluster}
    (h : autoscaled env (pinBootstrapSize cluster) = .ok cl) (i : Nat) :
    podName cl i = podName cluster i := by
  obtain ⟨_, _, rfl, _⟩ := autoscaled_ok h
  unfold pinBootstrapSize
  split <;> rfl

/-- A pass never touches metadata, spec or volumes. -/
theorem Passed.frame (h : Passed inp w w') :
    w'.cluster.spec = w.cluster.spec ∧ w'.cluster.name = w.cluster.name ∧
      w'.cluster.ns = w.cluster.ns ∧ w'.hasData = w.hasData := by
  have hname := pinBootstrapSize_name w.cluster
  have hspec := pinBootstrapSize_spec w.cluster
  cases h with
  | idle _ => exact ⟨rfl, rfl, rfl, rfl⟩
  | pinned _ _ => exact ⟨hspec, hname.1, hname.2, rfl⟩
  | configured _ _ => exact ⟨hspec, hname.1, hname.2, rfl⟩
  | sized _ _ _ => exact ⟨hspec, hname.1, hname.2, rfl⟩
  | reported _ _ => exact ⟨hspec, hname.1, hname.2, rfl⟩

theorem Passed.sts (h : Passed inp w w') :
    w'.sts = w.sts ∨
      ∃ cl, autoscaled inp.toPassEnv (pinBootstrapSize w.cluster) = .ok cl ∧
        inp.reached .writeStatefulSet = true ∧
        w'.sts =
          some (KahunaOperator.sized inp.toPassEnv (pinBootstrapSize w.cluster) cl w.sts) := by
  cases h with
  | idle _ => exact Or.inl rfl
  | pinned _ _ => exact Or.inl rfl
  | configured _ _ => exact Or.inl rfl
  | sized hcl hw _ => exact Or.inr ⟨_, hcl, hw, rfl⟩
  | reported hcl hs =>
      have hw := PassInput.reached_mono (p := .writeStatefulSet) (by decide) hs
      exact Or.inr ⟨_, hcl, hw, rfl⟩

theorem Passed.config (h : Passed inp w w') :
    w'.config = w.config ∨
      w'.config = some (desiredConfigMap (pinBootstrapSize w.cluster)
        (pinBootstrapSize w.cluster).status.bootstrapSize) := by
  cases h with
  | idle _ => exact Or.inl rfl
  | pinned _ _ => exact Or.inl rfl
  | configured _ _ => exact Or.inr rfl
  | sized _ _ _ => exact Or.inr rfl
  | reported _ _ => exact Or.inr rfl

theorem Passed.config_written (h : Passed inp w w') (hreached : inp.reached .configMap = true) :
    w'.config = some (desiredConfigMap (pinBootstrapSize w.cluster)
      (pinBootstrapSize w.cluster).status.bootstrapSize) := by
  cases h with
  | idle hp =>
      rw [PassInput.reached_mono (p := .pinStatus) (by decide) hreached] at hp
      cases hp
  | pinned _ hp =>
      rw [hreached] at hp
      cases hp
  | configured _ _ => rfl
  | sized _ _ _ => rfl
  | reported _ _ => rfl

theorem Passed.sts_written (h : Passed inp w w') {cl : KahunaCluster}
    (hcl : autoscaled inp.toPassEnv (pinBootstrapSize w.cluster) = .ok cl)
    (hreached : inp.reached .writeStatefulSet = true) :
    w'.sts = some (KahunaOperator.sized inp.toPassEnv (pinBootstrapSize w.cluster) cl w.sts) := by
  have hbefore : ∀ p : Point, p.rank ≤ Point.rank .writeStatefulSet → inp.reached p ≠ false := by
    intro p hrank hp
    rw [PassInput.reached_mono hrank hreached] at hp
    cases hp
  cases h with
  | idle hp => exact absurd hp (hbefore _ (by decide))
  | pinned _ hp => exact absurd hp (hbefore _ (by decide))
  | configured _ hp =>
      rcases hp with hp | ⟨e, he⟩
      · exact absurd hp (hbefore _ (by decide))
      · rw [hcl] at he
        cases he
  | sized hcl' _ _ =>
      cases hcl.symm.trans hcl'
      rfl
  | reported hcl' _ =>
      cases hcl.symm.trans hcl'
      rfl

/-! ## The permanent fields -/

/-- The autoscaler changes its own record and a condition, nothing else. -/
theorem autoscaled_status {env : PassEnv} {cluster cl : KahunaCluster}
    (h : autoscaled env cluster = .ok cl) :
    cl.spec = cluster.spec ∧ cl.status.bootstrapSize = cluster.status.bootstrapSize ∧
      cl.status.bootstrapped = cluster.status.bootstrapped := by
  obtain ⟨_, _, rfl, _⟩ := autoscaled_ok h
  exact ⟨rfl, rfl, rfl⟩

theorem autoscaled_spec {env : PassEnv} {cluster cl : KahunaCluster}
    (h : autoscaled env (pinBootstrapSize cluster) = .ok cl) : cl.spec = cluster.spec :=
  (autoscaled_status h).1.trans (pinBootstrapSize_spec cluster)

theorem reported_frame (inp : PassInput) (cluster cl : KahunaCluster) (written : StatefulSet) :
    (reported inp cluster cl written).bootstrapSize = cl.status.bootstrapSize ∧
      (reported inp cluster cl written).autoscaling = cl.status.autoscaling :=
  reconcileStatus_frame cl _ _ _ _

theorem reported_version (inp : PassInput) (w : World) (cl : KahunaCluster)
    (written : StatefulSet) :
    (reported inp (pinBootstrapSize w.cluster) cl written).membershipVersion =
      ((inp.roster w).map Membership.membershipVersion).getD cl.status.membershipVersion :=
  reconcileStatus_version cl _ _ _ _

/-- The founding size is kept, or pinned to the desired size if there was none. -/
theorem Passed.bootstrapSize (h : Passed inp w w') :
    w'.cluster.status.bootstrapSize = w.cluster.status.bootstrapSize ∨
      (w.cluster.status.bootstrapSize = 0 ∧
        w'.cluster.status.bootstrapSize = desiredReplicas w.cluster) := by
  have hpin : (pinBootstrapSize w.cluster).status.bootstrapSize = w.cluster.status.bootstrapSize ∨
      (w.cluster.status.bootstrapSize = 0 ∧
        (pinBootstrapSize w.cluster).status.bootstrapSize = desiredReplicas w.cluster) := by
    unfold pinBootstrapSize
    split
    · next hzero => exact Or.inr ⟨hzero, rfl⟩
    · exact Or.inl rfl
  cases h with
  | idle _ => exact Or.inl rfl
  | pinned _ _ => exact hpin
  | configured _ _ => exact hpin
  | sized _ _ _ => exact hpin
  | @reported cl hcl _ =>
      have hkeep : ∀ written,
          (KahunaOperator.reported inp (pinBootstrapSize w.cluster) cl written).bootstrapSize =
            (pinBootstrapSize w.cluster).status.bootstrapSize := fun written =>
        (reported_frame inp (pinBootstrapSize w.cluster) cl written).1.trans
          (autoscaled_status hcl).2.1
      simp only [hkeep]
      exact hpin

theorem Passed.bootstrapSize_pinned (h : Passed inp w w')
    (hreached : inp.reached .pinStatus = true) :
    w'.cluster.status.bootstrapSize = (pinBootstrapSize w.cluster).status.bootstrapSize := by
  cases h with
  | idle hp =>
      rw [hreached] at hp
      cases hp
  | pinned _ _ => rfl
  | configured _ _ => rfl
  | sized _ _ _ => rfl
  | @reported cl hcl _ =>
      exact (reported_frame inp (pinBootstrapSize w.cluster) cl _).1.trans
        (autoscaled_status hcl).2.1

/-- The ConfigMap and the pinned size move together: a pass that leaves the one
may have pinned the other for the first time, and one that renders it has
pinned it. -/
theorem Passed.rendered (h : Passed inp w w') :
    (w'.config = w.config ∧
        (w'.cluster.status.bootstrapSize = w.cluster.status.bootstrapSize ∨
          w.cluster.status.bootstrapSize = 0)) ∨
      (w'.config = some (desiredConfigMap (pinBootstrapSize w.cluster)
          (pinBootstrapSize w.cluster).status.bootstrapSize) ∧
        w'.cluster.status.bootstrapSize =
          (pinBootstrapSize w.cluster).status.bootstrapSize) := by
  cases h with
  | idle _ => exact Or.inl ⟨rfl, Or.inl rfl⟩
  | pinned _ _ =>
      refine Or.inl ⟨rfl, ?_⟩
      by_cases hzero : w.cluster.status.bootstrapSize = 0
      · exact Or.inr hzero
      · left
        rw [pinBootstrapSize_of_ne hzero]
  | configured _ _ => exact Or.inr ⟨rfl, rfl⟩
  | sized _ _ _ => exact Or.inr ⟨rfl, rfl⟩
  | @reported cl hcl _ =>
      exact Or.inr ⟨rfl, (reported_frame inp (pinBootstrapSize w.cluster) cl _).1.trans
        (autoscaled_status hcl).2.1⟩

/-- The latch is set after a pass when it was before, or when the pass wrote its
status and read a seeded roster with enough Voters. -/
theorem Passed.bootstrapped (h : Passed inp w w') :
    w'.cluster.status.bootstrapped = true ↔
      w.cluster.status.bootstrapped = true ∨
        ∃ cl m, autoscaled inp.toPassEnv (pinBootstrapSize w.cluster) = .ok cl ∧
          inp.reached .writeStatus = true ∧
          (observe inp.toPassEnv (pinBootstrapSize w.cluster)).membership = some m ∧
          0 < m.membershipVersion ∧
          desiredReplicas cl ≤ m.members.countP (·.role == .voter) := by
  have hpin := (pinBootstrapSize_status w.cluster).1
  have hearly : ∀ b : Bool, b = w.cluster.status.bootstrapped →
      (inp.reached .writeStatus = false ∨
        ∃ e, autoscaled inp.toPassEnv (pinBootstrapSize w.cluster) = .error e) →
      (b = true ↔ w.cluster.status.bootstrapped = true ∨
        ∃ cl m, autoscaled inp.toPassEnv (pinBootstrapSize w.cluster) = .ok cl ∧
          inp.reached .writeStatus = true ∧
          (observe inp.toPassEnv (pinBootstrapSize w.cluster)).membership = some m ∧
          0 < m.membershipVersion ∧
          desiredReplicas cl ≤ m.members.countP (·.role == .voter)) := by
    rintro b rfl hstop
    refine ⟨Or.inl, ?_⟩
    rintro (hb | ⟨cl, m, hcl, hreach, _⟩)
    · exact hb
    · rcases hstop with hstop | ⟨e, he⟩
      · rw [hstop] at hreach
        cases hreach
      · rw [hcl] at he
        cases he
  cases h with
  | idle hp => exact hearly _ rfl (Or.inl (PassInput.not_reached_writeStatus hp))
  | pinned _ hp => exact hearly _ hpin (Or.inl (PassInput.not_reached_writeStatus hp))
  | configured _ hp =>
      rcases hp with hp | he
      · exact hearly _ hpin (Or.inl (PassInput.not_reached_writeStatus hp))
      · exact hearly _ hpin (Or.inr he)
  | sized _ _ hp => exact hearly _ hpin (Or.inl hp)
  | @reported cl hcl hreach =>
      have hlatch := reconcileStatus_bootstrapped cl
        (inp.current.getD
          (KahunaOperator.sized inp.toPassEnv (pinBootstrapSize w.cluster) cl w.sts))
        inp.pods (observe inp.toPassEnv (pinBootstrapSize w.cluster)).membership inp.keystore
      rw [(autoscaled_status hcl).2.2, hpin] at hlatch
      refine hlatch.trans (or_congr_right ?_)
      constructor
      · rintro ⟨m, hm, hv, hcount⟩
        exact ⟨cl, m, hcl, hreach, hm, hv, hcount⟩
      · rintro ⟨cl', m, hcl', _, hm, hv, hcount⟩
        cases hcl.symm.trans hcl'
        exact ⟨m, hm, hv, hcount⟩

theorem Passed.record (h : Passed inp w w') :
    w'.cluster.status.autoscaling = w.cluster.status.autoscaling ∨
      ∃ cl, autoscaled inp.toPassEnv (pinBootstrapSize w.cluster) = .ok cl ∧
        w'.cluster.status.autoscaling = cl.status.autoscaling := by
  have hpin := (pinBootstrapSize_status w.cluster).2
  cases h with
  | idle _ => exact Or.inl rfl
  | pinned _ _ => exact Or.inl hpin
  | configured _ _ => exact Or.inl hpin
  | sized _ _ _ => exact Or.inl hpin
  | @reported cl hcl _ =>
      exact Or.inr ⟨cl, hcl, (reported_frame inp (pinBootstrapSize w.cluster) cl _).2⟩

theorem Passed.version (h : Passed inp w w') :
    w'.cluster.status.membershipVersion = w.cluster.status.membershipVersion ∨
      ∃ m, inp.roster w = some m ∧ inp.reached .writeStatus = true ∧
        w'.cluster.status.membershipVersion = m.membershipVersion := by
  have hpin : (pinBootstrapSize w.cluster).status.membershipVersion =
      w.cluster.status.membershipVersion := by
    unfold pinBootstrapSize
    split <;> rfl
  cases h with
  | idle _ => exact Or.inl rfl
  | pinned _ _ => exact Or.inl hpin
  | configured _ _ => exact Or.inl hpin
  | sized _ _ _ => exact Or.inl hpin
  | @reported cl hcl hreached =>
      have hversion := reported_version inp w cl
        (KahunaOperator.sized inp.toPassEnv (pinBootstrapSize w.cluster) cl w.sts)
      cases hm : inp.roster w with
      | none =>
          have hkeep : cl.status.membershipVersion =
              (pinBootstrapSize w.cluster).status.membershipVersion := by
            obtain ⟨_, _, rfl, _⟩ := autoscaled_ok hcl
            rfl
          refine Or.inl (hversion.trans ?_)
          rw [hm]
          exact hkeep.trans hpin
      | some m =>
          refine Or.inr ⟨m, rfl, hreached, hversion.trans ?_⟩
          rw [hm]
          rfl

theorem Passed.status_written (h : Passed inp w w') {cl : KahunaCluster}
    (hcl : autoscaled inp.toPassEnv (pinBootstrapSize w.cluster) = .ok cl)
    (hreached : inp.reached .writeStatus = true) :
    w'.cluster.status = KahunaOperator.reported inp (pinBootstrapSize w.cluster) cl
      (KahunaOperator.sized inp.toPassEnv (pinBootstrapSize w.cluster) cl w.sts) := by
  have hno : ∀ p : Point, inp.reached p ≠ false := by
    intro p hp
    rw [PassInput.not_reached_writeStatus hp] at hreached
    cases hreached
  cases h with
  | idle hp => exact absurd hp (hno _)
  | pinned _ hp => exact absurd hp (hno _)
  | configured _ hp =>
      rcases hp with hp | ⟨e, he⟩
      · exact absurd hp (hno _)
      · rw [hcl] at he
        cases he
  | sized _ _ hp => exact absurd hp (hno _)
  | reported hcl' _ =>
      cases hcl.symm.trans hcl'
      rfl

theorem Passed.version_written (h : Passed inp w w') {cl : KahunaCluster} {m : Membership}
    (hcl : autoscaled inp.toPassEnv (pinBootstrapSize w.cluster) = .ok cl)
    (hreached : inp.reached .writeStatus = true) (hm : inp.roster w = some m) :
    w'.cluster.status.membershipVersion = m.membershipVersion := by
  rw [h.status_written hcl hreached, reported_version inp w cl, hm]
  rfl

/-- The size the stored cluster is driven to: the autoscaler's new choice when
the status was written, and the old one exactly when it was not. -/
theorem Passed.desired (h : Passed inp w w') :
    (∃ cl, autoscaled inp.toPassEnv (pinBootstrapSize w.cluster) = .ok cl ∧
        inp.reached .writeStatus = true ∧
        desiredReplicas w'.cluster = desiredReplicas cl) ∨
      (desiredReplicas w'.cluster = desiredReplicas w.cluster ∧
        (inp.reached .writeStatus = false ∨
          ∃ e, autoscaled inp.toPassEnv (pinBootstrapSize w.cluster) = .error e)) := by
  have hpin := desiredReplicas_pin w.cluster
  cases h with
  | idle hp => exact Or.inr ⟨rfl, Or.inl (PassInput.not_reached_writeStatus hp)⟩
  | pinned _ hp => exact Or.inr ⟨hpin, Or.inl (PassInput.not_reached_writeStatus hp)⟩
  | configured _ hp =>
      refine Or.inr ⟨hpin, ?_⟩
      rcases hp with hp | he
      · exact Or.inl (PassInput.not_reached_writeStatus hp)
      · exact Or.inr he
  | sized _ _ hp => exact Or.inr ⟨hpin, Or.inl hp⟩
  | @reported cl hcl hreach =>
      refine Or.inl ⟨cl, hcl, hreach, ?_⟩
      have hspec := (autoscaled_status hcl).1
      exact desiredReplicas_congr (congrArg KahunaClusterSpec.replicas hspec.symm)
        (congrArg KahunaClusterSpec.autoscaling hspec.symm)
        (reported_frame inp (pinBootstrapSize w.cluster) cl _).2

theorem Passed.desired_written (h : Passed inp w w') {cl : KahunaCluster}
    (hcl : autoscaled inp.toPassEnv (pinBootstrapSize w.cluster) = .ok cl)
    (hreached : inp.reached .writeStatus = true) :
    desiredReplicas w'.cluster = desiredReplicas cl := by
  rcases h.desired with ⟨cl', hcl', _, hd⟩ | ⟨_, hlost | ⟨e, he⟩⟩
  · cases hcl.symm.trans hcl'
    exact hd
  · rw [hreached] at hlost
    cases hlost
  · rw [hcl] at he
    cases he

/-- A pass that loses its status write leaves a pinned cluster as it was stored. -/
theorem Passed.cluster_of_lost (h : Passed inp w w') (hlost : inp.reached .writeStatus = false)
    (hpinned : w.cluster.status.bootstrapSize ≠ 0) : w'.cluster = w.cluster := by
  have hpin := pinBootstrapSize_of_ne hpinned
  cases h with
  | idle _ => rfl
  | pinned _ _ => exact hpin
  | configured _ _ => exact hpin
  | sized _ _ _ => exact hpin
  | reported _ hreach =>
      rw [hlost] at hreach
      cases hreach

end Frame

/-! ## Runs -/

inductive Event where
  | edit (spec : KahunaClusterSpec)
  | pass (inp : PassInput)
  /-- A pod starts: its ordinal, the roster committed at that moment, its
  password file, what it was launched with, whether it came to write data. -/
  | start (ordinal : Nat) (roster : Membership) (password : Option String) (launch : Launch)
      (wrote : Bool)
  /-- Kubernetes deletes the volume of an ordinal that was scaled away. -/
  | reclaim (ordinal : Nat)

def World.setData (w : World) (ordinal : Nat) (b : Bool) : World :=
  { w with hasData := fun i => if i = ordinal then b else w.hasData i }

inductive Step : World → Event → World → Prop
  | edit {w : World} {spec : KahunaClusterSpec} :
      w.cluster.spec.AcceptedUpdate spec →
      Step w (.edit spec)
        { w with cluster := { w.cluster with
            spec := spec, generation := w.cluster.generation + 1 } }
  | pass {w : World} (inp : PassInput) : Step w (.pass inp) (pass inp w)
  | start {w : World} {i : Nat} {roster : Membership} {password : Option String}
      {launch : Launch} {wrote : Bool} {cm : ConfigMap} :
      i < w.size → w.config = some cm →
      entrypoint cm.script (some cm.topology) (podName w.cluster i) (!w.hasData i) password =
        .ok launch →
      Step w (.start i roster password launch wrote) (w.setData i (w.hasData i || wrote))
  | reclaim {w : World} {i : Nat} {sts : StatefulSet} :
      w.sts = some sts → sts.whenScaled = .delete → sts.size ≤ i →
      Step w (.reclaim i) (w.setData i false)

theorem Step.pass_inv {w w' : World} {inp : PassInput} (h : Step w (.pass inp) w') :
    w' = KahunaOperator.pass inp w := by
  cases h with
  | pass inp => rfl

theorem accepted_step {a b : World} {e : Event} (h : a.cluster.spec.Accepted)
    (hstep : Step a e b) : b.cluster.spec.Accepted := by
  cases hstep with
  | edit haccepted => exact haccepted.1
  | pass inp =>
      rw [(pass_passed inp a).frame.1]
      exact h
  | start _ _ _ => exact h
  | reclaim _ _ _ => exact h

/-- A cluster just created: an accepted spec and nothing else. -/
structure Created (w : World) : Prop where
  accepted : w.cluster.spec.Accepted
  status : w.cluster.status = {}
  sts : w.sts = none
  config : w.config = none
  hasData : w.hasData = fun _ => false

end KahunaOperator
