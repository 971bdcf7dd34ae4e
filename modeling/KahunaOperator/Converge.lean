/-
# `KahunaOperator.Converge` — a cluster of fixed size gets to its size

The gates of a pass say when a step is *not* taken.  This module is about the
steps that are: over any run in which the size asked for stays the same, with
passes that fail, read nothing, or find the roster in motion in between.

    no pass moves the size away from the target, or past it
    a pass that has nothing to wait for brings it one node nearer
                                                     (`settled_passes_reach_target`)

So the number of settled passes, not their order or what happens between them,
is what a scaling takes.
-/
import KahunaOperator.Scale

namespace KahunaOperator

open Lib (Run Transition)

def World.distance (w : World) : Nat :=
  (w.size - specReplicas w.cluster) + (specReplicas w.cluster - w.size)

/-- A pass that has nothing to wait for: it gets to write the StatefulSet, the
roster is exact, the placement is settled, and a node that has to go is gone. -/
structure SettledPass (inp : PassInput) (w : World) : Prop where
  written : inp.reached .writeStatefulSet = true
  roster : RosterExact w.cluster (observe inp.toPassEnv (pinBootstrapSize w.cluster)) w.size
  readable : (observe inp.toPassEnv (pinBootstrapSize w.cluster)).placementErr = none
  placement : Settled w.cluster (observe inp.toPassEnv (pinBootstrapSize w.cluster)).placement
    w.size
  left : specReplicas w.cluster < w.size →
    (decommission w.cluster inp.kahuna inp.pods (w.size - 1)).1 = true

def SettledAt (t : Transition World Event) : Prop :=
  ∃ inp, t.event = .pass inp ∧ SettledPass inp t.before

/-- A bootstrapped cluster that is asked for `n` nodes and is not autoscaled. -/
structure FixedSize (n : Nat) (w : World) : Prop where
  sts : ∃ sts, w.sts = some sts
  bootstrapped : w.cluster.status.bootstrapped = true
  fixed : w.cluster.spec.autoscaling = none
  target : specReplicas w.cluster = n

def KeepsSize (n : Nat) (t : Transition World Event) : Prop :=
  ∀ spec, t.event = .edit spec → spec.autoscaling = none ∧ spec.size = n

/-! ## One pass -/

/-- What depends on the metadata and the spec is the same for the cluster in
memory. -/
theorem autoscaled_congr {β : Type} (f : KahunaCluster → β)
    (hf : ∀ c status, f { c with status := status } = f c) {env : PassEnv}
    {cluster cl : KahunaCluster} (h : autoscaled env (pinBootstrapSize cluster) = .ok cl) :
    f cl = f cluster := by
  obtain ⟨_, _, rfl, _⟩ := autoscaled_ok h
  have hpin : f (pinBootstrapSize cluster) = f cluster := by
    unfold pinBootstrapSize
    split
    · exact hf _ _
    · rfl
  exact (hf _ _).trans hpin

theorem plan_settled {env : PassEnv} {cluster : KahunaCluster} {o : Observed} {c : Nat}
    (hroster : RosterExact cluster o c) (hreadable : o.placementErr = none)
    (hplacement : Settled cluster o.placement c)
    (hleft : desiredReplicas cluster < c →
      (decommission cluster env.kahuna env.pods (c - 1)).1 = true) :
    (planStatefulSet env cluster true o c).replicas = stepTowards c (desiredReplicas cluster) := by
  obtain ⟨m, hm, hexact⟩ := hroster
  have hbuild : (buildPlan cluster c true o.membership o.placement o.placementErr).replicas =
      stepTowards c (desiredReplicas cluster) := by
    rw [hm, hreadable]
    exact buildPlan_agreed hexact hplacement
  simp only [planStatefulSet]
  split
  · next hlt =>
      have hdown : desiredReplicas cluster < c := by
        have hstep := stepTowards_cases c (desiredReplicas cluster)
        omega
      simp only [hleft hdown, Bool.not_true, Bool.false_eq_true, if_false]
      exact hbuild
  · exact hbuild

theorem settled_pass_steps {inp : PassInput} {w : World} {n : Nat} (h : FixedSize n w)
    (hsettled : SettledPass inp w) : (pass inp w).size = stepTowards w.size n := by
  obtain ⟨sts, hsts⟩ := h.sts
  obtain ⟨cl, hcl, htarget⟩ := autoscaled_fixed inp.toPassEnv h.fixed
  have hsize := World.size_of_sts hsts
  have hroster := hsettled.roster
  have hplacement := hsettled.placement
  have hleft := hsettled.left
  rw [hsize] at hroster hplacement hleft
  rw [h.target] at htarget hleft
  rw [written_size hsts hcl hsettled.written, h.bootstrapped, hsize, ← htarget]
  refine plan_settled ?_ hsettled.readable ?_ ?_
  · have hends := raftEndpoint_autoscaled hcl
    obtain ⟨m, hm, hexact⟩ := hroster
    exact ⟨m, hm, (exactVoters_congr hends).mpr hexact⟩
  · simp only [Settled, raftEndpoint_autoscaled hcl]
    exact hplacement
  · intro hdown
    have hsame := autoscaled_congr (fun c => decommission c inp.kahuna inp.pods (sts.size - 1))
      (fun _ _ => rfl) hcl
    rw [hsame]
    exact hleft (htarget ▸ hdown)

theorem fixed_pass_size (inp : PassInput) {w : World} {n : Nat} (h : FixedSize n w) :
    (pass inp w).size = w.size ∨ ((pass inp w).size = w.size + 1 ∧ w.size + 1 ≤ n) ∨
      (w.size = (pass inp w).size + 1 ∧ max n 1 ≤ (pass inp w).size) := by
  obtain ⟨sts, hsts⟩ := h.sts
  obtain ⟨cl, hcl, htarget⟩ := autoscaled_fixed inp.toPassEnv h.fixed
  have hgated := (pass_gated hsts h.bootstrapped hcl).size
  rw [htarget, h.target] at hgated
  rw [World.size_of_sts hsts]
  exact hgated

/-! ## One step of a run -/

theorem FixedSize.pass {w : World} {n : Nat} (h : FixedSize n w) (inp : PassInput) :
    FixedSize n (KahunaOperator.pass inp w) := by
  have hpassed := pass_passed inp w
  have hspec := hpassed.frame.1
  refine ⟨?_, hpassed.bootstrapped.mpr (Or.inl h.bootstrapped), ?_, ?_⟩
  · rcases hpassed.sts with hkeep | ⟨_, _, _, hwritten⟩
    · rw [hkeep]
      exact h.sts
    · exact ⟨_, hwritten⟩
  · rw [hspec]
    exact h.fixed
  · rw [specReplicas_eq_size, hspec, ← specReplicas_eq_size]
    exact h.target

theorem fixedSize_step {n : Nat} {a b : World} {e : Event} (h : FixedSize n a)
    (hkeeps : KeepsSize n ⟨a, e, b⟩) (hstep : Step a e b) : FixedSize n b := by
  cases hstep with
  | pass inp => exact h.pass inp
  | edit _ =>
      obtain ⟨hfixed, hsize⟩ := hkeeps _ rfl
      exact ⟨h.sts, h.bootstrapped, hfixed, (specReplicas_eq_size _).trans hsize⟩
  | start _ _ _ => exact ⟨h.sts, h.bootstrapped, h.fixed, h.target⟩
  | reclaim _ _ _ => exact ⟨h.sts, h.bootstrapped, h.fixed, h.target⟩

/-- No step leads away from the target, or past it. -/
theorem size_step {n : Nat} {a b : World} {e : Event} (h : FixedSize n a)
    (hstep : Step a e b) :
    b.size = a.size ∨ (b.size = a.size + 1 ∧ a.size + 1 ≤ n) ∨
      (a.size = b.size + 1 ∧ n ≤ b.size) := by
  cases hstep with
  | pass inp =>
      rcases fixed_pass_size inp h with hsame | hup | ⟨hdown, hmax⟩
      · exact Or.inl hsame
      · exact Or.inr (Or.inl hup)
      · exact Or.inr (Or.inr ⟨hdown, (le_max_left n 1).trans hmax⟩)
  | edit _ => exact Or.inl rfl
  | start _ _ _ => exact Or.inl rfl
  | reclaim _ _ _ => exact Or.inl rfl

theorem distance_eq {n : Nat} {w : World} (h : FixedSize n w) :
    w.distance = (w.size - n) + (n - w.size) := by
  rw [World.distance, h.target]

theorem settled_lowers {n : Nat} (hn : 0 < n) {a b : World} {e : Event} (h : FixedSize n a)
    (hb : FixedSize n b) (hsettled : SettledAt ⟨a, e, b⟩) (hstep : Step a e b) :
    b.distance ≤ a.distance - 1 := by
  obtain ⟨inp, rfl, hpass⟩ := hsettled
  have hsize : b.size = stepTowards a.size n := by
    rw [hstep.pass_inv]
    exact settled_pass_steps h hpass
  rw [distance_eq h, distance_eq hb, hsize]
  unfold stepTowards
  split
  · omega
  · split
    · split <;> omega
    · omega

/-! ## A run -/

/-- Over every run of a bootstrapped cluster that is asked for `n` nodes
throughout: the size stays between where it was and `n`, and each settled pass
of the run, wherever it stands in it, brings it one node nearer until it is
there. -/
theorem settled_passes_reach_target {n : Nat} (hn : 0 < n) {w w' : World}
    {ts us : List (Transition World Event)} (hrun : Run Step w ts w') (h₀ : FixedSize n w)
    (hedits : ∀ t ∈ ts, KeepsSize n t) (hus : us.Sublist ts) (hsettled : ∀ t ∈ us, SettledAt t) :
    (min w.size n ≤ w'.size ∧ w'.size ≤ max w.size n) ∧
      w'.distance ≤ w.distance - us.length ∧
      (w.distance ≤ us.length → w'.size = n) := by
  have hkept : FixedSize n w' ∧ min w.size n ≤ w'.size ∧ w'.size ≤ max w.size n := by
    refine Run.inv_of (I := fun b => FixedSize n b ∧ min w.size n ≤ b.size ∧
      b.size ≤ max w.size n) ?_ hrun ⟨h₀, min_le_left _ _, le_max_left _ _⟩ hedits
    rintro a e b ⟨ha, hlow, hhigh⟩ hkeeps hstep
    have hmove := size_step ha hstep
    exact ⟨fixedSize_step ha hkeeps hstep, by omega, by omega⟩
  have hdescend : w'.distance ≤ w.distance - us.length := by
    refine Run.descend (I := FixedSize n) ?_ ?_ hrun h₀ hedits hus hsettled
    · intro a e b ha hkeeps hstep
      have hb := fixedSize_step ha hkeeps hstep
      have hmove := size_step ha hstep
      refine ⟨hb, ?_⟩
      rw [distance_eq ha, distance_eq hb]
      omega
    · intro a e b ha hkeeps hat hstep
      exact settled_lowers hn ha (fixedSize_step ha hkeeps hstep) hat hstep
  refine ⟨hkept.2, hdescend, ?_⟩
  intro henough
  have hend := distance_eq hkept.1
  omega

/-- Five nodes asked to be four: one settled pass. -/
theorem shrinking_reaches_four :
    (min shrinking.size 4 ≤ (pass shrinkingPass shrinking).size ∧
        (pass shrinkingPass shrinking).size ≤ max shrinking.size 4) ∧
      (pass shrinkingPass shrinking).distance ≤ shrinking.distance - 1 ∧
      (shrinking.distance ≤ 1 → (pass shrinkingPass shrinking).size = 4) := by
  have hobserved := observe_agreedEnv (foundedCluster 5 4) (pinBootstrapSize (foundedCluster 5 4))
    5 { membership := rosterOf (foundedCluster 5 4) 5 five_small
        leave := { outcome := .committed } } (by decide)
  refine @settled_passes_reach_target 4 (by decide) _ _ _
    [⟨shrinking, .pass shrinkingPass, pass shrinkingPass shrinking⟩]
    (.single (.pass shrinkingPass)) ⟨⟨_, rfl⟩, rfl, rfl, rfl⟩ ?_ (List.Sublist.refl _) ?_
  · intro t ht spec hevent
    cases List.mem_singleton.mp ht
    cases hevent
  · intro t ht
    cases List.mem_singleton.mp ht
    refine ⟨shrinkingPass, rfl, rfl, ?_, ?_, ?_, ?_⟩
    · exact ⟨_, congrArg Observed.membership hobserved,
        exactVoters_rosterOf (foundedCluster 5 4) 5 five_small⟩
    · exact congrArg Observed.placementErr hobserved
    · have hnone : (observe shrinkingPass.toPassEnv
          (pinBootstrapSize shrinking.cluster)).placement = none :=
        congrArg Observed.placement hobserved
      rw [hnone]
      exact settled_none _ _
    · intro _
      exact decommission_agreed rfl

end KahunaOperator
