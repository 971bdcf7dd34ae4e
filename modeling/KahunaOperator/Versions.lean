/-
# `KahunaOperator.Versions` — the roster is a history, and a read is a sample of it

The servers commit one roster after another, each with a higher version; a node
that is asked answers with some version it has, not with the newest one.  Which
node is asked changes with readiness from pass to pass, so the operator sees the
history in no particular order.  Nothing in a pass compares the version it read
with the one it stored:

    every node that answers has caught up with the stored version
      ⟹  the stored version never goes back, and no size is changed on a
          roster older than one an earlier pass stored               (`caught_up_versions`)

One node that lags is enough to break both (`lagging_roster_takes_a_node`): the
operator stores version 6, in which the third node is gone, and then takes the
fifth node away on version 5.
-/
import KahunaOperator.Scale

namespace KahunaOperator

open Lib (Run Transition)

/-! ## The system with its committed rosters -/

/-- The operator's world and the rosters committed so far, newest first. -/
structure Servers where
  world : World
  history : List Membership

def Servers.version (s : Servers) : Int := s.world.cluster.status.membershipVersion

inductive ServersEvent where
  | commit (m : Membership)
  | operator (e : Event)

/-- Every node answers with a committed roster. -/
def AnswersFrom (history : List Membership) (inp : PassInput) : Prop :=
  ∀ url m, inp.kahuna.membership url = .ok m → m ∈ history

inductive ServersStep : Servers → ServersEvent → Servers → Prop
  | commit {s : Servers} {m : Membership} :
      (∀ old ∈ s.history, old.membershipVersion < m.membershipVersion) →
      ServersStep s (.commit m) { s with history := m :: s.history }
  | operator {s : Servers} {e : Event} {w' : World} :
      Step s.world e w' → (∀ inp, e = .pass inp → AnswersFrom s.history inp) →
      ServersStep s (.operator e) { s with world := w' }

/-- Every listed pod that answers in the transition's pass has caught up with the
version in status. -/
def CaughtUp (t : Transition Servers ServersEvent) : Prop :=
  ∀ inp, t.event = .operator (.pass inp) → ∀ p ∈ inp.pods, ∀ m,
    inp.kahuna.membership (podBaseURL t.before.world.cluster p) = .ok m →
    t.before.version ≤ m.membershipVersion

/-! ## Reads in order -/

theorem PassInput.roster_answered {inp : PassInput} {w : World} {m : Membership}
    (h : inp.roster w = some m) :
    ∃ p ∈ inp.pods, inp.kahuna.membership (podBaseURL w.cluster p) = .ok m := by
  have hread : (readMembership (pinBootstrapSize w.cluster) inp.kahuna inp.pods).toOption =
      some m := by
    rw [← h]
    unfold PassInput.roster observe
    split <;> rfl
  cases hr : readMembership (pinBootstrapSize w.cluster) inp.kahuna inp.pods with
  | error e =>
      rw [hr] at hread
      cases hread
  | ok m' =>
      rw [hr] at hread
      cases hread
      obtain ⟨p, hp, hask⟩ := readMembership_ok hr
      refine ⟨p, hp, ?_⟩
      unfold podBaseURL ports at hask ⊢
      rw [pinBootstrapSize_spec] at hask
      exact hask

theorem CaughtUp.le_read {t : Transition Servers ServersEvent} (h : CaughtUp t) {inp : PassInput}
    {m : Membership} (hevent : t.event = .operator (.pass inp))
    (hm : inp.roster t.before.world = some m) : t.before.version ≤ m.membershipVersion := by
  obtain ⟨p, hp, hask⟩ := PassInput.roster_answered hm
  exact h inp hevent p hp m hask

/-- The step lemma: with caught-up nodes the stored version does not go back. -/
theorem CaughtUp.mono {a b : Servers} {e : ServersEvent} (h : CaughtUp ⟨a, e, b⟩)
    (hstep : ServersStep a e b) : a.version ≤ b.version := by
  cases hstep with
  | commit _ => exact le_refl _
  | operator hop _ =>
      cases hop with
      | edit _ => exact le_refl _
      | start _ _ _ => exact le_refl _
      | reclaim _ _ _ => exact le_refl _
      | pass inp =>
          rcases (pass_passed inp a.world).version with hkeep | ⟨m, hm, _, hnew⟩
          · exact hkeep.ge
          · exact (h.le_read rfl hm).trans hnew.ge

/-- Over every run whose passes are answered by caught-up nodes: the version in
status never decreases, and a pass that changes the size read a roster no older
than any version in status before it. -/
theorem caught_up_versions {s s' : Servers} {ts : List (Transition Servers ServersEvent)}
    (hrun : Run ServersStep s ts s') (hcaught : ∀ t ∈ ts, CaughtUp t) :
    (∀ t ∈ ts, t.before.version ≤ t.after.version) ∧
    ∀ pre t post, ts = pre ++ t :: post → ∀ inp m, t.event = .operator (.pass inp) →
      inp.roster t.before.world = some m → t.after.world.size ≠ t.before.world.size →
      t.before.version ≤ m.membershipVersion ∧
        ∀ u ∈ pre, u.after.version ≤ m.membershipVersion := by
  constructor
  · refine Run.forall_mem_of (I := fun _ => True) (fun _ _ _ => trivial) ?_ hrun trivial hcaught
    intro a e b _ hC hstep
    exact hC.mono hstep
  · rintro pre t post rfl inp m hevent hm _
    obtain ⟨hpre, _, _⟩ := Run.split hrun
    have hread := (hcaught t (by simp)).le_read hevent hm
    have hmono := Run.mono_of (fun hC hstep => CaughtUp.mono hC hstep) hpre
      fun u hu => hcaught u (List.mem_append_left _ hu)
    refine ⟨hread, ?_⟩
    intro u hu
    exact (hmono.2 u hu).trans hread

/-! ## A lagging node -/

/-- Version 5: the five founders. -/
def rosterFive : Membership := rosterOf (foundedCluster 5 4) 5 five_small

/-- Version 6: the third node is gone. -/
def rosterSix : Membership :=
  { membershipVersion := 6
    members := [0, 1, 3, 4].map fun i =>
      { endpoint := raftEndpoint (foundedCluster 5 4) i, nodeID := i + 1, role := .voter }
    small := four_small }

def currentPass : PassInput :=
  { agreedEnv (foundedCluster 5 4) 5
      { membership := rosterSix, leave := { outcome := .committed } } with }

theorem currentPass_roster (w : World) : currentPass.roster w = some rosterSix :=
  congrArg Observed.membership (observe_agreedEnv (foundedCluster 5 4) _ 5 _ (by decide))

theorem shrinkingPass_roster (w : World) : shrinkingPass.roster w = some rosterFive :=
  congrArg Observed.membership (observe_agreedEnv (foundedCluster 5 4) _ 5 _ (by decide))

theorem version_stored {inp : PassInput} {w : World} {m : Membership} (hstop : inp.stop = none)
    (hfixed : w.cluster.spec.autoscaling = none) (hm : inp.roster w = some m) :
    (pass inp w).cluster.status.membershipVersion = m.membershipVersion := by
  obtain ⟨cl, hcl, _⟩ := autoscaled_fixed inp.toPassEnv hfixed
  exact (pass_passed inp w).version_written hcl (PassInput.reached_of_stop hstop _) hm

def lagged : Servers := { world := shrinking, history := [rosterSix, rosterFive] }

def warnedWorld : World := pass currentPass shrinking

/-- Four of the five founders are no roster of five, so nothing moves. -/
theorem warnedWorld_sts : ∃ sts, warnedWorld.sts = some sts ∧ sts.size = 5 := by
  obtain ⟨cl, hcl, _⟩ := autoscaled_fixed currentPass.toPassEnv
    (show shrinking.cluster.spec.autoscaling = none from rfl)
  have hwritten := (pass_passed currentPass shrinking).sts_written hcl rfl
  refine ⟨_, hwritten, ?_⟩
  have hheld : (pass currentPass shrinking).size = 5 := by
    by_contra hne
    obtain ⟨m, hm, hexact⟩ := (pass_gated shrinking_sts rfl hcl).roster hne
    cases (currentPass_roster shrinking).symm.trans hm
    have hlength := hexact.length_eq
    simp [rosterSix, StatefulSet.size] at hlength
  exact (World.size_of_sts hwritten).symm.trans hheld

/-- The fifth founder leaves on the newest roster: the stored version goes up. -/
theorem current_roster_takes_a_node :
    (pass shrinkingPass shrinking).size = 4 ∧
      shrinking.cluster.status.membershipVersion ≤
        (pass shrinkingPass shrinking).cluster.status.membershipVersion := by
  have hstep : ServersStep { world := shrinking, history := [rosterFive] }
      (.operator (.pass shrinkingPass))
      { world := pass shrinkingPass shrinking, history := [rosterFive] } := by
    refine .operator (.pass shrinkingPass) ?_
    intro inp hevent url m hask
    cases hevent
    cases hask
    exact List.mem_singleton_self _
  have hversions := (caught_up_versions (Run.single hstep) ?_).1 _ List.mem_cons_self
  · have hroster := exactVoters_rosterOf (foundedCluster 5 4) 5 five_small
    have hpods := someReadyPod_readyPods (foundedCluster 5 4) (n := 5) (by decide)
    exact ⟨settled_pass_size shrinking_sts rfl rfl rfl rfl hpods hroster rfl rfl, hversions⟩
  · intro t ht inp hevent p _ m hask
    cases List.mem_singleton.mp ht
    cases hevent
    cases hask
    decide

/-- Version 6 is stored, and the next pass takes a node on version 5. -/
theorem lagging_roster_takes_a_node :
    Run ServersStep { world := shrinking, history := [] }
      [⟨{ world := shrinking, history := [] }, .commit rosterFive,
          { world := shrinking, history := [rosterFive] }⟩,
        ⟨{ world := shrinking, history := [rosterFive] }, .commit rosterSix, lagged⟩,
        ⟨lagged, .operator (.pass currentPass), { lagged with world := warnedWorld }⟩,
        ⟨{ lagged with world := warnedWorld }, .operator (.pass shrinkingPass),
          { lagged with world := pass shrinkingPass warnedWorld }⟩]
      { lagged with world := pass shrinkingPass warnedWorld } ∧
    warnedWorld.cluster.status.membershipVersion = 6 ∧
    (pass shrinkingPass warnedWorld).cluster.status.membershipVersion = 5 ∧
    shrinkingPass.roster warnedWorld = some rosterFive ∧
    warnedWorld.size = 5 ∧ (pass shrinkingPass warnedWorld).size = 4 := by
  obtain ⟨sts, hsts, hsize⟩ := warnedWorld_sts
  have hpassed := pass_passed currentPass shrinking
  have hspec : warnedWorld.cluster.spec = (foundedCluster 5 4).spec := hpassed.frame.1
  have hfixed : warnedWorld.cluster.spec.autoscaling = none := by
    rw [hspec]
    rfl
  have hboot : warnedWorld.cluster.status.bootstrapped = true :=
    hpassed.bootstrapped.mpr (Or.inl rfl)
  have hendpoint : ∀ i, raftEndpoint warnedWorld.cluster i = raftEndpoint (foundedCluster 5 4) i :=
    raftEndpoint_congr hpassed.frame.2.1 hpassed.frame.2.2.1
      (congrArg KahunaClusterSpec.ports hspec)
  have hroster : ExactVoters warnedWorld.cluster rosterFive sts.size := by
    rw [hsize, exactVoters_congr hendpoint]
    exact exactVoters_rosterOf (foundedCluster 5 4) 5 five_small
  have hpods := someReadyPod_readyPods (foundedCluster 5 4) (n := 5) (by decide)
  have hlowered := settled_pass_size hsts hboot hfixed rfl
    (show shrinkingPass.kahuna = agreedClient _ from rfl) hpods hroster rfl rfl
  refine ⟨.cons (.commit ?_) (.cons (.commit ?_) (.cons (.operator (.pass currentPass) ?_)
    (.cons (.operator (.pass shrinkingPass) ?_) (.nil _)))),
    version_stored rfl rfl (currentPass_roster shrinking),
    version_stored rfl hfixed (shrinkingPass_roster warnedWorld),
    shrinkingPass_roster warnedWorld, (World.size_of_sts hsts).trans hsize, ?_⟩
  · intro old hold
    cases hold
  · intro old hold
    cases List.mem_singleton.mp hold
    decide
  · intro inp hevent url m hask
    cases hevent
    cases hask
    exact List.mem_cons_self
  · intro inp hevent url m hask
    cases hevent
    cases hask
    exact List.mem_cons_of_mem _ List.mem_cons_self
  · rw [hlowered, hsize]
    unfold specReplicas
    rw [hspec]
    rfl

end KahunaOperator
