/-
# `KahunaOperator.StaleRead` — the two reads of the StatefulSet in a pass

`reconcileStatefulSet` reads the StatefulSet twice through the informer cache:
once to plan, once inside `CreateOrUpdate`.  The update carries the version of
the second read, so the API server's check rejects it when *that* read was
stale.  A stale first read is not caught: the cache may catch up between the
two, and then a size planned for an old version overwrites the current one.

    the reads of every pass show one size  ⟹  every write is planned from what it overwrites
                                                          (`agreeing_reads_write_current_plan`)
    they do not                            ⟹  a size already lowered can be restored
                                                          (`refresh_between_reads_restores_size`)

An update whose object equals the one found is not sent by `CreateOrUpdate`; it
is the round given up here, or a version that differs from the last in nothing.
-/
import KahunaOperator.Agreed
import KahunaOperator.Lib.Versioned

namespace KahunaOperator

open Lib (Run Transition)
open Lib.Versioned (Protocol State Phase PlannedOnOverwritten)

/-- Everything but the StatefulSet that a pass sizes it from: its environment,
the cluster after the autoscaler ran, and what was observed. -/
structure SizingPass where
  env : PassEnv
  cluster : KahunaCluster
  bootstrapped : Bool
  observed : Observed

def SizingPass.plan (e : SizingPass) (size : Nat) : Plan :=
  planStatefulSet e.env e.cluster e.bootstrapped e.observed size

/-- `reconcileStatefulSet` on an existing object: the plan sees the size found
first and is applied to the object found second. -/
def twoReads : Protocol StatefulSet Nat SizingPass Plan where
  view := StatefulSet.size
  plan := SizingPass.plan
  apply := fun e p sts => applyPlan e.cluster p sts

abbrev StsState := State StatefulSet Nat SizingPass

abbrev StsEvent := Lib.Versioned.Event StatefulSet SizingPass

abbrev StsStep : StsState → StsEvent → StsState → Prop := Lib.Versioned.Step twoReads

/-- The second Get of a pass returns an object of the size the first one did. -/
def SameSizeRead (t : Transition StsState StsEvent) : Prop :=
  ∀ e seen, t.event = .fetch → t.before.phase = .planned e seen →
    (t.before.versions t.before.cache).size = seen

/-- In every run whose passes read one size twice, an accepted update writes the
plan for the version it overwrites, so that a bootstrapped cluster moves by at
most one gated step from its current size. -/
theorem agreeing_reads_write_current_plan {s s' : StsState}
    {ts : List (Transition StsState StsEvent)} (hrun : Run StsStep s ts s')
    (hidle : s.phase = .idle) (hcache : s.cache ≤ s.top)
    (hagree : ∀ t ∈ ts, SameSizeRead t) :
    ∀ t ∈ ts, ∀ e seen obj v, t.event = .update → t.before.phase = .fetched e seen obj v →
      t.after.current.size = (e.plan t.before.current.size).replicas ∧
      (e.bootstrapped = true →
        GatedStep e.env e.cluster e.observed t.before.current.size
          (e.plan t.before.current.size)) := by
  have hstart : Lib.Versioned.Consistent twoReads s := by
    refine .of_cache hcache ?_
    intro _ _ _ _ hphase
    rw [hidle] at hphase
    cases hphase
  have hplanned := Lib.Versioned.planned_on_overwritten hrun hstart hagree
  intro t ht e seen obj v hevent hphase
  have hwrite := hplanned t ht e seen obj v hevent hphase
  constructor
  · rw [hwrite]
    rfl
  · intro hboot
    unfold SizingPass.plan
    rw [hboot]
    exact planned_gatedStep e.env e.cluster e.observed t.before.current.size

/-! ## A cache that catches up in the middle of a pass -/

def loweredAnswers : Answers :=
  { membership := rosterOf (foundedCluster 5 3) 3 three_small, leave := { outcome := .committed } }

def loweredPass : SizingPass :=
  let cluster := foundedCluster 5 3
  let env := agreedEnv cluster 3 loweredAnswers
  { env := env, cluster := cluster, bootstrapped := true, observed := observe env cluster }

theorem loweredPass_observed :
    loweredPass.observed =
      { membership := some loweredAnswers.membership, placement := loweredAnswers.placement
        placementErr := none } :=
  observe_agreedEnv (foundedCluster 5 3) (foundedCluster 5 3) 3 loweredAnswers (by decide)

theorem loweredPass_three : (loweredPass.plan 3).replicas = 3 := by
  have hroster := exactVoters_rosterOf (foundedCluster 5 3) 3 (by decide)
  exact plan_agreed rfl loweredPass_observed hroster (settled_none _ 3) rfl

theorem loweredPass_four : (loweredPass.plan 4).replicas = 4 := by
  refine planStatefulSet_held ?_
  rintro ⟨m, hm, hexact⟩
  rw [loweredPass_observed] at hm
  cases hm
  have hroster := exactVoters_rosterOf (foundedCluster 5 3) 3 (by decide)
  exact absurd (hexact.unique hroster) (by decide)

/-- Version 0 has four nodes and version 1, the current one, three; the cache
holds the version given. -/
def loweredState (cache : Nat) : StsState :=
  { versions := fun v => if v = 0 then { replicas := some 4 } else { replicas := some 3 }
    top := 1
    cache := cache
    phase := .idle }

/-- The transitions of one pass: plan, an optional refresh, fetch, update. -/
def planned (cache seen : Nat) : StsState :=
  { loweredState cache with phase := .planned loweredPass seen }

def fetched (seen : Nat) : StsState :=
  { loweredState 1 with phase := .fetched loweredPass seen { replicas := some 3 } 1 }

def updated (seen : Nat) : StsState :=
  { (fetched seen).write (applyPlan loweredPass.cluster (loweredPass.plan seen)
      { replicas := some 3 }) with phase := .idle }

theorem updated_step (seen : Nat) : StsStep (fetched seen) .update (updated seen) :=
  .update rfl

/-- A pass with a fresh cache meets the condition and keeps the size. -/
theorem fresh_pass_keeps_size :
    (updated 3).current.size = (loweredPass.plan (fetched 3).current.size).replicas ∧
    (loweredPass.bootstrapped = true →
      GatedStep loweredPass.env loweredPass.cluster loweredPass.observed (fetched 3).current.size
        (loweredPass.plan (fetched 3).current.size)) := by
  have hrun : Run StsStep (loweredState 1)
      [⟨loweredState 1, .plan loweredPass, planned 1 3⟩, ⟨planned 1 3, .fetch, fetched 3⟩,
        ⟨fetched 3, .update, updated 3⟩] (updated 3) :=
    .cons (.plan loweredPass rfl) (.cons (.fetch rfl) (.cons (updated_step 3) (.nil _)))
  refine agreeing_reads_write_current_plan hrun rfl (Nat.le_refl 1) ?_ _
    (List.mem_cons_of_mem _ (List.mem_cons_of_mem _ List.mem_cons_self)) loweredPass 3
    { replicas := some 3 } 1 rfl rfl
  intro t ht e seen hevent hphase
  rcases List.mem_cons.mp ht with rfl | ht
  · cases hevent
  rcases List.mem_cons.mp ht with rfl | ht
  · cases hphase
    rfl
  rcases List.mem_cons.mp ht with rfl | ht
  · cases hevent
  · cases ht

/-- The cache catches up between the two reads: the update is accepted and puts
back the node that was taken away, which the plan for the current size would
not do. -/
theorem refresh_between_reads_restores_size :
    Run StsStep (loweredState 0)
      [⟨loweredState 0, .plan loweredPass, planned 0 4⟩,
        ⟨planned 0 4, .refresh 1, planned 1 4⟩,
        ⟨planned 1 4, .fetch, fetched 4⟩,
        ⟨fetched 4, .update, updated 4⟩] (updated 4) ∧
    (fetched 4).current.size = 3 ∧ (updated 4).current.size = 4 ∧
    (loweredPass.plan (fetched 4).current.size).replicas = 3 := by
  refine ⟨?_, rfl, ?_, loweredPass_three⟩
  · refine .cons (.plan loweredPass rfl) (.cons (.refresh (Nat.zero_le 1) (Nat.le_refl 1)) ?_)
    exact .cons (.fetch rfl) (.cons (updated_step 4) (.nil _))
  · exact loweredPass_four

end KahunaOperator
