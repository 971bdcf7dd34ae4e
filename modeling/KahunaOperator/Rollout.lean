/-
# `KahunaOperator.Rollout` — when a pod may be replaced for a new template

The StatefulSet controller replaces the pods of a changed template on its own,
from the highest ordinal down to the rolling-update partition.  The operator
never replaces a pod; what it has is the partition, which a pass of
`internal/controller/kahunacluster_controller.go` sets to the size while it
waits and to 0 otherwise.

Over every interleaving of passes, edits, pod starts and replacements:

    a pod is replaced  ⟹  the last pass that wrote the StatefulSet was clear
                                                  (`replaced_after_clear_write`)

A write is clear before the bootstrap, or when the roster it read was exactly the
Voters of the size it found and no node it asked to leave had refused.
-/
import KahunaOperator.Removal

namespace KahunaOperator

open Lib (Run Transition Since)

/-! ## The StatefulSet controller -/

/-- The first ordinal that may be replaced; a partition that is not set is 0. -/
def StatefulSet.updateFrom (sts : StatefulSet) : Nat :=
  (sts.rollingUpdate.bind RollingUpdate.partition).getD 0

inductive RolloutEvent where
  | cluster (e : Event)
  | replace (ordinal : Nat)

inductive RolloutStep : World → RolloutEvent → World → Prop
  | cluster {w w' : World} {e : Event} : Step w e w' → RolloutStep w (.cluster e) w'
  | replace {w : World} {sts : StatefulSet} {i : Nat} :
      w.sts = some sts → sts.updateFrom ≤ i → i < sts.size → RolloutStep w (.replace i) w

def World.Rolling (w : World) : Prop := ∃ sts, w.sts = some sts ∧ sts.updateFrom < sts.size

/-! ## Writes of the StatefulSet -/

def Writes (inp : PassInput) (w : World) : Prop :=
  inp.reached .writeStatefulSet = true ∧
    ∃ cl, autoscaled inp.toPassEnv (pinBootstrapSize w.cluster) = .ok cl

/-- Nothing tells the pass to hold the pods back. -/
structure ClearPass (inp : PassInput) (w : World) : Prop where
  roster : RosterExact w.cluster (observe inp.toPassEnv (pinBootstrapSize w.cluster)) w.size
  left : ∀ call ∈ passLeaveCalls inp w, ∃ r, call.2 = .ok r ∧ r.removed = true

def WritesAt (t : Transition World RolloutEvent) : Prop :=
  ∃ inp, t.event = .cluster (.pass inp) ∧ Writes inp t.before

/-- The pass writes the StatefulSet and is clear, or comes before the bootstrap. -/
def ClearAt (t : Transition World RolloutEvent) : Prop :=
  ∃ inp, t.event = .cluster (.pass inp) ∧ Writes inp t.before ∧
    (t.before.sts = none ∨ t.before.cluster.status.bootstrapped = false ∨ ClearPass inp t.before)

/-! ## One pass -/

theorem updateFrom_applyPlan (cluster : KahunaCluster) (p : Plan) (sts : StatefulSet) :
    (applyPlan cluster p sts).updateFrom = p.partition := rfl

/-- A refused leave request freezes the partition at the size, which is held. -/
theorem planStatefulSet_refused {env : PassEnv} {cluster : KahunaCluster} {bootstrapped : Bool}
    {o : Observed} {c : Nat} {call : Nat × Except KahunaError LeaveResult}
    (hcall : call ∈ leaveCalls env cluster bootstrapped o c)
    (hrefused : ∀ r, call.2 = .ok r → r.removed = false) :
    (planStatefulSet env cluster bootstrapped o c).replicas = c ∧
      (planStatefulSet env cluster bootstrapped o c).partition = c := by
  simp only [leaveCalls] at hcall
  split at hcall
  · next hlt =>
      cases htarget : leaveTarget cluster env.pods (c - 1) with
      | none =>
          rw [htarget] at hcall
          cases hcall
      | some pod =>
          simp only [htarget, List.mem_singleton] at hcall
          subst hcall
          have hno : (decommission cluster env.kahuna env.pods (c - 1)).1 = false := by
            simp only [decommission, htarget]
            cases hanswer : env.kahuna.leave (podBaseURL cluster pod) with
            | error e => rfl
            | ok r =>
                simp only [hrefused r hanswer, Bool.false_eq_true, if_false]
                split <;> rfl
          simp only [planStatefulSet, if_pos hlt, hno, Bool.not_false, if_true, and_self]
  · cases hcall

theorem unclear_pass_freezes {inp : PassInput} {w : World} (hwrites : Writes inp w)
    {sts : StatefulSet} (hsts : w.sts = some sts)
    (hboot : w.cluster.status.bootstrapped = true) (hunclear : ¬ClearPass inp w) :
    ¬(pass inp w).Rolling := by
  obtain ⟨hreached, cl, hcl⟩ := hwrites
  have hpin : (pinBootstrapSize w.cluster).status.bootstrapped = true := by
    rw [(pinBootstrapSize_status w.cluster).1]
    exact hboot
  have hwritten := (pass_passed inp w).sts_written hcl hreached
  simp only [sized, reconcileStatefulSet, hsts, hpin] at hwritten
  rintro ⟨sts', hsts', hroll⟩
  cases hwritten.symm.trans hsts'
  rw [updateFrom_applyPlan, applyPlan_size] at hroll
  have hsize := World.size_of_sts hsts
  by_cases hroster : RosterExact w.cluster
      (observe inp.toPassEnv (pinBootstrapSize w.cluster)) w.size
  · -- the roster is exact, so a node has refused to leave
    have hrefused : ∃ call ∈ passLeaveCalls inp w, ∀ r, call.2 = .ok r → r.removed = false := by
      by_contra hnone
      refine hunclear ⟨hroster, ?_⟩
      intro call hcall
      by_contra hno
      refine hnone ⟨call, hcall, ?_⟩
      intro r hr
      cases hremoved : r.removed with
      | true => exact absurd ⟨r, hr, hremoved⟩ hno
      | false => rfl
    obtain ⟨call, hcall, hno⟩ := hrefused
    have hget : inp.reached .getStatefulSet = true :=
      PassInput.reached_mono (q := .writeStatefulSet) (by decide) hreached
    simp only [passLeaveCalls, hget, if_true, hcl, hsts, hpin] at hcall
    obtain ⟨hreplicas, hpartition⟩ := planStatefulSet_refused hcall hno
    omega
  · have hcl' : ¬RosterExact cl (observe inp.toPassEnv (pinBootstrapSize w.cluster)) sts.size := by
      rintro ⟨m, hm, hexact⟩
      refine hroster ⟨m, hm, ?_⟩
      rw [hsize]
      exact (exactVoters_congr (raftEndpoint_autoscaled hcl)).mp hexact
    have hheld := @planStatefulSet_held inp.toPassEnv _ _ _ hcl'
    have hfrozen := (planned_gatedStep inp.toPassEnv cl
      (observe inp.toPassEnv (pinBootstrapSize w.cluster)) sts.size).frozen hcl'
    omega

theorem sts_of_not_writes {inp : PassInput} {w : World} (h : ¬Writes inp w) :
    (pass inp w).sts = w.sts := by
  rcases (pass_passed inp w).sts with hkeep | ⟨cl, hcl, hreached, _⟩
  · exact hkeep
  · exact absurd ⟨hreached, cl, hcl⟩ h

/-! ## A run -/

/-- Where a pod may be replaced, the last write was a clear one. -/
def RollingCleared (past : List (Transition World RolloutEvent)) (w : World) : Prop :=
  w.Rolling → Since ClearAt WritesAt past

theorem rollingCleared_step {past : List (Transition World RolloutEvent)} {a b : World}
    {e : RolloutEvent} (h : RollingCleared past a) (hstep : RolloutStep a e b) :
    RollingCleared (past ++ [⟨a, e, b⟩]) b := by
  -- a step that leaves the StatefulSet alone and is no write
  have hkeep : b.sts = a.sts → ¬WritesAt ⟨a, e, b⟩ → RollingCleared (past ++ [⟨a, e, b⟩]) b := by
    rintro hsts hno ⟨sts, hb, hroll⟩
    exact (h ⟨sts, hsts ▸ hb, hroll⟩).snoc hno
  cases hstep with
  | replace _ _ _ =>
      refine hkeep rfl ?_
      rintro ⟨_, hevent, _⟩
      cases hevent
  | cluster hstep =>
      cases hstep with
      | pass inp =>
          by_cases hwrites : Writes inp a
          · intro hroll
            refine Since.now ⟨inp, rfl, hwrites, ?_⟩
            by_contra hno
            simp only [not_or] at hno
            obtain ⟨hsome, hboot, hunclear⟩ := hno
            obtain ⟨sts, hsts⟩ := Option.ne_none_iff_exists'.mp hsome
            exact unclear_pass_freezes hwrites hsts (by simpa using hboot) hunclear hroll
          · refine hkeep (sts_of_not_writes hwrites) ?_
            rintro ⟨_, hevent, hw⟩
            cases hevent
            exact hwrites hw
      | edit _ =>
          refine hkeep rfl ?_
          rintro ⟨_, hevent, _⟩
          cases hevent
      | start _ _ _ =>
          refine hkeep rfl ?_
          rintro ⟨_, hevent, _⟩
          cases hevent
      | reclaim _ _ _ =>
          refine hkeep rfl ?_
          rintro ⟨_, hevent, _⟩
          cases hevent

/-- Over every run from before the StatefulSet was created: whenever a pod is
replaced, some pass has written the StatefulSet and the last that did was clear. -/
theorem replaced_after_clear_write {w w' : World}
    {ts pre post : List (Transition World RolloutEvent)} {t : Transition World RolloutEvent}
    {i : Nat} (hrun : Run RolloutStep w ts w')
    (hnew : w.sts = none) (hts : ts = pre ++ t :: post) (hreplace : t.event = .replace i) :
    Since ClearAt WritesAt pre := by
  subst hts
  obtain ⟨before, event, after⟩ := t
  cases hreplace
  obtain ⟨hpre, hstep, _⟩ := Run.split hrun
  have hlaw := Run.history (I := RollingCleared) rollingCleared_step hpre [] ?_
  · cases hstep with
    | replace hsts hfrom hlt => exact hlaw ⟨_, hsts, Nat.lt_of_le_of_lt hfrom hlt⟩
  · rintro ⟨sts, hsts, _⟩
    rw [hnew] at hsts
    cases hsts

/-- A new cluster may replace a pod right after its first pass. -/
theorem created_pod_replaced :
    Since ClearAt WritesAt
      [⟨newWorld, RolloutEvent.cluster (.pass creatingPass), bootWorld⟩] := by
  obtain ⟨cl, hcl, hdesired⟩ := autoscaled_fixed creatingPass.toPassEnv
    (show newWorld.cluster.spec.autoscaling = none from rfl)
  have hsts : bootWorld.sts =
      some (sized creatingPass.toPassEnv (pinBootstrapSize newWorld.cluster) cl none) :=
    (pass_passed creatingPass newWorld).sts_written hcl rfl
  refine @replaced_after_clear_write newWorld bootWorld _ _ []
    ⟨bootWorld, .replace 4, bootWorld⟩ 4
    (.cons (.cluster (.pass creatingPass)) (.single (.replace hsts (Nat.zero_le _) ?_))) rfl rfl
    rfl
  show 4 < desiredReplicas cl
  rw [hdesired]
  decide

end KahunaOperator
